import PropertyGate.Proofs.Json.Numerals
import PropertyGate.Proofs.Json.Passing
import PropertyGate.Proofs.Patch.Dispatch
import PropertyGate.Proofs.Property.Documents
import PropertyGate.Proofs.Property.Filing

/-!
# Proofs/Property/Keys — the keys of a result that is read from a text

A result that changes led to files every patch under the id of its group.  A text may list a patch
under any key, and **what is read is filed as it is listed** (`decode_eq_ok_iff`), whatever the ids say.
To collect the patches of a result anew files each of them under the id of its group, and of several
patches of one group the one under the greatest key stays (`get?_recollected_eq_some_iff`); so it gives
the same result just if every patch was filed so before (`recollected_eq_iff`).  A text in which such a
result is written is read as such a result (`keyed_as_listed`); other texts need not be
(`misfiledText_is_misfiled`).
-/

namespace PropertyGate

open Json (ReadsMembers maxDepth skipBlanks)

/-! ## What a text lists -/

namespace Json

variable {α : Type} {member : Decoder α}

/-- **A document lists these members**: it is an object, and they are read in it one by one. -/
def Lists (member : Decoder α) (document : Bytes) (listed : List (String × α)) : Prop :=
  ∃ inside rest, skipBlanks document = byte '{' :: inside ∧
    ReadsMembers (member (document.length + 1) 126) (document.length + 1) (document.length + 1)
      true inside listed rest ∧
    skipBlanks rest = []

/-- **A map is read from the documents that list its members**, and they are filed in their order. -/
theorem decode_map_eq_ok_iff {document : Bytes} {map : TextMap α} :
    decode (Decoder.map member) document = .ok map ↔
      ∃ listed, Lists member document listed ∧ map = TextMap.ofList listed := by
  constructor
  · intro decoded
    obtain ⟨inside, members, rest, lead, read, ended, rfl⟩ := exists_members_of_decode_map decoded
    obtain ⟨listed, rfl, reads⟩ := members_eq_ok_iff.1 read
    exact ⟨listed, ⟨inside, rest, lead, reads, ended⟩, by simp⟩
  · rintro ⟨listed, ⟨inside, rest, lead, reads, ended⟩, rfl⟩
    have read : Decoder.members (member (document.length + 1) 126) (document.length + 1)
        (document.length + 1) [] true inside = .ok (listed.reverse ++ [], rest) :=
      members_eq_ok_iff.2 ⟨listed, rfl, reads⟩
    have opened : Decoder.map member (document.length + 1) maxDepth document =
        .ok (TextMap.ofList listed, rest) := by
      refine (compound_of_lead lead (if_pos rfl)).trans ?_
      simp [maxDepth, read]
    rw [decode, opened]
    simp [ended]

end Json

namespace PatchResult

variable {result : PatchResult} {text : Bytes} {listed : List (String × GroupPatch)}
  {key id : String} {patch : GroupPatch}

/-- **The patch that is listed last under a key.** -/
def lastListed? (listed : List (String × GroupPatch)) (key : String) : Option GroupPatch :=
  ((listed.filter (·.1 = key)).getLast?).map Prod.snd

theorem get?_ofList (listed : List (String × GroupPatch)) (key : String) :
    (TextMap.ofList listed).get? key = lastListed? listed key := by
  induction listed using List.reverseRecOn with
  | nil => rfl
  | append_singleton listed entry ih =>
    rw [TextMap.ofList_concat, TextMap.get?_insert, ih, lastListed?, lastListed?,
      List.filter_append]
    by_cases same : entry.1 = key <;> simp [same]

theorem decode_eq (text : Bytes) :
    Json.decode decoder text =
      (Json.decode (Json.Decoder.map GroupPatch.decoder) text).map PatchResult.mk := by
  rw [Json.decode, Json.decode, decoder]
  rcases Json.Decoder.map GroupPatch.decoder (text.length + 1) maxDepth text with _ | ⟨_, rest⟩
  · rfl
  · dsimp only [Except.map]
    cases skipBlanks rest <;> rfl

/-- **What is read is filed as it is listed**: under every key stands what is listed there last. -/
theorem decode_eq_ok_iff :
    Json.decode decoder text = .ok result ↔
      ∃ listed, Json.Lists GroupPatch.decoder text listed ∧
        ∀ key, result.get? key = lastListed? listed key := by
  rw [decode_eq, map_eq_ok_iff]
  constructor
  · rintro ⟨groups, decoded, rfl⟩
    obtain ⟨listed, lists, rfl⟩ := Json.decode_map_eq_ok_iff.1 decoded
    exact ⟨listed, lists, get?_ofList listed⟩
  · rintro ⟨listed, lists, filed⟩
    refine ⟨_, Json.decode_map_eq_ok_iff.2 ⟨listed, lists, rfl⟩, ext_get? fun key => ?_⟩
    exact (get?_ofList listed key).trans (filed key).symm

/-! ## Collecting anew -/

/-- **The patches of a result, taken out and collected anew.** -/
def recollected (result : PatchResult) : PatchResult := collect (result.toList.map Prod.snd)

theorem KeyedById.recollected_eq (keyed : result.KeyedById) : result.recollected = result := by
  have own : ∀ entry ∈ result.toList, (entry.2.group.id, entry.2) = entry := fun entry mem =>
    Prod.ext (keyed entry mem).symm rfl
  have listed : result.toList.map (fun entry => (entry.2.group.id, entry.2)) = result.toList :=
    (List.map_congr_left own).trans (List.map_id _)
  have ids : (result.toList.map Prod.snd).map (·.group.id) = result.groups.keys := by
    rw [List.map_map]
    exact List.map_congr_left fun entry mem => (keyed entry mem).symm
  refine ext_toList ?_
  rw [recollected, toList_collect (ids ▸ result.groups.pairwise_keys), List.map_map]
  exact listed

/-- **A result is collected anew as it was just if every patch is filed under its own id.** -/
theorem recollected_eq_iff : result.recollected = result ↔ result.KeyedById :=
  ⟨fun same => same ▸ keyedById_collect _, KeyedById.recollected_eq⟩

/-- Collected anew, the patches of a group are looked for from the last key to the first. -/
theorem get?_recollected (result : PatchResult) (id : String) :
    result.recollected.get? id = result.toList.reverse.findSome? fun entry =>
      if entry.2.group.id = id then some entry.2 else none := by
  rw [recollected]
  induction result.toList using List.reverseRecOn with
  | nil => rfl
  | append_singleton entries entry ih =>
    rw [List.map_append, List.map_singleton, collect_concat, get?_insert, ih, List.reverse_concat,
      List.findSome?_cons]
    split <;> simp [*]

/-- **Collected anew, a group has the patch of it that stood under the greatest key.** -/
theorem get?_recollected_eq_some_iff :
    result.recollected.get? id = some patch ↔
      ∃ key, result.get? key = some patch ∧ patch.group.id = id ∧
        ∀ other patch', result.get? other = some patch' → patch'.group.id = id → other ≤ key := by
  have ascending : result.toList.Pairwise fun entry other => entry.1 < other.1 :=
    result.groups.ascending
  rw [get?_recollected, findSome?_reverse_eq_some_iff_greatest Prod.fst ascending]
  constructor
  · rintro ⟨⟨key, _⟩, mem, found, last⟩
    obtain ⟨own, ⟨⟩⟩ := Option.ite_none_right_eq_some.1 found
    refine ⟨key, TextMap.mem_entries_iff.1 mem, own, fun other patch' listed same => ?_⟩
    refine String.not_lt.1 fun later => ?_
    have skipped := last (other, patch') (TextMap.mem_entries_iff.2 listed) later
    exact Option.some_ne_none patch' ((if_pos same).symm.trans skipped)
  · rintro ⟨key, listed, own, greatest⟩
    refine ⟨(key, patch), TextMap.mem_entries_iff.2 listed, if_pos own, fun other mem later => ?_⟩
    refine if_neg fun same => String.not_lt.2 ?_ later
    exact greatest other.1 other.2 (TextMap.mem_entries_iff.1 mem) same

/-! ## Reading -/

/-- **The keys of a result are those under which its patches were filed or listed.**

* After any changes every patch is filed under the id of its group, and to collect the patches anew
  gives the same result.
* What is read from a text is filed as it is listed there.  To collect it anew gives the same result
  just if whatever is listed last under a key has that key as the id of its group; of several patches
  of one group the one under the greatest key stays.
* A result that files every patch under the id of its group is read as such from every text in which
  it is written, if its numbers are integers of 64 bits and it nests no deeper than a document may. -/
theorem keyed_as_listed (changes : List Change) (result : PatchResult) :
    ((ofChanges changes).KeyedById ∧ (ofChanges changes).recollected = ofChanges changes) ∧
    (∀ text, Json.decode decoder text = .ok result →
      ∃ listed, Json.Lists GroupPatch.decoder text listed ∧
        (∀ key, result.get? key = lastListed? listed key) ∧
        (result.KeyedById ↔
          ∀ key patch, lastListed? listed key = some patch → patch.group.id = key) ∧
        (result.recollected = result ↔ result.KeyedById) ∧
        ∀ id patch, result.recollected.get? id = some patch ↔
          ∃ key, lastListed? listed key = some patch ∧ patch.group.id = id ∧
            ∀ other patch', lastListed? listed other = some patch' → patch'.group.id = id →
              other ≤ key) ∧
    ∀ written, result.KeyedById → result.Whole → result.toJson.depth ≤ maxDepth →
      result.toJson.Reordered written →
        Json.decode decoder written.bytes = .ok result ∧ result.recollected = result := by
  refine ⟨?_, fun text decoded => ?_, fun written keyed whole fits same => ?_⟩
  · have keyed : (ofChanges changes).KeyedById := by
      rw [ofChanges_eq_collect]
      exact keyedById_collect _
    exact ⟨keyed, keyed.recollected_eq⟩
  · obtain ⟨listed, lists, filed⟩ := decode_eq_ok_iff.1 decoded
    refine ⟨listed, lists, filed, ?_, recollected_eq_iff, fun id patch => ?_⟩
    · simp only [keyedById_iff, filed]
    · simp only [get?_recollected_eq_some_iff, filed]
  · exact ⟨(takes whole fits).decode same, keyed.recollected_eq⟩

/-- A patch of the group `g2` with one value. -/
def listedPatch : GroupPatch := ⟨⟨"g2", "n"⟩, TextMap.ofList [("x", .number (.integer 1))]⟩

/-- A patch of `g1` is listed under `g2`, and then gives way to the patch of `g2`. -/
def relistedText : Bytes :=
  Utf8.encode <|
    "\x7b\"g2\":\x7b\"group\":\x7b\"id\":\"g1\",\"name\":\"n\"\x7d,\"values\":\x7b\x7d\x7d," ++
    "\"g2\":\x7b\"group\":\x7b\"id\":\"g2\",\"name\":\"n\"\x7d,\"values\":\x7b\"x\":1\x7d\x7d\x7d"

/-- Only what is listed last under a key counts; what is read is read again from its own text. -/
theorem relistedText_is_keyed :
    let result := collect [listedPatch]
    Json.decode decoder relistedText = .ok result ∧
      (∃ listed, Json.Lists GroupPatch.decoder relistedText listed ∧
        lastListed? listed "g2" = some listedPatch) ∧
      result.KeyedById ∧ Json.decode decoder result.toJson.bytes = .ok result := by
  intro result
  obtain ⟨-, read, written⟩ := keyed_as_listed [.insert listedPatch] result
  have decoded : Json.decode decoder relistedText = .ok result := by rfl
  obtain ⟨listed, lists, filed, -⟩ := read _ decoded
  have keyed : result.KeyedById := keyedById_collect _
  have number : Json.Plain 0 (.number (.integer 1)) := .integer ⟨by decide, by decide⟩
  have whole : result.Whole := List.forall_mem_singleton.2 (List.forall_mem_singleton.2 ⟨0, number⟩)
  exact ⟨decoded, ⟨listed, lists, (filed "g2").symm⟩, keyed,
    (written _ keyed whole (by decide) (.refl _)).1⟩

/-- A patch of `g2` is listed under `g1`. -/
def misfiledText : Bytes :=
  Utf8.encode
    "\x7b\"g1\":\x7b\"group\":\x7b\"id\":\"g2\",\"name\":\"n\"\x7d,\"values\":\x7b\"x\":1\x7d\x7d\x7d"

def misfiled : PatchResult := ⟨TextMap.ofList [("g1", listedPatch)]⟩

/-- **What is read need not be filed under its own id**, and is then collected anew as another
result. -/
theorem misfiledText_is_misfiled :
    Json.decode decoder misfiledText = .ok misfiled ∧ ¬ misfiled.KeyedById ∧
      misfiled.recollected = collect [listedPatch] ∧ misfiled.recollected ≠ misfiled := by
  have misfiles : ¬ misfiled.KeyedById := fun keyed =>
    absurd (keyedById_iff.1 keyed "g1" listedPatch rfl) (by decide)
  exact ⟨by rfl, misfiles, rfl, fun same => misfiles (recollected_eq_iff.1 same)⟩

end PatchResult

end PropertyGate
