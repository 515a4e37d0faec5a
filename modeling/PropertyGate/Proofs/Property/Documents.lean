import PropertyGate.Api.Error
import PropertyGate.Definitions.Seed
import PropertyGate.Flagging.Settings
import PropertyGate.Proofs.Json.Records

/-!
# Proofs/Property/Documents — typed documents survive their text

A typed value survives its text (`Survives`) if it is decoded from whatever text it is written as,
and what is decoded is written as the same document, up to the order of members.  Fields, groups and
the errors that clients see are records of texts, switches and numbers; the settings of content
flagging nest lists, maps and other records in them.  Patches hold values of any form: they survive
**if every number in them is an integer of 64 bits, and they nest no deeper than a document may**
(`GroupPatch.takes`, `PatchResult.takes`).
-/

namespace PropertyGate

open Json

/-! ## Records -/

section Records

variable {depth : Nat}

namespace Group

theorem takes (group : Group) : decoder.Takes (depth + 1) group.toJson group := by
  have writes : Shape.Writes depth shape.members _ :=
    .needed (takes_text group.id) (.needed (takes_text group.name) .nil)
  exact takes_record writes (by decide) (by simp [Part.Commutes]) rfl

end Group

namespace Field

theorem takes (field : Field) : decoder.Takes (depth + 1) field.toJson field := by
  obtain ⟨id, groupId, name⟩ := field
  cases name with
  | none =>
    have writes : Shape.Writes depth shape.members _ :=
      .needed (takes_text id) (.needed (takes_text groupId) (.absent .nil))
    exact takes_record writes (by decide) (by simp [Part.Commutes]) rfl
  | some name =>
    have writes : Shape.Writes depth shape.members _ :=
      .needed (takes_text id) (.needed (takes_text groupId)
        (.defaulted (takes_optional_text name) .nil))
    exact takes_record writes (by decide) (by simp [Part.Commutes]) rfl

end Field

namespace Seed

theorem takes (seed : Seed) : decoder.Takes (depth + 3) seed.toJson seed := by
  have writes : Shape.Writes (depth + 2) shape.members _ :=
    .defaulted (takes_list seed.groups (fun group _ => group.takes) fun _ _ => nofun)
      (.defaulted (takes_list seed.fields (fun field _ => field.takes) fun _ _ => nofun) .nil)
  exact takes_record writes (by decide) (by simp [Part.Commutes]) rfl

end Seed

namespace ErrorBody

theorem takes (body : ErrorBody) : decoder.Takes (depth + 1) body.toJson body := by
  obtain ⟨kind, message, status, offendingId⟩ := body
  cases offendingId with
  | none =>
    have writes : Shape.Writes depth shape.members _ :=
      .needed (takes_text kind) (.needed (takes_text message)
        (.needed (takes_uint16 status) (.absent .nil)))
    exact takes_record writes (by decide) (by simp [Part.Commutes]) rfl
  | some offendingId =>
    have writes : Shape.Writes depth shape.members _ :=
      .needed (takes_text kind) (.needed (takes_text message)
        (.needed (takes_uint16 status) (.defaulted (takes_optional_text offendingId) .nil)))
    exact takes_record writes (by decide) (by simp [Part.Commutes]) rfl

end ErrorBody

namespace TeamFlaggingStatus

theorem takes (status : TeamFlaggingStatus) :
    decoder.Takes (depth + 1) status.toJson status := by
  have writes : Shape.Writes depth shape.members _ :=
    .needed (takes_text status.teamId) (.needed (takes_bool status.enabled) .nil)
  exact takes_record writes (by decide) (by simp [Part.Commutes]) rfl

end TeamFlaggingStatus

theorem takes_texts (texts : List String) :
    (Decoder.list Decoder.text).Takes (depth + 1) (.array (texts.map Value.text)) texts :=
  takes_list texts (fun text _ => takes_text text) fun _ _ => nofun

namespace TeamReviewers

theorem takes (team : TeamReviewers) : decoder.Takes (depth + 2) team.toJson team := by
  have writes : Shape.Writes (depth + 1) shape.members _ :=
    .defaulted (takes_bool team.enabled) (.defaulted (takes_texts team.reviewerIds) .nil)
  exact takes_record writes (by decide) (by simp [Part.Commutes]) rfl

end TeamReviewers

namespace ReviewerSettings

theorem takes (reviewers : ReviewerSettings) :
    decoder.Takes (depth + 4) reviewers.toJson reviewers := by
  have writes : Shape.Writes (depth + 3) shape.members _ :=
    .defaulted (takes_bool reviewers.common) (.defaulted (takes_texts reviewers.commonIds)
      (.defaulted (takes_map reviewers.teams fun entry _ => entry.2.takes)
        (.defaulted (takes_bool reviewers.teamAdmins)
          (.defaulted (takes_bool reviewers.systemAdmins) .nil))))
  exact takes_record writes (by decide) (by simp [Part.Commutes]) rfl

end ReviewerSettings

namespace FlaggingSettings

theorem takes (settings : FlaggingSettings) :
    decoder.Takes (depth + 5) settings.toJson settings := by
  have writes : Shape.Writes (depth + 4) shape.members _ :=
    .defaulted (takes_bool settings.enabled) (.defaulted (takes_bool settings.featureFlag)
      (.defaulted settings.reviewers.takes .nil))
  exact takes_record writes (by decide) (by simp [Part.Commutes]) rfl

end FlaggingSettings

end Records

/-! ## Patches -/

/-- **Values whose numbers are integers of 64 bits**, at any level. -/
def Values.Whole (values : Values) : Prop := ∀ entry ∈ values.entries, ∃ depth, Plain depth entry.2

/-- The values of every group are whole. -/
def PatchResult.Whole (result : PatchResult) : Prop :=
  ∀ entry ∈ result.groups.entries, Values.Whole entry.2.values

section Patches

variable {depth limit : Nat}

theorem Values.takes {values : Values} (plain : ∀ entry ∈ values.entries, Plain depth entry.2) :
    Decoder.Takes Values.decoder (depth + 1) (Values.toJson values) values := by
  have same : Values.toJson values = .object (values.mapValues fun _ value => value).entries :=
    congrArg Value.object (List.map_id _).symm
  rw [same]
  exact takes_map values fun entry mem => takes_value (plain entry mem)

namespace GroupPatch

/-- **A patch of one group is taken** where it is let nest as deep as it does. -/
theorem takes {patch : GroupPatch} (whole : Values.Whole patch.values)
    (fits : patch.toJson.depth ≤ limit) : decoder.Takes limit patch.toJson patch := by
  have nests : max 1 (Value.membersDepth patch.values.entries + 1) + 1 ≤ limit := by
    simpa [toJson, Group.toJson, Values.toJson, Value.depth, Value.membersDepth] using fits
  obtain ⟨depth, rfl⟩ : ∃ depth, limit = depth + 2 := ⟨limit - 2, by omega⟩
  have plain : ∀ entry ∈ patch.values.entries, Plain depth entry.2 := by
    intro entry mem
    obtain ⟨_, plain⟩ := whole entry mem
    have inside := Value.depth_le_membersDepth mem
    exact plain.of_depth_le (by omega)
  have writes : Shape.Writes (depth + 1) shape.members _ :=
    .needed patch.group.takes (.needed (Values.takes plain) .nil)
  exact takes_record writes (by decide) (by simp [Part.Commutes]) rfl

end GroupPatch

namespace PatchResult

/-- **A resolved patch is taken** where it is let nest as deep as it does. -/
theorem takes {result : PatchResult} (whole : result.Whole) (fits : result.toJson.depth ≤ limit) :
    Decoder.Takes decoder limit result.toJson result := by
  obtain ⟨depth, rfl⟩ := Nat.exists_eq_succ_of_ne_zero (Nat.ne_zero_of_lt fits)
  refine (takes_map result.groups fun entry mem => ?_).image PatchResult.mk
  refine GroupPatch.takes (whole entry mem) ?_
  have listed : (entry.1, entry.2.toJson) ∈
      (result.groups.mapValues fun _ patch => patch.toJson).entries := List.mem_map_of_mem mem
  exact Nat.le_trans (Value.depth_le_membersDepth listed) (Nat.le_of_succ_le_succ fits)

end PatchResult

end Patches

/-! ## From text and back -/

/-- **A typed value survives its text**: from each text in which it is written it is decoded again,
and each text in which what is decoded is written again is the same document up to the order of
members. -/
def Survives {α : Type} (toJson : α → Value) (decoder : Decoder α) (a : α) : Prop :=
  ∀ written, (toJson a).Reordered written →
    ∃ decoded, Json.decode decoder written.bytes = .ok decoded ∧ decoded = a ∧
      ∀ again, (toJson decoded).Reordered again → written.Reordered again

theorem survives_of_takes {α : Type} {toJson : α → Value} {decoder : Decoder α} {a : α}
    (takes : decoder.Takes maxDepth (toJson a) a) : Survives toJson decoder a :=
  fun _ same => ⟨a, takes.decode same, rfl, fun _ again => same.symm.trans again⟩

/-- **Typed documents survive their text**, whatever they hold; patches do if every number in them
is an integer of 64 bits and they nest no deeper than a document may. -/
theorem documents_survive :
    (∀ field, Survives Field.toJson Field.decoder field) ∧
    (∀ group, Survives Group.toJson Group.decoder group) ∧
    (∀ patch : GroupPatch, Values.Whole patch.values → patch.toJson.depth ≤ maxDepth →
      Survives GroupPatch.toJson GroupPatch.decoder patch) ∧
    (∀ result : PatchResult, result.Whole → result.toJson.depth ≤ maxDepth →
      Survives PatchResult.toJson PatchResult.decoder result) ∧
    (∀ seed, Survives Seed.toJson Seed.decoder seed) ∧
    (∀ team, Survives TeamReviewers.toJson TeamReviewers.decoder team) ∧
    (∀ reviewers, Survives ReviewerSettings.toJson ReviewerSettings.decoder reviewers) ∧
    (∀ settings, Survives FlaggingSettings.toJson FlaggingSettings.decoder settings) ∧
    (∀ body, Survives ErrorBody.toJson ErrorBody.decoder body) ∧
    ∀ status, Survives TeamFlaggingStatus.toJson TeamFlaggingStatus.decoder status :=
  ⟨fun field => survives_of_takes field.takes,
    fun group => survives_of_takes group.takes,
    fun _ whole fits => survives_of_takes (GroupPatch.takes whole fits),
    fun _ whole fits => survives_of_takes (PatchResult.takes whole fits),
    fun seed => survives_of_takes seed.takes,
    fun team => survives_of_takes team.takes,
    fun reviewers => survives_of_takes reviewers.takes,
    fun settings => survives_of_takes settings.takes,
    fun body => survives_of_takes body.takes,
    fun status => survives_of_takes status.takes⟩

/-- Limits as far as integers go, and a text in which everything is escaped that can be. -/
def sampleValues : Values where
  entries := [
    ("limits", .array [.number (.integer (-9223372036854775808)),
      .number (.integer 18446744073709551615)]),
    ("note", .object [("said", .text "\"back\\slash\"\n\u0001")])]
  ascending := by decide

def sampleGroupPatch : GroupPatch := ⟨⟨"g", contentFlaggingGroup⟩, sampleValues⟩

theorem whole_sampleValues : sampleValues.Whole := by
  have limits : ∀ item ∈ [Value.number (.integer (-9223372036854775808)),
      .number (.integer 18446744073709551615)], Plain 0 item := by
    simp only [List.forall_mem_cons]
    exact ⟨.integer ⟨by decide, by decide⟩, .integer ⟨by decide, by decide⟩, nofun⟩
  simp only [Values.Whole, sampleValues, List.forall_mem_cons]
  refine ⟨⟨1, .array limits⟩, ⟨1, .object (by decide) ?_⟩, nofun⟩
  simp only [List.forall_mem_cons]
  exact ⟨.text _, nofun⟩

/-- The same patch is decoded from a text that lists every object the other way round. -/
theorem sampleGroupPatch_survives :
    let result := PatchResult.collect [sampleGroupPatch]
    let reversed : Value := .object [("g", .object [
      ("values", .object sampleValues.entries.reverse),
      ("group", .object [("name", .text contentFlaggingGroup), ("id", .text "g")])])]
    sampleValues.Whole ∧ result.toJson.depth ≤ maxDepth ∧
      Json.decode GroupPatch.decoder sampleGroupPatch.toJson.bytes = .ok sampleGroupPatch ∧
      Json.decode PatchResult.decoder reversed.bytes = .ok result := by
  intro result reversed
  obtain ⟨-, -, patches, results, -⟩ := documents_survive
  have fits : result.toJson.depth ≤ maxDepth := by decide
  refine ⟨whole_sampleValues, fits, ?_, ?_⟩
  · obtain ⟨_, decoded, rfl, -⟩ :=
      patches sampleGroupPatch whole_sampleValues (by decide) _ (.refl _)
    exact decoded
  · have values : (Values.toJson sampleValues).Reordered (.object sampleValues.entries.reverse) :=
      .of_perm (List.reverse_perm _).symm
    have same : result.toJson.Reordered reversed :=
      .of_members (.refl _) (.cons ⟨rfl, .of_members (.swap _ _ _)
        (.cons ⟨rfl, .of_perm (.swap _ _ _)⟩ (.cons ⟨rfl, values⟩ .nil))⟩ .nil)
    have whole : result.Whole := List.forall_mem_singleton.2 whole_sampleValues
    obtain ⟨_, decoded, rfl, -⟩ := results result whole fits _ same
    exact decoded

end PropertyGate
