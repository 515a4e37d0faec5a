import Mathlib.Data.List.Induction
import Mathlib.Data.Set.Card
import PropertyGate.Proofs.Definitions.WellFormed
import PropertyGate.Proofs.Service.Patching

/-!
# Proofs/Store/History — what a history of commits leaves in a store

A store starts with nothing; then patches of any kind are to be stored for any posts, while more and
more is declared (`Archive`).  A commit succeeds if every field stands under the key of the group that
it is declared for, so that no field stands under two keys and the flattened patch holds what the
patch holds (`get?_flatten_eq_some_iff`).  Every event keeps the store sound (`Sound.step`) and lays
over it what it gives (`get?_values_step`); hence **a store holds what was given last, for declared
fields only, and no post has an entry without a value** (`holds_last_given`).
-/

namespace PropertyGate

/-- **The patch holds a value for a field**, under whatever key. -/
def PatchResult.Holds (patch : PatchResult) (fieldId : String) (value : Json.Value) : Prop :=
  ∃ entry ∈ patch.toList, entry.2.values.get? fieldId = some value

/-! ## Patches that can be stored -/

namespace Store

variable {definitions : Definitions} {store : Store} {patch : PatchResult} {target fieldId : String}
  {value : Json.Value} {values : Values}

/-- In a patch that can be stored, a field stands under the key of the group that owns it. -/
theorem exists_field_of_holds (storable : patchError? definitions patch = none)
    {entry : String × GroupPatch} (listed : entry ∈ patch.toList)
    (held : entry.2.values.get? fieldId = some value) :
    ∃ field, definitions.field? fieldId = some field ∧ field.groupId = entry.1 :=
  fieldError?_eq_none_iff.1 <| patchError?_eq_none_iff.1 storable entry listed fieldId <|
    TextMap.contains_iff_mem_keys.1 (Option.isSome_iff_exists.2 ⟨value, held⟩)

/-- **In a patch that can be stored no field stands twice.** -/
theorem value_eq_of_holds (storable : patchError? definitions patch = none)
    {other : Json.Value} (h : patch.Holds fieldId value) (h' : patch.Holds fieldId other) :
    value = other := by
  obtain ⟨⟨key, entry⟩, listed, held⟩ := h
  obtain ⟨⟨key', entry'⟩, listed', held'⟩ := h'
  obtain ⟨field, declared, rfl⟩ := exists_field_of_holds storable listed held
  obtain ⟨field', declared', rfl⟩ := exists_field_of_holds storable listed' held'
  obtain rfl : field = field' := Option.some.inj (declared.symm.trans declared')
  obtain rfl : entry = entry' := Option.some.inj <|
    (TextMap.mem_entries_iff.1 listed).symm.trans (TextMap.mem_entries_iff.1 listed')
  exact Option.some.inj (held.symm.trans held')

/-- **What is stored of a patch is what the patch holds.** -/
theorem get?_flatten_eq_some_iff (storable : patchError? definitions patch = none) :
    patch.flatten.get? fieldId = some value ↔ patch.Holds fieldId value := by
  refine ⟨PatchResult.exists_of_get?_flatten, fun holds => ?_⟩
  obtain ⟨entry, listed, held⟩ := holds
  have mem : (fieldId, value) ∈ patch.allEntries.reverse :=
    List.mem_reverse.2 <| List.mem_flatMap.2
      ⟨entry.2, List.mem_map.2 ⟨entry, listed, rfl⟩, TextMap.mem_entries_iff.2 held⟩
  obtain ⟨other, found⟩ := Entries.exists_get?_of_mem mem
  rw [← PatchResult.get?_flatten] at found
  rw [found, value_eq_of_holds storable (PatchResult.exists_of_get?_flatten found)
    ⟨entry, listed, held⟩]

/-! ## Entries without values -/

theorem ne_empty_iff_exists_get? :
    values ≠ .empty ↔ ∃ fieldId value, values.get? fieldId = some value := by
  constructor
  · intro something
    by_contra nothing
    refine something (TextMap.ext_get? fun fieldId => ?_)
    exact Option.eq_none_iff_forall_ne_some.2 fun value found => nothing ⟨fieldId, value, found⟩
  · rintro ⟨fieldId, value, found⟩ rfl
    cases found

/-- **Every post that has an entry has a value.** -/
def Populated (store : Store) : Prop :=
  ∀ target values, store.targets.get? target = some values → values ≠ .empty

theorem populated_empty : Populated .empty := fun _ _ found => nomatch found

theorem Populated.lay (h : store.Populated) (target : String) (values : Values) :
    (store.lay target values).Populated := by
  intro probe kept found
  by_cases other : probe ≠ target
  · exact h probe kept (get?_targets_lay_of_ne other ▸ found)
  obtain rfl := not_ne_iff.1 other
  by_cases empty : values = .empty
  · rw [empty, lay_empty] at found
    exact h probe kept found
  · obtain ⟨fieldId, value, given⟩ := ne_empty_iff_exists_get?.1 empty
    have shown : (store.lay probe values).values probe = kept := by rw [Store.values, found]; rfl
    refine ne_empty_iff_exists_get?.2 ⟨fieldId, value, ?_⟩
    rw [← shown, get?_values_lay, given, Option.some_or]

/-- The posts that have a value. -/
def targetsWithValues (store : Store) : Set String :=
  {target | ∃ fieldId value, (store.values target).get? fieldId = some value}

theorem Populated.mem_targetsWithValues_iff (h : store.Populated) :
    target ∈ store.targetsWithValues ↔ target ∈ store.targets.keys := by
  rw [← TextMap.contains_iff_mem_keys, TextMap.contains, Option.isSome_iff_exists,
    targetsWithValues, Set.mem_ofPred_eq, Store.values]
  cases found : store.targets.get? target with
  | none => simp
  | some values => simpa using ne_empty_iff_exists_get?.1 (h target values found)

/-- **The posts that are counted are those that have a value.** -/
theorem Populated.encard_targetsWithValues (h : store.Populated) :
    store.targetsWithValues.encard = store.targetCount := by
  have same : store.targetsWithValues = ↑store.targets.keys.toFinset := by
    ext target
    rw [h.mem_targetsWithValues_iff, List.coe_toFinset, Set.mem_ofPred_eq]
  rw [same, Set.encard_coe_eq_coe_finsetCard, List.toFinset_card_of_nodup (TextMap.nodup_keys _),
    TextMap.keys, List.length_map]
  rfl

end Store

/-! ## Events -/

/-- **A store, and what is declared for it.** -/
structure Archive where
  definitions : Definitions
  store : Store := .empty

/-- What happens to an archive: something is declared, or a patch is to be stored for a post. -/
inductive ArchiveEvent where
  | declare (declaration : Declaration)
  | commit (target : String) (patch : PatchResult)

namespace Archive

variable {archive start : Archive} {event : ArchiveEvent} {events : List ArchiveEvent}
  {target fieldId : String} {patch : PatchResult} {value : Json.Value}

/-- What an event does. A declaration or a commit that fails changes nothing. -/
def step (archive : Archive) : ArchiveEvent → Archive
  | .declare declaration =>
    { archive with definitions := archive.definitions.declare declaration }
  | .commit target patch =>
    match archive.store.commit archive.definitions target patch with
    | .ok store => { archive with store }
    | .error _ => archive

/-- The archive after some events. -/
def run (archive : Archive) (events : List ArchiveEvent) : Archive := events.foldl step archive

/-- **The event gives a field of a post a value**: it is a commit for that post which succeeds, and
its patch holds the value for the field. -/
def Gives (archive : Archive) (event : ArchiveEvent) (target fieldId : String)
    (value : Json.Value) : Prop :=
  ∃ patch stored, event = .commit target patch ∧
    archive.store.commit archive.definitions target patch = .ok stored ∧ patch.Holds fieldId value

/-- **The value was given last**: some event gave it, and no later one gave the field of the post
any value. -/
def GivenLast (start : Archive) (events : List ArchiveEvent) (target fieldId : String)
    (value : Json.Value) : Prop :=
  ∃ before event after, events = before ++ event :: after ∧
    (start.run before).Gives event target fieldId value ∧
    ∀ between later rest other, after = between ++ later :: rest →
      ¬ (start.run (before ++ event :: between)).Gives later target fieldId other

theorem run_concat : start.run (events ++ [event]) = (start.run events).step event :=
  List.foldl_append ..

/-- A commit succeeds or changes nothing. -/
theorem step_commit_cases (archive : Archive) (target : String) (patch : PatchResult) :
    (Store.patchError? archive.definitions patch = none ∧
      archive.store.commit archive.definitions target patch =
        .ok (archive.store.lay target patch.flatten) ∧
      archive.step (.commit target patch) =
        { archive with store := archive.store.lay target patch.flatten }) ∨
    (∃ error, archive.store.commit archive.definitions target patch = .error error) ∧
      archive.step (.commit target patch) = archive := by
  rw [step]
  cases storable : Store.patchError? archive.definitions patch with
  | none =>
    rw [Store.commit_of_storable storable]
    exact .inl ⟨rfl, rfl, rfl⟩
  | some error =>
    rw [Store.commit, storable]
    exact .inr ⟨⟨error, rfl⟩, rfl⟩

/-- **What an event gives is laid over what was there.** -/
theorem get?_values_step :
    ((archive.step event).store.values target).get? fieldId = some value ↔
      archive.Gives event target fieldId value ∨
        (archive.store.values target).get? fieldId = some value ∧
          ∀ other, ¬ archive.Gives event target fieldId other := by
  cases event with
  | declare declaration => simp [step, Gives]
  | commit changed patch =>
    rcases archive.step_commit_cases changed patch with
      ⟨storable, success, same⟩ | ⟨⟨error, failure⟩, same⟩
    · have gives : ∀ value, archive.Gives (.commit changed patch) target fieldId value ↔
          changed = target ∧ patch.flatten.get? fieldId = some value := by
        intro value
        rw [Store.get?_flatten_eq_some_iff storable]
        constructor
        · rintro ⟨_, _, ⟨⟩, -, holds⟩
          exact ⟨rfl, holds⟩
        · rintro ⟨rfl, holds⟩
          exact ⟨patch, _, rfl, success, holds⟩
      rw [same]
      simp only [gives]
      by_cases other : target = changed
      · subst other
        rw [Store.get?_values_lay]
        cases patch.flatten.get? fieldId <;> simp
      · rw [Store.values_lay_of_ne other]
        simp [Ne.symm other]
    · have never : ∀ value, ¬ archive.Gives (.commit changed patch) target fieldId value := by
        rintro value ⟨_, _, ⟨⟩, success, -⟩
        cases failure.symm.trans success
      simp [same, never]

/-! ## What every event keeps -/

/-- **Every stored field is declared, and every post that has an entry has a value.** -/
structure Sound (archive : Archive) : Prop where
  declared : ∀ target fieldId value, (archive.store.values target).get? fieldId = some value →
    ∃ field, archive.definitions.field? fieldId = some field
  populated : archive.store.Populated

theorem sound_opened (definitions : Definitions) : Sound { definitions } where
  declared _ _ _ found := nomatch found
  populated := Store.populated_empty

/-- No event takes a declaration back. -/
theorem extends_step (archive : Archive) (event : ArchiveEvent) :
    archive.definitions.Extends (archive.step event).definitions := by
  cases event with
  | declare declaration => exact Definitions.extends_declare _ _
  | commit target patch =>
    rcases archive.step_commit_cases target patch with ⟨-, -, same⟩ | ⟨-, same⟩ <;>
    · rw [same]
      exact .refl _

theorem Sound.step (h : archive.Sound) (event : ArchiveEvent) : (archive.step event).Sound := by
  refine ⟨fun target fieldId value found => ?_, ?_⟩
  · rcases get?_values_step.1 found with given | ⟨before, -⟩
    · obtain ⟨patch, stored, rfl, success, entry, listed, held⟩ := given
      obtain ⟨storable, -⟩ := Store.commit_eq_ok_iff.1 success
      obtain ⟨field, declared, -⟩ := Store.exists_field_of_holds storable listed held
      exact ⟨field, (archive.extends_step _).field declared⟩
    · obtain ⟨field, declared⟩ := h.declared target fieldId value before
      exact ⟨field, (archive.extends_step _).field declared⟩
  · cases event with
    | declare declaration => exact h.populated
    | commit target patch =>
      rcases archive.step_commit_cases target patch with ⟨-, -, same⟩ | ⟨-, same⟩
      · rw [same]
        exact h.populated.lay target _
      · rw [same]
        exact h.populated

theorem Sound.run (h : start.Sound) (events : List ArchiveEvent) : (start.run events).Sound := by
  induction events generalizing start with
  | nil => exact h
  | cons event rest ih => exact ih (h.step event)

/-! ## What a history leaves -/

/-- With one event more, either that event decides or it gives nothing. -/
theorem givenLast_concat_iff :
    GivenLast start (events ++ [event]) target fieldId value ↔
      (start.run events).Gives event target fieldId value ∨
        GivenLast start events target fieldId value ∧
          ∀ other, ¬ (start.run events).Gives event target fieldId other := by
  constructor
  · rintro ⟨before, giver, after, split, given, last⟩
    rcases List.eq_nil_or_concat' after with rfl | ⟨after, final, rfl⟩
    · obtain ⟨rfl, same⟩ := List.append_inj' split rfl
      obtain rfl : event = giver := List.singleton_inj.1 same
      exact .inl given
    · rw [← List.cons_append, ← List.append_assoc] at split
      obtain ⟨rfl, same⟩ := List.append_inj' split rfl
      obtain rfl : event = final := List.singleton_inj.1 same
      refine .inr ⟨⟨before, giver, after, rfl, given, fun between later rest other split => ?_⟩,
        fun other => last after event [] other rfl⟩
      exact last between later (rest ++ [event]) other (by rw [split]; simp)
  · rintro (given | ⟨⟨before, giver, after, rfl, given, last⟩, never⟩)
    · exact ⟨events, event, [], rfl, given, fun _ _ _ _ split => by simp at split⟩
    · refine ⟨before, giver, after ++ [event], by simp, given, fun between later rest other split => ?_⟩
      rcases List.eq_nil_or_concat' rest with rfl | ⟨rest, final, rfl⟩
      · obtain ⟨rfl, same⟩ := List.append_inj' split rfl
        obtain rfl : event = later := List.singleton_inj.1 same
        exact never other
      · rw [← List.cons_append, ← List.append_assoc] at split
        exact last between later rest other (List.append_inj' split rfl).1

/-- **The value that was given last shows**, where nothing was stored at the start. -/
theorem get?_values_run (fresh : start.store = .empty) :
    ((start.run events).store.values target).get? fieldId = some value ↔
      GivenLast start events target fieldId value := by
  induction events using List.reverseRecOn generalizing value with
  | nil =>
    have nothing : ((start.run []).store.values target).get? fieldId = none := by
      rw [run, List.foldl_nil, fresh]
      rfl
    refine iff_of_false (by simp [nothing]) ?_
    rintro ⟨before, event, after, split, -⟩
    simp at split
  | append_singleton events event ih =>
    rw [run_concat, get?_values_step, givenLast_concat_iff, ih]

/-- **Whatever was declared at the start and whatever was to be stored since:**

* every stored field is declared;
* every post that has an entry has a value, so that the posts that are counted are those that have
  one;
* a field of a post has the value that was given last, and none if none was given. -/
theorem holds_last_given (definitions : Definitions) (events : List ArchiveEvent) :
    let archive := run { definitions } events
    (∀ target fieldId value, (archive.store.values target).get? fieldId = some value →
      ∃ field, archive.definitions.field? fieldId = some field) ∧
    (∀ target values, archive.store.targets.get? target = some values →
      ∃ fieldId value, values.get? fieldId = some value) ∧
    archive.store.targetsWithValues.encard = archive.store.targetCount ∧
    ∀ target fieldId value, (archive.store.values target).get? fieldId = some value ↔
      GivenLast { definitions } events target fieldId value := by
  intro archive
  have sound : archive.Sound := (sound_opened definitions).run events
  exact ⟨sound.declared,
    fun target values found => Store.ne_empty_iff_exists_get?.1 (sound.populated target values found),
    sound.populated.encard_targetsWithValues, fun target fieldId value => get?_values_run rfl⟩

/-- A patch that has one value for the field `f`, under a key that need not be the id of its group. -/
def samplePatchUnder (key : String) (value : Bool) : PatchResult :=
  ⟨TextMap.empty.insert key ⟨⟨"i", "other"⟩, TextMap.empty.insert "f" (.bool value)⟩⟩

/-- The field is set; then it is set under a key that is not its owner's, a patch without values is
stored for another post, and the field is declared anew. -/
def sampleHistory : List ArchiveEvent :=
  [.declare (.group ⟨"g", "flags"⟩), .declare (.field ⟨"f", "g", none⟩),
    .commit "p1" (samplePatchUnder "g" true), .commit "p1" (samplePatchUnder "i" false),
    .commit "p2" ⟨TextMap.empty.insert "g" ⟨⟨"g", "flags"⟩, .empty⟩⟩,
    .declare (.field ⟨"f", "i", none⟩)]

/-- What succeeded stays, and the other post has no entry. -/
theorem sampleHistory_holds_last_given :
    let archive := run { definitions := .empty } sampleHistory
    (archive.store.values "p1").get? "f" = some (.bool true) ∧
      GivenLast { definitions := .empty } sampleHistory "p1" "f" (.bool true) ∧
      (∃ field, archive.definitions.field? "f" = some field) ∧
      archive.store.targets.get? "p2" = none ∧ archive.store.targetsWithValues.encard = 1 := by
  intro archive
  have stored : (archive.store.values "p1").get? "f" = some (.bool true) := rfl
  obtain ⟨declared, -, counted, last⟩ := holds_last_given .empty sampleHistory
  exact ⟨stored, (last "p1" "f" (.bool true)).1 stored, declared "p1" "f" _ stored, rfl, counted⟩

end Archive

end PropertyGate
