import PropertyGate.Proofs.Definitions.Lasting
import PropertyGate.Proofs.Turns

/-!
# Proofs/Concurrency/Declaring — declarations that overlap

A declaration is made in several turns: its id is looked up, for a field its group is looked up as
well, and then it is filed.  The turns of any number of calls interleave (`Declaring.Step`); taken
without interruption they do what `Definitions.attempt` does (`exists_turns_attempt`).

Between looking up and filing, another call can file something under the same id, so **two calls for
one id can both succeed, and the later one replaces what the earlier one declared**
(`later_replaces_earlier`).  There is no other way: **of two calls for one id that succeed, both found
the id free before either of them filed anything, and what is declared stays unless a call that found
the id free is still under way** (`one_succeeds_unless_both_found_it_free`).
-/

namespace PropertyGate

/-! ## What is declared under an id -/

/-- An id, and the kind of thing that it is for. -/
inductive DeclarationKey where
  | group (id : String)
  | field (id : String)
deriving DecidableEq, Repr

namespace Declaration

/-- What a declaration is filed under. -/
def key : Declaration → DeclarationKey
  | .group added => .group added.id
  | .field added => .field added.id

/-- The refusal of a declaration under an id that is taken. -/
def duplicate : Declaration → DeclarationError
  | .group added => .duplicateGroup added.id
  | .field added => .duplicateField added.id

end Declaration

namespace Definitions

variable {definitions : Definitions}

/-- What is declared under a key. -/
def declared? (definitions : Definitions) : DeclarationKey → Option Declaration
  | .group id => (definitions.groups.get? id).map .group
  | .field id => (definitions.field? id).map .field

/-- Files a declaration under its key, whatever is there. -/
def file (definitions : Definitions) : Declaration → Definitions
  | .group group => { definitions with groups := definitions.groups.insert group.id group }
  | .field field => { definitions with fields := definitions.fields.insert field.id field }

theorem declared?_file (definitions : Definitions) (declaration : Declaration)
    (key : DeclarationKey) :
    (definitions.file declaration).declared? key =
      if declaration.key = key then some declaration else definitions.declared? key := by
  cases declaration with
  | group group =>
    cases key with
    | group id =>
      simp only [file, declared?, Declaration.key, TextMap.get?_insert, DeclarationKey.group.injEq]
      split <;> rfl
    | field id => simp [file, declared?, Declaration.key, field?]
  | field field =>
    cases key with
    | group id => simp [file, declared?, Declaration.key]
    | field id =>
      simp only [file, declared?, field?, Declaration.key, TextMap.get?_insert,
        DeclarationKey.field.injEq]
      split <;> rfl

/-! A declaration is refused or filed, by what is found. -/

theorem attempt_of_taken {declaration known : Declaration}
    (taken : definitions.declared? declaration.key = some known) :
    definitions.attempt declaration = .error declaration.duplicate := by
  cases declaration with
  | group group =>
    obtain ⟨_, found, -⟩ := Option.map_eq_some_iff.1 taken
    simp [attempt, declareGroup, TextMap.contains, found, Declaration.duplicate]
  | field field =>
    obtain ⟨_, found, -⟩ := Option.map_eq_some_iff.1 taken
    rw [field?] at found
    simp [attempt, declareField, TextMap.contains, found, Declaration.duplicate]

theorem declared?_of_hasRoom {declaration : Declaration} (room : definitions.HasRoom declaration) :
    definitions.declared? declaration.key = none := by
  cases declaration with
  | group group => exact Option.map_eq_none_iff.2 room
  | field field => exact Option.map_eq_none_iff.2 room.1

theorem attempt_of_hasRoom {declaration : Declaration} (room : definitions.HasRoom declaration) :
    definitions.attempt declaration = .ok (definitions.file declaration) := by
  cases declaration with
  | group group => exact declareGroup_eq_ok_iff.2 ⟨room, rfl⟩
  | field field =>
    obtain ⟨free, owner, known⟩ := room
    exact declareField_eq_ok_iff.2
      ⟨free, by rw [TextMap.contains, known, Option.isSome_some], rfl⟩

theorem attempt_field_of_unknown {field : Field}
    (free : definitions.declared? (Declaration.field field).key = none)
    (unknown : definitions.groups.get? field.groupId = none) :
    definitions.attempt (.field field) = .error (.unknownGroup field.id field.groupId) := by
  have found : definitions.fields.get? field.id = none := Option.map_eq_none_iff.1 free
  simp [attempt, declareField, TextMap.contains, found, unknown]

end Definitions

/-! ## Calls in turns -/

/-- How far a call that declares something has come. -/
inductive CallStage where
  /-- Nothing is looked up. -/
  | begun
  /-- The id of a field was not taken, and its group is still to be looked up. -/
  | unclaimed
  /-- Everything was looked up, and the declaration is still to be filed. -/
  | cleared
  | succeeded
  | refused (error : DeclarationError)
deriving DecidableEq, Repr

namespace CallStage

/-- The stage of a call whose id is not taken. -/
def onceFree : Declaration → CallStage
  | .group _ => .cleared
  | .field _ => .unclaimed

theorem onceFree_ne_succeeded {declaration : Declaration} : onceFree declaration ≠ .succeeded := by
  cases declaration <;> nofun

/-- The stage of a call that is done. -/
def ofResult : Except DeclarationError Definitions → CallStage
  | .ok _ => .succeeded
  | .error error => .refused error

/-- Whether the id was found free, and nothing is filed yet. -/
def isContending : CallStage → Bool
  | .unclaimed => true
  | .cleared => true
  | _ => false

end CallStage

/-- **Definitions that are being added to**: what is declared, and the calls so far. -/
structure Declaring where
  definitions : Definitions := .empty
  calls : List (Declaration × CallStage) := []

/-- A turn of a call, known by its number. -/
inductive DeclaringTurn where
  | call (declaration : Declaration)
  | lookUpId (number : Nat)
  | lookUpGroup (number : Nat)
  | file (number : Nat)

namespace Declaring

/-- The same definitions, with a call in another stage. -/
def move (declaring : Declaring) (number : Nat) (declaration : Declaration) (stage : CallStage) :
    Declaring :=
  { declaring with calls := declaring.calls.set number (declaration, stage) }

/-- **What a turn does.**  Turns of different calls can be taken in any order. -/
inductive Step : Declaring → DeclaringTurn → Declaring → Prop where
  | call (declaring : Declaring) (declaration : Declaration) :
      Step declaring (.call declaration)
        { declaring with calls := declaring.calls ++ [(declaration, .begun)] }
  | idTaken {declaring : Declaring} {number : Nat} {declaration known : Declaration}
      (begun : declaring.calls[number]? = some (declaration, .begun))
      (taken : declaring.definitions.declared? declaration.key = some known) :
      Step declaring (.lookUpId number)
        (declaring.move number declaration (.refused declaration.duplicate))
  | idFree {declaring : Declaring} {number : Nat} {declaration : Declaration}
      (begun : declaring.calls[number]? = some (declaration, .begun))
      (free : declaring.definitions.declared? declaration.key = none) :
      Step declaring (.lookUpId number)
        (declaring.move number declaration (.onceFree declaration))
  | groupFound {declaring : Declaring} {number : Nat} {field : Field} {group : Group}
      (unclaimed : declaring.calls[number]? = some (.field field, .unclaimed))
      (known : declaring.definitions.groups.get? field.groupId = some group) :
      Step declaring (.lookUpGroup number) (declaring.move number (.field field) .cleared)
  | groupMissing {declaring : Declaring} {number : Nat} {field : Field}
      (unclaimed : declaring.calls[number]? = some (.field field, .unclaimed))
      (unknown : declaring.definitions.groups.get? field.groupId = none) :
      Step declaring (.lookUpGroup number)
        (declaring.move number (.field field) (.refused (.unknownGroup field.id field.groupId)))
  /-- Filing looks at nothing any more. -/
  | file {declaring : Declaring} {number : Nat} {declaration : Declaration}
      (cleared : declaring.calls[number]? = some (declaration, .cleared)) :
      Step declaring (.file number)
        { declaring.move number declaration .succeeded with
          definitions := declaring.definitions.file declaration }

variable {declaring after since now : Declaring} {turn : DeclaringTurn}
  {turns : List DeclaringTurn} {number other : Nat} {declaration : Declaration}
  {stage : CallStage} {key : DeclarationKey}

/-! ## Turns that are not interrupted -/

theorem calls_move (declaration : Declaration) (stage : CallStage)
    (inside : number < declaring.calls.length) :
    (declaring.move number declaration stage).calls[number]? = some (declaration, stage) :=
  List.getElem?_set_self inside

theorem move_move (stage' : CallStage) :
    (declaring.move number declaration stage).move number declaration stage' =
      declaring.move number declaration stage' := by
  rw [move, move, List.set_set]
  rfl

/-- The turns in which a call looks up what it needs. -/
def lookUps (number : Nat) : Declaration → List DeclaringTurn
  | .group _ => [.lookUpId number]
  | .field _ => [.lookUpId number, .lookUpGroup number]

/-- **Where there is room for a declaration, looking up clears the way for it.** -/
theorem turns_lookUps (begun : declaring.calls[number]? = some (declaration, .begun))
    (room : declaring.definitions.HasRoom declaration) :
    Turns Step declaring (lookUps number declaration)
      (declaring.move number declaration .cleared) := by
  have looked := Step.idFree begun (Definitions.declared?_of_hasRoom room)
  cases declaration with
  | group group => exact .move looked (.stay _)
  | field field =>
    obtain ⟨-, owner, known⟩ := room
    have inside : number < declaring.calls.length := (List.getElem?_eq_some_iff.1 begun).1
    have cleared := Step.groupFound (calls_move (.field field) .unclaimed inside) known
    rw [move_move] at cleared
    exact .move looked (.move cleared (.stay _))

/-- **A call that is not interrupted declares, or is refused, as one.** -/
theorem exists_turns_attempt (begun : declaring.calls[number]? = some (declaration, .begun)) :
    ∃ turns, Turns Step declaring turns
      { declaring.move number declaration
          (.ofResult (declaring.definitions.attempt declaration)) with
        definitions := declaring.definitions.declare declaration } := by
  have inside : number < declaring.calls.length := (List.getElem?_eq_some_iff.1 begun).1
  rw [Definitions.declare_eq_attempt]
  by_cases room : declaring.definitions.HasRoom declaration
  · rw [Definitions.attempt_of_hasRoom room]
    have filed := Step.file (calls_move declaration .cleared inside)
    rw [move_move] at filed
    exact ⟨_, (turns_lookUps begun room).append (.move filed (.stay _))⟩
  · cases free : declaring.definitions.declared? declaration.key with
    | some known =>
      rw [Definitions.attempt_of_taken free]
      exact ⟨_, .move (.idTaken begun free) (.stay _)⟩
    | none =>
      cases declaration with
      | group group => exact absurd (Option.map_eq_none_iff.1 free) room
      | field field =>
        have unknown : declaring.definitions.groups.get? field.groupId = none :=
          Option.eq_none_iff_forall_ne_some.2 fun owner known =>
            room ⟨Option.map_eq_none_iff.1 free, owner, known⟩
        rw [Definitions.attempt_field_of_unknown free unknown]
        have missing := Step.groupMissing (calls_move (.field field) .unclaimed inside) unknown
        rw [move_move] at missing
        exact ⟨_, .move (.idFree begun free) (.move missing (.stay _))⟩

/-! ## Who contends for an id -/

/-- **A call contends for a key**: it found the key free, and has not filed its declaration. -/
def Contends (declaring : Declaring) (key : DeclarationKey) (number : Nat) : Prop :=
  ∃ declaration stage, declaring.calls[number]? = some (declaration, stage) ∧
    declaration.key = key ∧ stage.isContending = true

/-- **Since a key was taken**: it stays taken, none but those who contended then contend now, and
none but they have succeeded since. -/
structure Taken (key : DeclarationKey) (since now : Declaring) : Prop where
  taken : now.definitions.declared? key ≠ none
  contends : ∀ {number : Nat}, now.Contends key number → since.Contends key number
  succeeded : ∀ {number : Nat} {declaration : Declaration},
    now.calls[number]? = some (declaration, .succeeded) → declaration.key = key →
    since.calls[number]? = some (declaration, .succeeded) ∨ since.Contends key number

theorem Taken.refl (taken : now.definitions.declared? key ≠ none) : Taken key now now :=
  ⟨taken, id, fun succeeded _ => .inl succeeded⟩

/-- Where a call only moves on, and does not come to contend or succeed by that, a taken key stays
as it was. -/
theorem Taken.move (h : Taken key since declaring)
    (fair : declaration.key = key → stage.isContending = true → since.Contends key number)
    (open_ : stage ≠ .succeeded) : Taken key since (declaring.move number declaration stage) := by
  refine ⟨h.taken, fun {other} => ?_, fun {other declaration'} found same => ?_⟩
  · rintro ⟨declaration', stage', found, same, contending⟩
    rcases eq_or_of_set found with ⟨rfl, moved⟩ | ⟨-, found⟩
    · obtain ⟨rfl, rfl⟩ := Prod.mk.inj moved
      exact fair same contending
    · exact h.contends ⟨declaration', stage', found, same, contending⟩
  · rcases eq_or_of_set found with ⟨-, moved⟩ | ⟨-, found⟩
    · exact absurd (Prod.mk.inj moved).2.symm open_
    · exact h.succeeded found same

theorem Step.taken (h : Step declaring turn after) (before : Taken key since declaring) :
    Taken key since after := by
  cases h with
  | call =>
    refine ⟨before.taken, fun {other} => ?_, fun {other declaration'} found same => ?_⟩
    · rintro ⟨declaration', stage', found, same, contending⟩
      rcases eq_or_of_concat found with begun | found
      · obtain ⟨rfl, rfl⟩ := Prod.mk.inj begun
        cases contending
      · exact before.contends ⟨declaration', stage', found, same, contending⟩
    · rcases eq_or_of_concat found with begun | found
      · cases (Prod.mk.inj begun).2
      · exact before.succeeded found same
  | idTaken => exact before.move nofun nofun
  | idFree _ free =>
    exact before.move (fun same => absurd (same ▸ free) before.taken)
      CallStage.onceFree_ne_succeeded
  | groupFound unclaimed =>
    exact before.move (fun same _ => before.contends ⟨_, _, unclaimed, same, rfl⟩) nofun
  | groupMissing => exact before.move nofun nofun
  | @file number declaration cleared =>
    refine ⟨?_, fun {other} => ?_, fun {other declaration'} found same => ?_⟩
    · dsimp only
      rw [Definitions.declared?_file]
      split
      · nofun
      · exact before.taken
    · rintro ⟨declaration', stage', found, same, contending⟩
      rcases eq_or_of_set found with ⟨-, moved⟩ | ⟨-, found⟩
      · obtain ⟨rfl, rfl⟩ := Prod.mk.inj moved
        cases contending
      · exact before.contends ⟨declaration', stage', found, same, contending⟩
    · rcases eq_or_of_set found with ⟨rfl, moved⟩ | ⟨-, found⟩
      · obtain ⟨rfl, -⟩ := Prod.mk.inj moved
        exact .inr (before.contends ⟨_, _, cleared, same, rfl⟩)
      · exact before.succeeded found same

/-- **Where nobody contends for a key, what is declared under it stays.** -/
theorem declared?_of_uncontended (h : Turns Step since turns now)
    (found : since.definitions.declared? key = some declaration)
    (uncontended : ∀ number, ¬ since.Contends key number) :
    now.definitions.declared? key = some declaration := by
  have kept : Taken key since now ∧ now.definitions.declared? key = some declaration := by
    refine h.keeps
      (fun now => Taken key since now ∧ now.definitions.declared? key = some declaration)
      (fun step ⟨taken, same⟩ => ⟨step.taken taken, ?_⟩) ⟨.refl (by rw [found]; nofun), found⟩
    cases step with
    | @file number filed cleared =>
      dsimp only
      rw [Definitions.declared?_file, if_neg, same]
      exact fun rival => uncontended number (taken.contends ⟨_, _, cleared, rival, rfl⟩)
    | _ => exact same
  exact kept.2

/-! ## Who succeeds -/

/-- **A call succeeds by filing its declaration.** -/
theorem Step.of_succeeded (h : Step declaring turn after)
    (never : declaring.calls[number]? ≠ some (declaration, .succeeded))
    (succeeded : after.calls[number]? = some (declaration, .succeeded)) :
    turn = .file number ∧ declaring.calls[number]? = some (declaration, .cleared) ∧
      after = { declaring.move number declaration .succeeded with
        definitions := declaring.definitions.file declaration } := by
  cases h with
  | call =>
    rcases eq_or_of_concat succeeded with begun | found
    · cases (Prod.mk.inj begun).2
    · exact absurd found never
  | file cleared =>
    rcases eq_or_of_set succeeded with ⟨rfl, moved⟩ | ⟨-, found⟩
    · obtain ⟨rfl, -⟩ := Prod.mk.inj moved
      exact ⟨rfl, cleared, rfl⟩
    · exact absurd found never
  | idFree =>
    rcases eq_or_of_set succeeded with ⟨-, moved⟩ | ⟨-, found⟩
    · exact absurd (Prod.mk.inj moved).2.symm CallStage.onceFree_ne_succeeded
    · exact absurd found never
  | idTaken | groupFound | groupMissing =>
    rcases eq_or_of_set succeeded with ⟨-, moved⟩ | ⟨-, found⟩
    · cases (Prod.mk.inj moved).2
    · exact absurd found never

/-- When one of two rivals files first, the other contends. -/
theorem contends_of_filed
    (filed : after = { declaring.move number declaration .succeeded with
      definitions := declaring.definitions.file declaration })
    (later : Turns Step after turns now) {rival : Declaration} (different : other ≠ number)
    (behind : declaring.calls[other]? ≠ some (rival, .succeeded))
    (succeeded : now.calls[other]? = some (rival, .succeeded)) (same : rival.key = declaration.key) :
    declaring.Contends declaration.key other := by
  have unmoved : after.calls[other]? = declaring.calls[other]? := by
    rw [filed]
    exact List.getElem?_set_ne (Ne.symm different)
  have taken : after.definitions.declared? declaration.key ≠ none := by
    rw [filed]
    dsimp only
    rw [Definitions.declared?_file, if_pos rfl]
    nofun
  have since := later.keeps (Taken declaration.key after) (fun step => step.taken) (.refl taken)
  rcases since.succeeded succeeded same with already | ⟨rival, stage, found, contends⟩
  · exact absurd (unmoved.symm.trans already) behind
  · exact ⟨rival, stage, unmoved.symm.trans found, contends⟩

/-- Two calls for one key that succeed contended for it at the same time. -/
theorem exists_contending {definitions : Definitions} {rival : Declaration}
    (reached : Turns Step { definitions } turns now) (different : number ≠ other)
    (first : now.calls[number]? = some (declaration, .succeeded))
    (second : now.calls[other]? = some (rival, .succeeded)) (same : rival.key = declaration.key) :
    ∃ earlier moment later, turns = earlier ++ later ∧ Turns Step { definitions } earlier moment ∧
      Turns Step moment later now ∧ moment.Contends declaration.key number ∧
      moment.Contends declaration.key other := by
  obtain ⟨earlier, moment, turn, filed, later, rfl, before, step, afterwards, neither, either⟩ :=
    reached.exists_turn
      (fun now => now.calls[number]? = some (declaration, .succeeded) ∨
        now.calls[other]? = some (rival, .succeeded)) (by simp) (.inl first)
  obtain ⟨firstBehind, secondBehind⟩ := not_or.1 neither
  refine ⟨earlier, moment, turn :: later, rfl, before, .move step afterwards, ?_⟩
  rcases either with succeeded | succeeded
  · obtain ⟨rfl, cleared, filedSo⟩ := step.of_succeeded firstBehind succeeded
    exact ⟨⟨_, _, cleared, rfl, rfl⟩, contends_of_filed filedSo afterwards (Ne.symm different)
       secondBehind second same⟩
  · obtain ⟨rfl, cleared, filedSo⟩ := step.of_succeeded secondBehind succeeded
    have contends := contends_of_filed filedSo afterwards different firstBehind first same.symm
    exact ⟨same ▸ contends, ⟨_, _, cleared, same, rfl⟩⟩

/-- **Of two calls for one id that succeed, both found it free before either filed anything.**  And
when a call succeeds, its declaration is found under its id; from then on, only calls that found the
id free before that can succeed as well, and if there are none the declaration stays for good. -/
theorem one_succeeds_unless_both_found_it_free {definitions : Definitions}
    (reached : Turns Step { definitions } turns now) :
    (∀ (first second : Nat) (declaration rival : Declaration), first ≠ second →
      now.calls[first]? = some (declaration, .succeeded) →
      now.calls[second]? = some (rival, .succeeded) → rival.key = declaration.key →
      ∃ earlier moment later, turns = earlier ++ later ∧
        Turns Step { definitions } earlier moment ∧ Turns Step moment later now ∧
        moment.Contends declaration.key first ∧ moment.Contends declaration.key second) ∧
    ∀ (number : Nat) (declaration : Declaration),
      now.calls[number]? = some (declaration, .succeeded) →
      ∃ earlier before after later, turns = earlier ++ .file number :: later ∧
        Turns Step { definitions } earlier before ∧ Step before (.file number) after ∧
        Turns Step after later now ∧
        after.definitions.declared? declaration.key = some declaration ∧
        ∀ further afterwards, Turns Step now further afterwards →
          (∀ (winner : Nat) (rival : Declaration),
            afterwards.calls[winner]? = some (rival, .succeeded) → rival.key = declaration.key →
            after.calls[winner]? = some (rival, .succeeded) ∨
              after.Contends declaration.key winner) ∧
          ((∀ rival : Nat, ¬ after.Contends declaration.key rival) →
            afterwards.definitions.declared? declaration.key = some declaration) := by
  refine ⟨fun first second declaration rival different => exists_contending reached different,
    fun number declaration succeeded => ?_⟩
  obtain ⟨earlier, before, turn, after, later, rfl, upTo, step, onward, never, now⟩ :=
    reached.exists_turn (·.calls[number]? = some (declaration, .succeeded)) (by simp) succeeded
  obtain ⟨rfl, cleared, filed⟩ := step.of_succeeded never now
  have found : after.definitions.declared? declaration.key = some declaration := by
    rw [filed]
    exact (Definitions.declared?_file ..).trans (if_pos rfl)
  refine ⟨earlier, before, after, later, rfl, upTo, step, onward, found,
    fun further afterwards more => ⟨fun winner rival won same => ?_, fun uncontended => ?_⟩⟩
  · have since := (onward.append more).keeps (Taken declaration.key after) (fun step => step.taken)
      (.refl (by rw [found]; nofun))
    exact since.succeeded won same
  · exact declared?_of_uncontended (onward.append more) found uncontended

/-! ## Calls that overlap -/

/-- Two calls look up what they need before either files its declaration. -/
def overlappingTurns (first second : Declaration) : List DeclaringTurn :=
  .call first :: .call second :: (lookUps 0 first ++ lookUps 1 second ++ [.file 0])

/-- Of two overlapping calls the first has succeeded, and the second is about to. -/
def onceFiled (definitions : Definitions) (first second : Declaration) : Declaring :=
  ⟨definitions.file first, [(first, .succeeded), (second, .cleared)]⟩

/-- Both have succeeded. -/
def twiceFiled (definitions : Definitions) (first second : Declaration) : Declaring :=
  ⟨(definitions.file first).file second, [(first, .succeeded), (second, .succeeded)]⟩

/-- **Wherever there is room for two declarations, both calls get as far as filing them**, also if
they have one id. -/
theorem turns_onceFiled {definitions : Definitions} {first second : Declaration}
    (room : definitions.HasRoom first) (room' : definitions.HasRoom second) :
    Turns Step { definitions } (overlappingTurns first second)
      (onceFiled definitions first second) := by
  have looked : Turns Step ⟨definitions, [(first, .begun), (second, .begun)]⟩ (lookUps 0 first)
      ⟨definitions, [(first, .cleared), (second, .begun)]⟩ := turns_lookUps rfl room
  have looked' : Turns Step ⟨definitions, [(first, .cleared), (second, .begun)]⟩ (lookUps 1 second)
      ⟨definitions, [(first, .cleared), (second, .cleared)]⟩ := turns_lookUps rfl room'
  exact .move (.call _ _) <| .move (.call _ _) <|
    (looked.append looked').append (.move (.file rfl) (.stay _))

theorem step_twiceFiled (definitions : Definitions) (first second : Declaration) :
    Step (onceFiled definitions first second) (.file 1) (twiceFiled definitions first second) :=
  .file rfl

/-- Two groups that fields can belong to. -/
def twoOwners : Definitions := .ofDeclarations [.group ⟨"g", "first"⟩, .group ⟨"h", "second"⟩]

/-- Two calls that declare a field for either group both succeed: there was a moment at which both
had found its id free. -/
theorem overlapping_calls_contended :
    let first : Declaration := .field ⟨"f", "g", none⟩
    let second : Declaration := .field ⟨"f", "h", none⟩
    let turns := overlappingTurns first second ++ [.file 1]
    Turns Step { definitions := twoOwners } turns (twiceFiled twoOwners first second) ∧
      ∃ earlier moment later, turns = earlier ++ later ∧
        Turns Step { definitions := twoOwners } earlier moment ∧
        moment.Contends (.field "f") 0 ∧ moment.Contends (.field "f") 1 := by
  intro first second turns
  have room : twoOwners.HasRoom first := ⟨rfl, _, rfl⟩
  have room' : twoOwners.HasRoom second := ⟨rfl, _, rfl⟩
  have reached : Turns Step { definitions := twoOwners } turns (twiceFiled twoOwners first second) :=
    (turns_onceFiled room room').append (.move (step_twiceFiled ..) (.stay _))
  obtain ⟨earlier, moment, later, split, before, -, contends, contends'⟩ :=
    (one_succeeds_unless_both_found_it_free reached).1 0 1 first second (by decide) rfl rfl rfl
  exact ⟨reached, earlier, moment, later, split, before, contends, contends'⟩

/-- **Two calls for one id can both succeed, and the later one replaces what was declared**: of a
group the name changes, of a field the owner. -/
theorem later_replaces_earlier :
    let group : Declaration := .group ⟨"g", "first"⟩
    let group' : Declaration := .group ⟨"g", "second"⟩
    let field : Declaration := .field ⟨"f", "g", none⟩
    let field' : Declaration := .field ⟨"f", "h", none⟩
    (Turns Step {} (overlappingTurns group group') (onceFiled .empty group group') ∧
      (onceFiled .empty group group').definitions.lookupGroup "g" = .ok ⟨"g", "first"⟩ ∧
      Step (onceFiled .empty group group') (.file 1) (twiceFiled .empty group group') ∧
      (twiceFiled .empty group group').calls = [(group, .succeeded), (group', .succeeded)] ∧
      (twiceFiled .empty group group').definitions.lookupGroup "g" = .ok ⟨"g", "second"⟩) ∧
    Turns Step { definitions := twoOwners } (overlappingTurns field field')
      (onceFiled twoOwners field field') ∧
    (onceFiled twoOwners field field').definitions.field? "f" = some ⟨"f", "g", none⟩ ∧
    Step (onceFiled twoOwners field field') (.file 1) (twiceFiled twoOwners field field') ∧
    (twiceFiled twoOwners field field').calls = [(field, .succeeded), (field', .succeeded)] ∧
    (twiceFiled twoOwners field field').definitions.field? "f" = some ⟨"f", "h", none⟩ := by
  intro group group' field field'
  have room : twoOwners.HasRoom field := ⟨rfl, _, rfl⟩
  have room' : twoOwners.HasRoom field' := ⟨rfl, _, rfl⟩
  exact ⟨⟨turns_onceFiled rfl rfl, rfl, step_twiceFiled .., rfl, rfl⟩, turns_onceFiled room room',
    rfl, step_twiceFiled .., rfl, rfl⟩

end Declaring

end PropertyGate
