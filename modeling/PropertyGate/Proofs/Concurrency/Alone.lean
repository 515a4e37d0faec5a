import Mathlib.Logic.Relation
import PropertyGate.Proofs.Concurrency.Traffic
import PropertyGate.Proofs.Service.Wiring

/-!
# Proofs/Concurrency/Alone — a request that nothing interrupts

Taken one after the other, the turns of a request are what the service does for it: **a request that
is left alone is answered, and stores, what `Service.applyPatch` and `Service.readPost` come to**
(`Traffic.exists_turns_applyPatch`, `Traffic.exists_turns_readPost`).  So every answer of the service
is one of the answers that requests can get when their turns interleave.
-/

namespace PropertyGate

open Pipeline (assigned)

variable {config : PipelineConfig} {definitions : Definitions} {store : Store}
  {handlers : HandlerRegistry} {context : Context} {patch : Values} {question : Question}

/-- **What a request can reach by its own turns** while nothing is declared and nothing written. -/
def Reaches (config : PipelineConfig) (definitions : Definitions) (store : Store)
    (handlers : HandlerRegistry) (question : Question) : Standing → Standing → Prop :=
  Relation.ReflTransGen (Moves config definitions store handlers question)

/-! ## Looking groups up -/

/-- Groups are found one after the other. -/
theorem reaches_grouping {fields : TextMap Field} {passed : List String} {groups : List Group}
    (known : Passes (definitions.pipeline handlers config).groupOf passed groups)
    (found : List GroupPatch) (left : List (String × Values)) :
    Reaches config definitions store handlers (.edit context patch)
      (.grouping found
        ((passed.map fun groupId => (groupId, share fields patch groupId)) ++ left))
      (.grouping (found ++ groups.map (assigned fields patch)) left) := by
  induction known generalizing found with
  | nil =>
    rw [List.map_nil, List.map_nil, List.append_nil]
    exact .refl
  | @cons groupId passed group groups pass _ ih =>
    have first : Moves config definitions store handlers (.edit context patch)
        (.grouping found (((groupId :: passed).map fun groupId =>
          (groupId, share fields patch groupId)) ++ left)) _ :=
      .find (Pipeline.materialize_eq_ok_iff.2 ⟨group, pass, rfl⟩)
    have onward := ih (found ++ [assigned fields patch group])
    rw [List.append_assoc, List.singleton_append, ← List.map_cons] at onward
    rw [assigned, (Pipeline.groupOf_eq_ok_iff.1 pass).2] at onward
    exact .head first onward

/-! ## Asking handlers -/

/-- Handlers that all approve can start and finish one after the other. -/
theorem reaches_asking {pending : List Pending} {patches : List GroupPatch}
    (approvals : Passes (Pending.outcome · context) pending patches) (finished : List GroupPatch) :
    Reaches config definitions store handlers (.edit context patch) (.asking finished pending [])
      (.asking (finished ++ patches) [] []) := by
  induction approvals generalizing finished with
  | nil =>
    rw [List.append_nil]
    exact .refl
  | @cons one pending groupPatch patches pass _ ih =>
    have onward := ih (finished ++ [groupPatch])
    rw [List.append_assoc, List.singleton_append] at onward
    exact .head (.startFirst fun _ => rfl) (.head (.finishFirst pass) onward)

/-- One after the other, the first handler that fails ends the request. -/
theorem reaches_refused_in_turn {pending passed : List Pending} {failed : Pending}
    {error : PatchError} (stop : StopsAt (Pending.outcome · context) pending passed failed error)
    (finished : List GroupPatch) :
    Reaches config definitions store handlers (.edit context patch) (.asking finished pending [])
      (.refused (.patch error)) := by
  induction stop generalizing finished with
  | here failure => exact .head (.startFirst fun _ => rfl) (.single (.failFirst failure))
  | later pass _ ih =>
    exact .head (.startFirst fun _ => rfl) (.head (.finishFirst pass) (ih _))

/-- Together, all handlers start before one finishes. -/
theorem reaches_started (mode : config.dispatch = .concurrent) (finished : List GroupPatch)
    (pending started : List Pending) :
    Reaches config definitions store handlers (.edit context patch)
      (.asking finished pending started) (.asking finished [] (started ++ pending)) := by
  induction pending generalizing started with
  | nil =>
    rw [List.append_nil]
    exact .refl
  | cons one rest ih =>
    have onward := ih (started ++ [one])
    rw [List.append_assoc, List.singleton_append] at onward
    exact .head (.startFirst fun other => nomatch mode.symm.trans other) onward

/-- Together, the first failure in the order of finishing ends the request. -/
theorem reaches_refused_together {order passed started : List Pending} {failed : Pending}
    {error : PatchError} (stop : StopsAt (Pending.outcome · context) order passed failed error)
    (same : order.Perm started) (finished : List GroupPatch) :
    Reaches config definitions store handlers (.edit context patch) (.asking finished [] started)
      (.refused (.patch error)) := by
  induction stop generalizing started finished with
  | here failure =>
    obtain ⟨before, after, rfl⟩ := List.append_of_mem (same.subset List.mem_cons_self)
    exact .single (.fail failure)
  | later pass _ ih =>
    obtain ⟨before, after, rfl⟩ := List.append_of_mem (same.subset List.mem_cons_self)
    have rest := (same.trans List.perm_middle).cons_inv
    exact .head (.finish pass) (ih rest _)

/-! ## Up to the result -/

theorem isEmpty_eq_false_of_keys {patch : Values} (h : patch.keys ≠ []) : patch.isEmpty = false :=
  Bool.eq_false_iff.2 fun nothing => h (Pipeline.keys_eq_nil_iff.2 nothing)

/-- With an owner for every field, a request goes on to look its groups up. -/
theorem moves_of_owned
    (owned : Pipeline.Owned (definitions.pipeline handlers config) context patch
      (definitions.lookupFields patch.keys)) :
    Moves config definitions store handlers (.edit context patch) .arrived
      (.grouping [] (shares (definitions.lookupFields patch.keys) patch)) := by
  obtain ⟨grouped, success, entries⟩ := groupByOwner_of_owned owned.owned
  rw [← entries]
  exact .split (isEmpty_eq_false_of_keys owned.nonempty)
    (Pipeline.length_keys patch ▸ owned.bounded) success

/-- With a group for every owner, a request goes on to find handlers. -/
theorem reaches_of_materialized {groups : List Group}
    (h : Pipeline.Materialized (definitions.pipeline handlers config) context patch
      (definitions.lookupFields patch.keys) groups) :
    Reaches config definitions store handlers (.edit context patch) .arrived
      (.grouping (groups.map (assigned (definitions.lookupFields patch.keys) patch)) []) := by
  have onward : Reaches config definitions store handlers (.edit context patch)
      (.grouping [] (shares (definitions.lookupFields patch.keys) patch ++ [])) _ :=
    reaches_grouping h.found [] []
  rw [List.append_nil] at onward
  exact .head (moves_of_owned h.toOwned) onward

theorem reaches_of_prepared {groups : List Group} {pending : List Pending}
    (h : Pipeline.Prepared (definitions.pipeline handlers config) context patch
      (definitions.lookupFields patch.keys) groups pending) :
    Reaches config definitions store handlers (.edit context patch) .arrived
      (.asking [] pending []) :=
  .tail (reaches_of_materialized h.toMaterialized) (.assign (mapM_of_passes h.guarded))

/-- **Left alone, a request gets to what the pipeline comes to.** -/
theorem reaches_of_resolve (config : PipelineConfig) (definitions : Definitions) (store : Store)
    (handlers : HandlerRegistry) (context : Context) (patch : Values) :
    Reaches config definitions store handlers (.edit context patch) .arrived
      (match ((definitions.pipeline handlers config).resolve context patch).outcome with
        | .error error => .refused (.patch error)
        | .ok result => .approved result) := by
  have rules := Pipeline.resolves_resolve (definitions.pipeline handlers config) context patch
  generalize ((definitions.pipeline handlers config).resolve context patch).calls = calls,
    ((definitions.pipeline handlers config).resolve context patch).outcome = outcome at rules ⊢
  cases rules with
  | empty nothing => exact .single (.skip (Pipeline.keys_eq_nil_iff.1 nothing))
  | tooLarge large =>
    have something : patch.keys ≠ [] := fun nothing => by
      rw [nothing] at large
      exact Nat.not_lt_zero _ large
    rw [Pipeline.length_keys] at large ⊢
    exact .single (.tooLarge (isEmpty_eq_false_of_keys something) large)
  | unanswered _ noAnswer => cases noAnswer
  | ownerless answered stop =>
    obtain rfl := Definitions.fields_eq_of_answered answered
    exact .single (.ownerless (isEmpty_eq_false_of_keys answered.nonempty)
      (Pipeline.length_keys patch ▸ answered.bounded) (groupByOwner_of_stopsAt stop))
  | groupless owned stop =>
    obtain rfl := Definitions.fields_eq_of_answered owned.toAnswered
    obtain ⟨groups, known⟩ := stop.exists_passes
    obtain ⟨rest, split⟩ := stop.exists_append
    have first : Moves config definitions store handlers (.edit context patch) .arrived _ :=
      moves_of_owned owned
    rw [shares, split, List.map_append] at first
    refine .head first (.tail (reaches_grouping known [] _) (.groupless ?_))
    rw [Pipeline.result_materialize, stop.check_failed]
    rfl
  | unguarded materialized split earlier none =>
    obtain rfl := Definitions.fields_eq_of_answered materialized.toAnswered
    exact .tail (reaches_of_materialized materialized) (.unguarded (mapM_of_stopsAt
      (Pipeline.stopsAt_assign_iff.2 ⟨⟨_, split⟩, earlier, none, rfl⟩).map))
  | @approved _ _ _ patches result prepared approvals filed =>
    rw [← Pending.passes_iff_approve] at approvals
    obtain rfl := Definitions.fields_eq_of_answered prepared.toAnswered
    have ascending : (patches.map (·.group.id)).Pairwise (· < ·) :=
      prepared.ids_of_passes approvals ▸ pairwise_owners _ _
    obtain rfl : result = .collect patches :=
      PatchResult.ext_toList (filed.trans (PatchResult.toList_collect ascending).symm)
    exact (reaches_of_prepared prepared).trans (.tail (reaches_asking approvals []) .gather)
  | refusedInTurn prepared mode first =>
    have stop := Pending.stopsAt_iff_failsFirst.2 first
    obtain rfl := Definitions.fields_eq_of_answered prepared.toAnswered
    exact (reaches_of_prepared prepared).trans (reaches_refused_in_turn stop [])
  | refusedTogether prepared mode first =>
    have stop := Pending.stopsAt_iff_failsFirst.2 first
    obtain rfl := Definitions.fields_eq_of_answered prepared.toAnswered
    exact (reaches_of_prepared prepared).trans ((reaches_started mode [] _ []).trans
      (reaches_refused_together stop (completionOrder_perm ..) []))

/-! ## Up to the answer -/

namespace Traffic

variable {traffic : Traffic} {number since : Nat} {visit : Visit} {next : Standing}

theorem advance_self (there : traffic.visits[number]? = some visit) :
    traffic.advance number visit visit.standing = traffic := by
  obtain ⟨inside, same⟩ := List.getElem?_eq_some_iff.1 there
  rw [advance, ← same]
  exact congrArg (Traffic.mk _ _ _) (List.set_getElem_self inside)

theorem visits_advance_self (there : traffic.visits[number]? = some visit) :
    (traffic.advance number visit next).visits[number]? = some { visit with standing := next } :=
  List.getElem?_set_self (List.getElem?_eq_some_iff.1 there).1

theorem advance_advance (between : Standing) :
    (traffic.advance number visit between).advance number { visit with standing := between } next =
      traffic.advance number visit next :=
  congrArg (Traffic.mk _ _ _) (List.set_set ..)

/-- What a request can reach by its own turns, it reaches while all others wait. -/
theorem turns_of_reaches (there : traffic.visits[number]? = some visit)
    (reaches : Reaches config traffic.definitions traffic.store visit.handlers visit.question
      visit.standing next) :
    ∃ turns, (∀ turn ∈ turns, turn = .work number) ∧
      Turns (Step config) traffic turns (traffic.advance number visit next) := by
  induction reaches with
  | refl => exact ⟨[], nofun, (advance_self there).symm ▸ .stay _⟩
  | @tail between next _ moves ih =>
    obtain ⟨turns, alone, reached⟩ := ih
    have last : Step config (traffic.advance number visit between) (.work number) _ :=
      .work (visits_advance_self there) moves
    rw [advance_advance] at last
    refine ⟨turns ++ [.work number], fun turn hmem => ?_, reached.append (.move last (.stay _))⟩
    rcases List.mem_append.1 hmem with hmem | hmem
    · exact alone turn hmem
    · exact List.mem_singleton.1 hmem

theorem enter_advance (between : Standing) (result : PatchResult) :
    (traffic.advance number visit between).enter number { visit with standing := between } context
      result = traffic.enter number visit context result :=
  congrArg (Traffic.mk _ _ _) (List.set_set ..)

/-- What was checked is written and confirmed. -/
theorem turns_write {result : PatchResult} (there : traffic.visits[number]? = some visit)
    (asks : visit.question = .edit context patch) :
    Turns (Step config) (traffic.advance number visit (.checked result))
      [.write number, .work number]
      { traffic.enter number visit context result with
        visits := traffic.visits.set number { visit with standing := .shown result.flatten } } := by
  have write : Step config (traffic.advance number visit (.checked result)) (.write number) _ :=
    .write (visits_advance_self there) asks rfl
  rw [enter_advance] at write
  have confirms : Moves config traffic.definitions (traffic.enter number visit context result).store
      visit.handlers visit.question (.written result) (.shown result.flatten) := asks ▸ .confirm
  have confirm : Step config (traffic.enter number visit context result) (.work number) _ :=
    .work (visits_advance_self there) confirms
  refine .move write (.move confirm ?_)
  simp only [enter, advance, List.set_set]
  exact .stay _

/-- **Left alone, a request to change a post does what the service does for it.** -/
theorem exists_turns_applyPatch (service : Service)
    (wired : service.registries = Definitions.registries)
    (there : traffic.visits[number]? =
      some ⟨.edit context patch, service.handlers, since, .arrived⟩) (health : Health)
    (uptime : Nat) :
    let outcome := service.applyPatch ⟨traffic.definitions, traffic.store, health, uptime⟩ context
      patch
    ∃ turns after, (∀ turn ∈ turns, turn = .work number ∨ turn = .write number) ∧
      Turns (Step service.pipeline) traffic turns after ∧
      after.definitions = traffic.definitions ∧ after.store = outcome.store ∧
      after.visits = traffic.visits.set number
        ⟨.edit context patch, service.handlers, since, .answered outcome.response⟩ := by
  intro outcome
  have reaches := reaches_of_resolve service.pipeline traffic.definitions traffic.store
    service.handlers context patch
  rw [← Service.pipelineOver_eq wired] at reaches
  cases resolved : ((service.pipelineOver traffic.definitions).resolve context patch).outcome with
  | error error =>
    rw [resolved] at reaches
    obtain ⟨turns, alone, reached⟩ := turns_of_reaches there reaches
    refine ⟨turns, _, fun turn hmem => .inl (alone turn hmem), reached, rfl, ?_, ?_⟩
    · simp only [outcome, Service.applyPatch, resolved]
      rfl
    · simp only [outcome, Service.applyPatch, resolved]
      rfl
  | ok approved =>
    rw [resolved] at reaches
    cases storable : Store.patchError? traffic.definitions approved with
    | some error =>
      have refused : traffic.store.commit traffic.definitions context.target approved =
          .error error := by rw [Store.commit, storable]
      obtain ⟨turns, alone, reached⟩ :=
        turns_of_reaches there (reaches.tail (.unstorable storable))
      refine ⟨turns, _, fun turn hmem => .inl (alone turn hmem), reached, rfl, ?_, ?_⟩
      · simp only [outcome, Service.applyPatch, resolved, refused]
        rfl
      · simp only [outcome, Service.applyPatch, resolved, refused]
        rfl
    | none =>
      have stored : traffic.store.commit traffic.definitions context.target approved =
          .ok (traffic.store.lay context.target approved.flatten) :=
        Store.commit_of_storable storable
      obtain ⟨turns, alone, reached⟩ := turns_of_reaches there (reaches.tail (.check storable))
      have all := reached.append (turns_write there rfl)
      refine ⟨_, _, fun turn hmem => ?_, all, rfl, ?_, ?_⟩
      · rcases List.mem_append.1 hmem with hmem | hmem
        · exact .inl (alone turn hmem)
        · rcases List.mem_cons.1 hmem with write | hmem
          · exact .inr write
          · exact .inl (List.mem_singleton.1 hmem)
      · simp only [outcome, Service.applyPatch, resolved, stored, enter]
      · simp only [outcome, Service.applyPatch, resolved, stored, Outcome.answer, Standing.shown]

/-- **Left alone, a request to show a post shows what the service shows.** -/
theorem exists_turns_readPost (service : Service) {request : Http.Request} {segment : String}
    (asks : Service.readRequest service.network request segment = .ok context)
    (there : traffic.visits[number]? = some ⟨.view context, handlers, since, .arrived⟩)
    (health : Health) (uptime : Nat) :
    let outcome := service.readPost ⟨traffic.definitions, traffic.store, health, uptime⟩ request
      segment
    ∃ turns, (∀ turn ∈ turns, turn = .work number) ∧
      Turns (Step config) traffic turns
        (traffic.advance number ⟨.view context, handlers, since, .arrived⟩
          (.answered outcome.response)) := by
  intro outcome
  have shown : Standing.answered outcome.response =
      .shown (traffic.store.values context.target) := by
    simp only [outcome, Service.readPost, asks, Outcome.answer, Standing.shown]
  rw [shown]
  exact turns_of_reaches there (.head .look (.single .display))

end Traffic

end PropertyGate
