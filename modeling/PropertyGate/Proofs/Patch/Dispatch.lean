import Mathlib.Data.List.Nodup
import PropertyGate.Patch.Dispatch
import PropertyGate.Policy.Rule
import PropertyGate.Proofs.FirstFailure
import PropertyGate.Property.Lemmas

/-!
# Proofs/Patch/Dispatch — the order in which handlers finish

Handlers that run one after the other and handlers that run together fold their outcomes in the same
way, so a run is described by the order in which the handlers finish: it collects what was approved
(`joinOutcomes_of_passes`), or ends with the error of the first that fails
(`joinOutcomes_of_stopsAt`).  Results of groups with ids of their own can be collected in any order
(`collect_eq_of_perm`), and hence **running handlers together comes to the same as running them one
after the other**, however they finish (`runTogether_agrees_with_runSequentially`).
-/

namespace PropertyGate

variable {context : Context} {pending finished passed : List Pending} {failed : Pending}
  {patches : List GroupPatch} {error : PatchError}

/-! ## What becomes of one group -/

namespace Pending

/-- **The error that the failure of a handler becomes**: a refusal becomes the denial of its group,
a crash an internal error. -/
inductive Fails (context : Context) (pending : Pending) : PatchError → Prop where
  | refused (rejection : Rejection)
      (verdict : (pending.reply context).verdict = .rejected rejection) :
      Fails context pending (.permissionDenied pending.patch.group.name rejection)
  | crashed (text : Option String) (verdict : (pending.reply context).verdict = .crashed text) :
      Fails context pending (.ofCrash text)

theorem outcome_eq_error_iff {pending : Pending} :
    pending.outcome context = .error error ↔ pending.Fails context error := by
  rw [outcome]
  constructor
  · intro h
    split at h
    · cases h
    · rename_i rejection verdict
      cases h
      exact .refused rejection verdict
    · rename_i text verdict
      cases h
      exact .crashed text verdict
  · rintro (⟨rejection, verdict⟩ | ⟨text, verdict⟩)
    · rw [verdict]
    · rw [verdict]

/-- **What an approval makes of a group**: it has the values that its handler returned. -/
def Approves (context : Context) (pending : Pending) (patch : GroupPatch) : Prop :=
  ∃ values, (pending.reply context).verdict = .approved values ∧
    patch = { pending.patch with values }

theorem outcome_eq_ok_iff {pending : Pending} {patch : GroupPatch} :
    pending.outcome context = .ok patch ↔ pending.Approves context patch := by
  rw [outcome, Approves]
  constructor
  · intro h
    split at h
    · rename_i values verdict
      cases h
      exact ⟨values, verdict, rfl⟩
    · cases h
    · cases h
  · rintro ⟨values, verdict, rfl⟩
    rw [verdict]

/-- **The first of some handlers that fails**, and the error that its failure becomes; the handlers
before it approve. -/
structure FailsFirst (context : Context) (pending passed : List Pending) (failed : Pending)
    (error : PatchError) : Prop where
  split : ∃ rest, pending = passed ++ failed :: rest
  earlier : ∀ one ∈ passed, ∃ patch, one.Approves context patch
  fails : failed.Fails context error

theorem stopsAt_iff_failsFirst :
    StopsAt (outcome · context) pending passed failed error ↔
      FailsFirst context pending passed failed error := by
  simp only [stopsAt_iff, outcome_eq_ok_iff, outcome_eq_error_iff]
  exact ⟨fun ⟨split, earlier, fails⟩ => ⟨split, earlier, fails⟩,
    fun ⟨split, earlier, fails⟩ => ⟨split, earlier, fails⟩⟩

/-- Handlers pass just if each of them approves of its group. -/
theorem passes_iff_approve :
    Passes (outcome · context) pending patches ↔
      List.Forall₂ (Approves context) pending patches := by
  constructor
  · intro h
    induction h with
    | nil => exact .nil
    | cons pass _ ih => exact .cons (outcome_eq_ok_iff.1 pass) ih
  · intro h
    induction h with
    | nil => exact .nil
    | cons approves _ ih => exact .cons (outcome_eq_ok_iff.2 approves) ih

/-- Approving, a handler changes values and never the group. -/
theorem group_of_outcome_eq_ok {pending : Pending} {patch : GroupPatch}
    (h : pending.outcome context = .ok patch) : pending.patch.group = patch.group := by
  obtain ⟨values, -, rfl⟩ := outcome_eq_ok_iff.1 h
  rfl

end Pending

/-! ## Collecting -/

namespace PatchResult

variable {result : PatchResult}

theorem ext_get? {result' : PatchResult} (h : ∀ id, result.get? id = result'.get? id) :
    result = result' :=
  congrArg PatchResult.mk (TextMap.ext_get? h)

theorem ext_toList {result' : PatchResult} (h : result.toList = result'.toList) :
    result = result' :=
  ext_get? fun id => congrArg (Entries.get? id) h

/-- Patches of different groups can be filed in either order. -/
theorem insert_comm {a b : GroupPatch} (h : a.group.id ≠ b.group.id) :
    (result.insert a).insert b = (result.insert b).insert a := by
  refine ext_get? fun id => ?_
  simp only [get?_insert]
  by_cases ha : a.group.id = id
  · rw [if_neg fun hb => h (ha.trans hb.symm), if_pos ha, if_pos ha]
  · rw [if_neg ha, if_neg ha]

/-- **Patches of different groups can be collected in any order.** -/
theorem collect_eq_of_perm {patches patches' : List GroupPatch}
    (distinct : (patches.map (·.group.id)).Nodup) (order : patches'.Perm patches) :
    collect patches' = collect patches := by
  refine (order.symm.foldl_eq' (fun a ha b hb result => ?_) empty).symm
  by_cases hid : a.group.id = b.group.id
  · rw [List.inj_on_of_nodup_map distinct ha hb hid]
  · exact insert_comm hid

theorem groups_foldl_insert (patches : List GroupPatch) (result : PatchResult) :
    (patches.foldl insert result).groups =
      (patches.map fun patch => (patch.group.id, patch)).foldl
        (fun filed entry => filed.insert entry.1 entry.2) result.groups := by
  induction patches generalizing result with
  | nil => rfl
  | cons patch rest ih => exact ih (result.insert patch)

/-- Collecting patches in ascending order lists them as they are, each under its id. -/
theorem toList_collect (ascending : (patches.map (·.group.id)).Pairwise (· < ·)) :
    (collect patches).toList = patches.map fun patch => (patch.group.id, patch) := by
  have keyed : Entries.Ascending (patches.map fun patch => (patch.group.id, patch)) :=
    List.pairwise_map.2 (List.pairwise_map.1 ascending)
  refine Entries.eq_of_get?_eq (TextMap.ascending _) keyed fun id => ?_
  change (collect patches).groups.get? id = _
  rw [collect, groups_foldl_insert, TextMap.get?_foldl_insert, Entries.get?_reverse keyed]
  exact Option.or_none

end PatchResult

/-! ## Joining -/

theorem joinOutcomes_of_passes (h : Passes (Pending.outcome · context) finished patches) :
    joinOutcomes (finished.map (·.outcome context)) = .ok (.collect patches) := by
  rw [joinOutcomes, List.foldlM_map]
  refine (foldlM_of_passes h _).trans (congrArg Except.ok ?_)
  have collected : (finished.zip patches).map Prod.snd = patches :=
    List.map_snd_zip (Nat.le_of_eq h.length_eq.symm)
  exact List.foldl_map.symm.trans (congrArg (List.foldl PatchResult.insert .empty) collected)

theorem joinOutcomes_of_stopsAt
    (h : StopsAt (Pending.outcome · context) finished passed failed error) :
    joinOutcomes (finished.map (·.outcome context)) = .error error := by
  rw [joinOutcomes, List.foldlM_map]
  exact foldlM_of_stopsAt h _

/-- A run succeeds exactly when every handler approves. -/
theorem joinOutcomes_eq_ok_iff {result : PatchResult} :
    joinOutcomes (finished.map (·.outcome context)) = .ok result ↔
      ∃ patches, Passes (Pending.outcome · context) finished patches ∧
        result = .collect patches := by
  constructor
  · intro joined
    rcases passes_or_stopsAt (Pending.outcome · context) finished with ⟨patches, h⟩ | ⟨_, _, _, h⟩
    · exact ⟨patches, h, Except.ok.inj (joined.symm.trans (joinOutcomes_of_passes h))⟩
    · exact nomatch joined.symm.trans (joinOutcomes_of_stopsAt h)
  · rintro ⟨patches, h, rfl⟩
    exact joinOutcomes_of_passes h

/-- A run fails with the error of the handler that is the first to fail. -/
theorem joinOutcomes_eq_error_iff :
    joinOutcomes (finished.map (·.outcome context)) = .error error ↔
      ∃ passed failed, StopsAt (Pending.outcome · context) finished passed failed error := by
  constructor
  · intro joined
    rcases passes_or_stopsAt (Pending.outcome · context) finished with
      ⟨_, h⟩ | ⟨passed, failed, error', h⟩
    · exact nomatch joined.symm.trans (joinOutcomes_of_passes h)
    · obtain rfl := Except.error.inj (joined.symm.trans (joinOutcomes_of_stopsAt h))
      exact ⟨passed, failed, h⟩
  · rintro ⟨_, _, h⟩
    exact joinOutcomes_of_stopsAt h

/-! ## Running handlers -/

theorem throughFirstFailure_of_passes (h : Passes (Pending.outcome · context) pending patches) :
    throughFirstFailure context pending = pending := by
  induction h with
  | nil => rfl
  | cons pass _ ih =>
    rw [throughFirstFailure, pass]
    exact congrArg _ ih

theorem throughFirstFailure_of_stopsAt
    (h : StopsAt (Pending.outcome · context) pending passed failed error) :
    throughFirstFailure context pending = passed ++ [failed] := by
  induction h with
  | here fail =>
    rw [throughFirstFailure, fail]
    rfl
  | later pass _ ih =>
    rw [throughFirstFailure, pass]
    exact congrArg _ ih

/-- Where the first groups are approved, the others decide how far a run gets. -/
theorem throughFirstFailure_append (h : Passes (Pending.outcome · context) passed patches)
    (rest : List Pending) :
    throughFirstFailure context (passed ++ rest) = passed ++ throughFirstFailure context rest := by
  induction h with
  | nil => rfl
  | cons pass _ ih =>
    rw [List.cons_append, throughFirstFailure, pass]
    exact congrArg _ ih

/-- A first handler is called, and others after it at most. -/
theorem exists_throughFirstFailure_cons (context : Context) (one : Pending) (rest : List Pending) :
    ∃ more, throughFirstFailure context (one :: rest) = one :: more := by
  rw [throughFirstFailure]
  split
  · exact ⟨_, rfl⟩
  · exact ⟨[], rfl⟩

/-- Those that are asked come in the order of all. -/
theorem throughFirstFailure_sublist (context : Context) (pending : List Pending) :
    (throughFirstFailure context pending).Sublist pending := by
  induction pending with
  | nil => exact .slnil
  | cons one rest ih =>
    rw [throughFirstFailure]
    split
    · exact ih.cons_cons one
    · exact (List.nil_sublist rest).cons_cons one

theorem map_call_atOnce (calls : List Call) : (atOnce calls).map (·.call) = calls :=
  (List.map_map ..).trans (List.map_id _)

/-- Calls are made in the order of the handlers, from whatever moment on. -/
theorem map_call_callsFrom (context : Context) (moment : Nat) (pending : List Pending) :
    (callsFrom context moment pending).map (·.call) = pending.map (·.call context) := by
  induction pending generalizing moment with
  | nil => rfl
  | cons one rest ih => exact congrArg (one.call context :: ·) (ih _)

theorem calls_runSequentially (context : Context) (pending : List Pending) :
    (runSequentially context pending).calls =
      (throughFirstFailure context pending).map (·.call context) := map_call_callsFrom ..

theorem calls_runTogether (context : Context) (pending finished : List Pending) :
    (runTogether context pending finished).calls = pending.map (·.call context) :=
  map_call_atOnce _

/-- One after the other, handlers that all approve are all asked. -/
theorem calls_runSequentially_of_passes (h : Passes (Pending.outcome · context) pending patches) :
    (runSequentially context pending).calls = pending.map (·.call context) := by
  rw [calls_runSequentially, throughFirstFailure_of_passes h]

/-- One after the other, nobody is asked after the first that fails. -/
theorem calls_runSequentially_of_stopsAt
    (h : StopsAt (Pending.outcome · context) pending passed failed error) :
    (runSequentially context pending).calls = (passed ++ [failed]).map (·.call context) := by
  rw [calls_runSequentially, throughFirstFailure_of_stopsAt h]

/-- Leaving off what is never asked does not change what comes of a run. -/
theorem outcome_runSequentially (context : Context) (pending : List Pending) :
    (runSequentially context pending).outcome = joinOutcomes (pending.map (·.outcome context)) := by
  change joinOutcomes ((throughFirstFailure context pending).map (·.outcome context)) = _
  rcases passes_or_stopsAt (Pending.outcome · context) pending with ⟨_, h⟩ | ⟨_, _, _, h⟩
  · rw [throughFirstFailure_of_passes h]
  · rw [throughFirstFailure_of_stopsAt h, joinOutcomes_of_stopsAt h]
    exact joinOutcomes_of_stopsAt h.through_failed

theorem outcome_runTogether (context : Context) (pending finished : List Pending) :
    (runTogether context pending finished).outcome =
      joinOutcomes (finished.map (·.outcome context)) := rfl

/-- Handlers finish in some order of those that were started. -/
theorem completionOrder_perm (context : Context) (pending : List Pending) :
    (completionOrder context pending).Perm pending := List.mergeSort_perm ..

/-! ## Any order of completion -/

/-- **However they finish, handlers that all approve come to the same result.** -/
theorem joinOutcomes_of_perm (distinct : (pending.map (·.patch.group.id)).Nodup)
    (order : finished.Perm pending) (h : Passes (Pending.outcome · context) pending patches) :
    joinOutcomes (finished.map (·.outcome context)) = .ok (.collect patches) := by
  obtain ⟨patches', h', perm⟩ := h.exists_of_perm order
  have ids : pending.map (·.patch.group.id) = patches.map (·.group.id) :=
    h.map_eq fun _ _ pass => congrArg Group.id (Pending.group_of_outcome_eq_ok pass)
  refine (joinOutcomes_of_passes h').trans (congrArg Except.ok ?_)
  exact PatchResult.collect_eq_of_perm (ids ▸ distinct) perm

/-- **Of groups with ids of their own that are all approved, in either mode, every one is asked once
and has its entry in the result.** -/
theorem dispatch_of_passes (distinct : (pending.map (·.patch.group.id)).Nodup)
    (h : Passes (Pending.outcome · context) pending patches) (mode : DispatchMode) :
    (dispatch mode context pending).calls = pending.map (·.call context) ∧
      (dispatch mode context pending).outcome = .ok (.collect patches) := by
  cases mode with
  | sequential =>
    refine ⟨calls_runSequentially_of_passes h, ?_⟩
    exact (outcome_runSequentially ..).trans (joinOutcomes_of_passes h)
  | concurrent =>
    exact ⟨calls_runTogether .., joinOutcomes_of_perm distinct (completionOrder_perm ..) h⟩

/-- In either mode a run succeeds exactly when every handler approves. -/
theorem dispatch_eq_ok_iff {mode : DispatchMode} {result : PatchResult}
    (distinct : (pending.map (·.patch.group.id)).Nodup) :
    (dispatch mode context pending).outcome = .ok result ↔
      ∃ patches, Passes (Pending.outcome · context) pending patches ∧
        result = .collect patches := by
  constructor
  · intro joined
    obtain ⟨patches, h⟩ : ∃ patches, Passes (Pending.outcome · context) pending patches := by
      cases mode with
      | sequential =>
        obtain ⟨patches, h, -⟩ :=
          joinOutcomes_eq_ok_iff.1 ((outcome_runSequentially ..).symm.trans joined)
        exact ⟨patches, h⟩
      | concurrent =>
        obtain ⟨_, h, -⟩ := joinOutcomes_eq_ok_iff.1 joined
        obtain ⟨patches, h', -⟩ := h.exists_of_perm (completionOrder_perm context pending).symm
        exact ⟨patches, h'⟩
    exact ⟨patches, h, Except.ok.inj (joined.symm.trans (dispatch_of_passes distinct h mode).2)⟩
  · rintro ⟨patches, h, rfl⟩
    exact (dispatch_of_passes distinct h mode).2

/-- The pending groups whose handlers are asked. -/
def asked (mode : DispatchMode) (context : Context) (pending : List Pending) : List Pending :=
  match mode with
  | .sequential => throughFirstFailure context pending
  | .concurrent => pending

theorem calls_dispatch (mode : DispatchMode) (context : Context) (pending : List Pending) :
    (dispatch mode context pending).calls = (asked mode context pending).map (·.call context) := by
  cases mode with
  | concurrent => exact calls_runTogether ..
  | sequential => exact calls_runSequentially ..

theorem mem_throughFirstFailure_iff {one : Pending} :
    one ∈ throughFirstFailure context pending ↔
      ∃ before after, pending = before ++ one :: after ∧
        ∀ earlier ∈ before, ∃ patch, earlier.outcome context = .ok patch := by
  induction pending with
  | nil => simp [throughFirstFailure]
  | cons head rest ih =>
    have first : (∃ before after, head :: rest = before ++ one :: after ∧
          ∀ earlier ∈ before, ∃ patch, earlier.outcome context = .ok patch) ↔
        one = head ∨ (∃ patch, head.outcome context = .ok patch) ∧
          ∃ before after, rest = before ++ one :: after ∧
            ∀ earlier ∈ before, ∃ patch, earlier.outcome context = .ok patch := by
      constructor
      · rintro ⟨_ | ⟨front, before⟩, after, split, passed⟩
        · exact .inl (List.cons.inj split).1.symm
        · obtain ⟨rfl, rfl⟩ := List.cons.inj split
          refine .inr ⟨passed head List.mem_cons_self, before, after, rfl, fun earlier hmem => ?_⟩
          exact passed earlier (List.mem_cons_of_mem _ hmem)
      · rintro (rfl | ⟨pass, before, after, rfl, passed⟩)
        · exact ⟨[], rest, rfl, nofun⟩
        · refine ⟨head :: before, after, rfl, fun earlier hmem => ?_⟩
          rcases List.mem_cons.1 hmem with rfl | hmem
          · exact pass
          · exact passed earlier hmem
    rw [first, throughFirstFailure]
    cases head.outcome context with
    | error error => simp
    | ok patch => simp [ih]

/-- **Where groups ascend, a handler is asked if those of smaller groups have approved**, in
sequence, and in any case together. -/
theorem mem_asked_iff {mode : DispatchMode} {one : Pending}
    (ascending : (pending.map (·.patch.group.id)).Pairwise (· < ·)) :
    one ∈ asked mode context pending ↔ one ∈ pending ∧
      (mode = .sequential → ∀ earlier ∈ pending, earlier.patch.group.id < one.patch.group.id →
        ∃ patch, earlier.outcome context = .ok patch) := by
  cases mode with
  | concurrent => simp [asked]
  | sequential =>
    rw [asked, mem_throughFirstFailure_iff]
    have order := List.pairwise_map.1 ascending
    constructor
    · rintro ⟨before, after, rfl, passed⟩
      exact ⟨by simp, fun _ earlier hmem smaller =>
        passed earlier (mem_before_of_lt order hmem smaller)⟩
    · rintro ⟨hmem, passed⟩
      obtain ⟨before, after, rfl⟩ := List.append_of_mem hmem
      refine ⟨before, after, rfl, fun earlier hearlier => ?_⟩
      refine passed rfl earlier (List.mem_append_left _ hearlier) ?_
      exact (List.pairwise_append.1 order).2.2 earlier hearlier one List.mem_cons_self

/-- Where one handler alone fails, its error is what any order of completion comes to. -/
theorem joinOutcomes_of_only_failure {before after : List Pending}
    (order : finished.Perm (before ++ failed :: after))
    (others : ∀ other ∈ before ++ after, ∃ patch, other.outcome context = .ok patch)
    (fail : failed.outcome context = .error error) :
    joinOutcomes (finished.map (·.outcome context)) = .error error := by
  rcases passes_or_stopsAt (Pending.outcome · context) finished with
    ⟨_, h⟩ | ⟨passed, stopped, error', h⟩
  · obtain ⟨_, -, pass⟩ := h.exists_of_mem
      (order.mem_iff.2 (List.mem_append_right before List.mem_cons_self))
    exact nomatch pass.symm.trans fail
  · have hmem : stopped ∈ failed :: (before ++ after) :=
      (order.trans List.perm_middle).subset h.mem
    rcases List.mem_cons.1 hmem with rfl | hmem
    · obtain rfl := Except.error.inj (h.check_failed.symm.trans fail)
      exact joinOutcomes_of_stopsAt h
    · obtain ⟨_, pass⟩ := others stopped hmem
      exact nomatch pass.symm.trans h.check_failed

/-- **Handlers that run together agree with handlers that run one after the other**, in whichever
order they finish: both approve or neither does, and groups with ids of their own, as prepared
groups have them, come to one result.  Otherwise the failure that finishes first decides, and where
a single handler fails it decides in both. -/
theorem runTogether_agrees_with_runSequentially (context : Context)
    (pending finished : List Pending) (order : finished.Perm pending) :
    ((∃ result, (runTogether context pending finished).outcome = .ok result) ↔
        ∃ result, (runSequentially context pending).outcome = .ok result) ∧
      ((pending.map (·.patch.group.id)).Nodup → ∀ result,
        (runTogether context pending finished).outcome = .ok result ↔
          (runSequentially context pending).outcome = .ok result) ∧
      (∀ error, (runTogether context pending finished).outcome = .error error ↔
        ∃ passed failed, StopsAt (Pending.outcome · context) finished passed failed error ∧
          failed.Fails context error) ∧
      ∀ before failed after error, pending = before ++ failed :: after →
        (∀ other ∈ before ++ after, ∃ patch, other.outcome context = .ok patch) →
        failed.Fails context error →
        (runTogether context pending finished).outcome = .error error ∧
          (runSequentially context pending).outcome = .error error := by
  simp only [outcome_runTogether, outcome_runSequentially]
  refine ⟨⟨?_, ?_⟩, fun distinct result => ⟨?_, ?_⟩, fun error => ?_,
    fun before failed after error split others fail => ⟨?_, ?_⟩⟩
  · rintro ⟨_, joined⟩
    obtain ⟨_, h, -⟩ := joinOutcomes_eq_ok_iff.1 joined
    obtain ⟨_, h', -⟩ := h.exists_of_perm order.symm
    exact ⟨_, joinOutcomes_of_passes h'⟩
  · rintro ⟨_, joined⟩
    obtain ⟨_, h, -⟩ := joinOutcomes_eq_ok_iff.1 joined
    obtain ⟨_, h', -⟩ := h.exists_of_perm order
    exact ⟨_, joinOutcomes_of_passes h'⟩
  · intro joined
    obtain ⟨_, h, rfl⟩ := joinOutcomes_eq_ok_iff.1 joined
    exact joinOutcomes_of_perm ((order.map _).nodup_iff.2 distinct) order.symm h
  · intro joined
    obtain ⟨_, h, rfl⟩ := joinOutcomes_eq_ok_iff.1 joined
    exact joinOutcomes_of_perm distinct order h
  · rw [joinOutcomes_eq_error_iff]
    refine exists₂_congr fun passed failed => ⟨fun h => ⟨h, ?_⟩, And.left⟩
    exact Pending.outcome_eq_error_iff.1 h.check_failed
  · exact joinOutcomes_of_only_failure (split ▸ order) others (Pending.outcome_eq_error_iff.2 fail)
  · exact joinOutcomes_of_only_failure (.of_eq split) others (Pending.outcome_eq_error_iff.2 fail)

/-- Of three handlers the second refuses and the third, which finishes first, crashes: together they
come to the crash, one after the other to the refusal. -/
theorem runTogether_crash_before_refusal :
    let context : Context := ⟨"p1", "u1"⟩
    let approving : Pending := ⟨⟨⟨"g1", "first"⟩, .empty⟩, Rule.identity.handler 0⟩
    let refusing : Pending := ⟨⟨⟨"g2", "second"⟩, .empty⟩, (Rule.reject ⟨403, "no"⟩).handler 9⟩
    let crashing : Pending := ⟨⟨⟨"g3", "third"⟩, .empty⟩, (Rule.crash none).handler 3⟩
    [crashing, approving, refusing].Perm [approving, refusing, crashing] ∧
      (runTogether context [approving, refusing, crashing]
        [crashing, approving, refusing]).outcome =
        .error (.ofCrash none) ∧
      (runSequentially context [approving, refusing, crashing]).outcome =
        .error (.permissionDenied "second" ⟨403, "no"⟩) := by
  intro context approving refusing crashing
  have order : ([crashing] ++ [approving, refusing]).Perm ([approving, refusing] ++ [crashing]) :=
    List.perm_append_comm
  have agree := runTogether_agrees_with_runSequentially context _ _ order
  exact ⟨order, (agree.2.2.1 _).2 ⟨[], crashing, .here rfl, .crashed none rfl⟩, rfl⟩

end PropertyGate
