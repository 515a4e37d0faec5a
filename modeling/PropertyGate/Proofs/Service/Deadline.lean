import PropertyGate.Proofs.Patch.Resolution
import PropertyGate.Proofs.Service.Layers

/-!
# Proofs/Service/Deadline — what is asked before a deadline passes

A request asks others while it is worked on, and it asks the store to keep something when everything
else is done (`Outcome.Paced`).  A deadline breaks off the work where it is.  So **nothing is asked
once the deadline has passed, and whoever is given up has not asked the store to keep anything**
(`asked_in_time`).
-/

namespace PropertyGate

open Http (Request Response)

/-- Whether the store is asked to keep something. -/
def Call.commits : Call → Bool
  | .commit .. => true
  | _ => false

variable {context : Context} {patch : Values} {pending : List Pending} {made : TimedCall}

/-! ## While handlers run -/

/-- One after the other, handlers are called before the last of them has answered. -/
theorem moment_callsFrom_le {start : Nat} (h : made ∈ callsFrom context start pending) :
    made.moment ≤
      start + pending.foldr (fun one time => (one.reply context).delay + time) 0 := by
  induction pending generalizing start with
  | nil => cases h
  | cons one rest ih =>
    rw [List.foldr_cons]
    rcases List.mem_cons.1 h with rfl | h
    · exact Nat.le_add_right ..
    · exact Nat.le_trans (ih h) (Nat.le_of_eq (Nat.add_assoc ..))

theorem moment_le_of_mem_atOnce {calls : List Call} (h : made ∈ atOnce calls) (time : Nat) :
    made.moment ≤ time := by
  obtain ⟨call, -, rfl⟩ := List.mem_map.1 h
  exact Nat.zero_le time

theorem moment_dispatch_le {mode : DispatchMode}
    (h : made ∈ (dispatch mode context pending).log) :
    made.moment ≤ (dispatch mode context pending).elapsed := by
  cases mode with
  | concurrent => exact moment_le_of_mem_atOnce h _
  | sequential => exact Nat.le_trans (moment_callsFrom_le h) (Nat.le_of_eq (Nat.zero_add _))

namespace Pipeline

variable {pipeline : Pipeline}

/-- **A patch is resolved by asking while it lasts.** -/
theorem moment_resolve_le (h : made ∈ (pipeline.resolve context patch).log) :
    made.moment ≤ (pipeline.resolve context patch).elapsed := by
  rw [resolve] at h ⊢
  split at h
  · cases h
  · rename_i nonempty
    rw [if_neg nonempty]
    split at h
    · cases h
    · rename_i bounded
      rw [if_neg bounded]
      dsimp only at h ⊢
      split at h
      · exact moment_le_of_mem_atOnce h _
      · exact (List.mem_append.1 h).elim (moment_le_of_mem_atOnce · _) moment_dispatch_le

/-- No store is asked to keep anything while a patch is resolved. -/
theorem commits_of_mem_resolve {call : Call} (h : call ∈ (pipeline.resolve context patch).calls) :
    call.commits = false := by
  rcases mem_calls_resolve h with rfl | ⟨groupId, rfl⟩ | ⟨one, rfl⟩ <;> rfl

end Pipeline

/-! ## While a request is worked on -/

/-- **The outcome is paced**: calls are made while the work lasts, and the store is asked to keep
something at its end. -/
structure Outcome.Paced (outcome : Outcome) : Prop where
  lasts : ∀ made ∈ outcome.log, made.moment ≤ outcome.elapsed
  commits : ∀ made ∈ outcome.log, made.call.commits = true → made.moment = outcome.elapsed

namespace Outcome.Paced

variable {snapshot : Snapshot} {outcome : Outcome}

theorem answer (response : Response) : Paced (.answer snapshot response) := ⟨nofun, nofun⟩

theorem mapResponse (h : Paced outcome) (f : Response → Response) : Paced (outcome.mapResponse f) :=
  ⟨h.lasts, h.commits⟩

/-- Whatever becomes of the health of the service, the pace is the same. -/
theorem withHealth (h : Paced outcome) (health : Health) : Paced { outcome with health } :=
  ⟨h.lasts, h.commits⟩

end Outcome.Paced

/-- **The outcome is in time**: nothing is asked once the deadline has passed, nor when the answer
has been given, and a request that asks the store to keep something is answered before it. -/
structure Outcome.InTime (timeout : Nat) (outcome : Outcome) : Prop where
  asked : ∀ made ∈ outcome.log, made.moment < timeout ∧ made.moment ≤ outcome.elapsed
  commits : ∀ made ∈ outcome.log, made.call.commits = true → outcome.elapsed < timeout

namespace Outcome.InTime

variable {snapshot : Snapshot} {outcome : Outcome} {timeout : Nat}

/-- An answer that is given at once asks nothing. -/
theorem answer (timeout : Nat) (response : Response) :
    InTime timeout (.answer snapshot response) :=
  ⟨List.forall_mem_nil _, List.forall_mem_nil _⟩

theorem mapResponse (h : InTime timeout outcome) (f : Response → Response) :
    InTime timeout (outcome.mapResponse f) :=
  ⟨h.asked, h.commits⟩

end Outcome.InTime

namespace Service

variable {service : Service} {snapshot : Snapshot} {generatedId : String} {request : Request}
  {route : Route}

/-- What a patch is resolved by asking, and what is asked at the end of that, keep pace. -/
theorem paced_of_log {outcome : Outcome} (last : List Call)
    (log : outcome.log = ((service.pipelineOver snapshot.definitions).resolve context patch).log ++
      last.map (⟨outcome.elapsed, ·⟩))
    (elapsed : outcome.elapsed =
      ((service.pipelineOver snapshot.definitions).resolve context patch).elapsed) :
    outcome.Paced := by
  have resolving {made : TimedCall}
      (h : made ∈ ((service.pipelineOver snapshot.definitions).resolve context patch).log) :
      made.moment ≤ outcome.elapsed ∧ made.call.commits = false :=
    ⟨elapsed ▸ Pipeline.moment_resolve_le h, Pipeline.commits_of_mem_resolve (List.mem_map_of_mem h)⟩
  have ending {made : TimedCall} (h : made ∈ last.map (TimedCall.mk outcome.elapsed)) :
      made.moment = outcome.elapsed := by
    obtain ⟨call, -, rfl⟩ := List.mem_map.1 h
    rfl
  refine ⟨fun made h => ?_, fun made h commits => ?_⟩ <;> rw [log] at h <;>
    rcases List.mem_append.1 h with h | h
  · exact (resolving h).1
  · exact Nat.le_of_eq (ending h)
  · exact nomatch (resolving h).2.symm.trans commits
  · exact ending h

theorem paced_applyPatch : (service.applyPatch snapshot context patch).Paced := by
  rw [applyPatch]
  dsimp only
  split
  · exact paced_of_log [] (List.append_nil _).symm rfl
  · split
    · exact paced_of_log [.commit ..] rfl rfl
    · exact paced_of_log [.commit ..] rfl rfl

theorem paced_perform (operation : Operation) :
    (service.perform snapshot request operation).Paced := by
  cases operation with
  | showHealth | showLiveness | showReadiness => exact .answer _
  | showTeamStatus segment =>
    rw [perform, showTeamStatus]
    split <;> exact .answer _
  | readPost segment =>
    rw [perform, readPost]
    split
    · exact .answer _
    · exact ⟨by simp [atOnce], by simp [atOnce, Call.commits]⟩
  | patchPost segment =>
    rw [perform, patchPost]
    split
    · exact .answer _
    · exact paced_applyPatch

theorem paced_dispatchMethod : (service.dispatchMethod snapshot request route).Paced := by
  rw [dispatchMethod]
  split
  · exact paced_perform _
  · exact .answer _

/-- **A route works at a pace.** -/
theorem paced_followRoute : (service.followRoute snapshot request).Paced := by
  rw [followRoute]
  split
  · exact .answer _
  · split
    · rw [admitWork]
      split
      · exact .answer _
      · exact paced_dispatchMethod.withHealth _
    · exact paced_dispatchMethod

/-- Breaking off work leaves what was asked until then; the store was not asked to keep anything. -/
theorem inTime_within {outcome : Outcome} (timeout : Nat) (paced : outcome.Paced) :
    (within timeout snapshot outcome).InTime timeout := by
  rw [within]
  split
  · rename_i timely
    exact ⟨fun made h => ⟨Nat.lt_of_le_of_lt (paced.lasts made h) timely, paced.lasts made h⟩,
      fun _ _ _ => timely⟩
  · rename_i late
    refine ⟨fun made h => ?_, fun made h commits => ?_⟩
    · have early : made.moment < timeout := of_decide_eq_true (List.mem_filter.1 h).2
      exact ⟨early, Nat.le_of_lt early⟩
    · obtain ⟨logged, early⟩ := List.mem_filter.1 h
      rw [paced.commits made logged commits] at early
      exact absurd (of_decide_eq_true early) late

/-- **Every request is answered in time.** -/
theorem asked_in_time (service : Service) (snapshot : Snapshot) (generatedId : String)
    (request : Request) :
    (service.respond snapshot generatedId request).InTime service.network.requestTimeout := by
  rw [respond, exchange]
  refine .mapResponse ?_ _
  split
  · exact .answer _ _
  · refine .mapResponse ?_ _
    rw [guarded]
    split
    · exact .answer _ _
    · exact inTime_within _ (paced_followRoute.mapResponse _)

end Service

end PropertyGate
