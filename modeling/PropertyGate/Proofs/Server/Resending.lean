import PropertyGate.Proofs.Service.Alike

/-!
# Proofs/Server/Resending — patches that come in again, and patches in either order

A patch does not see what is stored, so wherever it finds the same declared, and work admitted or not
as before, it is answered alike and lays the same values over those of the same post (`exists_lay`).
Laying values twice is laying them once (`Store.lay_lay_self`); values for different posts, or for
different fields, can be laid in either order (`Store.lay_comm`).  Hence **a patch that comes in again
is answered as before and changes nothing** (`resending_changes_nothing`), and **of two patches that
store nothing in common, either may come first** (`patches_in_either_order`).
-/

namespace PropertyGate

open Http (Request Response Headers)

/-! ## Laying values -/

namespace TextMap

variable {β : Type} {lower upper other : TextMap β}

theorem overlay_overlay_self : (lower.overlay upper).overlay upper = lower.overlay upper := by
  refine ext_get? fun key => ?_
  rw [get?_overlay, get?_overlay]
  cases upper.get? key <;> rfl

/-- Maps that have no key in common can be laid over another in either order. -/
theorem overlay_right_comm (apart : ∀ key, upper.get? key = none ∨ other.get? key = none) :
    (lower.overlay upper).overlay other = (lower.overlay other).overlay upper := by
  refine ext_get? fun key => ?_
  simp only [get?_overlay]
  rcases apart key with none | none
  · rw [none, Option.none_or, Option.none_or]
  · rw [none, Option.none_or, Option.none_or]

end TextMap

namespace Store

variable {store : Store} {target target' : String} {values values' : Values}

theorem ext_get? {a b : Store}
    (h : ∀ target, a.targets.get? target = b.targets.get? target) : a = b :=
  congrArg Store.mk (TextMap.ext_get? h)

/-- **Laying values twice is laying them once.** -/
theorem lay_lay_self : (store.lay target values).lay target values = store.lay target values := by
  by_cases none : values = .empty
  · rw [none, lay_empty, lay_empty]
  · refine ext_get? fun probe => ?_
    by_cases here : probe = target
    · rw [here, get?_targets_lay_self none, get?_targets_lay_self none, values_lay_self,
        TextMap.overlay_overlay_self]
    · rw [get?_targets_lay_of_ne here]

/-- **Values for different posts, or for different fields, can be laid in either order.** -/
theorem lay_comm (apart : target ≠ target' ∨
      ∀ fieldId, values.get? fieldId = none ∨ values'.get? fieldId = none) :
    (store.lay target values).lay target' values' =
      (store.lay target' values').lay target values := by
  by_cases none : values = .empty
  · rw [none, lay_empty, lay_empty]
  by_cases none' : values' = .empty
  · rw [none', lay_empty, lay_empty]
  refine ext_get? fun probe => ?_
  by_cases here : probe = target <;> by_cases there : probe = target'
  · have fields := apart.resolve_left fun differ => differ (here.symm.trans there)
    rw [← here, ← there, get?_targets_lay_self none, get?_targets_lay_self none', values_lay_self,
      values_lay_self, TextMap.overlay_right_comm fields]
  · rw [get?_targets_lay_of_ne there, here, get?_targets_lay_self none, get?_targets_lay_self none,
      values_lay_of_ne (here ▸ there)]
  · rw [get?_targets_lay_of_ne here, there, get?_targets_lay_self none',
      get?_targets_lay_self none', values_lay_of_ne (there ▸ here)]
  · rw [get?_targets_lay_of_ne there, get?_targets_lay_of_ne here, get?_targets_lay_of_ne here,
      get?_targets_lay_of_ne there]

end Store

/-! ## Sendings -/

/-- The reaction is an answer that shows a status and a body. -/
def Reaction.Shows (reaction : Reaction) (status : UInt16) (body : String) : Prop :=
  ∃ response, reaction = .answered response ∧ response.status = status ∧ response.body = body

/-- **A request as it comes in**: with the id that it is given if it has none, and the seconds since
the service came up. -/
structure Sending where
  request : Request
  generatedId : String
  uptime : Nat

namespace Sending

def event (sending : Sending) : Event :=
  .request sending.request sending.generatedId sending.uptime

/-- **The same request comes in again**, for the same requester.  The time and the id that it is given
may be others. -/
structure Repeats (config : NetworkConfig) (again first : Sending) : Prop where
  request : again.request = first.request
  asker : Service.asker config again.generatedId first.request =
    Service.asker config first.generatedId first.request

/-- The id that a request is given plays a part only where the requester is named by it. -/
theorem repeats_of_unseen {config : NetworkConfig} {again first : Sending}
    (request : again.request = first.request)
    (unseen : again.generatedId = first.generatedId ∨
      Text.lower config.requesterHeader ≠ Text.lower Service.requestIdHeader ∨
      ∃ id, Headers.first? first.request.headers Service.requestIdHeader = some id) :
    again.Repeats config first := by
  refine ⟨request, ?_⟩
  rcases unseen with same | other | ⟨id, named⟩
  · rw [same]
  · exact Service.asker_of_ne other
  · rw [Service.asker, Service.asker, Service.withId_of_named named, Service.withId_of_named named]

theorem Repeats.refl (config : NetworkConfig) (sending : Sending) :
    sending.Repeats config sending := ⟨rfl, rfl⟩

end Sending

/-- **What a patch comes to is fixed** by what it finds. -/
theorem Service.Applies.unique {service : Service} {snapshot : Snapshot} {generatedId : String}
    {request : Request} {segment segment' : String} {context context' : Context}
    {patch patch' : Values} {approved approved' : PatchResult}
    (h : Applies service snapshot generatedId request segment context patch approved)
    (h' : Applies service snapshot generatedId request segment' context' patch' approved') :
    approved = approved' := by
  obtain ⟨⟩ := Option.some.inj (h.route.symm.trans h'.route)
  obtain ⟨⟩ := Except.ok.inj (h.wording.symm.trans h'.wording)
  exact Except.ok.inj (h.resolved.symm.trans h'.resolved)

namespace Server

variable {service : Service} {machine : Machine} {server later : Server}
  {sending again a b a' b' : Sending} {target : String} {values : Values}

/-- **A sending stores values for a post**: it is a patch that goes through, and they are what the
handlers approve. -/
def Stores (service : Service) (server : Server) (sending : Sending) (target : String)
    (values : Values) : Prop :=
  ∃ segment context patch approved,
    Service.Applies service (server.snapshot sending.uptime) sending.generatedId sending.request
      segment context patch approved ∧
    context.target = target ∧ approved.flatten = values

/-- What a sending comes to. -/
def comesTo (service : Service) (server : Server) (sending : Sending) : Outcome :=
  server.outcome service sending.request sending.generatedId sending.uptime

/-- What a patch that goes through stores is laid over the values of its post. -/
theorem store_step_of_applies (sending : Sending) {segment : String} {context : Context}
    {patch : Values} {approved : PatchResult}
    (h : Service.Applies service (server.snapshot sending.uptime) sending.generatedId
      sending.request segment context patch approved) :
    (server.step service machine sending.event).1.store =
      server.store.lay context.target approved.flatten := h.respond.2.2.1

/-- A request changes nothing of what patches see. -/
theorem matches_step (uptime uptime' : Nat) :
    Snapshot.Matches ((server.step service machine sending.event).1.snapshot uptime)
      (server.snapshot uptime') where
  definitions := rfl
  admits := by
    have kept : (server.comesTo service sending).health = server.health := Service.health_respond
    change (server.comesTo service sending).health.state.isShuttingDown = _
    rw [kept]
    rfl

/-- A patch that is answered alike is shown the same. -/
theorem exists_shows
    (alike : Outcome.Alike (server.comesTo service sending) (later.comesTo service again)) :
    ∃ status body, (server.step service machine sending.event).2.Shows status body ∧
      (later.step service machine again.event).2.Shows status body :=
  ⟨_, _, ⟨_, rfl, rfl, rfl⟩, _, rfl, alike.status.symm, alike.body.symm⟩

/-- **A patch that comes in again is answered alike**, wherever it finds the same. -/
theorem alike_comesTo (asks : sending.request.method = "PATCH")
    (repeats : again.Repeats service.network sending)
    (matching : (later.snapshot again.uptime).Matches (server.snapshot sending.uptime)) :
    Outcome.Alike (server.comesTo service sending) (later.comesTo service again) := by
  rw [comesTo, comesTo, repeats.request]
  exact Service.alike_respond matching.symm asks repeats.asker.symm

/-- **What a request does to what is stored it does wherever it finds the same**: it lays the values
that it stores over those of a post, or none. -/
theorem exists_lay (service : Service) (machine : Machine) (server : Server) (sending : Sending) :
    ∃ target values, (values = .empty ∨ server.Stores service sending target values) ∧
      ∀ (later : Server) (again : Sending), again.Repeats service.network sending →
        (later.snapshot again.uptime).Matches (server.snapshot sending.uptime) →
        (later.step service machine again.event).1.store = later.store.lay target values := by
  by_cases through : ∃ segment context patch approved,
      Service.Applies service (server.snapshot sending.uptime) sending.generatedId sending.request
        segment context patch approved
  · obtain ⟨segment, context, patch, approved, applies⟩ := through
    refine ⟨context.target, approved.flatten, .inr ⟨_, _, _, _, applies, rfl, rfl⟩, ?_⟩
    intro later again repeats matching
    have transferred := applies.transfer matching.symm repeats.asker.symm
    rw [← repeats.request] at transferred
    exact store_step_of_applies again transferred
  · refine ⟨"", .empty, .inl rfl, fun later again repeats matching => ?_⟩
    rw [Store.lay_empty]
    refine Service.applies_or_store_respond_eq.resolve_left ?_
    rintro ⟨segment, context, patch, approved, applies⟩
    rw [repeats.request] at applies
    exact through ⟨_, _, _, _, applies.transfer matching repeats.asker⟩

/-- **A patch that comes in again is answered as before, and changes nothing.** -/
theorem resending_changes_nothing (service : Service) (machine : Machine) (server : Server)
    (first again : Sending) (asks : first.request.method = "PATCH")
    (repeats : again.Repeats service.network first) :
    let once := server.step service machine first.event
    let twice := once.1.step service machine again.event
    (∃ status body, once.2.Shows status body ∧ twice.2.Shows status body) ∧
      twice.1.store = once.1.store := by
  intro once twice
  have matching : (once.1.snapshot again.uptime).Matches (server.snapshot first.uptime) :=
    matches_step _ _
  refine ⟨exists_shows (alike_comesTo asks repeats matching), ?_⟩
  obtain ⟨target, values, -, lays⟩ := exists_lay service machine server first
  have stored : once.1.store = server.store.lay target values :=
    lays server first (.refl _ _) ⟨rfl, rfl⟩
  rw [lays once.1 again repeats matching, stored, Store.lay_lay_self]

/-- The sample request is approved anew, under another id and later, and nothing changes. -/
theorem sampleRequest_again_changes_nothing :
    let first : Sending := ⟨sampleRequest, "r1", 0⟩
    let again : Sending := ⟨sampleRequest, "r2", 7⟩
    let once := sampleServer.step sampleService (.working .empty) first.event
    let twice := once.1.step sampleService (.working .empty) again.event
    first.request.method = "PATCH" ∧ again.Repeats sampleService.network first ∧
      (∃ body, once.2.Shows 200 body ∧ twice.2.Shows 200 body) ∧
      twice.1.store = once.1.store ∧
      (once.1.store.values "p1").get? "f" =
        some (.array [.text "p1", .text "u1", .text contentFlaggingGroup]) := by
  intro first again once twice
  have repeats : again.Repeats sampleService.network first :=
    Sending.repeats_of_unseen rfl (.inr (.inl (Text.lower_ne_of_head? (by decide))))
  have success := sampleRequest_applies.respond.1
  obtain ⟨⟨status, body, shown, shown'⟩, same⟩ := resending_changes_nothing sampleService
    (.working .empty) sampleServer first again rfl repeats
  have status : status = 200 := by
    obtain ⟨response, answered, rfl, -⟩ := shown
    obtain rfl := Reaction.answered.inj answered
    exact success
  subst status
  have stored : once.1.store = sampleServer.store.lay "p1" sampleApproved.flatten :=
    store_step_of_applies first sampleRequest_applies
  refine ⟨rfl, repeats, ⟨body, shown, shown'⟩, same, ?_⟩
  rw [stored, Store.get?_values_lay]
  rfl

/-! ## Two patches -/

/-- **Two sendings are independent** if one of them is not answered with success, or if they store
values for different posts or for different fields. -/
def Independent (service : Service) (server : Server) (a b : Sending) : Prop :=
  (server.comesTo service a).response.status ≠ 200 ∨
    (server.comesTo service b).response.status ≠ 200 ∨
    ∀ target values target' values', server.Stores service a target values →
      server.Stores service b target' values' →
      target ≠ target' ∨ ∀ fieldId, values.get? fieldId = none ∨ values'.get? fieldId = none

theorem Stores.status (h : server.Stores service sending target values) :
    (server.comesTo service sending).response.status = 200 := by
  obtain ⟨_, _, _, _, applies, -, -⟩ := h
  exact applies.respond.1

/-- What independent sendings lay can be laid in either order. -/
theorem Independent.apart {target' : String} {values' : Values}
    (independent : server.Independent service a b)
    (first : values = .empty ∨ server.Stores service a target values)
    (second : values' = .empty ∨ server.Stores service b target' values') :
    target ≠ target' ∨ ∀ fieldId, values.get? fieldId = none ∨ values'.get? fieldId = none := by
  rcases first with rfl | first
  · exact .inr fun _ => .inl rfl
  rcases second with rfl | second
  · exact .inr fun _ => .inr rfl
  rcases independent with declined | declined | apart
  · exact absurd first.status declined
  · exact absurd second.status declined
  · exact apart _ _ _ _ first second

/-- **Of two independent patches either may come first**: each is answered the same, and the same is
stored in the end. -/
theorem patches_in_either_order (service : Service) (machine : Machine) (server : Server)
    (a b a' b' : Sending) (asks : a.request.method = "PATCH") (asks' : b.request.method = "PATCH")
    (repeats : a'.Repeats service.network a) (repeats' : b'.Repeats service.network b)
    (independent : server.Independent service a b) :
    let first := server.step service machine a.event
    let second := first.1.step service machine b.event
    let first' := server.step service machine b'.event
    let second' := first'.1.step service machine a'.event
    (∃ status body, first.2.Shows status body ∧ second'.2.Shows status body) ∧
      (∃ status body, second.2.Shows status body ∧ first'.2.Shows status body) ∧
      second.1.store = second'.1.store := by
  intro first second first' second'
  obtain ⟨target, values, stores, lays⟩ := exists_lay service machine server a
  obtain ⟨target', values', stores', lays'⟩ := exists_lay service machine server b
  refine ⟨exists_shows (alike_comesTo asks repeats (matches_step _ _)),
    exists_shows (alike_comesTo asks' repeats' (matches_step _ _).symm), ?_⟩
  calc second.1.store
      = first.1.store.lay target' values' := lays' first.1 b (.refl _ _) (matches_step _ _)
    _ = (server.store.lay target values).lay target' values' := by
        rw [← lays server a (.refl _ _) ⟨rfl, rfl⟩]
    _ = (server.store.lay target' values').lay target values :=
        Store.lay_comm (independent.apart stores stores')
    _ = first'.1.store.lay target values := by rw [← lays' server b' repeats' ⟨rfl, rfl⟩]
    _ = second'.1.store := (lays first'.1 a' repeats (matches_step _ _)).symm

/-- A server with two fields of the group that the sample handler guards. -/
def twoFieldServer : Server where
  definitions :=
    ⟨TextMap.ofList [("g", ⟨"g", contentFlaggingGroup⟩)],
      TextMap.ofList [("f", ⟨"f", "g", none⟩), ("h", ⟨"h", "g", none⟩)]⟩

/-- Somebody sets the other field of the post. -/
def otherRequest : Request :=
  { sampleRequest with body := [123, 34, 104, 34, 58, 116, 114, 117, 101, 125] }

def otherPatch : Values := TextMap.empty.insert "h" (.bool true)

def otherApproved : PatchResult :=
  PatchResult.empty.insert ⟨⟨"g", contentFlaggingGroup⟩,
    TextMap.empty.insert "h" (.array [.text "p1", .text "u1", .text contentFlaggingGroup])⟩

theorem sampleRequest_applies_twoFieldServer :
    Service.Applies sampleService (twoFieldServer.snapshot 0) "r1" sampleRequest "p1"
      ⟨"p1", "u1"⟩ samplePatch sampleApproved where
  toPatches := sampleRequest_applies.toPatches
  admitted := rfl
  wording := patchRequest_sampleRequest
  resolved := rfl
  storable := rfl
  declared := sampleRequest_applies.declared
  timely := by decide +kernel

theorem otherRequest_applies :
    Service.Applies sampleService (twoFieldServer.snapshot 0) "r1" otherRequest "p1"
      ⟨"p1", "u1"⟩ otherPatch otherApproved := by
  have legible : Service.Legible sampleService "r1" otherRequest "p1" ⟨"p1", "u1"⟩ :=
    Service.legible_sampleRequest.withBody _
  have read : Service.readBody sampleService.network (Service.withId "r1" otherRequest) =
      .ok otherRequest.body := by
    have whole : otherRequest.read? sampleService.network.maxBodyBytes = some otherRequest.body := by
      decide +kernel
    rw [Service.readBody_withId, Service.readBody, whole]
  have word : Service.wordWhole ⟨"p1", "u1"⟩ otherRequest.body = .ok otherPatch := by
    have wellFormed : Service.checkPostId "p1" = .ok () := if_pos (by simp [Service.isPostId])
    rw [Service.wordWhole, wellFormed]
    rfl
  exact
    { toPatches := Service.patches_withId_iff.2 legible.toPatches
      admitted := rfl
      wording := by
        rw [Service.patchRequest_of_read legible read, word]
        rfl
      resolved := rfl
      storable := rfl
      declared := by decide +kernel
      timely := by decide +kernel }

theorem sampleRequests_independent :
    twoFieldServer.Independent sampleService ⟨sampleRequest, "r1", 0⟩ ⟨otherRequest, "r1", 0⟩ := by
  refine .inr (.inr ?_)
  rintro target values target' values' ⟨_, _, _, _, applies, -, rfl⟩ ⟨_, _, _, _, applies', -, rfl⟩
  rw [applies.unique sampleRequest_applies_twoFieldServer, applies'.unique otherRequest_applies]
  refine .inr fun fieldId => ?_
  by_cases first : "f" = fieldId
  · subst first
    exact .inr rfl
  · exact .inl (if_neg first)

/-- Two requests that set different fields of one post come in either order, and in the end both fields
are set. -/
theorem sampleRequests_in_either_order :
    let a : Sending := ⟨sampleRequest, "r1", 0⟩
    let b : Sending := ⟨otherRequest, "r1", 0⟩
    let first := (twoFieldServer.step sampleService (.working .empty) a.event).1
    let both := (first.step sampleService (.working .empty) b.event).1
    let first' := (twoFieldServer.step sampleService (.working .empty) b.event).1
    let both' := (first'.step sampleService (.working .empty) a.event).1
    let shown := some (Json.Value.array [.text "p1", .text "u1", .text contentFlaggingGroup])
    a.request.method = "PATCH" ∧ b.request.method = "PATCH" ∧
      twoFieldServer.Independent sampleService a b ∧ both.store = both'.store ∧
      (both.store.values "p1").get? "f" = shown ∧ (both.store.values "p1").get? "h" = shown := by
  intro a b first both first' both' shown
  have commute := patches_in_either_order sampleService (.working .empty) twoFieldServer a b a b rfl
    rfl (.refl _ _) (.refl _ _) sampleRequests_independent
  have stored : first.store = twoFieldServer.store.lay "p1" sampleApproved.flatten :=
    store_step_of_applies a sampleRequest_applies_twoFieldServer
  have matching : (twoFieldServer.snapshot 0).Matches (first.snapshot 0) := (matches_step _ _).symm
  have applies := otherRequest_applies.transfer matching rfl
  have stored' : both.store = first.store.lay "p1" otherApproved.flatten :=
    store_step_of_applies b applies
  refine ⟨rfl, rfl, sampleRequests_independent, commute.2.2, ?_, ?_⟩
  · rw [stored', Store.get?_values_lay, stored, Store.get?_values_lay]
    rfl
  · rw [stored', Store.get?_values_lay]
    rfl

end Server

end PropertyGate
