import Mathlib.Data.List.Induction
import PropertyGate.Proofs.Definitions.Ownership
import PropertyGate.Proofs.Patch.Resolution
import PropertyGate.Proofs.Server.AllOrNothing

/-!
# Proofs/Server/Authorization — every stored value was approved by its own group

The handlers of a service are asked again and again, and need not answer alike twice, so a run is
followed through occasions: events, each with the handlers as they are when it comes.  A request
`Consents` to a value if the handler of a group, asked about the group's own part of a patch,
returns it.  **Whatever is stored, some request has consented to** (`stored_was_approved`): what a
request stores it consents to, and what was stored before stays declared as it was.
-/

namespace PropertyGate

open Http (Request)

/-! ## What a request consents to -/

namespace Service

variable {service : Service} {snapshot : Snapshot} {generatedId : String} {request : Request}
  {segment post fieldId : String} {context : Context} {patch : Values} {approved : PatchResult}
  {value : Json.Value}

/-- **A request consents to a value for a field of a post**: it asks to change that post, and it has
the handler registered under the name of the group asked about the part of its patch that is
declared for the group, for that post and on behalf of its own requester; what that handler returns
holds the value. -/
def Consents (service : Service) (snapshot : Snapshot) (generatedId : String) (request : Request)
    (group : Group) (post fieldId : String) (value : Json.Value) : Prop :=
  ∃ segment requester patch handler values,
    Patches request segment ∧
    patchRequest service.network (withId generatedId request) segment =
      .ok (⟨post, requester⟩, patch) ∧
    service.handlers.get? group.name = some handler ∧
    (snapshot.definitions.portion group.id patch).isEmpty = false ∧
    .authorize ⟨post, requester⟩ group.name (snapshot.definitions.portion group.id patch) ∈
      (service.respond snapshot generatedId request).calls ∧
    (handler ⟨post, requester⟩ group.name
      (snapshot.definitions.portion group.id patch)).verdict = .approved values ∧
    values.get? fieldId = some value

/-- **What a request stores it consents to**, on behalf of the group that owns the field. -/
theorem Applies.exists_consents (wired : service.registries = Definitions.registries)
    (h : Applies service snapshot generatedId request segment context patch approved)
    (stored : approved.flatten.get? fieldId = some value) :
    ∃ group, snapshot.definitions.Owns group fieldId ∧
      service.Consents snapshot generatedId request group context.target fieldId value := by
  obtain ⟨⟨key, entry⟩, hentry, held⟩ := PatchResult.exists_of_get?_flatten stored
  -- The store files the field under the group that it is declared for.
  obtain ⟨field, declared, rfl⟩ : ∃ field, snapshot.definitions.field? fieldId = some field ∧
      field.groupId = key := by
    refine Store.fieldError?_eq_none_iff.1
      (Store.patchError?_eq_none_iff.1 h.storable (key, entry) hentry fieldId ?_)
    exact List.mem_map.2 ⟨_, TextMap.mem_entries_iff.2 held, rfl⟩
  -- The pipeline files there what that group's own handler returned.
  obtain ⟨fields, handler, owned, owner, known, same, registered, asked, verdict⟩ :=
    Pipeline.exists_approval h.resolved hentry
  have answers : (service.pipelineOver snapshot.definitions).registries =
      snapshot.definitions.registries := congrFun wired _
  have answer := owned.answer
  rw [answers] at answer known
  obtain rfl : snapshot.definitions.lookupFields patch.keys = fields := Except.ok.inj answer
  have hshare := Definitions.share_lookupFields field.groupId owned.owned
  rw [hshare, ← same] at asked verdict
  obtain ⟨-, -, -, calls⟩ := h.respond
  refine ⟨entry.group, ⟨field, declared, Definitions.lookupGroup_eq_ok_iff.1 known, same⟩, segment,
    context.requester, patch, handler, entry.values, patches_withId_iff.1 h.toPatches, h.wording,
    registered, ?_, ?_, verdict, held⟩
  · rw [same, ← hshare]
    exact isEmpty_share_eq_false_iff.2 owner
  · rw [calls]
    exact List.mem_append_left _ asked

end Service

/-! ## What one event does -/

/-- The service with the handlers as they are on some occasion. -/
def Service.on (service : Service) (handlers : HandlerRegistry) : Service :=
  { service with handlers }

/-- An event, and the handlers as they are when it comes. -/
structure Occasion where
  event : Event
  handlers : HandlerRegistry

namespace Server

variable {service : Service} {machine : Machine} {server : Server} {post fieldId : String}
  {value : Json.Value}

/-- **The server after some occasions.** -/
def through (service : Service) (machine : Machine) (server : Server)
    (occasions : List Occasion) : Server :=
  occasions.foldl (fun server occasion =>
    (server.step (service.on occasion.handlers) machine occasion.event).1) server

/-- In a run the handlers stay as they are. -/
theorem run_eq_through (events : List Event) :
    server.run service machine events =
      server.through service machine (events.map fun event => ⟨event, service.handlers⟩) := by
  rw [run, through, List.foldl_map]
  rfl

/-- Neither what is declared nor what is stored changes. -/
structure Keeps (before after : Server) : Prop where
  definitions : after.definitions = before.definitions
  store : after.store = before.store

theorem keeps_start (config : NetworkConfig) : server.Keeps (server.start config machine).1 := by
  obtain ⟨listener, moved⟩ := server.exists_start_eq config machine
  rw [moved]
  exact ⟨rfl, rfl⟩

theorem keeps_serve (config : NetworkConfig) : server.Keeps (server.serve config machine).1 := by
  rw [serve]
  dsimp only
  split
  · exact ⟨rfl, rfl⟩
  · exact ⟨rfl, rfl⟩
  · split <;> exact ⟨rfl, rfl⟩

theorem declare_extends {result : Except DeclarationError Definitions}
    (h : ∀ declared, result = .ok declared → server.definitions.Extends declared) :
    server.definitions.Extends (server.declare result).1.definitions := by
  cases result with
  | ok declared => exact h declared rfl
  | error error => exact .refl _

theorem store_declare (result : Except DeclarationError Definitions) :
    (server.declare result).1.store = server.store := by
  cases result <;> rfl

/-- **No event takes a declaration back.** -/
theorem step_extends (server : Server) (service : Service) (machine : Machine) (event : Event) :
    server.definitions.Extends (server.step service machine event).1.definitions := by
  cases event with
  | declareGroup group => exact declare_extends fun _ => Definitions.extends_declareGroup
  | declareField field => exact declare_extends fun _ => Definitions.extends_declareField
  | start =>
    rw [step, (keeps_start _).definitions]
    exact .refl _
  | serve =>
    rw [step, (keeps_serve _).definitions]
    exact .refl _
  | _ => exact .refl _

/-- **Only a request can touch the store.** -/
theorem store_step (event : Event) :
    (server.step service machine event).1.store = server.store ∨
      ∃ request generatedId uptime, event = .request request generatedId uptime := by
  cases event with
  | request request generatedId uptime => exact .inr ⟨request, generatedId, uptime, rfl⟩
  | declareGroup group => exact .inl (store_declare _)
  | declareField field => exact .inl (store_declare _)
  | start => exact .inl (keeps_start _).store
  | serve => exact .inl (keeps_serve _).store
  | _ => exact .inl rfl

/-- A request consents to whatever it stores anew. -/
theorem stored_respond (wired : service.registries = Definitions.registries) (snapshot : Snapshot)
    (generatedId : String) (request : Request)
    (stored : ((service.respond snapshot generatedId request).store.values post).get? fieldId =
      some value) :
    (snapshot.store.values post).get? fieldId = some value ∨
      ∃ group, snapshot.definitions.Owns group fieldId ∧
        service.Consents snapshot generatedId request group post fieldId value := by
  rcases Service.applies_or_store_respond_eq with
    ⟨segment, context, patch, approved, applies⟩ | same
  swap
  · rw [same] at stored
    exact .inl stored
  obtain ⟨-, -, store, -⟩ := applies.respond
  rw [store] at stored
  by_cases target : post = context.target
  swap
  · rw [Store.values_lay_of_ne target] at stored
    exact .inl stored
  subst target
  rw [Store.get?_values_lay] at stored
  rcases Option.or_eq_some_iff.1 stored with laid | ⟨-, before⟩
  · exact .inr (applies.exists_consents wired laid)
  · exact .inl before

/-- **What one event adds to the store, a request has consented to.** -/
theorem stored_step (wired : service.registries = Definitions.registries) {event : Event}
    (stored : ((server.step service machine event).1.store.values post).get? fieldId =
      some value) :
    (server.store.values post).get? fieldId = some value ∨
      ∃ request generatedId uptime group, event = .request request generatedId uptime ∧
        server.definitions.Owns group fieldId ∧
        service.Consents (server.snapshot uptime) generatedId request group post fieldId value := by
  rcases store_step event with same | ⟨request, generatedId, uptime, rfl⟩
  · rw [same] at stored
    exact .inl stored
  · refine (stored_respond wired (server.snapshot uptime) generatedId request stored).imp id ?_
    rintro ⟨group, owner, consents⟩
    exact ⟨request, generatedId, uptime, group, rfl, owner, consents⟩

/-! ## What a run of events does -/

theorem through_concat (occasions : List Occasion) (occasion : Occasion) :
    server.through service machine (occasions ++ [occasion]) =
      ((server.through service machine occasions).step (service.on occasion.handlers) machine
        occasion.event).1 := by
  rw [through, List.foldl_append]
  rfl

/-- **A value was approved by the group of its field**: the field is declared, and on an earlier
occasion a request consented to the value on behalf of the group that owns the field. -/
def WasApproved (start : Server) (service : Service) (machine : Machine)
    (occasions : List Occasion) (post fieldId : String) (value : Json.Value) : Prop :=
  ∃ group, (start.through service machine occasions).definitions.Owns group fieldId ∧
    ∃ before later request generatedId uptime handlers,
      occasions = before ++ ⟨.request request generatedId uptime, handlers⟩ :: later ∧
      (service.on handlers).Consents ((start.through service machine before).snapshot uptime)
        generatedId request group post fieldId value

/-- **Whatever is stored was approved**, on any server that starts with nothing stored and whose
declarations answer for themselves. -/
theorem stored_was_approved (service : Service) (machine : Machine) (start : Server)
    (occasions : List Occasion) (wired : service.registries = Definitions.registries)
    (fresh : start.store = .empty) {post fieldId : String} {value : Json.Value}
    (stored : ((start.through service machine occasions).store.values post).get? fieldId =
      some value) :
    start.WasApproved service machine occasions post fieldId value := by
  induction occasions using List.reverseRecOn with
  | nil =>
    rw [through, List.foldl_nil, fresh] at stored
    cases stored
  | append_singleton earlier occasion ih =>
    obtain ⟨event, handlers⟩ := occasion
    rw [through_concat] at stored
    rw [WasApproved, through_concat]
    have grown := step_extends (start.through service machine earlier) (service.on handlers) machine
      event
    have wired' : (service.on handlers).registries = Definitions.registries := wired
    rcases stored_step wired' stored with
      old | ⟨request, generatedId, uptime, group, rfl, owner, consents⟩
    · obtain ⟨group, owner, before, later, request, generatedId, uptime, handlers', rfl,
        consents⟩ := ih old
      refine ⟨group, grown.owns owner, before, later ++ [⟨event, handlers⟩], request, generatedId,
        uptime, handlers', ?_, consents⟩
      rw [List.append_assoc, List.cons_append]
    · exact ⟨group, grown.owns owner, earlier, [], request, generatedId, uptime, handlers, rfl,
        consents⟩

/-- A group and a field are declared, and then somebody sets the field of a post. -/
def sampleOccasions : List Occasion :=
  [⟨.declareGroup ⟨"g", contentFlaggingGroup⟩, .standard⟩,
    ⟨.declareField ⟨"f", "g", none⟩, .standard⟩,
    ⟨.request sampleRequest "r1" 0, sampleService.handlers⟩]

theorem sampleOccasions_stored_was_approved :
    ((through sampleService (.working .empty) default sampleOccasions).store.values "p1").get? "f" =
      some (.array [.text "p1", .text "u1", .text contentFlaggingGroup]) ∧
    WasApproved default sampleService (.working .empty) sampleOccasions "p1" "f"
      (.array [.text "p1", .text "u1", .text contentFlaggingGroup]) := by
  have reached : (through sampleService (.working .empty) default sampleOccasions).store =
      (sampleService.respond (sampleServer.snapshot 0) "r1" sampleRequest).store := rfl
  have stored : ((through sampleService (.working .empty) default
      sampleOccasions).store.values "p1").get? "f" =
      some (.array [.text "p1", .text "u1", .text contentFlaggingGroup]) := by
    obtain ⟨-, -, store, -⟩ := sampleRequest_applies.respond
    rw [reached, store, Store.get?_values_lay]
    rfl
  exact ⟨stored, stored_was_approved sampleService (.working .empty) default sampleOccasions rfl
    rfl stored⟩

end Server

end PropertyGate
