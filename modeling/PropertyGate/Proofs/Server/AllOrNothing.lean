import PropertyGate.Policy.Rule
import PropertyGate.Proofs.Service.Patching
import PropertyGate.Server.Basic

/-!
# Proofs/Server/AllOrNothing — a patch is stored as it is answered, or not at all

Whatever state a server is in, **a patch that it answers with success it stores as it answers it,
and after any other request its store is what it was** (`step_request_all_or_nothing`).  A sample
service with one field shows both sides of a patch.
-/

namespace PropertyGate

open Http (Request Headers)

/-- **All or nothing**, whatever a server is like and whatever is asked of it: a request to change a
post that is answered with success is answered with what it stores, and no other request changes
what is stored. -/
theorem Server.step_request_all_or_nothing (service : Service) (machine : Machine) (server : Server)
    (request : Request) (generatedId : String) (uptime : Nat) :
    ∃ after response,
      server.step service machine (.request request generatedId uptime) =
        (after, .answered response) ∧
      (∀ segment, Service.Patches request segment → response.status = 200 →
        ∃ context patch approved,
          Service.patchRequest service.network (Service.withId generatedId request) segment =
            .ok (context, patch) ∧
          ((service.pipelineOver server.definitions).resolve context patch).outcome =
            .ok approved ∧
          response.body = (Values.toJson approved.flatten).print ∧
          after.store = server.store.lay context.target approved.flatten ∧
          (∀ post, post ≠ context.target →
            after.store.targets.get? post = server.store.targets.get? post) ∧
          (∀ fieldId, (after.store.values context.target).get? fieldId =
            (approved.flatten.get? fieldId).or
              ((server.store.values context.target).get? fieldId)) ∧
          (approved.flatten = .empty → after.store = server.store)) ∧
      ((∀ segment, Service.Patches request segment → response.status ≠ 200) →
        after.store = server.store) := by
  refine ⟨_, _, rfl, fun segment asks success => ?_, Service.store_respond_of_status⟩
  obtain ⟨context, patch, approved, applies⟩ := Service.applies_of_status asks success
  obtain ⟨-, body, store, -⟩ := applies.respond
  have laid : (server.after (server.outcome service request generatedId uptime)).store =
      server.store.lay context.target approved.flatten := store
  refine ⟨context, patch, approved, applies.wording, applies.resolved, body, laid, ?_, ?_, ?_⟩
  · intro post hne
    rw [laid, Store.get?_targets_lay_of_ne hne]
  · intro fieldId
    rw [laid, Store.get?_values_lay]
  · intro flat
    rw [laid, flat, Store.lay_empty]

/-! ## One patch, seen through -/

/-- A service that takes the name of the requester from the header `user`, and whose handler for
content flagging writes down what it is asked. -/
def sampleService : Service where
  handlers := HandlerRegistry.empty.register contentFlaggingGroup (Rule.context.handler 0)
  pipeline := { dispatch := .sequential }
  network := { requesterHeader := "user" }

/-- A server with one field, of the group that the handler guards. -/
def sampleServer : Server where
  definitions :=
    ⟨TextMap.ofList [("g", ⟨"g", contentFlaggingGroup⟩)], TextMap.ofList [("f", ⟨"f", "g", none⟩)]⟩

/-- Somebody sets that field of a post. -/
def sampleRequest : Request where
  method := "PATCH"
  target := "/api/v4/properties/posts/p1"
  headers := [⟨"user", "u1"⟩]
  body := [123, 34, 102, 34, 58, 116, 114, 117, 101, 125]

def samplePatch : Values := TextMap.empty.insert "f" (.bool true)

def sampleApproved : PatchResult :=
  PatchResult.empty.insert ⟨⟨"g", contentFlaggingGroup⟩,
    TextMap.empty.insert "f" (.array [.text "p1", .text "u1", .text contentFlaggingGroup])⟩

theorem requester_sampleRequest :
    Service.requester sampleService.network (Service.withId "r1" sampleRequest).headers =
      .ok "u1" := by
  have header : Http.isHeaderName "user" = true := by simp [Http.isHeaderName, Http.isNameChar]
  have first : Headers.first? (Service.withId "r1" sampleRequest).headers "user" = some "u1" := by
    decide +kernel
  have plain : Http.isPlain "u1" = true := by simp [Http.isPlain]
  rw [Service.requester, Service.requester?, sampleService, if_pos header, first,
    Option.bind_some, plain]
  rfl

theorem patchRequest_sampleRequest :
    Service.patchRequest sampleService.network (Service.withId "r1" sampleRequest) "p1" =
      .ok (⟨"p1", "u1"⟩, samplePatch) := by
  have post : Service.parameter "post_id" "p1" = .ok "p1" := rfl
  have body : Service.readBody sampleService.network (Service.withId "r1" sampleRequest) =
      .ok sampleRequest.body := by
    have read : (Service.withId "r1" sampleRequest).read? sampleService.network.maxBodyBytes =
        some sampleRequest.body := by decide +kernel
    rw [Service.readBody, read]
  have wellFormed : Service.checkPostId "p1" = .ok () := if_pos (by simp [Service.isPostId])
  have decoded : Service.decodePatch sampleRequest.body = .ok samplePatch := rfl
  rw [Service.patchRequest, post, requester_sampleRequest, body]
  change (Service.checkPostId "p1").bind (fun _ =>
    (Service.decodePatch sampleRequest.body).bind fun patch =>
      .ok (Context.mk "p1" "u1", patch)) = _
  rw [wellFormed, decoded]
  rfl

theorem sampleRequest_applies :
    Service.Applies sampleService (sampleServer.snapshot 0) "r1" sampleRequest "p1"
      ⟨"p1", "u1"⟩ samplePatch sampleApproved where
  method := Service.method_withId
  route := by decide +kernel
  admitted := rfl
  wording := patchRequest_sampleRequest
  resolved := rfl
  storable := rfl
  declared := by decide +kernel
  timely := by decide +kernel

theorem Server.step_sampleRequest_stored_as_answered :
    Service.Patches sampleRequest "p1" ∧
    ∃ after response,
      sampleServer.step sampleService (.working .empty) (.request sampleRequest "r1" 0) =
        (after, .answered response) ∧
      response.status = 200 ∧
      ∃ (target : String) (approved : PatchResult),
        response.body = (Values.toJson approved.flatten).print ∧
        after.store = sampleServer.store.lay target approved.flatten := by
  have asks : Service.Patches sampleRequest "p1" :=
    Service.patches_withId_iff.1 sampleRequest_applies.toPatches
  obtain ⟨after, response, step, stored, -⟩ := step_request_all_or_nothing sampleService
    (.working .empty) sampleServer sampleRequest "r1" 0
  have success : response.status = 200 := by
    obtain rfl := Reaction.answered.inj (congrArg Prod.snd step)
    exact sampleRequest_applies.respond.1
  obtain ⟨context, -, approved, -, -, body, store, -⟩ := stored "p1" asks success
  exact ⟨asks, after, response, step, success, context.target, approved, body, store⟩

end PropertyGate
