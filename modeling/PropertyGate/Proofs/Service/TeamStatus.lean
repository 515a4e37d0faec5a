import PropertyGate.Proofs.Flagging.Reviewing
import PropertyGate.Proofs.Property.Documents
import PropertyGate.Proofs.Service.RequestId

/-!
# Proofs/Service/TeamStatus — what the service says of a team

Whoever asks whether a team can flag posts is told what the settings say of the team that the path
names; who asks makes no difference, nor what is declared and stored (`followRoute_of_asksOf`).  As
for every request, the layers around the route may answer in its place: a length may be declared that
is too long, and a service that gives its requests no time is always late.

Time stands still here while the service itself works on a question.  So every deadline but zero is
met, and a deadline of zero is over before the question is worked on.  By a clock that runs on in the
meantime it is left open which of the two comes first.
-/

namespace PropertyGate

open Http (Request Response)

/-- **Somebody asks whether the team can flag posts**: the path names the team, as its escapes are
decoded. -/
structure Http.Request.AsksOf (request : Request) (teamId : String) : Prop where
  method : request.method = "GET"
  named : ∃ segment, Route.of? request = some (.teamStatus segment) ∧
    Http.decodeSegment? segment = some teamId

theorem Http.Request.AsksOf.ne_preflight {request : Request} {teamId : String}
    (asks : request.AsksOf teamId) : request.method ≠ Http.preflightMethod := by
  rw [asks.method]
  decide

namespace Service

variable {service : Service} {snapshot : Snapshot} {generatedId : String} {request : Request}
  {teamId : String}

/-- What the settings say of a team. -/
def teamStatus (service : Service) (teamId : String) : TeamFlaggingStatus :=
  ⟨teamId, service.flagging.isEnabledFor teamId⟩

theorem asksOf_withId_iff :
    (withId generatedId request).AsksOf teamId ↔ request.AsksOf teamId := by
  constructor <;> rintro ⟨method, segment, found, decoded⟩
  · exact ⟨method_withId.symm.trans method, segment, of?_withId.symm.trans found, decoded⟩
  · exact ⟨method_withId.trans method, segment, of?_withId.trans found, decoded⟩

/-- **The team is shown as the settings have it**, unless the service is shutting down. -/
theorem followRoute_of_asksOf (asks : request.AsksOf teamId)
    (running : snapshot.health.state.isShuttingDown = false) :
    service.followRoute snapshot request =
      .answer snapshot (.json 200 (service.teamStatus teamId).toJson) := by
  obtain ⟨method, segment, found, decoded⟩ := asks
  have named : parameter "team_id" segment = .ok teamId := by
    rw [parameter, decoded]
  rw [followRoute_of_shown method running found rfl]
  simp only [Route.shown, perform, showTeamStatus, named, Outcome.answer, Health.leave_enter,
    teamStatus]

/-- **The service tells the team and what the settings say of it**, in a document that is read back
as that. -/
structure Tells (service : Service) (response : Response) (teamId : String) : Prop where
  status : response.status = 200
  body : response.body = (service.teamStatus teamId).toJson.print
  decoded : Json.decode TeamFlaggingStatus.decoder (Utf8.encode response.body) =
    .ok (service.teamStatus teamId)

theorem tells_of_timely (asks : request.AsksOf teamId)
    (running : snapshot.health.state.isShuttingDown = false)
    (declared : Http.declaresTooMuch service.network.maxBodyBytes request.headers = false)
    (timely : 0 < service.network.requestTimeout) :
    service.Tells (service.respond snapshot generatedId request).response teamId := by
  have route : service.followRoute snapshot (withId generatedId request) = _ :=
    followRoute_of_asksOf (asksOf_withId_iff.2 asks) running
  obtain ⟨status, body⟩ := respond_of_shown asks.method declared route timely
  refine ⟨status, body, ?_⟩
  rw [body]
  exact (service.teamStatus teamId).takes.decode (.refl _)

/-- **Whether a team can flag posts follows from who reviews it, and is what the service says.**
Nothing that is added to the settings switches a team off, what is set for other teams makes no
difference to a team, one list for all teams gives one answer for all teams, and a team that is
enabled has somebody to review it.  A service that is not shutting down answers whoever asks about a
team with the team and what its settings say of it, unless the request declares too long a body or
the service gives its requests no time.  The latter is so where time stands still while the question is
worked on. -/
theorem flagging_follows_reviewers :
    (∀ settings wider : FlaggingSettings, settings.WidenedTo wider → ∀ teamId,
      settings.isEnabledFor teamId = true → wider.isEnabledFor teamId = true) ∧
    (∀ (teamId : String) (settings other : FlaggingSettings), settings.AgreeOn teamId other →
      settings.isEnabledFor teamId = other.isEnabledFor teamId) ∧
    (∀ settings : FlaggingSettings, settings.reviewers.common = true → ∀ teamId teamId',
      settings.isEnabledFor teamId = settings.isEnabledFor teamId') ∧
    (∀ (settings : FlaggingSettings) (teamId : String), settings.isEnabledFor teamId = true →
      settings.reviewers.Reviews teamId) ∧
    ∀ (service : Service) (snapshot : Snapshot) (generatedId : String) (request : Request)
      (teamId : String), request.AsksOf teamId →
      snapshot.health.state.isShuttingDown = false →
      let response := (service.respond snapshot generatedId request).response
      if Http.declaresTooMuch service.network.maxBodyBytes request.headers = true then
        response.status = 413
      else if service.network.requestTimeout = 0 then response.status = 408
      else service.Tells response teamId := by
  refine ⟨fun _ _ widened _ => widened.isEnabledFor, fun _ _ _ same => same.isEnabledFor,
    fun _ shared _ _ => FlaggingSettings.isEnabledFor_of_common shared,
    fun _ _ enabled => (FlaggingSettings.isEnabledFor_iff.1 enabled).2.2, ?_⟩
  intro service snapshot generatedId request teamId asks running response
  cases declared : Http.declaresTooMuch service.network.maxBodyBytes request.headers with
  | true =>
    rw [if_pos rfl]
    exact (respond_of_declaresTooMuch declared).1
  | false =>
    rw [if_neg Bool.false_ne_true]
    split
    · rename_i untimed
      exact (respond_of_late declared asks.ne_preflight (by omega)).1
    · rename_i timed
      exact tells_of_timely asks running declared (Nat.pos_of_ne_zero timed)

/-! ## One team -/

/-- A team has one reviewer, and a question about it is written with an escape. -/
def sampleFlagging : FlaggingSettings where
  enabled := true
  featureFlag := true
  reviewers := { teams := TextMap.empty.insert "t1" ⟨true, ["u1"]⟩ }

def sampleQuestion : Request where
  method := "GET"
  target := "/api/v4/content_flagging/teams/t%31/status"

theorem sampleQuestion_asksOf : sampleQuestion.AsksOf "t1" :=
  ⟨rfl, "t%31", by decide +kernel, by decide +kernel⟩

/-- The team is told to be enabled, and stays so if a reviewer is added or another team. -/
theorem sampleFlagging_follows_reviewers :
    let more := { sampleFlagging with
      reviewers.teams := sampleFlagging.reviewers.teams.insert "t1" ⟨true, ["u0", "u1"]⟩ }
    let another := { sampleFlagging with
      reviewers.teams := sampleFlagging.reviewers.teams.insert "t2" ⟨false, []⟩ }
    let shared := { sampleFlagging with reviewers.common := true }
    let service : Service := { flagging := sampleFlagging }
    sampleFlagging.WidenedTo more ∧ more.isEnabledFor "t1" = true ∧
      sampleFlagging.AgreeOn "t1" another ∧ another.isEnabledFor "t1" = true ∧
      shared.isEnabledFor "t1" = shared.isEnabledFor "t2" ∧
      sampleFlagging.reviewers.Reviews "t1" ∧
      service.Tells (service.respond (sampleServer.snapshot 0) "r1" sampleQuestion).response "t1" ∧
      service.teamStatus "t1" = ⟨"t1", true⟩ := by
  intro more another shared service
  obtain ⟨monotone, isolated, alike, reviewed, told⟩ := flagging_follows_reviewers
  have enabled : sampleFlagging.isEnabledFor "t1" = true := by decide +kernel
  have widened : sampleFlagging.WidenedTo more := by
    refine ⟨id, id, ReviewerSettings.widenedTo_insert ?_⟩
    rintro _ ⟨⟩
    exact ⟨id, List.subset_cons_self _ _⟩
  have agree : sampleFlagging.AgreeOn "t1" another :=
    ⟨rfl, rfl, rfl, rfl, (TextMap.get?_insert_of_ne _ _ (by decide)).symm, rfl, rfl⟩
  refine ⟨widened, monotone _ _ widened _ enabled, agree,
    (isolated _ _ _ agree).symm.trans enabled, alike shared rfl _ _, reviewed _ _ enabled, ?_, ?_⟩
  · have answer := told service (sampleServer.snapshot 0) "r1" sampleQuestion "t1"
      sampleQuestion_asksOf rfl
    dsimp only at answer
    rwa [if_neg (by decide +kernel), if_neg (by decide)] at answer
  · rw [teamStatus, enabled]

/-- **Two questions that the service does not answer as its settings have it**, though it is not
shutting down: one that declares too long a body, and any if requests are given no time and time
stands still while they are worked on. -/
theorem question_unanswered :
    let long := { sampleQuestion with headers := [⟨"content-length", "1048577"⟩] }
    let service : Service := { flagging := sampleFlagging }
    let hasty : Service := { service with network.requestTimeout := 0 }
    let snapshot := sampleServer.snapshot 0
    snapshot.health.state.isShuttingDown = false ∧ long.AsksOf "t1" ∧
      (service.respond snapshot "r1" long).response.status = 413 ∧
      sampleQuestion.AsksOf "t1" ∧
      (hasty.respond snapshot "r1" sampleQuestion).response.status = 408 := by
  intro long service hasty snapshot
  refine ⟨rfl, ⟨sampleQuestion_asksOf.method, sampleQuestion_asksOf.named⟩, ?_,
    sampleQuestion_asksOf, ?_⟩
  · exact (respond_of_declaresTooMuch (by decide +kernel)).1
  · exact (respond_of_late rfl sampleQuestion_asksOf.ne_preflight (Nat.not_lt_zero _)).1

end Service

end PropertyGate
