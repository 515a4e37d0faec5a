import PropertyGate.Json.Decoder

/-!
# Flagging/Settings — who may flag posts

Members of a team can flag posts where both switches are on and somebody would review a flag:
reviewers common to all teams, the team's own, or administrators. `isEnabledFor` is that rule. Every
setting may be left out of a document and is then off or empty.
-/

namespace PropertyGate

open Json (Value Shape Member Decoder)

/-- The reviewers of one team. -/
structure TeamReviewers where
  enabled : Bool := false
  reviewerIds : List String := []
deriving DecidableEq, Repr, Inhabited

/-- Who reviews flagged posts: one list for all teams where `common` is on, a list for each team
otherwise, and administrators on top of either. -/
structure ReviewerSettings where
  common : Bool := false
  commonIds : List String := []
  teams : TextMap TeamReviewers := .empty
  teamAdmins : Bool := false
  systemAdmins : Bool := false
deriving DecidableEq, Inhabited

/-- **The settings of content flagging.** -/
structure FlaggingSettings where
  enabled : Bool := false
  featureFlag : Bool := false
  reviewers : ReviewerSettings := {}
deriving DecidableEq, Inhabited

/-- Whether administrators review, whoever else does. -/
def ReviewerSettings.hasAdmins (reviewers : ReviewerSettings) : Bool :=
  reviewers.teamAdmins || reviewers.systemAdmins

/-- **Whether members of the team can flag posts.** -/
def FlaggingSettings.isEnabledFor (settings : FlaggingSettings) (teamId : String) : Bool :=
  settings.enabled && settings.featureFlag &&
    if settings.reviewers.common then
      !settings.reviewers.commonIds.isEmpty || settings.reviewers.hasAdmins
    else
      match settings.reviewers.teams.get? teamId with
      | some team => team.enabled && (!team.reviewerIds.isEmpty || settings.reviewers.hasAdmins)
      | none => false

/-! ## As documents -/

namespace TeamReviewers

/-- The reviewers of a team as an object. -/
def toJson (team : TeamReviewers) : Value :=
  .object [("enabled", .bool team.enabled),
    ("reviewer_ids", .array (team.reviewerIds.map Value.text))]

/-- Whatever is left out is as by default. -/
def shape : Shape TeamReviewers where
  title := "TeamReviewerSetting"
  blank := {}
  members := [
    Member.defaulted "enabled" Decoder.bool fun enabled team => { team with enabled },
    Member.defaulted "reviewer_ids" (Decoder.list Decoder.text) fun reviewerIds team =>
      { team with reviewerIds }]

/-- Reads the reviewers of a team. -/
def decoder : Decoder TeamReviewers := shape.decoder

end TeamReviewers

namespace ReviewerSettings

/-- Who reviews as an object; the reviewers of each team stand under its id. -/
def toJson (reviewers : ReviewerSettings) : Value :=
  .object [("common_reviewers", .bool reviewers.common),
    ("common_reviewer_ids", .array (reviewers.commonIds.map Value.text)),
    ("team_reviewers_setting",
      .object (reviewers.teams.mapValues fun _ team => team.toJson).entries),
    ("team_admins_as_reviewers", .bool reviewers.teamAdmins),
    ("system_admins_as_reviewers", .bool reviewers.systemAdmins)]

/-- Whatever is left out is as by default: nobody reviews. -/
def shape : Shape ReviewerSettings where
  title := "ReviewerSettings"
  blank := {}
  members := [
    Member.defaulted "common_reviewers" Decoder.bool fun common settings =>
      { settings with common },
    Member.defaulted "common_reviewer_ids" (Decoder.list Decoder.text) fun commonIds settings =>
      { settings with commonIds },
    Member.defaulted "team_reviewers_setting" (Decoder.map TeamReviewers.decoder)
      fun teams settings => { settings with teams },
    Member.defaulted "team_admins_as_reviewers" Decoder.bool fun teamAdmins settings =>
      { settings with teamAdmins },
    Member.defaulted "system_admins_as_reviewers" Decoder.bool fun systemAdmins settings =>
      { settings with systemAdmins }]

/-- Reads who reviews. -/
def decoder : Decoder ReviewerSettings := shape.decoder

end ReviewerSettings

namespace FlaggingSettings

/-- The settings of content flagging as an object. -/
def toJson (settings : FlaggingSettings) : Value :=
  .object [("enable_content_flagging", .bool settings.enabled),
    ("feature_flag", .bool settings.featureFlag),
    ("reviewer_settings", settings.reviewers.toJson)]

/-- Whatever is left out is as by default: both switches are off. -/
def shape : Shape FlaggingSettings where
  title := "ContentFlaggingSettings"
  blank := {}
  members := [
    Member.defaulted "enable_content_flagging" Decoder.bool fun enabled settings =>
      { settings with enabled },
    Member.defaulted "feature_flag" Decoder.bool fun featureFlag settings =>
      { settings with featureFlag },
    Member.defaulted "reviewer_settings" ReviewerSettings.decoder fun reviewers settings =>
      { settings with reviewers }]

/-- Reads the settings of content flagging. -/
def decoder : Decoder FlaggingSettings := shape.decoder

end FlaggingSettings

/-- The answer to the question whether a team can flag posts. -/
structure TeamFlaggingStatus where
  teamId : String
  enabled : Bool
deriving DecidableEq, Repr, Inhabited

namespace TeamFlaggingStatus

/-- The answer about a team as an object. -/
def toJson (status : TeamFlaggingStatus) : Value :=
  .object [("team_id", .text status.teamId), ("enabled", .bool status.enabled)]

/-- The answer about a team is not read without either member. -/
def shape : Shape TeamFlaggingStatus where
  title := "TeamFlaggingStatus"
  blank := ⟨"", false⟩
  members := [
    Member.needed "team_id" Decoder.text fun teamId status => { status with teamId },
    Member.needed "enabled" Decoder.bool fun enabled status => { status with enabled }]

/-- Reads the answer about a team. -/
def decoder : Decoder TeamFlaggingStatus := shape.decoder

end TeamFlaggingStatus

end PropertyGate
