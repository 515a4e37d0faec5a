import PropertyGate.Flagging.Settings
import PropertyGate.TextMap.Lemmas

/-!
# Proofs/Flagging/Reviewing — who is there to review a flag

One list of reviewers applies to a team at most (`Applies`): the common list where it is on, and the
team's own list otherwise.  The other half of the settings is not looked at.  **A team is enabled
just if both switches are on and somebody reviews it** (`isEnabledFor_iff`): the list that applies
has somebody, or administrators review.  So nothing that is added switches a team off (`WidenedTo`),
and what is set for other teams makes no difference to a team (`AgreeOn`).
-/

namespace PropertyGate

/-- **Reviewers are added to the team**, or it is switched on. -/
structure TeamReviewers.WidenedTo (team wider : TeamReviewers) : Prop where
  enabled : team.enabled = true → wider.enabled = true
  reviewerIds : team.reviewerIds ⊆ wider.reviewerIds

namespace ReviewerSettings

variable {reviewers wider : ReviewerSettings} {teamId : String} {ids : List String}

/-! ## Who reviews a team -/

/-- **The list of reviewers that applies to a team.** -/
inductive Applies (reviewers : ReviewerSettings) (teamId : String) : List String → Prop
  | common (shared : reviewers.common = true) : Applies reviewers teamId reviewers.commonIds
  | own {team : TeamReviewers} (apart : reviewers.common = false)
      (found : reviewers.teams.get? teamId = some team) (on : team.enabled = true) :
      Applies reviewers teamId team.reviewerIds

/-- **Somebody reviews the team**: the list that applies to it has somebody, or administrators
review. -/
def Reviews (reviewers : ReviewerSettings) (teamId : String) : Prop :=
  ∃ ids, reviewers.Applies teamId ids ∧ (ids ≠ [] ∨ reviewers.hasAdmins = true)

theorem reviews_of_common (shared : reviewers.common = true) :
    reviewers.Reviews teamId ↔ reviewers.commonIds ≠ [] ∨ reviewers.hasAdmins = true := by
  constructor
  · rintro ⟨_, _ | ⟨apart, -, -⟩, someone⟩
    · exact someone
    · exact absurd (apart.symm.trans shared) Bool.false_ne_true
  · exact fun someone => ⟨_, .common shared, someone⟩

theorem reviews_of_apart (apart : reviewers.common = false) :
    reviewers.Reviews teamId ↔
      ∃ team, reviewers.teams.get? teamId = some team ∧ team.enabled = true ∧
        (team.reviewerIds ≠ [] ∨ reviewers.hasAdmins = true) := by
  constructor
  · rintro ⟨_, shared | ⟨-, found, on⟩, someone⟩
    · exact absurd (apart.symm.trans shared) Bool.false_ne_true
    · exact ⟨_, found, on, someone⟩
  · rintro ⟨team, found, on, someone⟩
    exact ⟨_, .own apart found on, someone⟩

/-! ## Adding reviewers -/

/-- **Reviewers, teams and administrators are added**, and one list for all teams stays one list for
all teams. -/
structure WidenedTo (reviewers wider : ReviewerSettings) : Prop where
  common : wider.common = reviewers.common
  commonIds : reviewers.commonIds ⊆ wider.commonIds
  teams : ∀ teamId team, reviewers.teams.get? teamId = some team →
    ∃ more, wider.teams.get? teamId = some more ∧ team.WidenedTo more
  teamAdmins : reviewers.teamAdmins = true → wider.teamAdmins = true
  systemAdmins : reviewers.systemAdmins = true → wider.systemAdmins = true

/-- An entry is added, or an entry is made wider. -/
theorem widenedTo_insert {more : TeamReviewers}
    (wider : ∀ team ∈ reviewers.teams.get? teamId, team.WidenedTo more) :
    reviewers.WidenedTo { reviewers with teams := reviewers.teams.insert teamId more } where
  common := rfl
  commonIds := List.Subset.refl _
  teams probe team found := by
    by_cases same : teamId = probe
    · subst same
      exact ⟨more, TextMap.get?_insert_self _ _ _, wider team found⟩
    · exact ⟨team, (TextMap.get?_insert_of_ne _ _ same).trans found, id, List.Subset.refl _⟩
  teamAdmins := id
  systemAdmins := id

theorem WidenedTo.hasAdmins (widened : reviewers.WidenedTo wider)
    (admins : reviewers.hasAdmins = true) : wider.hasAdmins = true := by
  rw [ReviewerSettings.hasAdmins, Bool.or_eq_true] at admins ⊢
  exact admins.imp widened.teamAdmins widened.systemAdmins

/-- The list that applies to a team is made longer, and still applies. -/
theorem WidenedTo.applies (widened : reviewers.WidenedTo wider)
    (applies : reviewers.Applies teamId ids) : ∃ more, wider.Applies teamId more ∧ ids ⊆ more := by
  cases applies with
  | common shared => exact ⟨_, .common (widened.common.trans shared), widened.commonIds⟩
  | own apart found on =>
    obtain ⟨more, found', team⟩ := widened.teams _ _ found
    exact ⟨_, .own (widened.common.trans apart) found' (team.enabled on), team.reviewerIds⟩

theorem WidenedTo.reviews (widened : reviewers.WidenedTo wider)
    (reviews : reviewers.Reviews teamId) : wider.Reviews teamId := by
  obtain ⟨ids, applies, someone⟩ := reviews
  obtain ⟨more, applies', kept⟩ := widened.applies applies
  refine ⟨more, applies', someone.imp (fun some_ids => ?_) widened.hasAdmins⟩
  rintro rfl
  exact some_ids (List.subset_nil.1 kept)

end ReviewerSettings

namespace FlaggingSettings

variable {settings wider other : FlaggingSettings} {teamId teamId' : String}

/-! ## What follows for a team -/

/-- **A team is enabled just if both switches are on and somebody reviews it.** -/
theorem isEnabledFor_iff :
    settings.isEnabledFor teamId = true ↔
      settings.enabled = true ∧ settings.featureFlag = true ∧ settings.reviewers.Reviews teamId := by
  rw [isEnabledFor, Bool.and_eq_true, Bool.and_eq_true, and_assoc]
  refine and_congr_right' (and_congr_right' ?_)
  cases common : settings.reviewers.common with
  | true => simp [ReviewerSettings.reviews_of_common common]
  | false =>
    rw [ReviewerSettings.reviews_of_apart common]
    cases settings.reviewers.teams.get? teamId <;> simp

/-- **Reviewers, teams and administrators are added, or switches are turned on.** -/
structure WidenedTo (settings wider : FlaggingSettings) : Prop where
  enabled : settings.enabled = true → wider.enabled = true
  featureFlag : settings.featureFlag = true → wider.featureFlag = true
  reviewers : settings.reviewers.WidenedTo wider.reviewers

/-- **Nothing that is added switches a team off.** -/
theorem WidenedTo.isEnabledFor (widened : settings.WidenedTo wider)
    (enabled : settings.isEnabledFor teamId = true) : wider.isEnabledFor teamId = true := by
  obtain ⟨on, flag, reviews⟩ := isEnabledFor_iff.1 enabled
  exact isEnabledFor_iff.2
    ⟨widened.enabled on, widened.featureFlag flag, widened.reviewers.reviews reviews⟩

/-- **The settings differ in the entries of other teams at most.** -/
structure AgreeOn (teamId : String) (settings other : FlaggingSettings) : Prop where
  enabled : settings.enabled = other.enabled
  featureFlag : settings.featureFlag = other.featureFlag
  common : settings.reviewers.common = other.reviewers.common
  commonIds : settings.reviewers.commonIds = other.reviewers.commonIds
  team : settings.reviewers.teams.get? teamId = other.reviewers.teams.get? teamId
  teamAdmins : settings.reviewers.teamAdmins = other.reviewers.teamAdmins
  systemAdmins : settings.reviewers.systemAdmins = other.reviewers.systemAdmins

/-- **What is set for other teams makes no difference to a team.** -/
theorem AgreeOn.isEnabledFor (same : AgreeOn teamId settings other) :
    settings.isEnabledFor teamId = other.isEnabledFor teamId := by
  rw [FlaggingSettings.isEnabledFor, FlaggingSettings.isEnabledFor, ReviewerSettings.hasAdmins,
    ReviewerSettings.hasAdmins, same.enabled, same.featureFlag, same.common, same.commonIds,
    same.team, same.teamAdmins, same.systemAdmins]

/-- **One list for all teams gives one answer for all teams.** -/
theorem isEnabledFor_of_common (shared : settings.reviewers.common = true) :
    settings.isEnabledFor teamId = settings.isEnabledFor teamId' := by
  rw [Bool.eq_iff_iff, isEnabledFor_iff, isEnabledFor_iff,
    ReviewerSettings.reviews_of_common shared, ReviewerSettings.reviews_of_common shared]

end FlaggingSettings

end PropertyGate
