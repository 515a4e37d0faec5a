import PropertyGate.Flagging.File
import PropertyGate.Proofs.Json.Abridging
import PropertyGate.Proofs.Property.Documents

/-!
# Proofs/Flagging/Abridging — settings that are written in short

Every setting has a default, at each of the three levels of a settings document: the settings, those
of the reviewers, and the reviewers of one team.  Whoever writes such a document may leave out what is
as by default, at any level, list the members in any order, and add members of other names, whether or
not they can be read; only the keys of the teams are kept (`FlaggingSettings.Abridged`).  **The settings
that are loaded are those that were written in short** (`load_abridged`).
-/

namespace PropertyGate

open Json

/-- Values that are taken from what they are encoded as are encoded differently. -/
theorem Json.injective_of_takes {α : Type} {decoder : Decoder α} {encode : α → Value}
    (takes : ∀ a, decoder.Takes maxDepth (encode a) a) : Function.Injective encode := by
  intro a b same
  have read := (takes a).decode (.refl _)
  rw [same, (takes b).decode (.refl _)] at read
  exact (Except.ok.inj read).symm

/-- Within the member of one name documents are rewritten, within the others they stay. -/
def RewritesOnly (name : String) (rewrites : Value → Value → Prop) (key : String) :
    Value → Value → Prop :=
  if key = name then rewrites else Eq

section Rewriting

variable {name key : String} {rewrites : Value → Value → Prop} {document written : Value}

theorem RewritesOnly.stays (other : key ≠ name)
    (same : RewritesOnly name rewrites key document written) : document = written := by
  rwa [RewritesOnly, if_neg other] at same

theorem RewritesOnly.rewritten (same : RewritesOnly name rewrites name document written) :
    rewrites document written := by
  rwa [RewritesOnly, if_pos rfl] at same

end Rewriting

/-! ## In short -/

/-- The reviewers of a team in short. -/
def TeamReviewers.Abridged : Value → Value → Prop :=
  AbridgedTo (toJson {}) fun _ => Eq

/-- Who reviews in short; the reviewers of every team are, too. -/
def ReviewerSettings.Abridged : Value → Value → Prop :=
  AbridgedTo (toJson {}) (RewritesOnly "team_reviewers_setting" (EachAbridged TeamReviewers.Abridged))

/-- **Settings in short**, and with them who reviews. -/
def FlaggingSettings.Abridged : Value → Value → Prop :=
  AbridgedTo (toJson {}) (RewritesOnly "reviewer_settings" ReviewerSettings.Abridged)

/-! ## Understood -/

section Understood

variable {depth : Nat} {written : Value}

section Fits

variable {σ τ : Type} {within : String → Value → Value → Prop} {name : String}
  {decoder : Decoder τ} {set : τ → σ → σ} {document : Value} {value : τ}

/-- A member that has a default fits what is understood from whatever is written for it. -/
theorem fits_defaulted (understands : ∀ written, within name document written →
      decoder.Understands depth written value) :
    Part.Fits within depth (Member.defaulted name decoder set) ⟨name, document, set value⟩ where
  name := rfl
  free := rfl
  understands written same := (understands written same).image set

theorem fits_of_eq (understands : decoder.Understands depth document value) :
    Part.Fits (fun _ => Eq) depth (Member.defaulted name decoder set)
      ⟨name, document, set value⟩ :=
  fits_defaulted fun _ same => same ▸ understands

theorem fits_of_ne {rewritten : String} {rewrites : Value → Value → Prop}
    (other : name ≠ rewritten) (understands : decoder.Understands depth document value) :
    Part.Fits (RewritesOnly rewritten rewrites) depth (Member.defaulted name decoder set)
      ⟨name, document, set value⟩ :=
  fits_defaulted fun _ same => same.stays other ▸ understands

theorem fits_of_rewritten {rewrites : Value → Value → Prop}
    (understands : ∀ written, rewrites document written →
      decoder.Understands depth written value) :
    Part.Fits (RewritesOnly name rewrites) depth (Member.defaulted name decoder set)
      ⟨name, document, set value⟩ :=
  fits_defaulted fun written same => understands written same.rewritten

end Fits

theorem understands_texts (texts : List String) :
    (Decoder.list Decoder.text).Understands (depth + 1) (.array (texts.map Value.text)) texts :=
  understands_list (List.forall₂_map_left_iff.2
    (List.forall₂_same.2 fun text _ => understands_text text))

namespace TeamReviewers

theorem understands_abridged (team : TeamReviewers) (abridged : Abridged team.toJson written) :
    decoder.Understands (depth + 2) written team := by
  have fits : List.Forall₂ (Part.Fits (fun _ => Eq) (depth + 1)) shape.members _ :=
    .cons (fits_of_eq (understands_bool team.enabled))
      (.cons (fits_of_eq (understands_texts team.reviewerIds)) .nil)
  refine Json.understands_abridged fits (by decide) (by simp [Part.Commutes]) rfl ?_ abridged
  simp [Part.member, Value.members, toJson, shape]

end TeamReviewers

namespace ReviewerSettings

theorem understands_abridged (reviewers : ReviewerSettings)
    (abridged : Abridged reviewers.toJson written) :
    decoder.Understands (depth + 4) written reviewers := by
  have fits : List.Forall₂ (Part.Fits (RewritesOnly "team_reviewers_setting"
      (EachAbridged TeamReviewers.Abridged)) (depth + 3)) shape.members _ :=
    .cons (fits_of_ne (by decide) (understands_bool reviewers.common))
      (.cons (fits_of_ne (by decide) (understands_texts reviewers.commonIds))
        (.cons (fits_of_rewritten fun _ => understands_eachAbridged reviewers.teams fun team _ =>
            team.understands_abridged)
          (.cons (fits_of_ne (by decide) (understands_bool reviewers.teamAdmins))
            (.cons (fits_of_ne (by decide) (understands_bool reviewers.systemAdmins)) .nil))))
  have teams (same : (reviewers.teams.mapValues fun _ team => team.toJson).entries =
      (TextMap.empty.mapValues fun _ (team : TeamReviewers) => team.toJson).entries) :
      reviewers.teams = .empty :=
    injective_of_takes (fun teams => takes_map teams fun entry _ => entry.2.takes)
      (congrArg Value.object same)
  refine Json.understands_abridged fits (by decide) (by simp [Part.Commutes]) rfl ?_ abridged
  simpa [Part.member, Value.members, toJson, shape] using teams

end ReviewerSettings

namespace FlaggingSettings

theorem understands_abridged (settings : FlaggingSettings)
    (abridged : Abridged settings.toJson written) :
    decoder.Understands (depth + 5) written settings := by
  have fits : List.Forall₂ (Part.Fits (RewritesOnly "reviewer_settings" ReviewerSettings.Abridged)
      (depth + 4)) shape.members _ :=
    .cons (fits_of_ne (by decide) (understands_bool settings.enabled))
      (.cons (fits_of_ne (by decide) (understands_bool settings.featureFlag))
        (.cons (fits_of_rewritten fun _ => settings.reviewers.understands_abridged) .nil))
  have reviewers (same : settings.reviewers.toJson = ReviewerSettings.toJson {}) :
      settings.reviewers = {} :=
    injective_of_takes ReviewerSettings.takes same
  refine Json.understands_abridged fits (by decide) (by simp [Part.Commutes]) rfl ?_ abridged
  simpa [Part.member, Value.members, toJson, shape] using reviewers

end FlaggingSettings

end Understood

/-! ## Loaded -/

/-- **Settings that are written in short are loaded as they are**, however the text spells what is
written, so that every team can flag posts just if it can under the settings.  Members of other names
need not even be readable: what can only be passed over is `null` in the outline. -/
theorem FlaggingSettings.load_abridged {settings : FlaggingSettings} {written : Value} {text : String}
    (abridged : Abridged settings.toJson written)
    (spelled : Json.decode Decoder.outline (Utf8.encode text) = .ok written) (path : String) :
    ∃ loaded, load path (.ok (Utf8.encode text)) = .ok loaded ∧ loaded = settings ∧
      ∀ teamId, loaded.isEnabledFor teamId = settings.isEnabledFor teamId := by
  have decoded : Json.decode decoder (Utf8.encode text) = .ok settings :=
    (settings.understands_abridged abridged).decode spelled
  have read : readTextFile (.ok (Utf8.encode text)) = .ok (Utf8.encode text) := by
    rw [readTextFile, Utf8.decode?_encode]
    rfl
  refine ⟨settings, ?_, rfl, fun _ => rfl⟩
  rw [load, read]
  dsimp only
  rw [decoded]

/-- Two teams that review for themselves, one of them with administrators only. -/
def sampleSettings : FlaggingSettings where
  enabled := true
  featureFlag := true
  reviewers := {
    teams := ⟨[("t1", ⟨true, ["u1"]⟩), ("t2", ⟨true, []⟩)], by decide⟩
    teamAdmins := true }

/-- The same settings as somebody might write them, with notes of their own: a number out of range,
and half of a pair of escapes. -/
def sampleSettingsText : String :=
  "\x7b\"version\": 1e999, \"version\": [1, \x7b\"since\": \"\\ud800\"\x7d], "
    ++ "\"reviewer_settings\": "
    ++ "\x7b\"team_admins_as_reviewers\": true, \"team_reviewers_setting\": "
    ++ "\x7b\"t2\": \x7b\"\\u006eote\": null, \"enabled\": true\x7d, "
    ++ "\"t1\": \x7b\"reviewer_ids\": [\"u\\u0031\"], \"enabled\": true\x7d\x7d\x7d, "
    ++ "\"feature_flag\": true, \"enable_content_flagging\": true\x7d"

/-- The teams in short, the second of them first. -/
def sampleTeamsInShort : Value :=
  .object [
    ("t2", .object [("note", .null), ("enabled", .bool true)]),
    ("t1", .object [("reviewer_ids", .array [.text "u1"]), ("enabled", .bool true)])]

def sampleReviewersInShort : Value :=
  .object [("team_admins_as_reviewers", .bool true), ("team_reviewers_setting", sampleTeamsInShort)]

/-- The outline of the text. -/
def sampleSettingsInShort : Value :=
  .object [
    ("version", .null),
    ("version", .array [.number (.integer 1), .object [("since", .null)]]),
    ("reviewer_settings", sampleReviewersInShort),
    ("feature_flag", .bool true),
    ("enable_content_flagging", .bool true)]

theorem sampleTeams_abridged :
    EachAbridged TeamReviewers.Abridged
      (.object (sampleSettings.reviewers.teams.mapValues fun _ team => team.toJson).entries)
      sampleTeamsInShort := by
  have first : TeamReviewers.Abridged (TeamReviewers.toJson ⟨true, ["u1"]⟩)
      (.object [("reviewer_ids", .array [.text "u1"]), ("enabled", .bool true)]) :=
    .intro (.refl (_ ++ [])) (List.forall_mem_nil _) (.cons ⟨rfl, rfl⟩ (.cons ⟨rfl, rfl⟩ .nil))
      (List.forall_mem_nil _) (.swap _ _ _)
  have second : TeamReviewers.Abridged (TeamReviewers.toJson ⟨true, []⟩)
      (.object [("note", .null), ("enabled", .bool true)]) :=
    .intro (.refl ([_] ++ [_])) (List.forall_mem_singleton.2 (.tail _ (.head _)))
      (.cons ⟨rfl, rfl⟩ .nil) (List.forall_mem_singleton.2 (by decide)) (.swap _ _ _)
  refine .intro ?_ (.swap _ _ _)
  exact .cons ⟨rfl, first⟩ (.cons ⟨rfl, second⟩ .nil)

theorem sampleReviewers_abridged :
    ReviewerSettings.Abridged sampleSettings.reviewers.toJson sampleReviewersInShort := by
  refine @AbridgedTo.intro _ _ _ _ _
    [("team_reviewers_setting", sampleTeamsInShort), ("team_admins_as_reviewers", .bool true)] [] _
    (List.perm_append_comm_assoc [_, _] [_, _] [_]) ?_ ?_ (List.forall_mem_nil _) (.swap _ _ _)
  · simp only [List.cons_append, List.nil_append, List.forall_mem_cons]
    exact ⟨.head _, .tail _ (.head _), .tail _ (.tail _ (.tail _ (.tail _ (.head _)))), nofun⟩
  · refine .cons ⟨rfl, ?_⟩ (.cons ⟨rfl, ?_⟩ .nil)
    · rw [RewritesOnly, if_pos rfl]
      exact sampleTeams_abridged
    · rw [RewritesOnly, if_neg (by decide)]
      rfl

theorem sampleSettings_abridged :
    FlaggingSettings.Abridged sampleSettings.toJson sampleSettingsInShort := by
  -- The members are listed the other way round.
  have order := (List.reverse_perm sampleSettingsInShort.members)
  refine @AbridgedTo.intro _ _ _ _ [] [_, _, _] [_, _] _ (.of_eq (List.append_nil _))
    (List.forall_mem_nil _) ?_ ?_ order
  · refine .cons ⟨rfl, ?_⟩ (.cons ⟨rfl, ?_⟩ (.cons ⟨rfl, ?_⟩ .nil))
    · rw [RewritesOnly, if_neg (by decide)]
      rfl
    · rw [RewritesOnly, if_neg (by decide)]
      rfl
    · rw [RewritesOnly, if_pos rfl]
      exact sampleReviewers_abridged
  · simp only [List.forall_mem_cons]
    exact ⟨by decide, by decide, nofun⟩

set_option maxRecDepth 4000 in
/-- The settings are loaded from the text. -/
theorem sampleSettings_loaded :
    FlaggingSettings.Abridged sampleSettings.toJson sampleSettingsInShort ∧
      Json.decode Decoder.outline (Utf8.encode sampleSettingsText) = .ok sampleSettingsInShort ∧
      FlaggingSettings.load "flagging.json" (.ok (Utf8.encode sampleSettingsText)) =
        .ok sampleSettings := by
  have spelled : Json.decode Decoder.outline (Utf8.encode sampleSettingsText) =
      .ok sampleSettingsInShort := by rfl
  obtain ⟨_, loads, rfl, -⟩ :=
    FlaggingSettings.load_abridged sampleSettings_abridged spelled "flagging.json"
  exact ⟨sampleSettings_abridged, spelled, loads⟩

end PropertyGate
