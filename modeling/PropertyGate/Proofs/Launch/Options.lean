import Mathlib.Data.List.Basic
import Mathlib.Data.List.Infix
import PropertyGate.Launch.CommandLine
import PropertyGate.Proofs.FirstFailure

/-!
# Proofs/Launch/Options — what a command line gives

A command line that is understood gives settings their texts, one after the other: `Gives` says
which arguments give which texts, without regard to how they are read.  Reading them argument by
argument comes to giving those texts (`Progress.exists_gives_of_foldlM`), and reading the variables
of the environment to giving theirs to the settings that are left (`Settings.ofCommandLine_eq`).
Hence **an argument hides its variable** (`Settings.ofCommandLine_congr`).

The invariant behind it is that an option that is not settled yet counts as if its arguments were
still to come (`Progress.openArguments`).
-/

namespace PropertyGate

/-! ## The form of an argument -/

namespace Setting

theorem ofName?_name (setting : Setting) : ofName? setting.name = some setting := by
  cases setting <;> rfl

/-- A setting is known by its name and no other. -/
theorem ofName?_eq_some_iff {name : String} {setting : Setting} :
    ofName? name = some setting ↔ setting.name = name := by
  constructor
  · intro found
    have named := List.find?_some (p := fun setting : Setting => setting.name == name) found
    exact beq_iff_eq.1 named
  · rintro rfl
    exact ofName?_name setting

/-- A name ends before an equals sign. -/
theorem equals_not_mem_name (setting : Setting) : '=' ∉ setting.name.toList := by
  cases setting <;> decide

end Setting

namespace Argument

/-- What the text of an option is: two dashes and a name, and a value behind an equals sign. -/
def longText (name : String) : (value : Option String) → String
  | none => "--" ++ name
  | some value => "--" ++ name ++ "=" ++ value

/-- The text that an argument of a form is; of letters behind one dash only the first is kept. -/
def IsText (text : String) : Argument → Prop
  | .separator => text = "--"
  | .long name value => text = longText name value
  | .short _ => True
  | .plain same => same = text

/-- **An argument is read as a form that it has.** -/
theorem isText_ofText (text : String) : (ofText text).IsText text := by
  rw [ofText]
  split
  case h_1 chars =>
    change text = "--"
    exact String.toList_inj.1 chars
  case h_2 rest _ chars =>
    have whole := List.takeWhile_append_dropWhile (p := (· ≠ '=')) (l := rest)
    have behind := List.head?_dropWhile_not (· ≠ '=') rest
    dsimp only
    generalize rest.takeWhile (· ≠ '=') = front at whole ⊢
    split
    case h_1 nothing =>
      change text = _
      apply String.toList_inj.1
      rw [chars, ← whole, nothing]
      simp [longText]
    case h_2 first value found =>
      rw [found] at behind
      have equals : first = '=' := by simpa using behind
      change text = _
      apply String.toList_inj.1
      rw [chars, ← whole, found, equals]
      simp [longText]
  case h_3 => exact trivial
  case h_4 => exact rfl

/-- The flag of a setting is read as its option without a value. -/
theorem ofText_flag (setting : Setting) : ofText setting.flag = .long setting.name none := by
  cases setting <;> rfl

/-- Behind an equals sign an option has a value, whatever stands in it. -/
theorem ofText_joined (setting : Setting) (text : String) :
    ofText (setting.flag ++ "=" ++ text) = .long setting.name (some text) := by
  have chars : (setting.flag ++ "=" ++ text).toList =
      '-' :: '-' :: (setting.name.toList ++ '=' :: text.toList) := by
    simp [Setting.flag]
  have ends (c) (h : c ∈ setting.name.toList) : decide (c ≠ '=') = true :=
    decide_eq_true (ne_of_mem_of_not_mem h setting.equals_not_mem_name)
  have front : (setting.name.toList ++ '=' :: text.toList).takeWhile (· ≠ '=') =
      setting.name.toList := by
    rw [List.takeWhile_append_of_pos ends, List.takeWhile_cons_of_neg (by decide), List.append_nil]
  have behind : (setting.name.toList ++ '=' :: text.toList).dropWhile (· ≠ '=') =
      '=' :: text.toList := by
    rw [List.dropWhile_append_of_pos ends, List.dropWhile_cons_of_neg (by decide)]
  generalize setting.name.toList ++ '=' :: text.toList = rest at chars front behind
  cases rest with
  | nil => cases behind
  | cons c rest =>
    simp only [ofText, chars, front, behind, String.ofList_toList]

end Argument

/-! ## Argument by argument -/

/-- One argument gives a setting its text. -/
inductive GivesAlone : (argument : String) → (setting : Setting) → (text : String) → Prop where
  | switch {setting : Setting} (takesNone : setting.takesValue = false) :
      GivesAlone setting.flag setting "true"
  | joined {setting : Setting} {text : String} (takesOne : setting.takesValue = true) :
      GivesAlone (setting.flag ++ "=" ++ text) setting text

namespace Progress

variable {progress settled after : Progress} {setting : Setting} {text : String}

/-- What taking an argument does, where it does not fail. -/
inductive Takes (progress : Progress) : (argument : String) → (after : Progress) → Prop where
  | separator : Takes progress "--" { progress with separated := true }
  | alone {argument text : String} {setting : Setting} {settled after : Progress}
      (alone : GivesAlone argument setting text) (settle : progress.settle = .ok settled)
      (give : settled.give setting text = .ok after) : Takes progress argument after
  | opens {setting : Setting} {settled : Progress} (takesOne : setting.takesValue = true)
      (settle : progress.settle = .ok settled) :
      Takes progress setting.flag { settled with unsettled := some (setting, none) }
  | value {setting : Setting} {text : String} (opened : progress.unsettled = some (setting, none))
      (plain : Argument.ofText text = .plain text) :
      Takes progress text { progress with unsettled := some (setting, some text) }

/-- What ends the reading ends it, settled or not. -/
theorem halt_ne_ok {halt : Halt} : progress.halt halt ≠ .ok after := by
  rw [Progress.halt]
  cases progress.settle <;> nofun

/-- An option that takes no value must not have one. -/
theorem takeFlag_eq_ok_iff {option : String} {value : Option String}
    {taken : Except Halt Progress} :
    takeFlag option value taken = .ok after ↔ value = none ∧ taken = .ok after := by
  cases value with
  | none => exact (and_iff_right rfl).symm
  | some value => exact ⟨nofun, nofun⟩

theorem takes_of_takeOption {value : Option String}
    (h : progress.takeOption setting value = .ok after) :
    Takes progress (Argument.longText setting.name value) after := by
  rw [takeOption] at h
  split at h
  case isTrue takesOne =>
    obtain ⟨settled, settle, next⟩ := bind_eq_ok_iff.1 h
    cases value with
    | some text => exact .alone (.joined takesOne) settle next
    | none =>
      cases next
      exact .opens takesOne settle
  case isFalse takesNone =>
    obtain ⟨rfl, taken⟩ := takeFlag_eq_ok_iff.1 h
    obtain ⟨settled, settle, give⟩ := bind_eq_ok_iff.1 taken
    exact .alone (.switch (Bool.eq_false_iff.2 takesNone)) settle give

/-- **What taking an argument does**, where it does not fail; behind the separator it does. -/
theorem takes_of_take (h : progress.take text = .ok after) :
    progress.separated = false ∧ Takes progress text after := by
  rw [take] at h
  split at h
  case isTrue => cases h
  case isFalse unseparated =>
    refine ⟨Bool.eq_false_iff.2 unseparated, ?_⟩
    have isText := Argument.isText_ofText text
    split at h
    case h_1 form =>
      cases h
      rw [form] at isText
      change text = "--" at isText
      exact isText ▸ .separator
    case h_2 => exact absurd (takeFlag_eq_ok_iff.1 h).2 halt_ne_ok
    case h_3 => exact absurd (takeFlag_eq_ok_iff.1 h).2 halt_ne_ok
    case h_4 name value _ _ form =>
      split at h
      case h_1 setting found =>
        rw [form, ← Setting.ofName?_eq_some_iff.1 found] at isText
        change text = _ at isText
        exact isText ▸ takes_of_takeOption h
      case h_2 => cases h
    case h_5 => exact absurd h halt_ne_ok
    case h_6 => exact absurd h halt_ne_ok
    case h_7 => cases h
    case h_8 plain form =>
      rw [form] at isText
      cases isText
      split at h
      case h_1 opened =>
        cases h
        exact .value opened form
      case h_2 => cases h

/-- A setting is given once, if it does not repeat, and a text that it can be set to. -/
theorem give_eq_ok_iff :
    progress.give setting text = .ok after ↔
      (setting ∈ progress.given → setting.repeats = true) ∧
        ∃ settings, setting.assign (progress.given.contains setting) text progress.settings =
            .ok settings ∧
          after = { progress with settings, given := setting :: progress.given } := by
  rw [give]
  split
  case isTrue again =>
    obtain ⟨known, once⟩ := Bool.and_eq_true_iff.1 again
    refine ⟨nofun, fun fine => ?_⟩
    rw [fine.1 (List.contains_iff_mem.1 known)] at once
    cases once
  case isFalse again =>
    have fine (known : setting ∈ progress.given) : setting.repeats = true := by
      by_contra once
      exact again (by simp [known, once])
    rw [and_iff_right fine]
    cases setting.assign (progress.given.contains setting) text progress.settings with
    | error fault => simp
    | ok settings => simp [eq_comm]

theorem unsettled_of_give (h : progress.give setting text = .ok after) :
    after.unsettled = progress.unsettled := by
  obtain ⟨-, _, -, rfl⟩ := give_eq_ok_iff.1 h
  rfl

theorem separated_of_give (h : progress.give setting text = .ok after) :
    after.separated = progress.separated := by
  obtain ⟨-, _, -, rfl⟩ := give_eq_ok_iff.1 h
  rfl

/-- An option without its value cannot be settled, and one with it is given. -/
theorem settle_eq_ok_iff :
    progress.settle = .ok settled ↔
      progress.unsettled = none ∧ settled = progress ∨
        ∃ setting text, progress.unsettled = some (setting, some text) ∧
          { progress with unsettled := none }.give setting text = .ok settled := by
  rw [settle]
  rcases progress.unsettled with _ | ⟨setting, _ | text⟩
  · simp [eq_comm]
  · simp
  · simp

theorem unsettled_of_settle (h : progress.settle = .ok settled) : settled.unsettled = none := by
  obtain ⟨none, rfl⟩ | ⟨setting, text, -, give⟩ := settle_eq_ok_iff.1 h
  · exact none
  · exact unsettled_of_give give

theorem separated_of_settle (h : progress.settle = .ok settled) :
    settled.separated = progress.separated := by
  obtain ⟨-, rfl⟩ | ⟨setting, text, -, give⟩ := settle_eq_ok_iff.1 h
  · rfl
  · exact (separated_of_give give).trans rfl

/-- The separator makes no difference to settling. -/
theorem settle_separated (separated : Bool) :
    { progress with separated }.settle =
      progress.settle.map fun settled => { settled with separated } := by
  obtain ⟨settings, given, _ | ⟨setting, _ | text⟩, _⟩ := progress
  · rfl
  · rfl
  · simp only [settle, give]
    split
    · rfl
    · cases setting.assign (given.contains setting) text settings <;> rfl

/-! ## What is given -/

/-- Gives several settings their texts, one after the other. -/
def giveAll (progress : Progress) (given : List (Setting × String)) : Except Halt Progress :=
  given.foldlM (fun progress pair => progress.give pair.1 pair.2) progress

theorem giveAll_cons_eq_ok_iff {given : List (Setting × String)} {result : Progress} :
    progress.giveAll ((setting, text) :: given) = .ok result ↔
      ∃ after, progress.give setting text = .ok after ∧ after.giveAll given = .ok result := by
  rw [giveAll, List.foldlM_cons, bind_eq_ok_iff]
  rfl

/-- What has been given in the end was given before or is among what is given. -/
theorem given_of_giveAll {given : List (Setting × String)} {result : Progress}
    (h : progress.giveAll given = .ok result) (setting : Setting) :
    setting ∈ result.given ↔ setting ∈ progress.given ∨ ∃ text, (setting, text) ∈ given := by
  induction given generalizing progress with
  | nil =>
    cases h
    simp
  | cons pair given ih =>
    obtain ⟨after, give, rest⟩ := giveAll_cons_eq_ok_iff.1 h
    obtain ⟨-, _, -, rfl⟩ := give_eq_ok_iff.1 give
    rw [ih rest]
    simp only [List.mem_cons, Prod.ext_iff]
    grind

/-- A setting that does not repeat is not given again. -/
theorem not_mem_of_giveAll {given : List (Setting × String)} {result : Progress}
    (h : progress.giveAll given = .ok result) (once : setting.repeats = false)
    (known : setting ∈ progress.given) : (setting, text) ∉ given := by
  induction given generalizing progress with
  | nil => exact List.not_mem_nil
  | cons pair given ih =>
    obtain ⟨after, give, rest⟩ := giveAll_cons_eq_ok_iff.1 h
    obtain ⟨fine, _, -, rfl⟩ := give_eq_ok_iff.1 give
    intro member
    rcases List.mem_cons.1 member with rfl | member
    · exact nomatch once.symm.trans (fine known)
    · exact ih rest (List.mem_cons_of_mem _ known) member

end Progress

/-- **What arguments give to which settings**, one after the other. -/
inductive Gives : (arguments : List String) → (given : List (Setting × String)) → Prop where
  | nothing : Gives [] []
  | separator : Gives ["--"] []
  | alone {argument text : String} {setting : Setting} {arguments : List String}
      {given : List (Setting × String)} (alone : GivesAlone argument setting text)
      (rest : Gives arguments given) : Gives (argument :: arguments) ((setting, text) :: given)
  | apart {setting : Setting} {text : String} {arguments : List String}
      {given : List (Setting × String)} (takesOne : setting.takesValue = true)
      (plain : Argument.ofText text = .plain text) (rest : Gives arguments given) :
      Gives (setting.flag :: text :: arguments) ((setting, text) :: given)

namespace Progress

variable {progress settled after : Progress} {setting : Setting} {text : String}

/-- The arguments behind what is not settled yet. -/
def openArguments (progress : Progress) : List String :=
  match progress.unsettled with
  | none => []
  | some (setting, none) => [setting.flag]
  | some (setting, some text) => [setting.flag, text]

/-- What is not settled yet is an option that takes a value, and a value that is no option. -/
def OpensValue (progress : Progress) : Prop :=
  ∀ setting value, progress.unsettled = some (setting, value) →
    setting.takesValue = true ∧ ∀ text ∈ value, Argument.ofText text = .plain text

theorem opensValue_of_settled (h : progress.unsettled = none) : progress.OpensValue :=
  fun _ _ opened => nomatch h.symm.trans opened

/-- What has been settled has been given by the arguments behind it. -/
theorem exists_gives_of_settle {arguments : List String} {given : List (Setting × String)}
    {result : Progress} (opens : progress.OpensValue) (settle : progress.settle = .ok settled)
    (gives : Gives arguments given) (rest : settled.giveAll given = .ok result) :
    ∃ given, Gives (progress.openArguments ++ arguments) given ∧
      { progress with unsettled := none }.giveAll given = .ok result := by
  obtain ⟨none, rfl⟩ | ⟨setting, text, opened, give⟩ := settle_eq_ok_iff.1 settle
  · rw [openArguments, none]
    refine ⟨given, gives, ?_⟩
    rw [← none]
    exact rest
  · obtain ⟨takesOne, plain⟩ := opens _ _ opened
    rw [openArguments, opened]
    exact ⟨_, .apart takesOne (plain _ rfl) gives, giveAll_cons_eq_ok_iff.2 ⟨_, give, rest⟩⟩

/-- At the end of the arguments all that is left is what has not been settled yet. -/
theorem exists_gives_at_end {arguments : List String} (opens : progress.OpensValue)
    (joined : progress.separated = false) (settle : progress.settle = .ok settled)
    (gives : Gives arguments []) :
    ∃ given, Gives (progress.openArguments ++ arguments) given ∧
      { progress with unsettled := none }.giveAll given =
        .ok { settled with separated := false } := by
  have same : settled = { settled with separated := false } := by
    rw [← joined, ← separated_of_settle settle]
  exact exists_gives_of_settle opens settle gives (congrArg Except.ok same)

/-- **Reading arguments comes to giving what they say**: one by one, with what is not settled yet
counted as still to come. -/
theorem exists_gives_of_foldlM {arguments : List String} {taken : Progress}
    (opens : progress.OpensValue) (joined : progress.separated = false)
    (h : arguments.foldlM take progress = .ok taken) (settle : taken.settle = .ok settled) :
    ∃ given, Gives (progress.openArguments ++ arguments) given ∧
      { progress with unsettled := none }.giveAll given =
        .ok { settled with separated := false } := by
  induction arguments generalizing progress with
  | nil =>
    cases h
    exact exists_gives_at_end opens joined settle .nothing
  | cons text arguments ih =>
    rw [List.foldlM_cons, bind_eq_ok_iff] at h
    obtain ⟨after, head, tail⟩ := h
    cases (takes_of_take head).2 with
    | separator =>
      -- behind the separator nothing is taken
      cases arguments with
      | cons next arguments =>
        obtain ⟨_, refused, -⟩ := bind_eq_ok_iff.1 ((List.foldlM_cons ..).symm.trans tail)
        exact nomatch (takes_of_take refused).1
      | nil =>
        cases tail
        rw [settle_separated, map_eq_ok_iff] at settle
        obtain ⟨settled', settle', rfl⟩ := settle
        exact (exists_gives_at_end opens joined settle' .separator :)
    | alone alone settle' give =>
      have settled' := (unsettled_of_give give).trans (unsettled_of_settle settle')
      obtain ⟨given, gives, rest⟩ := ih (opensValue_of_settled settled')
        ((separated_of_give give).trans ((separated_of_settle settle').trans joined)) tail
      rw [openArguments, settled'] at gives
      rw [← settled'] at rest
      exact exists_gives_of_settle opens settle' (.alone alone gives)
        (giveAll_cons_eq_ok_iff.2 ⟨_, give, rest⟩)
    | @opens setting settled' takesOne settle' =>
      have opens' : { settled' with unsettled := some (setting, none) }.OpensValue := by
        rintro _ _ ⟨⟩
        exact ⟨takesOne, nofun⟩
      obtain ⟨given, gives, rest⟩ :=
        ih opens' ((separated_of_settle settle').trans joined) tail
      rw [← unsettled_of_settle settle'] at rest
      exact exists_gives_of_settle opens settle' gives rest
    | @value setting text opened plain =>
      have opens' : { progress with unsettled := some (setting, some text) }.OpensValue := by
        rintro _ _ ⟨⟩
        exact ⟨(opens _ _ opened).1, fun _ same => by cases same; exact plain⟩
      obtain ⟨given, gives, rest⟩ := ih opens' joined tail
      rw [openArguments, opened]
      exact ⟨given, gives, rest⟩

end Progress

/-! ## Which settings arguments give -/

namespace Setting

/-- The setting whose option an argument is. -/
def ofOption? (argument : String) : Option Setting :=
  match Argument.ofText argument with
  | .long name _ => ofName? name
  | _ => none

/-- Among the arguments there is the option of the setting, with a value in it or not. -/
def IsGiven (setting : Setting) (arguments : List String) : Prop :=
  setting.flag ∈ arguments ∨ ∃ text, setting.flag ++ "=" ++ text ∈ arguments

/-- Among the arguments there is the option of the setting, with the text in it or behind it. -/
def IsGivenAs (setting : Setting) (text : String) (arguments : List String) : Prop :=
  setting.flag ++ "=" ++ text ∈ arguments ∨ [setting.flag, text] <:+: arguments

variable {setting : Setting} {argument text : String} {arguments : List String}

theorem ofOption?_eq_some_iff :
    ofOption? argument = some setting ↔
      argument = setting.flag ∨ ∃ text, argument = setting.flag ++ "=" ++ text := by
  constructor
  · intro found
    rw [ofOption?] at found
    split at found
    case h_1 name value form =>
      have isText := Argument.isText_ofText argument
      rw [form, ← ofName?_eq_some_iff.1 found] at isText
      cases value with
      | none => exact .inl isText
      | some value => exact .inr ⟨value, isText⟩
    case h_2 => cases found
  · rintro (rfl | ⟨text, rfl⟩)
    · rw [ofOption?, Argument.ofText_flag]
      exact ofName?_name setting
    · rw [ofOption?, Argument.ofText_joined]
      exact ofName?_name setting

theorem isGiven_iff :
    setting.IsGiven arguments ↔ ∃ argument ∈ arguments, ofOption? argument = some setting := by
  simp only [IsGiven, ofOption?_eq_some_iff]
  grind

theorem ofOption?_of_plain (plain : Argument.ofText text = .plain text) :
    ofOption? text = none := by
  rw [ofOption?, plain]

theorem ofOption?_flag (setting : Setting) : ofOption? setting.flag = some setting :=
  ofOption?_eq_some_iff.2 (.inl rfl)

theorem ofOption?_joined (setting : Setting) (text : String) :
    ofOption? (setting.flag ++ "=" ++ text) = some setting :=
  ofOption?_eq_some_iff.2 (.inr ⟨text, rfl⟩)

theorem flag_inj {setting' : Setting} : setting.flag = setting'.flag ↔ setting = setting' := by
  refine ⟨fun same => ?_, congrArg flag⟩
  exact Option.some.inj ((ofOption?_flag setting).symm.trans
    ((congrArg ofOption? same).trans (ofOption?_flag setting')))

theorem joined_inj {setting' : Setting} {text' : String} :
    setting.flag ++ "=" ++ text = setting'.flag ++ "=" ++ text' ↔
      setting = setting' ∧ text = text' := by
  constructor
  · intro same
    have form := congrArg Argument.ofText same
    rw [Argument.ofText_joined, Argument.ofText_joined] at form
    refine ⟨Option.some.inj ?_, Option.some.inj (Argument.long.inj form).2⟩
    rw [← ofOption?_joined setting text, same, ofOption?_joined]
  · exact fun same => same.1 ▸ same.2 ▸ rfl

theorem joined_ne_flag {setting' : Setting} : setting.flag ++ "=" ++ text ≠ setting'.flag := by
  intro same
  have form := congrArg Argument.ofText same
  rw [Argument.ofText_joined, Argument.ofText_flag] at form
  exact nomatch (Argument.long.inj form).2

end Setting

theorem GivesAlone.ofOption?_eq {argument text : String} {setting : Setting}
    (h : GivesAlone argument setting text) : Setting.ofOption? argument = some setting := by
  cases h with
  | switch => exact Setting.ofOption?_flag setting
  | joined => exact Setting.ofOption?_joined setting text

namespace Gives

variable {arguments : List String} {given : List (Setting × String)} {setting : Setting}
  {text : String}

/-- **What is given is what has its option among the arguments.** -/
theorem isGiven_iff (h : Gives arguments given) :
    setting.IsGiven arguments ↔ ∃ text, (setting, text) ∈ given := by
  rw [Setting.isGiven_iff]
  induction h with
  | nothing => simp
  | separator =>
    have none : Setting.ofOption? "--" = none := rfl
    simp [none]
  | alone alone rest ih =>
    rw [List.exists_mem_cons_iff, ih, alone.ofOption?_eq]
    simp [exists_or, eq_comm]
  | apart takesOne plain rest ih =>
    rw [List.exists_mem_cons_iff, List.exists_mem_cons_iff, ih, Setting.ofOption?_flag,
      Setting.ofOption?_of_plain plain]
    simp [exists_or, eq_comm]

/-- **The text of a setting is the one in its option, or behind it.** -/
theorem isGivenAs_iff (h : Gives arguments given) (takesOne : setting.takesValue = true) :
    setting.IsGivenAs text arguments ↔ (setting, text) ∈ given := by
  rw [Setting.IsGivenAs]
  induction h with
  | nothing => simp
  | separator =>
    have other : setting.flag ++ "=" ++ text ≠ "--" := fun same =>
      nomatch (Setting.ofOption?_joined setting text).symm.trans (congrArg _ same)
    simp [other, List.infix_cons_iff, List.cons_prefix_cons]
  | @alone argument text' setting' arguments given alone rest ih =>
    rw [List.infix_cons_iff, List.cons_prefix_cons, List.mem_cons, List.mem_cons, ← ih,
      Prod.mk.injEq]
    cases alone with
    | switch takesNone =>
      have other : setting ≠ setting' := fun same => nomatch (same ▸ takesOne).symm.trans takesNone
      simp [Setting.joined_ne_flag, Setting.flag_inj, other]
    | joined =>
      simp [Setting.joined_ne_flag.symm, Setting.joined_inj]
      grind
  | @apart setting' text' arguments given takesOne' plain rest ih =>
    have other {argument : String} (option : Setting.ofOption? argument = some setting) :
        argument ≠ text' := fun same =>
      nomatch (Setting.ofOption?_of_plain plain).symm.trans ((congrArg _ same).symm.trans option)
    simp only [List.infix_cons_iff, List.cons_prefix_cons, List.mem_cons, ← ih, Prod.mk.injEq,
      Setting.joined_ne_flag, other (Setting.ofOption?_joined setting text),
      other (Setting.ofOption?_flag setting), Setting.flag_inj, List.nil_prefix, and_true,
      false_or, false_and]
    exact or_left_comm

theorem exists_isGivenAs_iff (h : Gives arguments given) (takesOne : setting.takesValue = true) :
    (∃ text, setting.IsGivenAs text arguments) ↔ setting.IsGiven arguments := by
  simp only [h.isGivenAs_iff takesOne, h.isGiven_iff]

end Gives

/-! ## What variables give -/

/-- What the variables of the environment give, to settings that have not been given yet. -/
def Environment.given (environment : Environment) (already settings : List Setting) :
    List (Setting × String) :=
  settings.filterMap fun setting =>
    if already.contains setting then none
    else (environment.get? setting.environmentName).map (setting, ·)

theorem Environment.mem_given_iff {environment : Environment} {already settings : List Setting}
    {setting : Setting} {text : String} :
    (setting, text) ∈ environment.given already settings ↔
      setting ∈ settings ∧ setting ∉ already ∧
        environment.get? setting.environmentName = some text := by
  rw [Environment.given, List.mem_filterMap]
  constructor
  · rintro ⟨other, member, found⟩
    split at found
    case isTrue => cases found
    case isFalse fresh =>
      obtain ⟨_, read, same⟩ := Option.map_eq_some_iff.1 found
      cases same
      exact ⟨member, fun known => fresh (List.contains_iff_mem.2 known), read⟩
  · rintro ⟨member, fresh, read⟩
    refine ⟨setting, member, ?_⟩
    rw [if_neg fun known => fresh (List.contains_iff_mem.1 known), read, Option.map_some]

theorem Progress.foldlM_takeVariable {environment : Environment} {settings : List Setting}
    (apart : settings.Nodup) (progress : Progress) :
    settings.foldlM (takeVariable environment) progress =
      progress.giveAll (environment.given progress.given settings) := by
  induction settings generalizing progress with
  | nil => rfl
  | cons setting settings ih =>
    obtain ⟨fresh, apart⟩ := List.nodup_cons.1 apart
    rw [List.foldlM_cons, takeVariable, Environment.given, List.filterMap_cons]
    split
    case isTrue => exact ih apart progress
    case isFalse =>
      cases environment.get? setting.environmentName with
      | none => exact ih apart progress
      | some text =>
        dsimp only [Option.map_some]
        rw [giveAll, List.foldlM_cons]
        cases give : progress.give setting text with
        | error halt => rfl
        | ok after =>
          obtain ⟨-, _, -, rfl⟩ := give_eq_ok_iff.1 give
          refine (ih apart _).trans (congrArg (giveAll _) ?_)
          refine List.filterMap_congr fun other member => ?_
          have ne : other ≠ setting := fun same => fresh (same ▸ member)
          simp [ne]

/-! ## Settings -/

namespace Settings

/-- The options of a command line that has been read to its end. -/
def readArguments (arguments : List String) : Except Halt Progress :=
  arguments.foldlM Progress.take {} >>= Progress.settle

/-- The settings, once what is left has been given. -/
def finish (settled : Progress) (given : List (Setting × String)) : Except Halt Settings :=
  settled.giveAll given >>= fun progress =>
    if companionsGiven progress.given then .ok progress.settings
    else .error (.refused .companionMissing)

theorem ofCommandLine_eq (arguments : List String) (environment : Environment) :
    ofCommandLine arguments environment =
      readArguments arguments >>= fun settled =>
        finish settled (environment.given settled.given Setting.all) := by
  rw [ofCommandLine, readArguments, bind_assoc]
  have apart : Setting.all.Nodup := by decide
  simp only [Progress.foldlM_takeVariable apart]
  rfl

theorem exists_gives {arguments : List String} {settled : Progress}
    (h : readArguments arguments = .ok settled) :
    ∃ given, Gives arguments given ∧
      Progress.giveAll {} given = .ok { settled with separated := false } := by
  obtain ⟨taken, take, settle⟩ := bind_eq_ok_iff.1 h
  exact Progress.exists_gives_of_foldlM (Progress.opensValue_of_settled rfl) rfl take settle

theorem mem_given_of_readArguments {arguments : List String} {settled : Progress}
    (h : readArguments arguments = .ok settled) (setting : Setting) :
    setting ∈ settled.given ↔ setting.IsGiven arguments := by
  obtain ⟨given, gives, all⟩ := exists_gives h
  rw [gives.isGiven_iff, ← false_or (∃ _, _), ← iff_false_intro (List.not_mem_nil (a := setting))]
  exact Progress.given_of_giveAll all setting

/-- **A variable counts only if its setting is not given by an argument.** -/
theorem ofCommandLine_congr {arguments : List String} {environment environment' : Environment}
    (same : ∀ setting : Setting, ¬ setting.IsGiven arguments →
      environment.get? setting.environmentName = environment'.get? setting.environmentName) :
    ofCommandLine arguments environment = ofCommandLine arguments environment' := by
  rw [ofCommandLine_eq, ofCommandLine_eq]
  cases read : readArguments arguments with
  | error halt => rfl
  | ok settled =>
    have given : environment.given settled.given Setting.all =
        environment'.given settled.given Setting.all := by
      refine List.filterMap_congr fun setting _ => ?_
      split
      case isTrue => rfl
      case isFalse fresh =>
        rw [same setting fun given => fresh (List.contains_iff_mem.2
          ((mem_given_of_readArguments read setting).2 given))]
    exact congrArg (finish settled) given

end Settings

end PropertyGate
