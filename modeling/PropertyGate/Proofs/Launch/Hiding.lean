import Mathlib.Data.List.Nodup
import PropertyGate.Proofs.Launch.Stages
import PropertyGate.TextMap.Lemmas

/-!
# Proofs/Launch/Hiding — variables that arguments hide

An argument hides the variable of its setting.  Environments that differ only in what the arguments of
a command line hide (`Environment.AgreesBeside`) are read as the same settings, or refused for the same
fault, and agree in whether marks are wanted; so **the program comes to the same end under both**
(`arguments_hide_variables`), even if what is hidden could not be read.  Only the help tells what it
finds in every variable.
-/

namespace PropertyGate

variable {arguments : List String} {environment environment' : Environment} {machine : Machine}
  {setting other : Setting}

/-- No two settings share a variable. -/
theorem Setting.environmentName_inj :
    setting.environmentName = other.environmentName ↔ setting = other := by
  refine ⟨fun same => ?_, congrArg environmentName⟩
  have distinct : (all.map environmentName).Nodup := by decide
  exact List.inj_on_of_nodup_map distinct setting.mem_all other.mem_all same

/-- Whether marks are wanted is asked of no setting. -/
theorem Setting.environmentName_not_mem (setting : Setting) :
    setting.environmentName ∉ [marksOffName, marksOnName] := by
  cases setting <;> decide

namespace Environment

/-- **Two environments agree beside what the arguments hide**: in all variables but those of the
settings that the arguments give, which may have any texts or be missing. -/
def AgreesBeside (arguments : List String) (environment environment' : Environment) : Prop :=
  ∀ name, (∀ setting : Setting, setting.IsGiven arguments → setting.environmentName ≠ name) →
    environment.get? name = environment'.get? name

namespace AgreesBeside

theorem get?_of_not_isGiven (beside : environment.AgreesBeside arguments environment')
    (free : ¬ setting.IsGiven arguments) :
    environment.get? setting.environmentName = environment'.get? setting.environmentName :=
  beside _ fun _ given same => free (Setting.environmentName_inj.1 same ▸ given)

theorem wantsMarks_eq (beside : environment.AgreesBeside arguments environment') :
    wantsMarks environment = wantsMarks environment' := by
  have marks (name) (mem : name ∈ [marksOffName, marksOnName]) :
      environment.get? name = environment'.get? name :=
    beside name fun setting _ same => setting.environmentName_not_mem (same ▸ mem)
  exact wantsMarks_congr (marks marksOffName (by decide)) (marks marksOnName (by decide))

theorem ofCommandLine_eq (beside : environment.AgreesBeside arguments environment') :
    Settings.ofCommandLine arguments environment = Settings.ofCommandLine arguments environment' :=
  Settings.ofCommandLine_congr fun _ => beside.get?_of_not_isGiven

end AgreesBeside

end Environment

/-- A start depends on the environment by its settings, and by whether marks are wanted. -/
theorem launch_congr (asks : AsksToStart arguments environment)
    (read : Settings.ofCommandLine arguments environment =
      Settings.ofCommandLine arguments environment')
    (marks : wantsMarks environment = wantsMarks environment') :
    launch machine arguments environment = launch machine arguments environment' := by
  cases found : Settings.ofCommandLine arguments environment with
  | ok settings => rw [launch, launch, ← read, found]
  | error halt =>
    cases halt with
    | help => exact absurd found asks.1
    | version => exact absurd found asks.2
    | refused fault => exact (launch_eq_of_refused machine machine found read marks).symm

/-- **An argument hides its variable completely.**  Where a command line does not ask for the help or
the version, the program comes to the same end under any two environments that agree beside what the
arguments hide: it is refused, fails or serves in the same way, with the same exit code, and writes
the same. -/
theorem arguments_hide_variables (machine : Machine) (asks : AsksToStart arguments environment)
    (beside : environment.AgreesBeside arguments environment') :
    launch machine arguments environment = launch machine arguments environment' ∧
      (launch machine arguments environment).exitWhenInterrupted =
        (launch machine arguments environment').exitWhenInterrupted := by
  have same : launch machine arguments environment = launch machine arguments environment' :=
    launch_congr asks beside.ofCommandLine_eq beside.wantsMarks_eq
  exact ⟨same, congrArg Launch.exitWhenInterrupted same⟩

/-- Variables that cannot be read, of settings that the faulty arguments give. -/
def hiddenEnvironment : Environment :=
  TextMap.ofList [("POSTPROP_DEFINITIONS", ""), ("POSTPROP_PORT", "eighty")]

/-- The variables are not complained of: with them as without, the missing file is. -/
theorem hiddenEnvironment_is_hidden :
    let machine : Machine := .unprivileged fun _ => .error .missing
    AsksToStart faultyArguments hiddenEnvironment ∧
      hiddenEnvironment.AgreesBeside faultyArguments .empty ∧
      (launch machine faultyArguments hiddenEnvironment).exitWhenInterrupted =
        (launch machine faultyArguments .empty).exitWhenInterrupted ∧
      (launch machine faultyArguments .empty).exitWhenInterrupted = ⟨1, "",
        "Error: reading property definitions from missing.json\n\nCaused by:\n" ++
          "    No such file or directory (os error 2)\n"⟩ ∧
      Settings.ofCommandLine [] hiddenEnvironment =
        .error (.refused (.invalidValue .port "eighty" (.integer .invalidDigit))) := by
  intro machine
  have read : Settings.ofCommandLine faultyArguments hiddenEnvironment =
      .ok { definitions := some "missing.json", port := 80 } := by rfl
  have definitions : Setting.definitions.IsGiven faultyArguments := .inl List.mem_cons_self
  have port : Setting.port.IsGiven faultyArguments := .inr ⟨"80", by decide⟩
  have beside : hiddenEnvironment.AgreesBeside faultyArguments .empty := by
    intro name free
    have absent : name ∉ hiddenEnvironment.keys := by
      have keys : hiddenEnvironment.keys = ["POSTPROP_DEFINITIONS", "POSTPROP_PORT"] := by rfl
      simpa [keys] using ⟨(free _ definitions).symm, (free _ port).symm⟩
    rw [← TextMap.contains_iff_mem_keys, TextMap.contains, Option.not_isSome_iff_eq_none] at absent
    rw [absent, TextMap.get?_empty]
  have asks := asksToStart_of_ok read
  exact ⟨asks, beside, (arguments_hide_variables machine asks beside).2, by rfl, by rfl⟩

end PropertyGate
