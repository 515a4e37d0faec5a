import PropertyGate.Launch.Setting
import PropertyGate.Launch.Style

/-!
# Launch/CommandLine — settings from arguments and the environment

Arguments are taken from left to right. An option without `=` waits for the next argument as its
value, and is settled only when a further option comes or the arguments end; until then an argument
that means nothing is the fault that counts. Variables of the environment are read afterwards, only
for settings that no argument gave: **an argument hides its variable, which is not even read**.
-/

namespace PropertyGate

/-- What is wrong with a command line. -/
inductive CommandFault where
  | valueMissing (setting : Setting)
  | givenTwice (setting : Setting)
  | invalidValue (setting : Setting) (text : String) (fault : ValueFault)
  | unexpectedArgument (argument : String)
  | unexpectedValue (option value : String)
  /-- Of the certificate and the key, one is given without the other. -/
  | companionMissing
deriving DecidableEq, Repr

namespace CommandFault

def valueMissingText (setting : Setting) : String :=
  "a value is required for '" ++ Style.wrong.mark setting.usage ++ "' but none was supplied"

/-- What follows the value that is wrong. -/
def reasonText (fault : ValueFault) : String :=
  match fault.reason? with
  | some reason => ": " ++ reason
  | none => ""

/-- The first line of the message, with its marks. -/
def message : CommandFault → String
  | .valueMissing setting => valueMissingText setting
  | .givenTwice setting =>
    "the argument '" ++ Style.wrong.mark setting.usage ++ "' cannot be used multiple times"
  | .invalidValue setting _ .empty => valueMissingText setting
  | .invalidValue setting text fault =>
    "invalid value '" ++ Style.wrong.mark text ++ "' for '" ++ Style.word.mark setting.usage ++ "'"
      ++ reasonText fault
  | .unexpectedArgument argument => "unexpected argument '" ++ Style.wrong.mark argument ++ "' found"
  | .unexpectedValue option value =>
    "unexpected value '" ++ Style.wrong.mark value ++ "' for '" ++ Style.word.mark option
      ++ "' found; no more were expected"
  | .companionMissing => "the following required arguments were not provided:"

end CommandFault

/-- Why a command line gives no settings: something else is asked for, or something is wrong. -/
inductive Halt where
  | help
  | version
  | refused (fault : CommandFault)
deriving DecidableEq, Repr

/-! ## Arguments -/

/-- What an argument looks like. -/
inductive Argument where
  /-- Two dashes alone: no option follows. -/
  | separator
  | long (name : String) (value : Option String)
  | short (letter : Char)
  | plain (text : String)
deriving DecidableEq, Repr

/-- Reads the form of an argument. Of letters behind one dash the first decides. -/
def Argument.ofText (text : String) : Argument :=
  match text.toList with
  | ['-', '-'] => .separator
  | '-' :: '-' :: rest =>
    let name := String.ofList (rest.takeWhile (· ≠ '='))
    match rest.dropWhile (· ≠ '=') with
    | [] => .long name none
    | _ :: value => .long name (some (String.ofList value))
  | '-' :: letter :: _ => .short letter
  | _ => .plain text

/-- How far a command line has been read: the settings so far, which of them were given, the option
that is not settled yet with its value, and whether no option can follow. -/
structure Progress where
  settings : Settings := {}
  given : List Setting := []
  unsettled : Option (Setting × Option String) := none
  separated : Bool := false

namespace Progress

/-- Gives a setting the value of a text. -/
def give (progress : Progress) (setting : Setting) (text : String) : Except Halt Progress :=
  let again := progress.given.contains setting
  if again && !setting.repeats then .error (.refused (.givenTwice setting))
  else
    match setting.assign again text progress.settings with
    | .error fault => .error (.refused (.invalidValue setting text fault))
    | .ok settings => .ok { progress with settings, given := setting :: progress.given }

/-- Settles the option that is not settled yet. -/
def settle (progress : Progress) : Except Halt Progress :=
  match progress.unsettled with
  | none => .ok progress
  | some (setting, none) => .error (.refused (.valueMissing setting))
  | some (setting, some text) => { progress with unsettled := none }.give setting text

/-- Settles what is open and stops. -/
def halt (progress : Progress) (halt : Halt) : Except Halt Progress :=
  progress.settle.bind fun _ => .error halt

def unexpected (argument : String) : Except Halt Progress :=
  .error (.refused (.unexpectedArgument argument))

/-- Takes an option that needs no value. -/
def takeFlag (option : String) (value : Option String) (taken : Except Halt Progress) :
    Except Halt Progress :=
  match value with
  | some value => .error (.refused (.unexpectedValue option value))
  | none => taken

/-- Takes an option of the program. -/
def takeOption (progress : Progress) (setting : Setting) (value : Option String) :
    Except Halt Progress :=
  if setting.takesValue then
    progress.settle.bind fun settled =>
      match value with
      | some text => settled.give setting text
      | none => .ok { settled with unsettled := some (setting, none) }
  else takeFlag setting.usage value (progress.settle.bind (·.give setting "true"))

/-- **Takes one argument.** -/
def take (progress : Progress) (text : String) : Except Halt Progress :=
  if progress.separated then unexpected text
  else
    match Argument.ofText text with
    | .separator => .ok { progress with separated := true }
    | .long "help" value => takeFlag "--help" value (progress.halt .help)
    | .long "version" value => takeFlag "--version" value (progress.halt .version)
    | .long name value =>
      match Setting.ofName? name with
      | some setting => progress.takeOption setting value
      | none => unexpected ("--" ++ name)
    | .short 'h' => progress.halt .help
    | .short 'V' => progress.halt .version
    | .short letter => unexpected ("-" ++ letter.toString)
    | .plain text =>
      match progress.unsettled with
      | some (setting, none) => .ok { progress with unsettled := some (setting, some text) }
      | _ => unexpected text

end Progress

/-! ## The environment -/

/-- The variables of the environment. -/
abbrev Environment := TextMap String

/-- Whether a variable is there and not empty. -/
def isSwitchedOn (environment : Environment) (name : String) : Bool :=
  (environment.get? name).any (!·.isEmpty)

/-- The variable that keeps marks out. -/
def marksOffName : String := "NO_COLOR"

/-- The variable that asks for marks. -/
def marksOnName : String := "CLICOLOR_FORCE"

/-- **Whether marks are wanted**, where the output is no terminal. -/
def wantsMarks (environment : Environment) : Bool :=
  !isSwitchedOn environment marksOffName && isSwitchedOn environment marksOnName

/-- Gives a setting the value of its variable, unless an argument gave it one. -/
def Progress.takeVariable (environment : Environment) (progress : Progress) (setting : Setting) :
    Except Halt Progress :=
  if progress.given.contains setting then .ok progress
  else
    match environment.get? setting.environmentName with
    | some text => progress.give setting text
    | none => .ok progress

/-- Of the certificate and the key both are given or none, from whichever source. -/
def companionsGiven (given : List Setting) : Bool :=
  given.contains .tlsCert == given.contains .tlsKey

/-- **The settings of a command line and an environment.** -/
def Settings.ofCommandLine (arguments : List String) (environment : Environment) :
    Except Halt Settings := do
  let taken ← arguments.foldlM Progress.take {}
  let settled ← taken.settle
  let progress ← Setting.all.foldlM (Progress.takeVariable environment) settled
  if companionsGiven progress.given then return progress.settings
  else throw (.refused .companionMissing)

end PropertyGate
