import PropertyGate.Flagging.File
import PropertyGate.Launch.Help
import PropertyGate.Server.Basic

/-!
# Launch/Startup — from a command line to a service that serves

The settings are read first, then the stages follow one another: the address for metrics, the
declared groups and fields, the settings of content flagging, the address of the service, its
certificate and key. **The first stage that fails ends the start**, and nothing of the later ones
shows. What does not fail serves until it is interrupted.

Logging is left out. A program that logs writes lines to its output, headed by the time: when it has
taken an address or loaded definitions, about the handlers there are, when it begins to serve, is
interrupted, and has drained. `Exit.output` is what is written besides, with logging switched off.
-/

namespace PropertyGate

/-- How a program ends: its exit code and what it wrote. -/
structure Exit where
  code : Nat
  output : String := ""
  errors : String := ""
deriving DecidableEq, Repr, Inhabited

/-- A service that is up, and the groups and fields that are declared when it comes up. -/
structure Launched where
  service : Service
  definitions : Definitions

/-- What becomes of a start. -/
inductive Launch where
  | ended (exit : Exit)
  | serving (launched : Launched)

/-! ## Stages -/

/-- The failure to take the address for metrics. -/
def Settings.metricsFailure? (settings : Settings) (machine : Machine) : Option Failure :=
  settings.metricsAddress.bind fun address =>
    (machine.bindFault? address.host address.port).map fun fault =>
      ⟨"installing Prometheus exporter", ["failed to create HTTP listener: " ++ fault.message]⟩

/-- The machine once the address for metrics is taken, which stays taken. -/
def Settings.machineBehindMetrics (settings : Settings) (machine : Machine) : Machine :=
  match settings.metricsAddress with
  | some address => machine.holding ⟨address.host, address.port⟩
  | none => machine

/-- The declared groups and fields: those of a file, or none. -/
def Settings.loadDefinitions (settings : Settings) (machine : Machine) :
    Except Failure Definitions :=
  match settings.definitions with
  | some path => Definitions.load path (machine.read path)
  | none => .ok .empty

/-- The settings of content flagging: those of a file, or the standard ones. -/
def Settings.loadFlagging (settings : Settings) (machine : Machine) :
    Except Failure FlaggingSettings :=
  match settings.contentFlagging with
  | some path => FlaggingSettings.load path (machine.read path)
  | none => .ok {}

/-- Stops where there is a failure. -/
def failIf : Option Failure → Except Failure Unit
  | some failure => .error failure
  | none => .ok ()

/-- **The stages of a start**, up to the first that fails. -/
def Settings.launch (settings : Settings) (machine : Machine) : Except Failure Launched := do
  failIf (settings.metricsFailure? machine)
  let definitions ← settings.loadDefinitions machine
  let flagging ← settings.loadFlagging machine
  let network := settings.networkConfig
  failIf (network.bindFailure? (settings.machineBehindMetrics machine))
  failIf ((network.tlsFault? machine).map TlsFault.failure)
  return ⟨{ pipeline := settings.pipelineConfig, flagging, network }, definitions⟩

/-! ## The program -/

/-- A cause below its label; the lines of one that has several begin where the first one does. -/
def causeText (label cause : String) : String :=
  let below := "\n" ++ label.map fun _ => ' '
  label ++ below.intercalate (Text.split '\n' cause) ++ "\n"

/-- The causes of a failure, one below the other; they are numbered if there are several. -/
def causeLines (causes : List String) : String :=
  match causes with
  | [cause] => causeText "    " cause
  | _ =>
    String.join (causes.mapIdx fun index cause => causeText ("    " ++ index.repr ++ ": ") cause)

/-- What a program that fails writes. -/
def Failure.report (failure : Failure) : String :=
  "Error: " ++ failure.message ++ "\n"
    ++ if failure.causes.isEmpty then "" else "\nCaused by:\n" ++ causeLines failure.causes

/-- How a program ends that does not get to its settings. Of what it writes about a command line that
it refuses, only the first line is kept: no hints, and no summary of its usage. -/
def Halt.exit (environment : Environment) (halt : Halt) : Exit :=
  let written := Style.written (wantsMarks environment)
  match halt with
  | .help => ⟨0, written (helpText environment), ""⟩
  | .version => ⟨0, versionText, ""⟩
  | .refused fault => ⟨2, "", written (Style.fault.mark "error:" ++ " " ++ fault.message)⟩

/-- **Starts the program** with arguments and an environment, on a machine. -/
def launch (machine : Machine) (arguments : List String) (environment : Environment) : Launch :=
  match Settings.ofCommandLine arguments environment with
  | .error halt => .ended (halt.exit environment)
  | .ok settings =>
    match settings.launch machine with
    | .error failure => .ended ⟨1, "", failure.report⟩
    | .ok launched => .serving launched

/-- How the program ends, if it is interrupted once it serves. -/
def Launch.exitWhenInterrupted : Launch → Exit
  | .ended exit => exit
  | .serving _ => ⟨0, "", ""⟩

end PropertyGate
