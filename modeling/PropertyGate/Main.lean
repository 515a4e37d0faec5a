import PropertyGate.Launch.Startup

/-!
# Main — the program

Collects the variables of the environment and the files that the settings name, starts, and ends as
`launch` says. Listening is left to whoever drives a `Server`: once the service is up, the program
ends as if it was interrupted. It does not log (see `Launch/Startup`).
-/

namespace PropertyGate

/-- The variables that count: those of the settings and those that say whether marks are wanted. -/
def variableNames : List String :=
  Setting.all.map Setting.environmentName ++ [marksOffName, marksOnName]

/-- The variables that count, as far as they are there. -/
def readEnvironment : IO Environment := do
  let entries ← variableNames.filterMapM fun name => do
    return (← IO.getEnv name).map (name, ·)
  return TextMap.ofList entries

/-- The files that a start may read. -/
def Settings.fileNames (settings : Settings) : List String :=
  settings.definitions.toList ++ settings.contentFlagging.toList ++ settings.tlsCert.toList
    ++ settings.tlsKey.toList

/-- Why a file could not be read. -/
def FileFault.ofError : IO.Error → FileFault
  | .noFileOrDirectory .. => .missing
  | .permissionDenied _ 13 _ => .notPermitted
  | .inappropriateType _ 20 _ => .notADirectory
  | .inappropriateType _ 21 _ => .isADirectory
  | .invalidArgument _ 36 _ => .nameTooLong
  | error => .other error.toString

/-- The contents of a file. -/
def readContents (name : String) : IO (String × Contents) := do
  try
    return (name, .ok (← IO.FS.readBinFile name).toList)
  catch error =>
    return (name, .error (.ofError error))

/-- What is read at the paths that the settings of a command line name. -/
def readFiles (arguments : List String) (environment : Environment) : IO (TextMap Contents) := do
  match Settings.ofCommandLine arguments environment with
  | .error _ => return .empty
  | .ok settings => return TextMap.ofList (← settings.fileNames.mapM readContents)

end PropertyGate

open PropertyGate

def main (arguments : List String) : IO UInt32 := do
  let environment ← readEnvironment
  let files ← readFiles arguments environment
  let machine := Machine.unprivileged fun path => (files.get? path).getD (.error .missing)
  let exit := (launch machine arguments environment).exitWhenInterrupted
  IO.print exit.output
  IO.eprint exit.errors
  return exit.code.toUInt32
