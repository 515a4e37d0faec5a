import PropertyGate.Text.Path

/-!
# Service/Machine — what a service finds where it runs

A machine has files and addresses. What is read at a path and which addresses can be taken is given;
what the program has taken itself stays taken (`Machine.holding`). `Machine.unprivileged` is a machine
that grants every address but those with a reserved port, and `Machine.working` one where the program
works in a directory with some files.
-/

namespace PropertyGate

/-- Why an address cannot be taken. -/
inductive BindFault where
  | notPermitted
  | notAvailable
  | inUse
  /-- Anything else, in the words of the system: a host may not be found, for one. -/
  | other (reason : String)
deriving DecidableEq, Repr

def BindFault.message : BindFault → String
  | .notPermitted => "Permission denied (os error 13)"
  | .notAvailable => "Cannot assign requested address (os error 99)"
  | .inUse => "Address already in use (os error 98)"
  | .other reason => reason

/-- A host and a port to listen at. -/
structure ListenAddress where
  host : String
  port : UInt16
deriving DecidableEq, Repr

/-- **The machine**: what is read at a path, what keeps an address from being taken, and which
addresses cannot both be taken. -/
structure Machine where
  read : (path : String) → Contents
  bindFault? : (host : String) → (port : UInt16) → Option BindFault
  clash : (held wanted : ListenAddress) → Bool

namespace Machine

/-- The machine while the program holds an address. -/
def holding (machine : Machine) (held : ListenAddress) : Machine where
  read := machine.read
  bindFault? host port :=
    if machine.clash held ⟨host, port⟩ then some .inUse else machine.bindFault? host port
  clash := machine.clash

/-- Ports that only a privileged user can take. -/
def isReserved (port : UInt16) : Bool := 0 < port && port < 1024

/-- Whether a host stands for every address of the fourth or of any version. -/
def coversHost (wide narrow : String) : Bool :=
  wide = "[::]" || wide = "::" || (wide = "0.0.0.0" && !narrow.contains ':')

/-- Whether two addresses are one and the same, as far as their texts tell. Any port that is free,
which 0 asks for, is no port that is taken. -/
def sameAddress (held wanted : ListenAddress) : Bool :=
  wanted.port ≠ 0 && held.port = wanted.port
    && (held.host = wanted.host || coversHost held.host wanted.host
      || coversHost wanted.host held.host)

/-- A machine for a user without privileges. -/
def unprivileged (read : (path : String) → Contents) : Machine where
  read := read
  bindFault? _ port := if isReserved port then some .notPermitted else none
  clash := sameAddress

/-- A machine where the program works in a directory with the given files. -/
def working (files : TextMap Bytes) : Machine := unprivileged (Walk.working files).read

end Machine

end PropertyGate
