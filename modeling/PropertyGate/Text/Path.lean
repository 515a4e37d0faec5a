import PropertyGate.Text.File
import PropertyGate.Text.Pieces
import PropertyGate.TextMap.Basic

/-!
# Text/Path — from a path to a file

A path is walked name by name, from the root or from the directory that the program works in. One
dot stays, two dots go back up, and nothing lies behind a file: whatever a path says after the name of
a file, even a closing slash, is one step too many.
-/

namespace PropertyGate

/-- What a directory holds under a name. -/
inductive Entry where
  | file (contents : Bytes)
  | directory (entries : List (String × Entry))

/-- Where a walk has got to, and the directories above it, the nearest first. -/
structure Walk where
  entry : Entry
  above : List Entry := []

namespace Walk

/-- The longest name that a directory can hold, in bytes. -/
def nameLimit : Nat := 255

/-- The length of path that is too long, in bytes. -/
def pathLimit : Nat := 4096

/-- One directory up; above the root is the root. -/
def leave (walk : Walk) : Walk :=
  match walk.above with
  | [] => walk
  | directory :: above => ⟨directory, above⟩

/-- One name further. -/
def enter (walk : Walk) (name : String) : Except FileFault Walk :=
  match walk.entry with
  | .file _ => .error .notADirectory
  | .directory entries =>
    if name = "" ∨ name = "." then .ok walk
    else if name = ".." then .ok walk.leave
    else if nameLimit < name.utf8ByteSize then .error .nameTooLong
    else
      match entries.find? (·.1 == name) with
      | some (_, entry) => .ok ⟨entry, walk.entry :: walk.above⟩
      | none => .error .missing

/-- The walk back at the root. -/
def root (walk : Walk) : Walk :=
  match walk.above.getLast? with
  | some top => ⟨top, []⟩
  | none => walk

/-- Where a path leads. -/
def follow (walk : Walk) (path : String) : Except FileFault Walk :=
  if path = "" then .error .missing
  else if pathLimit ≤ path.utf8ByteSize then .error .nameTooLong
  else
    (Text.split '/' path).foldlM enter
      (if path.toList.head? = some '/' then walk.root else walk)

/-- **What is read at a path.** -/
def read (walk : Walk) (path : String) : Contents :=
  match walk.follow path with
  | .error fault => .error fault
  | .ok ⟨.file contents, _⟩ => .ok contents
  | .ok ⟨.directory _, _⟩ => .error .isADirectory

/-! ## Where programs work -/

/-- The directories at the root of every machine that are of no further interest. -/
def commonNames : List String :=
  ["bin", "boot", "home", "lib", "media", "mnt", "opt", "proc", "root", "run", "sbin", "srv", "sys",
    "tmp", "usr", "var"]

/-- What every machine has at its root: an empty file of no consequence, a list of users, and
directories. -/
def commonRoot : Entry :=
  .directory (("dev", .directory [("null", .file [])])
    :: ("etc", .directory [("passwd", .file (Utf8.encode "root:x:0:0:root:/root:/bin/sh\n"))])
    :: commonNames.map fun name => (name, .directory []))

/-- A directory with the given files, in one below the root. -/
def working (files : TextMap Bytes) : Walk :=
  ⟨.directory (files.entries.map fun file => (file.1, .file file.2)), [.directory [], commonRoot]⟩

end Walk

end PropertyGate
