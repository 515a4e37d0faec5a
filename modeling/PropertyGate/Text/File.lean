import PropertyGate.Text.Utf8

/-!
# Text/File — the contents of files

A file has bytes for contents, or there is a reason why it cannot be read. One that is read as text
has to be well-formed UTF-8 besides.
-/

namespace PropertyGate

/-- Why a file cannot be read. -/
inductive FileFault where
  | missing
  | notPermitted
  /-- The path goes on behind something that is no directory. -/
  | notADirectory
  /-- The path leads to a directory. -/
  | isADirectory
  | nameTooLong
  /-- The contents are not well-formed UTF-8. -/
  | notText
  /-- Anything else, in the words of the system. -/
  | other (reason : String)
deriving DecidableEq, Repr

def FileFault.message : FileFault → String
  | .missing => "No such file or directory (os error 2)"
  | .notPermitted => "Permission denied (os error 13)"
  | .notADirectory => "Not a directory (os error 20)"
  | .isADirectory => "Is a directory (os error 21)"
  | .nameTooLong => "File name too long (os error 36)"
  | .notText => "stream did not contain valid UTF-8"
  | .other reason => reason

/-- The contents of a file, or why there are none. -/
abbrev Contents := Except FileFault Bytes

/-- The contents of a file as bytes that are known to be text. -/
def readTextFile (contents : Contents) : Contents :=
  match contents with
  | .error fault => .error fault
  | .ok bytes => if (Utf8.decode? bytes).isSome then .ok bytes else .error .notText

end PropertyGate
