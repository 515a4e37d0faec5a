import PropertyGate.Http.Message
import PropertyGate.Text.Pieces

/-!
# Http/Path — the path of a target

The path is what a target names before its query. It is cut into segments as it is written; only a
single segment is ever decoded, where `%` and two hexadecimal digits stand for a byte and anything
else for itself.
-/

namespace PropertyGate.Http

/-- What a target in absolute form holds after its scheme. -/
def afterScheme? : List Char → Option (List Char)
  | ':' :: '/' :: '/' :: rest => some rest
  | c :: rest => if c = '/' then none else afterScheme? rest
  | [] => none

/-- The path of a target; in absolute form a target names a scheme and a host before it. -/
def targetPath (target : String) : String :=
  let named := target.toList.takeWhile fun c => c ≠ '?' && c ≠ '#'
  match afterScheme? named with
  | none => String.ofList named
  | some rest =>
    match rest.dropWhile (· ≠ '/') with
    | [] => "/"
    | path => String.ofList path

/-- The segments of a path, as they are written. -/
def segments (path : String) : List String := Text.split '/' path

/-- The byte that two hexadecimal digits name. -/
def escapedByte? (high low : UInt8) : Option UInt8 :=
  match hexValue? high, hexValue? low with
  | some high, some low => some (high * 16 + low).toUInt8
  | _, _ => none

/-- The bytes that a segment stands for. An escape that is not complete stands for itself. -/
def percentDecode : Bytes → Bytes
  | b :: high :: low :: rest =>
    if b = byte '%' then
      match escapedByte? high low with
      | some escaped => escaped :: percentDecode rest
      | none => b :: percentDecode (high :: low :: rest)
    else b :: percentDecode (high :: low :: rest)
  | rest => rest

/-- The text that a segment stands for, if it is text. -/
def decodeSegment? (segment : String) : Option String :=
  Utf8.decode? (percentDecode (Utf8.encode segment))

end PropertyGate.Http
