import PropertyGate.Json.Printer
import PropertyGate.Text.Quoted
import PropertyGate.Text.Utf8

/-!
# Json/Fault — why a document cannot be read, and where

A reader stops with a cause and the number of bytes that it had not consumed; the line and the
column follow from the document. Lines count from one, columns count the bytes since the line
began.
-/

namespace PropertyGate.Json

/-- What stood where something else was expected. -/
inductive Found where
  | null
  | bool (value : Bool)
  | number (value : Number)
  | text (value : String)
  | sequence
  | map
deriving DecidableEq, Repr

/-- Why a document cannot be read. -/
inductive Cause where
  | endInValue
  | endInList
  | endInObject
  | endInText
  | valueExpected
  | identExpected
  | colonExpected
  | objectCommaExpected
  | listCommaExpected
  | keyExpected
  | trailingComma
  | trailingCharacters
  | nestedTooDeep
  | invalidNumber
  | numberOutOfRange
  | controlInText
  | invalidEscape
  | loneSurrogate
  | unpairedSurrogate
  | invalidUnicode
  | wrongType (found : Found) (expected : String)
  | wrongValue (found : Int) (expected : String)
  | missingField (name : String)
  | duplicateField (name : String)
  | wrongLength (length : Nat) (expected : String)
deriving DecidableEq, Repr

/-- A document that cannot be read: the cause, and the place in the document. -/
structure Fault where
  cause : Cause
  line : Nat
  column : Nat
deriving DecidableEq, Repr

/-- Where a reader stopped: the cause, and the number of bytes not consumed. -/
structure Stop where
  cause : Cause
  remaining : Nat
deriving DecidableEq, Repr

def Found.describe : Found → String
  | .null => "null"
  | .bool true => "boolean `true`"
  | .bool false => "boolean `false`"
  | .number (.integer n) => "integer `" ++ n.repr ++ "`"
  | .number (.double x) => "floating point `" ++ (Number.double x).print ++ "`"
  | .text s => "string " ++ Text.quoted s
  | .sequence => "sequence"
  | .map => "map"

def Cause.describe : Cause → String
  | .endInValue => "EOF while parsing a value"
  | .endInList => "EOF while parsing a list"
  | .endInObject => "EOF while parsing an object"
  | .endInText => "EOF while parsing a string"
  | .valueExpected => "expected value"
  | .identExpected => "expected ident"
  | .colonExpected => "expected `:`"
  | .objectCommaExpected => "expected `,` or `\x7d`"
  | .listCommaExpected => "expected `,` or `]`"
  | .keyExpected => "key must be a string"
  | .trailingComma => "trailing comma"
  | .trailingCharacters => "trailing characters"
  | .nestedTooDeep => "recursion limit exceeded"
  | .invalidNumber => "invalid number"
  | .numberOutOfRange => "number out of range"
  | .controlInText => "control character (\\u0000-\\u001F) found while parsing a string"
  | .invalidEscape => "invalid escape"
  | .loneSurrogate => "lone leading surrogate in hex escape"
  | .unpairedSurrogate => "unexpected end of hex escape"
  | .invalidUnicode => "invalid unicode code point"
  | .wrongType found expected => "invalid type: " ++ found.describe ++ ", expected " ++ expected
  | .wrongValue found expected =>
    "invalid value: integer `" ++ found.repr ++ "`, expected " ++ expected
  | .missingField name => "missing field `" ++ name ++ "`"
  | .duplicateField name => "duplicate field `" ++ name ++ "`"
  | .wrongLength length expected =>
    "invalid length " ++ length.repr ++ ", expected " ++ expected

/-- The one wording of a fault. -/
def Fault.message (fault : Fault) : String :=
  fault.cause.describe ++ " at line " ++ fault.line.repr ++ " column " ++ fault.column.repr

/-- The line and the column after the bytes consumed. -/
def place (consumed : Bytes) : Nat × Nat :=
  consumed.foldl (fun place byte =>
    if byte = 10 then (place.1 + 1, 0) else (place.1, place.2 + 1)) (1, 0)

/-- The fault of a reader that stopped in `document`. -/
def Stop.fault (stop : Stop) (document : Bytes) : Fault :=
  let here := place (document.take (document.length - stop.remaining))
  ⟨stop.cause, here.1, here.2⟩

end PropertyGate.Json
