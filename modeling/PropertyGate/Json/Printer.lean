import PropertyGate.Decimal.Layout
import PropertyGate.Json.Value

/-!
# Json/Printer — documents as text

Documents are written without blanks, members in the order in which the object lists them. Inside
strings only quotation marks, backslashes and control characters are escaped.
-/

namespace PropertyGate.Json

/-- Doubles from `0.00001` up to but not including `10 ^ 16` are written with a point. -/
def doubleLayout : Double.Layout := ⟨-5, 16⟩

/-- The text of a number. -/
def Number.print : Number → String
  | .integer n => n.repr
  | .double x => x.text doubleLayout

/-- The two lower-case hexadecimal digits of a control character. -/
def controlDigits (c : Char) : String :=
  String.ofList [Nat.digitChar (c.toNat / 16), Nat.digitChar (c.toNat % 16)]

/-- How one character is written inside a string. -/
def escapedChar (c : Char) : String :=
  if c = '"' then "\\\""
  else if c = '\\' then "\\\\"
  else if 0x20 ≤ c.toNat then c.toString
  else if c = '\n' then "\\n"
  else if c = '\r' then "\\r"
  else if c = '\t' then "\\t"
  else if c.toNat = 0x08 then "\\b"
  else if c.toNat = 0x0C then "\\f"
  else "\\u00" ++ controlDigits c

/-- Appends a string in its quotation marks. -/
def writeText (written : String) (text : String) : String :=
  (text.foldl (fun written c => written ++ escapedChar c) (written ++ "\"")) ++ "\""

namespace Value

mutual

/-- Appends a document. -/
def write (written : String) : Value → String
  | .null => written ++ "null"
  | .bool true => written ++ "true"
  | .bool false => written ++ "false"
  | .number n => written ++ n.print
  | .text s => writeText written s
  | .array [] => written ++ "[]"
  | .array (item :: rest) => writeItems (write (written ++ "[") item) rest
  | .object [] => written ++ "\x7b\x7d"
  | .object ((key, value) :: rest) =>
    writeMembers (write (writeText (written ++ "\x7b") key ++ ":") value) rest

/-- Appends the items that follow the first, and the bracket that ends them. -/
def writeItems (written : String) : List Value → String
  | [] => written ++ "]"
  | item :: rest => writeItems (write (written ++ ",") item) rest

/-- Appends the members that follow the first, and the brace that ends them. -/
def writeMembers (written : String) : List (String × Value) → String
  | [] => written ++ "\x7d"
  | (key, value) :: rest =>
    writeMembers (write (writeText (written ++ ",") key ++ ":") value) rest

end

/-- **The text of a document.** -/
def print (value : Value) : String := value.write ""

end Value

end PropertyGate.Json
