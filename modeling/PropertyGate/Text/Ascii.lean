import PropertyGate.Text.Utf8

/-!
# Text/Ascii — characters of one byte

Digits, letter case and blanks as the formats of the service know them: bytes and characters outside
ASCII are none of these.
-/

namespace PropertyGate

/-- The byte of an ASCII character. -/
def byte (c : Char) : UInt8 := c.toUInt8

def isDigit (b : UInt8) : Bool := byte '0' ≤ b && b ≤ byte '9'

/-- The value of a digit. -/
def digitValue (b : UInt8) : Nat := b.toNat - (byte '0').toNat

/-- The value of a hexadecimal digit. -/
def hexValue? (b : UInt8) : Option Nat :=
  if isDigit b then some (digitValue b)
  else if byte 'a' ≤ b && b ≤ byte 'f' then some (b.toNat - (byte 'a').toNat + 10)
  else if byte 'A' ≤ b && b ≤ byte 'F' then some (b.toNat - (byte 'A').toNat + 10)
  else none

namespace Text

/-- The text with its ASCII letters in lower case. -/
def lower (text : String) : String := text.map Char.toLower

theorem toList_lower (text : String) : (lower text).toList = text.toList.map Char.toLower :=
  String.toList_map

/-- Texts differ without regard to case if their initials do. -/
theorem lower_ne_of_head? {a b : String}
    (differ : a.toList.head?.map Char.toLower ≠ b.toList.head?.map Char.toLower) :
    lower a ≠ lower b := by
  intro same
  have heads := congrArg (fun text : String => text.toList.head?) same
  simp only [toList_lower, List.head?_map] at heads
  exact differ heads

/-- A space or a tab. -/
def isBlank (c : Char) : Bool := c = ' ' || c = '\t'

/-- The characters without the blanks at either end. -/
def trimBlanks (chars : List Char) : List Char :=
  ((chars.dropWhile isBlank).reverse.dropWhile isBlank).reverse

/-- Trimming adds no character. -/
theorem mem_of_mem_trimBlanks {c : Char} {chars : List Char} (h : c ∈ trimBlanks chars) :
    c ∈ chars := by
  have inner := (List.dropWhile_sublist isBlank).subset (List.mem_reverse.1 h)
  exact (List.dropWhile_sublist isBlank).subset (List.mem_reverse.1 inner)

end Text

end PropertyGate
