import PropertyGate.Json.Fault
import PropertyGate.Text.Ascii

/-!
# Json/Token — blanks, words, numbers and strings

The leaves of a document. Every reader takes the bytes that follow and gives what it read with the
bytes that it left, or stops. A stop is placed either after the last byte consumed (`stopHere`) or
one byte further, at the byte that was looked at (`stopAhead`).

Strings are read by a loop that turns at most `fuel` times; any number not below the length of the
document is enough.
-/

namespace PropertyGate.Json

/-- What a reader gives: a value with the bytes left, or the place where it stopped. -/
abbrev Reading (α : Type) := Except Stop (α × Bytes)

/-- Stops after the bytes consumed. -/
def stopHere {α : Type} (cause : Cause) (rest : Bytes) : Except Stop α :=
  .error ⟨cause, rest.length⟩

/-- Stops at the next byte, if there is one. -/
def stopAhead {α : Type} (cause : Cause) (rest : Bytes) : Except Stop α :=
  .error ⟨cause, rest.length - 1⟩

def isBlank (b : UInt8) : Bool := b == byte ' ' || b == byte '\n' || b == byte '\t' || b == byte '\r'

def skipBlanks : Bytes → Bytes
  | [] => []
  | b :: rest => if isBlank b then skipBlanks rest else b :: rest

/-- Reads the rest of a word whose first letter is known. -/
def expectWord : List Char → Bytes → Except Stop Bytes
  | [], rest => .ok rest
  | _ :: _, [] => stopHere .endInValue []
  | c :: word, b :: rest => if b = byte c then expectWord word rest else stopHere .identExpected rest

/-! ## Numbers -/

/-- The greatest integer that fits 64 bits without a sign. -/
def maxUInt64 : Nat := 18446744073709551615

/-- The magnitude of the least integer that fits 64 bits with a sign. -/
def minInt64Magnitude : Nat := 9223372036854775808

/-- The greatest exponent that is counted. -/
def maxExponentText : Nat := 2147483647

/-- Digits appended to a significand while it fits 64 bits: the significand, the number of digits
taken, and the number of digits left out, which are all from the first that does not fit. -/
structure Tally where
  significand : Nat
  taken : Nat
  dropped : Nat
deriving DecidableEq, Repr

def Tally.push (tally : Tally) (digit : UInt8) : Tally :=
  if tally.dropped = 0 && tally.significand * 10 + digitValue digit ≤ maxUInt64 then
    { tally with
      significand := tally.significand * 10 + digitValue digit
      taken := tally.taken + 1 }
  else { tally with dropped := tally.dropped + 1 }

/-- Appends the digits that come next. -/
def tallyDigits (tally : Tally) : Bytes → Tally × Bytes
  | [] => (tally, [])
  | b :: rest => if isDigit b then tallyDigits (tally.push b) rest else (tally, b :: rest)

/-- The digits of an exponent after its first: the exponent, or none once it passes the greatest
that is counted, and the bytes after the last digit looked at. -/
def exponentDigits (exponent : Nat) : Bytes → Option Nat × Bytes
  | [] => (some exponent, [])
  | b :: rest =>
    if isDigit b then
      if maxExponentText < exponent * 10 + digitValue b then (none, rest)
      else exponentDigits (exponent * 10 + digitValue b) rest
    else (some exponent, b :: rest)

/-- The double `± significand · 10 ^ power`, read up to `rest`. -/
def finishDouble (negative : Bool) (significand : Nat) (power : Int) (rest : Bytes) :
    Reading Number :=
  match Double.ofDecimal? significand power with
  | some x => .ok (.double (x.withSign negative), rest)
  | none => stopHere .numberOutOfRange rest

/-- Reads an exponent, its mark already read. -/
def readExponent (negative : Bool) (significand : Nat) (power : Int) (input : Bytes) :
    Reading Number :=
  let (below, rest) := match input with
    | b :: rest =>
      if b = byte '+' then (false, rest) else if b = byte '-' then (true, rest) else (false, input)
    | [] => (false, [])
  match rest with
  | [] => stopHere .endInValue []
  | b :: rest =>
    if isDigit b then
      match exponentDigits (digitValue b) rest with
      | (some exponent, rest) =>
        finishDouble negative significand
          (if below then power - (exponent : Int) else power + (exponent : Int)) rest
      | (none, rest) =>
        if significand ≠ 0 && !below then stopHere .numberOutOfRange rest
        else .ok (.double (Double.zero negative), rest.dropWhile isDigit)
    else stopHere .invalidNumber rest

def isExponentMark (b : UInt8) : Bool := b == byte 'e' || b == byte 'E'

/-- Reads what may follow the digits of a double: an exponent, or nothing. -/
def readAfterDigits (negative : Bool) (significand : Nat) (power : Int) (input : Bytes) :
    Reading Number :=
  match input with
  | b :: rest =>
    if isExponentMark b then readExponent negative significand power rest
    else finishDouble negative significand power input
  | [] => finishDouble negative significand power []

/-- Reads the digits after the point, the point already read. -/
def readFraction (negative : Bool) (significand : Nat) (power : Int) (input : Bytes) :
    Reading Number :=
  let (tally, rest) := tallyDigits ⟨significand, 0, 0⟩ input
  if tally.taken = 0 && tally.dropped = 0 then
    match rest with
    | [] => stopAhead .endInValue []
    | _ => stopAhead .invalidNumber rest
  else readAfterDigits negative tally.significand (power - (tally.taken : Int)) rest

/-- A whole number without point or exponent: an integer if it fits 64 bits and is not `-0`. -/
def wholeNumber (negative : Bool) (significand : Nat) (rest : Bytes) : Reading Number :=
  if !negative then .ok (.integer significand, rest)
  else if significand ≠ 0 && significand ≤ minInt64Magnitude then
    .ok (.integer (-(significand : Int)), rest)
  else finishDouble true significand 0 rest

/-- Reads what follows the whole part of a number. -/
def readAfterWhole (negative : Bool) (tally : Tally) (input : Bytes) : Reading Number :=
  let power : Int := tally.dropped
  match input with
  | b :: rest =>
    if b = byte '.' then readFraction negative tally.significand power rest
    else if isExponentMark b then readExponent negative tally.significand power rest
    else if tally.dropped = 0 then wholeNumber negative tally.significand input
    else finishDouble negative tally.significand power input
  | [] =>
    if tally.dropped = 0 then wholeNumber negative tally.significand []
    else finishDouble negative tally.significand power []

/-- Reads a number, its minus sign already read. A leading zero stands alone. -/
def readUnsigned (negative : Bool) (input : Bytes) : Reading Number :=
  match input with
  | [] => stopHere .endInValue []
  | b :: rest =>
    if b = byte '0' then
      match rest with
      | [] => readAfterWhole negative ⟨0, 1, 0⟩ []
      | d :: _ =>
        if isDigit d then stopAhead .invalidNumber rest
        else readAfterWhole negative ⟨0, 1, 0⟩ rest
    else if isDigit b then
      let (tally, rest) := tallyDigits ⟨digitValue b, 1, 0⟩ rest
      readAfterWhole negative tally rest
    else stopHere .invalidNumber rest

/-- Reads a number whose first byte is a digit or a minus sign. -/
def readNumber (input : Bytes) : Reading Number :=
  match input with
  | b :: rest => if b = byte '-' then readUnsigned true rest else readUnsigned false input
  | [] => readUnsigned false []

/-! ## Strings -/

/-- Reads the four hexadecimal digits of an escape; where fewer than four bytes are left, the
document ends inside the string. -/
def readHex (input : Bytes) : Reading Nat :=
  match input with
  | a :: b :: c :: d :: rest =>
    match hexValue? a, hexValue? b, hexValue? c, hexValue? d with
    | some a, some b, some c, some d => .ok (((a * 16 + b) * 16 + c) * 16 + d, rest)
    | _, _, _, _ => stopHere .invalidEscape rest
  | _ => stopHere .endInText []

def isLowSurrogate (n : Nat) : Bool := 0xDC00 ≤ n && n ≤ 0xDFFF

def isHighSurrogate (n : Nat) : Bool := 0xD800 ≤ n && n ≤ 0xDBFF

/-- The bytes of the character with the given number. -/
def charBytes (n : Nat) : Bytes := String.utf8EncodeChar (Char.ofNat n)

/-- Reads the second half of a pair of escapes that together name one character. -/
def readLowSurrogate (high : Nat) (input : Bytes) : Except Stop (Bytes × Bytes) :=
  match input with
  | [] => stopHere .endInText []
  | b :: rest =>
    if b ≠ byte '\\' then stopHere .unpairedSurrogate rest
    else match rest with
      | [] => stopHere .endInText []
      | b :: rest =>
        if b ≠ byte 'u' then stopHere .unpairedSurrogate rest
        else do
          let (low, rest) ← readHex rest
          if isLowSurrogate low then
            return (charBytes (0x10000 + (high - 0xD800) * 0x400 + (low - 0xDC00)), rest)
          else stopHere .loneSurrogate rest

/-- Reads the hexadecimal digits of an escape, and a second escape where the first names half a
character. -/
def readUnicodeEscape (input : Bytes) : Except Stop (Bytes × Bytes) := do
  let (n, rest) ← readHex input
  if isLowSurrogate n then stopHere .loneSurrogate rest
  else if isHighSurrogate n then readLowSurrogate n rest
  else return (charBytes n, rest)

/-- The character that a letter after a backslash stands for. -/
def shortEscape? (b : UInt8) : Option UInt8 :=
  if b = byte '"' || b = byte '\\' || b = byte '/' then some b
  else if b = byte 'b' then some 8
  else if b = byte 'f' then some 12
  else if b = byte 'n' then some 10
  else if b = byte 'r' then some 13
  else if b = byte 't' then some 9
  else none

/-- Reads an escape, its backslash already read: the bytes that it stands for. -/
def readEscape (input : Bytes) : Reading Bytes :=
  match input with
  | [] => stopHere .endInText []
  | b :: rest =>
    match shortEscape? b with
    | some plain => .ok ([plain], rest)
    | none => if b = byte 'u' then readUnicodeEscape rest else stopHere .invalidEscape rest

/-- Reads the bytes of a string up to its closing quotation mark; `read` holds those read so far,
last first. -/
def readTextBytes : (fuel : Nat) → (read : Bytes) → Bytes → Reading Bytes
  | 0, _, rest => stopHere .endInText rest
  | _ + 1, _, [] => stopHere .endInText []
  | fuel + 1, read, b :: rest =>
    if b = byte '"' then .ok (read.reverse, rest)
    else if b = byte '\\' then
      match readEscape rest with
      | .ok (bytes, rest) => readTextBytes fuel (bytes.reverse ++ read) rest
      | .error stop => .error stop
    else if b < 0x20 then stopHere .controlInText rest
    else readTextBytes fuel (b :: read) rest

/-- **Reads a string**, its opening quotation mark already read. A string whose bytes are no UTF-8
is found out at its end, but blamed on its first byte that is no text, counted back from there. -/
def readText (fuel : Nat) (input : Bytes) : Except Stop (String × Bytes) := do
  let (bytes, rest) ← readTextBytes fuel [] input
  match Utf8.decode? bytes with
  | some text => return (text, rest)
  | none => throw ⟨.invalidUnicode, rest.length + (bytes.length - Utf8.validLength bytes)⟩

/-! ## Scalars -/

/-- A value that is no array and no object. -/
inductive Scalar where
  | null
  | bool (value : Bool)
  | number (value : Number)
  | text (value : String)
deriving DecidableEq, Repr

def Scalar.found : Scalar → Found
  | .null => .null
  | .bool b => .bool b
  | .number n => .number n
  | .text s => .text s

def Scalar.value : Scalar → Value
  | .null => .null
  | .bool b => .bool b
  | .number n => .number n
  | .text s => .text s

/-- Reads a scalar; the input starts with a byte that is no blank. -/
def readScalar (fuel : Nat) (input : Bytes) : Reading Scalar :=
  match input with
  | [] => stopAhead .endInValue []
  | b :: rest =>
    if b = byte 'n' then (expectWord ['u', 'l', 'l'] rest).map (Scalar.null, ·)
    else if b = byte 't' then (expectWord ['r', 'u', 'e'] rest).map (Scalar.bool true, ·)
    else if b = byte 'f' then (expectWord ['a', 'l', 's', 'e'] rest).map (Scalar.bool false, ·)
    else if b = byte '-' || isDigit b then
      (readNumber input).map fun (number, rest) => (Scalar.number number, rest)
    else if b = byte '"' then
      (readText fuel rest).map fun (text, rest) => (Scalar.text text, rest)
    else stopAhead .valueExpected input

end PropertyGate.Json
