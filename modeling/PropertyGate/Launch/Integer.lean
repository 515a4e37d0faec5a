/-!
# Launch/Integer — whole numbers on a command line

A number is decimal digits, which a sign may lead; a minus sign only where numbers below zero exist.
Of a digit that is none and a number that is too great, the one that comes first is reported.
-/

namespace PropertyGate

/-- Why a text is no number. -/
inductive IntegerFault where
  | empty
  | invalidDigit
  | tooGreat
  | tooSmall
deriving DecidableEq, Repr

def IntegerFault.message : IntegerFault → String
  | .empty => "cannot parse integer from empty string"
  | .invalidDigit => "invalid digit found in string"
  | .tooGreat => "number too large to fit in target type"
  | .tooSmall => "number too small to fit in target type"

/-- Reads digits behind a number read so far, up to a greatest number. -/
def readDigits (greatest : Nat) (beyond : IntegerFault) : (read : Nat) → List Char →
    Except IntegerFault Nat
  | read, [] => .ok read
  | read, c :: rest =>
    if c.isDigit then
      let next := read * 10 + (c.toNat - '0'.toNat)
      if greatest < next then .error beyond else readDigits greatest beyond next rest
    else .error .invalidDigit

/-- Reads the digits of a number; there must be one. -/
def readMagnitude (greatest : Nat) (beyond : IntegerFault) (digits : List Char) :
    Except IntegerFault Nat :=
  if digits.isEmpty then .error .invalidDigit else readDigits greatest beyond 0 digits

/-- The greatest number of 64 bits without a sign. -/
def greatestUnsigned64 : Nat := 18446744073709551615

/-- The greatest number of 64 bits with a sign. -/
def greatestSigned64 : Nat := 9223372036854775807

/-- Reads a number of 64 bits without a sign. -/
def readUnsigned64 (text : String) : Except IntegerFault Nat :=
  match text.toList with
  | [] => .error .empty
  | '+' :: digits => readMagnitude greatestUnsigned64 .tooGreat digits
  | digits => readMagnitude greatestUnsigned64 .tooGreat digits

/-- Reads a number of 64 bits with a sign. -/
def readSigned64 (text : String) : Except IntegerFault Int :=
  match text.toList with
  | [] => .error .empty
  | '+' :: digits => (readMagnitude greatestSigned64 .tooGreat digits).map Int.ofNat
  | '-' :: digits => (readMagnitude (greatestSigned64 + 1) .tooSmall digits).map fun n => -Int.ofNat n
  | digits => (readMagnitude greatestSigned64 .tooGreat digits).map Int.ofNat

end PropertyGate
