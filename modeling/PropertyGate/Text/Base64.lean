import PropertyGate.Text.Utf8

/-!
# Text/Base64 — bytes written in base 64

Four digits of six bits write three bytes. A last group of two or three digits writes one byte or
two, with or without the padding that fills it up to four; bits that are left over count for
nothing. Blanks may stand anywhere.

Digits are taken in blocks of eight. Padding in a block that is not the last, or before the last
four digits, comes too early; any other padding that does not fit is a bad end.
-/

namespace PropertyGate.Base64

/-- Why bytes are no base 64. -/
inductive Fault where
  | notADigit (byte : UInt8)
  | earlyPadding
  | badEnd
deriving DecidableEq, Repr

def Fault.message : Fault → String
  | .notADigit byte => "InvalidCharacter(" ++ byte.toNat.repr ++ ")"
  | .earlyPadding => "PrematurePadding"
  | .badEnd => "InvalidTrailingPadding"

/-- What a byte that is no blank stands for. -/
inductive Symbol where
  | digit (value : Nat)
  | padding
deriving DecidableEq, Repr

/-- Blanks are the space, the tab, and what ends lines and pages. -/
def isBlank (byte : UInt8) : Bool := byte = 32 || (9 ≤ byte && byte ≤ 13)

/-- The symbol of a byte. -/
def symbol? (byte : UInt8) : Option Symbol :=
  let code := byte.toNat
  if 65 ≤ code ∧ code ≤ 90 then some (.digit (code - 65))
  else if 97 ≤ code ∧ code ≤ 122 then some (.digit (code - 71))
  else if 48 ≤ code ∧ code ≤ 57 then some (.digit (code + 4))
  else if code = 43 then some (.digit 62)
  else if code = 47 then some (.digit 63)
  else if code = 61 then some .padding
  else none

/-- The digits of a block before its first padding. -/
def digitsOf : List Symbol → List Nat
  | .digit value :: rest => value :: digitsOf rest
  | _ => []

/-- The bytes that up to four digits write. -/
def groupBytes : List Nat → Bytes
  | [a, b] => [(a * 4 + b / 16).toUInt8]
  | [a, b, c] => [(a * 4 + b / 16).toUInt8, (b % 16 * 16 + c / 4).toUInt8]
  | [a, b, c, d] =>
    [(a * 4 + b / 16).toUInt8, (b % 16 * 16 + c / 4).toUInt8, (c % 4 * 64 + d).toUInt8]
  | _ => []

/-- The bytes of a group that has no padding. -/
def fullGroup (group : List Symbol) : Except Fault Bytes :=
  if group.contains .padding then .error .earlyPadding else .ok (groupBytes (digitsOf group))

/-- The bytes of the last group: padding, if there is any, makes it four long. -/
def lastGroup (group : List Symbol) : Except Fault Bytes :=
  let digits := digitsOf group
  let padding := group.drop digits.length
  if group.isEmpty then .ok []
  else if 2 ≤ digits.length ∧ padding.all (· = .padding)
      ∧ (padding.isEmpty ∨ group.length = 4) then .ok (groupBytes digits)
  else .error .badEnd

/-- The bytes of the last block. -/
def lastBlock (block : List Symbol) : Except Fault Bytes :=
  if 4 < block.length then do
    let first ← fullGroup (block.take 4)
    return first ++ (← lastGroup (block.drop 4))
  else lastGroup block

/-- The bytes of a block that is not the last. -/
def fullBlock (block : List Symbol) : Except Fault Bytes := do
  return (← fullGroup (block.take 4)) ++ (← fullGroup (block.drop 4))

/-- Reads on, after the symbols of a block of which the last comes first. -/
def decodeFrom (block : List Symbol) : Bytes → Except Fault Bytes
  | [] => lastBlock block.reverse
  | byte :: rest =>
    if isBlank byte then decodeFrom block rest
    else
      match symbol? byte with
      | none => .error (.notADigit byte)
      | some symbol =>
        if block.length = 8 then do
          let written ← fullBlock block.reverse
          return written ++ (← decodeFrom [symbol] rest)
        else decodeFrom (symbol :: block) rest

/-- **Reads base 64.** -/
def decode (bytes : Bytes) : Except Fault Bytes := decodeFrom [] bytes

end PropertyGate.Base64
