import PropertyGate.Text.Ascii

/-!
# Launch/SocketAddress — an address and a port

An address is four numbers with points between them, or eight groups of hexadecimal digits with
colons between them, in brackets. In the second form one run of groups that are zero may be left
out, and the last two groups may be written as four numbers. A colon and a port follow.
-/

namespace PropertyGate

/-- **An address and a port**, the address as it was written. -/
structure SocketAddress where
  host : String
  port : UInt16
deriving DecidableEq, Repr, Inhabited

namespace SocketAddress

/-- Reads a thing and gives the characters left. -/
abbrev Reader (α : Type) := List Char → Option (α × List Char)

/-- How a number is written: its base, how many digits it may have, whether more digits than needed
may be written, and the number that it stays below. -/
structure NumberForm where
  base : Nat
  maxDigits : Option Nat
  leadingZeros : Bool
  bound : Nat

/-- The value of a digit in a base. -/
def digitIn? (base : Nat) (c : Char) : Option Nat :=
  if c.toNat < 0x80 then (hexValue? c.toUInt8).filter (· < base) else none

def readNumber (form : NumberForm) : Reader Nat := fun input =>
  let isDigit := fun c => (digitIn? form.base c).isSome
  let digits := input.takeWhile isDigit
  let number := digits.foldl (fun n c => n * form.base + (digitIn? form.base c).getD 0) 0
  let fits := match form.maxDigits with
    | some most => digits.length ≤ most
    | none => true
  let plain := form.leadingZeros || digits.length ≤ 1 || digits.head? != some '0'
  if digits.isEmpty || !fits || !plain || form.bound ≤ number then none
  else some (number, input.dropWhile isDigit)

def octet : NumberForm := ⟨10, some 3, false, 256⟩
def group : NumberForm := ⟨16, some 4, true, 65536⟩
def portForm : NumberForm := ⟨10, none, true, 65536⟩
def scopeForm : NumberForm := ⟨10, none, true, 4294967296⟩

def readChar (c : Char) : Reader Unit
  | d :: rest => if c = d then some ((), rest) else none
  | [] => none

/-- Reads four numbers with points between them. -/
def readQuad : Reader Unit := fun input => do
  let (_, input) ← readNumber octet input
  let (_, input) ← readChar '.' input
  let (_, input) ← readNumber octet input
  let (_, input) ← readChar '.' input
  let (_, input) ← readNumber octet input
  let (_, input) ← readChar '.' input
  let (_, input) ← readNumber octet input
  return ((), input)

/-- Reads something behind a colon, or at once if it is the first. -/
def behindColon {α : Type} (first : Bool) (reader : Reader α) : Reader α := fun input =>
  if first then reader input
  else do
    let (_, input) ← readChar ':' input
    reader input

/-- Reads at most so many groups: the number of groups read, and whether the last two were written
as four numbers. -/
def readGroups (first : Bool) : (room : Nat) → (read : Nat) → List Char → (Nat × Bool) × List Char
  | 0, read, input => ((read, false), input)
  | room + 1, read, input =>
    match if 0 < room then behindColon first readQuad input else none with
    | some (_, rest) => ((read + 2, true), rest)
    | none =>
      match behindColon first (readNumber group) input with
      | some (_, rest) => readGroups false room (read + 1) rest
      | none => ((read, false), input)

/-- Reads eight groups, or fewer with two colons for those that are left out. -/
def readEightGroups : Reader Unit := fun input =>
  match readGroups true 8 0 input with
  | ((8, _), rest) => some ((), rest)
  | ((_, true), _) => none
  | ((front, false), rest) => do
    let (_, rest) ← readChar ':' rest
    let (_, rest) ← readChar ':' rest
    return ((), (readGroups true (7 - front) 0 rest).2)

/-- Reads the number of a zone, if there is one. -/
def skipScope (input : List Char) : List Char :=
  match input with
  | '%' :: rest =>
    match readNumber scopeForm rest with
    | some (_, rest) => rest
    | none => input
  | _ => input

/-- Reads an address in brackets. -/
def readBracketed : Reader Unit := fun input => do
  let (_, input) ← readChar '[' input
  let (_, input) ← readEightGroups input
  readChar ']' (skipScope input)

/-- **Reads an address and a port.** -/
def ofText? (text : String) : Option SocketAddress := do
  let input := text.toList
  let (_, rest) ← readQuad input <|> readBracketed input
  let host := String.ofList (input.take (input.length - rest.length))
  let (_, rest) ← readChar ':' rest
  let (port, rest) ← readNumber portForm rest
  if rest.isEmpty then return ⟨host, port.toUInt16⟩ else none

end SocketAddress

end PropertyGate
