import PropertyGate.Text.Utf8

/-!
# Text/Plain — text without what steers a terminal

An escape character begins a sequence that steers a terminal, and how the sequence goes on decides
where it ends. `plain` leaves out such sequences and every control character but blanks, so that only
what a terminal would show is left.

A blank inside a sequence is shown, and with it what follows, up to the next character that is not
shown; from there on the sequence continues.
-/

namespace PropertyGate.Text

/-- Where in a sequence a character stands. -/
inductive Steering where
  /-- In no sequence. -/
  | none
  /-- Behind the escape character. -/
  | escape
  /-- Behind an escape character and what modifies it; the next letter ends it. -/
  | modified
  /-- In a sequence that a letter ends. -/
  | control
  /-- At the head of a string for the device, before its parameters. -/
  | deviceHead
  | deviceParameters
  | deviceModified
  /-- In a string that only its terminator ends. -/
  | string
  /-- In a string that a bell ends. -/
  | command
deriving DecidableEq, Repr

/-- The escape character. -/
def escapeChar : Char := '\x1b'

/-- Whether a character is shown outside of sequences, or is a blank. -/
def isShown (c : Char) : Bool :=
  c = ' ' || c = '\t' || c = '\n' || c = '\x0c' || c = '\r' || (0x20 < c.toNat && c.toNat ≠ 0x7F)

/-- Whether a character is a control character that blanks out. -/
def isBlankControl (c : Char) : Bool := c = '\t' || c = '\n' || c = '\x0c' || c = '\r'

namespace Steering

/-- Whether blanks are shown in the midst of the sequence. -/
def showsBlanks : Steering → Bool
  | .escape | .modified | .control => true
  | _ => false

/-- Behind the escape character. -/
def afterEscape (code : Nat) : Steering :=
  if 0x20 ≤ code ∧ code ≤ 0x2F then .modified
  else if code = 0x5B then .control
  else if code = 0x5D then .command
  else if code = 0x50 then .deviceHead
  else if code = 0x58 ∨ code = 0x5E ∨ code = 0x5F then .string
  else if 0x30 ≤ code ∧ code ≤ 0x7E then .none
  else .escape

/-- In the head of a string for the device. A letter ends the head. -/
def inDevice (state : Steering) (code : Nat) : Steering :=
  if 0x40 ≤ code ∧ code ≤ 0x7E then .string
  else if 0x20 ≤ code ∧ code ≤ 0x2F then .deviceModified
  else if 0x30 ≤ code ∧ code ≤ 0x3B then
    if state = .deviceModified then .string else .deviceParameters
  else if 0x3C ≤ code ∧ code ≤ 0x3F then
    if state = .deviceHead then .deviceParameters else .string
  else state

/-- The terminator of strings, as a byte inside of characters that take several. -/
def terminator : UInt8 := 0x9C

/-- Where the next character stands, behind one that is not shown. -/
def next (state : Steering) (c : Char) : Steering :=
  let code := c.toNat
  if c = escapeChar then .escape
  else if code = 0x18 ∨ code = 0x1A then .none
  else
    match state with
    | .none => .none
    | .escape => afterEscape code
    | .modified => if 0x30 ≤ code ∧ code ≤ 0x7E then .none else .modified
    | .control => if 0x40 ≤ code ∧ code ≤ 0x7E then .none else .control
    | .command => if code = 0x07 then .none else .command
    | .string => if (Utf8.encode c.toString).contains terminator then .none else .string
    | .deviceHead | .deviceParameters | .deviceModified => inDevice state code

end Steering

/-- The characters that are shown. `showing` tells that the character before was shown. -/
def plainFrom (showing : Bool) (state : Steering) : List Char → List Char
  | [] => []
  | c :: rest =>
    if (showing || state = .none) && isShown c then
      c :: plainFrom true (if c.toNat < 0x80 then state else .none) rest
    else if state.showsBlanks && isBlankControl c then c :: plainFrom true state rest
    else plainFrom false (state.next c) rest

/-- **The text without what steers a terminal.** -/
def plain (text : String) : String := String.ofList (plainFrom false .none text.toList)

end PropertyGate.Text
