import PropertyGate.Json.Token

/-!
# Json/Structure — stepping through arrays and objects

What stands between the items of an array and the members of an object, and how a value nobody asked
for is passed over. Passing over keeps its own stack, so it takes any nesting; it checks the form of
numbers and strings but not their values.
-/

namespace PropertyGate.Json

/-- Goes to the next item of an array: `true` with the input at the item, or `false` with the
closing bracket read. -/
def nextItem (first : Bool) (input : Bytes) : Except Stop (Bool × Bytes) :=
  match skipBlanks input with
  | [] => stopAhead .endInList []
  | b :: rest =>
    if b = byte ']' then .ok (false, rest)
    else if first then .ok (true, b :: rest)
    else if b = byte ',' then
      match skipBlanks rest with
      | [] => stopAhead .endInValue []
      | c :: rest =>
        if c = byte ']' then stopAhead .trailingComma (c :: rest) else .ok (true, c :: rest)
    else stopAhead .listCommaExpected (b :: rest)

/-- Goes to the next key of an object: `true` with the quotation mark that opens the key read, or
`false` with the closing brace read. -/
def nextKey (first : Bool) (input : Bytes) : Except Stop (Bool × Bytes) :=
  match skipBlanks input with
  | [] => stopAhead .endInObject []
  | b :: rest =>
    if b = byte '}' then .ok (false, rest)
    else if first then
      if b = byte '"' then .ok (true, rest) else stopAhead .keyExpected (b :: rest)
    else if b = byte ',' then
      match skipBlanks rest with
      | [] => stopAhead .endInValue []
      | c :: rest =>
        if c = byte '"' then .ok (true, rest)
        else if c = byte '}' then stopAhead .trailingComma (c :: rest)
        else stopAhead .keyExpected (c :: rest)
    else stopAhead .objectCommaExpected (b :: rest)

/-- Reads the colon between a key and its value. -/
def readColon (input : Bytes) : Except Stop Bytes :=
  match skipBlanks input with
  | [] => stopAhead .endInObject []
  | b :: rest => if b = byte ':' then .ok rest else stopAhead .colonExpected (b :: rest)

/-- Reads the bracket that closes an array from which nothing more is wanted. -/
def closeItems (input : Bytes) : Except Stop Bytes :=
  match skipBlanks input with
  | [] => stopAhead .endInList []
  | b :: rest =>
    if b = byte ']' then .ok rest
    else if b = byte ',' then
      match skipBlanks rest with
      | [] => stopAhead .trailingCharacters []
      | c :: rest =>
        if c = byte ']' then stopAhead .trailingComma (c :: rest)
        else stopAhead .trailingCharacters (c :: rest)
    else stopAhead .trailingCharacters (b :: rest)

/-- The input after the blanks, and after the brace that closes an object if it stands there. -/
def afterObjectEnd (input : Bytes) : Bytes :=
  match skipBlanks input with
  | [] => []
  | b :: rest => if b = byte '}' then rest else b :: rest

/-! ## Passing over a value -/

/-- Passes over the digits of an exponent, its mark already read. -/
def skipExponent (input : Bytes) : Except Stop Bytes :=
  let rest := match input with
    | b :: rest => if b = byte '+' || b = byte '-' then rest else input
    | [] => []
  match rest with
  | [] => stopHere .invalidNumber []
  | b :: rest => if isDigit b then .ok (rest.dropWhile isDigit) else stopHere .invalidNumber rest

/-- Passes over the digits after a point, the point already read. -/
def skipFraction (input : Bytes) : Except Stop Bytes :=
  match input with
  | [] => stopAhead .invalidNumber []
  | b :: rest =>
    if isDigit b then
      match rest.dropWhile isDigit with
      | [] => .ok []
      | c :: rest => if isExponentMark c then skipExponent rest else .ok (c :: rest)
    else stopAhead .invalidNumber input

/-- Passes over what follows the whole part of a number. -/
def skipAfterWhole (input : Bytes) : Except Stop Bytes :=
  match input with
  | [] => .ok []
  | b :: rest =>
    if b = byte '.' then skipFraction rest
    else if isExponentMark b then skipExponent rest
    else .ok input

/-- Passes over a number, its minus sign already read. -/
def skipNumber (input : Bytes) : Except Stop Bytes :=
  match input with
  | [] => stopHere .invalidNumber []
  | b :: rest =>
    if b = byte '0' then
      match rest with
      | [] => .ok []
      | d :: _ => if isDigit d then stopAhead .invalidNumber rest else skipAfterWhole rest
    else if isDigit b then skipAfterWhole (rest.dropWhile isDigit)
    else stopHere .invalidNumber rest

/-- Passes over an escape, its backslash already read. -/
def skipEscape (input : Bytes) : Except Stop Bytes :=
  match input with
  | [] => stopHere .endInText []
  | b :: rest =>
    match shortEscape? b with
    | some _ => .ok rest
    | none =>
      if b = byte 'u' then (readHex rest).map (·.2) else stopHere .invalidEscape rest

/-- Passes over a string, its opening quotation mark already read. -/
def skipText : (fuel : Nat) → Bytes → Except Stop Bytes
  | 0, rest => stopHere .endInText rest
  | _ + 1, [] => stopHere .endInText []
  | fuel + 1, b :: rest =>
    if b = byte '"' then .ok rest
    else if b = byte '\\' then
      match skipEscape rest with
      | .ok rest => skipText fuel rest
      | .error stop => .error stop
    else if b < 0x20 then stopHere .controlInText (b :: rest)
    else skipText fuel rest

/-- What encloses a value that is passed over. -/
inductive Enclosure where
  | array
  | object
deriving DecidableEq, Repr

def Enclosure.closing : Enclosure → UInt8
  | .array => byte ']'
  | .object => byte '}'

def Enclosure.endCause : Enclosure → Cause
  | .array => .endInList
  | .object => .endInObject

def Enclosure.commaCause : Enclosure → Cause
  | .array => .listCommaExpected
  | .object => .objectCommaExpected

/-- Passes over the key and the colon that precede a value, where the enclosure has keys. -/
def skipKey (fuel : Nat) (enclosure : Enclosure) (input : Bytes) : Except Stop Bytes :=
  match enclosure with
  | .array => .ok input
  | .object =>
    match skipBlanks input with
    | [] => stopAhead .endInObject []
    | b :: rest =>
      if b = byte '"' then do readColon (← skipText fuel rest)
      else stopAhead .keyExpected (b :: rest)

/-- Passes over a scalar, or over the bracket that opens an array or an object. -/
def skipLead (fuel : Nat) (input : Bytes) : Except Stop (Option Enclosure × Bytes) :=
  match skipBlanks input with
  | [] => stopAhead .endInValue []
  | b :: rest =>
    if b = byte 'n' then (expectWord ['u', 'l', 'l'] rest).map (none, ·)
    else if b = byte 't' then (expectWord ['r', 'u', 'e'] rest).map (none, ·)
    else if b = byte 'f' then (expectWord ['a', 'l', 's', 'e'] rest).map (none, ·)
    else if b = byte '-' then (skipNumber rest).map (none, ·)
    else if isDigit b then (skipNumber (b :: rest)).map (none, ·)
    else if b = byte '"' then (skipText fuel rest).map (none, ·)
    else if b = byte '[' then .ok (some .array, rest)
    else if b = byte '{' then .ok (some .object, rest)
    else stopAhead .valueExpected (b :: rest)

/-- Passes over what is left of a value inside the given enclosures, innermost first: from its start
if `whole`, from the end of an inner value otherwise. Every turn consumes a byte. -/
def skipNested : (fuel : Nat) → List Enclosure → (whole : Bool) → Bytes → Except Stop Bytes
  | 0, _, _, rest => stopAhead .endInValue rest
  | fuel + 1, enclosures, true, input =>
    match skipLead (fuel + 1) input with
    | .error stop => .error stop
    | .ok (none, rest) => skipNested fuel enclosures false rest
    | .ok (some opened, rest) =>
      match skipBlanks rest with
      | [] => stopAhead opened.endCause []
      | b :: rest =>
        if b = opened.closing then skipNested fuel enclosures false rest
        else
          match skipKey (fuel + 1) opened (b :: rest) with
          | .ok rest => skipNested fuel (opened :: enclosures) true rest
          | .error stop => .error stop
  | _ + 1, [], false, input => .ok input
  | fuel + 1, enclosure :: outer, false, input =>
    match skipBlanks input with
    | [] => stopAhead enclosure.endCause []
    | b :: rest =>
      if b = byte ',' then
        match skipKey (fuel + 1) enclosure rest with
        | .ok rest => skipNested fuel (enclosure :: outer) true rest
        | .error stop => .error stop
      else if b = enclosure.closing then skipNested fuel outer false rest
      else stopAhead enclosure.commaCause (b :: rest)

/-- **Passes over a value** of any nesting. -/
def skipValue (fuel : Nat) (input : Bytes) : Except Stop Bytes := skipNested fuel [] true input

end PropertyGate.Json
