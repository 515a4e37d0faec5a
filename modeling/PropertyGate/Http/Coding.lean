import PropertyGate.Http.Message
import PropertyGate.Text.Pieces

/-!
# Http/Coding — which coding an answer gets

A client lists the codings that it accepts, each with a weight from 0 to 1 in thousandths. Of the
codings that the service knows the heaviest wins, and gzip before no coding where both weigh the
same. Small answers are never coded. Entries that cannot be read, and other codings, count for
nothing.
-/

namespace PropertyGate.Http

/-- The codings that the service knows. -/
inductive Coding where
  | identity
  | gzip
deriving DecidableEq, Repr

namespace Coding

/-- The coding of a name, in any case. -/
def ofName? (name : String) : Option Coding :=
  match Text.lower name with
  | "gzip" => some .gzip
  | "x-gzip" => some .gzip
  | "identity" => some .identity
  | _ => none

/-- Of two codings that weigh the same, the one of higher rank is taken. -/
def rank : Coding → Nat
  | .identity => 0
  | .gzip => 1

end Coding

/-- The thousandths that the digits behind the point of a weight add; there are at most three, and
the first counts `unit`. -/
def decimals? : (unit : Nat) → List Char → Option Nat
  | _, [] => some 0
  | 0, _ :: _ => none
  | unit, c :: rest =>
    if c.isDigit then (decimals? (unit / 10) rest).map ((c.toNat - '0'.toNat) * unit + ·) else none

/-- Reads a weight such as `q=0.5`, in thousandths. -/
def weight? : List Char → Option Nat
  | q :: '=' :: whole :: rest =>
    if (q = 'q' || q = 'Q') && (whole = '0' || whole = '1') then
      let base := if whole = '1' then 1000 else 0
      match rest with
      | [] => some base
      | '.' :: digits =>
        match decimals? 100 digits with
        | some fraction => if base + fraction ≤ 1000 then some (base + fraction) else none
        | none => none
      | _ => none
    else none
  | _ => none

/-- An accepted coding and its weight. -/
structure Preference where
  coding : Coding
  weight : Nat
deriving DecidableEq, Repr

/-- Reads one entry of the list of accepted codings: a name, and a weight behind a semicolon. -/
def preference? (entry : List Char) : Option Preference :=
  let name := entry.takeWhile (· ≠ ';')
  match Coding.ofName? (String.ofList (Text.trimBlanks name)) with
  | none => none
  | some coding =>
    match entry.dropWhile (· ≠ ';') with
    | [] => some ⟨coding, 1000⟩
    | _ :: weight => (weight? (Text.trimBlanks weight)).map (⟨coding, ·⟩)

/-- The preferences of a client, in order. -/
def preferences (headers : Headers) : List Preference :=
  ((Headers.values headers "accept-encoding").filter isPlain).flatMap fun value =>
    (Text.pieces ',' value.toList).filterMap preference?

/-- Whether the first preference goes before the second. -/
def Preference.before (a b : Preference) : Bool :=
  b.weight < a.weight || (a.weight = b.weight && b.coding.rank < a.coding.rank)

/-- **The coding of an answer**: the heaviest that has a weight at all, and none without one. -/
def chooseCoding (preferences : List Preference) : Coding :=
  let usable := preferences.filter fun preference => 0 < preference.weight
  let best := usable.foldl (fun best preference =>
    match best with
    | none => some preference
    | some best => some (if preference.before best then preference else best)) none
  match best with
  | some best => best.coding
  | none => .identity

/-- Answers below this number of bytes are not coded. -/
def minCodedLength : Nat := 32

/-- Codes an answer as its client prefers. An answer that could be coded says so. -/
def Response.coded (response : Response) (request : Headers) : Response :=
  if response.body.utf8ByteSize < minCodedLength then response
  else
    let response := response.withHeader "vary" "accept-encoding"
    match chooseCoding (preferences request) with
    | .gzip => response.withHeader "content-encoding" "gzip"
    | .identity => response

end PropertyGate.Http
