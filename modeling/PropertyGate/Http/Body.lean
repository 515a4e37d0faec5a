import PropertyGate.Http.Message

/-!
# Http/Body — how long a body may be

A request may declare the length of its body. A declared length above the limit of the service is
refused at once; a body is read up to the limit, up to the declared length and up to a length that
no body may pass.
-/

namespace PropertyGate.Http

/-- The greatest number that a declared length is read as. -/
def maxDeclaredLength : Nat := 18446744073709551615

/-- The bytes that no body may pass, whatever the limit of the service. -/
def maxReadLength : Nat := 2097152

/-- The number that some digits write. -/
def decimal? (digits : List Char) : Option Nat :=
  if !digits.isEmpty && digits.all Char.isDigit then
    some (digits.foldl (fun n c => n * 10 + (c.toNat - '0'.toNat)) 0)
  else none

/-- Reads a length: digits, which a plus sign may lead. -/
def length? (value : String) : Option Nat :=
  (decimal? (match value.toList with
    | '+' :: digits => digits
    | digits => digits)).filter (· ≤ maxDeclaredLength)

/-- The length that a request declares, if it can be read. -/
def declaredLength? (headers : Headers) : Option Nat :=
  (Headers.first? headers "content-length").bind length?

/-- Whether a request declares more than the limit. -/
def declaresTooMuch (limit : Nat) (headers : Headers) : Bool :=
  match declaredLength? headers with
  | some length => limit < length
  | none => false

/-- The greatest length at which a body is read. -/
def readLimit (limit : Nat) (headers : Headers) : Nat :=
  min (min limit ((declaredLength? headers).getD limit)) maxReadLength

/-- The body of a request, unless it is too long. -/
def Request.read? (request : Request) (limit : Nat) : Option Bytes :=
  if readLimit limit request.headers < request.body.length then none else some request.body

end PropertyGate.Http
