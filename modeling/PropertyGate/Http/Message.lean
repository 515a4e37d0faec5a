import PropertyGate.Json.Printer
import PropertyGate.Text.Ascii

/-!
# Http/Message — requests and answers

A request has a method, a target, headers and a body of bytes; an answer has a status, headers and a
body of text. Names of headers compare without regard to the case of ASCII letters, and a name may
come several times. The text of an answer is kept as it was before any coding.
-/

namespace PropertyGate.Http

/-- A name with one value. -/
structure Header where
  name : String
  value : String
deriving DecidableEq, Repr

/-- The headers of a message, in order. -/
abbrev Headers := List Header

structure Request where
  method : String
  target : String
  headers : Headers := []
  body : Bytes := []
deriving DecidableEq, Repr

structure Response where
  status : UInt16
  headers : Headers := []
  body : String := ""
deriving DecidableEq, Repr, Inhabited

/-! ## Headers -/

/-- The values under a name, in order. -/
def Headers.values (headers : Headers) (name : String) : List String :=
  (headers.filter fun header => Text.lower header.name == Text.lower name).map (·.value)

/-- The first value under a name. -/
def Headers.first? (headers : Headers) (name : String) : Option String :=
  (Headers.values headers name).head?

/-- Whether the value can be a header at all: it has no control character but the tab. -/
def isHeaderValue (value : String) : Bool :=
  value.all fun c => c = '\t' || (0x20 ≤ c.toNat && c.toNat ≠ 0x7F)

/-- Whether the value is plain: visible ASCII characters, spaces and tabs. -/
def isPlain (value : String) : Bool :=
  value.all fun c => c = '\t' || (0x20 ≤ c.toNat && c.toNat < 0x7F)

/-- The characters that may stand in a name of a header. -/
def isNameChar (c : Char) : Bool :=
  c.isAlphanum || "!#$%&'*+-.^_`|~".contains c

/-- Whether the text can be the name of a header. -/
def isHeaderName (name : String) : Bool := !name.isEmpty && name.all isNameChar

/-! ## Answers -/

namespace Response

/-- An answer without a body. -/
def empty (status : UInt16) : Response := ⟨status, [], ""⟩

/-- An answer in plain text. -/
def text (status : UInt16) (body : String) : Response :=
  ⟨status, [⟨"content-type", "text/plain; charset=utf-8"⟩], body⟩

/-- An answer that is a document. -/
def json (status : UInt16) (document : Json.Value) : Response :=
  ⟨status, [⟨"content-type", "application/json"⟩], document.print⟩

/-- The answer with one more header. -/
def withHeader (response : Response) (name value : String) : Response :=
  { response with headers := response.headers ++ [⟨name, value⟩] }

/-- The answer with one more header, if there is a value for it. -/
def withHeader? (response : Response) (name : String) (value : Option String) : Response :=
  match value with
  | some value => response.withHeader name value
  | none => response

end Response

end PropertyGate.Http
