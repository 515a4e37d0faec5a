import PropertyGate.Text.Base64
import PropertyGate.Text.Quoted

/-!
# Credential/Pem — the sections of a certificate or key file

A file has sections, each between a line that begins it and a line that ends it, both with the label
of the section; a section holds bytes in base 64. What stands outside sections is a remark. A line
that begins a section inside another one only changes the label. Sections with a label that is not
among the known ones are skipped, whatever they hold. A fault ends the section that it is in, and
reading goes on behind it.
-/

namespace PropertyGate.Pem

/-- The known labels. -/
inductive Label where
  | certificate
  | publicKey
  | rsaPrivateKey
  | privateKey
  | curvePrivateKey
  | revocationList
  | certificateRequest
  | helloConfig
deriving DecidableEq, Repr

namespace Label

/-- Every known label. -/
def all : List Label :=
  [.certificate, .publicKey, .rsaPrivateKey, .privateKey, .curvePrivateKey, .revocationList,
    .certificateRequest, .helloConfig]

theorem mem_all (label : Label) : label ∈ all := by cases label <;> decide

/-- How the label is written. -/
def text : Label → String
  | .certificate => "CERTIFICATE"
  | .publicKey => "PUBLIC KEY"
  | .rsaPrivateKey => "RSA PRIVATE KEY"
  | .privateKey => "PRIVATE KEY"
  | .curvePrivateKey => "EC PRIVATE KEY"
  | .revocationList => "X509 CRL"
  | .certificateRequest => "CERTIFICATE REQUEST"
  | .helloConfig => "ECHCONFIG"

/-- The label that is written so. -/
def ofText? (written : Bytes) : Option Label :=
  all.find? fun label => Utf8.encode label.text == written

/-- Whether sections with the label hold private keys. -/
def isPrivate : Label → Bool
  | .rsaPrivateKey | .privateKey | .curvePrivateKey => true
  | _ => false

end Label

/-- A section: its label and the bytes that it holds. -/
structure Section where
  label : Label
  contents : Bytes
deriving DecidableEq, Repr

/-- What is wrong with a section. -/
inductive Fault where
  /-- The file ends before the section does. -/
  | unended (label : String)
  /-- A line begins like one that begins a section, but does not end so. -/
  | illegalStart (line : String)
  | contents (fault : Base64.Fault)
deriving DecidableEq, Repr

def Fault.message : Fault → String
  | .unended label => "section end " ++ Text.quoted label ++ " missing"
  | .illegalStart line => "illegal section start: " ++ Text.quoted line
  | .contents fault => fault.message

/-! ## Lines -/

/-- Whether a byte ends a line. -/
def endsLine (byte : UInt8) : Bool := byte = 10 || byte = 13

/-- The lines of a file, each with the byte that ends it. -/
def lines : Bytes → List Bytes
  | [] => []
  | byte :: rest =>
    if endsLine byte then [byte] :: lines rest
    else
      match lines rest with
      | [] => [[byte]]
      | line :: others => (byte :: line) :: others

def dash : UInt8 := 45

/-- The mark at either end of a line that begins or ends a section. -/
def dashes : Bytes := Utf8.encode "-----"

def beginMark : Bytes := dashes ++ Utf8.encode "BEGIN "

def endMark : Bytes := dashes ++ Utf8.encode "END "

/-- What may stand between and behind the dashes at the end of a line. -/
def isFiller (byte : UInt8) : Bool := byte = 32 || endsLine byte

/-- A line from its end without its first `count` dashes there, and without what fills it. -/
def dropDashes : (count : Nat) → Bytes → Bytes
  | 0, line => line
  | _, [] => []
  | count + 1, byte :: line =>
    if byte = dash then dropDashes count line else dropDashes (count + 1) line

/-- The label that a line begins a section with, if it begins one. -/
def begun? (line : Bytes) : Option (Except Fault Bytes) :=
  if beginMark.isPrefixOf line then
    let reversed := line.reverse
    let tail := reversed.takeWhile fun byte => byte = dash || isFiller byte
    if tail.count dash = dashes.length then
      some (.ok ((dropDashes dashes.length reversed).reverse.drop beginMark.length))
    else some (.error (.illegalStart (Utf8.decodeLossy line)))
  else none

/-- Whether a line ends the section with a label. -/
def ends (label line : Bytes) : Bool := (endMark ++ label ++ dashes).isPrefixOf line

/-! ## Sections -/

/-- The section that a label and the lines between its ends make up. -/
def sectionOf (label : Label) (lines : List Bytes) : Except Fault Section :=
  match Base64.decode lines.flatten with
  | .ok contents => .ok ⟨label, contents⟩
  | .error fault => .error (.contents fault)

/-- The sections of some lines. `current` is the label of the section that the lines go on with, and
`held` the lines that it has so far, the last one first. -/
def sectionsFrom (current : Option Bytes) (held : List Bytes) :
    List Bytes → List (Except Fault Section)
  | [] =>
    match current with
    | some label => [.error (.unended (Utf8.decodeLossy label))]
    | none => []
  | line :: rest =>
    match begun? line, current with
    | some (.ok label), _ => sectionsFrom (some label) held rest
    | some (.error fault), _ => .error fault :: sectionsFrom none [] rest
    | none, none => sectionsFrom none held rest
    | none, some label =>
      if ends label line then
        match Label.ofText? label with
        | some known => sectionOf known held.reverse :: sectionsFrom none [] rest
        | none => sectionsFrom none [] rest
      else sectionsFrom (some label) (line :: held) rest

/-- **The sections of a file**, and what is wrong with those that are none. -/
def sections (file : Bytes) : List (Except Fault Section) := sectionsFrom none [] (lines file)

/-- The certificates of a file, unless anything is wrong with any section. -/
def certificates (file : Bytes) : Except Fault (List Bytes) := do
  let sound ← (sections file).mapM id
  return (sound.filter (·.label == .certificate)).map (·.contents)

/-- The private keys of a file; faults are passed over. -/
def privateKeys (file : Bytes) : List Bytes :=
  (sections file).filterMap fun
    | .ok held => if held.label.isPrivate then some held.contents else none
    | .error _ => none

end PropertyGate.Pem
