import PropertyGate.Credential.Der

/-!
# Credential/Certificate — the public key that a certificate is for

A certificate is a signed statement: who issued it, for how long, for whom, and for which public key.
Only its form is looked at, from the outside in, up to the first fault; neither the signature nor the
dates count. Critical extensions have to be among the known ones, and known ones come once.
-/

namespace PropertyGate.Certificate

/-- What is wrong with a certificate. -/
inductive Fault where
  | badEncoding
  | unsupportedVersion
  /-- The statement names another algorithm than the signature. -/
  | algorithmMismatch
  | unknownCriticalExtension
  | repeatedExtension
deriving DecidableEq, Repr

def Fault.message : Fault → String
  | .badEncoding => "BadEncoding"
  | .unsupportedVersion => "Other(OtherError(UnsupportedCertVersion))"
  | .algorithmMismatch => "Other(OtherError(SignatureAlgorithmMismatch))"
  | .unknownCriticalExtension => "Other(OtherError(UnsupportedCriticalExtension))"
  | .repeatedExtension => "Other(OtherError(ExtensionValueInvalid))"

/-- A reading that fails for a bad encoding where it has no result. -/
def encoded {α : Type} : Option α → Except Fault α
  | some value => .ok value
  | none => .error .badEncoding

/-! ## Extensions -/

/-- The known extensions, by the last byte of their identifiers: what the key may be used for, other
names, basic constraints, constraints on names, where revocations are listed, and further uses. -/
def knownExtensions : List UInt8 := [15, 17, 19, 30, 31, 37]

/-- The known extension with an identifier. -/
def knownExtension? : Bytes → Option UInt8
  | [0x55, 0x1D, last] => if knownExtensions.contains last then some last else none
  | _ => none

/-- Whether the contents of an extension are of the form that it takes: the uses of the key are left
for later, all others are a sequence. -/
def hasForm (extension : UInt8) (contents : Bytes) : Bool :=
  extension = 15 || (Der.only? Der.sequenceTag contents).isSome

/-- Reads whether an extension is critical; it is not if it does not say so. -/
def critical? (bytes : Bytes) : Option (Bool × Bytes) :=
  match Der.optional? Der.booleanTag bytes with
  | some (none, rest) => some (false, rest)
  | some (some [0xFF], rest) => some (true, rest)
  | some (some [0x00], rest) => some (false, rest)
  | _ => none

/-- Checks one extension, after some known ones. -/
def checkExtension (seen : List UInt8) (extension : Bytes) : Except Fault (List UInt8) := do
  let (identifier, rest) ← encoded (Der.expect? Der.identifierTag extension)
  let (critical, rest) ← encoded (critical? rest)
  let contents ← encoded (Der.expect? Der.octetsTag rest)
  match knownExtension? identifier with
  | none => if critical then throw .unknownCriticalExtension
  | some known =>
    if seen.contains known then throw .repeatedExtension
    if !hasForm known contents.1 then throw .badEncoding
  if contents.2 ≠ [] then throw .badEncoding
  return (knownExtension? identifier).toList ++ seen

/-- Checks one extension or more, one after the other; each takes at least one byte of those that
bound them. -/
def checkExtensions : (bound : Bytes) → List UInt8 → Bytes → Except Fault Unit
  | [], _, _ => .error .badEncoding
  | _ :: bound, seen, bytes => do
    let (extension, rest) ← encoded (Der.expect? Der.sequenceTag bytes)
    let seen ← checkExtension seen extension
    if rest = [] then return () else checkExtensions bound seen rest

/-- Checks what follows the public key: extensions or nothing. -/
def checkEnd (bytes : Bytes) : Except Fault Unit :=
  if bytes = [] then .ok ()
  else do
    let (part, rest) ← encoded (Der.expect? (Der.partTag 3) bytes)
    let (extensions, behind) ← encoded (Der.expect? Der.sequenceTag part)
    checkExtensions extensions [] extensions
    if behind ≠ [] ∨ rest ≠ [] then throw .badEncoding

/-! ## The statement -/

/-- Reads the version, which has to be the third. A statement without one is of the first. -/
def version (bytes : Bytes) : Except Fault Bytes :=
  match Der.expect? (Der.partTag 0) bytes with
  | none => .error .unsupportedVersion
  | some (part, rest) => do
    let (number, behind) ← encoded (Der.natural? part)
    if 255 < number then throw .badEncoding
    if number ≠ 2 ∨ behind ≠ [] then throw .unsupportedVersion
    return rest

/-- Reads the statement, given the algorithm of the signature. -/
def statement (algorithm bytes : Bytes) : Except Fault Bytes := do
  let rest ← version bytes
  let (_, rest) ← encoded (Der.expect? Der.integerTag rest)
  let (stated, rest) ← encoded (Der.expect? Der.sequenceTag rest)
  if stated ≠ algorithm then throw .algorithmMismatch
  let (_, rest) ← encoded (Der.expect? Der.sequenceTag rest)
  let (_, rest) ← encoded (Der.expect? Der.sequenceTag rest)
  let (_, rest) ← encoded (Der.expect? Der.sequenceTag rest)
  let (key, rest) ← encoded (Der.expect? Der.sequenceTag rest)
  checkEnd rest
  return key

/-- **The public key that a certificate is for**, with its algorithm. -/
def publicKey (bytes : Bytes) : Except Fault Bytes := do
  let signed ← encoded (Der.only? Der.sequenceTag bytes)
  let (contents, rest) ← encoded (Der.expect? Der.sequenceTag signed)
  let (algorithm, rest) ← encoded (Der.expect? Der.sequenceTag rest)
  let _ ← encoded (Der.onlyBits? rest)
  statement algorithm contents

end PropertyGate.Certificate
