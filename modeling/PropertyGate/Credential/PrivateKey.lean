import PropertyGate.Credential.Curve
import PropertyGate.Credential.Edwards
import PropertyGate.Credential.Rsa

/-!
# Credential/PrivateKey — private keys and the public keys that belong to them

A private key comes in one of three forms: the parts of an RSA key, a number for a curve, or either
of them or a seed wrapped up with the name of its algorithm. The first bytes tell the form; the label
of the section that a key comes in counts for nothing. **A key that can be used gives its public
key**, written as certificates write it, so that the two can be compared.
-/

namespace PropertyGate

/-- The form of a private key. -/
inductive KeyForm where
  | wrapped
  | rsa
  | curve
deriving DecidableEq, Repr

/-- The form of a key, by its first bytes: behind the head of a sequence comes a version, and then
another sequence if the key is wrapped; if it is not, the version tells the form. -/
def KeyForm.of? : Bytes → Option KeyForm
  | 0x30 :: length :: rest =>
    let skipped := length.toNat - 128
    if rest.length < skipped then none
    else
      match rest.drop skipped with
      | 0x02 :: 0x01 :: _ :: 0x30 :: _ => some .wrapped
      | 0x02 :: 0x01 :: 0x00 :: _ => some .rsa
      | 0x02 :: 0x01 :: 0x01 :: _ => some .curve
      | _ => none
  | _ => none

namespace PrivateKey

/-! ## Algorithms -/

/-- The identifier of RSA keys. -/
def rsaIdentifier : Bytes := [0x2A, 0x86, 0x48, 0x86, 0xF7, 0x0D, 0x01, 0x01, 0x01]

/-- The identifier of keys that are points of curves. -/
def curveIdentifier : Bytes := [0x2A, 0x86, 0x48, 0xCE, 0x3D, 0x02, 0x01]

/-- The identifier of keys that come from seeds. -/
def seedIdentifier : Bytes := [0x2B, 0x65, 0x70]

/-- A public key with its algorithm, as certificates write it. -/
def publicForm (identifier parameters key : Bytes) : Bytes :=
  Der.encode Der.sequenceTag (Der.encode Der.identifierTag identifier ++ parameters)
    ++ Der.encodeBits key

/-! ## Keys of curves -/

/-- Whether the parameters of a key, if it has any, name the curve. -/
def namesCurve (curve : Curve) : Option Bytes → Bool
  | some parameters => Der.only? Der.identifierTag parameters == some curve.identifier
  | none => true

/-- Whether the bytes of a public point, if there are any, write the point that is expected. -/
def writesPoint (curve : Curve) (expected : CurvePoint) : Option Bytes → Bool
  | some written => ((Der.onlyBits? written).bind curve.point?) == some expected
  | none => true

/-- The public key of a number for a curve, and what follows it. The number may come with the name of
the curve and with the public point, which then have to be right. -/
def curveKey? (curve : Curve) (bytes : Bytes) : Option (Bytes × Bytes) := do
  let (contents, rest) ← Der.expect? Der.sequenceTag bytes
  let (version, contents) ← Der.natural? contents
  let (secret, contents) ← Der.expect? Der.octetsTag contents
  let (parameters, contents) ← Der.optional? (Der.partTag 0) contents
  let (written, contents) ← Der.optional? (Der.partTag 1) contents
  guard (version = 1 ∧ contents = [])
  guard (namesCurve curve parameters)
  let point ← curve.publicPoint? (Bytes.toNumber secret)
  guard (writesPoint curve point written)
  return (publicForm curveIdentifier (Der.encode Der.identifierTag curve.identifier)
    (curve.bytesOf point), rest)

/-! ## Wrapped keys -/

/-- A wrapped key: its algorithm with parameters, the key proper, and a public key that may come
with it. -/
structure Wrapped where
  algorithm : Bytes
  parameters : Bytes
  secret : Bytes
  publicKey : Option Bytes

/-- Reads a wrapped key. A public key may come with the second version only. -/
def Wrapped.read? (bytes : Bytes) : Option Wrapped := do
  let (contents, _) ← Der.expect? Der.sequenceTag bytes
  let (version, contents) ← Der.natural? contents
  let (algorithm, contents) ← Der.expect? Der.sequenceTag contents
  let (identifier, parameters) ← Der.expect? Der.identifierTag algorithm
  let (secret, contents) ← Der.expect? Der.octetsTag contents
  let (_, contents) ← Der.optional? (Der.partTag 0) contents
  let (publicKey, _) ← if version = 1 then Der.optional? 0x81 contents else some (none, contents)
  guard (version ≤ 1)
  return ⟨identifier, parameters, secret, publicKey⟩

/-- The public key of a seed; one that comes with it has to be right. -/
def seedKey? (wrapped : Wrapped) : Option Bytes := do
  let seed ← Der.only? Der.octetsTag wrapped.secret
  guard (wrapped.parameters = [] ∧ seed.length = 32)
  let key := Edwards.publicKey seed
  guard (wrapped.publicKey.all (· = 0 :: key))
  return publicForm seedIdentifier [] key

/-- The public form of an RSA key. -/
def rsaForm (key : RsaKey) : Bytes :=
  publicForm rsaIdentifier (Der.encode Der.nullTag []) key.publicBytes

/-- The public key of an RSA key that is wrapped up. -/
def wrappedRsaKey? (wrapped : Wrapped) : Option Bytes :=
  match RsaKey.read? wrapped.secret with
  | some (key, []) =>
    if wrapped.parameters = Der.encode Der.nullTag [] then some (rsaForm key) else none
  | _ => none

/-- The public key of a number that is wrapped up with the name of its curve. -/
def wrappedCurveKey? (wrapped : Wrapped) : Option Bytes := do
  let identifier ← Der.only? Der.identifierTag wrapped.parameters
  let curve ← Curve.ofIdentifier? identifier
  let (key, rest) ← curveKey? curve wrapped.secret
  guard (rest = [])
  return key

/-- The public key of a wrapped key. -/
def wrappedKey? (bytes : Bytes) : Option Bytes := do
  let wrapped ← Wrapped.read? bytes
  if wrapped.algorithm = rsaIdentifier then wrappedRsaKey? wrapped
  else if wrapped.algorithm = curveIdentifier then wrappedCurveKey? wrapped
  else if wrapped.algorithm = seedIdentifier then seedKey? wrapped
  else none

/-- **The public key of a private key of some form**, if the key can be used. A number that does not
name its curve belongs to the first one that it fits. -/
def publicKey? : KeyForm → Bytes → Option Bytes
  | .wrapped, bytes => wrappedKey? bytes
  | .rsa, bytes => (RsaKey.read? bytes).map fun (key, _) => rsaForm key
  | .curve, bytes => Curve.all.findSome? fun curve => (curveKey? curve bytes).map (·.1)

end PrivateKey

end PropertyGate
