import PropertyGate.Credential.Der

/-!
# Credential/Rsa — keys that are products of two primes

A private key is a modulus with its two factors, a public and a private exponent, and what shortens
computing with them. The parts have to fit: **the factors make up the modulus, and each exponent
undoes the other** with regard to each factor. Whether the factors are primes is not looked into.
-/

namespace PropertyGate

/-- The parts of a private key, in the order in which they are written. -/
structure RsaKey where
  modulus : Nat
  publicExponent : Nat
  privateExponent : Nat
  firstFactor : Nat
  secondFactor : Nat
  firstExponent : Nat
  secondExponent : Nat
  coefficient : Nat
deriving DecidableEq, Repr

namespace RsaKey

/-- Reads a number of naturals one after the other. -/
def naturals? : (count : Nat) → Bytes → Option (List Nat)
  | 0, [] => some []
  | 0, _ => none
  | count + 1, bytes =>
    match Der.natural? bytes with
    | some (number, rest) => (naturals? count rest).map (number :: ·)
    | none => none

/-- Reads the parts of a key, behind a version that is zero. -/
def parts? (bytes : Bytes) : Option RsaKey :=
  match naturals? 9 bytes with
  | some [0, n, e, d, p, q, dp, dq, qi] => some ⟨n, e, d, p, q, dp, dq, qi⟩
  | _ => none

/-- Whether a number below the modulus undoes another one. -/
def inverts (modulus a inverse : Nat) : Bool :=
  inverse < modulus && a * inverse % modulus == 1

/-- The number of bits of a number. -/
def bits (number : Nat) : Nat := if number = 0 then 0 else number.log2 + 1

/-- Whether the public exponent is odd, more than one, and not too long. -/
def exponentFits (key : RsaKey) : Bool :=
  let length := bits key.publicExponent
  2 ≤ length && length ≤ 33 && key.publicExponent % 2 == 1

/-- Whether the modulus is odd, and neither too short nor too long. -/
def modulusFits (key : RsaKey) : Bool :=
  let length := bits key.modulus
  2048 ≤ length && length ≤ 8192 && key.modulus % 2 == 1

/-- Whether the factors make up the modulus. -/
def factorsFit (key : RsaKey) : Bool :=
  key.firstFactor < key.modulus && key.secondFactor < key.modulus
    && key.firstFactor * key.secondFactor == key.modulus

/-- Whether the exponents undo each other, and the short forms do what they are for. -/
def exponentsFit (key : RsaKey) : Bool :=
  let product := key.privateExponent * key.publicExponent
  key.privateExponent < key.modulus
    && product % (key.firstFactor - 1) == 1 && product % (key.secondFactor - 1) == 1
    && inverts (key.firstFactor - 1) key.publicExponent key.firstExponent
    && inverts (key.secondFactor - 1) key.publicExponent key.secondExponent
    && inverts key.firstFactor key.secondFactor key.coefficient

/-- **Whether the parts of a key fit.** -/
def isSound (key : RsaKey) : Bool :=
  key.modulusFits && key.exponentFits && key.factorsFit && key.exponentsFit

/-- Reads a key whose parts fit, and what follows it. -/
def read? (bytes : Bytes) : Option (RsaKey × Bytes) :=
  match Der.expect? Der.sequenceTag bytes with
  | some (contents, rest) =>
    (parts? contents).bind fun key => if key.isSound then some (key, rest) else none
  | none => none

/-- The public key as bytes. -/
def publicBytes (key : RsaKey) : Bytes :=
  Der.encode Der.sequenceTag (Der.encodeNatural key.modulus ++ Der.encodeNatural key.publicExponent)

end RsaKey

end PropertyGate
