import PropertyGate.Credential.Digest
import PropertyGate.Credential.Modular

/-!
# Credential/Edwards — keys that are points of a twisted curve

The curve is the solutions of `y² - x² = 1 + d x² y²` modulo a prime; its zero is the point `(0, 1)`,
and one rule adds any two of its points. A private key is a seed of 32 bytes: half of its digest,
with some bits fixed, says which multiple of the base point is the public key.
-/

namespace PropertyGate.Edwards

/-- A point of the curve. -/
structure Point where
  x : Nat
  y : Nat
deriving DecidableEq, Repr

/-- The prime that coordinates are reduced by, `2²⁵⁵ - 19`. -/
def prime : Nat := 0x7fffffffffffffffffffffffffffffffffffffffffffffffffffffffffffffed

/-- The factor `d` of the equation. -/
def factor : Nat := 0x52036cee2b6ffe738cc740797779e89800700a4d4141d8ab75eb4dca135978a3

def base : Point where
  x := 0x216936d3cd6e53fec0a4e231fdd6dc5c692cc7609525a7b2c9562d608f25d51a
  y := 0x6666666666666666666666666666666666666666666666666666666666666658

def zero : Point := ⟨0, 1⟩

/-- The sum of two points. -/
def Point.add (p q : Point) : Point :=
  let quotient (a b : Nat) : Nat := a * Modular.inverse prime b % prime
  let crossed := factor * (p.x * q.x % prime) % prime * (p.y * q.y % prime) % prime
  ⟨quotient (p.x * q.y + q.x * p.y) (1 + crossed),
    quotient (p.y * q.y + p.x * q.x) (Modular.sub prime 1 crossed)⟩

/-- A multiple of a point, by doubling. -/
def Point.multiple (count : Nat) (point : Point) : Point :=
  if _h : count = 0 then zero
  else
    let rest := Point.multiple (count / 2) (point.add point)
    if count % 2 = 1 then rest.add point else rest
termination_by count
decreasing_by omega

/-- A point as bytes: the coordinate `y`, the lowest byte first, and the parity of `x` in the
highest bit. -/
def Point.bytes (p : Point) : Bytes :=
  (Bytes.ofNumber 32 (p.y + p.x % 2 * (1 <<< 255))).reverse

/-- The multiple that a digest says: its first half is read from the lowest byte on, without the
lowest three bits, and with the highest bit but one for its highest. -/
def scalar (digest : Bytes) : Nat :=
  let number := Bytes.toNumber (digest.take 32).reverse
  number % (1 <<< 254) / 8 * 8 + (1 <<< 254)

/-- **The public key of a seed.** -/
def publicKey (seed : Bytes) : Bytes :=
  (Point.multiple (scalar (Digest.digest seed)) base).bytes

end PropertyGate.Edwards
