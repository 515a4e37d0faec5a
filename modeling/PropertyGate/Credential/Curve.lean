import PropertyGate.Credential.Der
import PropertyGate.Credential.Modular

/-!
# Credential/Curve — keys that are points of a curve

The curves are the solutions of `y² = x³ - 3x + b` modulo a prime, with a point at infinity for zero.
A private key is a number below the order of the base point, and **the public key is that multiple
of the base point**. A point is written as both coordinates, or as one and the parity of the other.
-/

namespace PropertyGate

/-- A point of a curve. -/
inductive CurvePoint where
  | infinity
  | finite (x y : Nat)
deriving DecidableEq, Repr

/-- **A curve** with a base point. `identifier` is its registered identifier as bytes, and `width`
the number of bytes of a coordinate. -/
structure Curve where
  identifier : Bytes
  width : Nat
  prime : Nat
  constant : Nat
  baseX : Nat
  baseY : Nat
  order : Nat
deriving DecidableEq, Repr

namespace Curve

/-! ## The curves -/

/-- A number from its lower bits, as many as given, and from those above. -/
def ofHalves (bits high low : Nat) : Nat := (high <<< bits) + low

/-- The curve with numbers of 256 bits. -/
def p256 : Curve where
  identifier := [0x2A, 0x86, 0x48, 0xCE, 0x3D, 0x03, 0x01, 0x07]
  width := 32
  prime := 0xffffffff00000001000000000000000000000000ffffffffffffffffffffffff
  constant := 0x5ac635d8aa3a93e7b3ebbd55769886bc651d06b0cc53b0f63bce3c3e27d2604b
  baseX := 0x6b17d1f2e12c4247f8bce6e563a440f277037d812deb33a0f4a13945d898c296
  baseY := 0x4fe342e2fe1a7f9b8ee7eb4a7c0f9e162bce33576b315ececbb6406837bf51f5
  order := 0xffffffff00000000ffffffffffffffffbce6faada7179e84f3b9cac2fc632551

/-- The curve with numbers of 384 bits. -/
def p384 : Curve where
  identifier := [0x2B, 0x81, 0x04, 0x00, 0x22]
  width := 48
  prime :=
    ofHalves 192
      0xffffffffffffffffffffffffffffffffffffffffffffffff
      0xfffffffffffffffeffffffff0000000000000000ffffffff
  constant :=
    ofHalves 192
      0xb3312fa7e23ee7e4988e056be3f82d19181d9c6efe814112
      0x314088f5013875ac656398d8a2ed19d2a85c8edd3ec2aef
  baseX :=
    ofHalves 192
      0xaa87ca22be8b05378eb1c71ef320ad746e1d3b628ba79b98
      0x59f741e082542a385502f25dbf55296c3a545e3872760ab7
  baseY :=
    ofHalves 192
      0x3617de4a96262c6f5d9e98bf9292dc29f8f41dbd289a147c
      0xe9da3113b5f0b8c00a60b1ce1d7e819d7a431d7c90ea0e5f
  order :=
    ofHalves 192
      0xffffffffffffffffffffffffffffffffffffffffffffffff
      0xc7634d81f4372ddf581a0db248b0a77aecec196accc52973

/-- The curve with numbers of 521 bits. -/
def p521 : Curve where
  identifier := [0x2B, 0x81, 0x04, 0x00, 0x23]
  width := 66
  prime :=
    ofHalves 264
      0x1ffffffffffffffffffffffffffffffffffffffffffffffffffffffffffffffff
      0xffffffffffffffffffffffffffffffffffffffffffffffffffffffffffffffffff
  constant :=
    ofHalves 264
      0x51953eb9618e1c9a1f929a21a0b68540eea2da725b99b315f3b8b489918ef109
      0xe156193951ec7e937b1652c0bd3bb1bf073573df883d2c34f1ef451fd46b503f00
  baseX :=
    ofHalves 264
      0xc6858e06b70404e9cd9e3ecb662395b4429c648139053fb521f828af606b4d3d
      0xbaa14b5e77efe75928fe1dc127a2ffa8de3348b3c1856a429bf97e7e31c2e5bd66
  baseY :=
    ofHalves 264
      0x11839296a789a3bc0045c8a5fb42c7d1bd998f54449579b446817afbd17273e66
      0x2c97ee72995ef42640c550b9013fad0761353c7086a272c24088be94769fd16650
  order :=
    ofHalves 264
      0x1ffffffffffffffffffffffffffffffffffffffffffffffffffffffffffffffff
      0xfa51868783bf2f966b7fcc0148f709a5d03bb5c9b8899c47aebb6fb71e91386409

/-- Every curve. -/
def all : List Curve := [p256, p384, p521]

/-- The curve with a registered identifier. -/
def ofIdentifier? (identifier : Bytes) : Option Curve := all.find? (·.identifier == identifier)

/-! ## Points -/

/-- The base point. -/
def base (curve : Curve) : CurvePoint := .finite curve.baseX curve.baseY

/-- The right side of the equation. -/
def cubic (curve : Curve) (x : Nat) : Nat :=
  (x * x * x + (curve.prime - 3) * x + curve.constant) % curve.prime

/-- Whether coordinates are reduced and solve the equation. -/
def holds (curve : Curve) (x y : Nat) : Bool :=
  x < curve.prime && y < curve.prime && y * y % curve.prime == curve.cubic x

/-- Where the line of a slope through a point, and through another one at `x`, leads. -/
def along (curve : Curve) (slope x₁ y₁ x₂ : Nat) : CurvePoint :=
  let sub := Modular.sub curve.prime
  let x := sub (sub (slope * slope) x₁) x₂
  .finite x (sub (slope * sub x₁ x) y₁)

/-- The sum of two points. -/
def add (curve : Curve) : CurvePoint → CurvePoint → CurvePoint
  | .infinity, q => q
  | p, .infinity => p
  | .finite x₁ y₁, .finite x₂ y₂ =>
    let sub := Modular.sub curve.prime
    let quotient (a b : Nat) : Nat := a * Modular.inverse curve.prime b % curve.prime
    if x₁ = x₂ then
      if y₁ = y₂ ∧ y₁ ≠ 0 then
        curve.along (quotient (3 * (x₁ * x₁) + (curve.prime - 3)) (2 * y₁)) x₁ y₁ x₂
      else .infinity
    else curve.along (quotient (sub y₂ y₁) (sub x₂ x₁)) x₁ y₁ x₂

/-- A multiple of a point, by doubling. -/
def multiple (curve : Curve) (count : Nat) (point : CurvePoint) : CurvePoint :=
  if _h : count = 0 then .infinity
  else
    let rest := curve.multiple (count / 2) (curve.add point point)
    if count % 2 = 1 then curve.add rest point else rest
termination_by count
decreasing_by omega

/-- **The public key of a private key.** -/
def publicPoint? (curve : Curve) (secret : Nat) : Option CurvePoint :=
  if secret = 0 ∨ curve.order ≤ secret then none else some (curve.multiple secret curve.base)

/-! ## Points as bytes -/

/-- A solution of `y² = a` modulo the prime, if there is one; the prime is one below a multiple of
four. -/
def root? (curve : Curve) (a : Nat) : Option Nat :=
  let y := Modular.power curve.prime a ((curve.prime + 1) / 4)
  if y * y % curve.prime = a then some y else none

/-- The solution of `y² = a` with a parity. -/
def rootOfParity? (curve : Curve) (a parity : Nat) : Option Nat :=
  (curve.root? a).bind fun y =>
    if y % 2 = parity then some y else if y = 0 then none else some (curve.prime - y)

/-- The point that bytes write. -/
def point? (curve : Curve) : Bytes → Option CurvePoint
  | [] => none
  | form :: coordinates =>
    if form = 4 then
      if coordinates.length = 2 * curve.width then
        let x := Bytes.toNumber (coordinates.take curve.width)
        let y := Bytes.toNumber (coordinates.drop curve.width)
        if curve.holds x y then some (.finite x y) else none
      else none
    else if (form = 2 ∨ form = 3) ∧ coordinates.length = curve.width then
      let x := Bytes.toNumber coordinates
      if x < curve.prime then
        (curve.rootOfParity? (curve.cubic x) (form.toNat % 2)).map (.finite x ·)
      else none
    else none

/-- A point as both its coordinates; infinity has none. -/
def bytesOf (curve : Curve) : CurvePoint → Bytes
  | .infinity => [0]
  | .finite x y => 4 :: Bytes.ofNumber curve.width x ++ Bytes.ofNumber curve.width y

end Curve

end PropertyGate
