import PropertyGate.Decimal.Power

/-!
# Decimal/Double — double-precision numbers, computed exactly and rounded once

A finite double is a sign, a significand and a power of two. Arithmetic on doubles is exact
arithmetic on fractions followed by one rounding (`Double.ofFraction?`) to the nearest double, a tie
going to the even significand. Results above the largest double have no value here.
-/

namespace PropertyGate

/-- **A finite double-precision number**: `± significand · 2 ^ exponent`. The significand has at
most 53 bits, the exponent is at least `-1074`, and a significand of fewer than 53 bits occurs at
the least exponent only. -/
structure Double where
  negative : Bool
  significand : Nat
  exponent : Int
deriving DecidableEq, Repr

namespace Double

/-- The least exponent. -/
def minExponent : Int := -1074

/-- The greatest exponent. -/
def maxExponent : Int := 971

def zero (negative : Bool) : Double := ⟨negative, 0, minExponent⟩

def isZero (x : Double) : Bool := x.significand = 0

/-- The same magnitude under the given sign. -/
def withSign (x : Double) (negative : Bool) : Double := { x with negative }

/-- Equality of the numbers: the two zeros are one number. -/
def sameNumber (x y : Double) : Bool := (x.isZero && y.isZero) || x == y

/-- `num / den` rounded to a whole number, a half going to the even neighbour. -/
def roundHalfEven (num den : Nat) : Nat :=
  let whole := num / den
  let twice := 2 * (num % den)
  if den < twice || (twice = den && whole % 2 = 1) then whole + 1 else whole

/-- The exponent of the double nearest to `num / den`, before a carry: the one that gives the
significand 53 bits, or the least. -/
def fractionExponent (num den : Nat) : Int :=
  let logs : Int := (num.log2 : Int) - (den.log2 : Int)
  let reached : Bool := den * pow2 logs.toNat ≤ num * pow2 (-logs).toNat
  max (if reached then logs - 52 else logs - 53) minExponent

/-- **The double nearest to `num / den`**, or none if that is above the largest double. -/
def ofFraction? (num den : Nat) : Option Double :=
  if num = 0 then some (zero false)
  else
    let exponent := fractionExponent num den
    let significand := roundHalfEven (num * pow2 (-exponent).toNat) (den * pow2 exponent.toNat)
    let carried : Double :=
      if significand = pow2 53 then ⟨false, pow2 52, exponent + 1⟩
      else ⟨false, significand, exponent⟩
    if maxExponent < carried.exponent then none else some carried

/-- The magnitude as a fraction: its numerator. -/
def numerator (x : Double) : Nat := x.significand * pow2 x.exponent.toNat

/-- The magnitude as a fraction: its denominator. -/
def denominator (x : Double) : Nat := pow2 (-x.exponent).toNat

/-- The product of two magnitudes. -/
def mul? (x y : Double) : Option Double :=
  ofFraction? (x.numerator * y.numerator) (x.denominator * y.denominator)

/-- The quotient of two magnitudes, the second not zero. -/
def div? (x y : Double) : Option Double :=
  ofFraction? (x.numerator * y.denominator) (x.denominator * y.numerator)

/-- The double nearest to `10 ^ power`, for powers up to 308. -/
def powerOfTen (power : Nat) : Double := (ofFraction? (pow10 power) 1).getD (zero false)

/-- A magnitude divided by `10 ^ power`; powers above 308 are taken off in steps of 308, each
rounded. -/
def divPowerOfTen (x : Double) (power : Nat) : Double :=
  if power ≤ 308 then (x.div? (powerOfTen power)).getD (zero false)
  else if x.isZero then x
  else divPowerOfTen ((x.div? (powerOfTen 308)).getD (zero false)) (power - 308)
termination_by power

/-- **`digits · 10 ^ power`, rounded twice**: the digits become a double first, which is then
multiplied or divided by one power of ten. No double is large enough for some powers. -/
def ofDecimal? (digits : Nat) (power : Int) : Option Double :=
  match ofFraction? digits 1 with
  | none => none
  | some x =>
    if power < 0 then some (x.divPowerOfTen power.natAbs)
    else if power ≤ 308 then x.mul? (powerOfTen power.toNat)
    else if x.isZero then some x
    else none

end Double

end PropertyGate
