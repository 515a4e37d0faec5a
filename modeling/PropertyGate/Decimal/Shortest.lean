import PropertyGate.Decimal.Double

/-!
# Decimal/Shortest — the shortest decimal that reads back

The reals that round to a double form an interval around it, whose ends belong to it iff the
significand is even. On the grid of decimals with one digit, with two, and so on, only the two
neighbours of the value can lie in that interval first; the first grid with a hit gives the digits,
the nearer neighbour if both hit, the even one on a tie. Seventeen digits always suffice.
-/

namespace PropertyGate.Double

/-- A decimal number `digits · 10 ^ power`. -/
structure Decimal where
  digits : Nat
  power : Int
deriving DecidableEq, Repr

/-- Compares `a · 10 ^ power` with `b · 2 ^ exponent`. -/
def compareScaled (a : Nat) (power : Int) (b : Nat) (exponent : Int) : Ordering :=
  compare (a * pow10 power.toNat * pow2 (-exponent).toNat)
    (b * pow2 exponent.toNat * pow10 (-power).toNat)

/-- The ends of the interval that rounds to `x`, in quarters of the unit of its significand. Below
a power of two the neighbour is only half as far. -/
def roundingEnds (x : Double) : Nat × Nat :=
  let step := if x.significand = pow2 52 && minExponent < x.exponent then 1 else 2
  (4 * x.significand - step, 4 * x.significand + 2)

/-- Whether `digits · 10 ^ power` rounds to `x`. -/
def readsBack (x : Double) (digits : Nat) (power : Int) : Bool :=
  let ends := x.roundingEnds
  let atLow := compareScaled digits power ends.1 (x.exponent - 2)
  let atHigh := compareScaled digits power ends.2 (x.exponent - 2)
  let closed : Bool := x.significand % 2 = 0
  (atLow == .gt || (closed && atLow == .eq)) && (atHigh == .lt || (closed && atHigh == .eq))

/-- The number of decimal digits of a natural number. -/
def digitCount (n : Nat) : Nat := (Nat.toDigits 10 n).length

/-- The power of ten of the leading digit of `num / den`, for a fraction above zero. -/
def leadingPower (num den : Nat) : Int :=
  if den ≤ num then (digitCount (num / den) : Int) - 1
  else -(digitCount ((den + num - 1) / num - 1) : Int)

/-- The decimal with the given count of digits that is nearest to `x` among those that read back. -/
def nearestOnGrid (x : Double) (leading : Int) (count : Nat) : Option Decimal :=
  let power := leading - (count : Int) + 1
  let num := x.numerator * pow10 (-power).toNat
  let den := x.denominator * pow10 power.toNat
  let below := num / den
  let lowFits := 0 < below && x.readsBack below power
  let highFits := x.readsBack (below + 1) power
  if lowFits && highFits then some ⟨roundHalfEven num den, power⟩
  else if lowFits then some ⟨below, power⟩
  else if highFits then some ⟨below + 1, power⟩
  else none

/-- Trailing zeros moved into the power. -/
def Decimal.trim (d : Decimal) : Nat → Decimal
  | 0 => d
  | fuel + 1 =>
    if d.digits ≠ 0 && d.digits % 10 = 0 then Decimal.trim ⟨d.digits / 10, d.power + 1⟩ fuel else d

/-- **The shortest decimal that rounds to the magnitude of `x`**, for `x` not zero. -/
def shortest (x : Double) : Decimal :=
  let leading := leadingPower x.numerator x.denominator
  let counts := (List.range 17).map (· + 1)
  ((counts.findSome? fun count => x.nearestOnGrid leading count).getD ⟨0, 0⟩).trim 20

end PropertyGate.Double
