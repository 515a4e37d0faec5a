import PropertyGate.Decimal.Shortest

/-!
# Decimal/Layout — how a double is laid out as text

Which digits a number has is the matter of `Decimal/Shortest`; here they are set, with a point and
zeros or with an exponent. A `Layout` says for which numbers.
-/

namespace PropertyGate.Double

/-- Numbers whose leading digit stands for `10 ^ k` with `least ≤ k < limit` are written with a
point; all others have an exponent. -/
structure Layout where
  least : Int
  limit : Int
deriving DecidableEq, Repr

/-- The digits with a point among or before them, or with zeros and a point after them; one digit
at least follows the point. -/
def Decimal.positional (d : Decimal) : String :=
  let digits := d.digits.repr
  let count := digits.length
  let after := (-d.power).toNat
  if 0 ≤ d.power then digits ++ "".pushn '0' d.power.toNat ++ ".0"
  else if after < count then
    String.ofList (digits.toList.take (count - after)) ++ "."
      ++ String.ofList (digits.toList.drop (count - after))
  else "0." ++ "".pushn '0' (after - count) ++ digits

/-- One digit, the others after a point, and the power of ten of the first, its sign always
written. -/
def Decimal.scientific (d : Decimal) : String :=
  let digits := d.digits.repr.toList
  let leading : Int := d.power + (digits.length : Int) - 1
  let shown := match digits with
    | first :: second :: rest => String.ofList (first :: '.' :: second :: rest)
    | short => String.ofList short
  shown ++ "e" ++ (if leading < 0 then "-" else "+") ++ leading.natAbs.repr

/-- **The text of a double**: the fewest digits that read back, set as the layout says; zeros keep
their sign. -/
def text (layout : Layout) (x : Double) : String :=
  let sign := if x.negative then "-" else ""
  if x.isZero then sign ++ "0.0"
  else
    let d := x.shortest
    let leading : Int := d.power + (digitCount d.digits : Int) - 1
    sign ++ (if layout.least ≤ leading && leading < layout.limit then d.positional else d.scientific)

end PropertyGate.Double
