/-!
# Decimal/Power — powers of two and of ten
-/

namespace PropertyGate

/-- Two to the power of `n`. -/
def pow2 (n : Nat) : Nat := Nat.pow 2 n

/-- Ten to the power of `n`. -/
def pow10 (n : Nat) : Nat := Nat.pow 10 n

end PropertyGate
