/-!
# Credential/Modular — arithmetic modulo a number

Differences, inverses and powers modulo a number. An inverse is found by dividing on and on, as for a
greatest common divisor, while keeping how often the first number goes into what is left.
-/

namespace PropertyGate.Modular

/-- A difference modulo a number. -/
def sub (modulus a b : Nat) : Nat := (a + (modulus - b % modulus)) % modulus

/-- Divides on: `left` is `leftFactor` times the number that is inverted, and `next` is `nextFactor`
times it, modulo the modulus. -/
def inverseFrom (modulus left next leftFactor nextFactor : Nat) : Nat :=
  if _h : next = 0 then leftFactor
  else
    inverseFrom modulus next (left % next) nextFactor
      (sub modulus leftFactor (left / next * nextFactor))
termination_by next
decreasing_by exact Nat.mod_lt _ (by omega)

/-- **The inverse** of a number that has no factor in common with the modulus. -/
def inverse (modulus a : Nat) : Nat := inverseFrom modulus modulus (a % modulus) 0 (1 % modulus)

/-- A power modulo a number, by squaring. -/
def power (modulus base exponent : Nat) : Nat :=
  if _h : exponent = 0 then 1 % modulus
  else
    let half := power modulus (base * base % modulus) (exponent / 2)
    if exponent % 2 = 1 then half * base % modulus else half
termination_by exponent
decreasing_by omega

end PropertyGate.Modular
