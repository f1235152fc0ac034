/-!
# Rounding quotients

* `roundDiv`: a quotient rounded to the nearest whole number.
* `twoTo`, `tenTo`: the powers by which quotients are scaled.
-/

namespace LintDaemon.Number

/-- A power of two. -/
def twoTo (k : Nat) : Nat := Nat.pow 2 k

/-- A power of ten. -/
def tenTo (k : Nat) : Nat := Nat.pow 10 k

/-- A quotient rounded to the nearest whole number, ties to even. -/
def roundDiv (num den : Nat) : Nat :=
  let q := num / den
  let twice := 2 * (num % den)
  if twice < den ∨ (twice = den ∧ q % 2 = 0) then q else q + 1

end LintDaemon.Number
