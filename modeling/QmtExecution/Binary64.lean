import Mathlib.Data.Rat.Floor
import Mathlib.Tactic

/-! Rounding of positive rationals to floats of 64 bits. -/

namespace QmtExecution.Binary64

def exponent (x : ℚ) : ℤ :=
  let estimate := (x.num.natAbs.log2 : ℤ) - x.den.log2
  if 2 ^ estimate ≤ x then estimate else estimate - 1

/-- The nearest integer, from the middle the even one. -/
def halfEven (x : ℚ) : ℤ :=
  let rest := x - ⌊x⌋
  if rest < 1 / 2 ∨ rest = 1 / 2 ∧ ⌊x⌋ % 2 = 0 then ⌊x⌋ else ⌊x⌋ + 1

def ulp (x : ℚ) : ℚ := 2 ^ max (exponent x - 52) (-1074)

def nearest (x : ℚ) : ℚ := halfEven (x / ulp x) * ulp x

/-- The least number that rounds to infinity. -/
def overflow : ℕ := 2 ^ 1024 - 2 ^ 970

/-- A positive number as a float; `none` is infinity. -/
def round (x : ℚ) : Option ℚ := if overflow ≤ x then none else some (nearest x)

-- ten times the float of 0.1
example : (round (1 / 10)).bind (fun x => round (10 * x)) = some 1 := by decide +kernel

end QmtExecution.Binary64
