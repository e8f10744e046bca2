import Mathlib.Analysis.Real.Sqrt
import FaultInjection.Foundations.Number

/-
  The exact square root of numbers.

  The root of a rational number need not be rational, so the
  numbers have real values. What is below zero has no root.

  Key definitions include:
    * `Number.sqrt`

  Key theorems include:
    * `Number.sqrt_finite`
    * `Number.sqrt_scale`
-/

namespace Number

noncomputable def sqrt : Number ℝ → Number ℝ
| .finite x =>
    if x < 0 then
      .nan
    else
      .finite (Real.sqrt x)
| .posInf => .posInf
| .negInf => .nan
| .nan => .nan

theorem sqrt_finite
    {x : ℝ}
    (hNonneg : 0 ≤ x) :
    sqrt (.finite x) = .finite (Real.sqrt x) :=
  if_neg (not_lt.mpr hNonneg)

theorem sqrt_zero : sqrt .zero = .zero := by
  refine (sqrt_finite le_rfl).trans ?_
  rw [Real.sqrt_zero]
  rfl

/- The square of a factor comes out of the root. -/
theorem sqrt_scale
    {c x : ℝ}
    (hFactor : 0 ≤ c)
    (hNonneg : 0 ≤ x) :
    sqrt (.finite (c ^ 2 * x)) =
      .finite (c * Real.sqrt x) := by
  rw [sqrt_finite (mul_nonneg (sq_nonneg c) hNonneg),
    Real.sqrt_mul (sq_nonneg c), Real.sqrt_sq hFactor]

end Number
