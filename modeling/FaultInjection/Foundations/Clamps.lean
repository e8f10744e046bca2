import FaultInjection.Foundations.NumberFolds

/-
  Clamping a number to symmetric bounds.

  Of several bounds only the largest one may be applied. The
  others are then kept exactly if the number keeps them
  itself, or if all bounds are the same.

  Key definitions include:
    * `Number.Within`
    * `Number.clampSymmetric`

  Key theorems include:
    * `Number.within_clampSymmetric`
    * `Number.clampSymmetric_within_all_iff`
-/

namespace Number

/- The absolute value is at most the bound. -/
def Within (bound value : Number) : Prop :=
  value.abs.le bound = true

instance (bound value : Number) :
    Decidable (Within bound value) :=
  inferInstanceAs (Decidable (_ = true))

def clampSymmetric (bound value : Number) : Number :=
  value.clamp bound.neg bound

------------------------------------------------------------
-- One Bound
------------------------------------------------------------

theorem ne_nan_of_within
    {bound value : Number}
    (hWithin : Within bound value) :
    bound ≠ .nan ∧ value ≠ .nan := by
  unfold Within at hWithin
  constructor
  · rintro rfl
    cases value <;> simp [le, abs] at hWithin
  · rintro rfl
    cases bound <;> simp [le, abs] at hWithin

theorem Within.mono
    {bound larger value : Number}
    (hWithin : Within bound value)
    (hLarger : bound.le larger = true) :
    Within larger value := by
  rcases ne_nan_of_within hWithin with ⟨hBound, _⟩
  unfold Within at hWithin ⊢
  rw [le_iff_not_lt] at hWithin hLarger ⊢
  exact
    ⟨hLarger.1, hWithin.2.1,
      not_lt_trans hBound hLarger.2.2 hWithin.2.2⟩

theorem within_zero
    {bound : Number}
    (hNumber : bound ≠ .nan)
    (hNonneg : bound.lt .zero = false) :
    Within bound .zero := by
  unfold Within
  cases bound <;> simp_all [le, abs, lt, zero]

/- A number within the bound is not changed. -/
theorem clampSymmetric_of_within
    {bound value : Number}
    (hWithin : Within bound value) :
    clampSymmetric bound value = value := by
  unfold Within at hWithin
  unfold clampSymmetric clamp
  cases bound with
  | finite b =>
      cases value with
      | finite q =>
          have hBounds : -b ≤ q ∧ q ≤ b := by
            simpa [abs, abs_le] using hWithin
          have hLow : ¬ q < -b := not_lt.mpr hBounds.1
          have hHigh : ¬ b < q := not_lt.mpr hBounds.2
          simp [neg, hLow, hHigh]
      | posInf => simp [le, abs] at hWithin
      | negInf => simp [le, abs] at hWithin
      | nan => simp [le, abs] at hWithin
  | posInf => cases value <;> simp_all [neg, lt, le, abs]
  | negInf => cases value <;> simp_all [le, abs]
  | nan => cases value <;> simp_all [le, abs]

/- Any other number becomes one of the two bounds. -/
theorem abs_clampSymmetric_of_not_within
    {bound value : Number}
    (hBound : bound ≠ .nan)
    (hNonneg : bound.lt .zero = false)
    (hValue : value ≠ .nan)
    (hOutside : ¬ Within bound value) :
    (clampSymmetric bound value).abs = bound := by
  unfold Within at hOutside
  unfold clampSymmetric clamp
  cases bound with
  | finite b =>
      have hPositive : 0 ≤ b := by
        simpa [lt, zero] using hNonneg
      cases value with
      | finite q =>
          have hFar : ¬ (-b ≤ q ∧ q ≤ b) := by
            simpa [abs, abs_le] using hOutside
          by_cases hLow : q < -b
          · simp [neg, hLow, abs, abs_of_nonneg hPositive]
          · have hHigh : b < q := by
              by_contra hBelow
              exact
                hFar ⟨not_lt.mp hLow, not_lt.mp hBelow⟩
            simp [neg, hLow, hHigh, abs,
              abs_of_nonneg hPositive]
      | posInf => simp [lt, abs, abs_of_nonneg hPositive]
      | negInf => simp [neg, lt, abs, abs_of_nonneg hPositive]
      | nan => exact absurd rfl hValue
  | posInf => cases value <;> simp_all [le, abs]
  | negInf => simp [lt, zero] at hNonneg
  | nan => exact absurd rfl hBound

theorem clampSymmetric_nan (bound : Number) :
    clampSymmetric bound .nan = .nan := by
  simp [clampSymmetric, clamp]

/- The bound that is applied is kept. -/
theorem within_clampSymmetric
    {bound value : Number}
    (hBound : bound ≠ .nan)
    (hNonneg : bound.lt .zero = false)
    (hValue : value ≠ .nan) :
    Within bound (clampSymmetric bound value) := by
  by_cases hWithin : Within bound value
  · rw [clampSymmetric_of_within hWithin]
    exact hWithin
  · unfold Within
    rw [abs_clampSymmetric_of_not_within hBound hNonneg
      hValue hWithin, le_iff_not_lt]
    exact ⟨hBound, hBound, lt_self bound⟩

------------------------------------------------------------
-- Several Bounds
------------------------------------------------------------

/-
  Under the largest of some bounds, all of them are kept
  exactly if they are kept anyway or are the same.
-/
theorem clampSymmetric_within_all_iff
    {bounds : Number → Prop}
    {largest value : Number}
    (hNonneg : ∀ m, bounds m → m.lt .zero = false)
    (hMem : bounds largest)
    (hLargest : ∀ m, bounds m → m.le largest = true) :
    (∀ m, bounds m → Within m (clampSymmetric largest value)) ↔
      value ≠ .nan ∧
        ((∀ m, bounds m → Within m value) ∨
          ∀ m, bounds m → m = largest) := by
  have hNumber : largest ≠ .nan :=
    ((le_iff_not_lt _ _).mp (hLargest _ hMem)).1
  constructor
  · intro hKept
    have hValue : value ≠ .nan := by
      rintro rfl
      have hSelf := hKept largest hMem
      rw [clampSymmetric_nan] at hSelf
      exact (ne_nan_of_within hSelf).2 rfl
    refine ⟨hValue, ?_⟩
    by_cases hWithin : Within largest value
    · left
      rw [clampSymmetric_of_within hWithin] at hKept
      exact hKept
    · right
      intro m hBound
      have hBelow := hKept m hBound
      unfold Within at hBelow
      rw [abs_clampSymmetric_of_not_within hNumber
        (hNonneg _ hMem) hValue hWithin] at hBelow
      have hAbove := hLargest m hBound
      rw [le_iff_not_lt] at hBelow hAbove
      exact
        eq_of_not_lt hAbove.2.1 hNumber hBelow.2.2
          hAbove.2.2
  · rintro ⟨hValue, hAll | hSame⟩ m hBound
    · have hWithin := (hAll m hBound).mono (hLargest m hBound)
      rw [clampSymmetric_of_within hWithin]
      exact hAll m hBound
    · rw [hSame m hBound]
      exact
        within_clampSymmetric hNumber (hNonneg _ hMem) hValue

end Number
