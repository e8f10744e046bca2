import FaultInjection.Foundations.Number

/-
  Durations as 64-bit counts of ticks.

  A conversion to a finer unit and a sum of two counts are
  taken modulo 2^64. A number of seconds is converted towards
  zero.

  Key definitions include:
    * `Ticks.Fits`
    * `Ticks.wrap`
    * `Ticks.truncate`

  Key theorems include:
    * `Ticks.wrap_of_fits`
    * `Ticks.forall_wrap_lt_iff`
    * `Ticks.truncate_lt_iff`
    * `Ticks.truncate_nonneg_iff`
-/

namespace Ticks

------------------------------------------------------------
-- Counts
------------------------------------------------------------

/- Two to the power of 63. -/
def limit : Int := 9223372036854775808

/- The count is one of a signed 64-bit integer. -/
def Fits (count : Int) : Prop :=
  -limit ≤ count ∧ count < limit

instance (count : Int) : Decidable (Fits count) :=
  inferInstanceAs (Decidable (_ ∧ _))

/- The count modulo 2^64. -/
def wrap (count : Int) : Int :=
  count.bmod 18446744073709551616

theorem wrap_of_fits
    {count : Int}
    (hFits : Fits count) :
    wrap count = count := by
  unfold Fits limit at hFits
  unfold wrap
  rw [Int.bmod_def]
  omega

/- An even count stays even, so it is not the largest one. -/
theorem wrap_succ_lt
    {count : Int}
    (hEven : 2 ∣ count) :
    wrap count + 1 < limit := by
  unfold limit wrap
  rw [Int.bmod_def]
  omega

/-
  For what is measured in the finer unit, being more than the
  wrapped count means being more than an original amount
  exactly if nothing wraps around and less than one tick of
  the amount is lost. An amount whose count does not fit is
  itself too large.
-/
theorem forall_wrap_lt_iff
    {count : Int}
    {amount : ℚ}
    (hNonneg : 0 ≤ count)
    (hEven : 2 ∣ count)
    (hAmount : limit ≤ count → (limit : ℚ) ≤ amount) :
    (∀ elapsed : Int,
        0 ≤ elapsed → elapsed < limit →
          wrap count < elapsed → amount < elapsed) ↔
      count < limit ∧ amount < count + 1 := by
  constructor
  · intro hAll
    have hSmall : count < limit := by
      by_contra hLarge
      have hLater :=
        hAll (max (wrap count + 1) 0) (by omega)
          (max_lt (wrap_succ_lt hEven) (by decide)) (by omega)
      have hLate : limit < max (wrap count + 1) 0 := by
        exact_mod_cast
          lt_of_le_of_lt (hAmount (not_lt.mp hLarge)) hLater
      have hBound : max (wrap count + 1) 0 < limit :=
        max_lt (wrap_succ_lt hEven) (by decide)
      omega
    have hFits : Fits count :=
      ⟨by unfold limit; omega, hSmall⟩
    have hSame := wrap_of_fits hFits
    have hNext := wrap_succ_lt hEven
    rw [hSame] at hAll hNext
    have hLater := hAll (count + 1) (by omega) hNext (by omega)
    exact ⟨hSmall, by exact_mod_cast hLater⟩
  · rintro ⟨hSmall, hLost⟩ elapsed _ _ hElapsed
    have hFits : Fits count :=
      ⟨by unfold limit; omega, hSmall⟩
    rw [wrap_of_fits hFits] at hElapsed
    have hNext : (count : ℚ) + 1 ≤ elapsed := by
      exact_mod_cast hElapsed
    exact lt_of_lt_of_le hLost hNext

------------------------------------------------------------
-- Conversions
------------------------------------------------------------

/- The whole part, towards zero. -/
def truncate (q : ℚ) : Int :=
  q.num.tdiv q.den

theorem truncate_eq_floor
    {q : ℚ}
    (hNonneg : 0 ≤ q) :
    truncate q = ⌊q⌋ := by
  unfold truncate
  rw [Int.tdiv_eq_ediv_of_nonneg (Rat.num_nonneg.mpr hNonneg),
    Rat.floor_def']

theorem truncate_neg (q : ℚ) :
    truncate (-q) = -truncate q := by
  unfold truncate
  rw [Rat.num_neg_eq_neg_num, Rat.den_neg_eq_den,
    Int.neg_tdiv]

/- A positive bound is kept by the whole part alike. -/
theorem truncate_lt_iff
    {bound : Int}
    (hPositive : 0 < bound)
    (q : ℚ) :
    truncate q < bound ↔ q < bound := by
  have hBound : (0 : ℚ) < bound := by exact_mod_cast hPositive
  rcases le_or_gt 0 q with hNonneg | hNegative
  · rw [truncate_eq_floor hNonneg]
    exact Int.floor_lt
  · have hWhole : 0 ≤ truncate (-q) := by
      rw [truncate_eq_floor (by linarith)]
      exact Int.floor_nonneg.mpr (by linarith)
    rw [truncate_neg] at hWhole
    exact iff_of_true (by omega) (by linarith)

/- What is more than minus one has no negative whole part. -/
theorem truncate_nonneg_iff (q : ℚ) :
    0 ≤ truncate q ↔ -1 < q := by
  have hOpposite := truncate_lt_iff one_pos (-q)
  rw [truncate_neg, Int.cast_one] at hOpposite
  constructor
  · intro hNonneg
    have hLess := hOpposite.mp (by omega)
    linarith
  · intro hMore
    have hLess := hOpposite.mpr (by linarith)
    omega

end Ticks
