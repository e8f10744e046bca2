import Mathlib.Algebra.Order.ToIntervalMod
import Mathlib.Algebra.Order.Archimedean.Basic
import Mathlib.Tactic.Linarith
import Mathlib.Tactic.Ring

/-
  Arcs on a circle of a given period.

  A number stands for the direction of all numbers that
  differ from it by whole turns. An arc is an interval of
  numbers, and a direction is on it if one of its numbers is.

  Key definitions include:
    * `Arcs.OnArc`

  Key theorems include:
    * `Arcs.onArc_add_turns`
    * `Arcs.onArc_shift`
    * `Arcs.isLeast_toIcoMod`
    * `Arcs.onArc_iff_of_window`
-/

namespace Arcs

variable {K : Type} [Field K] [LinearOrder K]
variable [IsStrictOrderedRing K]
variable {p : K}

/- Some number of this direction is in the interval. -/
def OnArc (p low high x : K) : Prop :=
  ∃ k : ℤ, low ≤ x + k * p ∧ x + k * p ≤ high

------------------------------------------------------------
-- Turns
------------------------------------------------------------

/- Whole turns do not change a direction. -/
theorem onArc_add_turns
    (low high x : K)
    (j : ℤ) :
    OnArc p low high (x + j * p) ↔ OnArc p low high x := by
  unfold OnArc
  constructor
  · rintro ⟨k, hLow, hHigh⟩
    refine ⟨j + k, ?_, ?_⟩
    · push_cast
      linarith
    · push_cast
      linarith
  · rintro ⟨k, hLow, hHigh⟩
    refine ⟨k - j, ?_, ?_⟩
    · push_cast
      linarith
    · push_cast
      linarith

/- An arc that is moved by whole turns is the same arc. -/
theorem onArc_shift
    (low high x : K)
    (j : ℤ) :
    OnArc p (low + j * p) (high + j * p) x ↔
      OnArc p low high x := by
  unfold OnArc
  constructor
  · rintro ⟨k, hLow, hHigh⟩
    refine ⟨k - j, ?_, ?_⟩
    · push_cast
      linarith
    · push_cast
      linarith
  · rintro ⟨k, hLow, hHigh⟩
    refine ⟨k + j, ?_, ?_⟩
    · push_cast
      linarith
    · push_cast
      linarith

/- The directions of both ends are on an arc. -/
theorem onArc_low
    {low high : K}
    (hOrder : low ≤ high)
    (j : ℤ) :
    OnArc p low high (low + j * p) := by
  rw [onArc_add_turns]
  refine ⟨0, ?_, ?_⟩
  · simp
  · simpa using hOrder

theorem onArc_high
    {low high : K}
    (hOrder : low ≤ high)
    (j : ℤ) :
    OnArc p low high (high + j * p) := by
  rw [onArc_add_turns]
  refine ⟨0, ?_, ?_⟩
  · simpa using hOrder
  · simp

------------------------------------------------------------
-- The First Number of a Direction
------------------------------------------------------------

section First

variable [Archimedean K]

/- The first number of a direction from some number on. -/
theorem isLeast_toIcoMod
    (hTurn : 0 < p)
    (low x : K) :
    IsLeast { y | low ≤ y ∧ ∃ j : ℤ, y = x + j * p }
      (toIcoMod hTurn low x) := by
  constructor
  · refine ⟨left_le_toIcoMod hTurn low x, ?_⟩
    refine ⟨-toIcoDiv hTurn low x, ?_⟩
    rw [← self_sub_toIcoDiv_zsmul, zsmul_eq_mul]
    push_cast
    ring
  · rintro y ⟨hLow, j, hSame⟩
    have hFirst :
        toIcoMod hTurn low x = toIcoMod hTurn low y := by
      rw [hSame, ← zsmul_eq_mul, toIcoMod_add_zsmul]
    rw [hFirst, ← self_sub_toIcoDiv_zsmul, zsmul_eq_mul]
    have hTurns : 0 ≤ toIcoDiv hTurn low y := by
      by_contra hNegative
      have hStep : (toIcoDiv hTurn low y : K) ≤ -1 := by
        exact_mod_cast (by omega :
          toIcoDiv hTurn low y ≤ -1)
      have hBelow := toIcoMod_lt_right hTurn low y
      rw [← self_sub_toIcoDiv_zsmul, zsmul_eq_mul] at hBelow
      have hScaled :
          (toIcoDiv hTurn low y : K) * p ≤ -1 * p :=
        mul_le_mul_of_nonneg_right hStep hTurn.le
      linarith
    have hTurnsCast : (0 : K) ≤ toIcoDiv hTurn low y := by
      exact_mod_cast hTurns
    linarith [mul_nonneg hTurnsCast hTurn.le]

/- An arc of a whole turn has all directions. -/
theorem onArc_of_turn
    (hTurn : 0 < p)
    {low high : K}
    (hLong : low + p ≤ high)
    (x : K) :
    OnArc p low high x := by
  rcases (isLeast_toIcoMod hTurn low x).1 with
    ⟨hLow, j, hSame⟩
  have hBelow := toIcoMod_lt_right hTurn low x
  rw [hSame] at hLow hBelow
  exact ⟨j, hLow, by linarith⟩

end First

------------------------------------------------------------
-- One Window
------------------------------------------------------------

/-
  A number and the start of an arc of less than a turn that
  are in one window of a turn differ by a turn at most.
-/
theorem onArc_iff_of_window
    (hTurn : 0 < p)
    {window low high x : K}
    (hLow : window ≤ low ∧ low ≤ window + p)
    (hX : window ≤ x ∧ x ≤ window + p)
    (hShort : high < low + p) :
    OnArc p low high x ↔
      (low ≤ x - p ∧ x - p ≤ high) ∨
        (low ≤ x ∧ x ≤ high) ∨
          (low ≤ x + p ∧ x + p ≤ high) := by
  constructor
  · rintro ⟨k, hAbove, hBelow⟩
    have hLeast : -1 ≤ k := by
      by_contra hSmall
      have hStep : (k : K) ≤ -2 := by
        exact_mod_cast (by omega : k ≤ -2)
      have hScaled : (k : K) * p ≤ -2 * p :=
        mul_le_mul_of_nonneg_right hStep hTurn.le
      linarith
    have hMost : k ≤ 1 := by
      by_contra hLarge
      have hStep : (2 : K) ≤ k := by
        exact_mod_cast (by omega : 2 ≤ k)
      have hScaled : 2 * p ≤ (k : K) * p :=
        mul_le_mul_of_nonneg_right hStep hTurn.le
      linarith
    have hTurns : k = -1 ∨ k = 0 ∨ k = 1 := by omega
    rcases hTurns with hBack | hNone | hForth
    · subst hBack
      push_cast at hAbove hBelow
      exact Or.inl ⟨by linarith, by linarith⟩
    · subst hNone
      push_cast at hAbove hBelow
      exact Or.inr (Or.inl ⟨by linarith, by linarith⟩)
    · subst hForth
      push_cast at hAbove hBelow
      exact Or.inr (Or.inr ⟨by linarith, by linarith⟩)
  · rintro (⟨hAbove, hBelow⟩ | ⟨hAbove, hBelow⟩ |
      ⟨hAbove, hBelow⟩)
    · refine ⟨-1, ?_, ?_⟩
      · push_cast
        linarith
      · push_cast
        linarith
    · refine ⟨0, ?_, ?_⟩
      · push_cast
        linarith
      · push_cast
        linarith
    · refine ⟨1, ?_, ?_⟩
      · push_cast
        linarith
      · push_cast
        linarith

end Arcs
