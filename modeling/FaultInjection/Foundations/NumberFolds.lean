import Mathlib.Data.Sign.Basic
import Mathlib.Tactic.Ring
import FaultInjection.Foundations.BestChoice
import FaultInjection.Foundations.Number

/-
  Combining several numbers: the largest, the smallest, the
  sum and the product, and that their order does not matter.

  Not-a-number is compared with nothing, so it is neither
  chosen nor given up.

  Key definitions include:
    * `Number.largest`
    * `Number.smallest`
    * `largestInt`

  Key theorems include:
    * `Number.largest_atLeast_iff`
    * `Number.add_swap`
    * `Number.mul_swap`
-/

------------------------------------------------------------
-- Choices
------------------------------------------------------------

namespace Number

section Comparisons

variable {K : Type}
variable [LinearOrder K]

theorem lt_asymm {a b : Number K} (hLess : a.lt b = true) :
    b.lt a = false := by
  cases a <;> cases b <;> simp_all [lt, le_of_lt]

/- Without not-a-number, not being less is transitive. -/
theorem not_lt_trans
    {a b c : Number K}
    (hB : b ≠ .nan)
    (hFirst : a.lt b = false)
    (hSecond : b.lt c = false) :
    a.lt c = false := by
  cases a <;> cases b <;> cases c <;> simp_all [lt]
  exact le_trans hSecond hFirst

theorem eq_of_not_lt
    {a b : Number K}
    (hA : a ≠ .nan)
    (hB : b ≠ .nan)
    (hFirst : a.lt b = false)
    (hSecond : b.lt a = false) :
    a = b := by
  cases a <;> cases b <;> simp_all [lt]
  exact le_antisymm hSecond hFirst

/- Between numbers, less or equal is not being greater. -/
theorem le_iff_not_lt (a b : Number K) :
    a.le b = true ↔
      b ≠ .nan ∧ a ≠ .nan ∧ b.lt a = false := by
  cases a <;> cases b <;> simp [le, lt]

theorem le_of_le_of_le
    {a b c : Number K}
    (hFirst : a.le b = true)
    (hSecond : b.le c = true) :
    a.le c = true := by
  rw [le_iff_not_lt] at hFirst hSecond ⊢
  exact
    ⟨hSecond.1, hFirst.2.1,
      not_lt_trans hFirst.1 hSecond.2.2 hFirst.2.2⟩

theorem lt_of_lt_of_le
    {a b c : Number K}
    (hFirst : a.lt b = true)
    (hSecond : b.le c = true) :
    a.lt c = true := by
  cases a <;> cases b <;> cases c <;> simp_all [lt, le]
  exact hFirst.trans_le hSecond

theorem lt_of_le_of_lt
    {a b c : Number K}
    (hFirst : a.le b = true)
    (hSecond : b.lt c = true) :
    a.lt c = true := by
  cases a <;> cases b <;> cases c <;> simp_all [lt, le]
  exact hFirst.trans_lt hSecond

end Comparisons

/- The larger of two numbers replaces the other one. -/
def largest : BestChoice Number where
  better := lt
  comparable := fun x => x ≠ .nan
  incomparable := by
    intro a x hNan
    rw [not_not] at hNan
    rw [hNan]
    exact ⟨lt_nan_left x, lt_nan_right x⟩
  asymm := fun a b => lt_asymm
  trans := fun a b c _ hB _ => not_lt_trans hB
  antisymm := fun a b => eq_of_not_lt

/- The smaller of two numbers replaces the other one. -/
def smallest : BestChoice Number where
  better := fun a b => lt b a
  comparable := fun x => x ≠ .nan
  incomparable := by
    intro a x hNan
    rw [not_not] at hNan
    rw [hNan]
    exact ⟨lt_nan_right x, lt_nan_left x⟩
  asymm := fun a b => lt_asymm
  trans := by
    intro a b c _ hB _ hFirst hSecond
    exact not_lt_trans hB hSecond hFirst
  antisymm := by
    intro a b hA hB hFirst hSecond
    exact eq_of_not_lt hA hB hSecond hFirst

theorem largest_atLeast_iff (a b : Number) :
    largest.AtLeast a b ↔ b.le a = true :=
  (le_iff_not_lt b a).symm

theorem smallest_atLeast_iff (a b : Number) :
    smallest.AtLeast a b ↔ a.le b = true := by
  rw [le_iff_not_lt]
  exact and_left_comm

end Number

/- The larger of two integers replaces the other one. -/
def largestInt : BestChoice Int where
  better := fun a b => a < b
  comparable := fun _ => True
  incomparable := fun _ _ hBad => absurd True.intro hBad
  asymm := by
    intro a b hLess
    simp only [decide_eq_true_eq, decide_eq_false_iff_not] at *
    omega
  trans := by
    intro a b c _ _ _ hFirst hSecond
    simp only [decide_eq_false_iff_not] at *
    omega
  antisymm := by
    intro a b _ _ hFirst hSecond
    simp only [decide_eq_false_iff_not] at *
    omega

theorem largestInt_pick (a b : Int) :
    largestInt.pick a b = Max.max a b := by
  simp only [BestChoice.pick, largestInt, decide_eq_true_eq]
  by_cases hLess : a < b
  · rw [if_pos hLess, Int.max_eq_right (Int.le_of_lt hLess)]
  · rw [if_neg hLess, Int.max_eq_left (Int.not_lt.mp hLess)]

------------------------------------------------------------
-- Sums And Products
------------------------------------------------------------

namespace Number

theorem add_swap (a b c : Number) :
    (a.add b).add c = (a.add c).add b := by
  cases a <;> cases b <;> cases c <;> simp [add]
  ring

end Number

instance : Zero Number := ⟨Number.zero⟩

instance : Add Number := ⟨Number.add⟩

/- Numbers can be added up in any order. -/
instance : AddCommMonoid Number :=
  have hZero : ∀ a : Number, 0 + a = a := by
    intro a
    cases a with
    | finite q => exact congrArg Number.finite (zero_add q)
    | posInf => rfl
    | negInf => rfl
    | nan => rfl
  have hComm : ∀ a b : Number, a + b = b + a := by
    intro a b
    have hSwap := Number.add_swap .zero a b
    change 0 + a + b = 0 + b + a at hSwap
    rw [hZero, hZero] at hSwap
    exact hSwap
  { add_zero := Number.add_zero
    zero_add := hZero
    add_comm := hComm
    add_assoc := by
      intro a b c
      rw [hComm a b, hComm a (b + c)]
      exact Number.add_swap b a c
    nsmul := nsmulRec }

namespace Number

/- The sign of a number, zero for not-a-number. -/
def sign : Number → SignType
| .finite q => SignType.sign q
| .posInf => 1
| .negInf => -1
| .nan => 0

/- An infinity of the sign, not-a-number without one. -/
def infinite : SignType → Number
| .pos => .posInf
| .neg => .negInf
| .zero => .nan

theorem sign_infinite (s : SignType) : (infinite s).sign = s := by
  cases s <;> rfl

theorem isFinite_infinite (s : SignType) :
    (infinite s).isFinite = false := by
  cases s <;> rfl

/- An infinity with the sign that a comparison tells. -/
theorem infinityOfSign_eq
    {q : ℚ}
    (hQ : q ≠ 0)
    (negative : Bool) :
    infinityOfSign (xor (decide (q < 0)) negative) =
      infinite
        (SignType.sign q * (if negative then -1 else 1)) := by
  rcases lt_or_gt_of_ne hQ with hNeg | hPos
  · rw [sign_neg hNeg, decide_eq_true hNeg]
    cases negative <;> rfl
  · rw [sign_pos hPos, decide_eq_false (not_lt_of_gt hPos)]
    cases negative <;> rfl

/- Unless both are finite, a product is told by the signs. -/
theorem mul_eq_infinite
    {a b : Number}
    (hInfinite : (a.isFinite && b.isFinite) = false) :
    a.mul b = infinite (a.sign * b.sign) := by
  have hRight :
      ∀ (q : ℚ) (negative : Bool) (x : Number),
        x.isNegative = negative →
          x.sign = (if negative then -1 else 1) →
            (if q = 0 then
                Number.nan
              else
                infinityOfSign
                  (xor (decide (q < 0)) x.isNegative)) =
              infinite (SignType.sign q * x.sign) := by
    intro q negative x hNegative hSign
    by_cases hQ : q = 0
    · rw [if_pos hQ, hQ, sign_zero, zero_mul]
      rfl
    · rw [if_neg hQ, hNegative, hSign, infinityOfSign_eq hQ]
  cases a with
  | finite p =>
      cases b with
      | finite q => simp [isFinite] at hInfinite
      | posInf => exact hRight p false .posInf rfl rfl
      | negInf => exact hRight p true .negInf rfl rfl
      | nan => simp [mul, sign, infinite]
  | posInf =>
      cases b with
      | finite q =>
          have hSwapped := hRight q false .posInf rfl rfl
          rw [Bool.xor_comm, mul_comm] at hSwapped
          exact hSwapped
      | posInf => rfl
      | negInf => rfl
      | nan => rfl
  | negInf =>
      cases b with
      | finite q =>
          have hSwapped := hRight q true .negInf rfl rfl
          rw [Bool.xor_comm, mul_comm] at hSwapped
          exact hSwapped
      | posInf => rfl
      | negInf => rfl
      | nan => rfl
  | nan => simp [mul, sign, infinite]

/- A product of three numbers. -/
theorem mul_mul_eq (a b c : Number) :
    (∃ p q r,
      a = .finite p ∧ b = .finite q ∧ c = .finite r) ∨
      (a.mul b).mul c =
        infinite (a.sign * b.sign * c.sign) := by
  by_cases hFirst : (a.isFinite && b.isFinite) = false
  · right
    rw [mul_eq_infinite hFirst, mul_eq_infinite, sign_infinite]
    rw [isFinite_infinite]
    rfl
  · rw [Bool.not_eq_false, Bool.and_eq_true, isFinite_iff,
      isFinite_iff] at hFirst
    rcases hFirst with ⟨⟨p, hA⟩, q, hB⟩
    subst hA hB
    by_cases hThird : c.isFinite = true
    · rcases (isFinite_iff c).mp hThird with ⟨r, hC⟩
      exact Or.inl ⟨p, q, r, rfl, rfl, hC⟩
    · right
      rw [mul_finite, mul_eq_infinite]
      · rw [sign, sign, sign, sign_mul]
      · rw [Bool.eq_false_iff.mpr hThird, Bool.and_false]

theorem mul_swap (a b c : Number) :
    (a.mul b).mul c = (a.mul c).mul b := by
  rcases mul_mul_eq a b c with ⟨p, q, r, hA, hB, hC⟩ | hLeft
  · rw [hA, hB, hC, mul_finite, mul_finite, mul_finite,
      mul_finite, mul_right_comm]
  · rcases mul_mul_eq a c b with ⟨p, r, q, hA, hC, hB⟩ | hRight
    · rw [hA, hB, hC, mul_finite, mul_finite, mul_finite,
        mul_finite, mul_right_comm]
    · rw [hLeft, hRight, mul_right_comm]

end Number
