import Mathlib.Data.Int.Log
import Mathlib.Data.Rat.Floor
import Mathlib.Tactic.FieldSimp
import FaultInjection.Foundations.Number

/-
  Rounding to binary floating-point formats.

  A number is rounded to the nearest multiple of the unit in
  its last place, and to the even one of two. The unit does
  not get smaller than the smallest subnormal. What rounds to
  the limit of the format or more is infinite. Zero has no
  sign.

  Key definitions include:
    * `roundHalfEven`
    * `BinaryFormat`
    * `BinaryFormat.nearest`
    * `BinaryFormat.round`
    * `Number.toSingle`
    * `Number.toDouble`

  Key theorems include:
    * `roundHalfEven_eq_iff`
    * `BinaryFormat.nearest_neg`
    * `BinaryFormat.nearest_mono`
    * `BinaryFormat.nearest_lt_iff`
    * `BinaryFormat.round_le_round`
    * `Number.zero_lt_toSingle_iff`
-/

------------------------------------------------------------
-- Integers
------------------------------------------------------------

def roundHalfEven (q : ℚ) : Int :=
  if q - ⌊q⌋ < 1 / 2 then
    ⌊q⌋
  else if 1 / 2 < q - ⌊q⌋ then
    ⌊q⌋ + 1
  else if ⌊q⌋ % 2 = 0 then
    ⌊q⌋
  else
    ⌊q⌋ + 1

/- An integer less than a half away, or an even one. -/
def IsRounding (q : ℚ) (n : Int) : Prop :=
  |q - n| < 1 / 2 ∨ (|q - n| = 1 / 2 ∧ n % 2 = 0)

theorem isRounding_roundHalfEven (q : ℚ) :
    IsRounding q (roundHalfEven q) := by
  have hLow := Int.floor_le q
  have hHigh := Int.lt_floor_add_one q
  unfold IsRounding roundHalfEven
  by_cases hBelow : q - ⌊q⌋ < 1 / 2
  · rw [if_pos hBelow, abs_of_nonneg (by linarith)]
    exact Or.inl hBelow
  · rw [if_neg hBelow]
    have hUp : |q - ((⌊q⌋ + 1 : Int) : ℚ)| = ⌊q⌋ + 1 - q := by
      push_cast
      rw [abs_of_nonpos (by linarith)]
      ring
    by_cases hAbove : 1 / 2 < q - ⌊q⌋
    · rw [if_pos hAbove, hUp]
      exact Or.inl (by linarith)
    · rw [if_neg hAbove]
      have hHalf : q - ⌊q⌋ = 1 / 2 := by linarith
      by_cases hEven : ⌊q⌋ % 2 = 0
      · rw [if_pos hEven, hHalf, abs_of_pos (by norm_num)]
        exact Or.inr ⟨rfl, hEven⟩
      · rw [if_neg hEven, hUp]
        exact Or.inr ⟨by linarith, by omega⟩

/- Two even integers are not one apart. -/
theorem IsRounding.unique
    {q : ℚ}
    {m n : Int}
    (hM : IsRounding q m)
    (hN : IsRounding q n) :
    m = n := by
  have hNear : |(m : ℚ) - n| ≤ |q - m| + |q - n| := by
    have hTriangle := abs_sub (q - n) (q - m)
    rw [sub_sub_sub_cancel_left] at hTriangle
    linarith
  have hAtMost :
      |q - m| ≤ 1 / 2 ∧ |q - n| ≤ 1 / 2 := by
    rcases hM with hM | ⟨hM, _⟩ <;>
      rcases hN with hN | ⟨hN, _⟩ <;>
        exact ⟨by linarith, by linarith⟩
  have hOne : |m - n| ≤ 1 := by
    have hCast : |(m : ℚ) - n| ≤ 1 := by linarith
    exact_mod_cast hCast
  by_contra hDiffer
  have hApart : (1 : ℚ) ≤ |(m : ℚ) - n| := by
    have hInt : 1 ≤ |m - n| :=
      Int.one_le_abs (sub_ne_zero.mpr hDiffer)
    exact_mod_cast hInt
  rcases hM with hM | ⟨_, hEvenM⟩
  · linarith [hAtMost.2]
  · rcases hN with hN | ⟨_, hEvenN⟩
    · linarith [hAtMost.1]
    · rw [abs_le] at hOne
      omega

theorem roundHalfEven_eq_iff
    {q : ℚ}
    {n : Int} :
    roundHalfEven q = n ↔ IsRounding q n := by
  constructor
  · intro hSame
    rw [← hSame]
    exact isRounding_roundHalfEven q
  · exact (isRounding_roundHalfEven q).unique

/- The rounded number is at most a half away. -/
theorem roundHalfEven_le (q : ℚ) :
    roundHalfEven q ≤ q + 1 / 2 := by
  have hLeft := neg_abs_le (q - roundHalfEven q)
  rcases isRounding_roundHalfEven q with hNear | ⟨hTie, _⟩
  · linarith
  · linarith

theorem le_roundHalfEven (q : ℚ) :
    q ≤ roundHalfEven q + 1 / 2 := by
  have hRight := le_abs_self (q - roundHalfEven q)
  rcases isRounding_roundHalfEven q with hNear | ⟨hTie, _⟩
  · linarith
  · linarith

theorem roundHalfEven_neg (q : ℚ) :
    roundHalfEven (-q) = -roundHalfEven q := by
  rw [roundHalfEven_eq_iff]
  have hOwn := isRounding_roundHalfEven q
  unfold IsRounding at hOwn ⊢
  have hSame :
      |-q - ((-roundHalfEven q : Int) : ℚ)| =
        |q - roundHalfEven q| := by
    rw [Int.cast_neg, ← neg_sub', abs_neg]
  rw [hSame]
  exact hOwn.imp_right fun hTie => ⟨hTie.1, by omega⟩

theorem roundHalfEven_intCast (n : Int) :
    roundHalfEven (n : ℚ) = n := by
  rw [roundHalfEven_eq_iff]
  left
  rw [sub_self, abs_zero]
  norm_num

theorem roundHalfEven_mono
    {a b : ℚ}
    (hOrder : a ≤ b) :
    roundHalfEven a ≤ roundHalfEven b := by
  by_contra hMore
  rw [not_le] at hMore
  have hApart :
      (roundHalfEven b : ℚ) + 1 ≤ roundHalfEven a := by
    exact_mod_cast hMore
  have hLow := roundHalfEven_le a
  have hHigh := le_roundHalfEven b
  have hEqual : a = b := by linarith
  rw [hEqual] at hMore
  exact lt_irrefl _ hMore

/- Only what is above a half rounds up from zero. -/
theorem roundHalfEven_pos_iff (q : ℚ) :
    0 < roundHalfEven q ↔ 1 / 2 < q := by
  have hHalf : roundHalfEven (1 / 2) = 0 := by
    decide +kernel
  constructor
  · intro hPos
    by_contra hSmall
    have hMono := roundHalfEven_mono (not_lt.mp hSmall)
    omega
  · intro hLarge
    by_contra hSmall
    have hCast : (roundHalfEven q : ℚ) ≤ 0 := by
      exact_mod_cast not_lt.mp hSmall
    have hHigh := le_roundHalfEven q
    linarith

------------------------------------------------------------
-- Formats
------------------------------------------------------------

/-
  The bits of a significand, the exponent of the smallest
  normal number, and the exponent of the limit.
-/
structure BinaryFormat where
  precision : Nat
  lowest : Int
  limit : Nat
  precision_pos : 0 < precision

namespace BinaryFormat

def single : BinaryFormat where
  precision := 24
  lowest := -126
  limit := 128
  precision_pos := by decide

def double : BinaryFormat where
  precision := 53
  lowest := -1022
  limit := 1024
  precision_pos := by decide

/- The power of two that a number reaches, or the lowest. -/
def exponent (f : BinaryFormat) (q : ℚ) : Int :=
  max (Int.log 2 |q|) f.lowest

/- The unit in the last place. -/
def ulp (f : BinaryFormat) (q : ℚ) : ℚ :=
  2 ^ (f.exponent q - f.precision + 1)

def nearest (f : BinaryFormat) (q : ℚ) : ℚ :=
  roundHalfEven (q / f.ulp q) * f.ulp q

def round (f : BinaryFormat) : Number → Number
| .finite q =>
    if 2 ^ f.limit ≤ |f.nearest q| then
      Number.infinityOfSign (q < 0)
    else
      .finite (f.nearest q)
| other => other

------------------------------------------------------------
-- Units In The Last Place
------------------------------------------------------------

section Units

variable {f : BinaryFormat}

theorem ulp_pos (q : ℚ) : 0 < f.ulp q :=
  zpow_pos (by norm_num) _

theorem ulp_neg (q : ℚ) : f.ulp (-q) = f.ulp q := by
  unfold ulp exponent
  rw [abs_neg]

theorem ulp_eq_of_exponent
    {q : ℚ}
    {e : Int}
    (hExponent : f.exponent q = e + f.precision - 1) :
    f.ulp q = 2 ^ e := by
  unfold ulp
  rw [hExponent]
  congr 1
  ring

/- A power of two that is reached bounds the exponent. -/
theorem lt_zpow_of_exponent_lt
    {q : ℚ}
    {e : Int}
    (hExponent : f.exponent q < e) :
    |q| < 2 ^ e := by
  have hBelow :
      |q| < ((2 : ℕ) : ℚ) ^ (Int.log 2 |q| + 1) :=
    Int.lt_zpow_succ_log_self (by norm_num) |q|
  push_cast at hBelow
  refine lt_of_lt_of_le hBelow ?_
  refine zpow_le_zpow_right₀ (by norm_num) ?_
  have hOwn : Int.log 2 |q| ≤ f.exponent q := le_max_left _ _
  omega

theorem zpow_le_of_le_exponent
    {q : ℚ}
    {e : Int}
    (hNonzero : q ≠ 0)
    (hNormal : f.lowest < e)
    (hExponent : e ≤ f.exponent q) :
    2 ^ e ≤ |q| := by
  have hReached :
      ((2 : ℕ) : ℚ) ^ Int.log 2 |q| ≤ |q| :=
    Int.zpow_log_le_self (by norm_num) (abs_pos.mpr hNonzero)
  push_cast at hReached
  refine le_trans ?_ hReached
  refine zpow_le_zpow_right₀ (by norm_num) ?_
  unfold exponent at hExponent
  omega

theorem exponent_eq_of_bounds
    {q : ℚ}
    {e : Int}
    (hNormal : f.lowest ≤ e)
    (hLow : 2 ^ e ≤ q)
    (hHigh : q < 2 ^ (e + 1)) :
    f.exponent q = e := by
  have hPos : 0 < q :=
    lt_of_lt_of_le (zpow_pos (by norm_num) e) hLow
  have hLog : Int.log 2 q = e := by
    refine le_antisymm ?_ ?_
    · refine Int.lt_add_one_iff.mp ?_
      rw [← Int.lt_zpow_iff_log_lt (by norm_num) hPos]
      exact_mod_cast hHigh
    · rw [← Int.zpow_le_iff_le_log (by norm_num) hPos]
      exact_mod_cast hLow
  unfold exponent
  rw [abs_of_pos hPos, hLog, max_eq_left hNormal]

/- A power of two that is not below the unit is a multiple. -/
theorem zpow_eq_mul_ulp
    {q : ℚ}
    {e : Int}
    (hUnit : f.exponent q - f.precision + 1 ≤ e) :
    ∃ n : Int, (2 : ℚ) ^ e = n * f.ulp q := by
  refine
    ⟨2 ^ (e - (f.exponent q - f.precision + 1)).toNat, ?_⟩
  unfold ulp
  push_cast
  rw [← zpow_natCast, Int.toNat_of_nonneg (by omega),
    ← zpow_add₀ (by norm_num)]
  congr 1
  omega

end Units

------------------------------------------------------------
-- Rounding
------------------------------------------------------------

section Rounding

variable {f : BinaryFormat}

theorem nearest_zero : f.nearest 0 = 0 := by
  unfold nearest
  rw [zero_div]
  simp [roundHalfEven]

theorem nearest_neg (q : ℚ) :
    f.nearest (-q) = -f.nearest q := by
  unfold nearest
  rw [ulp_neg, neg_div, roundHalfEven_neg]
  push_cast
  ring

theorem nearest_nonneg
    {q : ℚ}
    (hNonneg : 0 ≤ q) :
    0 ≤ f.nearest q := by
  have hUnit := f.ulp_pos q
  have hMono : roundHalfEven 0 ≤ roundHalfEven (q / f.ulp q) :=
    roundHalfEven_mono (div_nonneg hNonneg hUnit.le)
  have hZero : roundHalfEven 0 = 0 := by decide +kernel
  rw [hZero] at hMono
  exact mul_nonneg (by exact_mod_cast hMono) hUnit.le

theorem nearest_nonpos
    {q : ℚ}
    (hNonpos : q ≤ 0) :
    f.nearest q ≤ 0 := by
  have hOpposite := f.nearest_nonneg (neg_nonneg.mpr hNonpos)
  rw [nearest_neg] at hOpposite
  exact neg_nonneg.mp hOpposite

theorem abs_nearest (q : ℚ) :
    |f.nearest q| = f.nearest |q| := by
  rcases le_total 0 q with hNonneg | hNonpos
  · rw [abs_of_nonneg hNonneg,
      abs_of_nonneg (nearest_nonneg hNonneg)]
  · rw [abs_of_nonpos hNonpos,
      abs_of_nonpos (nearest_nonpos hNonpos), nearest_neg]

/- A multiple of the unit stays between what is rounded. -/
theorem nearest_le_mul_ulp
    {q : ℚ}
    {n : Int}
    (hBelow : q ≤ n * f.ulp q) :
    f.nearest q ≤ n * f.ulp q := by
  have hPos := f.ulp_pos q
  have hMono :=
    roundHalfEven_mono ((div_le_iff₀ hPos).mpr hBelow)
  rw [roundHalfEven_intCast] at hMono
  exact
    mul_le_mul_of_nonneg_right (by exact_mod_cast hMono)
      hPos.le

theorem mul_ulp_le_nearest
    {q : ℚ}
    {n : Int}
    (hAbove : n * f.ulp q ≤ q) :
    n * f.ulp q ≤ f.nearest q := by
  have hPos := f.ulp_pos q
  have hMono :=
    roundHalfEven_mono ((le_div_iff₀ hPos).mpr hAbove)
  rw [roundHalfEven_intCast] at hMono
  exact
    mul_le_mul_of_nonneg_right (by exact_mod_cast hMono)
      hPos.le

theorem nearest_le_zpow
    {q : ℚ}
    {e : Int}
    (hUnit : f.exponent q - f.precision + 1 ≤ e)
    (hBelow : q ≤ 2 ^ e) :
    f.nearest q ≤ 2 ^ e := by
  rcases zpow_eq_mul_ulp hUnit with ⟨n, hMultiple⟩
  rw [hMultiple] at hBelow ⊢
  exact nearest_le_mul_ulp hBelow

theorem zpow_le_nearest
    {q : ℚ}
    {e : Int}
    (hUnit : f.exponent q - f.precision + 1 ≤ e)
    (hAbove : 2 ^ e ≤ q) :
    2 ^ e ≤ f.nearest q := by
  rcases zpow_eq_mul_ulp hUnit with ⟨n, hMultiple⟩
  rw [hMultiple] at hAbove ⊢
  exact mul_ulp_le_nearest hAbove

theorem nearest_mono_of_pos
    {a b : ℚ}
    (hPos : 0 < a)
    (hOrder : a ≤ b) :
    f.nearest a ≤ f.nearest b := by
  have hPosB : 0 < b := lt_of_lt_of_le hPos hOrder
  have hLog : Int.log 2 |a| ≤ Int.log 2 |b| := by
    rw [abs_of_pos hPos, abs_of_pos hPosB]
    exact Int.log_mono_right hPos hOrder
  have hExponents : f.exponent a ≤ f.exponent b :=
    max_le_max_right _ hLog
  rcases eq_or_lt_of_le hExponents with hSame | hLess
  · have hUnit : f.ulp a = f.ulp b := by
      unfold ulp
      rw [hSame]
    unfold nearest
    rw [hUnit]
    have hMono :=
      roundHalfEven_mono
        (div_le_div_of_nonneg_right hOrder (f.ulp_pos b).le)
    exact
      mul_le_mul_of_nonneg_right (by exact_mod_cast hMono)
        (f.ulp_pos b).le
  · -- a power of two lies between numbers of two units
    have hPrecision := f.precision_pos
    have hNormal : f.lowest < f.exponent b :=
      lt_of_le_of_lt (le_max_right _ _) hLess
    have hBelow : a ≤ 2 ^ f.exponent b := by
      have hSmall := lt_zpow_of_exponent_lt hLess
      rw [abs_of_pos hPos] at hSmall
      exact hSmall.le
    have hAbove : 2 ^ f.exponent b ≤ b := by
      have hLarge :=
        zpow_le_of_le_exponent hPosB.ne' hNormal le_rfl
      rw [abs_of_pos hPosB] at hLarge
      exact hLarge
    calc
      f.nearest a ≤ 2 ^ f.exponent b :=
        nearest_le_zpow (by omega) hBelow
      _ ≤ f.nearest b := zpow_le_nearest (by omega) hAbove

theorem nearest_mono
    {a b : ℚ}
    (hOrder : a ≤ b) :
    f.nearest a ≤ f.nearest b := by
  rcases lt_or_ge 0 a with hPos | hNonpos
  · exact nearest_mono_of_pos hPos hOrder
  · rcases le_or_gt 0 b with hNonneg | hNegative
    · exact
        le_trans (nearest_nonpos hNonpos)
          (nearest_nonneg hNonneg)
    · have hOpposite :=
        f.nearest_mono_of_pos (neg_pos.mpr hNegative)
          (neg_le_neg hOrder)
      rw [nearest_neg, nearest_neg] at hOpposite
      exact neg_le_neg_iff.mp hOpposite

/- A number with few enough bits is not rounded. -/
theorem nearest_eq_self
    {q : ℚ}
    {k e : Int}
    (hValue : q = k * 2 ^ e)
    (hSmall : |k| < 2 ^ f.precision)
    (hLowest : f.lowest ≤ e + f.precision - 1) :
    f.nearest q = q := by
  by_cases hZero : q = 0
  · rw [hZero, nearest_zero]
  · have hBelow :
        |q| < ((2 : ℕ) : ℚ) ^ (e + f.precision) := by
      have hCast : |(k : ℚ)| < 2 ^ (f.precision : Int) := by
        rw [zpow_natCast]
        exact_mod_cast hSmall
      have hUnit : (0 : ℚ) < 2 ^ e := zpow_pos (by norm_num) e
      push_cast
      rw [hValue, abs_mul, abs_of_pos hUnit,
        add_comm e, zpow_add₀ (by norm_num)]
      exact mul_lt_mul_of_pos_right hCast hUnit
    have hLog :=
      (Int.lt_zpow_iff_log_lt (by norm_num)
        (abs_pos.mpr hZero)).mp hBelow
    have hExponent : f.exponent q ≤ e + f.precision - 1 :=
      max_le (by omega) hLowest
    rcases zpow_eq_mul_ulp
        (by omega : f.exponent q - f.precision + 1 ≤ e) with
      ⟨n, hMultiple⟩
    have hWhole : q = ((k * n : Int) : ℚ) * f.ulp q := by
      push_cast
      rw [mul_assoc, ← hMultiple]
      exact hValue
    have hQuotient : q / f.ulp q = ((k * n : Int) : ℚ) :=
      (div_eq_iff (f.ulp_pos q).ne').mpr hWhole
    unfold nearest
    rw [hQuotient, roundHalfEven_intCast]
    exact hWhole.symm

section Thresholds

variable {k e : Int}

/- The middle below a significand has as many bits. -/
theorem zpow_le_middle
    (hLow : 2 ^ f.precision < 2 * k) :
    (2 : ℚ) ^ ((f.precision : Int) - 1) ≤ k - 1 / 2 := by
  have hInt : (2 : Int) ^ f.precision + 1 ≤ 2 * k := hLow
  have hCast : (2 : ℚ) ^ f.precision + 1 ≤ 2 * k := by
    exact_mod_cast hInt
  rw [zpow_sub_one₀ (by norm_num), zpow_natCast]
  linarith

theorem significand_le_zpow
    (hHigh : k ≤ 2 ^ f.precision) :
    (k : ℚ) ≤ 2 ^ (f.precision : Int) := by
  rw [zpow_natCast]
  exact_mod_cast hHigh

theorem zpow_add_eq_mul (e n : Int) :
    (2 : ℚ) ^ (e + n) = 2 ^ n * 2 ^ e := by
  rw [zpow_add₀ (by norm_num), mul_comm]

/- The middle below an even multiple is rounded up to it. -/
theorem nearest_middle
    (hEven : k % 2 = 0)
    (hLow : 2 ^ f.precision < 2 * k)
    (hHigh : k ≤ 2 ^ f.precision)
    (hNormal : f.lowest ≤ e + f.precision - 1) :
    f.nearest ((k - 1 / 2) * 2 ^ e) = k * 2 ^ e := by
  have hUnit : (0 : ℚ) < 2 ^ e := zpow_pos (by norm_num) e
  have hHalf := zpow_le_middle hLow
  have hWhole := significand_le_zpow hHigh
  have hExponent :
      f.exponent ((k - 1 / 2) * 2 ^ e) =
        e + f.precision - 1 := by
    refine exponent_eq_of_bounds hNormal ?_ ?_
    · rw [add_sub_assoc, zpow_add_eq_mul]
      exact mul_le_mul_of_nonneg_right hHalf hUnit.le
    · rw [sub_add_cancel, zpow_add_eq_mul]
      exact mul_lt_mul_of_pos_right (by linarith) hUnit
  have hTie : roundHalfEven ((k : ℚ) - 1 / 2) = k := by
    rw [roundHalfEven_eq_iff]
    right
    refine ⟨?_, hEven⟩
    rw [sub_sub_cancel_left, abs_neg]
    norm_num
  unfold nearest
  rw [ulp_eq_of_exponent hExponent,
    mul_div_cancel_right₀ _ hUnit.ne', hTie]

/- What is less than the middle is rounded to less. -/
theorem nearest_lt_of_lt_middle
    (hLow : 2 ^ f.precision < 2 * k)
    (hHigh : k ≤ 2 ^ f.precision)
    (hNormal : f.lowest ≤ e + f.precision - 1)
    {q : ℚ}
    (hLess : q < (k - 1 / 2) * 2 ^ e) :
    f.nearest q < k * 2 ^ e := by
  have hPrecision := f.precision_pos
  have hUnit : (0 : ℚ) < 2 ^ e := zpow_pos (by norm_num) e
  have hHalf := zpow_le_middle hLow
  have hPos : (0 : ℚ) < 2 ^ ((f.precision : Int) - 1) :=
    zpow_pos (by norm_num) _
  rcases le_or_gt q 0 with hNonpos | hQ
  · refine lt_of_le_of_lt (nearest_nonpos hNonpos) ?_
    exact mul_pos (by linarith) hUnit
  · rcases lt_trichotomy (f.exponent q)
        (e + f.precision - 1) with
      hSmall | hSame | hLarge
    · have hBelow := lt_zpow_of_exponent_lt hSmall
      rw [abs_of_pos hQ] at hBelow
      refine lt_of_le_of_lt (nearest_le_zpow ?_ hBelow.le) ?_
      · omega
      · rw [add_sub_assoc, zpow_add_eq_mul]
        exact mul_lt_mul_of_pos_right (by linarith) hUnit
    · unfold nearest
      rw [ulp_eq_of_exponent hSame]
      refine mul_lt_mul_of_pos_right ?_ hUnit
      have hNear := roundHalfEven_le (q / 2 ^ e)
      have hQuotient : q / 2 ^ e < k - 1 / 2 :=
        (div_lt_iff₀ hUnit).mpr hLess
      linarith
    · have hReached :=
        zpow_le_of_le_exponent (f := f) (e := e + f.precision)
          hQ.ne' (by omega) (by omega)
      rw [abs_of_pos hQ, zpow_add_eq_mul] at hReached
      have hTop :
          (k : ℚ) * 2 ^ e ≤
            2 ^ (f.precision : Int) * 2 ^ e :=
        mul_le_mul_of_nonneg_right
          (significand_le_zpow hHigh) hUnit.le
      linarith

/-
  A number rounds to less than an even multiple of the unit
  below it exactly if it is less than the middle between this
  multiple and the one before.
-/
theorem nearest_lt_iff
    (hEven : k % 2 = 0)
    (hLow : 2 ^ f.precision < 2 * k)
    (hHigh : k ≤ 2 ^ f.precision)
    (hNormal : f.lowest ≤ e + f.precision - 1)
    (q : ℚ) :
    f.nearest q < k * 2 ^ e ↔ q < (k - 1 / 2) * 2 ^ e := by
  constructor
  · intro hLess
    by_contra hMore
    have hMono := f.nearest_mono (not_lt.mp hMore)
    rw [nearest_middle hEven hLow hHigh hNormal] at hMono
    exact absurd hLess (not_lt.mpr hMono)
  · exact nearest_lt_of_lt_middle hLow hHigh hNormal

end Thresholds

/- Half of the smallest subnormal is rounded to zero. -/
theorem nearest_pos_iff (q : ℚ) :
    0 < f.nearest q ↔ 2 ^ (f.lowest - f.precision) < q := by
  have hScaled : 0 < f.nearest q ↔ f.ulp q / 2 < q := by
    unfold nearest
    rw [mul_pos_iff_of_pos_right (f.ulp_pos q), Int.cast_pos,
      roundHalfEven_pos_iff, lt_div_iff₀ (f.ulp_pos q)]
    constructor
    · intro hHalf
      linarith
    · intro hHalf
      linarith
  have hUlp :
      f.ulp q / 2 = 2 ^ (f.exponent q - f.precision) := by
    unfold ulp
    rw [zpow_add_one₀ (by norm_num)]
    ring
  have hLowest : f.lowest ≤ f.exponent q := le_max_right _ _
  rw [hScaled, hUlp]
  constructor
  · intro hAbove
    refine lt_of_le_of_lt ?_ hAbove
    exact zpow_le_zpow_right₀ (by norm_num) (by omega)
  · intro hAbove
    rcases eq_or_lt_of_le hLowest with hSame | hNormal
    · rw [← hSame]
      exact hAbove
    · have hPos : 0 < q :=
        lt_trans (zpow_pos (by norm_num) _) hAbove
      have hReached :=
        zpow_le_of_le_exponent hPos.ne' hNormal le_rfl
      rw [abs_of_pos hPos] at hReached
      have hPrecision := f.precision_pos
      refine lt_of_lt_of_le ?_ hReached
      exact zpow_lt_zpow_right₀ (by norm_num) (by omega)

end Rounding

------------------------------------------------------------
-- Numbers
------------------------------------------------------------

section Numbers

variable {f : BinaryFormat}

theorem round_finite (q : ℚ) :
    f.round (.finite q) =
      if 2 ^ f.limit ≤ f.nearest q then
        .posInf
      else if f.nearest q ≤ -2 ^ f.limit then
        .negInf
      else
        .finite (f.nearest q) := by
  have hLimit : (0 : ℚ) < 2 ^ f.limit := by positivity
  have hUnfold :
      f.round (.finite q) =
        if 2 ^ f.limit ≤ |f.nearest q| then
          Number.infinityOfSign (q < 0)
        else
          .finite (f.nearest q) := rfl
  rw [hUnfold]
  rcases lt_or_ge q 0 with hNegative | hNonneg
  · have hSign := f.nearest_nonpos hNegative.le
    rw [abs_of_nonpos hSign, decide_eq_true hNegative,
      if_neg (by linarith : ¬ 2 ^ f.limit ≤ f.nearest q)]
    simp only [le_neg]
    rfl
  · have hSign := f.nearest_nonneg hNonneg
    rw [abs_of_nonneg hSign,
      decide_eq_false (not_lt.mpr hNonneg),
      if_neg (by linarith : ¬ f.nearest q ≤ -2 ^ f.limit)]
    rfl

/- Rounding keeps the order. -/
theorem round_le_round
    {a b : Number}
    (hOrder : a.le b = true) :
    (f.round a).le (f.round b) = true := by
  have hTop (q : ℚ) :
      (f.round (.finite q)).le .posInf = true := by
    rw [round_finite]
    split
    · rfl
    · split <;> rfl
  have hBottom (q : ℚ) :
      Number.negInf.le (f.round (.finite q)) = true := by
    rw [round_finite]
    split
    · rfl
    · split <;> rfl
  cases a with
  | finite p =>
      cases b with
      | finite q =>
          have hMono :=
            f.nearest_mono ((Number.le_finite_iff p q).mp hOrder)
          have hOwn := hTop p
          have hOther := hBottom q
          rw [round_finite] at hOwn hOther ⊢
          rw [round_finite q]
          by_cases hLarge : 2 ^ f.limit ≤ f.nearest q
          · rw [if_pos hLarge]
            exact hOwn
          · have hP : ¬ 2 ^ f.limit ≤ f.nearest p :=
              fun hAbove => hLarge (le_trans hAbove hMono)
            by_cases hSmall : f.nearest p ≤ -2 ^ f.limit
            · rw [if_neg hP, if_pos hSmall]
              exact hOther
            · have hQ : ¬ f.nearest q ≤ -2 ^ f.limit :=
                fun hBelow => hSmall (le_trans hMono hBelow)
              rw [if_neg hP, if_neg hSmall, if_neg hLarge,
                if_neg hQ, Number.le_finite_iff]
              exact hMono
      | posInf => exact hTop p
      | negInf => cases hOrder
      | nan => cases hOrder
  | posInf =>
      cases b with
      | posInf => rfl
      | finite q => cases hOrder
      | negInf => cases hOrder
      | nan => cases hOrder
  | negInf =>
      cases b with
      | finite q => exact hBottom q
      | posInf => rfl
      | negInf => rfl
      | nan => cases hOrder
  | nan => cases hOrder

/- What is a number of the format is not rounded. -/
theorem round_eq_self
    {q : ℚ}
    (hSame : f.nearest q = q)
    (hBelow : |q| < 2 ^ f.limit) :
    f.round (.finite q) = .finite q := by
  rw [round_finite, hSame]
  rw [abs_lt] at hBelow
  rw [if_neg (not_le.mpr hBelow.2),
    if_neg (not_le.mpr hBelow.1)]

theorem nearest_natCast
    {n : Nat}
    (hSmall : n < 2 ^ f.precision)
    (hLowest : f.lowest < f.precision) :
    f.nearest (n : ℚ) = n := by
  have hValue : (n : ℚ) = ((n : Int) : ℚ) * 2 ^ (0 : Int) := by
    rw [zpow_zero, mul_one, Int.cast_natCast]
  refine nearest_eq_self hValue ?_ (by omega)
  rw [Nat.abs_cast]
  exact_mod_cast hSmall

/- What rounds to zero is at most half a subnormal. -/
theorem zero_lt_round_iff (x : Number) :
    Number.zero.lt (f.round x) = true ↔
      Number.lt (.finite (2 ^ (f.lowest - f.precision))) x =
        true := by
  cases x with
  | finite q =>
      have hLimit : (0 : ℚ) < 2 ^ f.limit := by positivity
      rw [Number.lt_finite_iff, ← nearest_pos_iff,
        round_finite]
      by_cases hLarge : 2 ^ f.limit ≤ f.nearest q
      · rw [if_pos hLarge]
        exact iff_of_true rfl (lt_of_lt_of_le hLimit hLarge)
      · rw [if_neg hLarge]
        by_cases hSmall : f.nearest q ≤ -2 ^ f.limit
        · rw [if_pos hSmall]
          exact iff_of_false nofun (by linarith)
        · rw [if_neg hSmall]
          exact Number.lt_finite_iff 0 _
  | posInf => exact iff_of_true rfl rfl
  | negInf => exact iff_of_false nofun nofun
  | nan => exact iff_of_false nofun nofun

end Numbers

end BinaryFormat

------------------------------------------------------------
-- Single And Double Precision
------------------------------------------------------------

namespace Number

open BinaryFormat

def toSingle (x : Number) : Number :=
  single.round x

def toDouble (x : Number) : Number :=
  double.round x

theorem toSingle_le_toSingle
    {a b : Number}
    (hOrder : a.le b = true) :
    a.toSingle.le b.toSingle = true :=
  round_le_round hOrder

theorem toDouble_le_toDouble
    {a b : Number}
    (hOrder : a.le b = true) :
    a.toDouble.le b.toDouble = true :=
  round_le_round hOrder

theorem zero_lt_toSingle_iff (x : Number) :
    Number.zero.lt x.toSingle = true ↔
      Number.lt (.finite (1 / 2 ^ 150)) x = true := by
  have hLowest :
      (1 : ℚ) / 2 ^ 150 =
        2 ^ (single.lowest - single.precision) := by
    norm_num [single]
  rw [hLowest]
  exact zero_lt_round_iff x

/- A count of less than 53 bits is a double. -/
theorem toDouble_natCast
    {n : Nat}
    (hSmall : n < 2 ^ 53) :
    toDouble (.finite (n : ℚ)) = .finite (n : ℚ) := by
  have hBits : (n : ℚ) < 2 ^ 53 := by
    exact_mod_cast hSmall
  refine round_eq_self
    (nearest_natCast hSmall (by decide)) ?_
  rw [Nat.abs_cast]
  exact lt_trans hBits (by decide +kernel)

/-
  The sum of two doubles. A double to which zero is added
  stays what it is.
-/
def addDouble (a b : Number) : Number :=
  if b = .zero then
    a
  else
    (a.toDouble.add b.toDouble).toDouble

@[simp] theorem addDouble_zero (x : Number) :
    x.addDouble .zero = x :=
  if_pos rfl

def mulDouble (a b : Number) : Number :=
  (a.mul b).toDouble

def divDouble (a b : Number) : Number :=
  (a.div b).toDouble

end Number

/- One divided by the double next to a tenth is ten. -/
example :
    Number.one.divDouble (.finite (3602879701896397 / 2 ^ 55)) =
      .finite 10 := by
  decide +kernel
