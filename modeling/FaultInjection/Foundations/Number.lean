import Mathlib.Data.Rat.Cast.Order
import Mathlib.Data.Rat.Floor
import Mathlib.Algebra.Order.Ring.Rat

/-
  Numbers with infinities and a not-a-number value.

  A finite value is exact, so neither rounding nor overflow of
  a finite result occurs. It is a rational number unless
  another type is given. Every comparison with not-a-number
  is false.

  Key definitions include:
    * `Number`
    * `Number.lt`
    * `Number.le`
    * `Number.mul`
    * `Number.div`
    * `Number.max`
    * `Number.clamp`

  Key theorems include:
    * `Number.lt_finite_iff`
    * `Number.le_finite_iff`
    * `Number.isFinite_iff`
-/

------------------------------------------------------------
-- Values
------------------------------------------------------------

inductive Number (K : Type := ℚ) where
| finite : K → Number K
| posInf : Number K
| negInf : Number K
| nan : Number K
deriving DecidableEq

namespace Number

variable {K : Type}

/- The number zero. -/
def zero [Zero K] : Number K := .finite 0

/- The number one. -/
def one [One K] : Number K := .finite 1

/- The double next to the circle number. -/
def mPi : ℚ := 884279719003555 / 2 ^ 48

/- Neither an infinity nor not-a-number. -/
def isFinite : Number K → Bool
| .finite _ => true
| _ => false

/- A rational value as one of another type. -/
def cast [RatCast K] : Number → Number K
| .finite q => .finite (q : K)
| .posInf => .posInf
| .negInf => .negInf
| .nan => .nan

/- The sign of a value that is not not-a-number. -/
def isNegative [Zero K] [LT K] [DecidableLT K] :
    Number K → Bool
| .finite q => q < 0
| .negInf => true
| _ => false

end Number

------------------------------------------------------------
-- Comparisons
------------------------------------------------------------

namespace Number

variable {K : Type}

/- Strictly less. -/
def lt [LT K] [DecidableLT K] : Number K → Number K → Bool
| .finite a, .finite b => a < b
| .finite _, .posInf => true
| .negInf, .finite _ => true
| .negInf, .posInf => true
| _, _ => false

/- Less or equal. -/
def le [LE K] [DecidableLE K] : Number K → Number K → Bool
| .finite a, .finite b => a ≤ b
| .finite _, .posInf => true
| .negInf, .finite _ => true
| .negInf, .posInf => true
| .posInf, .posInf => true
| .negInf, .negInf => true
| _, _ => false

@[simp] theorem lt_finite_iff
    [LT K]
    [DecidableLT K]
    (a b : K) :
    lt (.finite a) (.finite b) = true ↔ a < b := by
  simp [lt]

@[simp] theorem le_finite_iff
    [LE K]
    [DecidableLE K]
    (a b : K) :
    le (.finite a) (.finite b) = true ↔ a ≤ b := by
  simp [le]

theorem isFinite_iff (x : Number K) :
    x.isFinite = true ↔ ∃ q, x = .finite q := by
  cases x <;> simp [isFinite]

@[simp] theorem lt_self
    [Preorder K]
    [DecidableLT K]
    (x : Number K) :
    lt x x = false := by
  cases x with
  | finite q => simp [lt]
  | posInf => rfl
  | negInf => rfl
  | nan => rfl

@[simp] theorem zero_le_zero
    [Zero K]
    [Preorder K]
    [DecidableLE K] :
    le (zero : Number K) zero = true := by
  simp [zero]

/- Not-a-number is less than nothing. -/
@[simp] theorem lt_nan_left
    [LT K]
    [DecidableLT K]
    (x : Number K) :
    lt .nan x = false := by
  cases x <;> rfl

/- Nothing is less than not-a-number. -/
@[simp] theorem lt_nan_right
    [LT K]
    [DecidableLT K]
    (x : Number K) :
    lt x .nan = false := by
  cases x <;> rfl

end Number

------------------------------------------------------------
-- Arithmetic
------------------------------------------------------------

namespace Number

variable {K : Type}

/- Negation. -/
def neg [Neg K] : Number K → Number K
| .finite q => .finite (-q)
| .posInf => .negInf
| .negInf => .posInf
| .nan => .nan

/- Absolute value. -/
def abs [Lattice K] [AddGroup K] : Number K → Number K
| .finite q => .finite |q|
| .posInf => .posInf
| .negInf => .posInf
| .nan => .nan

/- Sum; opposite infinities give not-a-number. -/
def add [Add K] : Number K → Number K → Number K
| .nan, _ => .nan
| _, .nan => .nan
| .posInf, .negInf => .nan
| .negInf, .posInf => .nan
| .posInf, _ => .posInf
| _, .posInf => .posInf
| .negInf, _ => .negInf
| _, .negInf => .negInf
| .finite a, .finite b => .finite (a + b)

/- Difference. -/
def sub [Add K] [Neg K] (a b : Number K) : Number K :=
  add a (neg b)

/- An infinity with the sign of a product. -/
def infinityOfSign (negative : Bool) : Number K :=
  if negative then .negInf else .posInf

section Products

variable [Zero K]
variable [LT K]
variable [DecidableLT K]
variable [DecidableEq K]

/- Product; zero times an infinity gives not-a-number. -/
def mul [Mul K] : Number K → Number K → Number K
| .nan, _ => .nan
| _, .nan => .nan
| .finite a, .finite b => .finite (a * b)
| .finite a, b =>
    if a = 0 then
      .nan
    else
      infinityOfSign (xor (decide (a < 0)) b.isNegative)
| a, .finite b =>
    if b = 0 then
      .nan
    else
      infinityOfSign (xor a.isNegative (decide (b < 0)))
| a, b => infinityOfSign (xor a.isNegative b.isNegative)

/-
  Quotient. A zero divisor has no sign, so it gives the sign
  of the dividend, and not-a-number for zero.
-/
def div [Div K] : Number K → Number K → Number K
| .nan, _ => .nan
| _, .nan => .nan
| .finite a, .finite b =>
    if b = 0 then
      if a = 0 then .nan else infinityOfSign (decide (a < 0))
    else
      .finite (a / b)
| .finite _, _ => .finite 0
| a, .finite b =>
    infinityOfSign (xor a.isNegative (decide (b < 0)))
| _, _ => .nan

end Products

section Choices

variable [LT K]
variable [DecidableLT K]

/- The larger number, the first one where none is larger. -/
def max (a b : Number K) : Number K :=
  if lt a b then b else a

/- The smaller number, the first one where none is smaller. -/
def min (a b : Number K) : Number K :=
  if lt b a then b else a

/- The nearest number between two bounds. -/
def clamp (value low high : Number K) : Number K :=
  if lt value low then
    low
  else if lt high value then
    high
  else
    value

end Choices

@[simp] theorem add_finite
    [Add K]
    (a b : K) :
    add (.finite a) (.finite b) = .finite (a + b) := rfl

@[simp] theorem mul_finite
    [Zero K]
    [LT K]
    [DecidableLT K]
    [DecidableEq K]
    [Mul K]
    (a b : K) :
    mul (.finite a) (.finite b) = .finite (a * b) := rfl

@[simp] theorem cast_finite
    [RatCast K]
    (q : ℚ) :
    (finite q).cast = .finite (q : K) := rfl

@[simp] theorem add_zero
    [AddZeroClass K]
    (x : Number K) :
    x.add .zero = x := by
  cases x with
  | finite q => simp [zero]
  | posInf => rfl
  | negInf => rfl
  | nan => rfl

section Ordered

variable [Field K]
variable [LinearOrder K]

@[simp] theorem mul_one
    [IsStrictOrderedRing K]
    (x : Number K) :
    x.mul .one = x := by
  cases x with
  | finite q => simp [one]
  | posInf => simp [one, mul, isNegative, infinityOfSign]
  | negInf => simp [one, mul, isNegative, infinityOfSign]
  | nan => rfl

@[simp] theorem cast_le_cast
    [IsStrictOrderedRing K]
    (a b : Number) :
    (a.cast : Number K).le b.cast = a.le b := by
  cases a with
  | finite p =>
      cases b with
      | finite q => simp [cast, le]
      | posInf => rfl
      | negInf => rfl
      | nan => rfl
  | posInf => cases b <;> rfl
  | negInf => cases b <;> rfl
  | nan => cases b <;> rfl

theorem zero_max_finite (q : K) :
    zero.max (.finite q) = .finite (Max.max 0 q) := by
  unfold max
  by_cases hPos : 0 < q
  · rw [if_pos (by simpa [zero] using hPos),
      max_eq_right hPos.le]
  · rw [if_neg (by simpa [zero] using hPos),
      max_eq_left (not_lt.mp hPos)]
    rfl

theorem mul_posInf_of_ne_zero
    {x : K}
    (hNonzero : x ≠ 0) :
    (finite x).mul .posInf = .posInf ∨
      (finite x).mul .posInf = .negInf := by
  have hUnfold :
      (finite x).mul .posInf =
        infinityOfSign (xor (decide (x < 0)) false) :=
    if_neg hNonzero
  rw [hUnfold]
  by_cases hNegative : x < 0
  · simp [hNegative, infinityOfSign]
  · simp [hNegative, infinityOfSign]

theorem mul_posInf_ne_finite (x y : K) :
    (finite x).mul .posInf ≠ .finite y := by
  by_cases hZero : x = 0
  · have hNan : (finite x).mul .posInf = .nan :=
      if_pos hZero
    rw [hNan]
    exact nofun
  · rcases mul_posInf_of_ne_zero hZero with hInf | hInf
    · rw [hInf]
      exact nofun
    · rw [hInf]
      exact nofun

theorem eq_zero_of_mul_posInf
    {x : K}
    (hNan : (finite x).mul .posInf = .nan) :
    x = 0 := by
  by_contra hNonzero
  rcases mul_posInf_of_ne_zero hNonzero with hInf | hInf
  · rw [hInf] at hNan
    cases hNan
  · rw [hInf] at hNan
    cases hNan

end Ordered

end Number
