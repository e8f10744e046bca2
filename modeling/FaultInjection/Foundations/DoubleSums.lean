import FaultInjection.Foundations.BinaryFormats
import FaultInjection.Foundations.NumberFolds

/-
  Adding doubles one after the other.

  Each addition is rounded, so in general the result depends
  on the order. It does not if all numbers are multiples of
  one power of two and few enough of them: then no addition
  is rounded, and the result is the sum.

  Key definitions include:
    * `Number.addInTurn`
    * `Number.OnGrid`

  Key theorems include:
    * `Number.addDouble_of_grid`
    * `Number.addInTurn_of_onGrid`
    * `Number.OnGrid.of_perm`
-/

namespace Number

/- The terms are added to the start in their order. -/
def addInTurn (start : Number) (terms : List Number) : Number :=
  terms.foldl addDouble start

/- A multiple of a power of two. -/
def gridPoint (e m : Int) : Number :=
  .finite (m * 2 ^ e)

/-
  Multiples of the power, with less than 53 bits together.
-/
def OnGrid
    (e : Int)
    (start : Number)
    (terms : List Number) : Prop :=
  ∃ (m : Int) (ms : List Int),
    start = gridPoint e m ∧
      terms = ms.map (gridPoint e) ∧
        m.natAbs + (ms.map Int.natAbs).sum < 2 ^ 53

theorem add_gridPoint (e m n : Int) :
    (gridPoint e m).add (gridPoint e n) =
      gridPoint e (m + n) := by
  unfold gridPoint
  rw [add_finite, Int.cast_add, add_mul]

/- A multiple with less than 53 bits is a double. -/
theorem toDouble_gridPoint
    {e m : Int}
    (hLow : -1074 ≤ e)
    (hHigh : e ≤ 971)
    (hSmall : m.natAbs < 2 ^ 53) :
    (gridPoint e m).toDouble = gridPoint e m := by
  have hBits : |m| < 2 ^ BinaryFormat.double.precision := by
    rw [Int.abs_eq_natAbs]
    exact_mod_cast hSmall
  have hLowest :
      BinaryFormat.double.lowest ≤
        e + BinaryFormat.double.precision - 1 := by
    simp only [BinaryFormat.double]
    omega
  refine
    BinaryFormat.round_eq_self
      (BinaryFormat.nearest_eq_self rfl hBits hLowest) ?_
  have hUnit : (0 : ℚ) < 2 ^ e := zpow_pos (by norm_num) e
  have hCast : |(m : ℚ)| < 2 ^ (53 : Int) := by
    rw [zpow_ofNat]
    exact_mod_cast hBits
  have hLimit : (2 : ℚ) ^ (53 + e) ≤ 2 ^ (1024 : Int) :=
    zpow_le_zpow_right₀ (by norm_num) (by omega)
  rw [abs_mul, abs_of_pos hUnit]
  calc
    |(m : ℚ)| * 2 ^ e < 2 ^ (53 : Int) * 2 ^ e :=
      mul_lt_mul_of_pos_right hCast hUnit
    _ = 2 ^ (53 + e) := (zpow_add₀ (by norm_num) _ _).symm
    _ ≤ 2 ^ (1024 : Int) := hLimit

theorem addDouble_of_grid
    {e m n : Int}
    (hLow : -1074 ≤ e)
    (hHigh : e ≤ 971)
    (hSmall : m.natAbs + n.natAbs < 2 ^ 53) :
    (gridPoint e m).addDouble (gridPoint e n) =
      gridPoint e (m + n) := by
  have hSum := Int.natAbs_add_le m n
  unfold addDouble
  split
  · rename_i hZero
    rw [← add_gridPoint, hZero, add_zero]
  · rw [toDouble_gridPoint hLow hHigh (by omega),
      toDouble_gridPoint hLow hHigh (by omega),
      add_gridPoint,
      toDouble_gridPoint hLow hHigh (by omega)]

/- Every partial sum has few enough bits. -/
theorem addInTurn_of_onGrid
    {e : Int}
    (hLow : -1074 ≤ e)
    (hHigh : e ≤ 971)
    {start : Number}
    {terms : List Number}
    (hGrid : OnGrid e start terms) :
    addInTurn start terms = start.add terms.sum := by
  rcases hGrid with ⟨m, ms, hStart, hTerms, hSmall⟩
  rw [hStart, hTerms]
  clear hStart hTerms
  induction ms generalizing m with
  | nil => exact (add_zero _).symm
  | cons n ms ih =>
      rw [List.map_cons, List.sum_cons] at hSmall
      have hSum := Int.natAbs_add_le m n
      have hRest := ih (m + n) (by omega)
      rw [← add_gridPoint] at hRest
      change
        addInTurn ((gridPoint e m).addDouble (gridPoint e n))
            (ms.map (gridPoint e)) =
          _
      rw [addDouble_of_grid hLow hHigh (by omega),
        ← add_gridPoint, hRest, List.map_cons, List.sum_cons]
      exact add_assoc _ _ _

/- The order of the terms does not matter for the bits. -/
theorem OnGrid.of_perm
    {e : Int}
    {start : Number}
    {terms others : List Number}
    (hGrid : OnGrid e start terms)
    (hPerm : others.Perm terms) :
    OnGrid e start others := by
  rcases hGrid with ⟨m, ms, hStart, hTerms, hSmall⟩
  rw [hTerms] at hPerm
  have hPoints :
      Relation.Comp (fun a b => a = b.map (gridPoint e))
        List.Perm others ms := by
    rw [List.eq_map_comp_perm]
    exact hPerm
  rcases hPoints with ⟨ns, hOthers, hSame⟩
  refine ⟨m, ns, hStart, hOthers, ?_⟩
  rw [(hSame.map Int.natAbs).sum_eq]
  exact hSmall

end Number
