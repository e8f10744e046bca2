import FaultInjection.Foundations.Arcs
import FaultInjection.Injectors.SectorLoops

/-
  Which directions a sector covers.

  An angle and the bounds of a sector are brought into one
  turn each, where the direction opposite to zero is both
  -180 and 180. The sector is meant as an arc from its first
  to its last bound.

  Key definitions include:
    * `scanFaultInjector.Normalized`
    * `scanFaultInjector.InSector`
    * `scanFaultInjector.SeamMissed`
    * `scanFaultInjector.ByDirection`

  Key theorems include:
    * `scanFaultInjector.exists_normalized`
    * `scanFaultInjector.angleInSector_iff_onArc`
    * `scanFaultInjector.in_sector_by_direction_iff`
-/

open Arcs

namespace scanFaultInjector

------------------------------------------------------------
-- Normalized Angles
------------------------------------------------------------

/-
  The result of the loops for an angle. Which of -180 and 180
  stands for the direction opposite to zero depends on the
  sign of the angle.
-/
structure Normalized (angle normalized : ℚ) : Prop where
  turns : ∃ j : ℤ, normalized = angle + j * 360
  low : -180 ≤ normalized
  high : normalized ≤ 180
  positive : normalized = 180 → 0 < angle
  negative : normalized = -180 → angle < 0

/- Only an angle above 180 is changed by the first loop. -/
theorem lowering_leaves
    {angle : ℚ}
    {degrees : Number}
    (hLeaves : lowering.Leaves (.finite angle) degrees) :
    ∃ low : ℚ,
      degrees = .finite low ∧ low ≤ 180 ∧
        (∃ j : ℤ, low = angle + j * 360) ∧
          (low = angle ∨ (-180 < low ∧ 180 < angle)) := by
  have hExit :=
    hLeaves.invariant
      (fun degrees => ∃ low : ℚ,
        degrees = .finite low ∧
          (∃ j : ℤ, low = angle + j * 360) ∧
            (low = angle ∨ (-180 < low ∧ 180 < angle)))
      ?_ ⟨angle, rfl, ⟨0, by simp⟩, Or.inl rfl⟩
  · rcases hExit with ⟨⟨low, hFinite, hTurns, hFrom⟩, hFalse⟩
    refine ⟨low, hFinite, ?_, hTurns, hFrom⟩
    rw [hFinite] at hFalse
    by_contra hAbove
    exact absurd
      ((Number.lt_finite_iff 180 low).mpr (not_le.mp hAbove))
      (Bool.eq_false_iff.mp hFalse)
  · rintro degrees hTrue ⟨low, hFinite, ⟨j, hTurns⟩, hFrom⟩
    rw [hFinite] at hTrue
    have hAbove : 180 < low :=
      (Number.lt_finite_iff 180 low).mp hTrue
    refine ⟨low + -360, ?_, ⟨j - 1, ?_⟩, Or.inr ⟨?_, ?_⟩⟩
    · rw [hFinite]
      rfl
    · push_cast
      linarith
    · linarith
    · rcases hFrom with hSame | hPositive
      · linarith
      · exact hPositive.2

/- Only an angle below -180 is changed by the second one. -/
theorem raising_leaves
    {angle : ℚ}
    {degrees : Number}
    (hLeaves : raising.Leaves (.finite angle) degrees) :
    ∃ high : ℚ,
      degrees = .finite high ∧ -180 ≤ high ∧
        (∃ j : ℤ, high = angle + j * 360) ∧
          (high = angle ∨ (high < 180 ∧ angle < -180)) := by
  have hExit :=
    hLeaves.invariant
      (fun degrees => ∃ high : ℚ,
        degrees = .finite high ∧
          (∃ j : ℤ, high = angle + j * 360) ∧
            (high = angle ∨ (high < 180 ∧ angle < -180)))
      ?_ ⟨angle, rfl, ⟨0, by simp⟩, Or.inl rfl⟩
  · rcases hExit with
      ⟨⟨high, hFinite, hTurns, hFrom⟩, hFalse⟩
    refine ⟨high, hFinite, ?_, hTurns, hFrom⟩
    rw [hFinite] at hFalse
    by_contra hBelow
    exact absurd
      ((Number.lt_finite_iff high (-180)).mpr
        (not_le.mp hBelow))
      (Bool.eq_false_iff.mp hFalse)
  · rintro degrees hTrue ⟨high, hFinite, ⟨j, hTurns⟩, hFrom⟩
    rw [hFinite] at hTrue
    have hBelow : high < -180 :=
      (Number.lt_finite_iff high (-180)).mp hTrue
    refine ⟨high + 360, ?_, ⟨j + 1, ?_⟩, Or.inr ⟨?_, ?_⟩⟩
    · rw [hFinite]
      rfl
    · push_cast
      linarith
    · linarith
    · rcases hFrom with hSame | hNegative
      · linarith
      · exact hNegative.2

theorem normalized_of_normalizesTo
    {angle normalized : ℚ}
    (hNormalizes :
      NormalizesTo (.finite angle) (.finite normalized)) :
    Normalized angle normalized := by
  rcases hNormalizes with ⟨degrees, hLowering, hRaising⟩
  rcases lowering_leaves hLowering with
    ⟨low, hFinite, hHigh, ⟨i, hTurns⟩, hLowFrom⟩
  subst hFinite
  rcases raising_leaves hRaising with
    ⟨high, hFinite, hLow, ⟨j, hMore⟩, hHighFrom⟩
  cases hFinite
  refine
    { turns := ⟨i + j, ?_⟩
      low := hLow
      high := ?_
      positive := ?_
      negative := ?_ }
  · push_cast
    linarith
  · rcases hHighFrom with hSame | hRaised
    · linarith
    · linarith
  · intro hSeam
    rcases hHighFrom with hSame | hRaised
    · rcases hLowFrom with hKept | hLowered
      · linarith
      · linarith
    · linarith
  · intro hSeam
    rcases hHighFrom with hSame | hRaised
    · rcases hLowFrom with hKept | hLowered
      · linarith
      · linarith
    · rcases hLowFrom with hKept | hLowered
      · linarith
      · linarith

/- Each angle has one, which the loops compute. -/
theorem exists_normalized (angle : ℚ) :
    ∃ normalized,
      normalizeDegrees (.finite angle) =
          some (.finite normalized) ∧
        Normalized angle normalized := by
  rcases normalizeDegrees_isSome angle with
    ⟨normalized, hSome⟩
  exact
    ⟨normalized, hSome,
      normalized_of_normalizesTo
        (normalizesTo_of_eq_some hSome)⟩

------------------------------------------------------------
-- The Seam
------------------------------------------------------------

/- The direction opposite to zero. -/
def OnSeam (angle : ℚ) : Prop :=
  ∃ j : ℤ, angle = 180 + j * 360

/- The bound becomes -180. -/
def StartsAtSeam (minDeg : ℚ) : Prop :=
  OnSeam minDeg ∧ minDeg < 0

/- The bound becomes 180. -/
def EndsAtSeam (maxDeg : ℚ) : Prop :=
  OnSeam maxDeg ∧ 0 < maxDeg

theorem Normalized.onSeam_iff
    {angle normalized : ℚ}
    (hNormalized : Normalized angle normalized) :
    OnSeam angle ↔ normalized = 180 ∨ normalized = -180 := by
  rcases hNormalized.turns with ⟨j, hTurns⟩
  have hLow := hNormalized.low
  have hHigh := hNormalized.high
  constructor
  · rintro ⟨i, hSeam⟩
    have hSum : normalized = 180 + (i + j) * 360 := by
      rw [hTurns, hSeam]
      ring
    have hAtMost : (i + j : ℚ) ≤ 0 := by linarith
    have hAtLeast : (-1 : ℚ) ≤ i + j := by linarith
    have hTwo : i + j = 0 ∨ i + j = -1 := by
      have hUpper : i + j ≤ 0 := by exact_mod_cast hAtMost
      have hLower : -1 ≤ i + j := by exact_mod_cast hAtLeast
      omega
    rcases hTwo with hNone | hBack
    · left
      rw [hSum, ← Int.cast_add, hNone]
      norm_num
    · right
      rw [hSum, ← Int.cast_add, hBack]
      norm_num
  · rintro (hSeam | hSeam)
    · refine ⟨-j, ?_⟩
      push_cast
      linarith
    · refine ⟨-j - 1, ?_⟩
      push_cast
      linarith

theorem Normalized.startsAtSeam_iff
    {angle normalized : ℚ}
    (hNormalized : Normalized angle normalized) :
    OnSeam angle ∧ angle < 0 ↔ normalized = -180 := by
  constructor
  · rintro ⟨hSeam, hNegative⟩
    rcases hNormalized.onSeam_iff.mp hSeam with hHigh | hLow
    · exact absurd (hNormalized.positive hHigh) (by linarith)
    · exact hLow
  · intro hLow
    exact
      ⟨hNormalized.onSeam_iff.mpr (Or.inr hLow),
        hNormalized.negative hLow⟩

theorem Normalized.endsAtSeam_iff
    {angle normalized : ℚ}
    (hNormalized : Normalized angle normalized) :
    OnSeam angle ∧ 0 < angle ↔ normalized = 180 := by
  constructor
  · rintro ⟨hSeam, hPositive⟩
    rcases hNormalized.onSeam_iff.mp hSeam with hHigh | hLow
    · exact hHigh
    · exact absurd (hNormalized.negative hLow) (by linarith)
  · intro hHigh
    exact
      ⟨hNormalized.onSeam_iff.mpr (Or.inl hHigh),
        hNormalized.positive hHigh⟩

------------------------------------------------------------
-- The Meaning of a Sector
------------------------------------------------------------

theorem turn_pos : (0 : ℚ) < 360 := by
  norm_num

/-
  A sector ends at its last bound, or where the direction of
  this bound is first met if the bound is below the first one.
-/
def SectorEnd (minDeg maxDeg last : ℚ) : Prop :=
  if minDeg ≤ maxDeg then
    last = maxDeg
  else
    IsLeast
      { y | minDeg ≤ y ∧ ∃ j : ℤ, y = maxDeg + j * 360 } last

/- Some angle of this direction is in the sector. -/
def InSector (angle minDeg maxDeg : ℚ) : Prop :=
  ∃ last,
    SectorEnd minDeg maxDeg last ∧
      OnArc 360 minDeg last angle

/- Where the direction of the last bound is first met. -/
noncomputable def firstEnd (minDeg maxDeg : ℚ) : ℚ :=
  toIcoMod turn_pos minDeg maxDeg

/-
  The direction opposite to zero, once as -180 and once as
  180: the angle against one of the two bounds.
-/
def SeamMissed (angle minDeg maxDeg : ℚ) : Prop :=
  OnSeam angle ∧
    ((angle < 0 ∧
        EndsAtSeam maxDeg ∧ ¬ StartsAtSeam minDeg) ∨
      (0 < angle ∧
        StartsAtSeam minDeg ∧ ¬ EndsAtSeam maxDeg))

/-
  What the code needs to answer by direction. Of a sector of
  a turn or more it covers the part that is left without the
  whole turns, or everything between the two seams.
-/
def ByDirection (angle minDeg maxDeg : ℚ) : Prop :=
  ¬ SeamMissed angle minDeg maxDeg ∧
    (maxDeg < minDeg + 360 ∨
      OnArc 360 minDeg (firstEnd minDeg maxDeg) angle ∨
        (StartsAtSeam minDeg ∧ EndsAtSeam maxDeg))

/- The end of a sector is a number of its bound's direction. -/
theorem sectorEnd_spec
    {minDeg maxDeg last : ℚ}
    (hEnd : SectorEnd minDeg maxDeg last) :
    minDeg ≤ last ∧ ∃ j : ℤ, last = maxDeg + j * 360 := by
  unfold SectorEnd at hEnd
  by_cases hOrder : minDeg ≤ maxDeg
  · rw [if_pos hOrder] at hEnd
    rw [hEnd]
    exact ⟨hOrder, 0, by simp⟩
  · rw [if_neg hOrder] at hEnd
    exact hEnd.1

theorem exists_sectorEnd (minDeg maxDeg : ℚ) :
    ∃ last, SectorEnd minDeg maxDeg last := by
  unfold SectorEnd
  by_cases hOrder : minDeg ≤ maxDeg
  · exact ⟨maxDeg, by rw [if_pos hOrder]⟩
  · refine ⟨firstEnd minDeg maxDeg, ?_⟩
    rw [if_neg hOrder]
    exact isLeast_toIcoMod turn_pos minDeg maxDeg

/- A sector of less than a turn ends where it can first. -/
theorem sectorEnd_eq_firstEnd
    {minDeg maxDeg last : ℚ}
    (hShort : maxDeg < minDeg + 360)
    (hEnd : SectorEnd minDeg maxDeg last) :
    last = firstEnd minDeg maxDeg := by
  unfold SectorEnd at hEnd
  by_cases hOrder : minDeg ≤ maxDeg
  · rw [if_pos hOrder] at hEnd
    rw [hEnd]
    exact
      ((toIcoMod_eq_self turn_pos).mpr ⟨hOrder, hShort⟩).symm
  · rw [if_neg hOrder] at hEnd
    exact
      hEnd.unique (isLeast_toIcoMod turn_pos minDeg maxDeg)

theorem inSector_of_short
    {minDeg maxDeg : ℚ}
    (hShort : maxDeg < minDeg + 360)
    (angle : ℚ) :
    InSector angle minDeg maxDeg ↔
      OnArc 360 minDeg (firstEnd minDeg maxDeg) angle := by
  constructor
  · rintro ⟨last, hEnd, hOn⟩
    rw [sectorEnd_eq_firstEnd hShort hEnd] at hOn
    exact hOn
  · intro hOn
    rcases exists_sectorEnd minDeg maxDeg with ⟨last, hEnd⟩
    refine ⟨last, hEnd, ?_⟩
    rw [sectorEnd_eq_firstEnd hShort hEnd]
    exact hOn

/- A sector of a turn or more covers everything. -/
theorem inSector_of_turn
    {minDeg maxDeg : ℚ}
    (hLong : minDeg + 360 ≤ maxDeg)
    (angle : ℚ) :
    InSector angle minDeg maxDeg := by
  have hOrder : minDeg ≤ maxDeg := by linarith
  refine ⟨maxDeg, ?_, onArc_of_turn turn_pos hLong angle⟩
  unfold SectorEnd
  rw [if_pos hOrder]

/- The directions of both bounds are in a sector. -/
theorem inSector_of_start
    {angle minDeg : ℚ}
    (maxDeg : ℚ)
    (hSame : ∃ j : ℤ, angle = minDeg + j * 360) :
    InSector angle minDeg maxDeg := by
  rcases exists_sectorEnd minDeg maxDeg with ⟨last, hEnd⟩
  rcases hSame with ⟨j, hSame⟩
  rw [hSame]
  exact ⟨last, hEnd, onArc_low (sectorEnd_spec hEnd).1 j⟩

theorem inSector_of_end
    {angle maxDeg : ℚ}
    (minDeg : ℚ)
    (hSame : ∃ j : ℤ, angle = maxDeg + j * 360) :
    InSector angle minDeg maxDeg := by
  rcases exists_sectorEnd minDeg maxDeg with ⟨last, hEnd⟩
  rcases sectorEnd_spec hEnd with ⟨hOrder, i, hLast⟩
  rcases hSame with ⟨j, hSame⟩
  have hTurns : angle = last + (j - i : ℤ) * 360 := by
    rw [hSame, hLast]
    push_cast
    ring
  rw [hTurns]
  exact ⟨last, hEnd, onArc_high hOrder (j - i)⟩

theorem OnSeam.turns_between
    {first second : ℚ}
    (hFirst : OnSeam first)
    (hSecond : OnSeam second) :
    ∃ j : ℤ, first = second + j * 360 := by
  rcases hFirst with ⟨i, hFirst⟩
  rcases hSecond with ⟨j, hSecond⟩
  refine ⟨i - j, ?_⟩
  rw [hFirst, hSecond]
  push_cast
  ring

/- A missed direction is that of a bound. -/
theorem inSector_of_seamMissed
    {angle minDeg maxDeg : ℚ}
    (hMissed : SeamMissed angle minDeg maxDeg) :
    InSector angle minDeg maxDeg := by
  rcases hMissed with
    ⟨hSeam, ⟨_, hEnds, _⟩ | ⟨_, hStarts, _⟩⟩
  · exact
      inSector_of_end minDeg (hSeam.turns_between hEnds.1)
  · exact
      inSector_of_start maxDeg
        (hSeam.turns_between hStarts.1)

/- From one seam to a later one is a turn at least. -/
theorem turn_le_of_seams
    {minDeg maxDeg : ℚ}
    (hStarts : StartsAtSeam minDeg)
    (hEnds : EndsAtSeam maxDeg) :
    minDeg + 360 ≤ maxDeg := by
  rcases hEnds.1.turns_between hStarts.1 with ⟨j, hSame⟩
  have hTurns : (0 : ℚ) < j := by
    have hNegative := hStarts.2
    have hPositive := hEnds.2
    linarith
  have hOne : (1 : ℚ) ≤ j := by
    have hPositive : 0 < j := by exact_mod_cast hTurns
    exact_mod_cast hPositive
  linarith

------------------------------------------------------------
-- The Answer of the Code
------------------------------------------------------------

section Answer

variable {angle minDeg maxDeg : ℚ}
variable {a low high : ℚ}

theorem angleInSector_eq_true_iff
    (hAngle :
      normalizeDegrees (.finite angle) = some (.finite a))
    (hMin :
      normalizeDegrees (.finite minDeg) = some (.finite low))
    (hMax :
      normalizeDegrees (.finite maxDeg) =
        some (.finite high)) :
    angleInSector (.finite angle) (.finite minDeg)
        (.finite maxDeg) = some true ↔
      (low ≤ high ∧ low ≤ a ∧ a ≤ high) ∨
        (high < low ∧ (low ≤ a ∨ a ≤ high)) := by
  unfold angleInSector
  rw [hAngle, hMin, hMax]
  simp only [Option.bind_eq_bind, Option.bind_some,
    Number.le_finite_iff]
  by_cases hOrder : low ≤ high
  · rw [if_pos hOrder]
    simp [hOrder]
  · rw [if_neg hOrder]
    have hBelow : high < low := not_le.mp hOrder
    simp [hOrder, hBelow]

/- The first end of a sector within one turn. -/
theorem firstEnd_of_le
    (hOrder : low ≤ high)
    (hShort : high < low + 360) :
    firstEnd low high = high :=
  (toIcoMod_eq_self turn_pos).mpr ⟨hOrder, hShort⟩

theorem firstEnd_of_lt
    (hOrder : high < low)
    (hNear : low ≤ high + 360) :
    firstEnd low high = high + 360 := by
  unfold firstEnd
  rw [← toIcoMod_add_right]
  exact
    (toIcoMod_eq_self turn_pos).mpr ⟨hNear, by linarith⟩

/-
  Between numbers of one turn the comparisons are right unless
  -180 is compared with 180.
-/
theorem comparisons_iff_onArc
    (hA : -180 ≤ a ∧ a ≤ 180)
    (hLow : -180 ≤ low ∧ low ≤ 180)
    (hHigh : -180 ≤ high ∧ high ≤ 180)
    (hAngleStart : ¬ (a = 180 ∧ low = -180))
    (hAngleEnd : ¬ (a = -180 ∧ high = 180))
    (hBounds : ¬ (low = -180 ∧ high = 180)) :
    ((low ≤ high ∧ low ≤ a ∧ a ≤ high) ∨
        (high < low ∧ (low ≤ a ∨ a ≤ high))) ↔
      OnArc 360 low (firstEnd low high) a := by
  have hLowWindow : -180 ≤ low ∧ low ≤ -180 + 360 :=
    ⟨hLow.1, by linarith [hLow.2]⟩
  have hAngleWindow : -180 ≤ a ∧ a ≤ -180 + 360 :=
    ⟨hA.1, by linarith [hA.2]⟩
  have hEndShort : firstEnd low high < low + 360 :=
    toIcoMod_lt_right turn_pos low high
  rw [onArc_iff_of_window turn_pos hLowWindow hAngleWindow
    hEndShort]
  by_cases hOrder : low ≤ high
  · have hShort : high < low + 360 := by
      by_contra hLong
      exact hBounds ⟨by linarith, by linarith⟩
    rw [firstEnd_of_le hOrder hShort]
    constructor
    · rintro (⟨_, hOn⟩ | ⟨hBelow, _⟩)
      · exact Or.inr (Or.inl hOn)
      · linarith
    · rintro (⟨hAbove, _⟩ | hOn | ⟨_, hBelow⟩)
      · exact
          absurd ⟨by linarith, by linarith⟩ hAngleStart
      · exact Or.inl ⟨hOrder, hOn⟩
      · exact absurd ⟨by linarith, by linarith⟩ hAngleEnd
  · have hBelow : high < low := not_le.mp hOrder
    rw [firstEnd_of_lt hBelow (by linarith)]
    constructor
    · rintro (⟨hLe, _⟩ | ⟨_, hAbove | hUnder⟩)
      · exact absurd hLe hOrder
      · exact Or.inr (Or.inl ⟨hAbove, by linarith⟩)
      · exact Or.inr (Or.inr ⟨by linarith, by linarith⟩)
    · rintro (⟨hAbove, _⟩ | ⟨hAbove, _⟩ | ⟨_, hUnder⟩)
      · exact
          absurd ⟨by linarith, by linarith⟩ hAngleStart
      · exact Or.inr ⟨hBelow, Or.inl hAbove⟩
      · exact Or.inr ⟨hBelow, Or.inr (by linarith)⟩

/- The arc is the same before and after the loops. -/
theorem onArc_normalized_iff
    (hAngle : Normalized angle a)
    (hMin : Normalized minDeg low)
    (hMax : Normalized maxDeg high) :
    OnArc 360 low (firstEnd low high) a ↔
      OnArc 360 minDeg (firstEnd minDeg maxDeg) angle := by
  rcases hAngle.turns with ⟨i, hAngle⟩
  rcases hMin.turns with ⟨j, hMin⟩
  rcases hMax.turns with ⟨k, hMax⟩
  have hEnd :
      firstEnd low high =
        firstEnd minDeg maxDeg + j * 360 := by
    unfold firstEnd
    rw [hMin, hMax, ← zsmul_eq_mul, ← zsmul_eq_mul,
      toIcoMod_add_zsmul, toIcoMod_add_zsmul']
  rw [hEnd, hMin, hAngle, onArc_shift, onArc_add_turns]

theorem seamMissed_iff
    (hAngle : Normalized angle a)
    (hMin : Normalized minDeg low)
    (hMax : Normalized maxDeg high) :
    SeamMissed angle minDeg maxDeg ↔
      (a = -180 ∧ high = 180 ∧ low ≠ -180) ∨
        (a = 180 ∧ low = -180 ∧ high ≠ 180) := by
  unfold SeamMissed StartsAtSeam EndsAtSeam
  rw [hMin.startsAtSeam_iff, hMax.endsAtSeam_iff,
    ← hAngle.startsAtSeam_iff, ← hAngle.endsAtSeam_iff]
  tauto

/- The code answers by direction apart from the seam. -/
theorem angleInSector_iff_onArc
    (hSeam : ¬ SeamMissed angle minDeg maxDeg)
    (hBounds : ¬ (StartsAtSeam minDeg ∧ EndsAtSeam maxDeg)) :
    angleInSector (.finite angle) (.finite minDeg)
        (.finite maxDeg) = some true ↔
      OnArc 360 minDeg (firstEnd minDeg maxDeg) angle := by
  rcases exists_normalized angle with ⟨a, hA, hAngle⟩
  rcases exists_normalized minDeg with ⟨low, hLow, hMin⟩
  rcases exists_normalized maxDeg with ⟨high, hHigh, hMax⟩
  unfold StartsAtSeam EndsAtSeam at hBounds
  rw [hMin.startsAtSeam_iff, hMax.endsAtSeam_iff] at hBounds
  rw [seamMissed_iff hAngle hMin hMax] at hSeam
  rw [angleInSector_eq_true_iff hA hLow hHigh,
    ← onArc_normalized_iff hAngle hMin hMax]
  refine
    comparisons_iff_onArc ⟨hAngle.low, hAngle.high⟩
      ⟨hMin.low, hMin.high⟩ ⟨hMax.low, hMax.high⟩ ?_ ?_
      hBounds
  · rintro ⟨hAngleSeam, hStart⟩
    by_cases hEnd : high = 180
    · exact hBounds ⟨hStart, hEnd⟩
    · exact hSeam (Or.inr ⟨hAngleSeam, hStart, hEnd⟩)
  · rintro ⟨hAngleSeam, hEnd⟩
    by_cases hStart : low = -180
    · exact hBounds ⟨hStart, hEnd⟩
    · exact hSeam (Or.inl ⟨hAngleSeam, hEnd, hStart⟩)

/- A missed direction is taken to be outside. -/
theorem angleInSector_of_seamMissed
    (hMissed : SeamMissed angle minDeg maxDeg) :
    angleInSector (.finite angle) (.finite minDeg)
        (.finite maxDeg) ≠ some true := by
  rcases exists_normalized angle with ⟨a, hA, hAngle⟩
  rcases exists_normalized minDeg with ⟨low, hLow, hMin⟩
  rcases exists_normalized maxDeg with ⟨high, hHigh, hMax⟩
  have hBelow := hMin.low
  have hAbove := hMax.high
  rw [seamMissed_iff hAngle hMin hMax] at hMissed
  rw [ne_eq, angleInSector_eq_true_iff hA hLow hHigh]
  rintro (⟨_, hFrom, hTo⟩ | ⟨hOrder, _⟩)
  · rcases hMissed with
      ⟨hAngleSeam, _, hStart⟩ | ⟨hAngleSeam, _, hEnd⟩
    · exact hStart (by linarith)
    · exact hEnd (by linarith)
  · rcases hMissed with ⟨_, hEnd, _⟩ | ⟨_, hStart, _⟩
    · linarith [hMin.high]
    · linarith [hMax.low]

/- From seam to seam the code covers everything. -/
theorem angleInSector_of_seams
    (hStarts : StartsAtSeam minDeg)
    (hEnds : EndsAtSeam maxDeg) :
    angleInSector (.finite angle) (.finite minDeg)
        (.finite maxDeg) = some true := by
  rcases exists_normalized angle with ⟨a, hA, hAngle⟩
  rcases exists_normalized minDeg with ⟨low, hLow, hMin⟩
  rcases exists_normalized maxDeg with ⟨high, hHigh, hMax⟩
  have hStart := hMin.startsAtSeam_iff.mp hStarts
  have hEnd := hMax.endsAtSeam_iff.mp hEnds
  rw [angleInSector_eq_true_iff hA hLow hHigh, hStart, hEnd]
  exact Or.inl ⟨by norm_num, hAngle.low, hAngle.high⟩

/-
  The code says of an angle whether its direction is in the
  sector exactly if the seam does not get in the way and
  nothing is lost with the whole turns of the sector.
-/
theorem in_sector_by_direction_iff
    (angle minDeg maxDeg : ℚ) :
    (angleInSector (.finite angle) (.finite minDeg)
          (.finite maxDeg) = some true ↔
        InSector angle minDeg maxDeg) ↔
      ByDirection angle minDeg maxDeg := by
  unfold ByDirection
  by_cases hMissed : SeamMissed angle minDeg maxDeg
  · have hOutside := angleInSector_of_seamMissed hMissed
    have hInside := inSector_of_seamMissed hMissed
    exact
      iff_of_false (fun hSame => hOutside (hSame.mpr hInside))
        (fun hBy => hBy.1 hMissed)
  · by_cases hSeams :
        StartsAtSeam minDeg ∧ EndsAtSeam maxDeg
    · have hLong := turn_le_of_seams hSeams.1 hSeams.2
      exact
        iff_of_true
          (iff_of_true
            (angleInSector_of_seams hSeams.1 hSeams.2)
            (inSector_of_turn hLong angle))
          ⟨hMissed, Or.inr (Or.inr hSeams)⟩
    · rw [angleInSector_iff_onArc hMissed hSeams]
      by_cases hShort : maxDeg < minDeg + 360
      · exact
          iff_of_true (inSector_of_short hShort angle).symm
            ⟨hMissed, Or.inl hShort⟩
      · have hInside :=
          inSector_of_turn (not_lt.mp hShort) angle
        simp [hInside, hMissed, hSeams, hShort]

end Answer

------------------------------------------------------------
-- A Ray at the Seam
------------------------------------------------------------

namespace RayAtSeam

/-
  The ray at -180 points in the direction of the last bound of
  the sector from 170 to 180, and the code leaves it out.
-/
theorem ray_at_seam_is_left_out :
    ¬ ∀ angle minDeg maxDeg : ℚ,
      angleInSector (.finite angle) (.finite minDeg)
          (.finite maxDeg) = some true ↔
        InSector angle minDeg maxDeg := by
  intro hAll
  have hOutside :
      angleInSector (.finite (-180)) (.finite 170)
        (.finite 180) ≠ some true := by
    decide +kernel
  have hInside : InSector (-180) 170 180 :=
    inSector_of_end 170 ⟨-1, by norm_num⟩
  exact hOutside ((hAll (-180) 170 180).mpr hInside)

end RayAtSeam

end scanFaultInjector
