import FaultInjection.Foundations.WhileLoop
import FaultInjection.Injectors.HashOrderIndependence

/-
  When the loops end that bring the angles of a sector into
  one turn.

  A turn less is no less for an infinity, so an infinite
  bound of a sector or direction of a ray keeps a loop going
  for ever. Both can be infinite: the bounds are not limited
  and the message is not checked.

  Key definitions include:
    * `scanFaultInjector.lowering`
    * `scanFaultInjector.raising`
    * `scanFaultInjector.NormalizesTo`
    * `scanFaultInjector.InfiniteRay`

  Key theorems include:
    * `scanFaultInjector.normalizeDegrees_eq_some_iff`
    * `scanFaultInjector.normalizesTo_iff`
    * `scanFaultInjector.sector_loops_end_iff`
-/

namespace Number

/- One of the two infinities. -/
def isInfinite : Number → Bool
| .posInf => true
| .negInf => true
| _ => false

end Number

namespace scanFaultInjector

------------------------------------------------------------
-- Loops
------------------------------------------------------------

/- Subtract a turn while the angle is above 180. -/
def lowering : WhileLoop Number where
  condition := fun degrees => Number.lt (.finite 180) degrees
  body := fun degrees => degrees.sub (.finite 360)

/- Add a turn while the angle is below -180. -/
def raising : WhileLoop Number where
  condition := fun degrees => degrees.lt (.finite (-180))
  body := fun degrees => degrees.add (.finite 360)

/- The loops end, the first at some angle, with the second. -/
def NormalizesTo (degrees normalized : Number) : Prop :=
  ∃ low,
    lowering.Leaves degrees low ∧
      raising.Leaves low normalized

theorem subtractTurns_eq_run (n : Nat) (degrees : Number) :
    subtractTurns n degrees = lowering.run n degrees := by
  induction n generalizing degrees with
  | zero => rfl
  | succ n ih =>
      unfold subtractTurns WhileLoop.run
      rw [ih]
      rfl

theorem addTurns_eq_run (n : Nat) (degrees : Number) :
    addTurns n degrees = raising.run n degrees := by
  induction n generalizing degrees with
  | zero => rfl
  | succ n ih =>
      unfold addTurns WhileLoop.run
      rw [ih]
      rfl

theorem normalizesTo_of_eq_some
    {degrees normalized : Number}
    (hSome : normalizeDegrees degrees = some normalized) :
    NormalizesTo degrees normalized := by
  rcases Option.bind_eq_some_iff.mp hSome with
    ⟨low, hLow, hHigh⟩
  rw [subtractTurns_eq_run] at hLow
  rw [addTurns_eq_run] at hHigh
  exact
    ⟨low, WhileLoop.leaves_of_run hLow,
      WhileLoop.leaves_of_run hHigh⟩

theorem NormalizesTo.unique
    {degrees first second : Number}
    (hFirst : NormalizesTo degrees first)
    (hSecond : NormalizesTo degrees second) :
    first = second := by
  rcases hFirst with ⟨low, hLow, hFirst⟩
  rcases hSecond with ⟨other, hOther, hSecond⟩
  rw [hOther.unique hLow] at hSecond
  exact hFirst.unique hSecond

/- Infinity is above 180 after any number of turns. -/
theorem not_lowering_posInf (low : Number) :
    ¬ lowering.Leaves .posInf low := by
  refine WhileLoop.not_leaves_of_invariant
    (fun degrees => degrees = .posInf) ?_ ?_ rfl
  · intro degrees hSame
    rw [hSame]
    rfl
  · intro degrees hSame
    rw [hSame]
    rfl

theorem not_raising_negInf (high : Number) :
    ¬ raising.Leaves .negInf high := by
  refine WhileLoop.not_leaves_of_invariant
    (fun degrees => degrees = .negInf) ?_ ?_ rfl
  · intro degrees hSame
    rw [hSame]
    rfl
  · intro degrees hSame
    rw [hSame]
    rfl

/- The loops end exactly for numbers that are not infinite. -/
theorem normalizesTo_iff (degrees : Number) :
    (∃ normalized, NormalizesTo degrees normalized) ↔
      degrees.isInfinite = false := by
  cases degrees with
  | finite q =>
      rcases normalizeDegrees_isSome q with ⟨r, hSome⟩
      exact
        ⟨fun _ => rfl,
          fun _ => ⟨_, normalizesTo_of_eq_some hSome⟩⟩
  | posInf =>
      constructor
      · rintro ⟨_, low, hLow, _⟩
        exact absurd hLow (not_lowering_posInf low)
      · intro hFinite
        cases hFinite
  | negInf =>
      constructor
      · rintro ⟨high, low, hLow, hHigh⟩
        have hSame : low = .negInf :=
          hLow.unique (WhileLoop.Leaves.done rfl)
        rw [hSame] at hHigh
        exact absurd hHigh (not_raising_negInf high)
      · intro hFinite
        cases hFinite
  | nan =>
      refine ⟨fun _ => rfl, fun _ => ⟨.nan, .nan, ?_, ?_⟩⟩
      · exact WhileLoop.Leaves.done rfl
      · exact WhileLoop.Leaves.done rfl

/- The turns that are allowed suffice whenever the loops end. -/
theorem normalizeDegrees_eq_some_iff
    {degrees normalized : Number} :
    normalizeDegrees degrees = some normalized ↔
      NormalizesTo degrees normalized := by
  refine ⟨normalizesTo_of_eq_some, fun hNormalized => ?_⟩
  have hResult :
      ∃ other, normalizeDegrees degrees = some other := by
    have hFinite :=
      (normalizesTo_iff degrees).mp ⟨normalized, hNormalized⟩
    cases degrees with
    | finite q =>
        rcases normalizeDegrees_isSome q with ⟨r, hSome⟩
        exact ⟨_, hSome⟩
    | posInf => cases hFinite
    | negInf => cases hFinite
    | nan => exact ⟨.nan, rfl⟩
  rcases hResult with ⟨other, hOther⟩
  rw [hOther,
    (normalizesTo_of_eq_some hOther).unique hNormalized]

theorem normalizeDegrees_isSome_iff (degrees : Number) :
    (normalizeDegrees degrees).isSome = true ↔
      degrees.isInfinite = false := by
  rw [← normalizesTo_iff, Option.isSome_iff_exists]
  simp only [normalizeDegrees_eq_some_iff]

------------------------------------------------------------
-- Sectors
------------------------------------------------------------

theorem angleInSector_isSome_iff
    (angleDeg minDeg maxDeg : Number) :
    (angleInSector angleDeg minDeg maxDeg).isSome = true ↔
      angleDeg.isInfinite = false ∧
        minDeg.isInfinite = false ∧
          maxDeg.isInfinite = false := by
  rw [← normalizeDegrees_isSome_iff,
    ← normalizeDegrees_isSome_iff,
    ← normalizeDegrees_isSome_iff]
  unfold angleInSector
  cases normalizeDegrees angleDeg with
  | none => simp
  | some angle =>
      cases normalizeDegrees minDeg with
      | none => simp
      | some low =>
          cases normalizeDegrees maxDeg with
          | none => simp
          | some high =>
              simp only [Option.bind_eq_bind,
                Option.bind_some, Option.isSome_some,
                and_self, iff_true]
              by_cases hOrder : low.le high = true
              · rw [if_pos hOrder]
                rfl
              · rw [if_neg hOrder]
                rfl

/- A ray hangs if its direction or a bound is infinite. -/
theorem covers_eq_none_iff
    (msg : LaserScan)
    (index : Nat)
    (sector : Sector) :
    covers msg index sector = none ↔
      (rayDegrees msg index).isInfinite = true ∨
        sector.minDeg.isInfinite = true ∨
          sector.maxDeg.isInfinite = true := by
  unfold covers
  rw [← Option.not_isSome_iff_eq_none,
    angleInSector_isSome_iff]
  simp only [not_and_or, Bool.not_eq_false]

------------------------------------------------------------
-- Rays
------------------------------------------------------------

/- A scan has a ray whose direction is infinite. -/
def InfiniteRay (msg : LaserScan) : Prop :=
  (0 < msg.ranges.length ∧
    msg.angleMin.isInfinite = true ∧
      msg.angleIncrement.isFinite = true) ∨
    (1 < msg.ranges.length ∧
      msg.angleIncrement.isInfinite = true ∧
        msg.angleMin ≠ .nan ∧
          msg.angleMin ≠ msg.angleIncrement.neg)

/- A factor that is not zero keeps infinities. -/
theorem isInfinite_mul_finite
    {q : ℚ}
    (hQ : q ≠ 0)
    (x : Number) :
    (x.mul (.finite q)).isInfinite = x.isInfinite := by
  cases x with
  | finite p => rfl
  | posInf =>
      simp only [Number.mul, if_neg hQ, Number.infinityOfSign]
      split <;> rfl
  | negInf =>
      simp only [Number.mul, if_neg hQ, Number.infinityOfSign]
      split <;> rfl
  | nan => rfl

/- A multiple of an infinity is that infinity, or nothing. -/
theorem finite_mul_infinite
    {x : Number}
    (hInfinite : x.isInfinite = true)
    (index : Nat) :
    (Number.finite (index : ℚ)).mul x =
      if 0 < index then x else .nan := by
  have hNot : ¬ ((index : ℚ) < 0) :=
    not_lt_of_ge (Nat.cast_nonneg index)
  cases index with
  | zero =>
      cases x with
      | finite q => cases hInfinite
      | posInf => rfl
      | negInf => rfl
      | nan => cases hInfinite
  | succ n =>
      have hQ : ((n + 1 : ℕ) : ℚ) ≠ 0 :=
        Nat.cast_ne_zero.mpr (Nat.succ_ne_zero n)
      rw [if_pos (Nat.succ_pos n)]
      cases x with
      | finite q => cases hInfinite
      | posInf =>
          simp only [Number.mul, if_neg hQ,
            decide_eq_false hNot]
          rfl
      | negInf =>
          simp only [Number.mul, if_neg hQ,
            decide_eq_false hNot]
          rfl
      | nan => cases hInfinite

theorem rayDegrees_isInfinite_iff
    (msg : LaserScan)
    (index : Nat) :
    (rayDegrees msg index).isInfinite = true ↔
      (msg.angleMin.isInfinite = true ∧
        msg.angleIncrement.isFinite = true) ∨
        (0 < index ∧
          msg.angleIncrement.isInfinite = true ∧
            msg.angleMin ≠ .nan ∧
              msg.angleMin ≠ msg.angleIncrement.neg) := by
  have hFactor : kRadiansToDegrees ≠ 0 := by
    unfold kRadiansToDegrees Number.mPi
    norm_num
  unfold rayDegrees
  rw [isInfinite_mul_finite hFactor]
  cases hIncrement : msg.angleIncrement with
  | finite q =>
      rw [Number.mul_finite]
      cases msg.angleMin <;>
        simp [Number.add, Number.isInfinite, Number.isFinite]
  | posInf =>
      rw [finite_mul_infinite rfl]
      by_cases hIndex : 0 < index
      · cases msg.angleMin <;>
          simp [Number.add, Number.isInfinite,
            Number.isFinite, Number.neg, hIndex]
      · cases msg.angleMin <;>
          simp [Number.add, Number.isInfinite,
            Number.isFinite, hIndex]
  | negInf =>
      rw [finite_mul_infinite rfl]
      by_cases hIndex : 0 < index
      · cases msg.angleMin <;>
          simp [Number.add, Number.isInfinite,
            Number.isFinite, Number.neg, hIndex]
      · cases msg.angleMin <;>
          simp [Number.add, Number.isInfinite,
            Number.isFinite, hIndex]
  | nan =>
      cases msg.angleMin <;>
        simp [Number.add, Number.mul, Number.isInfinite,
          Number.isFinite]

theorem infiniteRay_iff (msg : LaserScan) :
    (∃ index < msg.ranges.length,
      (rayDegrees msg index).isInfinite = true) ↔
      InfiniteRay msg := by
  simp only [rayDegrees_isInfinite_iff]
  unfold InfiniteRay
  constructor
  · rintro ⟨index, hIndex, hFinite | ⟨hLater, hInfinite⟩⟩
    · exact Or.inl ⟨by omega, hFinite⟩
    · exact Or.inr ⟨by omega, hInfinite⟩
  · rintro (⟨hLength, hFinite⟩ | ⟨hLength, hInfinite⟩)
    · exact ⟨0, hLength, Or.inl hFinite⟩
    · exact ⟨1, hLength, Or.inr ⟨by omega, hInfinite⟩⟩

------------------------------------------------------------
-- The Callback
------------------------------------------------------------

section Callback

variable {injector : FaultInjectorBase}

/- All loops that the sectors of a scan lead to end. -/
def LoopsEnd
    (injector : FaultInjectorBase)
    (msg : LaserScan) : Prop :=
  msg.angleIncrement = .zero ∨
    ∀ sector, ActiveSector injector sector →
      ∀ index < msg.ranges.length,
        (∃ r, NormalizesTo (rayDegrees msg index) r) ∧
          (∃ r, NormalizesTo sector.minDeg r) ∧
            ∃ r, NormalizesTo sector.maxDeg r

/- Nothing that is brought into one turn is infinite. -/
def FiniteAngles
    (injector : FaultInjectorBase)
    (msg : LaserScan) : Prop :=
  msg.angleIncrement = .zero ∨
    msg.ranges = [] ∨
      ∀ sector, ActiveSector injector sector →
        ¬ InfiniteRay msg ∧
          sector.minDeg.isInfinite = false ∧
            sector.maxDeg.isInfinite = false

theorem loopsEnd_iff
    (msg : LaserScan) :
    LoopsEnd injector msg ↔ FiniteAngles injector msg := by
  unfold LoopsEnd FiniteAngles
  simp only [normalizesTo_iff, ← infiniteRay_iff]
  refine or_congr_right ?_
  constructor
  · intro hEnds
    by_cases hRanges : msg.ranges = []
    · exact Or.inl hRanges
    · right
      intro sector hActive
      have hFirst :=
        hEnds sector hActive 0
          (List.length_pos_iff.mpr hRanges)
      refine ⟨?_, hFirst.2⟩
      rintro ⟨index, hIndex, hInfinite⟩
      rw [(hEnds sector hActive index hIndex).1] at hInfinite
      cases hInfinite
  · intro hFinite sector hActive index hIndex
    rcases hFinite with hNone | hFinite
    · rw [hNone] at hIndex
      cases hIndex
    · rcases hFinite sector hActive with ⟨hRays, hBounds⟩
      refine ⟨?_, hBounds⟩
      rw [Bool.eq_false_iff]
      exact fun hInfinite => hRays ⟨index, hIndex, hInfinite⟩

/- The callback returns exactly if all its loops end. -/
theorem applySectorDropout_isSome_iff
    {G : Type}
    (hRegistered : injector.ActiveRegistered)
    (h : HashOrder String)
    (msg : LaserScan)
    (g : G) :
    ((applySectorDropout h injector msg).run g).isSome =
        true ↔
      LoopsEnd injector msg := by
  rw [applySectorDropout_run hRegistered]
  unfold LoopsEnd
  by_cases hZero : msg.angleIncrement = .zero
  · simp [hZero]
  · simp only [hZero, if_false, false_or, normalizesTo_iff]
    by_cases hHang : SectorsHang injector msg
    · rw [replaceSectors_of_hang hHang]
      rcases hHang with ⟨sector, hActive, index, hIndex, hHang⟩
      rw [covers_eq_none_iff] at hHang
      constructor
      · intro hSome
        cases hSome
      · intro hEnds
        have hEnd := hEnds sector hActive index hIndex
        rw [hEnd.1, hEnd.2.1, hEnd.2.2] at hHang
        simp at hHang
    · rw [replaceSectors_of_ends hHang]
      refine iff_of_true rfl ?_
      intro sector hActive index hIndex
      rw [← angleInSector_isSome_iff]
      by_contra hNone
      rw [Option.not_isSome_iff_eq_none] at hNone
      exact hHang ⟨sector, hActive, index, hIndex, hNone⟩

/-
  The sector computation ends exactly if nothing that it
  brings into one turn is infinite.
-/
theorem sector_loops_end_iff
    {G : Type}
    (hRegistered : injector.ActiveRegistered)
    (h : HashOrder String)
    (msg : LaserScan)
    (g : G) :
    (LoopsEnd injector msg ↔ FiniteAngles injector msg) ∧
      (((applySectorDropout h injector msg).run g).isSome =
          true ↔
        FiniteAngles injector msg) := by
  refine ⟨loopsEnd_iff msg, ?_⟩
  rw [applySectorDropout_isSome_iff hRegistered,
    loopsEnd_iff msg]

end Callback

------------------------------------------------------------
-- An Infinite Sector
------------------------------------------------------------

namespace InfiniteSector

/- A fault with a sector that starts at infinity. -/
def fault : FaultConfig :=
  { id := "blind"
    injectorId := "lidar"
    config :=
      (UnorderedMap.empty.insert "sector_min_deg"
        "inf").insert "sector_max_deg" "20" }

def injector : FaultInjectorBase :=
  let created : FaultInjectorBase :=
    { config := { id := "lidar", type := "scan" } }
  (created.addFault fault).activateFault "blind"

def msg : LaserScan :=
  { angleIncrement := .one, ranges := [.one] }

theorem activeRegistered : injector.ActiveRegistered :=
  ((FaultInjectorBase.activeRegistered_new _).addFault
    _).setActive _ _

/- The schema of scans accepts both bounds of the sector. -/
def accepted (key text : String) : Bool :=
  (findSchemaField staticConfigSchema key).any fun field =>
    (validateConfigValue field text).isNone

/- Accepted bounds keep the callback in a loop. -/
theorem accepted_sector_hangs :
    accepted "sector_min_deg" "inf" = true ∧
      accepted "sector_max_deg" "20" = true ∧
        ((applySectorDropout .insertion injector msg).run
          ()).isSome = false := by
  refine ⟨?_, ?_, ?_⟩
  · decide +kernel
  · decide +kernel
  · decide +kernel

/- The exact condition at the two bounds. -/
theorem sector_loops_end_iff_of_infinite :
    ((applySectorDropout .insertion injector msg).run
        ()).isSome = true ↔
      FiniteAngles injector msg :=
  (sector_loops_end_iff activeRegistered .insertion msg ()).2

end InfiniteSector

end scanFaultInjector
