import FaultInjection.Foundations.FixedDraws
import FaultInjection.Foundations.SquareRoot
import FaultInjection.Injectors.AllowedCalls
import FaultInjection.Injectors.DustLoops

/-
  Points that are moved along their rays.

  A point that is moved is finite and keeps its direction, and
  so does a point that is moved again. A point that is lost
  stays lost. Noise moves points along their rays unless it is
  infinite.

  Key definitions include:
    * `pointCloudFaultInjector.OnRay`
    * `pointCloudFaultInjector.Moved`
    * `pointCloudFaultInjector.InDustRange`
    * `pointCloudFaultInjector.Inert`

  Key theorems include:
    * `pointCloudFaultInjector.Moved.trans`
    * `pointCloudFaultInjector.onRay_of_moved`
    * `pointCloudFaultInjector.Limits.meet_iff`
    * `pointCloudFaultInjector.applyPointDropout_inert`
    * `pointCloudFaultInjector.applyRangeNoise_moved`
-/

open FaultInjectorBase

namespace pointCloudFaultInjector

------------------------------------------------------------
-- Rays
------------------------------------------------------------

/- No coordinate is infinite or not a number. -/
def FinitePoint (p : CloudPoint ℝ) : Prop :=
  p.x.isFinite = true ∧ p.y.isFinite = true ∧
    p.z.isFinite = true

/- No coordinate is a number. -/
def Lost (p : CloudPoint ℝ) : Prop :=
  coordinates p = (.nan, .nan, .nan)

/- The point is the other one, scaled from the sensor. -/
def Stretched (p q : CloudPoint ℝ) : Prop :=
  ∃ c : ℝ,
    0 ≤ c ∧
      coordinates q = coordinates (scaled (.finite c) p)

/- Where a point may be after the callback. -/
def OnRay (p q : CloudPoint ℝ) : Prop :=
  Lost q ∨ Stretched p q

/- Dropout loses a point or leaves it as it is. -/
def Dropped (p q : CloudPoint ℝ) : Prop :=
  q = p ∨ Lost q

/- What noise and dust do to a point. -/
def Moved (p q : CloudPoint ℝ) : Prop :=
  q = p ∨ FinitePoint p ∧ Stretched p q

theorem finitePoint_iff (p : CloudPoint ℝ) :
    FinitePoint p ↔
      ∃ x y z : ℝ,
        coordinates p = (.finite x, .finite y, .finite z) := by
  unfold FinitePoint coordinates
  simp only [Number.isFinite_iff, Prod.mk.injEq]
  constructor
  · rintro ⟨⟨x, hX⟩, ⟨y, hY⟩, z, hZ⟩
    exact ⟨x, y, z, hX, hY, hZ⟩
  · rintro ⟨x, y, z, hX, hY, hZ⟩
    exact ⟨⟨x, hX⟩, ⟨y, hY⟩, z, hZ⟩

theorem Lost.not_finitePoint
    {p : CloudPoint ℝ}
    (hLost : Lost p) :
    ¬ FinitePoint p := by
  intro hFinite
  rcases (finitePoint_iff p).mp hFinite with ⟨x, y, z, hSame⟩
  rw [hLost] at hSame
  cases hSame

theorem Stretched.refl (p : CloudPoint ℝ) : Stretched p p := by
  refine ⟨1, zero_le_one, ?_⟩
  unfold coordinates scaled
  change _ = (p.x.mul .one, p.y.mul .one, p.z.mul .one)
  rw [Number.mul_one, Number.mul_one, Number.mul_one]

theorem Stretched.finitePoint
    {p q : CloudPoint ℝ}
    (hStretched : Stretched p q)
    (hFinite : FinitePoint p) :
    FinitePoint q := by
  rcases hStretched with ⟨c, _, hSame⟩
  rcases (finitePoint_iff p).mp hFinite with ⟨x, y, z, hP⟩
  rw [finitePoint_iff]
  refine ⟨x * c, y * c, z * c, ?_⟩
  rw [hSame]
  simp only [coordinates, Prod.mk.injEq] at hP
  simp only [coordinates, scaled, hP, Number.mul_finite]

/- A finite point that is scaled twice is scaled once. -/
theorem Stretched.trans
    {p q r : CloudPoint ℝ}
    (hFirst : Stretched p q)
    (hSecond : Stretched q r)
    (hFinite : FinitePoint p) :
    Stretched p r := by
  rcases hFirst with ⟨c, hC, hQ⟩
  rcases hSecond with ⟨d, hD, hR⟩
  rcases (finitePoint_iff p).mp hFinite with ⟨x, y, z, hP⟩
  refine ⟨c * d, mul_nonneg hC hD, ?_⟩
  simp only [coordinates, scaled, Prod.mk.injEq] at hP hQ hR ⊢
  simp only [hP, hQ, hR, Number.mul_finite, mul_assoc,
    and_self]

/- Moving a moved point moves the point. -/
theorem Moved.trans
    {p q r : CloudPoint ℝ}
    (hFirst : Moved p q)
    (hSecond : Moved q r) :
    Moved p r := by
  rcases hFirst with hSame | ⟨hFinite, hStretched⟩
  · rw [← hSame]
    exact hSecond
  · rcases hSecond with hSame | ⟨_, hAgain⟩
    · rw [hSame]
      exact Or.inr ⟨hFinite, hStretched⟩
    · exact Or.inr ⟨hFinite, hStretched.trans hAgain hFinite⟩

theorem Moved.eq_of_not_finite
    {p q : CloudPoint ℝ}
    (hMoved : Moved p q)
    (hNot : ¬ FinitePoint p) :
    q = p := by
  rcases hMoved with hSame | ⟨hFinite, _⟩
  · exact hSame
  · exact absurd hFinite hNot

/- Dropout and moves leave a point on its ray. -/
theorem onRay_of_moved
    {p q r s : CloudPoint ℝ}
    (hDropped : Dropped p q)
    (hMoved : Moved q r)
    (hSame : coordinates s = coordinates r) :
    OnRay p s := by
  unfold OnRay Lost Stretched
  rw [hSame]
  rcases hDropped with hKept | hLost
  · rw [hKept] at hMoved
    rcases hMoved with hSame | ⟨_, hStretched⟩
    · rw [hSame]
      exact Or.inr (Stretched.refl p)
    · exact Or.inr hStretched
  · rw [hMoved.eq_of_not_finite hLost.not_finitePoint]
    exact Or.inl hLost

------------------------------------------------------------
-- Ranges
------------------------------------------------------------

open Number (sqrt)

/- A point that can be moved is finite, with a range. -/
theorem movableRange_spec
    {p : CloudPoint ℝ}
    {range : Number ℝ}
    (hMovable : movableRange sqrt p = some range) :
    FinitePoint p ∧
      rangeOf sqrt p = range ∧ ¬ range.le epsilon = true := by
  unfold movableRange at hMovable
  split at hMovable
  · cases hMovable
  · rename_i hFinite
    split at hMovable
    · cases hMovable
    · rename_i hLarge
      have hRange := Option.some.inj hMovable
      rw [hRange] at hLarge
      push Not at hFinite
      exact ⟨hFinite, hRange, hLarge⟩

theorem squares_nonneg (x y z : ℝ) :
    0 ≤ x * x + y * y + z * z :=
  add_nonneg
    (add_nonneg (mul_self_nonneg x) (mul_self_nonneg y))
    (mul_self_nonneg z)

/- Exact ranges of finite points are numbers from zero on. -/
theorem rangeOf_finite
    {p : CloudPoint ℝ}
    (hFinite : FinitePoint p) :
    ∃ r : ℝ, 0 ≤ r ∧ rangeOf sqrt p = .finite r := by
  rcases (finitePoint_iff p).mp hFinite with ⟨x, y, z, hP⟩
  simp only [coordinates, Prod.mk.injEq] at hP
  unfold rangeOf
  simp only [hP, Number.mul_finite, Number.add_finite]
  exact
    ⟨_, Real.sqrt_nonneg _,
      Number.sqrt_finite (squares_nonneg x y z)⟩

/- The range of a point that can be moved is above zero. -/
theorem movableRange_pos
    {p : CloudPoint ℝ}
    {range : Number ℝ}
    (hMovable : movableRange sqrt p = some range) :
    ∃ r : ℝ, 0 < r ∧ range = .finite r := by
  rcases movableRange_spec hMovable with
    ⟨hFinite, hRange, hLarge⟩
  rcases rangeOf_finite hFinite with ⟨r, _, hOwn⟩
  rw [hOwn] at hRange
  rw [← hRange, epsilon, Number.le_finite_iff] at hLarge
  have hEpsilon : (0 : ℝ) < 1 / 2 ^ 23 := by positivity
  exact ⟨r, by linarith, hRange.symm⟩

/- The range of a scaled point is the scaled range. -/
theorem rangeOf_scaled
    {p : CloudPoint ℝ}
    (hFinite : FinitePoint p)
    {r c : ℝ}
    (hRange : rangeOf sqrt p = .finite r)
    (hNonneg : 0 ≤ c) :
    rangeOf sqrt (scaled (.finite c) p) =
      .finite (c * r) := by
  rcases (finitePoint_iff p).mp hFinite with ⟨x, y, z, hP⟩
  simp only [coordinates, Prod.mk.injEq] at hP
  unfold rangeOf at hRange ⊢
  simp only [scaled, hP, Number.mul_finite,
    Number.add_finite] at hRange ⊢
  rw [Number.sqrt_finite (squares_nonneg x y z)] at hRange
  have hOut :
      x * c * (x * c) + y * c * (y * c) + z * c * (z * c) =
        c ^ 2 * (x * x + y * y + z * z) := by
    ring
  rw [hOut, Number.sqrt_scale hNonneg (squares_nonneg x y z),
    Number.finite.inj hRange]

/- Noise that is a number moves a point along its ray. -/
theorem noisyPoint_moved
    {p : CloudPoint ℝ}
    {changed : Number → CloudPoint ℝ}
    (hNoisy : noisyPoint sqrt p = some changed)
    {noise : Number}
    (hNoise : noise.isFinite = true) :
    Moved p (changed noise) := by
  rcases Option.map_eq_some_iff.mp hNoisy with
    ⟨range, hMovable, hChanged⟩
  rcases movableRange_pos hMovable with
    ⟨r, hPos, hRange⟩
  rcases (Number.isFinite_iff noise).mp hNoise with
    ⟨n, hNumber⟩
  rw [← hChanged, hRange, hNumber]
  refine Or.inr ⟨(movableRange_spec hMovable).1, ?_⟩
  refine ⟨max 0 (r + n) / r, by positivity, ?_⟩
  have hScale :
      (Number.zero.max
          ((Number.finite r).add (.finite n))).div
          (.finite r) =
        .finite (max 0 (r + n) / r) := by
    rw [Number.add_finite, Number.zero_max_finite]
    exact if_neg hPos.ne'
  simp only [Number.cast_finite, hScale]

/- A dust return is on the ray, at the range that is drawn. -/
theorem dustReturn_stretched
    {p : CloudPoint ℝ}
    {range : Number ℝ}
    (hMovable : movableRange sqrt p = some range)
    {u : ℝ}
    (hNonneg : 0 ≤ u) :
    ∃ c : ℝ,
      0 ≤ c ∧
        (Number.finite u).div range = .finite c ∧
          rangeOf sqrt (scaled (.finite c) p) =
            .finite u := by
  rcases movableRange_spec hMovable with ⟨hFinite, hOwn, _⟩
  rcases movableRange_pos hMovable with
    ⟨r, hPos, hRange⟩
  rw [hRange] at hOwn
  have hScale : 0 ≤ u / r := div_nonneg hNonneg hPos.le
  refine ⟨u / r, hScale, ?_, ?_⟩
  · rw [hRange]
    exact if_neg hPos.ne'
  · rw [rangeOf_scaled hFinite hOwn hScale,
      div_mul_cancel₀ u hPos.ne']

------------------------------------------------------------
-- Dust Ranges
------------------------------------------------------------

section DustRanges

variable {h : HashOrder String}
variable {base : FaultInjectorBase}
variable {minRange maxRange : Number}

/- The range is allowed by every active fault. -/
def InDustRange
    (base : FaultInjectorBase)
    (range : Number ℝ) : Prop :=
  (∀ low, ActiveValue base "dust_min_range" low →
      low.cast.le range = true) ∧
    ∀ high, ActiveValue base "dust_max_range" high →
      range.le high.cast = true

/- No fault has a limit that no range satisfies. -/
def LimitsAreNumbers (base : FaultInjectorBase) : Prop :=
  ¬ ActiveValue base "dust_min_range" .nan ∧
    ¬ ActiveValue base "dust_max_range" .nan

/-
  No upper limit is below a lower one, the defaults of both
  included.
-/
def LimitsMeet (base : FaultInjectorBase) : Prop :=
  (∀ low, ActiveValue base "dust_min_range" low →
      Number.lt (.finite 2) low = false) ∧
    (∀ high, ActiveValue base "dust_max_range" high →
      high.lt (.finite (1 / 5)) = false) ∧
    ∀ low high,
      ActiveValue base "dust_min_range" low →
        ActiveValue base "dust_max_range" high →
          high.lt low = false

/- The limits that the active faults have together. -/
structure Limits
    (h : HashOrder String)
    (base : FaultInjectorBase)
    (minRange maxRange : Number) : Prop where
  low :
    base.activeMaxDouble h "dust_min_range"
        (.finite (1 / 5)) =
      .ok minRange
  high :
    activeMinDouble h base "dust_max_range" (.finite 2) =
      .ok maxRange

theorem Limits.low_spec
    (hLimits : Limits h base minRange maxRange) :
    (minRange = .finite (1 / 5) ∨
        ActiveValue base "dust_min_range" minRange) ∧
      Number.le (.finite (1 / 5)) minRange = true ∧
        ∀ low, ActiveValue base "dust_min_range" low →
          low ≠ .nan → low.le minRange = true :=
  activeMaxDouble_spec hLimits.low nofun

theorem Limits.high_spec
    (hLimits : Limits h base minRange maxRange) :
    (maxRange = .finite 2 ∨
        ActiveValue base "dust_max_range" maxRange) ∧
      maxRange.le (.finite 2) = true ∧
        ∀ high, ActiveValue base "dust_max_range" high →
          high ≠ .nan → maxRange.le high = true :=
  activeMinDouble_spec hLimits.high nofun

/- Limits that are not crossed are numbers from zero on. -/
theorem Limits.finite
    (hLimits : Limits h base minRange maxRange)
    (hOrder : ¬ maxRange.lt minRange = true) :
    ∃ low high : ℚ,
      minRange = .finite low ∧
        maxRange = .finite high ∧ 0 ≤ low ∧ low ≤ high := by
  have hLow := hLimits.low_spec.2.1
  have hHigh := hLimits.high_spec.2.1
  cases minRange with
  | finite low =>
      rw [Number.le_finite_iff] at hLow
      have hNonneg : 0 ≤ low := by linarith
      cases maxRange with
      | finite high =>
          rw [Number.lt_finite_iff, not_lt] at hOrder
          exact ⟨low, high, rfl, rfl, hNonneg, hOrder⟩
      | posInf => cases hHigh
      | negInf => exact absurd rfl hOrder
      | nan => cases hHigh
  | posInf =>
      cases maxRange with
      | finite high => exact absurd rfl hOrder
      | posInf => cases hHigh
      | negInf => exact absurd rfl hOrder
      | nan => cases hHigh
  | negInf => cases hLow
  | nan => cases hLow

theorem Limits.not_lt_low
    (hLimits : Limits h base minRange maxRange)
    {low : Number}
    (hActive : ActiveValue base "dust_min_range" low) :
    minRange.lt low = false := by
  by_cases hNan : low = .nan
  · rw [hNan, Number.lt_nan_right]
  · have hBelow := hLimits.low_spec.2.2 low hActive hNan
    rw [Number.le_iff_not_lt] at hBelow
    exact hBelow.2.2

theorem Limits.not_high_lt
    (hLimits : Limits h base minRange maxRange)
    {high : Number}
    (hActive : ActiveValue base "dust_max_range" high) :
    high.lt maxRange = false := by
  by_cases hNan : high = .nan
  · rw [hNan, Number.lt_nan_left]
  · have hAbove := hLimits.high_spec.2.2 high hActive hNan
    rw [Number.le_iff_not_lt] at hAbove
    exact hAbove.2.2

/- The limits are not crossed if no two of them are. -/
theorem Limits.meet_iff
    (hLimits : Limits h base minRange maxRange) :
    ¬ maxRange.lt minRange = true ↔ LimitsMeet base := by
  have hLow := hLimits.low_spec
  have hHigh := hLimits.high_spec
  rw [Bool.not_eq_true]
  constructor
  · intro hOrder
    have hDefaultLow := hLow.2.1
    have hDefaultHigh := hHigh.2.1
    rw [Number.le_iff_not_lt] at hDefaultLow hDefaultHigh
    have hMin := hDefaultLow.1
    have hMax := hDefaultHigh.2.1
    refine ⟨?_, ?_, ?_⟩
    · intro low hActive
      have hAbove :=
        Number.not_lt_trans hMax hDefaultHigh.2.2 hOrder
      exact
        Number.not_lt_trans hMin hAbove
          (hLimits.not_lt_low hActive)
    · intro high hActive
      have hBelow :=
        Number.not_lt_trans hMin hOrder hDefaultLow.2.2
      exact
        Number.not_lt_trans hMax
          (hLimits.not_high_lt hActive) hBelow
    · intro low high hActiveLow hActiveHigh
      have hBelow :=
        Number.not_lt_trans hMin hOrder
          (hLimits.not_lt_low hActiveLow)
      exact
        Number.not_lt_trans hMax
          (hLimits.not_high_lt hActiveHigh) hBelow
  · rintro ⟨hLows, hHighs, hBoth⟩
    rcases hLow.1 with hMin | hMin
    · rcases hHigh.1 with hMax | hMax
      · rw [hMin, hMax]
        decide +kernel
      · rw [hMin]
        exact hHighs maxRange hMax
    · rcases hHigh.1 with hMax | hMax
      · rw [hMax]
        exact hLows minRange hMin
      · exact hBoth minRange maxRange hMin hMax

/- What is between the limits is in the range of each fault. -/
theorem Limits.inDustRange
    (hLimits : Limits h base minRange maxRange)
    (hNumbers : LimitsAreNumbers base)
    {range : Number ℝ}
    (hLow : minRange.cast.le range = true)
    (hHigh : range.le maxRange.cast = true) :
    InDustRange base range := by
  refine ⟨fun low hActive => ?_, fun high hActive => ?_⟩
  · have hNumber : low ≠ .nan := by
      intro hNan
      rw [hNan] at hActive
      exact hNumbers.1 hActive
    refine Number.le_of_le_of_le ?_ hLow
    rw [Number.cast_le_cast]
    exact hLimits.low_spec.2.2 low hActive hNumber
  · have hNumber : high ≠ .nan := by
      intro hNan
      rw [hNan] at hActive
      exact hNumbers.2 hActive
    refine Number.le_of_le_of_le hHigh ?_
    rw [Number.cast_le_cast]
    exact hLimits.high_spec.2.2 high hActive hNumber

end DustRanges

------------------------------------------------------------
-- Dropout And Noise
------------------------------------------------------------

section Noise

variable {G N : Type}
variable {rand : RandomLibrary G N}
variable {h : HashOrder String}
variable {base : FaultInjectorBase}

/- Noise and dust find no point that they can move. -/
def Inert (msg : PointCloud2 ℝ) : Prop :=
  hasCoordinates msg = true →
    ∀ p ∈ msg.points, movableRange sqrt p = none

/- Some fault drops every point. -/
def DropsAllPoints (base : FaultInjectorBase) : Prop :=
  ∃ probability,
    ActiveValue base "point_dropout_probability"
        probability ∧
      Number.one.le probability = true

theorem movableRange_of_not_finite
    {p : CloudPoint ℝ}
    (hNot : ¬ FinitePoint p) :
    movableRange sqrt p = none := by
  by_contra hMovable
  rcases Option.ne_none_iff_exists'.mp hMovable with
    ⟨range, hRange⟩
  exact hNot (movableRange_spec hRange).1

theorem applyPointDropout_dropped
    (msg : PointCloud2 ℝ) :
    Yields (applyPointDropout rand h base msg) fun out =>
      hasCoordinates out = hasCoordinates msg ∧
        List.Forall₂ Dropped msg.points out.points := by
  have hKept :
      Yields (pure msg : Drawing G (PointCloud2 ℝ)) fun out =>
        hasCoordinates out = hasCoordinates msg ∧
          List.Forall₂ Dropped msg.points out.points :=
    Yields.pure
      ⟨rfl, List.forall₂_same.mpr fun _ _ => Or.inl rfl⟩
  unfold applyPointDropout
  refine Yields.bind (Yields.anything _) fun _ _ => ?_
  refine Yields.ite (fun _ => hKept) fun _ => ?_
  refine Yields.ite (fun _ => hKept) fun _ => ?_
  refine Yields.bind
    (Yields.mapM fun point _ => ?_)
    fun points hPoints => Yields.pure ⟨rfl, hPoints⟩
  unfold dropPoint
  refine Yields.bind (Yields.anything _) fun _ _ => ?_
  refine Yields.ite ?_ ?_
  · intro _
    exact Yields.pure (Or.inr rfl)
  · intro _
    exact Yields.pure (Or.inl rfl)

theorem dropPoint_lost
    (hUnit : rand.UnitDraws)
    {probability : Number}
    (hCertain : Number.one.le probability = true)
    (p : CloudPoint ℝ) :
    Yields (dropPoint rand probability p) Lost := by
  unfold dropPoint
  refine Yields.bind
    (RandomLibrary.bernoulli_yields hUnit probability) ?_
  intro happens hHappens
  refine Yields.ite (fun _ => Yields.pure rfl) ?_
  intro hNot
  exact absurd (hHappens hCertain) hNot

/- A cloud of which all points are dropped is inert. -/
theorem applyPointDropout_inert
    (hUnit : rand.UnitDraws)
    (hAll : DropsAllPoints base)
    (msg : PointCloud2 ℝ) :
    Yields (applyPointDropout rand h base msg)
      Inert := by
  unfold applyPointDropout
  refine Yields.bind
    (Yields.lift fun probability hMax => hMax) ?_
  intro probability hMax
  have hCertain : Number.one.le probability = true := by
    rcases hAll with ⟨own, hActive, hOwn⟩
    refine Number.le_of_le_of_le hOwn ?_
    refine
      (activeMaxDouble_spec hMax (by decide)).2.2 own hActive
        ?_
    rintro rfl
    cases hOwn
  refine Yields.ite ?_ fun _ => Yields.ite ?_ fun _ => ?_
  · intro hZero
    exact
      absurd (Number.le_of_le_of_le hCertain hZero)
        (by decide)
  · intro hNone
    refine Yields.pure fun hCoordinates => ?_
    exact absurd hCoordinates hNone
  · refine Yields.bind
      (Yields.mapM fun point _ =>
        dropPoint_lost hUnit hCertain point) ?_
    intro points hLost
    refine Yields.pure fun _ p hPoint => ?_
    rcases hLost.exists_of_mem_right hPoint with ⟨_, _, hOwn⟩
    exact movableRange_of_not_finite hOwn.not_finitePoint

/- Nothing happens to the points of an inert cloud. -/
theorem applyRangeNoise_inert
    {msg : PointCloud2 ℝ}
    (hInert : Inert msg) :
    Yields (applyRangeNoise rand sqrt h base msg) fun out =>
      out = msg := by
  unfold applyRangeNoise
  refine Yields.bind (Yields.anything _) fun stddev _ => ?_
  refine Yields.ite (fun _ => Yields.pure rfl) fun _ => ?_
  refine Yields.ite (fun _ => Yields.pure rfl) ?_
  intro hCoordinates
  have hNone :
      ∀ p ∈ msg.points, noisyPoint sqrt p = none := by
    intro p hPoint
    have hUnmoved := hInert (not_not.mp hCoordinates) p hPoint
    unfold noisyPoint
    rw [hUnmoved]
    rfl
  rw [RandomLibrary.mapNormal_unchanged rand hNone, pure_bind]
  exact Yields.pure rfl

/- The largest deviation is a number if none is infinite. -/
theorem finite_of_activeMaxDouble
    {key : String}
    {value : Number}
    (hMax : base.activeMaxDouble h key .zero = .ok value)
    (hFinite : ¬ ActiveValue base key .posInf) :
    ∃ q : ℚ, value = .finite q := by
  rcases activeMaxDouble_spec hMax (by decide) with
    ⟨hOwn, hNonneg, _⟩
  cases value with
  | finite q => exact ⟨q, rfl⟩
  | posInf =>
      rcases hOwn with hZero | hActive
      · cases hZero
      · exact absurd hActive hFinite
  | negInf => cases hNonneg
  | nan => cases hNonneg

theorem applyRangeNoise_coordinates
    (msg : PointCloud2 ℝ) :
    Yields (applyRangeNoise rand sqrt h base msg) fun out =>
      hasCoordinates out = hasCoordinates msg := by
  unfold applyRangeNoise
  refine Yields.bind (Yields.anything _) fun _ _ => ?_
  refine Yields.ite (fun _ => Yields.pure rfl) fun _ => ?_
  refine Yields.ite (fun _ => Yields.pure rfl) fun _ => ?_
  refine Yields.bind (Yields.anything _) fun _ _ => ?_
  exact Yields.pure rfl

/- Noise that is not infinite moves points along their rays. -/
theorem applyRangeNoise_moved
    (hFinite :
      ¬ ActiveValue base "range_noise_stddev" .posInf)
    (msg : PointCloud2 ℝ) :
    Yields (applyRangeNoise rand sqrt h base msg) fun out =>
      List.Forall₂ Moved msg.points out.points := by
  have hKept :
      Yields (pure msg : Drawing G (PointCloud2 ℝ)) fun out =>
        List.Forall₂ Moved msg.points out.points :=
    Yields.pure (List.forall₂_same.mpr fun _ _ => Or.inl rfl)
  unfold applyRangeNoise
  refine Yields.bind (Yields.lift fun stddev hMax => hMax) ?_
  intro stddev hMax
  refine Yields.ite (fun _ => hKept) fun _ => ?_
  refine Yields.ite (fun _ => hKept) fun _ => ?_
  have hSample :
      ∀ draw : ℚ,
        ((Number.finite draw).mul stddev).isFinite = true := by
    intro draw
    rcases finite_of_activeMaxDouble hMax hFinite with
      ⟨deviation, hDeviation⟩
    rw [hDeviation, Number.mul_finite]
    rfl
  refine Yields.bind
    (RandomLibrary.mapNormal_yields_of_sample rand
      (V := fun value => value.isFinite = true)
      hSample ?_ ?_ msg.points)
    fun points hPoints => Yields.pure hPoints
  · intro p _
    exact Or.inl rfl
  · intro p changed value hNoisy hValue
    exact noisyPoint_moved hNoisy hValue

end Noise

end pointCloudFaultInjector
