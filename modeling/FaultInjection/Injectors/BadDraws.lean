import FaultInjection.Injectors.CloudPasses

/-
  Draws that move points away from their rays.

  Where a fault asks for infinite noise or for a dust range
  that is not a number, and a point can be moved, a tape of
  draws shows it. So the condition under which the passes keep
  the points on their rays is exact.

  Key definitions include:
    * `pointCloudFaultInjector.HasBadDraws`
    * `pointCloudFaultInjector.ValuesKeepRays`

  Key theorems include:
    * `pointCloudFaultInjector.hasBadDraws_of_infinite`
    * `pointCloudFaultInjector.hasBadDraws_of_nan`
    * `pointCloudFaultInjector.valuesKeepRays_iff`
-/

open FaultInjectorBase
open Number (sqrt)

namespace pointCloudFaultInjector

------------------------------------------------------------
-- Bad Draws
------------------------------------------------------------

section BadDraws

variable {h : HashOrder String}
variable {base : FaultInjectorBase}
variable {msg noisy : PointCloud2 ℝ}
variable {first sample : ℚ}

/- Unless all points are dropped, none of them may be. -/
theorem exists_dropout_run
    (hRead : MaximumRead h base "point_dropout_probability")
    (hSome : ¬ DropsAllPoints base)
    (msg : PointCloud2 ℝ) :
    ∃ first : ℚ,
      0 ≤ first ∧ first < 1 ∧
        ∀ sample, ∃ g,
          (applyPointDropout (fixedDraws first sample) h base
              msg).run g =
            some (msg, 0) := by
  rcases hRead with ⟨probability, hMax⟩
  rcases activeMaxDouble_spec hMax (by decide) with
    ⟨hOwn, hNonneg, _⟩
  unfold applyPointDropout
  rw [hMax]
  by_cases hZero : probability.le .zero = true
  · refine ⟨0, le_rfl, one_pos, fun sample => ⟨0, ?_⟩⟩
    rw [liftM_ok, pure_bind, if_pos hZero]
    rfl
  · have hActive :
        ActiveValue base "point_dropout_probability"
          probability := by
      rcases hOwn with hSame | hActive
      · rw [hSame] at hZero
        exact absurd Number.zero_le_zero hZero
      · exact hActive
    have hBelow : ¬ Number.one.le probability = true :=
      fun hCertain => hSome ⟨probability, hActive, hCertain⟩
    cases probability with
    | finite p =>
        rw [Number.one, Number.le_finite_iff, not_le]
          at hBelow
        rw [Number.zero, Number.le_finite_iff] at hNonneg
        refine ⟨p, hNonneg, hBelow, fun sample => ?_⟩
        rw [liftM_ok, pure_bind, if_neg hZero]
        by_cases hCoordinates : hasCoordinates msg = true
        · refine ⟨msg.points.length, ?_⟩
          have hItem :
              ∀ (point : CloudPoint ℝ) n,
                (dropPoint (fixedDraws p sample) (.finite p)
                    point).run (n + 1) =
                  some (point, n) := by
            intro point n
            unfold dropPoint
            rw [StateT.run_bind,
              fixedDraws.bernoulli_run_succ]
            rfl
          have hPoints :=
            @mapM_run_of_steps ℕ (CloudPoint ℝ) (CloudPoint ℝ) _
              (fun point => point) (fun n => n) hItem
              msg.points
          rw [if_neg (not_not_intro hCoordinates)]
          refine Option.bind_eq_some_iff.mpr ⟨_, hPoints, ?_⟩
          rw [List.map_id']
          rfl
        · refine ⟨0, ?_⟩
          rw [if_pos hCoordinates]
          rfl
    | posInf => exact absurd rfl hBelow
    | negInf => cases hNonneg
    | nan => cases hNonneg

/- What comes after the noise ends if its reads do. -/
theorem exists_passes_of_noise
    {G N : Type}
    {rand : RandomLibrary G N}
    {g g₁ g₂ : G}
    (hRead : PassesRead h base)
    (hCoordinates : hasCoordinates msg = true)
    (hDropout :
      (applyPointDropout rand h base msg).run g =
        some (msg, g₁))
    (hNoise :
      (applyRangeNoise rand sqrt h base msg).run g₁ =
        some (noisy, g₂)) :
    ∃ passes : Passes rand h base msg g,
      passes.noisy = noisy ∧ passes.afterNoise = g₂ := by
  have hNoisy : hasCoordinates noisy = true := by
    rw [applyRangeNoise_coordinates msg _ _ _ hNoise]
    exact hCoordinates
  rcases Option.isSome_iff_exists.mp
      ((isSome_dustReturns_iff hNoisy g₂).mpr hRead.dust) with
    ⟨⟨dusty, g₃⟩, hDust⟩
  rcases Option.isSome_iff_exists.mp
      ((isSome_intensityScale_iff g₃).mpr
        hRead.intensity) with
    ⟨⟨out, g₄⟩, hIntensity⟩
  rcases exists_passes_of_runs hDropout hNoise hDust
      hIntensity with
    ⟨passes, hOwn, hState, _, _⟩
  exact ⟨passes, hOwn, hState⟩

/- A sample that is drawn for every point. -/
theorem applyRangeNoise_run
    {stddev : Number}
    (hMax :
      base.activeMaxDouble h "range_noise_stddev" .zero =
        .ok stddev)
    (hPositive : ¬ stddev.le .zero = true)
    (hCoordinates : hasCoordinates msg = true)
    (g : ℕ) :
    (applyRangeNoise (fixedDraws first sample) sqrt h base
        msg).run g =
      some
        ({ msg with
            points := msg.points.map fun p =>
              (noisyPoint sqrt p).elim p
                (· ((Number.finite sample).mul stddev)) },
          g) := by
  unfold applyRangeNoise
  rw [hMax, liftM_ok, pure_bind, if_neg hPositive,
    if_neg (not_not_intro hCoordinates)]
  exact
    Option.bind_eq_some_iff.mpr
      ⟨_, fixedDraws.mapNormal_run _ _ _ _, rfl⟩

theorem not_finitePoint_infinite
    {p : CloudPoint ℝ}
    {range : Number ℝ}
    (hMovable : movableRange sqrt p = some range) :
    ¬ FinitePoint (scaled .posInf p) := by
  rcases (finitePoint_iff p).mp
      (movableRange_spec hMovable).1 with
    ⟨x, y, z, hP⟩
  simp only [coordinates, Prod.mk.injEq] at hP
  intro hFinite
  rcases (finitePoint_iff _).mp hFinite with ⟨x', _, _, hQ⟩
  simp only [coordinates, scaled, hP, Prod.mk.injEq] at hQ
  exact Number.mul_posInf_ne_finite x x' hQ.1

/- Infinite noise moves a point to no place on its ray. -/
theorem not_onRay_of_infinite
    {p s : CloudPoint ℝ}
    {range : Number ℝ}
    (hMovable : movableRange sqrt p = some range)
    (hFar : coordinates s = coordinates (scaled .posInf p)) :
    ¬ OnRay p s := by
  rcases movableRange_spec hMovable with ⟨hFinite, hOwn, _⟩
  rcases (finitePoint_iff p).mp hFinite with ⟨x, y, z, hP⟩
  simp only [coordinates, Prod.mk.injEq] at hP
  simp only [coordinates, scaled, hP] at hFar
  rintro (hLost | ⟨c, _, hSame⟩)
  · unfold Lost coordinates at hLost
    rw [hLost] at hFar
    simp only [Prod.mk.injEq] at hFar
    have hX := Number.eq_zero_of_mul_posInf hFar.1.symm
    have hY := Number.eq_zero_of_mul_posInf hFar.2.1.symm
    have hZ := Number.eq_zero_of_mul_posInf hFar.2.2.symm
    have hRange : rangeOf sqrt p = .zero := by
      unfold rangeOf
      simp only [hP, hX, hY, hZ, Number.mul_finite,
        Number.add_finite, mul_zero, add_zero]
      exact Number.sqrt_zero
    rcases movableRange_pos hMovable with
      ⟨r, hPos, hNumber⟩
    rw [hRange, hNumber] at hOwn
    cases hOwn
    exact lt_irrefl _ hPos
  · simp only [coordinates, scaled, hP, Number.mul_finite]
      at hSame
    rw [hSame] at hFar
    simp only [Prod.mk.injEq] at hFar
    exact Number.mul_posInf_ne_finite x _ hFar.1.symm

/- A sample above zero of infinite noise is infinite. -/
theorem noisyPoint_infinite
    {p : CloudPoint ℝ}
    {range : Number ℝ}
    (hMovable : movableRange sqrt p = some range) :
    (noisyPoint sqrt p).elim p
        (· ((Number.finite 1).mul .posInf)) =
      scaled .posInf p := by
  rcases movableRange_pos hMovable with
    ⟨r, hPos, hRange⟩
  unfold noisyPoint
  rw [hMovable, hRange]
  have hScale :
      (Number.zero.max
          ((Number.finite r).add
            ((Number.finite (1 : ℚ)).mul .posInf).cast)).div
          (.finite r) =
        .posInf := by
    have hSign : decide (r < 0) = false :=
      decide_eq_false (not_lt.mpr hPos.le)
    have hSample :
        (Number.finite (1 : ℚ)).mul .posInf = .posInf := by
      decide +kernel
    rw [hSample]
    change Number.infinityOfSign (xor false (decide (r < 0))) =
      .posInf
    rw [hSign]
    rfl
  change scaled _ p = _
  rw [hScale]

/- A sample that is zero leaves the point where it is. -/
theorem noisyPoint_zero
    (p : CloudPoint ℝ)
    (deviation : ℚ) :
    (noisyPoint sqrt p).elim p
        (· ((Number.finite 0).mul (.finite deviation))) =
      p := by
  unfold noisyPoint
  cases hMovable : movableRange sqrt p with
  | none => rfl
  | some range =>
      rcases movableRange_pos hMovable with
        ⟨r, hPos, hRange⟩
      have hScale :
          (Number.zero.max
              (range.add
                ((Number.finite (0 : ℚ)).mul
                  (.finite deviation)).cast)).div range =
            .one := by
        rw [hRange, Number.mul_finite, zero_mul,
          Number.cast_finite, Rat.cast_zero,
          Number.add_finite, add_zero, Number.zero_max_finite,
          max_eq_right hPos.le]
        refine (if_neg hPos.ne').trans ?_
        rw [div_self hPos.ne']
        rfl
      change scaled _ p = p
      rw [hScale]
      unfold scaled
      rw [Number.mul_one, Number.mul_one, Number.mul_one]

theorem applyRangeNoise_run_zero
    {deviation : ℚ}
    (hMax :
      base.activeMaxDouble h "range_noise_stddev" .zero =
        .ok (.finite deviation))
    (hCoordinates : hasCoordinates msg = true)
    (g : ℕ) :
    (applyRangeNoise (fixedDraws first 0) sqrt h base
        msg).run g =
      some (msg, g) := by
  by_cases hPositive :
      (Number.finite deviation).le .zero = true
  · unfold applyRangeNoise
    rw [hMax, liftM_ok, pure_bind, if_pos hPositive]
    rfl
  · rw [applyRangeNoise_run hMax hPositive hCoordinates]
    simp only [noisyPoint_zero, List.map_id']

/- At the end of the tape each movable point is converted. -/
theorem conversion_run
    {probability minRange maxRange : Number}
    (hPossible : Number.zero.lt probability = true)
    (p : CloudPoint ℝ) :
    (conversion (fixedDraws first sample) sqrt probability
          minRange maxRange p).run 0 =
      some
        ((movableRange sqrt p).map
            ((((Number.finite 0).mul
              (maxRange.sub minRange)).add minRange).cast.div
              ·),
          0) := by
  unfold conversion
  rw [StateT.run_bind, fixedDraws.bernoulli_run_zero hPossible]
  cases movableRange sqrt p with
  | none => rfl
  | some range => rfl

/- Every movable point is converted, with draws at zero. -/
theorem dustConversions_run
    (hCoordinates : hasCoordinates msg = true)
    (hRead : DustRead h base)
    (hPossible : DustPossible base) :
    ∃ scaleOf : Number ℝ → Number ℝ,
      (dustConversions (fixedDraws first sample) sqrt h base
          msg).run 0 =
        some
          (msg.points.map fun p =>
            (movableRange sqrt p).map scaleOf, 0) := by
  rcases hRead.1 with ⟨probability, hMax⟩
  rcases hRead.2 hPossible.1 with
    ⟨minRange, maxRange, hLimits, hScale⟩
  rcases hScale hPossible.2 with ⟨scale, hScale⟩
  have hPositive :=
    (setsAbove_zero_iff hMax).mp hPossible.1
  refine
    ⟨((((Number.finite 0).mul
        (maxRange.sub minRange)).add minRange).cast.div ·), ?_⟩
  unfold dustConversions
  rw [hMax, liftM_ok, pure_bind,
    if_neg (not_le_zero_of_zero_lt hPositive),
    if_neg (not_not_intro hCoordinates), hLimits.low,
    liftM_ok, pure_bind, hLimits.high, liftM_ok, pure_bind,
    if_neg (hLimits.meet_iff.mpr hPossible.2), hScale,
    liftM_ok, pure_bind]
  exact
    @mapM_run_of_steps ℕ (CloudPoint ℝ) (Option (Number ℝ))
      _ _
      (fun _ => 0)
      (fun p _ => conversion_run hPositive p) msg.points

/- There are draws for which the passes do not keep rays. -/
def HasBadDraws
    (h : HashOrder String)
    (base : FaultInjectorBase)
    (msg : PointCloud2 ℝ) : Prop :=
  ∃ rand : RandomLibrary ℕ Unit,
    rand.UnitDraws ∧
      ∃ g, ∃ passes : Passes rand h base msg g,
        ¬ KeepsRays base msg passes.dropped passes.decisions
            passes.dusty passes.out

theorem exists_movable_of_not_inert
    (hNot : ¬ Inert msg) :
    hasCoordinates msg = true ∧
      ∃ p ∈ msg.points,
        ∃ range, movableRange sqrt p = some range := by
  unfold Inert at hNot
  push Not at hNot
  rcases hNot with ⟨hCoordinates, p, hPoint, hMovable⟩
  exact
    ⟨hCoordinates, p, hPoint,
      Option.ne_none_iff_exists'.mp hMovable⟩

/- The largest deviation is infinite if one of them is. -/
theorem eq_posInf_of_activeMaxDouble
    {key : String}
    {value : Number}
    (hMax : base.activeMaxDouble h key .zero = .ok value)
    (hActive : ActiveValue base key .posInf) :
    value = .posInf := by
  have hBelow :=
    (activeMaxDouble_spec hMax (by decide)).2.2 .posInf hActive
      nofun
  cases value with
  | posInf => rfl
  | finite q => cases hBelow
  | negInf => cases hBelow
  | nan => cases hBelow

/- The points that infinite noise moves are not on their rays. -/
theorem hasBadDraws_of_infinite
    (hRead : PassesRead h base)
    (hMovable : ¬ Inert msg)
    (hSome : ¬ DropsAllPoints base)
    (hInfinite :
      ActiveValue base "range_noise_stddev" .posInf) :
    HasBadDraws h base msg := by
  rcases exists_movable_of_not_inert hMovable with
    ⟨hCoordinates, p, hPoint, range, hRange⟩
  rcases exists_dropout_run hRead.dropout hSome msg with
    ⟨first, hNonneg, hBelow, hRuns⟩
  rcases hRuns 1 with ⟨g, hDropout⟩
  rcases hRead.noise with ⟨stddev, hMax⟩
  have hStddev := eq_posInf_of_activeMaxDouble hMax hInfinite
  rw [hStddev] at hMax
  have hNoise :=
    @applyRangeNoise_run h base msg first 1 .posInf hMax
      (by decide) hCoordinates 0
  rcases exists_passes_of_noise hRead hCoordinates hDropout
      hNoise with
    ⟨passes, hNoisy, _⟩
  refine
    ⟨fixedDraws first 1, fixedDraws.unitDraws hNonneg hBelow,
      g, passes, ?_⟩
  intro hKeeps
  have hFar :
      List.Forall₂
        (fun p q =>
          ∀ range, movableRange sqrt p = some range →
            q = scaled .posInf p)
        msg.points passes.noisy.points := by
    rw [hNoisy, List.forall₂_map_right_iff]
    refine List.forall₂_same.mpr fun p _ range hRange => ?_
    exact noisyPoint_infinite hRange
  have hStays :
      List.Forall₂
        (fun p r =>
          ∀ range, movableRange sqrt p = some range →
            r = scaled .posInf p)
        msg.points passes.dusty.points := by
    refine hFar.comp passes.dusty_unmoved ?_
    intro p q r hFirst hLast range hRange
    have hOwn := hFirst range hRange
    rw [hOwn] at hLast
    exact hLast (not_finitePoint_infinite hRange)
  have hEnd :
      List.Forall₂
        (fun p s =>
          ∀ range, movableRange sqrt p = some range →
            ¬ OnRay p s)
        msg.points passes.out.points := by
    refine hStays.comp passes.out_coordinates ?_
    intro p r s hFirst hLast range hRange
    rw [hFirst range hRange] at hLast
    exact not_onRay_of_infinite hRange hLast
  rcases (hKeeps.onRay.both hEnd).exists_of_mem_left hPoint with
    ⟨s, _, hOnRay, hNot⟩
  exact hNot range hRange hOnRay

/- A movable point is converted to a range that is no limit's. -/
theorem hasBadDraws_of_nan
    (hRead : PassesRead h base)
    (hMovable : ¬ Inert msg)
    (hSome : ¬ DropsAllPoints base)
    (hFinite :
      ¬ ActiveValue base "range_noise_stddev" .posInf)
    (hPossible : DustPossible base)
    (hNan : ¬ LimitsAreNumbers base) :
    HasBadDraws h base msg := by
  rcases exists_movable_of_not_inert hMovable with
    ⟨hCoordinates, p, hPoint, range, hRange⟩
  rcases exists_dropout_run hRead.dropout hSome msg with
    ⟨first, hNonneg, hBelow, hRuns⟩
  rcases hRuns 0 with ⟨g, hDropout⟩
  rcases hRead.noise with ⟨stddev, hMax⟩
  rcases finite_of_activeMaxDouble hMax hFinite with
    ⟨deviation, hStddev⟩
  rw [hStddev] at hMax
  have hNoise :=
    @applyRangeNoise_run_zero h base msg first
      deviation hMax hCoordinates 0
  rcases exists_passes_of_noise hRead hCoordinates hDropout
      hNoise with
    ⟨passes, hNoisy, hState⟩
  refine
    ⟨fixedDraws first 0, fixedDraws.unitDraws hNonneg hBelow,
      g, passes, ?_⟩
  intro hKeeps
  rcases @dustConversions_run h base msg first 0
      hCoordinates hRead.dust hPossible with
    ⟨scaleOf, hRun⟩
  have hConversions := passes.conversions
  rw [hNoisy, hState, hRun] at hConversions
  have hDecisions :
      (msg.points.map fun p =>
          (movableRange sqrt p).map scaleOf) =
        passes.decisions :=
    congrArg Prod.fst (Option.some.inj hConversions)
  have hMember :
      some (scaleOf range) ∈ passes.decisions := by
    rw [← hDecisions]
    refine List.mem_map.mpr ⟨p, hPoint, ?_⟩
    rw [hRange]
    rfl
  rcases hKeeps.inDustRange.exists_of_mem_left hMember with
    ⟨q, _, hConverted⟩
  have hIn := hConverted rfl
  unfold LimitsAreNumbers at hNan
  rw [not_and_or, not_not, not_not] at hNan
  rcases hNan with hLow | hHigh
  · have hNumber := hIn.1 .nan hLow
    rw [Number.le_iff_not_lt] at hNumber
    exact hNumber.2.1 rfl
  · have hNumber := hIn.2 .nan hHigh
    rw [Number.le_iff_not_lt] at hNumber
    exact hNumber.1 rfl

end BadDraws

------------------------------------------------------------
-- Points On Their Rays
------------------------------------------------------------

/- The values stay on their rays, whatever is drawn. -/
def ValuesKeepRays
    (h : HashOrder String)
    (base : FaultInjectorBase)
    (msg : PointCloud2 ℝ) : Prop :=
  ∀ (G N : Type) (rand : RandomLibrary G N),
    rand.UnitDraws →
      ∀ g (passes : Passes rand h base msg g),
        KeepsRays base msg passes.dropped passes.decisions
          passes.dusty passes.out

/-
  The passes over values always keep the points on their rays
  exactly if the active faults ask for no infinite noise and
  for no dust range that is not a number.
-/
theorem valuesKeepRays_iff
    (h : HashOrder String)
    (base : FaultInjectorBase)
    (msg : PointCloud2 ℝ) :
    ValuesKeepRays h base msg ↔ RaysAreSafe h base msg := by
  constructor
  · intro hAll hRead hMovable hSome
    have hNone : ¬ HasBadDraws h base msg := by
      rintro ⟨rand, hUnit, g, passes, hNot⟩
      exact hNot (hAll ℕ Unit rand hUnit g passes)
    have hFinite :
        ¬ ActiveValue base "range_noise_stddev" .posInf :=
      fun hInfinite =>
        hNone
          (hasBadDraws_of_infinite hRead hMovable hSome
            hInfinite)
    refine ⟨hFinite, fun hPossible => ?_⟩
    by_contra hNan
    exact
      hNone
        (hasBadDraws_of_nan hRead hMovable hSome hFinite
          hPossible hNan)
  · intro hSafe G N rand hUnit g passes
    exact keepsRays_of_safe hUnit hSafe passes

end pointCloudFaultInjector
