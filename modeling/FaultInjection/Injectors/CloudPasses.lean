import FaultInjection.Injectors.LibraryPreconditions
import FaultInjection.Injectors.PointRays

/-
  The passes over a point cloud keep its points on their rays.

  The dust pass moves a point to a range that all active
  faults allow. The passes together keep every point on its
  ray if no fault asks for infinite noise or for a dust range
  that is not a number, or if no point can be moved anyway.

  Key definitions include:
    * `pointCloudFaultInjector.DecisionAllowed`
    * `pointCloudFaultInjector.Passes`
    * `pointCloudFaultInjector.KeepsRays`
    * `pointCloudFaultInjector.RaysAreSafe`

  Key theorems include:
    * `pointCloudFaultInjector.dustReturns_sameDraws`
    * `pointCloudFaultInjector.isSome_dustReturns_iff`
    * `pointCloudFaultInjector.keepsRays_of_safe`
-/

open FaultInjectorBase
open Number (sqrt)

namespace pointCloudFaultInjector

------------------------------------------------------------
-- Dust Returns
------------------------------------------------------------

section Dust

variable {G N : Type}
variable {rand : RandomLibrary G N}
variable {h : HashOrder String}
variable {base : FaultInjectorBase}

/- Dust returns are asked for, with limits that meet. -/
def DustPossible (base : FaultInjectorBase) : Prop :=
  SetsAbove base "dust_return_probability" .zero ∧
    LimitsMeet base

/-
  A decision to move the point: the point is finite, and it is
  moved along its ray to an allowed range.
-/
def DecisionAllowed
    (base : FaultInjectorBase)
    (p : CloudPoint ℝ)
    (decision : Option (Number ℝ)) : Prop :=
  ∀ scale, decision = some scale →
    FinitePoint p ∧
      ∃ c : ℝ,
        0 ≤ c ∧
          scale = .finite c ∧
            InDustRange base
              (rangeOf sqrt (scaled (.finite c) p))

theorem conversion_inert
    {p : CloudPoint ℝ}
    (hNone : movableRange sqrt p = none)
    (probability minRange maxRange : Number) :
    Yields
      (conversion rand sqrt probability minRange maxRange p)
      fun decision => decision = none := by
  unfold conversion
  rw [hNone]
  refine Yields.bind (Yields.anything _) fun _ _ => ?_
  exact
    Yields.ite (fun _ => Yields.pure rfl)
      fun _ => Yields.pure rfl

theorem conversion_allowed
    (hUnit : rand.UnitDraws)
    {minRange maxRange : Number}
    (hLimits : Limits h base minRange maxRange)
    (hOrder : ¬ maxRange.lt minRange = true)
    (hNumbers : LimitsAreNumbers base)
    (probability : Number)
    (p : CloudPoint ℝ) :
    Yields
      (conversion rand sqrt probability minRange maxRange p)
      (DecisionAllowed base p) := by
  have hNothing : DecisionAllowed base p none := by
    intro scale hSome
    cases hSome
  rcases hLimits.finite hOrder with
    ⟨low, high, hLow, hHigh, hNonneg, hBetween⟩
  unfold conversion
  refine Yields.bind (Yields.anything _) fun _ _ => ?_
  refine Yields.ite (fun _ => Yields.pure hNothing) ?_
  intro _
  cases hMovable : movableRange sqrt p with
  | none => exact Yields.pure hNothing
  | some range =>
      simp only
      rw [hLow, hHigh]
      refine Yields.bind
        (RandomLibrary.uniform_yields hUnit hBetween) ?_
      rintro drawn ⟨u, hDrawn, hAbove, hBelow⟩
      have hDraw : (0 : ℝ) ≤ u :=
        Rat.cast_nonneg.mpr (le_trans hNonneg hAbove)
      rcases dustReturn_stretched hMovable hDraw with
        ⟨c, hC, hScale, hRange⟩
      refine Yields.pure ?_
      intro scale hSome
      cases hSome
      refine ⟨(movableRange_spec hMovable).1, c, hC, ?_, ?_⟩
      · rw [hDrawn, Number.cast_finite, hScale]
      · rw [hRange]
        refine hLimits.inDustRange hNumbers ?_ ?_
        · rw [hLow, Number.cast_finite, Number.le_finite_iff]
          exact Rat.cast_le.mpr hAbove
        · rw [hHigh, Number.cast_finite, Number.le_finite_iff]
          exact Rat.cast_le.mpr hBelow

/- Each decision is allowed for its point. -/
def AllAllowed
    (base : FaultInjectorBase)
    (msg : PointCloud2 ℝ)
    (decisions : List (Option (Number ℝ))) : Prop :=
  List.Forall₂ (DecisionAllowed base) msg.points
    decisions

/- Nothing is decided for a point that cannot be moved. -/
theorem dustConversions_unmovable
    (msg : PointCloud2 ℝ) :
    Yields (dustConversions rand sqrt h base msg)
      fun decisions =>
        List.Forall₂
          (fun p decision =>
            (hasCoordinates msg = true →
                movableRange sqrt p = none) →
              decision = none)
          msg.points decisions := by
  have hNothing :
      Yields
        (pure (msg.points.map fun _ => none) :
          Drawing G (List (Option (Number ℝ))))
        fun decisions =>
          List.Forall₂
            (fun p decision =>
              (hasCoordinates msg = true →
                  movableRange sqrt p = none) →
                decision = none)
            msg.points decisions := by
    refine Yields.pure ?_
    rw [List.forall₂_map_right_iff]
    exact List.forall₂_same.mpr fun _ _ _ => rfl
  unfold dustConversions
  refine Yields.bind (Yields.anything _) fun _ _ => ?_
  refine Yields.ite (fun _ => hNothing) fun _ => ?_
  refine Yields.ite (fun _ => hNothing) ?_
  intro hCoordinates
  refine Yields.bind (Yields.anything _) fun _ _ => ?_
  refine Yields.bind (Yields.anything _) fun _ _ => ?_
  refine Yields.ite (fun _ => hNothing) fun _ => ?_
  refine Yields.bind (Yields.anything _) fun _ _ => ?_
  refine Yields.mapM fun p _ => ?_
  by_cases hNone : movableRange sqrt p = none
  · refine (conversion_inert hNone _ _ _).imp ?_
    exact fun decision hDecision _ => hDecision
  · refine (Yields.anything _).imp ?_
    intro decision _ hUnmovable
    exact
      absurd (hUnmovable (not_not.mp hCoordinates)) hNone

theorem dustConversions_allowed
    (hUnit : rand.UnitDraws)
    (hNumbers : DustPossible base → LimitsAreNumbers base)
    (msg : PointCloud2 ℝ) :
    Yields (dustConversions rand sqrt h base msg)
      (AllAllowed base msg) := by
  have hNothing :
      Yields
        (pure (msg.points.map fun _ => none) :
          Drawing G (List (Option (Number ℝ))))
        (AllAllowed base msg) := by
    refine Yields.pure ?_
    unfold AllAllowed
    rw [List.forall₂_map_right_iff]
    refine List.forall₂_same.mpr fun p _ scale hSome => ?_
    cases hSome
  unfold dustConversions
  refine Yields.bind
    (Yields.lift fun probability hMax => hMax) ?_
  intro probability hMax
  refine Yields.ite (fun _ => hNothing) fun hPositive => ?_
  refine Yields.ite (fun _ => hNothing) fun _ => ?_
  refine Yields.bind
    (Yields.lift fun minRange hMin => hMin) ?_
  intro minRange hMin
  refine Yields.bind
    (Yields.lift fun maxRange hMax => hMax) ?_
  intro maxRange hMaxRange
  refine Yields.ite (fun _ => hNothing) fun hOrder => ?_
  refine Yields.bind (Yields.anything _) fun _ _ => ?_
  have hLimits : Limits h base minRange maxRange :=
    ⟨hMin, hMaxRange⟩
  have hAsked :
      SetsAbove base "dust_return_probability" .zero :=
    (setsAbove_zero_iff hMax).mpr
      (zero_lt_of_not_le_zero hMax hPositive)
  have hPossible : DustPossible base :=
    ⟨hAsked, hLimits.meet_iff.mp hOrder⟩
  refine Yields.mapM fun p _ => ?_
  exact
    conversion_allowed hUnit hLimits hOrder
      (hNumbers hPossible) probability p

/- The same cloud with a field for intensities. -/
def addIntensity (msg : PointCloud2 ℝ) : PointCloud2 ℝ :=
  { msg with
    fields :=
      { name := "intensity"
        datatype := PointField.float32 } :: msg.fields }

theorem withoutIntensity_addIntensity
    {msg : PointCloud2 ℝ}
    (hNone : hasFloat32Field msg "intensity" = false) :
    WithoutIntensity (addIntensity msg) msg where
  intensity := by
    unfold addIntensity hasFloat32Field
    simp
  noIntensity := hNone
  fields := by
    unfold hasCoordinates addIntensity hasFloat32Field
    simp
  points := rfl

/-
  The dust pass moves the points by the decisions. For the
  coordinates it does not matter what it does to intensities.
-/
theorem dustReturns_sameDraws
    (msg : PointCloud2 ℝ) :
    SameDraws (applyDustReturns rand sqrt h base msg)
      (dustConversions rand sqrt h base msg)
      fun out decisions =>
        ∃ dim,
          out =
            { msg with
              points :=
                List.zipWith (converted dim) msg.points
                  decisions } := by
  by_cases hIntensity :
      hasFloat32Field msg "intensity" = true
  · refine
      (dustReturns_with_intensity rand sqrt h base
        hIntensity).imp ?_
    rintro out decisions ⟨_, scale, _, hOut⟩
    exact ⟨_, hOut⟩
  · have hTwins :=
      withoutIntensity_addIntensity
        (Bool.eq_false_iff.mpr hIntensity)
    have hSame :
        dustConversions rand sqrt h base (addIntensity msg) =
          dustConversions rand sqrt h base msg := by
      unfold dustConversions
      rw [← hTwins.fields]
      rfl
    rw [← hSame]
    refine
      (dustReturns_without_intensity rand sqrt h base
        hTwins).imp ?_
    intro out decisions hOut
    exact ⟨id, hOut⟩

theorem converted_moved
    {p : CloudPoint ℝ}
    {decision : Option (Number ℝ)}
    (hAllowed : DecisionAllowed base p decision)
    (dim : Number ℝ → Number ℝ) :
    Moved p (converted dim p decision) := by
  cases decision with
  | none => exact Or.inl rfl
  | some scale =>
      rcases hAllowed scale rfl with ⟨hFinite, c, hC, hScale, _⟩
      rw [hScale]
      exact Or.inr ⟨hFinite, c, hC, rfl⟩

theorem converted_inDustRange
    {p : CloudPoint ℝ}
    {decision : Option (Number ℝ)}
    (hAllowed : DecisionAllowed base p decision)
    (dim : Number ℝ → Number ℝ)
    (hSome : decision.isSome = true) :
    InDustRange base
      (rangeOf sqrt (converted dim p decision)) := by
  cases decision with
  | none => cases hSome
  | some scale =>
      rcases hAllowed scale rfl with ⟨_, c, _, hScale, hRange⟩
      rw [hScale]
      exact hRange

end Dust

------------------------------------------------------------
-- Passes
------------------------------------------------------------

/-
  A callback taken apart: what each of its passes leads to
  from what the one before has left, and the decisions of the
  dust pass.
-/
structure Passes
    {G N : Type}
    (rand : RandomLibrary G N)
    (h : HashOrder String)
    (base : FaultInjectorBase)
    (msg : PointCloud2 ℝ)
    (g : G) where
  dropped : PointCloud2 ℝ
  afterDropout : G
  dropout :
    (applyPointDropout rand h base msg).run g =
      some (dropped, afterDropout)
  noisy : PointCloud2 ℝ
  afterNoise : G
  noise :
    (applyRangeNoise rand sqrt h base dropped).run
        afterDropout =
      some (noisy, afterNoise)
  decisions : List (Option (Number ℝ))
  dusty : PointCloud2 ℝ
  afterDust : G
  conversions :
    (dustConversions rand sqrt h base noisy).run afterNoise =
      some (decisions, afterDust)
  dust :
    (applyDustReturns rand sqrt h base noisy).run afterNoise =
      some (dusty, afterDust)
  out : PointCloud2 ℝ
  afterScale : G
  intensity :
    (applyIntensityScale h base dusty).run afterDust =
      some (out, afterScale)

/-
  What the passes keep. Each point is lost or on the ray of
  the point that came in; a point that is not finite when it
  comes in is not finite after dropout, and stays as it is
  from then on; converted points have a range that all active
  faults allow, and none is converted if there is no such
  range.
-/
structure KeepsRays
    (base : FaultInjectorBase)
    (msg dropped : PointCloud2 ℝ)
    (decisions : List (Option (Number ℝ)))
    (dusty out : PointCloud2 ℝ) : Prop where
  onRay : List.Forall₂ OnRay msg.points out.points
  staysLost :
    List.Forall₂ (fun p q => ¬ FinitePoint p → ¬ FinitePoint q)
      msg.points dropped.points
  unchanged :
    List.Forall₂ (fun p q => ¬ FinitePoint p → q = p)
      dropped.points dusty.points
  inDustRange :
    List.Forall₂
      (fun decision q =>
        decision.isSome = true →
          InDustRange base (rangeOf sqrt q))
      decisions dusty.points
  noCommonRange :
    (¬ ∃ range : ℝ, InDustRange base (.finite range)) →
      ∀ decision ∈ decisions, decision = none

section Runs

variable {G N : Type}
variable {rand : RandomLibrary G N}
variable {h : HashOrder String}
variable {base : FaultInjectorBase}
variable {msg : PointCloud2 ℝ}
variable {g : G}

/- A dust pass with a result has decisions. -/
theorem exists_decisions
    {dusty : PointCloud2 ℝ}
    {next : G}
    (hDust :
      (applyDustReturns rand sqrt h base msg).run g =
        some (dusty, next)) :
    ∃ decisions dim,
      (dustConversions rand sqrt h base msg).run g =
          some (decisions, next) ∧
        dusty =
          { msg with
            points :=
              List.zipWith (converted dim) msg.points
                decisions } := by
  rcases (dustReturns_sameDraws msg).cases g with
    ⟨hNone, _⟩ |
      ⟨out, decisions, last, hOwn, hDecisions, dim, hOut⟩
  · rw [hDust] at hNone
    cases hNone
  · rw [hDust] at hOwn
    cases hOwn
    exact ⟨decisions, dim, hDecisions, hOut⟩

/- Four passes with results, and the decisions they imply. -/
theorem exists_passes_of_runs
    {dropped noisy dusty out : PointCloud2 ℝ}
    {g₁ g₂ g₃ g₄ : G}
    (hDropout :
      (applyPointDropout rand h base msg).run g =
        some (dropped, g₁))
    (hNoise :
      (applyRangeNoise rand sqrt h base dropped).run g₁ =
        some (noisy, g₂))
    (hDust :
      (applyDustReturns rand sqrt h base noisy).run g₂ =
        some (dusty, g₃))
    (hIntensity :
      (applyIntensityScale h base dusty).run g₃ =
        some (out, g₄)) :
    ∃ passes : Passes rand h base msg g,
      passes.noisy = noisy ∧
        passes.afterNoise = g₂ ∧
          passes.out = out ∧ passes.afterScale = g₄ := by
  rcases exists_decisions hDust with
    ⟨decisions, _, hDecisions, _⟩
  exact
    ⟨{ dropped := dropped
       afterDropout := g₁
       dropout := hDropout
       noisy := noisy
       afterNoise := g₂
       noise := hNoise
       decisions := decisions
       dusty := dusty
       afterDust := g₃
       conversions := hDecisions
       dust := hDust
       out := out
       afterScale := g₄
       intensity := hIntensity },
      rfl, rfl, rfl, rfl⟩

end Runs

------------------------------------------------------------
-- Reads
------------------------------------------------------------

section Reads

variable {G N : Type}
variable {rand : RandomLibrary G N}
variable {h : HashOrder String}
variable {base : FaultInjectorBase}
variable {msg : PointCloud2 ℝ}

/- What the dust pass reads does not throw. -/
def DustRead
    (h : HashOrder String)
    (base : FaultInjectorBase) : Prop :=
  MaximumRead h base "dust_return_probability" ∧
    (SetsAbove base "dust_return_probability" .zero →
      ∃ minRange maxRange,
        Limits h base minRange maxRange ∧
          (LimitsMeet base →
            ∃ scale,
              activeProductDoubleOrDefault h base
                  "dust_intensity_scale" (.finite (1 / 5)) =
                .ok scale))

def IntensityRead
    (h : HashOrder String)
    (base : FaultInjectorBase) : Prop :=
  ∃ scale,
    activeProductDouble h base "intensity_scale" .one =
      .ok scale

/- What the passes over a cloud read does not throw. -/
structure PassesRead
    (h : HashOrder String)
    (base : FaultInjectorBase) : Prop where
  dropout : MaximumRead h base "point_dropout_probability"
  noise : MaximumRead h base "range_noise_stddev"
  dust : DustRead h base
  intensity : IntensityRead h base

theorem isSome_mapSamples
    {A : Type}
    (change : A → Option (Number → A))
    (stddev : Number)
    (state : N)
    (items : List A)
    (g : G) :
    ((rand.mapSamples change stddev state items).run
        g).isSome =
      true := by
  induction items generalizing state g with
  | nil => rfl
  | cons item items ih =>
      unfold RandomLibrary.mapSamples
      cases change item with
      | none =>
          rw [isSome_bind_iff]
          rcases Option.isSome_iff_exists.mp (ih state g) with
            ⟨rest, hRest⟩
          exact ⟨rest, hRest, rfl⟩
      | some changed =>
          rw [isSome_bind_iff]
          refine ⟨_, rfl, ?_⟩
          rw [isSome_bind_iff]
          rcases Option.isSome_iff_exists.mp (ih _ _) with
            ⟨rest, hRest⟩
          exact ⟨rest, hRest, rfl⟩

theorem isSome_rangeNoise_iff (g : G) :
    ((applyRangeNoise rand sqrt h base msg).run g).isSome =
        true ↔
      MaximumRead h base "range_noise_stddev" := by
  unfold applyRangeNoise MaximumRead
  refine isSome_read_iff _ fun stddev => ?_
  split
  · rfl
  · split
    · rfl
    · rw [isSome_bind_iff]
      have hPoints :=
        @isSome_mapSamples G N rand (CloudPoint ℝ)
          (noisyPoint sqrt) stddev rand.newNormal msg.points g
      rcases Option.isSome_iff_exists.mp hPoints with
        ⟨points, hRun⟩
      exact ⟨points, hRun, rfl⟩

theorem isSome_intensityScale_iff (g : G) :
    ((applyIntensityScale h base msg).run g).isSome =
        true ↔
      IntensityRead h base := by
  unfold applyIntensityScale IntensityRead
  refine isSome_read_iff _ fun scale => ?_
  split
  · rfl
  · split
    · rfl
    · rfl

theorem isSome_conversion
    (probability minRange maxRange : Number)
    (p : CloudPoint ℝ)
    (g : G) :
    ((conversion rand sqrt probability minRange maxRange
          p).run g).isSome =
      true := by
  unfold conversion
  rw [isSome_bind_iff]
  refine ⟨_, rfl, ?_⟩
  split
  · rfl
  · cases movableRange sqrt p with
    | none => rfl
    | some range => rfl

theorem isSome_dustConversions_iff
    (hCoordinates : hasCoordinates msg = true)
    (g : G) :
    ((dustConversions rand sqrt h base msg).run g).isSome =
        true ↔
      DustRead h base := by
  unfold dustConversions DustRead MaximumRead
  rw [isSome_read_bind_iff]
  constructor
  · rintro ⟨probability, hRead, hRest⟩
    refine ⟨⟨probability, hRead⟩, fun hAbove => ?_⟩
    have hPositive :=
      not_le_zero_of_zero_lt
        ((setsAbove_zero_iff hRead).mp hAbove)
    rw [if_neg hPositive,
      if_neg (not_not_intro hCoordinates),
      isSome_read_bind_iff] at hRest
    rcases hRest with ⟨minRange, hMin, hRest⟩
    rw [isSome_read_bind_iff] at hRest
    rcases hRest with ⟨maxRange, hMax, hRest⟩
    have hLimits : Limits h base minRange maxRange :=
      ⟨hMin, hMax⟩
    refine ⟨minRange, maxRange, hLimits, fun hMeet => ?_⟩
    rw [if_neg (hLimits.meet_iff.mpr hMeet),
      isSome_read_bind_iff] at hRest
    rcases hRest with ⟨scale, hScale, _⟩
    exact ⟨scale, hScale⟩
  · rintro ⟨⟨probability, hRead⟩, hDust⟩
    refine ⟨probability, hRead, ?_⟩
    by_cases hZero : probability.le .zero = true
    · rw [if_pos hZero]
      rfl
    · have hAbove :=
        (setsAbove_zero_iff hRead).mpr
          (zero_lt_of_not_le_zero hRead hZero)
      rcases hDust hAbove with
        ⟨minRange, maxRange, hLimits, hScale⟩
      rw [if_neg hZero, if_neg (not_not_intro hCoordinates),
        isSome_read_bind_iff]
      refine ⟨minRange, hLimits.low, ?_⟩
      rw [isSome_read_bind_iff]
      refine ⟨maxRange, hLimits.high, ?_⟩
      by_cases hOrder : maxRange.lt minRange = true
      · rw [if_pos hOrder]
        rfl
      · rcases hScale (hLimits.meet_iff.mp hOrder) with
          ⟨scale, hScale⟩
        rw [if_neg hOrder, isSome_read_bind_iff]
        exact
          ⟨scale, hScale,
            isSome_mapM
              (isSome_conversion probability minRange maxRange)
              msg.points g⟩

theorem isSome_dustReturns_iff
    (hCoordinates : hasCoordinates msg = true)
    (g : G) :
    ((applyDustReturns rand sqrt h base msg).run g).isSome =
        true ↔
      DustRead h base := by
  rw [(dustReturns_sameDraws msg).isSome_eq g]
  exact isSome_dustConversions_iff hCoordinates g

end Reads

------------------------------------------------------------
-- Safe Rays
------------------------------------------------------------

/-
  No fault asks for infinite noise, and no fault that takes
  part in dust returns has a range that is not a number. For a
  cloud without a point that can be moved, and where a read
  throws, nothing is asked.
-/
def RaysAreSafe
    (h : HashOrder String)
    (base : FaultInjectorBase)
    (msg : PointCloud2 ℝ) : Prop :=
  PassesRead h base →
    ¬ Inert msg →
      ¬ DropsAllPoints base →
        ¬ ActiveValue base "range_noise_stddev" .posInf ∧
          (DustPossible base → LimitsAreNumbers base)

section Safe

variable {G N : Type}
variable {rand : RandomLibrary G N}
variable {h : HashOrder String}
variable {base : FaultInjectorBase}
variable {msg : PointCloud2 ℝ}
variable {g : G}

theorem Passes.dropped_spec
    (passes : Passes rand h base msg g) :
    hasCoordinates passes.dropped = hasCoordinates msg ∧
      List.Forall₂ Dropped msg.points
        passes.dropped.points :=
  applyPointDropout_dropped msg g _ _ passes.dropout

/- Dropout makes no point movable. -/
theorem Passes.inert_dropped
    (passes : Passes rand h base msg g)
    (hInert : Inert msg) :
    Inert passes.dropped := by
  rcases passes.dropped_spec with ⟨hSame, hPoints⟩
  intro hCoordinates
  rw [hSame] at hCoordinates
  intro q hPoint
  rcases hPoints.exists_of_mem_right hPoint with
    ⟨p, hOwn, hKept | hLost⟩
  · rw [hKept]
    exact hInert hCoordinates p hOwn
  · exact movableRange_of_not_finite hLost.not_finitePoint

theorem Passes.noisy_coordinates
    (passes : Passes rand h base msg g) :
    hasCoordinates passes.noisy = hasCoordinates msg := by
  rw [← passes.dropped_spec.1]
  exact
    applyRangeNoise_coordinates passes.dropped _ _ _
      passes.noise

/- Passes with a result have read without a throw. -/
theorem Passes.read
    (passes : Passes rand h base msg g)
    (hCoordinates : hasCoordinates msg = true) :
    PassesRead h base where
  dropout := by
    rw [← isSome_pointDropout_iff msg g, passes.dropout]
    rfl
  noise := by
    rw [← isSome_rangeNoise_iff passes.afterDropout,
      passes.noise]
    rfl
  dust := by
    rw [← passes.noisy_coordinates] at hCoordinates
    rw [← isSome_dustReturns_iff hCoordinates
      passes.afterNoise, passes.dust]
    rfl
  intensity := by
    rw [← isSome_intensityScale_iff passes.afterDust,
      passes.intensity]
    rfl

/- Either no point is moved, or what moves them is safe. -/
theorem Passes.safe
    (passes : Passes rand h base msg g)
    (hUnit : rand.UnitDraws)
    (hSafe : RaysAreSafe h base msg) :
    Inert passes.dropped ∨
      ¬ ActiveValue base "range_noise_stddev" .posInf ∧
        (DustPossible base → LimitsAreNumbers base) := by
  by_cases hInert : Inert msg
  · exact Or.inl (passes.inert_dropped hInert)
  · by_cases hAll : DropsAllPoints base
    · exact
        Or.inl
          (applyPointDropout_inert hUnit hAll msg g _ _
            passes.dropout)
    · have hCoordinates : hasCoordinates msg = true := by
        unfold Inert at hInert
        push Not at hInert
        exact hInert.1
      exact
        Or.inr (hSafe (passes.read hCoordinates) hInert hAll)

theorem Passes.noisy_moved
    (passes : Passes rand h base msg g)
    (hSafe :
      Inert passes.dropped ∨
        ¬ ActiveValue base "range_noise_stddev" .posInf) :
    List.Forall₂ Moved passes.dropped.points
      passes.noisy.points := by
  rcases hSafe with hInert | hFinite
  · have hSame :=
      applyRangeNoise_inert hInert _ _ _ passes.noise
    rw [hSame]
    exact List.forall₂_same.mpr fun _ _ => Or.inl rfl
  · exact
      applyRangeNoise_moved hFinite _ _ _ _
        passes.noise

theorem Passes.decisions_allowed
    (passes : Passes rand h base msg g)
    (hUnit : rand.UnitDraws)
    (hSafe :
      Inert passes.dropped ∨
        (DustPossible base → LimitsAreNumbers base)) :
    AllAllowed base passes.noisy passes.decisions := by
  rcases hSafe with hInert | hNumbers
  · have hSame :=
      applyRangeNoise_inert hInert _ _ _ passes.noise
    rw [← hSame] at hInert
    have hNothing :=
      dustConversions_unmovable _ _ _ _ passes.conversions
    have hPoints :
        ∀ p ∈ passes.noisy.points,
          hasCoordinates passes.noisy = true →
            movableRange sqrt p = none :=
      fun p hPoint hCoordinates =>
        hInert hCoordinates p hPoint
    refine
      ((List.forall₂_and_left _ _).mpr
        ⟨hPoints, hNothing⟩).imp ?_
    rintro p decision ⟨hUnmovable, hNone⟩ scale hSome
    rw [hNone hUnmovable] at hSome
    cases hSome
  · exact
      dustConversions_allowed hUnit hNumbers _ _ _ _
        passes.conversions

/- The dust pass moves the points by the decisions. -/
theorem Passes.exists_dim
    (passes : Passes rand h base msg g) :
    ∃ dim,
      passes.dusty.points =
        List.zipWith (converted dim) passes.noisy.points
          passes.decisions := by
  rcases exists_decisions passes.dust with
    ⟨decisions, dim, hDecisions, hDusty⟩
  have hOwn := passes.conversions
  rw [hDecisions] at hOwn
  cases hOwn
  exact ⟨dim, congrArg PointCloud.points hDusty⟩

/- The dust pass does not move a point that is not finite. -/
theorem Passes.dusty_unmoved
    (passes : Passes rand h base msg g) :
    List.Forall₂ (fun q r => ¬ FinitePoint q → r = q)
      passes.noisy.points passes.dusty.points := by
  have hNone :=
    dustConversions_unmovable _ _ _ _ passes.conversions
  rcases passes.exists_dim with ⟨dim, hDusty⟩
  rw [hDusty]
  refine hNone.zipWith_left fun q decision hDecision hNot => ?_
  have hNothing : decision = none :=
    hDecision fun _ => movableRange_of_not_finite hNot
  rw [hNothing]
  rfl

theorem Passes.dusty_moved
    (passes : Passes rand h base msg g)
    (hAllowed :
      AllAllowed base passes.noisy passes.decisions) :
    List.Forall₂ Moved passes.noisy.points
      passes.dusty.points := by
  rcases passes.exists_dim with ⟨dim, hDusty⟩
  rw [hDusty]
  exact
    List.Forall₂.zipWith_left hAllowed
      fun p decision hDecision => converted_moved hDecision dim

theorem Passes.dusty_inDustRange
    (passes : Passes rand h base msg g)
    (hAllowed :
      AllAllowed base passes.noisy passes.decisions) :
    List.Forall₂
      (fun decision q =>
        decision.isSome = true →
          InDustRange base (rangeOf sqrt q))
      passes.decisions passes.dusty.points := by
  rcases passes.exists_dim with ⟨dim, hDusty⟩
  rw [hDusty]
  exact
    List.Forall₂.zipWith_right hAllowed
      fun p decision hDecision =>
        converted_inDustRange hDecision dim

theorem Passes.out_coordinates
    (passes : Passes rand h base msg g) :
    List.Forall₂ (fun p q => coordinates q = coordinates p)
      passes.dusty.points passes.out.points := by
  have hYields :
      Yields
        (applyIntensityScale h base passes.dusty :
          Drawing G (PointCloud2 ℝ))
        fun out =>
          List.Forall₂
            (fun p q => coordinates q = coordinates p)
            passes.dusty.points out.points := by
    unfold applyIntensityScale
    refine Yields.bind (Yields.anything _) fun scale _ => ?_
    refine Yields.ite ?_ fun _ => Yields.ite ?_ ?_
    · intro _
      exact
        Yields.pure (List.forall₂_same.mpr fun _ _ => rfl)
    · intro _
      exact
        Yields.pure (List.forall₂_same.mpr fun _ _ => rfl)
    · intro _
      refine Yields.pure ?_
      rw [List.forall₂_map_right_iff]
      exact List.forall₂_same.mpr fun _ _ => rfl
  exact hYields _ _ _ passes.intensity

/- Without a range in common no point is moved. -/
theorem eq_none_of_decision
    {p : CloudPoint ℝ}
    {decision : Option (Number ℝ)}
    (hAllowed : DecisionAllowed base p decision)
    (hNone : ¬ ∃ range : ℝ, InDustRange base (.finite range)) :
    decision = none := by
  cases decision with
  | none => rfl
  | some scale =>
      rcases hAllowed scale rfl with
        ⟨hFinite, c, hC, _, hRange⟩
      have hMoved : Stretched p (scaled (.finite c) p) :=
        ⟨c, hC, rfl⟩
      rcases rangeOf_finite
          (hMoved.finitePoint hFinite) with
        ⟨r, _, hOwn⟩
      rw [hOwn] at hRange
      exact absurd ⟨r, hRange⟩ hNone

/- Passes that move points leave them on their rays. -/
theorem Passes.onRay
    (passes : Passes rand h base msg g)
    (hMoved :
      List.Forall₂ Moved passes.dropped.points
        passes.dusty.points) :
    List.Forall₂ OnRay msg.points passes.out.points := by
  have hAfter :
      List.Forall₂
        (fun p s =>
          ∃ r, Moved p r ∧ coordinates s = coordinates r)
        passes.dropped.points passes.out.points :=
    hMoved.comp passes.out_coordinates
      fun p r s hFirst hLast => ⟨r, hFirst, hLast⟩
  refine passes.dropped_spec.2.comp hAfter ?_
  rintro p q s hFirst ⟨r, hMiddle, hLast⟩
  exact onRay_of_moved hFirst hMiddle hLast

/- Safe passes keep the points on their rays. -/
theorem keepsRays_of_safe
    (hUnit : rand.UnitDraws)
    (hSafe : RaysAreSafe h base msg)
    (passes : Passes rand h base msg g) :
    KeepsRays base msg passes.dropped passes.decisions
      passes.dusty passes.out := by
  have hEither := passes.safe hUnit hSafe
  have hNoisy :=
    passes.noisy_moved (hEither.imp id And.left)
  have hAllowed :=
    passes.decisions_allowed hUnit
      (hEither.imp id And.right)
  have hMoved :
      List.Forall₂ Moved passes.dropped.points
        passes.dusty.points :=
    hNoisy.comp (passes.dusty_moved hAllowed)
      fun p q r hFirst hSecond => hFirst.trans hSecond
  refine
    { onRay := passes.onRay hMoved
      staysLost := ?_
      unchanged := ?_
      inDustRange := passes.dusty_inDustRange hAllowed
      noCommonRange := ?_ }
  · refine passes.dropped_spec.2.imp ?_
    rintro p q (hKept | hLost) hNot
    · rw [hKept]
      exact hNot
    · exact hLost.not_finitePoint
  · exact hMoved.imp fun p q hMove => hMove.eq_of_not_finite
  · intro hNone decision hMember
    rcases hAllowed.exists_of_mem_right hMember with
      ⟨p, _, hDecision⟩
    exact eq_none_of_decision hDecision hNone

end Safe

end pointCloudFaultInjector
