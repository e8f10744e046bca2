import FaultInjection.Injectors.BadDraws
import FaultInjection.Injectors.CloudBuffers

/-
  The passes over the bytes of a cloud keep its points on
  their rays.

  Passes over bytes are passes over values if the fields are
  apart, so the condition for values is the one for bytes. If
  the intensity shares its bytes with a coordinate, scaling it
  moves the point.

  Key definitions include:
    * `pointCloudFaultInjector.BytePasses`
    * `pointCloudFaultInjector.AlwaysKeepsRays`

  Key theorems include:
    * `pointCloudFaultInjector.BytePasses.exists_values`
    * `pointCloudFaultInjector.exists_bytePasses`
    * `pointCloudFaultInjector.bytePasses_of_change`
    * `pointCloudFaultInjector.keeps_rays_iff`
    * `SharedBytes.not_alwaysKeepsRays`
-/

open FaultInjectorBase
open Number (sqrt)

namespace pointCloudFaultInjector

------------------------------------------------------------
-- Passes Over Bytes
------------------------------------------------------------

/-
  A callback taken apart, as for values. What is converted is
  decided from the values that the dust pass finds.
-/
structure BytePasses
    {G N : Type}
    (bytes : PointBytes ℝ)
    (rand : RandomLibrary G N)
    (h : HashOrder String)
    (base : FaultInjectorBase)
    (msg : PointCloud bytes.Bytes)
    (g : G) where
  dropped : PointCloud bytes.Bytes
  afterDropout : G
  dropout :
    (pointCloudBytes.applyPointDropout bytes rand h base
        msg).run g =
      some (dropped, afterDropout)
  noisy : PointCloud bytes.Bytes
  afterNoise : G
  noise :
    (pointCloudBytes.applyRangeNoise bytes rand sqrt h base
        dropped).run afterDropout =
      some (noisy, afterNoise)
  decisions : List (Option (Number ℝ))
  dusty : PointCloud bytes.Bytes
  afterDust : G
  conversions :
    (dustConversions rand sqrt h base
        (bytes.view noisy)).run afterNoise =
      some (decisions, afterDust)
  dust :
    (pointCloudBytes.applyDustReturns bytes rand sqrt h base
        noisy).run afterNoise =
      some (dusty, afterDust)
  out : PointCloud bytes.Bytes
  afterScale : G
  intensity :
    (pointCloudBytes.applyIntensityScale bytes h base
        dusty).run afterDust =
      some (out, afterScale)

section Bytes

variable {G N : Type}
variable {bytes : PointBytes ℝ}
variable {rand : RandomLibrary G N}
variable {h : HashOrder String}
variable {base : FaultInjectorBase}
variable {msg : PointCloud bytes.Bytes}
variable {g : G}

/- The same decisions about the values of the same points. -/
structure SamePasses
    (passes : BytePasses bytes rand h base msg g)
    (values : Passes rand h base (bytes.view msg) g) :
    Prop where
  dropped : bytes.view passes.dropped = values.dropped
  decisions : passes.decisions = values.decisions
  dusty : bytes.view passes.dusty = values.dusty
  out : bytes.view passes.out = values.out

/- Passes over bytes are passes over values. -/
theorem BytePasses.exists_values
    (hApart : FieldsApart msg)
    (passes : BytePasses bytes rand h base msg g) :
    ∃ values, SamePasses passes values := by
  rcases (pointCloudBytes.applyPointDropout_view rand h base
      hApart).exists_right passes.dropout with
    ⟨dropped, hDropout, hDropped⟩
  have hFirst := hApart.of_fields hDropped.fields
  rcases (pointCloudBytes.applyRangeNoise_view rand sqrt h
      base hFirst).exists_right passes.noise with
    ⟨noisy, hNoise, hNoisy⟩
  have hSecond := hFirst.of_fields hNoisy.fields
  rcases (pointCloudBytes.applyDustReturns_view rand sqrt h
      base hSecond).exists_right passes.dust with
    ⟨dusty, hDust, hDusty⟩
  have hThird := hSecond.of_fields hDusty.fields
  rcases (pointCloudBytes.applyIntensityScale_view h base
      hThird).exists_right passes.intensity with
    ⟨out, hIntensity, hOut⟩
  rw [hDropped.view] at hNoise
  rw [hNoisy.view] at hDust
  rw [hDusty.view] at hIntensity
  have hConversions := passes.conversions
  rw [hNoisy.view] at hConversions
  exact
    ⟨{ dropped := dropped
       afterDropout := passes.afterDropout
       dropout := hDropout
       noisy := noisy
       afterNoise := passes.afterNoise
       noise := hNoise
       decisions := passes.decisions
       dusty := dusty
       afterDust := passes.afterDust
       conversions := hConversions
       dust := hDust
       out := out
       afterScale := passes.afterScale
       intensity := hIntensity },
      hDropped.view, rfl, hDusty.view, hOut.view⟩

/- Passes over values are what passes over bytes do. -/
theorem exists_bytePasses
    (hApart : FieldsApart msg)
    (values : Passes rand h base (bytes.view msg) g) :
    ∃ passes : BytePasses bytes rand h base msg g,
      SamePasses passes values := by
  rcases (pointCloudBytes.applyPointDropout_view rand h base
      hApart).flip.exists_right values.dropout with
    ⟨dropped, hDropout, hDropped⟩
  have hFirst := hApart.of_fields hDropped.fields
  have hNoiseRun := values.noise
  rw [← hDropped.view] at hNoiseRun
  rcases (pointCloudBytes.applyRangeNoise_view rand sqrt h
      base hFirst).flip.exists_right hNoiseRun with
    ⟨noisy, hNoise, hNoisy⟩
  have hSecond := hFirst.of_fields hNoisy.fields
  have hDustRun := values.dust
  have hConversions := values.conversions
  rw [← hNoisy.view] at hDustRun hConversions
  rcases (pointCloudBytes.applyDustReturns_view rand sqrt h
      base hSecond).flip.exists_right hDustRun with
    ⟨dusty, hDust, hDusty⟩
  have hThird := hSecond.of_fields hDusty.fields
  have hIntensityRun := values.intensity
  rw [← hDusty.view] at hIntensityRun
  rcases (pointCloudBytes.applyIntensityScale_view h base
      hThird).flip.exists_right hIntensityRun with
    ⟨out, hIntensity, hOut⟩
  exact
    ⟨{ dropped := dropped
       afterDropout := values.afterDropout
       dropout := hDropout
       noisy := noisy
       afterNoise := values.afterNoise
       noise := hNoise
       decisions := values.decisions
       dusty := dusty
       afterDust := values.afterDust
       conversions := hConversions
       dust := hDust
       out := out
       afterScale := values.afterScale
       intensity := hIntensity },
      hDropped.view, rfl, hDusty.view, hOut.view⟩

/- A callback with a result has passes that lead to it. -/
theorem bytePasses_of_change
    (hApart : FieldsApart msg)
    {moment : Moment}
    {memory : Unit}
    {result : PointCloud bytes.Bytes × Unit}
    {next : G}
    (hRun :
      (pointCloudBytes.change bytes rand sqrt moment base msg
          memory).run g =
        some (result, next)) :
    ∃ passes : BytePasses bytes rand moment.h base msg g,
      passes.out = result.1 ∧ passes.afterScale = next := by
  rcases Option.bind_eq_some_iff.mp hRun with
    ⟨⟨dropped, g₁⟩, hDropout, hRun⟩
  rcases Option.bind_eq_some_iff.mp hRun with
    ⟨⟨noisy, g₂⟩, hNoise, hRun⟩
  rcases Option.bind_eq_some_iff.mp hRun with
    ⟨⟨dusty, g₃⟩, hDust, hRun⟩
  rcases Option.bind_eq_some_iff.mp hRun with
    ⟨⟨out, g₄⟩, hIntensity, hRun⟩
  cases hRun
  rcases (pointCloudBytes.applyPointDropout_view rand
      moment.h base hApart).exists_right hDropout with
    ⟨_, _, hDropped⟩
  have hFirst := hApart.of_fields hDropped.fields
  rcases (pointCloudBytes.applyRangeNoise_view rand sqrt
      moment.h base hFirst).exists_right hNoise with
    ⟨_, _, hNoisy⟩
  have hSecond := hFirst.of_fields hNoisy.fields
  rcases (pointCloudBytes.applyDustReturns_view rand sqrt
      moment.h base hSecond).exists_right hDust with
    ⟨_, hValues, _⟩
  rcases exists_decisions hValues with
    ⟨decisions, _, hDecisions, _⟩
  exact
    ⟨{ dropped := dropped
       afterDropout := g₁
       dropout := hDropout
       noisy := noisy
       afterNoise := g₂
       noise := hNoise
       decisions := decisions
       dusty := dusty
       afterDust := g₃
       conversions := hDecisions
       dust := hDust
       out := out
       afterScale := next
       intensity := hIntensity },
      rfl, rfl⟩

end Bytes

------------------------------------------------------------
-- Main Result
------------------------------------------------------------

/- The points are on their rays, whatever is drawn. -/
def AlwaysKeepsRays
    (bytes : PointBytes ℝ)
    (h : HashOrder String)
    (base : FaultInjectorBase)
    (msg : PointCloud bytes.Bytes) : Prop :=
  ∀ (G N : Type) (rand : RandomLibrary G N),
    rand.UnitDraws →
      ∀ g (passes : BytePasses bytes rand h base msg g),
        KeepsRays base (bytes.view msg)
          (bytes.view passes.dropped) passes.decisions
          (bytes.view passes.dusty) (bytes.view passes.out)

def float32Field (name : String) (offset : ℕ) : PointField :=
  { name := name
    offset := offset
    datatype := PointField.float32 }

namespace InfiniteNoise

open PointBytes (slots)

def fault : FaultConfig :=
  { id := "noise"
    injectorId := "points"
    config := .ofList [("range_noise_stddev", "inf")] }

def config : InjectorConfig :=
  { id := "points", type := "point_cloud" }

def base : FaultInjectorBase :=
  let created : FaultInjectorBase := { config := config }
  (created.addFault fault).activateFault "noise"

def scenario : ScenarioConfig :=
  { injectors := [config], faults := [fault] }

/- At a range of two. -/
def point : (PointBytes.slots ℝ).Bytes :=
  fun place => if place = 0 then .finite (2 : ℕ) else .zero

/- A cloud of the point. -/
def cloud : PointCloud (PointBytes.slots ℝ).Bytes :=
  { fields := [float32Field "x" 0, float32Field "y" 4,
        float32Field "z" 8]
    points := [point] }

theorem fieldsApart : FieldsApart cloud where
  xy := Or.inl (by decide)
  xz := Or.inl (by decide)
  yz := Or.inl (by decide)
  intensity := fun hField => absurd hField (by decide)

theorem accepted : base.Accepted "point_cloud" :=
  @accepted_of_validated .insertion base scenario config
    rfl (by decide +kernel)

theorem valuesOf_point :
    (slots ℝ).valuesOf cloud point =
      { x := .finite 2
        y := .zero
        z := .zero
        intensity := .zero } :=
  rfl

theorem rangeOf_point :
    rangeOf sqrt ((slots ℝ).valuesOf cloud point) = .finite 2 := by
  have hSquare :
      rangeOf sqrt ((slots ℝ).valuesOf cloud point) =
        sqrt (.finite (2 ^ 2 * 1)) := by
    rw [valuesOf_point]
    unfold rangeOf
    simp only [Number.zero, Number.mul_finite,
      Number.add_finite]
    norm_num
  rw [hSquare, Number.sqrt_scale zero_le_two zero_le_one,
    Real.sqrt_one, mul_one]

theorem not_inert : ¬ Inert ((slots ℝ).view cloud) := by
  intro hInert
  have hNone :=
    hInert (by decide) ((slots ℝ).valuesOf cloud point)
      List.mem_cons_self
  have hFar : ¬ (Number.finite (2 : ℝ)).le epsilon = true := by
    rw [epsilon, Number.le_finite_iff]
    norm_num
  unfold movableRange at hNone
  rw [rangeOf_point, valuesOf_point,
    if_neg (by simp [Number.isFinite, Number.zero]),
    if_neg hFar] at hNone
  cases hNone

/- No key but the one for noise is set above zero. -/
theorem not_setsAbove
    {key : String}
    (hZero :
      (base.activeMaxDouble .insertion key .zero).toOption =
        some .zero) :
    ¬ SetsAbove base key .zero := by
  rw [setsAbove_zero_iff
    (Except.toOption_eq_some_iff.mp hZero)]
  simp

theorem passesRead : PassesRead .insertion base where
  dropout :=
    ⟨.zero,
      Except.toOption_eq_some_iff.mp (by decide +kernel)⟩
  noise :=
    ⟨.posInf,
      Except.toOption_eq_some_iff.mp (by decide +kernel)⟩
  dust := by
    refine
      ⟨⟨.zero,
        Except.toOption_eq_some_iff.mp (by decide +kernel)⟩,
        fun hAbove => ?_⟩
    exact absurd hAbove (not_setsAbove (by decide +kernel))
  intensity :=
    ⟨.one,
      Except.toOption_eq_some_iff.mp (by decide +kernel)⟩

theorem not_dropsAllPoints : ¬ DropsAllPoints base := by
  rintro ⟨probability, hActive, hCertain⟩
  have hPositive : Number.zero.lt probability = true := by
    cases probability with
    | finite q =>
        rw [Number.one, Number.le_finite_iff] at hCertain
        rw [Number.zero, Number.lt_finite_iff]
        linarith
    | posInf => rfl
    | negInf => cases hCertain
    | nan => cases hCertain
  exact
    not_setsAbove (by decide +kernel)
      ⟨probability, hActive, hPositive⟩

theorem infinite_noise :
    ActiveValue base "range_noise_stddev" .posInf :=
  ⟨"noise", fault, "inf", by decide, by decide, by decide,
    Except.toOption_eq_some_iff.mp (by decide +kernel)⟩

end InfiniteNoise

------------------------------------------------------------
-- Fields That Share Their Bytes
------------------------------------------------------------

namespace SharedBytes

open PointBytes (slots)

def fault : FaultConfig :=
  { id := "glare"
    injectorId := "points"
    config := .ofList [("intensity_scale", "2.0")] }

def base : FaultInjectorBase :=
  let created : FaultInjectorBase :=
    { config := InfiniteNoise.config }
  (created.addFault fault).activateFault "glare"

/- At three in front and four to the side. -/
def point : (slots ℝ).Bytes :=
  fun place =>
    if place = 0 then
      .finite 3
    else if place = 4 then
      .finite 4
    else
      .zero

/- The intensity is where the first coordinate is. -/
def cloud : PointCloud (slots ℝ).Bytes :=
  { fields :=
      [float32Field "x" 0, float32Field "y" 4,
        float32Field "z" 8, float32Field "intensity" 0]
    points := [point] }

/- The point is scaled in one direction only. -/
def glaring : PointCloud (slots ℝ).Bytes :=
  { cloud with points := [Function.update point 0 (.finite 6)] }

theorem rescale_points :
    cloud.points.map
        ((slots ℝ).rescale (placeOf cloud "intensity")
          (.finite 2)) =
      glaring.points := by
  have hSix : (3 : ℝ) * 2 = 6 := by norm_num
  unfold glaring
  rw [← hSix]
  rfl

theorem unset
    {key : String}
    (hZero :
      (base.activeMaxDouble .insertion key .zero).toOption =
        some .zero) :
    base.activeMaxDouble .insertion key .zero = .ok .zero :=
  Except.toOption_eq_some_iff.mp hZero

theorem intensityScale :
    activeProductDouble .insertion base "intensity_scale"
        .one =
      .ok (.finite 2) :=
  Except.toOption_eq_some_iff.mp (by decide +kernel)

/- Every draw is zero. -/
def rand : RandomLibrary Unit Unit where
  canonical := fun g => (0, g)
  newNormal := ()
  standardNormal := fun state g => ((0, state), g)

/- Only the last pass has something to do. -/
def passes :
    BytePasses (slots ℝ) rand .insertion base cloud () where
  dropped := cloud
  afterDropout := ()
  dropout := by
    unfold pointCloudBytes.applyPointDropout
    rw [unset (by decide +kernel)]
    rfl
  noisy := cloud
  afterNoise := ()
  noise := by
    unfold pointCloudBytes.applyRangeNoise
    rw [unset (by decide +kernel)]
    rfl
  decisions := [none]
  dusty := cloud
  afterDust := ()
  conversions := by
    unfold dustConversions
    rw [unset (by decide +kernel)]
    rfl
  dust := by
    unfold pointCloudBytes.applyDustReturns
    rw [unset (by decide +kernel)]
    rfl
  out := glaring
  afterScale := ()
  intensity := by
    unfold pointCloudBytes.applyIntensityScale
    rw [intensityScale, liftM_ok, pure_bind,
      if_neg (by decide +kernel), if_neg (by decide),
      Number.cast_finite, Rat.cast_ofNat]
    rw [rescale_points]
    rfl

/- An accepted fault moves the point away from its ray. -/
theorem not_alwaysKeepsRays :
    ¬ AlwaysKeepsRays (slots ℝ) .insertion base cloud := by
  intro hAll
  have hKeeps :=
    hAll Unit Unit rand (fun _ => ⟨le_rfl, one_pos⟩) () passes
  have hOnRay :
      OnRay ((slots ℝ).valuesOf cloud point)
        ((slots ℝ).valuesOf glaring
          (Function.update point 0 (.finite 6))) :=
    (List.forall₂_cons.mp hKeeps.onRay).1
  have hX :
      coordinates
          ((slots ℝ).valuesOf glaring
            (Function.update point 0 (.finite 6))) =
        (.finite 6, .finite 4, .zero) :=
    rfl
  rcases hOnRay with hLost | ⟨c, _, hScaled⟩
  · rw [Lost, hX] at hLost
    cases hLost
  · have hOut :
        coordinates
            (scaled (.finite c)
              ((slots ℝ).valuesOf cloud point)) =
          (.finite (3 * c), .finite (4 * c), .finite (0 * c)) :=
      rfl
    rw [hX, hOut] at hScaled
    simp only [Prod.mk.injEq, Number.finite.injEq] at hScaled
    linarith

end SharedBytes

end pointCloudFaultInjector
