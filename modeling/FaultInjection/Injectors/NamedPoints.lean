import FaultInjection.Injectors.NamedQuantities

/-
  What the injector for point clouds may change.

  A dust return takes a default intensity scale, so the key
  that asks for dust returns changes the intensities too.

  A point has one value for each field, so the fields of a
  cloud are meant to share no bytes.

  Key definitions include:
    * `pointCloudFaultInjector.parts`
    * `pointCloudFaultInjector.Dims`
    * `pointCloudFaultInjector.DustDims`

  Key theorems include:
    * `pointCloudFaultInjector.points_framed`
    * `pointCloudFaultInjector.applyDustReturns_yields`
    * `pointCloudFaultInjector.touchesOnlyNamed`
    * `pointCloudFaultInjector.dustDims`
-/

open FaultInjectorBase

------------------------------------------------------------
-- Point Clouds
------------------------------------------------------------

namespace pointCloudFaultInjector

variable {G N : Type}
variable {K : Type}
variable (rand : RandomLibrary G N)
variable (sqrt : Number K → Number K)
variable (h : HashOrder String)
variable (base : FaultInjectorBase)
variable (msg : PointCloud2 K)

/- The keys that move points. -/
def coordinateKeys : List String :=
  ["point_dropout_probability", "range_noise_stddev",
    "dust_return_probability"]

/- The keys with the name of the intensity. -/
def intensityKeys : List String :=
  ["intensity_scale", "dust_intensity_scale"]

def coordinates
    (point : CloudPoint K) : Number K × Number K × Number K :=
  (point.x, point.y, point.z)

/-
  The parts of the message and the keys that name them, for
  given keys of the intensity.
-/
def parts
    (keys : List String) :
    List (KeyedPart String (PointCloud2 K)) :=
  [ { keys := []
      value := fun msg => msg.header },
    { keys := []
      value := fun msg => (msg.height, msg.width) },
    { keys := []
      value := fun msg => (msg.fields, msg.isBigendian) },
    { keys := []
      value := fun msg => (msg.pointStep, msg.rowStep) },
    { keys := []
      value := fun msg => msg.isDense },
    { keys := []
      value := fun msg => msg.points.length },
    { keys := coordinateKeys
      value := fun msg => msg.points.map coordinates },
    { keys := keys
      value := fun msg =>
        msg.points.map CloudPoint.intensity },
    { keys := []
      value := fun msg =>
        msg.points.map CloudPoint.others } ]

/- Points with the same parts are the same. -/
theorem points_eq
    {a b : List (CloudPoint K)}
    (hCoordinates : b.map coordinates = a.map coordinates)
    (hIntensity :
      b.map CloudPoint.intensity = a.map CloudPoint.intensity)
    (hOthers :
      b.map CloudPoint.others = a.map CloudPoint.others) :
    b = a := by
  induction a generalizing b with
  | nil => exact List.map_eq_nil_iff.mp hOthers
  | cons p a ih =>
      cases b with
      | nil => cases hOthers
      | cons q b =>
          rcases p with ⟨_, _, _, _, _⟩
          rcases q with ⟨_, _, _, _, _⟩
          simp only [List.map_cons, List.cons.injEq,
            coordinates, Prod.mk.injEq]
            at hCoordinates hIntensity hOthers
          rw [ih hCoordinates.2 hIntensity.2 hOthers.2]
          simp only [hCoordinates.1, hIntensity.1, hOthers.1]

theorem covers_parts
    (keys : List String) :
    Covers (parts (K := K) keys) := by
  intro a b hSame
  rcases a with ⟨_, _, _, _, _, _, _, _, _⟩
  rcases b with ⟨_, _, _, _, _, _, _, _, _⟩
  simp only [parts, List.forall_mem_cons, Prod.mk.injEq]
    at hSame
  rcases hSame with
    ⟨hHeader, hSize, hFields, hSteps, hDense, _, hCoordinates,
      hIntensity, hOthers, _⟩
  have hPoints := points_eq hCoordinates hIntensity hOthers
  simp only [hHeader, hSize, hFields, hSteps, hDense, hPoints]

/-
  New points with the same other bytes. Coordinates and
  intensities differ only if one of their keys is set.
-/
theorem points_framed
    {set : String → Prop}
    {keys : List String}
    {points : List (CloudPoint K)}
    (hOthers :
      List.Forall₂ (fun p q => q.others = p.others)
        msg.points points)
    (hCoordinates :
      (∃ key ∈ coordinateKeys, set key) ∨
        List.Forall₂ (fun p q => coordinates q = coordinates p)
          msg.points points)
    (hIntensity :
      (∃ key ∈ keys, set key) ∨
        List.Forall₂ (fun p q => q.intensity = p.intensity)
          msg.points points) :
    Framed (parts keys) set msg
      { msg with points := points } := by
  have hFixed := map_eq_of_forall₂ hOthers
  have hLength := hOthers.length_eq
  have hMoved :
      (∀ key ∈ coordinateKeys, ¬ set key) →
        points.map coordinates =
          msg.points.map coordinates := by
    intro hUnset
    rcases hCoordinates with hSet | hSame
    · rcases hSet with ⟨key, hKey, hSet⟩
      exact absurd hSet (hUnset key hKey)
    · exact map_eq_of_forall₂ hSame
  have hDimmed :
      (∀ key ∈ keys, ¬ set key) →
        points.map CloudPoint.intensity =
          msg.points.map CloudPoint.intensity := by
    intro hUnset
    rcases hIntensity with hSet | hSame
    · rcases hSet with ⟨key, hKey, hSet⟩
      exact absurd hSet (hUnset key hKey)
    · exact map_eq_of_forall₂ hSame
  simp only [parts, framed_cons, framed_nil, and_true,
    implies_true, true_and]
  refine ⟨fun _ => hLength.symm, hMoved, hDimmed, ?_⟩
  exact fun _ => hFixed

/- Intensities are as before if none of their keys is set. -/
theorem intensity_of_framed
    {set : String → Prop}
    {keys : List String}
    {before after : PointCloud2 K}
    (hFramed : Framed (parts keys) set before after)
    (hUnset : ∀ key ∈ keys, ¬ set key) :
    after.points.map CloudPoint.intensity =
      before.points.map CloudPoint.intensity := by
  simp only [parts, framed_cons] at hFramed
  rcases hFramed with ⟨_, _, _, _, _, _, _, hIntensity, _⟩
  exact hIntensity hUnset

/- Moving a point keeps its intensity and other bytes. -/
def MovedOnly (p q : CloudPoint K) : Prop :=
  q.intensity = p.intensity ∧ q.others = p.others

/- Moved points, for a key that is set. -/
theorem moved_framed
    {set : String → Prop}
    {keys : List String}
    {points : List (CloudPoint K)}
    (hMoved : List.Forall₂ MovedOnly msg.points points)
    (hSet : ∃ key ∈ coordinateKeys, set key) :
    Framed (parts keys) set msg
      { msg with points := points } := by
  refine points_framed msg ?_ (Or.inl hSet) (Or.inr ?_)
  · exact hMoved.imp fun p q hPoint => hPoint.2
  · exact hMoved.imp fun p q hPoint => hPoint.1

theorem dropPoint_yields
    (probability : Number)
    (point : CloudPoint K) :
    Yields (dropPoint rand probability point)
      (MovedOnly point) := by
  unfold dropPoint
  refine Yields.bind (Yields.anything _) ?_
  intro dropped _
  refine Yields.ite ?_ ?_
  · intro _
    exact Yields.pure ⟨rfl, rfl⟩
  · intro _
    exact Yields.pure ⟨rfl, rfl⟩

/- A probability or deviation above zero is configured. -/
theorem sets_of_positive
    {key : String}
    {value : Number}
    (hValue : ¬ base.Sets key → value = .zero)
    (hPositive : ¬ value.le .zero = true) :
    base.Sets key := by
  by_contra hUnset
  rw [hValue hUnset] at hPositive
  exact hPositive Number.zero_le_zero

theorem applyPointDropout_yields :
    Yields (applyPointDropout rand h base msg) fun out =>
      ∀ keys, Framed (parts keys) base.Sets msg out := by
  unfold applyPointDropout
  refine Yields.bind
    (max_yields h base "point_dropout_probability" .zero) ?_
  intro dropProbability hProbability
  refine Yields.ite ?_ fun hPositive => Yields.ite ?_ ?_
  · intro _
    exact Yields.pure fun keys => Framed.refl msg
  · intro _
    exact Yields.pure fun keys => Framed.refl msg
  · intro _
    refine Yields.bind
      (Yields.mapM fun point _ =>
        dropPoint_yields rand dropProbability point) ?_
    intro points hPoints
    refine Yields.pure fun keys => moved_framed msg hPoints ?_
    have hSets := sets_of_positive base hProbability hPositive
    exact ⟨_, by simp [coordinateKeys], hSets⟩

variable [Field K]
variable [LinearOrder K]

theorem noisyPoints_yield
    (stddev : Number)
    (points : List (CloudPoint K)) :
    Yields (rand.mapNormal (noisyPoint sqrt) stddev points)
      (List.Forall₂ MovedOnly points) := by
  refine RandomLibrary.mapNormal_yields rand ?_ ?_ stddev
    points
  · intro point _
    exact ⟨rfl, rfl⟩
  · intro point changed value hChange
    rcases Option.map_eq_some_iff.mp hChange with
      ⟨range, _, hSame⟩
    subst hSame
    exact ⟨rfl, rfl⟩

theorem applyRangeNoise_yields :
    Yields (applyRangeNoise rand sqrt h base msg) fun out =>
      ∀ keys, Framed (parts keys) base.Sets msg out := by
  unfold applyRangeNoise
  refine Yields.bind
    (max_yields h base "range_noise_stddev" .zero) ?_
  intro rangeNoiseStddev hStddev
  refine Yields.ite ?_ fun hPositive => Yields.ite ?_ ?_
  · intro _
    exact Yields.pure fun keys => Framed.refl msg
  · intro _
    exact Yields.pure fun keys => Framed.refl msg
  · intro _
    refine Yields.bind (noisyPoints_yield rand sqrt _ _) ?_
    intro points hPoints
    refine Yields.pure fun keys => moved_framed msg hPoints ?_
    have hSets := sets_of_positive base hStddev hPositive
    exact ⟨_, by simp [coordinateKeys], hSets⟩

/- The intensity is kept or takes the scale of dust. -/
def Dusted (scale : Number K) (p q : CloudPoint K) : Prop :=
  (q.intensity = p.intensity ∨
      q.intensity = p.intensity.mul scale) ∧
    q.others = p.others

theorem dustReturnWithIntensity_yields
    (probability minRange maxRange scale : Number)
    (point : CloudPoint K) :
    Yields
      (dustReturnWithIntensity rand sqrt probability minRange
        maxRange scale point)
      (Dusted scale.cast point) := by
  unfold dustReturnWithIntensity
  refine Yields.bind (Yields.anything _) ?_
  intro converted _
  refine Yields.ite ?_ ?_
  · intro _
    exact Yields.pure ⟨Or.inl rfl, rfl⟩
  · intro _
    cases movableRange sqrt point with
    | none =>
        exact Yields.pure ⟨Or.inl rfl, rfl⟩
    | some range =>
        refine Yields.bind (Yields.anything _) ?_
        intro dustRange _
        exact Yields.pure ⟨Or.inr rfl, rfl⟩

theorem dustReturn_yields
    (probability minRange maxRange : Number)
    (point : CloudPoint K) :
    Yields
      (dustReturn rand sqrt probability minRange maxRange point)
      (MovedOnly point) := by
  unfold dustReturn
  refine Yields.bind (Yields.anything _) ?_
  intro converted _
  refine Yields.ite ?_ ?_
  · intro _
    exact Yields.pure ⟨rfl, rfl⟩
  · intro _
    cases movableRange sqrt point with
    | none => exact Yields.pure ⟨rfl, rfl⟩
    | some range =>
        refine Yields.bind (Yields.anything _) ?_
        intro dustRange _
        exact Yields.pure ⟨rfl, rfl⟩

/-
  The intensity of each point is as before, or a fifth of it
  if an active fault asks for dust returns.
-/
def Dims (before after : PointCloud2 K) : Prop :=
  List.Forall₂
    (fun p q =>
      q = p ∨
        base.Sets "dust_return_probability" ∧
          q = p.mul (Number.finite (1 / 5)).cast)
    (before.points.map CloudPoint.intensity)
    (after.points.map CloudPoint.intensity)

theorem dims_of_same
    {out : PointCloud2 K}
    (hSame :
      out.points.map CloudPoint.intensity =
        msg.points.map CloudPoint.intensity) :
    Dims base msg out := by
  unfold Dims
  rw [hSame]
  exact List.forall₂_same.mpr fun _ _ => Or.inl rfl

/-
  Dust returns change intensities only for their key, and
  without a configured scale by the default one.
-/
structure DustFramed (out : PointCloud2 K) : Prop where
  framed :
    ∀ keys, "dust_return_probability" ∈ keys →
      Framed (parts keys) base.Sets msg out
  dims :
    ¬ base.Sets "dust_intensity_scale" → Dims base msg out

theorem DustFramed.refl : DustFramed base msg msg where
  framed _ _ := Framed.refl msg
  dims _ := dims_of_same base msg rfl

/- The points of a cloud with intensities. -/
theorem dustFramed_of_dusted
    {scale : Number}
    {points : List (CloudPoint K)}
    (hSets : base.Sets "dust_return_probability")
    (hScale :
      ¬ base.Sets "dust_intensity_scale" →
        scale = .finite (1 / 5))
    (hPoints :
      List.Forall₂ (Dusted scale.cast) msg.points points) :
    DustFramed base msg { msg with points := points } where
  framed keys hKey := by
    refine points_framed msg ?_
      (Or.inl ⟨_, by simp [coordinateKeys], hSets⟩)
      (Or.inl ⟨_, hKey, hSets⟩)
    exact hPoints.imp fun p q hPoint => hPoint.2
  dims hUnset := by
    unfold Dims
    rw [List.forall₂_map_left_iff, List.forall₂_map_right_iff]
    refine hPoints.imp fun p q hPoint => ?_
    rcases hPoint.1 with hSame | hDimmed
    · exact Or.inl hSame
    · rw [hScale hUnset] at hDimmed
      exact Or.inr ⟨hSets, hDimmed⟩

/- The points of a cloud without intensities. -/
theorem dustFramed_of_moved
    {points : List (CloudPoint K)}
    (hSets : base.Sets "dust_return_probability")
    (hPoints : List.Forall₂ MovedOnly msg.points points) :
    DustFramed base msg { msg with points := points } where
  framed keys _ := by
    refine moved_framed msg hPoints ?_
    exact ⟨_, by simp [coordinateKeys], hSets⟩
  dims _ := by
    refine dims_of_same base msg ?_
    exact
      map_eq_of_forall₂
        (hPoints.imp fun p q hPoint => hPoint.1)

/- The pass for dust returns. -/
theorem applyDustReturns_yields :
    Yields (applyDustReturns rand sqrt h base msg)
      (DustFramed base msg) := by
  have hSkip :
      Yields (pure msg : Drawing G (PointCloud2 K))
        (DustFramed base msg) :=
    Yields.pure (DustFramed.refl base msg)
  unfold applyDustReturns
  refine Yields.bind
    (max_yields h base "dust_return_probability" .zero) ?_
  intro probability hProbability
  refine Yields.ite (fun _ => hSkip) fun hPositive => ?_
  refine Yields.ite (fun _ => hSkip) fun _ => ?_
  refine Yields.bind (Yields.anything _) ?_
  intro minRange _
  refine Yields.bind (Yields.anything _) ?_
  intro maxRange _
  refine Yields.ite (fun _ => hSkip) fun _ => ?_
  refine Yields.bind
    (productOrDefault_yields h base "dust_intensity_scale"
      _) ?_
  intro scale hScale
  have hSets := sets_of_positive base hProbability hPositive
  refine Yields.ite ?_ ?_
  · intro _
    refine Yields.bind
      (Yields.mapM fun point _ =>
        dustReturnWithIntensity_yields rand sqrt probability
          minRange maxRange scale point) ?_
    intro points hPoints
    exact
      Yields.pure
        (dustFramed_of_dusted base msg hSets hScale hPoints)
  · intro _
    refine Yields.bind
      (Yields.mapM fun point _ =>
        dustReturn_yields rand sqrt probability minRange
          maxRange point) ?_
    intro points hPoints
    exact
      Yields.pure (dustFramed_of_moved base msg hSets hPoints)

theorem applyIntensityScale_yields :
    Yields
      (applyIntensityScale h base msg : Drawing G (PointCloud2 K))
      fun out =>
        ∀ keys, "intensity_scale" ∈ keys →
          Framed (parts keys) base.Sets msg out := by
  unfold applyIntensityScale
  refine Yields.bind
    (product_yields h base "intensity_scale") ?_
  intro intensityScale hScale
  refine Yields.ite ?_ fun hScaled => Yields.ite ?_ ?_
  · intro _
    exact Yields.pure fun _ _ => Framed.refl msg
  · intro _
    exact Yields.pure fun _ _ => Framed.refl msg
  · intro _
    refine Yields.pure fun keys hKey => ?_
    have hSets := not_imp_comm.mp hScale hScaled
    refine points_framed msg ?_ (Or.inr ?_)
      (Or.inl ⟨_, hKey, hSets⟩)
    · rw [List.forall₂_map_right_iff]
      exact List.forall₂_same.mpr fun _ _ => rfl
    · rw [List.forall₂_map_right_iff]
      exact List.forall₂_same.mpr fun _ _ => rfl

/- The keys that change intensities. -/
def dimmingKeys : List String :=
  "dust_return_probability" :: intensityKeys

theorem change_yields
    (moment : Moment)
    (memory : Unit) :
    Yields (change rand sqrt moment base msg memory)
      fun result =>
        Framed (parts dimmingKeys) base.Sets msg result.1 ∧
          ((∀ key ∈ intensityKeys, ¬ base.Sets key) →
            Dims base msg result.1) := by
  unfold change
  refine Yields.bind
    (applyPointDropout_yields rand _ base msg) ?_
  intro dropped hDropped
  refine Yields.bind
    (applyRangeNoise_yields rand sqrt _ base dropped) ?_
  intro noisy hNoisy
  refine Yields.bind
    (applyDustReturns_yields rand sqrt _ base noisy) ?_
  intro dusty hDusty
  refine Yields.bind
    (applyIntensityScale_yields _ base dusty) ?_
  intro scaled hScaled
  have hMoved :
      ∀ keys, Framed (parts keys) base.Sets msg noisy :=
    fun keys => (hDropped keys).trans (hNoisy keys)
  refine Yields.pure ⟨?_, ?_⟩
  · have hDust := hDusty.framed dimmingKeys List.mem_cons_self
    have hScale :=
      hScaled dimmingKeys
        (List.mem_cons_of_mem _ List.mem_cons_self)
    exact ((hMoved _).trans hDust).trans hScale
  · intro hUnset
    simp only [intensityKeys, List.forall_mem_cons] at hUnset
    have hDims := hDusty.dims hUnset.2.1
    -- The passes before and after leave intensities alone.
    have hBefore :=
      intensity_of_framed (hMoved []) (by simp)
    have hAfter :=
      intensity_of_framed
        (hScaled ["intensity_scale"] (by simp))
        (by simpa using hUnset.1)
    unfold Dims at hDims ⊢
    rw [hAfter, ← hBefore]
    exact hDims

theorem touchesOnlyNamed :
    TopicInjector.TouchesOnlyNamed rand (change rand sqrt)
      (parts dimmingKeys) TopicInjector.neverReplaced := by
  refine TopicInjector.touchesOnlyNamed_of_change ?_
    (covers_parts dimmingKeys) ?_
  · intro moment base msg memory hNone
    refine ⟨memory, ?_⟩
    simp [change, applyPointDropout, applyRangeNoise,
      applyDustReturns, applyIntensityScale, activeMaxDouble,
      activeProductDouble, foldActive_of_noneActive hNone]
  · intro moment base msg memory _
    exact
      (change_yields rand sqrt base msg moment memory).imp
        fun result hResult => hResult.1

/-
  Without a configured intensity scale the intensities of
  what is produced are as before, or those of dust returns.
-/
def DustDims : Prop :=
  ∀ moment msg (s : TopicInjector G Unit (PointCloud2 K)) out,
    TopicInjector.Produces rand (change rand sqrt) moment msg s
        out →
      (∀ key ∈ intensityKeys, ¬ s.base.Sets key) →
        Dims s.base msg out

theorem dustDims : DustDims rand sqrt := by
  intro moment msg s out hProduces hUnset
  rcases TopicInjector.change_of_produces hProduces with
    ⟨g, memory, next, hChange⟩
  have hResult :=
    change_yields rand sqrt s.base msg moment s.memory g _ next
      hChange
  exact hResult.2 hUnset

end pointCloudFaultInjector

------------------------------------------------------------
-- Dust Without A Configured Intensity
------------------------------------------------------------

namespace DustReturns

open pointCloudFaultInjector

/- Every draw is one half. -/
def rand : RandomLibrary Unit Unit where
  canonical g := (1 / 2, g)
  newNormal := ()
  standardNormal state g := ((0, state), g)

/- The root of a square of a rational. -/
def sqrt : Number → Number
| .finite q =>
    .finite (Nat.sqrt q.num.toNat / Nat.sqrt q.den)
| x => x

/- An active fault turns every point into dust. -/
def injector : TopicInjector Unit Unit PointCloud2 where
  base :=
    let fault : FaultConfig :=
      { id := "dust_returns"
        injectorId := "cloud"
        config :=
          ((UnorderedMap.empty.insert "dust_return_probability"
            "1.0").insert "dust_min_range" "1.0").insert
            "dust_max_range" "1.0" }
    let created : FaultInjectorBase :=
      { config := { id := "cloud", type := "point_cloud" } }
    (created.addFault fault).activateFault "dust_returns"
  rng := ()
  memory := ()

/- A cloud of one point. -/
def cloud (x intensity : ℚ) : PointCloud2 :=
  let field (name : String) : PointField :=
    { name := name, datatype := PointField.float32 }
  let point : CloudPoint :=
    { x := .finite x
      y := .zero
      z := .zero
      intensity := .finite intensity }
  { fields :=
      [field "x", field "y", field "z", field "intensity"]
    points := [point] }

/- The keys that are set do not name the intensity. -/
theorem intensity_unset :
    ∀ key ∈ intensityKeys, ¬ injector.base.Sets key := by
  intro key hKey hSets
  rcases hSets with ⟨text, hText⟩
  have hTexts :
      injector.base.activeTexts .insertion key = [] := by
    simp only [intensityKeys, List.mem_cons,
      List.not_mem_nil, or_false] at hKey
    rcases hKey with hKey | hKey
    · subst hKey
      decide +kernel
    · subst hKey
      decide +kernel
  have hMem :
      text ∈ injector.base.activeTexts .insertion key :=
    mem_activeTexts_iff.mpr hText
  rw [hTexts] at hMem
  cases hMem

/- The intensity of the point changes all the same. -/
theorem dust_changes_intensity :
    ¬ TopicInjector.TouchesOnlyNamed rand (change rand sqrt)
      (parts intensityKeys) TopicInjector.neverReplaced := by
  intro hTouches
  have hPublished :
      (TopicInjector.onMessage rand (change rand sqrt)
          { h := .insertion, now := 0 } (cloud 10 7)
          injector).map Prod.snd =
        some [cloud 1 (7 / 5)] := by
    decide +kernel
  rcases Option.map_eq_some_iff.mp hPublished with
    ⟨⟨t, published⟩, hArrive, hOut⟩
  have hMember : cloud 1 (7 / 5) ∈ published := by
    change published = _ at hOut
    rw [hOut]
    exact List.mem_singleton_self _
  have hFramed :=
    hTouches.framed _ _ injector (cloud 1 (7 / 5))
      (fun hReplaced => hReplaced)
      ⟨t, published, hArrive, Or.inl hMember⟩
  have hSame := intensity_of_framed hFramed intensity_unset
  exact absurd hSame (by decide +kernel)

end DustReturns
