import FaultInjection.Foundations.SameDraws
import FaultInjection.Injectors.NamedPoints

/-
  The two loops for dust returns agree.

  Both loops make the same decisions about a point: whether
  it is converted, and how far it is moved. Only the loop for
  clouds with intensities changes an intensity, and it does
  so for the converted points. The intensities are meant to
  share no bytes with the coordinates.

  Key definitions include:
    * `pointCloudFaultInjector.conversion`
    * `pointCloudFaultInjector.dustConversions`
    * `pointCloudFaultInjector.converted`
    * `pointCloudFaultInjector.WithoutIntensity`
    * `pointCloudFaultInjector.removeIntensity`

  Key theorems include:
    * `pointCloudFaultInjector.dustReturns_with_intensity`
    * `pointCloudFaultInjector.dustReturns_without_intensity`
    * `pointCloudFaultInjector.dust_loops_agree`
-/

namespace pointCloudFaultInjector

variable {G N : Type}
variable {K : Type}

------------------------------------------------------------
-- Clouds Without Intensities
------------------------------------------------------------

/-
  The first cloud has intensities. The second one has none,
  and the same points otherwise.
-/
structure WithoutIntensity (a b : PointCloud2 K) : Prop where
  intensity : hasFloat32Field a "intensity" = true
  noIntensity : hasFloat32Field b "intensity" = false
  fields : hasCoordinates b = hasCoordinates a
  points : a.points.map coordinates = b.points.map coordinates

/- The same cloud without its field for intensities. -/
def removeIntensity (msg : PointCloud2 K) : PointCloud2 K :=
  { msg with
    fields :=
      msg.fields.filter fun field =>
        field.name ≠ "intensity" }

/- Other fields are not affected by the removal. -/
theorem hasFloat32Field_removeIntensity
    (msg : PointCloud2 K)
    (fieldName : String) :
    hasFloat32Field (removeIntensity msg) fieldName =
      (hasFloat32Field msg fieldName &&
        decide (fieldName ≠ "intensity")) := by
  unfold hasFloat32Field removeIntensity
  rw [List.any_filter]
  by_cases hName : fieldName = "intensity"
  · subst hName
    simp only [ne_eq, not_true_eq_false, decide_false,
      Bool.and_false, List.any_eq_false]
    intro field _ hField
    simp at hField
    exact hField.1 hField.2.1
  · simp only [ne_eq, hName, not_false_eq_true, decide_true,
      Bool.and_true]
    congr 1
    funext field
    by_cases hField : field.name = fieldName
    · simp [hField, hName]
    · simp [hField]

theorem withoutIntensity_removeIntensity
    {msg : PointCloud2 K}
    (hIntensity : hasFloat32Field msg "intensity" = true) :
    WithoutIntensity msg (removeIntensity msg) where
  intensity := hIntensity
  noIntensity := by
    rw [hasFloat32Field_removeIntensity]
    simp
  fields := by
    unfold hasCoordinates
    simp [hasFloat32Field_removeIntensity]
  points := rfl

------------------------------------------------------------
-- Decisions
------------------------------------------------------------

variable [Field K]
variable [LinearOrder K]
variable (rand : RandomLibrary G N)
variable (sqrt : Number K → Number K)
variable (h : HashOrder String)
variable (base : FaultInjectorBase)

/-
  By which factor a point is moved when it is converted to a
  dust return, none when it is left as it is.
-/
def conversion
    (probability minRange maxRange : Number)
    (point : CloudPoint K) : Drawing G (Option (Number K)) := do
  if ¬ (← rand.bernoulli probability) then
    return none
  else
    match movableRange sqrt point with
    | none => return none
    | some range =>
        let dustRange ← rand.uniform minRange maxRange
        return some (dustRange.cast.div range)

/- The decisions of the whole pass, one for each point. -/
def dustConversions
    (msg : PointCloud2 K) :
    Drawing G (List (Option (Number K))) := do
  let untouched := msg.points.map fun _ => none
  let probability ←
    base.activeMaxDouble h "dust_return_probability" .zero
  if probability.le .zero then
    return untouched
  else if ¬ hasCoordinates msg then
    return untouched
  else
    let minRange ←
      base.activeMaxDouble h "dust_min_range"
        (.finite (1 / 5))
    let maxRange ←
      activeMinDouble h base "dust_max_range" (.finite 2)
    if maxRange.lt minRange then
      return untouched
    else
      let _ ←
        activeProductDoubleOrDefault h base
          "dust_intensity_scale" (.finite (1 / 5))
      msg.points.mapM
        (conversion rand sqrt probability minRange maxRange)

/- A point after its decision. -/
def converted
    (dim : Number K → Number K)
    (point : CloudPoint K) : Option (Number K) → CloudPoint K
| none => point
| some scale =>
    { scaled scale point with
      intensity := dim point.intensity }

------------------------------------------------------------
-- Points
------------------------------------------------------------

/- What is decided depends on the coordinates alone. -/
theorem movableRange_eq_of_coordinates
    {p q : CloudPoint K}
    (hSame : coordinates p = coordinates q) :
    movableRange sqrt p = movableRange sqrt q := by
  rcases p with ⟨x, y, z, _, _⟩
  rcases q with ⟨x', y', z', _, _⟩
  simp only [coordinates, Prod.mk.injEq] at hSame
  rcases hSame with ⟨hX, hY, hZ⟩
  subst hX hY hZ
  rfl

theorem coordinates_converted
    {p q : CloudPoint K}
    (hSame : coordinates p = coordinates q)
    (dim dim' : Number K → Number K)
    (decision : Option (Number K)) :
    coordinates (converted dim p decision) =
      coordinates (converted dim' q decision) := by
  cases decision with
  | none => exact hSame
  | some scale =>
      simp only [coordinates, Prod.mk.injEq] at hSame
      simp only [coordinates, converted, scaled, hSame]

theorem dustReturnWithIntensity_sameDraws
    (probability minRange maxRange intensityScale : Number)
    (p : CloudPoint K) :
    SameDraws
      (dustReturnWithIntensity rand sqrt probability minRange
        maxRange intensityScale p)
      (conversion rand sqrt probability minRange maxRange p)
      fun q decision =>
        q = converted (·.mul intensityScale.cast) p decision := by
  unfold dustReturnWithIntensity conversion
  refine SameDraws.bind_same fun hit => ?_
  refine SameDraws.ite (fun _ => SameDraws.pure rfl) ?_
  intro _
  cases movableRange sqrt p with
  | none => exact SameDraws.pure rfl
  | some range =>
      refine SameDraws.bind_same fun dustRange => ?_
      exact SameDraws.pure rfl

theorem dustReturn_sameDraws
    (probability minRange maxRange : Number)
    {p q : CloudPoint K}
    (hSame : coordinates p = coordinates q) :
    SameDraws
      (dustReturn rand sqrt probability minRange maxRange q)
      (conversion rand sqrt probability minRange maxRange p)
      fun r decision => r = converted id q decision := by
  unfold dustReturn conversion
  rw [movableRange_eq_of_coordinates sqrt hSame]
  refine SameDraws.bind_same fun hit => ?_
  refine SameDraws.ite (fun _ => SameDraws.pure rfl) ?_
  intro _
  cases movableRange sqrt q with
  | none => exact SameDraws.pure rfl
  | some range =>
      refine SameDraws.bind_same fun dustRange => ?_
      exact SameDraws.pure rfl

/- Without conversions all points stay as they are. -/
theorem zipWith_converted_untouched
    (dim : Number K → Number K)
    {α : Type}
    {points : List (CloudPoint K)}
    {others : List α}
    (hLength : others.length = points.length) :
    List.zipWith (converted dim) points
        (others.map fun _ => none) =
      points := by
  induction points generalizing others with
  | nil => rfl
  | cons p points ih =>
      cases others with
      | nil => cases hLength
      | cons other others =>
          rw [List.map_cons, List.zipWith_cons_cons]
          rw [ih (Nat.succ.inj hLength)]
          rfl

/- Decisions move points with the same coordinates alike. -/
theorem coordinates_zipWith_converted
    {points others : List (CloudPoint K)}
    (hSame :
      points.map coordinates = others.map coordinates)
    (dim dim' : Number K → Number K)
    (decisions : List (Option (Number K))) :
    (List.zipWith (converted dim) points decisions).map
        coordinates =
      (List.zipWith (converted dim') others decisions).map
        coordinates := by
  induction points generalizing others decisions with
  | nil =>
      rw [List.map_eq_nil_iff.mp hSame.symm]
      rfl
  | cons p points ih =>
      cases others with
      | nil => cases hSame
      | cons q others =>
          rw [List.map_cons, List.map_cons,
            List.cons.injEq] at hSame
          cases decisions with
          | nil => rfl
          | cons decision decisions =>
              rw [List.zipWith_cons_cons,
                List.zipWith_cons_cons, List.map_cons,
                List.map_cons, ih hSame.2,
                coordinates_converted hSame.1 dim dim']

------------------------------------------------------------
-- Clouds
------------------------------------------------------------

/-
  What the pass makes of a cloud with intensities. The scale
  is the one that is configured if a point is converted.
-/
def DimsConverted
    (msg out : PointCloud2 K)
    (decisions : List (Option (Number K))) : Prop :=
  decisions.length = msg.points.length ∧
    ∃ intensityScale,
      ((∃ decision ∈ decisions, decision.isSome = true) →
        activeProductDoubleOrDefault h base
            "dust_intensity_scale" (.finite (1 / 5)) =
          .ok intensityScale) ∧
      out =
        { msg with
          points :=
            List.zipWith (converted (·.mul intensityScale.cast))
              msg.points decisions }

/- What the pass makes of a cloud without intensities. -/
def MovesConverted
    (msg out : PointCloud2 K)
    (decisions : List (Option (Number K))) : Prop :=
  out =
    { msg with
      points :=
        List.zipWith (converted id) msg.points decisions }

/- A pass that is skipped converts nothing. -/
theorem dimsConverted_untouched
    (msg : PointCloud2 K) :
    DimsConverted h base msg msg
      (msg.points.map fun _ => none) := by
  refine ⟨by rw [List.length_map], .one, ?_, ?_⟩
  · rintro ⟨decision, hMember, hSome⟩
    rcases List.mem_map.mp hMember with ⟨_, _, hNone⟩
    rw [← hNone] at hSome
    cases hSome
  · rw [zipWith_converted_untouched _ rfl]

theorem movesConverted_untouched
    {a b : PointCloud2 K}
    (hPoints :
      a.points.map coordinates = b.points.map coordinates) :
    MovesConverted b b (a.points.map fun _ => none) := by
  unfold MovesConverted
  rw [zipWith_converted_untouched]
  have hLength := congrArg List.length hPoints
  rw [List.length_map, List.length_map] at hLength
  exact hLength

theorem dustReturns_with_intensity
    {a : PointCloud2 K}
    (hIntensity : hasFloat32Field a "intensity" = true) :
    SameDraws (applyDustReturns rand sqrt h base a)
      (dustConversions rand sqrt h base a)
      (DimsConverted h base a) := by
  have hSkip :
      SameDraws (pure a : Drawing G (PointCloud2 K))
        (pure (a.points.map fun _ => none))
        (DimsConverted h base a) :=
    SameDraws.pure (dimsConverted_untouched h base a)
  unfold applyDustReturns dustConversions
  simp only [hIntensity, if_true]
  refine SameDraws.bind_same fun probability => ?_
  refine SameDraws.ite (fun _ => hSkip) fun _ => ?_
  refine SameDraws.ite (fun _ => hSkip) fun _ => ?_
  refine SameDraws.bind_same fun minRange => ?_
  refine SameDraws.bind_same fun maxRange => ?_
  refine SameDraws.ite (fun _ => hSkip) fun _ => ?_
  refine SameDraws.bind_yields
    (Yields.lift fun scale hScale => hScale) ?_
  intro scale hScale
  refine SameDraws.bind_pure_left
    (SameDraws.mapM_zipWith
      (List.forall₂_same.mpr fun point _ =>
        dustReturnWithIntensity_sameDraws rand sqrt
          probability minRange maxRange scale point)) ?_
  rintro points decisions ⟨hLength, hPoints⟩
  refine ⟨hLength, scale, fun _ => hScale, ?_⟩
  rw [hPoints]

theorem dustReturns_without_intensity
    {a b : PointCloud2 K}
    (hTwins : WithoutIntensity a b) :
    SameDraws (applyDustReturns rand sqrt h base b)
      (dustConversions rand sqrt h base a)
      (MovesConverted b) := by
  have hSkip :
      SameDraws (pure b : Drawing G (PointCloud2 K))
        (pure (a.points.map fun _ => none))
        (MovesConverted b) :=
    SameDraws.pure (movesConverted_untouched hTwins.points)
  have hPairs :
      List.Forall₂
        (fun q p => coordinates p = coordinates q)
        b.points a.points := by
    refine List.Forall₂.flip ?_
    have hSame :
        List.Forall₂ Eq (a.points.map coordinates)
          (b.points.map coordinates) :=
      List.forall₂_eq_eq_eq ▸ hTwins.points
    rw [List.forall₂_map_left_iff,
      List.forall₂_map_right_iff] at hSame
    exact hSame
  unfold applyDustReturns dustConversions
  simp only [hTwins.noIntensity, hTwins.fields,
    Bool.false_eq_true, if_false]
  refine SameDraws.bind_same fun probability => ?_
  refine SameDraws.ite (fun _ => hSkip) fun _ => ?_
  refine SameDraws.ite (fun _ => hSkip) fun _ => ?_
  refine SameDraws.bind_same fun minRange => ?_
  refine SameDraws.bind_same fun maxRange => ?_
  refine SameDraws.ite (fun _ => hSkip) fun _ => ?_
  refine SameDraws.bind_same fun scale => ?_
  refine SameDraws.bind_pure_left
    (SameDraws.mapM_zipWith
      (hPairs.imp fun q p hSame =>
        dustReturn_sameDraws rand sqrt probability minRange
          maxRange hSame)) ?_
  rintro points decisions ⟨_, hPoints⟩
  unfold MovesConverted
  rw [hPoints]

/-
  From every generator both loops throw, or both leave the
  same coordinates and the same generator. A list of
  decisions then tells which points were converted: both
  loops move exactly these, and the loop for clouds with
  intensities scales exactly their intensities.
-/
theorem dust_loops_agree
    {a b : PointCloud2 K}
    (hTwins : WithoutIntensity a b)
    (g : G) :
    ((applyDustReturns rand sqrt h base a).run g = none ∧
        (applyDustReturns rand sqrt h base b).run g = none) ∨
      ∃ outA outB next decisions,
        (applyDustReturns rand sqrt h base a).run g =
            some (outA, next) ∧
          (applyDustReturns rand sqrt h base b).run g =
            some (outB, next) ∧
          outA.points.map coordinates =
            outB.points.map coordinates ∧
          (dustConversions rand sqrt h base a).run g =
            some (decisions, next) ∧
          DimsConverted h base a outA decisions ∧
          MovesConverted b outB decisions := by
  have hA :=
    dustReturns_with_intensity rand sqrt h base
      hTwins.intensity
  have hB := dustReturns_without_intensity rand sqrt h base hTwins
  rcases hA.cases g with
    ⟨hNone, hNoDecisions⟩ |
      ⟨outA, decisions, next, hRunA, hDecisions, hDims⟩
  · rcases hB.cases g with
      ⟨hNoneB, _⟩ | ⟨_, _, _, _, hSome, _⟩
    · exact .inl ⟨hNone, hNoneB⟩
    · rw [hNoDecisions] at hSome
      cases hSome
  · rcases hB.cases g with
      ⟨_, hNoDecisions⟩ | ⟨outB, _, _, hRunB, hSome, hMoves⟩
    · rw [hDecisions] at hNoDecisions
      cases hNoDecisions
    · rw [hDecisions] at hSome
      cases hSome
      refine
        .inr
          ⟨outA, outB, next, decisions, hRunA, hRunB, ?_,
            hDecisions, hDims, hMoves⟩
      rcases hDims.2 with ⟨scale, _, hOutA⟩
      rw [hOutA, hMoves]
      exact
        coordinates_zipWith_converted hTwins.points _ _ _

end pointCloudFaultInjector

------------------------------------------------------------
-- A Converted Point
------------------------------------------------------------

namespace DustReturns

open pointCloudFaultInjector

/- The pass over one point, with and without intensity. -/
theorem dust_loops_agree_on_one_point :
    ((applyDustReturns rand sqrt .insertion injector.base
            (cloud 10 7)).run () =
          none ∧
        (applyDustReturns rand sqrt .insertion injector.base
            (removeIntensity (cloud 10 7))).run () =
          none) ∨
      ∃ outA outB next decisions,
        (applyDustReturns rand sqrt .insertion injector.base
              (cloud 10 7)).run () =
            some (outA, next) ∧
          (applyDustReturns rand sqrt .insertion injector.base
              (removeIntensity (cloud 10 7))).run () =
            some (outB, next) ∧
          outA.points.map coordinates =
            outB.points.map coordinates ∧
          (dustConversions rand sqrt .insertion injector.base
              (cloud 10 7)).run () =
            some (decisions, next) ∧
          DimsConverted .insertion injector.base (cloud 10 7)
            outA decisions ∧
          MovesConverted (removeIntensity (cloud 10 7)) outB
            decisions :=
  dust_loops_agree rand sqrt .insertion injector.base
    (withoutIntensity_removeIntensity (by decide)) ()

/- The point is converted, from a range of ten to one. -/
example :
    (dustConversions rand sqrt .insertion injector.base
        (cloud 10 7)).run () =
      some ([some (.finite (1 / 10))], ()) := by
  decide +kernel

end DustReturns
