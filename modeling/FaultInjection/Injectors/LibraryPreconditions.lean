import FaultInjection.Foundations.Yields
import FaultInjection.Injectors.AllowedCalls

/-
  When the callbacks keep the preconditions of the library.

  Three guards do not suffice: one covers three axes together,
  one comes before a cast to single precision, and the limits
  of a scan are not checked at all.

  Key definitions include:
    * `imuFaultInjector.NoiseOnAllAxes`
    * `scanFaultInjector.LimitsOrdered`
    * `pointCloudFaultInjector.NoiseSurvivesCast`
    * `TopicInjector.KeepsPreconditions`
    * `TopicInjector.AllSatisfy`

  Key theorems include:
    * `imuFaultInjector.change_allowed_iff`
    * `scanFaultInjector.change_allowed_iff`
    * `pointCloudFaultInjector.change_allowed_iff`
    * `library_preconditions_iff`
-/

open FaultInjectorBase LibraryCall Noting NumberText

------------------------------------------------------------
-- Inertial Sensors
------------------------------------------------------------

namespace imuFaultInjector

variable {G N : Type}
variable {rand : RandomLibrary G N}
variable (h : HashOrder String)
variable (base : FaultInjectorBase)

/- The sums and maxima that are read, up to the last noise. -/
def readSums : List String :=
  [ "angular_velocity_z_bias",
    "linear_acceleration_x_bias",
    "linear_acceleration_y_bias",
    "linear_acceleration_z_bias" ]

def readMaxima : List String :=
  [ "angular_velocity_z_noise_stddev",
    "linear_acceleration_x_noise_stddev",
    "linear_acceleration_y_noise_stddev",
    "linear_acceleration_z_noise_stddev" ]

/- No read throws before the last distributions. -/
def AllRead : Prop :=
  (∀ key ∈ readSums, SumRead h base key) ∧
    ∀ key ∈ readMaxima, MaximumRead h base key

/- With noise on one linear axis there is noise on all. -/
def NoiseOnAllAxes (_msg : Imu) : Prop :=
  AllRead h base →
    (SetsAbove base "linear_acceleration_x_noise_stddev"
          .zero ↔
        SetsAbove base "linear_acceleration_y_noise_stddev"
          .zero) ∧
      (SetsAbove base "linear_acceleration_y_noise_stddev"
          .zero ↔
        SetsAbove base "linear_acceleration_z_noise_stddev"
          .zero)

variable {h base}

theorem notedApplyAngularVelocityNoise_allowed
    (msg : Imu)
    (g : G) :
    AllNotes Allowed
      (notedApplyAngularVelocityNoise rand h base msg) g := by
  unfold notedApplyAngularVelocityNoise
  rw [allNotes_read_iff]
  intro stddev hStddev
  rw [allNotes_ite_iff]
  split
  · exact allNotes_pure _
  · rename_i hNonzero
    rw [allNotes_note_bind_iff, allNotes_draw_iff]
    exact
      ⟨zero_lt_of_ne_zero hStddev hNonzero,
        fun _ _ _ => allNotes_pure _⟩

/- With noise on one axis each distribution is allowed. -/
def LinearNoiseAllowed
    (h : HashOrder String)
    (base : FaultInjectorBase) : Prop :=
  ∀ x y z,
    base.activeMaxDouble h
          "linear_acceleration_x_noise_stddev" .zero =
        .ok x →
      base.activeMaxDouble h
            "linear_acceleration_y_noise_stddev" .zero =
          .ok y →
        base.activeMaxDouble h
              "linear_acceleration_z_noise_stddev" .zero =
            .ok z →
          (Number.zero.lt x = true ↔
              Number.zero.lt y = true) ∧
            (Number.zero.lt y = true ↔
              Number.zero.lt z = true)

theorem notedApplyLinearAccelerationNoise_allowed_iff
    (msg : Imu)
    (g : G) :
    AllNotes Allowed
        (notedApplyLinearAccelerationNoise rand h base msg)
        g ↔
      LinearNoiseAllowed h base := by
  unfold notedApplyLinearAccelerationNoise LinearNoiseAllowed
  simp only [allNotes_read_iff, allNotes_ite_iff,
    allNotes_note_bind_iff, allNotes_draw_iff]
  constructor
  · intro hAll x y z hX hY hZ
    have hCalls := hAll x hX y hY z hZ
    split at hCalls
    · rename_i hNone
      rcases hNone with ⟨hZeroX, hZeroY, hZeroZ⟩
      simp [hZeroX, hZeroY, hZeroZ]
    · have hPositiveX : Number.zero.lt x = true := hCalls.1
      have hPositiveY : Number.zero.lt y = true := hCalls.2.1
      have hPositiveZ : Number.zero.lt z = true :=
        hCalls.2.2.1
      simp [hPositiveX, hPositiveY, hPositiveZ]
  · intro hAxes x hX y hY z hZ
    have hSame := hAxes x y z hX hY hZ
    split
    · exact allNotes_pure msg
    · rename_i hSome
      have hPositive : Number.zero.lt x = true := by
        by_contra hNot
        have hNotY := hSame.1.not.mp hNot
        have hNotZ := hSame.2.not.mp hNotY
        exact
          hSome
            ⟨(eq_zero_iff_not_lt hX).mpr hNot,
              (eq_zero_iff_not_lt hY).mpr hNotY,
              (eq_zero_iff_not_lt hZ).mpr hNotZ⟩
      have hPositiveY := hSame.1.mp hPositive
      exact
        ⟨hPositive, hPositiveY, hSame.2.mp hPositiveY,
          fun _ _ _ _ _ _ _ _ _ => allNotes_pure _⟩

theorem isSome_angularVelocityBias_iff
    (msg : Imu)
    (g : G) :
    ((applyAngularVelocityBias h base msg).run g).isSome =
        true ↔
      SumRead h base "angular_velocity_z_bias" := by
  unfold applyAngularVelocityBias SumRead
  refine isSome_read_iff _ fun sum => ?_
  split
  · rfl
  · rfl

theorem isSome_angularVelocityNoise_iff
    (msg : Imu)
    (g : G) :
    ((erase
              (notedApplyAngularVelocityNoise rand h base
                msg)).run
            g).isSome =
        true ↔
      MaximumRead h base
        "angular_velocity_z_noise_stddev" := by
  unfold notedApplyAngularVelocityNoise MaximumRead
  rw [erase_bind, erase_liftM_except]
  refine isSome_read_iff _ fun stddev => ?_
  split
  · rfl
  · rfl

theorem isSome_linearAccelerationBias_iff
    (msg : Imu)
    (g : G) :
    ((applyLinearAccelerationBias h base msg).run g).isSome =
        true ↔
      SumRead h base "linear_acceleration_x_bias" ∧
        SumRead h base "linear_acceleration_y_bias" ∧
          SumRead h base "linear_acceleration_z_bias" := by
  unfold applyLinearAccelerationBias SumRead
  simp only [isSome_read_bind_iff]
  have hEnds :
      ∀ (c : Prop) [Decidable c] (moved : Imu),
        ((if c then (pure msg : Drawing G Imu)
          else pure moved).run g).isSome = true := by
    intro c _ moved
    split
    · rfl
    · rfl
  simp only [hEnds, and_true]
  tauto

/- On all axes or on none, for the reads and for the faults. -/
theorem noiseOnAllAxes_iff
    (msg : Imu) :
    NoiseOnAllAxes h base msg ↔
      (SumRead h base "angular_velocity_z_bias" →
        MaximumRead h base "angular_velocity_z_noise_stddev" →
          SumRead h base "linear_acceleration_x_bias" ∧
              SumRead h base "linear_acceleration_y_bias" ∧
                SumRead h base
                  "linear_acceleration_z_bias" →
            LinearNoiseAllowed h base) := by
  unfold NoiseOnAllAxes AllRead readSums readMaxima
  simp only [List.forall_mem_cons, List.not_mem_nil,
    IsEmpty.forall_iff, implies_true, and_true]
  constructor
  · intro hAxes hTurn hSpin hBiases x y z hX hY hZ
    have hSame :=
      hAxes
        ⟨⟨hTurn, hBiases⟩, hSpin, ⟨x, hX⟩, ⟨y, hY⟩, ⟨z, hZ⟩⟩
    rw [setsAbove_zero_iff hX, setsAbove_zero_iff hY,
      setsAbove_zero_iff hZ]
      at hSame
    exact hSame
  · rintro hNoise ⟨⟨hTurn, hBiases⟩, hSpin, ⟨x, hX⟩, ⟨y, hY⟩,
      z, hZ⟩
    rw [setsAbove_zero_iff hX, setsAbove_zero_iff hY,
      setsAbove_zero_iff hZ]
    exact hNoise hTurn hSpin hBiases x y z hX hY hZ

/- The last distributions need noise on all axes or on none. -/
theorem change_allowed_iff
    (moment : Moment)
    (base : FaultInjectorBase)
    (msg : Imu)
    (memory : Unit)
    (g : G) :
    AllNotes Allowed
        (notedChange rand moment base msg memory) g ↔
      NoiseOnAllAxes moment.h base msg := by
  rw [noiseOnAllAxes_iff,
    ← isSome_angularVelocityBias_iff msg g]
  refine
    allNotes_bind_const_iff (allNotes_liftM _)
      fun turned next _ => ?_
  rw [← isSome_angularVelocityNoise_iff turned next]
  refine
    allNotes_bind_const_iff
      (notedApplyAngularVelocityNoise_allowed turned next)
      fun shaken next _ => ?_
  rw [← isSome_linearAccelerationBias_iff shaken next]
  refine
    allNotes_bind_const_iff (allNotes_liftM _)
      fun pushed next _ => ?_
  rw [allNotes_bind_iff,
    notedApplyLinearAccelerationNoise_allowed_iff]
  exact and_iff_left fun _ _ _ => allNotes_pure _

end imuFaultInjector

------------------------------------------------------------
-- Laser Scans
------------------------------------------------------------

namespace scanFaultInjector

variable {G N : Type}
variable {rand : RandomLibrary G N}

/- Some pass over the ranges clamps the finite ones. -/
def ClampsRanges
    (h : HashOrder String)
    (base : FaultInjectorBase) : Prop :=
  ∃ bias,
    base.activeSumDouble h "range_bias" .zero = .ok bias ∧
      (bias ≠ .zero ∨
        MaximumRead h base "range_noise_stddev" ∧
          SetsAbove base "range_noise_stddev" .zero)

def HasFiniteRange (msg : LaserScan) : Prop :=
  ∃ range ∈ msg.ranges, range.isFinite = true

/- The limits of a scan with a range to clamp are ordered. -/
def LimitsOrdered
    (h : HashOrder String)
    (base : FaultInjectorBase)
    (msg : LaserScan) : Prop :=
  HasFiniteRange msg →
    ClampsRanges h base →
      msg.rangeMin.le msg.rangeMax = true

theorem clampCalls_allowed_iff (msg : LaserScan) :
    (∀ c ∈ clampCalls msg, Allowed c) ↔
      (HasFiniteRange msg →
        msg.rangeMin.le msg.rangeMax = true) := by
  unfold clampCalls HasFiniteRange
  simp only [List.forall_mem_map, List.mem_filter]
  constructor
  · rintro hAll ⟨range, hMem, hFinite⟩
    exact hAll range ⟨hMem, hFinite⟩
  · rintro hOrdered range ⟨hMem, hFinite⟩
    exact hOrdered ⟨range, hMem, hFinite⟩

/- A range that is not finite is not changed. -/
theorem hasFiniteRange_of_changed
    {msg : LaserScan}
    {moved : Number → Number}
    (hFinite :
      HasFiniteRange
        { msg with
          ranges := msg.ranges.map fun range =>
            if range.isFinite then moved range else range }) :
    HasFiniteRange msg := by
  rcases hFinite with ⟨changed, hMem, hChanged⟩
  rcases List.mem_map.mp hMem with ⟨range, hRange, hSame⟩
  refine ⟨range, hRange, ?_⟩
  by_contra hNot
  rw [if_neg hNot] at hSame
  rw [hSame] at hNot
  exact hNot hChanged

theorem notedApplyRangeNoise_allowed_iff
    {h : HashOrder String}
    {base : FaultInjectorBase}
    (msg : LaserScan)
    (g : G) :
    AllNotes Allowed
        (notedApplyRangeNoise rand h base msg) g ↔
      (MaximumRead h base "range_noise_stddev" →
        SetsAbove base "range_noise_stddev" .zero →
          HasFiniteRange msg →
            msg.rangeMin.le msg.rangeMax = true) := by
  unfold notedApplyRangeNoise
  simp only [allNotes_read_iff, allNotes_ite_iff,
    allNotes_note_bind_iff, allNotes_noteAll_bind_iff,
    allNotes_draw_iff, clampCalls_allowed_iff]
  constructor
  · rintro hAll ⟨stddev, hStddev⟩ hAbove
    have hPositive := (setsAbove_zero_iff hStddev).mp hAbove
    have hCalls := hAll stddev hStddev
    rw [if_neg (not_le_zero_of_zero_lt hPositive)] at hCalls
    exact hCalls.2.1
  · intro hOrdered stddev hStddev
    split
    · exact allNotes_pure msg
    · rename_i hPositive
      have hLt := zero_lt_of_not_le_zero hStddev hPositive
      exact
        ⟨hLt,
          hOrdered ⟨stddev, hStddev⟩
            ((setsAbove_zero_iff hStddev).mpr hLt),
          fun _ _ _ => allNotes_pure _⟩

/- Only the limits of the scan can break a precondition. -/
theorem change_allowed_iff
    (moment : Moment)
    (base : FaultInjectorBase)
    (msg : LaserScan)
    (memory : Unit)
    (g : G) :
    AllNotes Allowed
        (notedChange rand moment base msg memory) g ↔
      LimitsOrdered moment.h base msg := by
  have hNoisy :
      ∀ (out : LaserScan) (next : G),
        AllNotes Allowed
            (do
              let out ←
                notedApplyRangeNoise rand moment.h base out
              let out ←
                applySectorDropout (G := G) moment.h base out
              return (out, memory))
            next ↔
          (MaximumRead moment.h base "range_noise_stddev" →
            SetsAbove base "range_noise_stddev" .zero →
              HasFiniteRange out →
                out.rangeMin.le out.rangeMax = true) := by
    intro out next
    rw [allNotes_bind_iff, notedApplyRangeNoise_allowed_iff]
    refine and_iff_left fun noisy next _ => ?_
    rw [allNotes_draw_iff]
    exact fun _ _ _ => allNotes_pure _
  unfold notedChange notedApplyRangeBias
  rw [bind_assoc, allNotes_read_iff]
  constructor
  · rintro hAll hFinite ⟨bias, hBias, hClamps⟩
    have hCalls := hAll bias hBias
    by_cases hZero : bias = .zero
    · rw [if_pos hZero, pure_bind, hNoisy] at hCalls
      rcases hClamps with hNonzero | hNoise
      · exact absurd hZero hNonzero
      · exact hCalls hNoise.1 hNoise.2 hFinite
    · rw [if_neg hZero, bind_assoc, allNotes_noteAll_bind_iff,
        clampCalls_allowed_iff] at hCalls
      exact hCalls.1 hFinite
  · intro hOrdered bias hBias
    by_cases hZero : bias = .zero
    · rw [if_pos hZero, pure_bind, hNoisy]
      intro hRead hAbove hFinite
      exact
        hOrdered hFinite
          ⟨bias, hBias, Or.inr ⟨hRead, hAbove⟩⟩
    · have hClamps : ClampsRanges moment.h base :=
        ⟨bias, hBias, Or.inl hZero⟩
      rw [if_neg hZero, bind_assoc, allNotes_noteAll_bind_iff,
        clampCalls_allowed_iff, pure_bind, hNoisy]
      refine ⟨fun hFinite => hOrdered hFinite hClamps, ?_⟩
      intro _ _ hFinite
      exact
        hOrdered (hasFiniteRange_of_changed hFinite) hClamps

end scanFaultInjector

------------------------------------------------------------
-- Point Clouds
------------------------------------------------------------

namespace pointCloudFaultInjector

variable {G N : Type}
variable {K : Type}
variable {rand : RandomLibrary G N}
variable {sqrt : Number K → Number K}
variable {h : HashOrder String}
variable {base : FaultInjectorBase}

/- What becomes zero in single precision, rounded to even. -/
def vanishing : Number := .finite (1 / 2 ^ 150)

/- A deviation is still positive when it is cast. -/
def NoiseSurvivesCast
    (h : HashOrder String)
    (base : FaultInjectorBase)
    (msg : PointCloud2 K) : Prop :=
  hasCoordinates msg = true →
    MaximumRead h base "point_dropout_probability" →
      MaximumRead h base "range_noise_stddev" →
        SetsAbove base "range_noise_stddev" .zero →
          SetsAbove base "range_noise_stddev" vanishing

theorem zero_le_vanishing :
    Number.zero.le vanishing = true := by
  decide +kernel

/- The schema has a probability of this name. -/
def IsProbability (key : String) : Prop :=
  ∃ field ∈ schemaForBuiltinInjectorType "point_cloud",
    field.key = key ∧
      field.type = "double" ∧ field.maxValue = some 1

/- An accepted probability is one that a distribution takes. -/
theorem bernoulli_allowed
    {key : String}
    {probability : Number}
    (hAccepted : base.Accepted "point_cloud")
    (hKey : IsProbability key)
    (hMax :
      base.activeMaxDouble h key .zero = .ok probability) :
    Allowed (.bernoulliDistribution probability) := by
  rcases hKey with ⟨field, hField, hKey, hType, hHigh⟩
  rcases activeMaxDouble_spec hMax (by decide) with
    ⟨hOwn, hNonneg, _⟩
  refine ⟨hNonneg, ?_⟩
  rcases hOwn with hZero | hActive
  · rw [hZero]
    exact TopicInjector.zero_le_one
  · rw [← hKey] at hActive
    have hBound :=
      (activeValue_bounds hAccepted hField hType
        hActive).2 1 hHigh
    rw [Number.le_iff_not_lt] at hNonneg ⊢
    exact ⟨nofun, hNonneg.1, hBound⟩

theorem notedApplyPointDropout_allowed
    (hAccepted : base.Accepted "point_cloud")
    (msg : PointCloud2 K)
    (g : G) :
    AllNotes Allowed
      (notedApplyPointDropout rand h base msg) g := by
  have hKey : IsProbability "point_dropout_probability" := by
    unfold IsProbability
    decide
  unfold notedApplyPointDropout
  rw [allNotes_read_iff]
  intro probability hProbability
  simp only [allNotes_ite_iff]
  split
  · exact allNotes_pure msg
  · split
    · exact allNotes_pure msg
    · rw [allNotes_note_bind_iff, allNotes_draw_iff]
      exact
        ⟨bernoulli_allowed hAccepted hKey hProbability,
          fun _ _ _ => allNotes_pure _⟩

theorem isSome_dropPoint
    (probability : Number)
    (point : CloudPoint K)
    (g : G) :
    ((dropPoint rand probability point).run g).isSome =
      true := by
  unfold dropPoint
  rw [isSome_bind_iff]
  refine ⟨_, rfl, ?_⟩
  split
  · rfl
  · rfl

/- Dropout ends if its probability is read. -/
theorem isSome_pointDropout_iff
    (msg : PointCloud2 K)
    (g : G) :
    ((applyPointDropout rand h base msg).run g).isSome =
        true ↔
      MaximumRead h base "point_dropout_probability" := by
  unfold applyPointDropout MaximumRead
  refine isSome_read_iff _ fun probability => ?_
  split
  · rfl
  · split
    · rfl
    · rw [isSome_bind_iff]
      have hPoints :=
        isSome_mapM
          (@isSome_dropPoint G N K rand probability)
          msg.points g
      rcases Option.isSome_iff_exists.mp hPoints with
        ⟨points, hRun⟩
      exact ⟨points, hRun, rfl⟩

/- Dropout keeps the fields of the cloud. -/
theorem fields_of_pointDropout
    {msg out : PointCloud2 K}
    {g next : G}
    (hRun :
      (erase (notedApplyPointDropout rand h base msg)).run g =
        some (out, next)) :
    out.fields = msg.fields := by
  rw [erase_notedApplyPointDropout] at hRun
  have hYields :
      Yields (applyPointDropout rand h base msg) fun out =>
        out.fields = msg.fields := by
    unfold applyPointDropout
    refine Yields.bind (Yields.anything _) fun _ _ => ?_
    refine Yields.ite (fun _ => Yields.pure rfl) fun _ => ?_
    refine Yields.ite (fun _ => Yields.pure rfl) fun _ => ?_
    refine Yields.bind (Yields.anything _) fun _ _ => ?_
    exact Yields.pure rfl
  exact hYields g out next hRun

variable [Field K]
variable [LinearOrder K]

theorem notedApplyRangeNoise_allowed_iff
    (msg : PointCloud2 K)
    (g : G) :
    AllNotes Allowed
        (notedApplyRangeNoise rand sqrt h base msg) g ↔
      (hasCoordinates msg = true →
        MaximumRead h base "range_noise_stddev" →
          SetsAbove base "range_noise_stddev" .zero →
            SetsAbove base "range_noise_stddev"
              vanishing) := by
  unfold notedApplyRangeNoise
  simp only [allNotes_read_iff, allNotes_ite_iff,
    allNotes_note_bind_iff, allNotes_draw_iff]
  constructor
  · rintro hAll hCoordinates ⟨stddev, hStddev⟩ hAbove
    have hPositive := (setsAbove_zero_iff hStddev).mp hAbove
    have hCalls := hAll stddev hStddev
    rw [if_neg (not_le_zero_of_zero_lt hPositive),
      if_neg (not_not_intro hCoordinates)] at hCalls
    rw [← lt_activeMaxDouble_iff hStddev zero_le_vanishing]
    exact (Number.zero_lt_toSingle_iff stddev).mp hCalls.1
  · intro hSurvives stddev hStddev
    split
    · exact allNotes_pure msg
    · rename_i hPositive
      split
      · exact allNotes_pure msg
      · rename_i hCoordinates
        have hLt := zero_lt_of_not_le_zero hStddev hPositive
        have hLarge :=
          hSurvives (not_not.mp hCoordinates)
            ⟨stddev, hStddev⟩
            ((setsAbove_zero_iff hStddev).mpr hLt)
        rw [← lt_activeMaxDouble_iff hStddev
          zero_le_vanishing] at hLarge
        exact
          ⟨(Number.zero_lt_toSingle_iff stddev).mpr hLarge,
            fun _ _ _ => allNotes_pure _⟩

/- Dust is drawn between bounds that are ordered as cast. -/
theorem uniform_allowed
    {minRange maxRange : Number}
    (hMin :
      base.activeMaxDouble h "dust_min_range"
          (.finite (1 / 5)) =
        .ok minRange)
    (hMax :
      activeMinDouble h base "dust_max_range" (.finite 2) =
        .ok maxRange)
    (hOrder : ¬ maxRange.lt minRange = true) :
    Allowed
      (.uniformRealDistribution minRange.toSingle
        maxRange.toSingle) := by
  have hLow := (activeMaxDouble_spec hMin (by simp)).2.1
  have hHigh := (activeMinDouble_spec hMax (by simp)).2.1
  refine Number.toSingle_le_toSingle ?_
  rw [Number.le_iff_not_lt] at hLow hHigh ⊢
  exact
    ⟨hHigh.2.1, hLow.1, Bool.eq_false_iff.mpr hOrder⟩

theorem notedApplyDustReturns_allowed
    (hAccepted : base.Accepted "point_cloud")
    (msg : PointCloud2 K)
    (g : G) :
    AllNotes Allowed
      (notedApplyDustReturns rand sqrt h base msg) g := by
  have hKey : IsProbability "dust_return_probability" := by
    unfold IsProbability
    decide
  unfold notedApplyDustReturns
  rw [allNotes_read_iff]
  intro probability hProbability
  simp only [allNotes_ite_iff]
  split
  · exact allNotes_pure msg
  · split
    · exact allNotes_pure msg
    · rw [allNotes_read_iff]
      intro minRange hMin
      rw [allNotes_read_iff]
      intro maxRange hMax
      rw [allNotes_ite_iff]
      split
      · exact allNotes_pure msg
      · rename_i hOrder
        rw [allNotes_note_bind_iff, allNotes_note_bind_iff]
        refine
          ⟨bernoulli_allowed hAccepted hKey hProbability,
            uniform_allowed hMin hMax hOrder, ?_⟩
        rw [allNotes_read_iff]
        intro intensityScale _
        rw [allNotes_ite_iff]
        split
        · rw [allNotes_draw_iff]
          exact fun _ _ _ => allNotes_pure _
        · rw [allNotes_draw_iff]
          exact fun _ _ _ => allNotes_pure _

/- Only the cast of a deviation can break a precondition. -/
theorem change_allowed_iff
    (moment : Moment)
    (base : FaultInjectorBase)
    (hAccepted : base.Accepted "point_cloud")
    (msg : PointCloud2 K)
    (memory : Unit)
    (g : G) :
    AllNotes Allowed
        (notedChange rand sqrt moment base msg memory) g ↔
      NoiseSurvivesCast moment.h base msg := by
  have hSplit :
      NoiseSurvivesCast moment.h base msg ↔
        (MaximumRead moment.h base
            "point_dropout_probability" →
          hasCoordinates msg = true →
            MaximumRead moment.h base "range_noise_stddev" →
              SetsAbove base "range_noise_stddev" .zero →
                SetsAbove base "range_noise_stddev"
                  vanishing) :=
    forall_comm
  rw [hSplit, ← isSome_pointDropout_iff msg g,
    ← erase_notedApplyPointDropout]
  refine
    allNotes_bind_const_iff
      (notedApplyPointDropout_allowed hAccepted msg g)
      fun dropped next hRun => ?_
  have hSame :
      hasCoordinates dropped = hasCoordinates msg := by
    unfold hasCoordinates hasFloat32Field
    rw [fields_of_pointDropout hRun]
  rw [allNotes_bind_iff, notedApplyRangeNoise_allowed_iff,
    hSame]
  refine and_iff_left fun noisy next _ => ?_
  rw [allNotes_bind_iff]
  refine
    ⟨notedApplyDustReturns_allowed hAccepted noisy next, ?_⟩
  intro dusty next _
  rw [allNotes_draw_iff]
  exact fun _ _ _ => allNotes_pure _

end pointCloudFaultInjector

------------------------------------------------------------
-- Runs
------------------------------------------------------------

namespace TopicInjector

open Transition

variable {G N S M : Type}

/- Each callback of the run keeps the preconditions. -/
def KeepsPreconditions
    (type : String)
    (rand : RandomLibrary G N)
    (change : Change G S M)
    (noted : NotedChange G S M)
    (s : TopicInjector G S M)
    (actions : List (Action M)) : Prop :=
  Along (step rand change) (CallsAllowed type rand noted) s
    actions

/- Each message of the run satisfies the condition. -/
def AllSatisfy
    (type : String)
    (rand : RandomLibrary G N)
    (change : Change G S M)
    (condition :
      HashOrder String → FaultInjectorBase → M → Prop)
    (s : TopicInjector G S M)
    (actions : List (Action M)) : Prop :=
  Along (step rand change) (Satisfies type rand condition) s
    actions

theorem keepsPreconditions_of_allowed
    {type : String}
    {rand : RandomLibrary G N}
    {change : Change G S M}
    {noted : NotedChange G S M}
    (hAllowed :
      ∀ moment base msg memory g,
        AllNotes Allowed (noted moment base msg memory) g)
    (s : TopicInjector G S M)
    (actions : List (Action M)) :
    KeepsPreconditions type rand change noted s actions := by
  refine along_of_forall ?_ s actions
  intro t a
  cases a with
  | arrive moment msg =>
      intro _
      rw [notedPrepare_allowed_iff]
      exact fun next _ => hAllowed _ _ _ _ _
  | flush now => trivial
  | change faultChange => trivial

end TopicInjector

open TopicInjector

namespace imuFaultInjector.NoiseOnOneAxis

def fault : FaultConfig :=
  { id := "shake"
    injectorId := "imu"
    config :=
      .ofList [("linear_acceleration_x_noise_stddev", "0.1")] }

def config : InjectorConfig :=
  { id := "imu", type := "imu" }

def scenario : ScenarioConfig :=
  { injectors := [config], faults := [fault] }

/- Every draw is zero. -/
def rand : RandomLibrary Unit Unit where
  canonical := fun g => (0, g)
  newNormal := ()
  standardNormal := fun state g => ((0, state), g)

def moment : Moment := { h := .insertion, now := 0 }

/- A first message with the fault active. -/
def actions : List (Action Imu) :=
  [.change (.add fault), .change (.activate "shake"),
    .arrive moment {}]

def base : FaultInjectorBase :=
  let created : FaultInjectorBase := { config := config }
  (created.addFault fault).activateFault "shake"

theorem accepted : base.Accepted "imu" :=
  @accepted_of_validated .insertion base scenario config
    rfl (by decide +kernel)

/- No value of the fault makes a read throw. -/
theorem allRead : AllRead moment.h base := by
  have hSums :
      ∀ key ∈ readSums,
        (base.activeSumDouble moment.h key .zero).toOption =
          some .zero := by
    decide +kernel
  have hMaxima :
      ∀ key ∈ readMaxima,
        ((base.activeMaxDouble moment.h key
            .zero).toOption).isSome =
          true := by
    decide +kernel
  refine ⟨fun key hKey => ?_, fun key hKey => ?_⟩
  · exact
      ⟨.zero, Except.toOption_eq_some_iff.mp (hSums key hKey)⟩
  · rcases Option.isSome_iff_exists.mp (hMaxima key hKey) with
      ⟨largest, hLargest⟩
    exact ⟨largest, Except.toOption_eq_some_iff.mp hLargest⟩

end imuFaultInjector.NoiseOnOneAxis
