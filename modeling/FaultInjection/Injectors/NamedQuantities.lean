import FaultInjection.Foundations.FramedParts
import FaultInjection.Injectors.UnsetKeys

/-
  What the sensor injectors may change of a message.

  Each kind of message has a table of its parts and of the
  keys that name them. A part without keys, such as a header
  or the number of ranges, is never changed.

  Key definitions include:
    * `TopicInjector.Produces`
    * `TopicInjector.TouchesOnlyNamed`

  Key theorems include:
    * `TopicInjector.change_of_produces`
    * `TopicInjector.touchesOnlyNamed_of_change`
    * `odomFaultInjector.touchesOnlyNamed`
    * `scanFaultInjector.touchesOnlyNamed`
    * `imuFaultInjector.touchesOnlyNamed`
    * `jointStateFaultInjector.touchesOnlyNamed`
-/

open FaultInjectorBase

------------------------------------------------------------
-- What Injectors May Change
------------------------------------------------------------

namespace TopicInjector

variable {G N S M : Type}
variable {rand : RandomLibrary G N}
variable {change : Change G S M}

/- The injector publishes or queues a message. -/
def Produces
    (rand : RandomLibrary G N)
    (change : Change G S M)
    (moment : Moment)
    (msg : M)
    (s : TopicInjector G S M)
    (out : M) : Prop :=
  ∃ t published,
    onMessage rand change moment msg s =
        some (t, published) ∧
      (out ∈ published ∨
        ∃ releaseTime,
          t.delayed =
            s.delayed ++
              [{ msg := out, releaseTime := releaseTime }])

/-
  An injector touches only what active faults name. Without
  an active fault it publishes the message at once and leaves
  queue and generator alone. The parts make up the message.
  Unless the whole message is replaced, a part differs only
  if an active fault sets one of its keys.
-/
structure TouchesOnlyNamed
    (rand : RandomLibrary G N)
    (change : Change G S M)
    (parts : List (KeyedPart String M))
    (replaced : Moment → FaultInjectorBase → S → Prop) :
    Prop where
  forwards :
    ∀ moment msg (s : TopicInjector G S M),
      s.base.NoneActive →
        ∃ memory,
          onMessage rand change moment msg s =
            some ({ s with memory := memory }, [msg])
  covers : Covers parts
  framed :
    ∀ moment msg (s : TopicInjector G S M) out,
      ¬ replaced moment s.base s.memory →
        Produces rand change moment msg s out →
          Framed parts s.base.Sets msg out

/- What is produced is the changed message. -/
theorem change_of_produces
    {moment : Moment}
    {msg out : M}
    {s : TopicInjector G S M}
    (hProduces : Produces rand change moment msg s out) :
    ∃ g memory next,
      (change moment s.base msg s.memory).run g =
        some ((out, memory), next) := by
  rcases hProduces with ⟨t, published, hArrive, hOut⟩
  rcases Option.bind_eq_some_iff.mp hArrive with
    ⟨⟨⟨memory, prepared⟩, rng⟩, hPrepare, hSend⟩
  rcases Option.bind_eq_some_iff.mp hPrepare with
    ⟨⟨drop, rng₁⟩, _, hPrepare⟩
  cases drop with
  | true =>
      cases hPrepare
      cases hSend
      rcases hOut with hOut | hOut
      · cases hOut
      · rcases hOut with ⟨releaseTime, hQueue⟩
        simp at hQueue
  | false =>
      rcases Option.bind_eq_some_iff.mp hPrepare with
        ⟨⟨⟨changed, memory'⟩, rng₂⟩, hChange, hPrepare⟩
      rcases Option.bind_eq_some_iff.mp hPrepare with
        ⟨⟨delay, rng₃⟩, _, hPrepare⟩
      cases hPrepare
      suffices hSame : out = changed by
        subst hSame
        exact ⟨rng₁, memory, rng₂, hChange⟩
      simp only [send, Option.some.injEq] at hSend
      by_cases hDelay : 0 < delay
      · rw [if_pos hDelay] at hSend
        cases hSend
        rcases hOut with hOut | hOut
        · cases hOut
        · rcases hOut with ⟨releaseTime, hQueue⟩
          have hEntry := List.append_cancel_left hQueue
          cases hEntry
          rfl
      · rw [if_neg hDelay] at hSend
        cases hSend
        rcases hOut with hOut | hOut
        · exact List.mem_singleton.mp hOut
        · rcases hOut with ⟨releaseTime, hQueue⟩
          simp at hQueue

/- Without an active fault nothing is dropped or delayed. -/
theorem onMessage_of_noneActive
    {moment : Moment}
    {msg : M}
    {s : TopicInjector G S M}
    {memory : S}
    (hNone : s.base.NoneActive)
    (hChange :
      change moment s.base msg s.memory =
        pure (msg, memory)) :
    onMessage rand change moment msg s =
      some ({ s with memory := memory }, [msg]) := by
  have hKeep :
      shouldDrop rand moment.h s.base =
        (pure false : Drawing G Bool) := by
    unfold shouldDrop activeMaxDouble
    rw [foldActive_of_noneActive hNone]
    rfl
  have hDelay :
      s.base.activeDelay moment.h = .ok 0 := by
    unfold activeDelay activeMaxInt
    exact foldActive_of_noneActive hNone _ _ _
  unfold onMessage prepare
  rw [hKeep, hChange, hDelay]
  rfl

/- What the callback does follows from its changes. -/
theorem touchesOnlyNamed_of_change
    {parts : List (KeyedPart String M)}
    {replaced : Moment → FaultInjectorBase → S → Prop}
    (hQuiet :
      ∀ moment base msg memory,
        NoneActive base →
          ∃ kept,
            change moment base msg memory =
              (pure (msg, kept) : Drawing G (M × S)))
    (hCovers : Covers parts)
    (hFramed :
      ∀ moment base msg memory,
        ¬ replaced moment base memory →
          Yields (change moment base msg memory)
            fun result =>
              Framed parts base.Sets msg result.1) :
    TouchesOnlyNamed rand change parts replaced where
  forwards moment msg s hNone := by
    rcases hQuiet moment s.base msg s.memory hNone with
      ⟨memory, hChange⟩
    exact ⟨memory, onMessage_of_noneActive hNone hChange⟩
  covers := hCovers
  framed moment msg s out hKept hProduces := by
    rcases change_of_produces hProduces with
      ⟨g, memory, next, hChange⟩
    exact
      hFramed moment s.base msg s.memory hKept g _ next
        hChange

/- Nothing replaces the whole message. -/
def neverReplaced :
    Moment → FaultInjectorBase → Unit → Prop :=
  fun _ _ _ => False

end TopicInjector

------------------------------------------------------------
-- Odometry
------------------------------------------------------------

namespace odomFaultInjector

variable {G N : Type}
variable (rand : RandomLibrary G N)
variable (tf2 : Tf2)
variable (h : HashOrder String)
variable (base : FaultInjectorBase)
variable (msg : Odometry)

/- The parts of the message and the keys that name them. -/
def parts : List (KeyedPart String Odometry) :=
  [ { keys := []
      value := fun msg => (msg.header, msg.childFrameId) },
    { keys := ["x_bias", "x_noise_stddev"]
      value := fun msg => msg.pose.pose.position.x },
    { keys := ["y_bias", "y_noise_stddev"]
      value := fun msg => msg.pose.pose.position.y },
    { keys := []
      value := fun msg => msg.pose.pose.position.z },
    { keys := ["yaw_bias_deg", "yaw_noise_stddev_deg"]
      value := fun msg => msg.pose.pose.orientation },
    { keys :=
        ["pose_covariance_scale", "pose_covariance_floor"]
      value := fun msg => msg.pose.covariance },
    { keys := []
      value := fun msg => msg.pose.covariance.length },
    { keys := []
      value := fun msg => msg.twist.twist },
    { keys :=
        ["twist_covariance_scale", "twist_covariance_floor"]
      value := fun msg => msg.twist.covariance },
    { keys := []
      value := fun msg => msg.twist.covariance.length } ]

theorem covers_parts : Covers parts := by
  intro a b hSame
  rcases a with ⟨_, _, ⟨⟨⟨_, _, _⟩, _⟩, _⟩, ⟨_, _⟩⟩
  rcases b with ⟨_, _, ⟨⟨⟨_, _, _⟩, _⟩, _⟩, ⟨_, _⟩⟩
  simp only [parts, List.forall_mem_cons, Prod.mk.injEq]
    at hSame
  simp only [hSame]

theorem applyBias_yields :
    Yields (applyBias h base msg : Drawing G Odometry)
      (Framed parts base.Sets msg) := by
  unfold applyBias
  refine Yields.bind (sum_yields h base "x_bias") ?_
  intro xBias hX
  refine Yields.bind (sum_yields h base "y_bias") ?_
  intro yBias hY
  refine Yields.pure ?_
  simp +contextual [parts, shift, hX, hY]

/- Without deviation there is no sample. -/
theorem noise_yields (stddev : Number) :
    Yields (noise rand stddev) fun sample =>
      stddev = .zero → sample = none := by
  unfold noise
  refine Yields.ite ?_ ?_
  · intro hPositive
    refine (Yields.anything _).imp fun sample _ hZero => ?_
    rw [hZero, Number.lt_self] at hPositive
    cases hPositive
  · intro _
    refine Yields.pure fun _ => ?_
    rfl

theorem applyNoise_yields :
    Yields (applyNoise rand h base msg)
      (Framed parts base.Sets msg) := by
  unfold applyNoise
  refine Yields.bind
    (max_yields h base "x_noise_stddev" .zero) ?_
  intro xStddev hX
  refine Yields.bind
    (max_yields h base "y_noise_stddev" .zero) ?_
  intro yStddev hY
  refine Yields.bind (noise_yields rand xStddev) ?_
  intro xNoise hNoiseX
  refine Yields.bind (noise_yields rand yStddev) ?_
  intro yNoise hNoiseY
  refine Yields.pure ?_
  simp +contextual [parts, hX, hY, hNoiseX, hNoiseY]

theorem turn_framed
    {set : String → Prop}
    (angle : Number)
    (hSet :
      set "yaw_bias_deg" ∨ set "yaw_noise_stddev_deg") :
    Framed parts set msg (turn tf2 angle msg) := by
  rcases hSet with hSet | hSet
  · simp [parts, turn, hSet]
  · simp [parts, turn, hSet]

theorem applyYawBias_yields :
    Yields (applyYawBias tf2 h base msg : Drawing G Odometry)
      (Framed parts base.Sets msg) := by
  unfold applyYawBias
  refine Yields.bind (sum_yields h base "yaw_bias_deg") ?_
  intro yawBiasDeg hBias
  refine Yields.ite ?_ ?_
  · intro _
    exact Yields.pure (Framed.refl msg)
  · intro hNonzero
    refine Yields.pure (turn_framed tf2 msg _ ?_)
    exact Or.inl (not_imp_comm.mp hBias hNonzero)

theorem applyYawNoise_yields :
    Yields (applyYawNoise rand tf2 h base msg)
      (Framed parts base.Sets msg) := by
  unfold applyYawNoise
  refine Yields.bind
    (max_yields h base "yaw_noise_stddev_deg" .zero) ?_
  intro yawNoiseStddevDeg hStddev
  refine Yields.ite ?_ ?_
  · intro _
    exact Yields.pure (Framed.refl msg)
  · intro hNonzero
    refine Yields.bind (Yields.anything _) ?_
    intro yawNoiseDeg _
    refine Yields.pure (turn_framed tf2 msg _ ?_)
    exact Or.inr (not_imp_comm.mp hStddev hNonzero)

@[simp] theorem scaleCovariance_default
    (covariance : List Number) :
    scaleCovariance .one .zero covariance = covariance := by
  simp [scaleCovariance]

@[simp] theorem length_scaleCovariance
    (scale floor : Number)
    (covariance : List Number) :
    (scaleCovariance scale floor covariance).length =
      covariance.length := by
  unfold scaleCovariance
  split
  · exact List.length_map _
  · rfl

theorem applyCovarianceScale_yields :
    Yields
      (applyCovarianceScale h base msg : Drawing G Odometry)
      (Framed parts base.Sets msg) := by
  unfold applyCovarianceScale
  refine Yields.bind
    (max_yields h base "pose_covariance_scale" .one) ?_
  intro poseScale hPoseScale
  refine Yields.bind
    (max_yields h base "twist_covariance_scale" .one) ?_
  intro twistScale hTwistScale
  refine Yields.bind
    (max_yields h base "pose_covariance_floor" .zero) ?_
  intro poseFloor hPoseFloor
  refine Yields.bind
    (max_yields h base "twist_covariance_floor" .zero) ?_
  intro twistFloor hTwistFloor
  refine Yields.pure ?_
  simp +contextual [parts, hPoseScale, hTwistScale,
    hPoseFloor, hTwistFloor]

theorem touchesOnlyNamed :
    TopicInjector.TouchesOnlyNamed rand (change rand tf2) parts
      TopicInjector.neverReplaced := by
  refine TopicInjector.touchesOnlyNamed_of_change ?_
    covers_parts ?_
  · intro moment base msg memory hNone
    refine ⟨memory, ?_⟩
    simp [change, applyBias, applyNoise, applyYawBias,
      applyYawNoise, applyCovarianceScale, activeSumDouble,
      activeMaxDouble, foldActive_of_noneActive hNone, shift,
      noise]
  · intro moment base msg memory _
    unfold change
    refine Yields.bind (applyBias_yields _ base msg) ?_
    intro moved hBias
    refine Yields.bind (applyNoise_yields rand _ base moved) ?_
    intro noisy hNoise
    refine Yields.bind
      (applyYawBias_yields tf2 _ base noisy) ?_
    intro turned hYaw
    refine Yields.bind
      (applyYawNoise_yields rand tf2 _ base turned) ?_
    intro shaken hYawNoise
    refine Yields.bind
      (applyCovarianceScale_yields _ base shaken) ?_
    intro scaled hScaled
    refine Yields.pure ?_
    exact
      (((hBias.trans hNoise).trans hYaw).trans
        hYawNoise).trans hScaled

end odomFaultInjector

------------------------------------------------------------
-- Laser Scans
------------------------------------------------------------

namespace scanFaultInjector

variable {G N : Type}
variable (rand : RandomLibrary G N)
variable (h : HashOrder String)
variable (base : FaultInjectorBase)
variable (msg : LaserScan)

/- The parts of the message and the keys that name them. -/
def parts : List (KeyedPart String LaserScan) :=
  [ { keys := []
      value := fun msg => msg.header },
    { keys := []
      value := fun msg =>
        (msg.angleMin, msg.angleMax, msg.angleIncrement) },
    { keys := []
      value := fun msg => (msg.timeIncrement, msg.scanTime) },
    { keys := []
      value := fun msg => (msg.rangeMin, msg.rangeMax) },
    { keys :=
        ["range_bias", "range_noise_stddev", "sector_min_deg",
          "sector_max_deg", "sector_value"]
      value := fun msg => msg.ranges },
    { keys := []
      value := fun msg => msg.ranges.length },
    { keys := []
      value := fun msg => msg.intensities } ]

theorem covers_parts : Covers parts := by
  intro a b hSame
  rcases a with ⟨_, _, _, _, _, _, _, _, _, _⟩
  rcases b with ⟨_, _, _, _, _, _, _, _, _, _⟩
  simp only [parts, List.forall_mem_cons, Prod.mk.injEq]
    at hSame
  simp only [hSame]

/- New ranges, as many as before, for a key that is set. -/
theorem ranges_framed
    {set : String → Prop}
    {ranges : List Number}
    (hSet :
      set "range_bias" ∨ set "range_noise_stddev" ∨
        set "sector_min_deg")
    (hLength : ranges.length = msg.ranges.length) :
    Framed parts set msg { msg with ranges := ranges } := by
  rcases hSet with hSet | hSet | hSet
  · simp [parts, hSet, hLength]
  · simp [parts, hSet, hLength]
  · simp [parts, hSet, hLength]

theorem applyRangeBias_yields :
    Yields (applyRangeBias h base msg : Drawing G LaserScan)
      (Framed parts base.Sets msg) := by
  unfold applyRangeBias
  refine Yields.bind (sum_yields h base "range_bias") ?_
  intro bias hBias
  refine Yields.ite ?_ ?_
  · intro _
    exact Yields.pure (Framed.refl msg)
  · intro hNonzero
    refine Yields.pure (ranges_framed msg ?_ ?_)
    · exact Or.inl (not_imp_comm.mp hBias hNonzero)
    · exact List.length_map _

theorem applyRangeNoise_yields :
    Yields (applyRangeNoise rand h base msg)
      (Framed parts base.Sets msg) := by
  unfold applyRangeNoise
  refine Yields.bind
    (max_yields h base "range_noise_stddev" .zero) ?_
  intro noiseStddev hStddev
  refine Yields.ite ?_ ?_
  · intro _
    exact Yields.pure (Framed.refl msg)
  · intro hPositive
    have hNonzero : noiseStddev ≠ .zero := by
      intro hZero
      rw [hZero] at hPositive
      exact hPositive Number.zero_le_zero
    refine Yields.bind
      (RandomLibrary.mapNormal_length rand _ _ _) ?_
    intro ranges hLength
    refine Yields.pure (ranges_framed msg ?_ ?_)
    · right
      left
      exact not_imp_comm.mp hStddev hNonzero
    · exact hLength

theorem replaceSector_length
    {sector : Sector}
    {replaced : LaserScan}
    (hReplace : replaceSector sector msg = some replaced) :
    ∃ ranges,
      replaced = { msg with ranges := ranges } ∧
        ranges.length = msg.ranges.length := by
  rcases Option.bind_eq_some_iff.mp hReplace with
    ⟨ranges, hRanges, hReplaced⟩
  cases hReplaced
  have hLength :=
    (Option.mapM_eq_some_iff.mp hRanges).length_eq
  rw [List.length_zipIdx] at hLength
  exact ⟨ranges, rfl, hLength.symm⟩

/- A fault with a sector sets its bounds. -/
theorem sets_of_sectorOf
    {faultId : String}
    {fault : FaultConfig}
    {sector : Sector}
    (hActive : faultId ∈ base.activeFaultIds h)
    (hFault : base.faultAt faultId = .ok fault)
    (hSector : sectorOf fault = some sector) :
    base.Sets "sector_min_deg" := by
  by_contra hUnset
  have hFind := find?_of_unset hUnset hActive hFault
  unfold sectorOf at hSector
  rw [hFind] at hSector
  cases hSector

theorem applySectorDropout_yields :
    Yields
      (applySectorDropout h base msg : Drawing G LaserScan)
      (Framed parts base.Sets msg) := by
  unfold applySectorDropout
  refine Yields.ite ?_ ?_
  · intro _
    exact Yields.pure (Framed.refl msg)
  · intro _
    refine Yields.foldlM (Framed.refl msg) ?_
    intro written hWritten faultId hActive
    refine Yields.bind (Yields.lift fun _ hFault => hFault) ?_
    intro fault hFault
    cases hSector : sectorOf fault with
    | none => exact Yields.pure hWritten
    | some sector =>
        refine Yields.liftOption fun replaced hReplace => ?_
        rcases replaceSector_length written hReplace with
          ⟨ranges, hRanges, hLength⟩
        subst hRanges
        have hSets :=
          sets_of_sectorOf h base hActive hFault hSector
        refine hWritten.trans
          (ranges_framed written ?_ hLength)
        exact Or.inr (Or.inr hSets)

theorem touchesOnlyNamed :
    TopicInjector.TouchesOnlyNamed rand (change rand) parts
      TopicInjector.neverReplaced := by
  refine TopicInjector.touchesOnlyNamed_of_change ?_
    covers_parts ?_
  · intro moment base msg memory hNone
    refine ⟨memory, ?_⟩
    simp [change, applyRangeBias, applyRangeNoise,
      applySectorDropout, activeSumDouble, activeMaxDouble,
      foldActive_of_noneActive hNone,
      activeFaultIds_of_noneActive hNone]
  · intro moment base msg memory _
    unfold change
    refine Yields.bind
      (applyRangeBias_yields _ base msg) ?_
    intro moved hBias
    refine Yields.bind
      (applyRangeNoise_yields rand _ base moved) ?_
    intro noisy hNoise
    refine Yields.bind
      (applySectorDropout_yields _ base noisy) ?_
    intro dropped hDropped
    refine Yields.pure ?_
    exact (hBias.trans hNoise).trans hDropped

end scanFaultInjector

------------------------------------------------------------
-- Inertial Sensors
------------------------------------------------------------

namespace imuFaultInjector

variable {G N : Type}
variable (rand : RandomLibrary G N)
variable (h : HashOrder String)
variable (base : FaultInjectorBase)
variable (msg : Imu)

/- The parts of the message and the keys that name them. -/
def parts : List (KeyedPart String Imu) :=
  [ { keys := []
      value := fun msg => msg.header },
    { keys := []
      value := fun msg =>
        (msg.orientation, msg.orientationCovariance) },
    { keys := []
      value := fun msg =>
        (msg.angularVelocity.x, msg.angularVelocity.y) },
    { keys :=
        ["angular_velocity_z_bias",
          "angular_velocity_z_noise_stddev"]
      value := fun msg => msg.angularVelocity.z },
    { keys := []
      value := fun msg => msg.angularVelocityCovariance },
    { keys :=
        ["linear_acceleration_x_bias",
          "linear_acceleration_x_noise_stddev"]
      value := fun msg => msg.linearAcceleration.x },
    { keys :=
        ["linear_acceleration_y_bias",
          "linear_acceleration_y_noise_stddev"]
      value := fun msg => msg.linearAcceleration.y },
    { keys :=
        ["linear_acceleration_z_bias",
          "linear_acceleration_z_noise_stddev"]
      value := fun msg => msg.linearAcceleration.z },
    { keys := []
      value := fun msg => msg.linearAccelerationCovariance } ]

theorem covers_parts : Covers parts := by
  intro a b hSame
  rcases a with ⟨_, _, _, ⟨_, _, _⟩, _, ⟨_, _, _⟩, _⟩
  rcases b with ⟨_, _, _, ⟨_, _, _⟩, _, ⟨_, _, _⟩, _⟩
  simp only [parts, List.forall_mem_cons, Prod.mk.injEq]
    at hSame
  simp only [hSame]

theorem spin_framed
    {set : String → Prop}
    (dz : Number)
    (hSet :
      set "angular_velocity_z_bias" ∨
        set "angular_velocity_z_noise_stddev") :
    Framed parts set msg (spin dz msg) := by
  rcases hSet with hSet | hSet
  · simp [parts, spin, hSet]
  · simp [parts, spin, hSet]

theorem applyAngularVelocityBias_yields :
    Yields
      (applyAngularVelocityBias h base msg : Drawing G Imu)
      (Framed parts base.Sets msg) := by
  unfold applyAngularVelocityBias
  refine Yields.bind
    (sum_yields h base "angular_velocity_z_bias") ?_
  intro bias hBias
  refine Yields.ite ?_ ?_
  · intro _
    exact Yields.pure (Framed.refl msg)
  · intro hNonzero
    refine Yields.pure (spin_framed msg bias ?_)
    exact Or.inl (not_imp_comm.mp hBias hNonzero)

theorem applyAngularVelocityNoise_yields :
    Yields (applyAngularVelocityNoise rand h base msg)
      (Framed parts base.Sets msg) := by
  unfold applyAngularVelocityNoise
  refine Yields.bind
    (max_yields h base "angular_velocity_z_noise_stddev"
      .zero) ?_
  intro stddev hStddev
  refine Yields.ite ?_ ?_
  · intro _
    exact Yields.pure (Framed.refl msg)
  · intro hNonzero
    refine Yields.bind (Yields.anything _) ?_
    intro noise _
    refine Yields.pure (spin_framed msg noise ?_)
    exact Or.inr (not_imp_comm.mp hStddev hNonzero)

theorem applyLinearAccelerationBias_yields :
    Yields
      (applyLinearAccelerationBias h base msg : Drawing G Imu)
      (Framed parts base.Sets msg) := by
  unfold applyLinearAccelerationBias
  refine Yields.bind
    (sum_yields h base "linear_acceleration_x_bias") ?_
  intro xBias hX
  refine Yields.bind
    (sum_yields h base "linear_acceleration_y_bias") ?_
  intro yBias hY
  refine Yields.bind
    (sum_yields h base "linear_acceleration_z_bias") ?_
  intro zBias hZ
  refine Yields.ite ?_ ?_
  · intro _
    exact Yields.pure (Framed.refl msg)
  · intro _
    refine Yields.pure ?_
    simp +contextual [parts, push, hX, hY, hZ]

/- An axis without deviation gets zero for its sample. -/
theorem applyLinearAccelerationNoise_yields :
    Yields (applyLinearAccelerationNoise rand h base msg)
      (Framed parts base.Sets msg) := by
  unfold applyLinearAccelerationNoise
  refine Yields.bind
    (max_yields h base "linear_acceleration_x_noise_stddev"
      .zero) ?_
  intro xStddev hX
  refine Yields.bind
    (max_yields h base "linear_acceleration_y_noise_stddev"
      .zero) ?_
  intro yStddev hY
  refine Yields.bind
    (max_yields h base "linear_acceleration_z_noise_stddev"
      .zero) ?_
  intro zStddev hZ
  refine Yields.ite ?_ ?_
  · intro _
    exact Yields.pure (Framed.refl msg)
  · intro _
    refine Yields.bind
      (RandomLibrary.normal_yields rand xStddev) ?_
    intro xNoise hNoiseX
    refine Yields.bind
      (RandomLibrary.normal_yields rand yStddev) ?_
    intro yNoise hNoiseY
    refine Yields.bind
      (RandomLibrary.normal_yields rand zStddev) ?_
    intro zNoise hNoiseZ
    refine Yields.pure ?_
    simp +contextual [parts, push, hX, hY, hZ, hNoiseX,
      hNoiseY, hNoiseZ]

theorem touchesOnlyNamed :
    TopicInjector.TouchesOnlyNamed rand (change rand) parts
      TopicInjector.neverReplaced := by
  refine TopicInjector.touchesOnlyNamed_of_change ?_
    covers_parts ?_
  · intro moment base msg memory hNone
    refine ⟨memory, ?_⟩
    simp [change, applyAngularVelocityBias,
      applyAngularVelocityNoise, applyLinearAccelerationBias,
      applyLinearAccelerationNoise, activeSumDouble,
      activeMaxDouble, foldActive_of_noneActive hNone]
  · intro moment base msg memory _
    unfold change
    refine Yields.bind
      (applyAngularVelocityBias_yields _ base msg) ?_
    intro turned hTurned
    refine Yields.bind
      (applyAngularVelocityNoise_yields rand _ base turned) ?_
    intro shaken hShaken
    refine Yields.bind
      (applyLinearAccelerationBias_yields _ base shaken) ?_
    intro pushed hPushed
    refine Yields.bind
      (applyLinearAccelerationNoise_yields rand _ base
        pushed) ?_
    intro noisy hNoisy
    refine Yields.pure ?_
    exact
      ((hTurned.trans hShaken).trans hPushed).trans hNoisy

end imuFaultInjector

------------------------------------------------------------
-- Joint States
------------------------------------------------------------

namespace jointStateFaultInjector

variable {G N : Type}
variable (rand : RandomLibrary G N)
variable (h : HashOrder String)
variable (base : FaultInjectorBase)
variable (msg : JointState)

/- The parts of the message and the keys that name them. -/
def parts : List (KeyedPart String JointState) :=
  [ { keys := []
      value := fun msg => (msg.header, msg.name) },
    { keys := []
      value := fun msg => (msg.position, msg.effort) },
    { keys := ["velocity_bias", "velocity_noise_stddev"]
      value := fun msg => msg.velocity },
    { keys := []
      value := fun msg => msg.velocity.length } ]

theorem covers_parts : Covers parts := by
  intro a b hSame
  rcases a with ⟨_, _, _, _, _⟩
  rcases b with ⟨_, _, _, _, _⟩
  simp only [parts, List.forall_mem_cons, Prod.mk.injEq]
    at hSame
  simp only [hSame]

theorem velocity_framed
    {set : String → Prop}
    {velocity : List Number}
    (hSet :
      set "velocity_bias" ∨ set "velocity_noise_stddev")
    (hLength : velocity.length = msg.velocity.length) :
    Framed parts set msg
      { msg with velocity := velocity } := by
  rcases hSet with hSet | hSet
  · simp [parts, hSet, hLength]
  · simp [parts, hSet, hLength]

theorem applyBias_yields :
    Yields (applyBias h base msg : Drawing G JointState)
      (Framed parts base.Sets msg) := by
  unfold applyBias
  refine Yields.bind (sum_yields h base "velocity_bias") ?_
  intro bias hBias
  refine Yields.ite ?_ ?_
  · intro _
    exact Yields.pure (Framed.refl msg)
  · intro hNonzero
    refine Yields.pure (velocity_framed msg ?_ ?_)
    · exact Or.inl (not_imp_comm.mp hBias hNonzero)
    · exact List.length_map _

theorem applyNoise_yields :
    Yields (applyNoise rand h base msg)
      (Framed parts base.Sets msg) := by
  unfold applyNoise
  refine Yields.bind
    (max_yields h base "velocity_noise_stddev" .zero) ?_
  intro noiseStddev hStddev
  refine Yields.ite ?_ ?_
  · intro _
    exact Yields.pure (Framed.refl msg)
  · intro hNonzero
    refine Yields.bind
      (RandomLibrary.mapNormal_length rand _ _ _) ?_
    intro velocity hLength
    refine Yields.pure (velocity_framed msg ?_ ?_)
    · exact Or.inr (not_imp_comm.mp hStddev hNonzero)
    · exact hLength

theorem touchesOnlyNamed :
    TopicInjector.TouchesOnlyNamed rand (change rand) parts
      TopicInjector.neverReplaced := by
  refine TopicInjector.touchesOnlyNamed_of_change ?_
    covers_parts ?_
  · intro moment base msg memory hNone
    refine ⟨memory, ?_⟩
    simp [change, applyBias, applyNoise, activeSumDouble,
      activeMaxDouble, foldActive_of_noneActive hNone]
  · intro moment base msg memory _
    unfold change
    refine Yields.bind (applyBias_yields _ base msg) ?_
    intro moved hBias
    refine Yields.bind
      (applyNoise_yields rand _ base moved) ?_
    intro noisy hNoise
    exact Yields.pure (hBias.trans hNoise)

end jointStateFaultInjector
