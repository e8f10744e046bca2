import FaultInjection.Foundations.Noting
import FaultInjection.Foundations.BinaryFormats
import FaultInjection.Injectors.DelayedTopics
import FaultInjection.Injectors.TfFaultInjector

/-
  The callbacks with the calls of the standard library that
  have a precondition: the distributions they construct and
  the values they clamp.

  A callback that notes its calls is written like the callback
  itself. Without its notes it is the callback. What is cast
  to single precision is noted as cast.

  Key definitions include:
    * `LibraryCall`
    * `LibraryCall.Allowed`
    * `TopicInjector.notedPrepare`
    * `tfFaultInjector.notedOnMessage`

  Key theorems include:
    * `TopicInjector.erase_notedPrepare`
    * `odomFaultInjector.erase_notedChange`
    * `scanFaultInjector.erase_notedChange`
    * `pointCloudFaultInjector.erase_notedChange`
    * `twistFaultInjector.erase_notedChange`
    * `tfFaultInjector.erase_notedOnMessage`
-/

open Noting NumberText

------------------------------------------------------------
-- Calls
------------------------------------------------------------

/- A call of the library, with what has to be allowed. -/
inductive LibraryCall where
| normalDistribution (stddev : Number)
| bernoulliDistribution (probability : Number)
| uniformRealDistribution (low high : Number)
| clamp (low high : Number)

/- The documented precondition of the call. -/
def LibraryCall.Allowed : LibraryCall → Prop
| .normalDistribution stddev =>
    Number.zero.lt stddev = true
| .bernoulliDistribution probability =>
    Number.zero.le probability = true ∧
      probability.le .one = true
| .uniformRealDistribution low high => low.le high = true
| .clamp low high => low.le high = true

abbrev Calling (G A : Type) : Type :=
  Noting LibraryCall G A

section Lifts

variable {G A : Type}

@[simp] theorem erase_liftM_except (e : Except Errc A) :
    erase (liftM e : Calling G A) = liftM e := rfl

@[simp] theorem erase_liftM (x : Drawing G A) :
    erase (liftM x : Calling G A) = x := rfl

@[simp] theorem allNotes_liftM_except
    {P : LibraryCall → Prop}
    {g : G}
    (e : Except Errc A) :
    AllNotes P (liftM e : Calling G A) g :=
  allNotes_quiet _

@[simp] theorem allNotes_liftM
    {P : LibraryCall → Prop}
    {g : G}
    (x : Drawing G A) :
    AllNotes P (liftM x : Calling G A) g :=
  allNotes_quiet x

end Lifts

------------------------------------------------------------
-- Dropping
------------------------------------------------------------

namespace TopicInjector

variable {G N S M : Type}

def notedShouldDrop
    (rand : RandomLibrary G N)
    (h : HashOrder String)
    (base : FaultInjectorBase) : Calling G Bool := do
  let probability ←
    base.activeMaxDouble h "drop_probability" .zero
  if probability.le .zero then
    return false
  else
    note (.clamp .zero .one)
    note (.uniformRealDistribution .zero .one)
    rand.bernoulli (probability.clamp .zero .one)

abbrev NotedChange (G S M : Type) : Type :=
  Moment → FaultInjectorBase → M → S → Calling G (M × S)

def notedPrepare
    (rand : RandomLibrary G N)
    (change : NotedChange G S M)
    (moment : Moment)
    (msg : M)
    (s : TopicInjector G S M) :
    Calling G (S × Option (M × Int)) := do
  if ← notedShouldDrop rand moment.h s.base then
    return (s.memory, none)
  else
    let (out, memory) ← change moment s.base msg s.memory
    let delay ← s.base.activeDelay moment.h
    return (memory, some (out, delay))

theorem erase_notedShouldDrop
    (rand : RandomLibrary G N)
    (h : HashOrder String)
    (base : FaultInjectorBase) :
    erase (notedShouldDrop rand h base) =
      shouldDrop rand h base := by
  unfold notedShouldDrop shouldDrop
  simp

theorem erase_notedPrepare
    {rand : RandomLibrary G N}
    {noted : NotedChange G S M}
    {change : Change G S M}
    (hErase :
      ∀ moment base msg memory,
        erase (noted moment base msg memory) =
          change moment base msg memory)
    (moment : Moment)
    (msg : M)
    (s : TopicInjector G S M) :
    erase (notedPrepare rand noted moment msg s) =
      prepare rand change moment msg s := by
  unfold notedPrepare prepare
  simp [erase_notedShouldDrop, hErase]

end TopicInjector

------------------------------------------------------------
-- Odometry
------------------------------------------------------------

namespace odomFaultInjector

variable {G N : Type}
variable (rand : RandomLibrary G N)
variable (tf2 : Tf2)
variable (h : HashOrder String)
variable (base : FaultInjectorBase)

def notedNoise
    (stddev : Number) : Calling G (Option Number) :=
  if Number.zero.lt stddev then do
    note (.normalDistribution stddev)
    let value ← rand.normal stddev
    return some value
  else
    return none

def notedApplyNoise
    (msg : Odometry) : Calling G Odometry := do
  let xStddev ←
    base.activeMaxDouble h "x_noise_stddev" .zero
  let yStddev ←
    base.activeMaxDouble h "y_noise_stddev" .zero
  let xNoise ← notedNoise rand xStddev
  let yNoise ← notedNoise rand yStddev
  let position := msg.pose.pose.position
  let moved :=
    { position with
      x := xNoise.elim position.x position.x.add
      y := yNoise.elim position.y position.y.add }
  return { msg with
    pose :=
      { msg.pose with
        pose := { msg.pose.pose with position := moved } } }

def notedApplyYawNoise
    (msg : Odometry) : Calling G Odometry := do
  let yawNoiseStddevDeg ←
    base.activeMaxDouble h "yaw_noise_stddev_deg" .zero
  if yawNoiseStddevDeg = .zero then
    return msg
  else
    note (.normalDistribution yawNoiseStddevDeg)
    let yawNoiseDeg ← rand.normal yawNoiseStddevDeg
    return turn tf2 (radians yawNoiseDeg) msg

def notedChange : TopicInjector.NotedChange G Unit Odometry :=
  fun moment base msg memory => do
    let out ← applyBias (G := G) moment.h base msg
    let out ← notedApplyNoise rand moment.h base out
    let out ← applyYawBias (G := G) tf2 moment.h base out
    let out ← notedApplyYawNoise rand tf2 moment.h base out
    let out ← applyCovarianceScale (G := G) moment.h base out
    return (out, memory)

theorem erase_notedNoise (stddev : Number) :
    erase (notedNoise rand stddev) = noise rand stddev := by
  unfold notedNoise noise
  simp

theorem erase_notedChange
    (moment : Moment)
    (msg : Odometry)
    (memory : Unit) :
    erase (notedChange rand tf2 moment base msg memory) =
      change rand tf2 moment base msg memory := by
  unfold notedChange change
  simp [notedApplyNoise, applyNoise, notedApplyYawNoise,
    applyYawNoise, erase_notedNoise]

end odomFaultInjector

------------------------------------------------------------
-- Laser Scans
------------------------------------------------------------

namespace scanFaultInjector

variable {G N : Type}
variable (rand : RandomLibrary G N)
variable (h : HashOrder String)
variable (base : FaultInjectorBase)

/- Each finite range is clamped to the limits of the scan. -/
def clampCalls (msg : LaserScan) : List LibraryCall :=
  (msg.ranges.filter Number.isFinite).map fun _ =>
    .clamp msg.rangeMin msg.rangeMax

def notedApplyRangeBias
    (msg : LaserScan) : Calling G LaserScan := do
  let bias ← base.activeSumDouble h "range_bias" .zero
  if bias = .zero then
    return msg
  else
    noteAll (clampCalls msg)
    return { msg with
      ranges := msg.ranges.map fun range =>
        if range.isFinite then
          (range.add bias).clamp msg.rangeMin msg.rangeMax
        else
          range }

def notedApplyRangeNoise
    (msg : LaserScan) : Calling G LaserScan := do
  let noiseStddev ←
    base.activeMaxDouble h "range_noise_stddev" .zero
  if noiseStddev.le .zero then
    return msg
  else
    note (.normalDistribution noiseStddev)
    noteAll (clampCalls msg)
    let noisy (range : Number) : Option (Number → Number) :=
      if range.isFinite then
        some fun noise =>
          (range.add noise).clamp msg.rangeMin msg.rangeMax
      else
        none
    let ranges ← rand.mapNormal noisy noiseStddev msg.ranges
    return { msg with ranges := ranges }

def notedChange : TopicInjector.NotedChange G Unit LaserScan :=
  fun moment base msg memory => do
    let out ← notedApplyRangeBias moment.h base msg
    let out ← notedApplyRangeNoise rand moment.h base out
    let out ← applySectorDropout (G := G) moment.h base out
    return (out, memory)

theorem erase_notedApplyRangeBias (msg : LaserScan) :
    erase (notedApplyRangeBias (G := G) h base msg) =
      applyRangeBias h base msg := by
  unfold notedApplyRangeBias applyRangeBias
  simp

theorem erase_notedChange
    (moment : Moment)
    (msg : LaserScan)
    (memory : Unit) :
    erase (notedChange rand moment base msg memory) =
      change rand moment base msg memory := by
  unfold notedChange change
  simp [erase_notedApplyRangeBias, notedApplyRangeNoise,
    applyRangeNoise]

end scanFaultInjector

------------------------------------------------------------
-- Joint States
------------------------------------------------------------

namespace jointStateFaultInjector

variable {G N : Type}
variable (rand : RandomLibrary G N)
variable (h : HashOrder String)
variable (base : FaultInjectorBase)

def notedApplyNoise
    (msg : JointState) : Calling G JointState := do
  let noiseStddev ←
    base.activeMaxDouble h "velocity_noise_stddev" .zero
  if noiseStddev = .zero then
    return msg
  else
    note (.normalDistribution noiseStddev)
    let velocity ←
      rand.mapNormal (fun v => some v.add) noiseStddev
        msg.velocity
    return { msg with velocity := velocity }

def notedChange :
    TopicInjector.NotedChange G Unit JointState :=
  fun moment base msg memory => do
    let out ← applyBias (G := G) moment.h base msg
    let out ← notedApplyNoise rand moment.h base out
    return (out, memory)

theorem erase_notedChange
    (moment : Moment)
    (msg : JointState)
    (memory : Unit) :
    erase (notedChange rand moment base msg memory) =
      change rand moment base msg memory := by
  unfold notedChange change
  simp [notedApplyNoise, applyNoise]

end jointStateFaultInjector

------------------------------------------------------------
-- Inertial Sensors
------------------------------------------------------------

namespace imuFaultInjector

variable {G N : Type}
variable (rand : RandomLibrary G N)
variable (h : HashOrder String)
variable (base : FaultInjectorBase)

def notedApplyAngularVelocityNoise
    (msg : Imu) : Calling G Imu := do
  let stddev ←
    base.activeMaxDouble h
      "angular_velocity_z_noise_stddev" .zero
  if stddev = .zero then
    return msg
  else
    note (.normalDistribution stddev)
    let noise ← rand.normal stddev
    return spin noise msg

def notedApplyLinearAccelerationNoise
    (msg : Imu) : Calling G Imu := do
  let xStddev ←
    base.activeMaxDouble h
      "linear_acceleration_x_noise_stddev" .zero
  let yStddev ←
    base.activeMaxDouble h
      "linear_acceleration_y_noise_stddev" .zero
  let zStddev ←
    base.activeMaxDouble h
      "linear_acceleration_z_noise_stddev" .zero
  if xStddev = .zero ∧ yStddev = .zero ∧ zStddev = .zero then
    return msg
  else
    note (.normalDistribution xStddev)
    note (.normalDistribution yStddev)
    note (.normalDistribution zStddev)
    let xNoise ← rand.normal xStddev
    let yNoise ← rand.normal yStddev
    let zNoise ← rand.normal zStddev
    return push xNoise yNoise zNoise msg

def notedChange : TopicInjector.NotedChange G Unit Imu :=
  fun moment base msg memory => do
    let out ← applyAngularVelocityBias (G := G) moment.h base msg
    let out ←
      notedApplyAngularVelocityNoise rand moment.h base out
    let out ← applyLinearAccelerationBias (G := G) moment.h base out
    let out ←
      notedApplyLinearAccelerationNoise rand moment.h base out
    return (out, memory)

theorem erase_notedChange
    (moment : Moment)
    (msg : Imu)
    (memory : Unit) :
    erase (notedChange rand moment base msg memory) =
      change rand moment base msg memory := by
  unfold notedChange change
  simp [notedApplyAngularVelocityNoise,
    applyAngularVelocityNoise,
    notedApplyLinearAccelerationNoise,
    applyLinearAccelerationNoise]

end imuFaultInjector

------------------------------------------------------------
-- Point Clouds
------------------------------------------------------------

namespace pointCloudFaultInjector

variable {G N : Type}
variable {K : Type}
variable (rand : RandomLibrary G N)
variable (sqrt : Number K → Number K)
variable (h : HashOrder String)
variable (base : FaultInjectorBase)

def notedApplyPointDropout
    (msg : PointCloud2 K) : Calling G (PointCloud2 K) := do
  let dropProbability ←
    base.activeMaxDouble h "point_dropout_probability" .zero
  if dropProbability.le .zero then
    return msg
  else if ¬ hasCoordinates msg then
    return msg
  else
    note (.bernoulliDistribution dropProbability)
    let points ←
      (msg.points.mapM (dropPoint rand dropProbability) :
        Drawing G (List (CloudPoint K)))
    return { msg with points := points }

theorem erase_notedApplyPointDropout (msg : PointCloud2 K) :
    erase (notedApplyPointDropout rand h base msg) =
      applyPointDropout rand h base msg := by
  unfold notedApplyPointDropout applyPointDropout
  simp

variable [Field K]
variable [LinearOrder K]

def notedApplyRangeNoise
    (msg : PointCloud2 K) : Calling G (PointCloud2 K) := do
  let rangeNoiseStddev ←
    base.activeMaxDouble h "range_noise_stddev" .zero
  if rangeNoiseStddev.le .zero then
    return msg
  else if ¬ hasCoordinates msg then
    return msg
  else
    note (.normalDistribution rangeNoiseStddev.toSingle)
    let points ←
      rand.mapNormal (noisyPoint sqrt) rangeNoiseStddev
        msg.points
    return { msg with points := points }

def notedApplyDustReturns
    (msg : PointCloud2 K) : Calling G (PointCloud2 K) := do
  let probability ←
    base.activeMaxDouble h "dust_return_probability" .zero
  if probability.le .zero then
    return msg
  else if ¬ hasCoordinates msg then
    return msg
  else
    let minRange ←
      base.activeMaxDouble h "dust_min_range"
        (.finite (1 / 5))
    let maxRange ←
      activeMinDouble h base "dust_max_range" (.finite 2)
    if maxRange.lt minRange then
      return msg
    else
      note (.bernoulliDistribution probability)
      note
        (.uniformRealDistribution minRange.toSingle
          maxRange.toSingle)
      let intensityScale ←
        activeProductDoubleOrDefault h base
          "dust_intensity_scale" (.finite (1 / 5))
      if hasFloat32Field msg "intensity" then
        let points ←
          (msg.points.mapM
            (dustReturnWithIntensity rand sqrt probability
              minRange maxRange intensityScale) :
            Drawing G (List (CloudPoint K)))
        return { msg with points := points }
      else
        let points ←
          (msg.points.mapM
            (dustReturn rand sqrt probability minRange
              maxRange) :
            Drawing G (List (CloudPoint K)))
        return { msg with points := points }

def notedChange :
    TopicInjector.NotedChange G Unit (PointCloud2 K) :=
  fun moment base msg memory => do
    let out ← notedApplyPointDropout rand moment.h base msg
    let out ← notedApplyRangeNoise rand sqrt moment.h base out
    let out ←
      notedApplyDustReturns rand sqrt moment.h base out
    let out ← applyIntensityScale (G := G) moment.h base out
    return (out, memory)

theorem erase_notedApplyRangeNoise (msg : PointCloud2 K) :
    erase (notedApplyRangeNoise rand sqrt h base msg) =
      applyRangeNoise rand sqrt h base msg := by
  unfold notedApplyRangeNoise applyRangeNoise
  simp

theorem erase_notedApplyDustReturns (msg : PointCloud2 K) :
    erase (notedApplyDustReturns rand sqrt h base msg) =
      applyDustReturns rand sqrt h base msg := by
  unfold notedApplyDustReturns applyDustReturns
  simp

theorem erase_notedChange
    (moment : Moment)
    (msg : PointCloud2 K)
    (memory : Unit) :
    erase (notedChange rand sqrt moment base msg memory) =
      change rand sqrt moment base msg memory := by
  unfold notedChange change
  simp [erase_notedApplyPointDropout,
    erase_notedApplyRangeNoise, erase_notedApplyDustReturns]

end pointCloudFaultInjector

------------------------------------------------------------
-- Velocity Commands
------------------------------------------------------------

namespace twistFaultInjector

variable {G : Type}
variable (h : HashOrder String)
variable (base : FaultInjectorBase)

def notedClampTo
    (bound value : Number) : Calling G Number :=
  if Number.zero.le bound then do
    note (.clamp bound.neg bound)
    return value.clamp bound.neg bound
  else
    return value

def notedApplyClamp
    (msg : Twist) : Calling G Twist := do
  let maxLinearX ←
    base.activeMaxDouble h "max_linear_x" (.finite (-1))
  let x ← notedClampTo maxLinearX msg.linear.x
  let maxAngularZ ←
    base.activeMaxDouble h "max_angular_z" (.finite (-1))
  let z ← notedClampTo maxAngularZ msg.angular.z
  let linear := { msg.linear with x := x }
  let angular := { msg.angular with z := z }
  return { linear := linear, angular := angular }

def notedChange :
    TopicInjector.NotedChange G Memory Twist :=
  fun moment base msg memory => do
    let (chosen, remembered) ←
      TwistFaultInjector.replayOrRemember moment.h moment.now
        msg (remembering base memory)
    let out ←
      TwistFaultInjector.applyScale moment.h base chosen
    let out ← notedApplyClamp moment.h base out
    let out ←
      TwistFaultInjector.applyForceStop moment.h base out
    return (out,
      (remembered.lastCommand, remembered.lastCommandTime))

theorem erase_notedClampTo (bound value : Number) :
    erase (notedClampTo bound value : Calling G Number) =
      pure (TwistFaultInjector.clampTo bound value) := by
  unfold notedClampTo TwistFaultInjector.clampTo
  by_cases hBound : Number.zero.le bound = true
  · simp [hBound]
  · simp [hBound]

theorem liftM_bind
    {A B : Type}
    (x : Except Errc A)
    (f : A → Except Errc B) :
    (liftM (x >>= f) : Drawing G B) =
      liftM x >>= fun a => liftM (f a) := by
  cases x with
  | error e => rfl
  | ok a => rfl

theorem erase_notedApplyClamp (msg : Twist) :
    erase (notedApplyClamp (G := G) h base msg) =
      liftM (TwistFaultInjector.applyClamp h base msg) := by
  unfold notedApplyClamp TwistFaultInjector.applyClamp
  simp only [erase_bind, erase_liftM_except,
    erase_notedClampTo, pure_bind, erase_pure, liftM_bind]
  rfl

theorem erase_notedChange
    (moment : Moment)
    (msg : Twist)
    (memory : Memory) :
    erase (notedChange (G := G) moment base msg memory) =
      change moment base msg memory := by
  unfold notedChange change
  simp [erase_notedApplyClamp]

end twistFaultInjector

------------------------------------------------------------
-- Transforms
------------------------------------------------------------

namespace tfFaultInjector

open GeometryMsgs (TransformStamped)

variable {G N : Type}
variable (rand : RandomLibrary G N)
variable (tf2 : Tf2)
variable (h : HashOrder String)
variable (base : FaultInjectorBase)

def notedAnyDrops
    (transform : TransformStamped) :
    List String → Calling G Bool
| [] => return false
| faultId :: rest => do
    let fault ← base.faultAt faultId
    if ¬ matchesFrame fault transform then
      notedAnyDrops transform rest
    else
      let probability :=
        getDouble fault "drop_probability" .zero
      if probability.le .zero then
        notedAnyDrops transform rest
      else if Number.one.le probability then
        return true
      else
        note (.uniformRealDistribution .zero .one)
        let draw ← rand.uniform .zero .one
        if draw.lt probability then
          return true
        else
          notedAnyDrops transform rest

def notedOnTransform
    (transform : TransformStamped) :
    Calling G (Option TransformStamped) := do
  let drops ←
    notedAnyDrops rand base transform (base.activeFaultIds h)
  if drops then
    return none
  else
    let moved ←
      applyTranslationBias (G := G) h base transform
    let turned ← applyRotationBias (G := G) tf2 h base moved
    return some turned

def notedOnMessage
    (msg : TFMessage) : Calling G (Int × TFMessage) := do
  let delay ← base.activeDelay h
  let slept := if 0 < delay then delay else 0
  let kept ←
    msg.transforms.mapM (notedOnTransform rand tf2 h base)
  return (slept, { transforms := kept.reduceOption })

theorem erase_notedAnyDrops
    (transform : TransformStamped)
    (faultIds : List String) :
    erase (notedAnyDrops rand base transform faultIds) =
      anyDrops rand base transform faultIds := by
  induction faultIds with
  | nil => rfl
  | cons faultId rest ih =>
      unfold notedAnyDrops anyDrops
      simp [ih]

theorem erase_notedOnTransform
    (transform : TransformStamped) :
    erase (notedOnTransform rand tf2 h base transform) =
      onTransform rand tf2 h base transform := by
  unfold notedOnTransform onTransform shouldDropTransform
  simp [erase_notedAnyDrops]

theorem erase_notedOnMessage (msg : TFMessage) :
    erase (notedOnMessage rand tf2 h base msg) =
      onMessage rand tf2 h base msg := by
  unfold notedOnMessage onMessage
  simp [erase_mapM, erase_notedOnTransform]

end tfFaultInjector
