import FaultInjection.Core.TopicInjector
import FaultInjection.Messages.Odometry

/-
  The injector for odometry.

  The conversions between orientations and angles belong to
  the transform library and are a parameter.

  Key definitions include:
    * `Tf2`
    * `odomFaultInjector.change`
-/

open GeometryMsgs (Quaternion)

/- Roll, pitch and yaw of an orientation, and back. -/
structure Tf2 where
  getRPY : Quaternion → Number × Number × Number
  setRPY : Number → Number → Number → Quaternion
  normalize : Quaternion → Quaternion

/- Degrees in radians. -/
def radians (degrees : Number) : Number :=
  (degrees.mul (.finite Number.mPi)).div (.finite 180)

namespace odomFaultInjector

variable {G N : Type}
variable (rand : RandomLibrary G N)
variable (tf2 : Tf2)
variable (h : HashOrder String)
variable (base : FaultInjectorBase)

/- Move the position. -/
def shift (dx dy : Number) (msg : Odometry) : Odometry :=
  let position := msg.pose.pose.position
  let moved :=
    { position with
      x := position.x.add dx
      y := position.y.add dy }
  { msg with
    pose :=
      { msg.pose with
        pose := { msg.pose.pose with position := moved } } }

def applyBias (msg : Odometry) : Drawing G Odometry := do
  let xBias ← base.activeSumDouble h "x_bias" .zero
  let yBias ← base.activeSumDouble h "y_bias" .zero
  return shift xBias yBias msg

/- A sample for a positive standard deviation. -/
def noise (stddev : Number) : Drawing G (Option Number) :=
  if Number.zero.lt stddev then
    some <$> rand.normal stddev
  else
    return none

/- A coordinate without noise is not touched. -/
def applyNoise (msg : Odometry) : Drawing G Odometry := do
  let xStddev ←
    base.activeMaxDouble h "x_noise_stddev" .zero
  let yStddev ←
    base.activeMaxDouble h "y_noise_stddev" .zero
  let xNoise ← noise rand xStddev
  let yNoise ← noise rand yStddev
  let position := msg.pose.pose.position
  let moved :=
    { position with
      x := xNoise.elim position.x position.x.add
      y := yNoise.elim position.y position.y.add }
  return { msg with
    pose :=
      { msg.pose with
        pose := { msg.pose.pose with position := moved } } }

/- Turn the orientation by an angle in radians. -/
def turn (angle : Number) (msg : Odometry) : Odometry :=
  let (roll, pitch, yaw) :=
    tf2.getRPY msg.pose.pose.orientation
  let turned :=
    tf2.normalize (tf2.setRPY roll pitch (yaw.add angle))
  { msg with
    pose :=
      { msg.pose with
        pose := { msg.pose.pose with orientation := turned } } }

def applyYawBias (msg : Odometry) : Drawing G Odometry := do
  let yawBiasDeg ←
    base.activeSumDouble h "yaw_bias_deg" .zero
  if yawBiasDeg = .zero then
    return msg
  else
    return turn tf2 (radians yawBiasDeg) msg

def applyYawNoise (msg : Odometry) : Drawing G Odometry := do
  let yawNoiseStddevDeg ←
    base.activeMaxDouble h "yaw_noise_stddev_deg" .zero
  if yawNoiseStddevDeg = .zero then
    return msg
  else
    let yawNoiseDeg ← rand.normal yawNoiseStddevDeg
    return turn tf2 (radians yawNoiseDeg) msg

/- Scale the entries and raise them to the floor. -/
def scaleCovariance
    (scale floor : Number)
    (covariance : List Number) : List Number :=
  if scale ≠ .one ∨ Number.zero.lt floor then
    covariance.map fun value => (value.mul scale).max floor
  else
    covariance

def applyCovarianceScale
    (msg : Odometry) : Drawing G Odometry := do
  let poseScale ←
    base.activeMaxDouble h "pose_covariance_scale" .one
  let twistScale ←
    base.activeMaxDouble h "twist_covariance_scale" .one
  let poseFloor ←
    base.activeMaxDouble h "pose_covariance_floor" .zero
  let twistFloor ←
    base.activeMaxDouble h "twist_covariance_floor" .zero
  let pose :=
    { msg.pose with
      covariance :=
        scaleCovariance poseScale poseFloor
          msg.pose.covariance }
  let twist :=
    { msg.twist with
      covariance :=
        scaleCovariance twistScale twistFloor
          msg.twist.covariance }
  return { msg with pose := pose, twist := twist }

/- The changes that `on_odom` makes, in order. -/
def change : TopicInjector.Change G Unit Odometry :=
  fun moment base msg memory => do
    let out ← applyBias moment.h base msg
    let out ← applyNoise rand moment.h base out
    let out ← applyYawBias tf2 moment.h base out
    let out ← applyYawNoise rand tf2 moment.h base out
    let out ← applyCovarianceScale moment.h base out
    return (out, memory)

end odomFaultInjector
