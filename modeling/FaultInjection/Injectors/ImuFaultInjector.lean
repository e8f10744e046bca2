import FaultInjection.Core.TopicInjector
import FaultInjection.Messages.Sensors

/-
  The injector for inertial sensors.

  Key definitions include:
    * `imuFaultInjector.change`
-/

namespace imuFaultInjector

variable {G N : Type}
variable (rand : RandomLibrary G N)
variable (h : HashOrder String)
variable (base : FaultInjectorBase)

/- Add to the angular velocity. -/
def spin (dz : Number) (msg : Imu) : Imu :=
  let velocity := msg.angularVelocity
  { msg with
    angularVelocity :=
      { velocity with z := velocity.z.add dz } }

/- Add to the linear acceleration. -/
def push (dx dy dz : Number) (msg : Imu) : Imu :=
  let acceleration := msg.linearAcceleration
  { msg with
    linearAcceleration :=
      { x := acceleration.x.add dx
        y := acceleration.y.add dy
        z := acceleration.z.add dz } }

def applyAngularVelocityBias
    (msg : Imu) : Drawing G Imu := do
  let bias ←
    base.activeSumDouble h "angular_velocity_z_bias" .zero
  if bias = .zero then
    return msg
  else
    return spin bias msg

def applyAngularVelocityNoise
    (msg : Imu) : Drawing G Imu := do
  let stddev ←
    base.activeMaxDouble h
      "angular_velocity_z_noise_stddev" .zero
  if stddev = .zero then
    return msg
  else
    return spin (← rand.normal stddev) msg

def applyLinearAccelerationBias
    (msg : Imu) : Drawing G Imu := do
  let xBias ←
    base.activeSumDouble h "linear_acceleration_x_bias" .zero
  let yBias ←
    base.activeSumDouble h "linear_acceleration_y_bias" .zero
  let zBias ←
    base.activeSumDouble h "linear_acceleration_z_bias" .zero
  if xBias = .zero ∧ yBias = .zero ∧ zBias = .zero then
    return msg
  else
    return push xBias yBias zBias msg

/- Each axis takes a sample when one of them has noise. -/
def applyLinearAccelerationNoise
    (msg : Imu) : Drawing G Imu := do
  let xStddev ←
    base.activeMaxDouble h
      "linear_acceleration_x_noise_stddev" .zero
  let yStddev ←
    base.activeMaxDouble h
      "linear_acceleration_y_noise_stddev" .zero
  let zStddev ←
    base.activeMaxDouble h
      "linear_acceleration_z_noise_stddev" .zero
  if xStddev = .zero ∧ yStddev = .zero ∧ zStddev = .zero then
    return msg
  else
    let xNoise ← rand.normal xStddev
    let yNoise ← rand.normal yStddev
    let zNoise ← rand.normal zStddev
    return push xNoise yNoise zNoise msg

/- The changes that `on_imu` makes, in order. -/
def change : TopicInjector.Change G Unit Imu :=
  fun moment base msg memory => do
    let out ← applyAngularVelocityBias moment.h base msg
    let out ←
      applyAngularVelocityNoise rand moment.h base out
    let out ← applyLinearAccelerationBias moment.h base out
    let out ←
      applyLinearAccelerationNoise rand moment.h base out
    return (out, memory)

end imuFaultInjector
