import FaultInjection.Core.TopicInjector
import FaultInjection.Messages.Sensors

/-
  The injector for joint states.

  Key definitions include:
    * `jointStateFaultInjector.change`
-/

namespace jointStateFaultInjector

variable {G N : Type}
variable (rand : RandomLibrary G N)
variable (h : HashOrder String)
variable (base : FaultInjectorBase)

def applyBias (msg : JointState) : Drawing G JointState := do
  let bias ← base.activeSumDouble h "velocity_bias" .zero
  if bias = .zero then
    return msg
  else
    return { msg with
      velocity := msg.velocity.map fun v => v.add bias }

def applyNoise
    (msg : JointState) : Drawing G JointState := do
  let noiseStddev ←
    base.activeMaxDouble h "velocity_noise_stddev" .zero
  if noiseStddev = .zero then
    return msg
  else
    let velocity ←
      rand.mapNormal (fun v => some v.add) noiseStddev
        msg.velocity
    return { msg with velocity := velocity }

/- The changes that `on_joint_state` makes, in order. -/
def change : TopicInjector.Change G Unit JointState :=
  fun moment base msg memory => do
    let out ← applyBias moment.h base msg
    let out ← applyNoise rand moment.h base out
    return (out, memory)

end jointStateFaultInjector
