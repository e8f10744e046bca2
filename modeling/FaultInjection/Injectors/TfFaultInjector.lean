import FaultInjection.Foundations.BinaryFormats
import FaultInjection.Injectors.OdomFaultInjector
import FaultInjection.Messages.Transforms

/-
  The injector for transforms.

  A fault affects the transforms between the two frames that
  it names. There is no delay queue: the callback sleeps and
  then publishes what it has made of the message. The biases
  of several faults are added one after the other, in double
  precision.

  Key definitions include:
    * `tfFaultInjector.matchesFrame`
    * `tfFaultInjector.shouldDropTransform`
    * `tfFaultInjector.applyTranslationBias`
    * `tfFaultInjector.applyRotationBias`
    * `tfFaultInjector.onMessage`
-/

open GeometryMsgs (TransformStamped)
open NumberText

namespace tfFaultInjector

------------------------------------------------------------
-- Values Of A Fault
------------------------------------------------------------

def kDegreesToRadians : Number :=
  Number.divDouble (.finite Number.mPi) (.finite 180)

/- The whole text has to be a number. -/
def parseDouble (text : String) : Option Number :=
  match stod text, strtod text.toList with
  | .ok value, some (_, []) => some value.toDouble
  | _, _ => none

/- A text that is not a number gives the fallback. -/
def getDouble
    (fault : FaultConfig)
    (key : String)
    (fallback : Number) : Number :=
  match fault.config.find? key with
  | none => fallback
  | some text => (parseDouble text).getD fallback

/- A fault has to name both frames of the transform. -/
def matchesFrame
    (fault : FaultConfig)
    (transform : TransformStamped) : Bool :=
  match fault.config.find? "parent_frame",
      fault.config.find? "child_frame" with
  | some parent, some child =>
      parent = transform.header.frameId &&
        child = transform.childFrameId
  | _, _ => false

------------------------------------------------------------
-- Changes
------------------------------------------------------------

variable {G N : Type}
variable (rand : RandomLibrary G N)
variable (tf2 : Tf2)
variable (h : HashOrder String)
variable (base : FaultInjectorBase)

/-
  The loop of `should_drop_transform` over the active faults.
  A draw is made only for a probability between the bounds.
-/
def anyDrops
    (transform : TransformStamped) :
    List String → Drawing G Bool
| [] => return false
| faultId :: rest => do
    let fault ← base.faultAt faultId
    if ¬ matchesFrame fault transform then
      anyDrops transform rest
    else
      let probability :=
        getDouble fault "drop_probability" .zero
      if probability.le .zero then
        anyDrops transform rest
      else if Number.one.le probability then
        return true
      else
        let draw ← rand.uniform .zero .one
        if draw.lt probability then
          return true
        else
          anyDrops transform rest

def shouldDropTransform
    (transform : TransformStamped) : Drawing G Bool :=
  anyDrops rand base transform (base.activeFaultIds h)

/- Move the translation by the biases of a fault. -/
def translate
    (fault : FaultConfig)
    (stamped : TransformStamped) : TransformStamped :=
  let translation := stamped.transform.translation
  let moved : GeometryMsgs.Vector3 :=
    { x :=
        translation.x.addDouble (getDouble fault "x_bias" .zero)
      y :=
        translation.y.addDouble (getDouble fault "y_bias" .zero)
      z :=
        translation.z.addDouble
          (getDouble fault "z_bias" .zero) }
  { stamped with
    transform :=
      { stamped.transform with translation := moved } }

/- Turn the rotation by the biases of a fault. -/
def rotate
    (fault : FaultConfig)
    (stamped : TransformStamped) : TransformStamped :=
  let rollBias :=
    (getDouble fault "roll_bias_deg" .zero).mulDouble
      kDegreesToRadians
  let pitchBias :=
    (getDouble fault "pitch_bias_deg" .zero).mulDouble
      kDegreesToRadians
  let yawBias :=
    (getDouble fault "yaw_bias_deg" .zero).mulDouble
      kDegreesToRadians
  if rollBias = .zero ∧ pitchBias = .zero ∧
      yawBias = .zero then
    stamped
  else
    let (roll, pitch, yaw) :=
      tf2.getRPY stamped.transform.rotation
    let turned :=
      tf2.normalize
        (tf2.setRPY (roll.addDouble rollBias)
          (pitch.addDouble pitchBias) (yaw.addDouble yawBias))
    { stamped with
      transform :=
        { stamped.transform with rotation := turned } }

/- The loop over the active faults that match a transform. -/
def applyMatching
    (change :
      FaultConfig → TransformStamped → TransformStamped)
    (transform : TransformStamped) :
    Drawing G TransformStamped :=
  (base.activeFaultIds h).foldlM
    (fun transform faultId => do
      let fault ← base.faultAt faultId
      if matchesFrame fault transform then
        return change fault transform
      else
        return transform)
    transform

def applyTranslationBias :
    TransformStamped → Drawing G TransformStamped :=
  applyMatching h base translate

def applyRotationBias :
    TransformStamped → Drawing G TransformStamped :=
  applyMatching h base (rotate tf2)

------------------------------------------------------------
-- Callback
------------------------------------------------------------

/- What becomes of a transform, none when it is dropped. -/
def onTransform
    (transform : TransformStamped) :
    Drawing G (Option TransformStamped) := do
  if ← shouldDropTransform rand h base transform then
    return none
  else
    let moved ← applyTranslationBias h base transform
    let turned ← applyRotationBias tf2 h base moved
    return some turned

/-
  The milliseconds for which the callback sleeps, and the
  message that it publishes then.
-/
def onMessage (msg : TFMessage) : Drawing G (Int × TFMessage) := do
  let delay ← base.activeDelay h
  let slept := if 0 < delay then delay else 0
  let kept ←
    msg.transforms.mapM (onTransform rand tf2 h base)
  return (slept, { transforms := kept.reduceOption })

end tfFaultInjector
