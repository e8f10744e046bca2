import FaultInjection.Core.TopicInjector
import FaultInjection.Messages.Sensors

/-
  The injector for point clouds.

  The coordinates are single precision numbers; their
  rounding is not modelled. A range is a square root, so the
  points may have coordinates from any ordered field with the
  square root as a parameter.

  Key definitions include:
    * `pointCloudFaultInjector.applyPointDropout`
    * `pointCloudFaultInjector.applyRangeNoise`
    * `pointCloudFaultInjector.applyDustReturns`
    * `pointCloudFaultInjector.change`
-/

open NumberText

namespace pointCloudFaultInjector

variable {G N : Type}
variable {K : Type}

------------------------------------------------------------
-- Values Of Active Faults
------------------------------------------------------------

section Values

variable (h : HashOrder String)
variable (base : FaultInjectorBase)

def activeMinDouble
    (key : String)
    (fallback : Number) : Except Errc Number :=
  base.foldActive h
    (fun value fault =>
      match fault.config.find? key with
      | none => .ok value
      | some text => do return value.min (← stod text))
    fallback

def activeProductDouble
    (key : String)
    (fallback : Number) : Except Errc Number :=
  base.foldActive h
    (fun value fault =>
      match fault.config.find? key with
      | none => .ok value
      | some text => do return value.mul (← stod text))
    fallback

/- The default counts only when no active fault has the key. -/
def activeProductDoubleOrDefault
    (key : String)
    (defaultWhenUnconfigured : Number) :
    Except Errc Number := do
  let product ←
    base.foldActive h
      (fun value fault =>
        match fault.config.find? key with
        | none => .ok value
        | some text => do
            let factor ← stod text
            return some ((value.getD .one).mul factor))
      none
  return product.getD defaultWhenUnconfigured

end Values

------------------------------------------------------------
-- Points
------------------------------------------------------------

def hasFloat32Field
    {P : Type}
    (msg : PointCloud P)
    (fieldName : String) : Bool :=
  msg.fields.any fun field =>
    field.name = fieldName ∧
      field.datatype = PointField.float32

/- The cloud has single precision coordinates. -/
def hasCoordinates {P : Type} (msg : PointCloud P) : Bool :=
  hasFloat32Field msg "x" && hasFloat32Field msg "y" &&
    hasFloat32Field msg "z"

section Ranges

variable [Field K]
variable [LinearOrder K]
variable (sqrt : Number K → Number K)

/- The smallest step of single precision above one. -/
def epsilon : Number K := .finite (1 / 2 ^ 23)

/- The distance of a point from the sensor. -/
def rangeOf (point : CloudPoint K) : Number K :=
  sqrt
    (((point.x.mul point.x).add (point.y.mul point.y)).add
      (point.z.mul point.z))

/-
  The range of a point that can be moved along its ray: the
  point is finite and not at the sensor.
-/
def movableRange (point : CloudPoint K) : Option (Number K) :=
  if ¬ point.x.isFinite ∨ ¬ point.y.isFinite ∨
      ¬ point.z.isFinite then
    none
  else if (rangeOf sqrt point).le epsilon then
    none
  else
    some (rangeOf sqrt point)

/- Move a point along its ray. -/
def scaled
    (scale : Number K)
    (point : CloudPoint K) : CloudPoint K :=
  { point with
    x := point.x.mul scale
    y := point.y.mul scale
    z := point.z.mul scale }

end Ranges

------------------------------------------------------------
-- Changes
------------------------------------------------------------

section Dropout

variable (rand : RandomLibrary G N)
variable (h : HashOrder String)
variable (base : FaultInjectorBase)

/- A point that is dropped out has no coordinates. -/
def dropPoint
    (probability : Number)
    (point : CloudPoint K) : Drawing G (CloudPoint K) := do
  if ← rand.bernoulli probability then
    return { point with x := .nan, y := .nan, z := .nan }
  else
    return point

def applyPointDropout
    (msg : PointCloud2 K) : Drawing G (PointCloud2 K) := do
  let dropProbability ←
    base.activeMaxDouble h "point_dropout_probability" .zero
  if dropProbability.le .zero then
    return msg
  else if ¬ hasCoordinates msg then
    return msg
  else
    let points ←
      msg.points.mapM (dropPoint rand dropProbability)
    return { msg with points := points }

end Dropout

variable [Field K]
variable [LinearOrder K]
variable (rand : RandomLibrary G N)
variable (sqrt : Number K → Number K)
variable (h : HashOrder String)
variable (base : FaultInjectorBase)

/- Noise changes the range, which is not negative. -/
def noisyPoint
    (point : CloudPoint K) : Option (Number → CloudPoint K) :=
  (movableRange sqrt point).map fun range noise =>
    let noisyRange := Number.zero.max (range.add noise.cast)
    scaled (noisyRange.div range) point

def applyRangeNoise
    (msg : PointCloud2 K) : Drawing G (PointCloud2 K) := do
  let rangeNoiseStddev ←
    base.activeMaxDouble h "range_noise_stddev" .zero
  if rangeNoiseStddev.le .zero then
    return msg
  else if ¬ hasCoordinates msg then
    return msg
  else
    let points ←
      rand.mapNormal (noisyPoint sqrt) rangeNoiseStddev
        msg.points
    return { msg with points := points }

/- The loop body for a cloud with intensities. -/
def dustReturnWithIntensity
    (probability minRange maxRange intensityScale : Number)
    (point : CloudPoint K) : Drawing G (CloudPoint K) := do
  if ¬ (← rand.bernoulli probability) then
    return point
  else
    match movableRange sqrt point with
    | none => return point
    | some range =>
        let dustRange ← rand.uniform minRange maxRange
        let moved := scaled (dustRange.cast.div range) point
        return { moved with
          intensity := moved.intensity.mul intensityScale.cast }

/- The loop body for a cloud without intensities. -/
def dustReturn
    (probability minRange maxRange : Number)
    (point : CloudPoint K) : Drawing G (CloudPoint K) := do
  if ¬ (← rand.bernoulli probability) then
    return point
  else
    match movableRange sqrt point with
    | none => return point
    | some range =>
        let dustRange ← rand.uniform minRange maxRange
        return scaled (dustRange.cast.div range) point

def applyDustReturns
    (msg : PointCloud2 K) : Drawing G (PointCloud2 K) := do
  let probability ←
    base.activeMaxDouble h "dust_return_probability" .zero
  if probability.le .zero then
    return msg
  else if ¬ hasCoordinates msg then
    return msg
  else
    let minRange ←
      base.activeMaxDouble h "dust_min_range"
        (.finite (1 / 5))
    let maxRange ←
      activeMinDouble h base "dust_max_range" (.finite 2)
    if maxRange.lt minRange then
      return msg
    else
      let intensityScale ←
        activeProductDoubleOrDefault h base
          "dust_intensity_scale" (.finite (1 / 5))
      if hasFloat32Field msg "intensity" then
        let points ←
          msg.points.mapM
            (dustReturnWithIntensity rand sqrt probability
              minRange maxRange intensityScale)
        return { msg with points := points }
      else
        let points ←
          msg.points.mapM
            (dustReturn rand sqrt probability minRange
              maxRange)
        return { msg with points := points }

def applyIntensityScale
    (msg : PointCloud2 K) : Drawing G (PointCloud2 K) := do
  let intensityScale ←
    activeProductDouble h base "intensity_scale" .one
  if intensityScale = .one then
    return msg
  else if ¬ hasFloat32Field msg "intensity" then
    return msg
  else
    return { msg with
      points := msg.points.map fun point =>
        { point with
          intensity :=
            point.intensity.mul intensityScale.cast } }

/- The changes that `on_point_cloud` makes, in order. -/
def change : TopicInjector.Change G Unit (PointCloud2 K) :=
  fun moment base msg memory => do
    let out ← applyPointDropout rand moment.h base msg
    let out ← applyRangeNoise rand sqrt moment.h base out
    let out ← applyDustReturns rand sqrt moment.h base out
    let out ← applyIntensityScale moment.h base out
    return (out, memory)

end pointCloudFaultInjector
