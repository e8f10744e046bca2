import FaultInjection.Foundations.SameDraws
import FaultInjection.Injectors.PointCloudFaultInjector

/-
  The passes over a point cloud, on the bytes of its points.

  An iterator reads and writes the value of a field at the
  place of the field in the bytes of a point. What two fields
  with a place in common do to each other depends on the
  bytes; of fields apart nothing but the values matters. So on
  a cloud whose fields are apart the passes do what they do on
  the values of its points.

  Key definitions include:
    * `PointBytes`
    * `FieldsApart`
    * `PointBytes.view`
    * `pointCloudBytes.change`

  Key theorems include:
    * `pointCloudBytes.applyPointDropout_view`
    * `pointCloudBytes.applyRangeNoise_view`
    * `pointCloudBytes.applyDustReturns_view`
    * `pointCloudBytes.applyIntensityScale_view`
-/

------------------------------------------------------------
-- Bytes
------------------------------------------------------------

/- Four bytes from one place and from another one. -/
def Apart (a b : ℕ) : Prop :=
  a + 4 ≤ b ∨ b + 4 ≤ a

theorem Apart.symm {a b : ℕ} (hApart : Apart a b) : Apart b a :=
  Or.symm hApart

/-
  The bytes of a point as iterators use them: a value is read
  where it was written, and is not changed by writing another
  one apart from it.
-/
structure PointBytes (K : Type) where
  Bytes : Type
  read : ℕ → Bytes → Number K
  write : ℕ → Number K → Bytes → Bytes
  read_write :
    ∀ place value point,
      read place (write place value point) = value
  read_write_apart :
    ∀ place other value point,
      Apart place other →
        read place (write other value point) =
          read place point

/- Bytes that hold one value at each place. -/
def PointBytes.slots (K : Type) : PointBytes K where
  Bytes := ℕ → Number K
  read place point := point place
  write place value point := Function.update point place value
  read_write place value point :=
    Function.update_self place value point
  read_write_apart := by
    intro place other value point hApart
    have hOther : place ≠ other := by
      rcases hApart with hBefore | hAfter
      · omega
      · omega
    exact Function.update_of_ne hOther value point

/- Where an iterator over the values of a field starts. -/
def placeOf
    {P : Type}
    (msg : PointCloud P)
    (fieldName : String) : ℕ :=
  match msg.fields.find? fun field => field.name = fieldName with
  | some field => field.offset
  | none => 0

/- No two of the fields have a byte in common. -/
structure FieldsApart {P : Type} (msg : PointCloud P) : Prop where
  xy : Apart (placeOf msg "x") (placeOf msg "y")
  xz : Apart (placeOf msg "x") (placeOf msg "z")
  yz : Apart (placeOf msg "y") (placeOf msg "z")
  intensity :
    pointCloudFaultInjector.hasFloat32Field msg "intensity" =
        true →
      Apart (placeOf msg "x") (placeOf msg "intensity") ∧
        Apart (placeOf msg "y") (placeOf msg "intensity") ∧
          Apart (placeOf msg "z") (placeOf msg "intensity")

/- Only the fields of the cloud matter. -/
theorem FieldsApart.of_fields
    {P : Type}
    {msg out : PointCloud P}
    (hApart : FieldsApart msg)
    (hFields : out.fields = msg.fields) :
    FieldsApart out := by
  rcases hApart with ⟨hXY, hXZ, hYZ, hIntensity⟩
  unfold placeOf pointCloudFaultInjector.hasFloat32Field at *
  rw [← hFields] at hXY hXZ hYZ hIntensity
  exact ⟨hXY, hXZ, hYZ, hIntensity⟩

namespace PointBytes

variable {K : Type}
variable [Field K]
variable [LinearOrder K]
variable (bytes : PointBytes K)

/- Multiply the value at a place. -/
def rescale
    (place : ℕ)
    (scale : Number K)
    (point : bytes.Bytes) : bytes.Bytes :=
  bytes.write place ((bytes.read place point).mul scale) point

theorem read_rescale
    (place : ℕ)
    (scale : Number K)
    (point : bytes.Bytes) :
    bytes.read place (bytes.rescale place scale point) =
      (bytes.read place point).mul scale :=
  bytes.read_write place _ point

theorem read_rescale_apart
    {place other : ℕ}
    (hApart : Apart place other)
    (scale : Number K)
    (point : bytes.Bytes) :
    bytes.read place (bytes.rescale other scale point) =
      bytes.read place point :=
  bytes.read_write_apart place other _ point hApart

variable (msg : PointCloud bytes.Bytes)

/- The values of a point that the iterators are at. -/
def valuesOf (point : bytes.Bytes) : CloudPoint K where
  x := bytes.read (placeOf msg "x") point
  y := bytes.read (placeOf msg "y") point
  z := bytes.read (placeOf msg "z") point
  intensity :=
    if pointCloudFaultInjector.hasFloat32Field msg
        "intensity" then
      bytes.read (placeOf msg "intensity") point
    else
      .zero

/- The cloud with the values of its points. -/
def view : PointCloud2 K :=
  msg.mapPoints (bytes.valuesOf msg)

end PointBytes

------------------------------------------------------------
-- Passes
------------------------------------------------------------

namespace pointCloudBytes

open pointCloudFaultInjector (hasFloat32Field hasCoordinates
  movableRange activeMinDouble activeProductDouble
  activeProductDoubleOrDefault)

variable {G N : Type}
variable {K : Type}
variable [Field K]
variable [LinearOrder K]
variable (bytes : PointBytes K)
variable (rand : RandomLibrary G N)
variable (sqrt : Number K → Number K)
variable (h : HashOrder String)
variable (base : FaultInjectorBase)
variable (msg : PointCloud bytes.Bytes)

/- Multiply the coordinates, one after the other. -/
def scaled
    (scale : Number K)
    (point : bytes.Bytes) : bytes.Bytes :=
  let point := bytes.rescale (placeOf msg "x") scale point
  let point := bytes.rescale (placeOf msg "y") scale point
  bytes.rescale (placeOf msg "z") scale point

/- Write a value that is no number to each coordinate. -/
def lost (point : bytes.Bytes) : bytes.Bytes :=
  let point := bytes.write (placeOf msg "x") .nan point
  let point := bytes.write (placeOf msg "y") .nan point
  bytes.write (placeOf msg "z") .nan point

def dropPoint
    (probability : Number)
    (point : bytes.Bytes) : Drawing G bytes.Bytes := do
  if ← rand.bernoulli probability then
    return lost bytes msg point
  else
    return point

def applyPointDropout :
    Drawing G (PointCloud bytes.Bytes) := do
  let dropProbability ←
    base.activeMaxDouble h "point_dropout_probability" .zero
  if dropProbability.le .zero then
    return msg
  else if ¬ hasCoordinates msg then
    return msg
  else
    let points ←
      msg.points.mapM
        (dropPoint bytes rand msg dropProbability)
    return { msg with points := points }

def noisyPoint
    (point : bytes.Bytes) : Option (Number → bytes.Bytes) :=
  (movableRange sqrt (bytes.valuesOf msg point)).map
    fun range noise =>
      let noisyRange := Number.zero.max (range.add noise.cast)
      scaled bytes msg (noisyRange.div range) point

def applyRangeNoise :
    Drawing G (PointCloud bytes.Bytes) := do
  let rangeNoiseStddev ←
    base.activeMaxDouble h "range_noise_stddev" .zero
  if rangeNoiseStddev.le .zero then
    return msg
  else if ¬ hasCoordinates msg then
    return msg
  else
    let points ←
      rand.mapNormal (noisyPoint bytes sqrt msg)
        rangeNoiseStddev msg.points
    return { msg with points := points }

def dustReturnWithIntensity
    (probability minRange maxRange intensityScale : Number)
    (point : bytes.Bytes) : Drawing G bytes.Bytes := do
  if ¬ (← rand.bernoulli probability) then
    return point
  else
    match movableRange sqrt (bytes.valuesOf msg point) with
    | none => return point
    | some range =>
        let dustRange ← rand.uniform minRange maxRange
        let moved :=
          scaled bytes msg (dustRange.cast.div range) point
        return bytes.rescale (placeOf msg "intensity")
          intensityScale.cast moved

def dustReturn
    (probability minRange maxRange : Number)
    (point : bytes.Bytes) : Drawing G bytes.Bytes := do
  if ¬ (← rand.bernoulli probability) then
    return point
  else
    match movableRange sqrt (bytes.valuesOf msg point) with
    | none => return point
    | some range =>
        let dustRange ← rand.uniform minRange maxRange
        return scaled bytes msg (dustRange.cast.div range) point

def applyDustReturns :
    Drawing G (PointCloud bytes.Bytes) := do
  let probability ←
    base.activeMaxDouble h "dust_return_probability" .zero
  if probability.le .zero then
    return msg
  else if ¬ hasCoordinates msg then
    return msg
  else
    let minRange ←
      base.activeMaxDouble h "dust_min_range"
        (.finite (1 / 5))
    let maxRange ←
      activeMinDouble h base "dust_max_range" (.finite 2)
    if maxRange.lt minRange then
      return msg
    else
      let intensityScale ←
        activeProductDoubleOrDefault h base
          "dust_intensity_scale" (.finite (1 / 5))
      if hasFloat32Field msg "intensity" then
        let points ←
          msg.points.mapM
            (dustReturnWithIntensity bytes rand sqrt msg
              probability minRange maxRange intensityScale)
        return { msg with points := points }
      else
        let points ←
          msg.points.mapM
            (dustReturn bytes rand sqrt msg probability
              minRange maxRange)
        return { msg with points := points }

def applyIntensityScale :
    Drawing G (PointCloud bytes.Bytes) := do
  let intensityScale ←
    activeProductDouble h base "intensity_scale" .one
  if intensityScale = .one then
    return msg
  else if ¬ hasFloat32Field msg "intensity" then
    return msg
  else
    return { msg with
      points :=
        msg.points.map
          (bytes.rescale (placeOf msg "intensity")
            intensityScale.cast) }

/- The changes that `on_point_cloud` makes to the buffer. -/
def change :
    TopicInjector.Change G Unit (PointCloud bytes.Bytes) :=
  fun moment base msg memory => do
    let out ← applyPointDropout bytes rand moment.h base msg
    let out ← applyRangeNoise bytes rand sqrt moment.h base out
    let out ← applyDustReturns bytes rand sqrt moment.h base out
    let out ← applyIntensityScale bytes moment.h base out
    return (out, memory)

------------------------------------------------------------
-- Values
------------------------------------------------------------

section Values

variable {bytes : PointBytes K}
variable {msg : PointCloud bytes.Bytes}

theorem valuesOf_scaled
    (hApart : FieldsApart msg)
    (scale : Number K)
    (point : bytes.Bytes) :
    bytes.valuesOf msg (scaled bytes msg scale point) =
      pointCloudFaultInjector.scaled scale
        (bytes.valuesOf msg point) := by
  unfold PointBytes.valuesOf pointCloudFaultInjector.scaled
    scaled
  rw [CloudPoint.mk.injEq]
  refine ⟨?_, ?_, ?_, ?_, rfl⟩
  · rw [bytes.read_rescale_apart hApart.xz,
      bytes.read_rescale_apart hApart.xy, bytes.read_rescale]
  · rw [bytes.read_rescale_apart hApart.yz,
      bytes.read_rescale,
      bytes.read_rescale_apart hApart.xy.symm]
  · rw [bytes.read_rescale,
      bytes.read_rescale_apart hApart.yz.symm,
      bytes.read_rescale_apart hApart.xz.symm]
  · split
    · rename_i hIntensity
      rcases hApart.intensity hIntensity with ⟨hX, hY, hZ⟩
      rw [bytes.read_rescale_apart hZ.symm,
        bytes.read_rescale_apart hY.symm,
        bytes.read_rescale_apart hX.symm]
    · rfl

omit [LinearOrder K] in
theorem valuesOf_lost
    (hApart : FieldsApart msg)
    (point : bytes.Bytes) :
    bytes.valuesOf msg (lost bytes msg point) =
      { bytes.valuesOf msg point with
        x := .nan
        y := .nan
        z := .nan } := by
  unfold PointBytes.valuesOf lost
  rw [CloudPoint.mk.injEq]
  refine ⟨?_, ?_, ?_, ?_, rfl⟩
  · rw [bytes.read_write_apart _ _ _ _ hApart.xz,
      bytes.read_write_apart _ _ _ _ hApart.xy,
      bytes.read_write]
  · rw [bytes.read_write_apart _ _ _ _ hApart.yz,
      bytes.read_write]
  · rw [bytes.read_write]
  · split
    · rename_i hIntensity
      rcases hApart.intensity hIntensity with ⟨hX, hY, hZ⟩
      rw [bytes.read_write_apart _ _ _ _ hZ.symm,
        bytes.read_write_apart _ _ _ _ hY.symm,
        bytes.read_write_apart _ _ _ _ hX.symm]
    · rfl

theorem valuesOf_rescale
    (hApart : FieldsApart msg)
    (hIntensity : hasFloat32Field msg "intensity" = true)
    (scale : Number K)
    (point : bytes.Bytes) :
    bytes.valuesOf msg
        (bytes.rescale (placeOf msg "intensity") scale
          point) =
      { bytes.valuesOf msg point with
        intensity :=
          (bytes.valuesOf msg point).intensity.mul scale } := by
  rcases hApart.intensity hIntensity with ⟨hX, hY, hZ⟩
  unfold PointBytes.valuesOf
  rw [CloudPoint.mk.injEq]
  refine ⟨?_, ?_, ?_, ?_, rfl⟩
  · rw [bytes.read_rescale_apart hX]
  · rw [bytes.read_rescale_apart hY]
  · rw [bytes.read_rescale_apart hZ]
  · rw [if_pos hIntensity, if_pos hIntensity,
      bytes.read_rescale]

end Values

------------------------------------------------------------
-- Passes On Values
------------------------------------------------------------

section Views

variable {bytes : PointBytes K}
variable {msg out : PointCloud bytes.Bytes}

/- A cloud after a pass, and the values of its points. -/
structure Seen
    (msg out : PointCloud bytes.Bytes)
    (values : PointCloud2 K) : Prop where
  fields : out.fields = msg.fields
  view : bytes.view out = values

omit [LinearOrder K] in
theorem seen_points
    {points : List bytes.Bytes}
    {values : List (CloudPoint K)}
    (hValues : points.map (bytes.valuesOf msg) = values) :
    Seen msg { msg with points := points }
      { bytes.view msg with points := values } where
  fields := rfl
  view := by
    rw [← hValues]
    rfl

omit [LinearOrder K] in
theorem applyPointDropout_view
    (hApart : FieldsApart msg) :
    SameDraws (applyPointDropout bytes rand h base msg)
      (pointCloudFaultInjector.applyPointDropout rand h base
        (bytes.view msg))
      (Seen msg) := by
  have hSkip :
      SameDraws (pure msg : Drawing G _)
        (pure (bytes.view msg)) (Seen msg) :=
    SameDraws.pure ⟨rfl, rfl⟩
  unfold applyPointDropout
    pointCloudFaultInjector.applyPointDropout
  refine SameDraws.bind_same fun dropProbability => ?_
  refine SameDraws.ite (fun _ => hSkip) fun _ => ?_
  refine SameDraws.ite (fun _ => hSkip) fun _ => ?_
  refine SameDraws.bind
    (SameDraws.mapM_map (fun point => ?_) msg.points)
    fun points values hValues =>
      SameDraws.pure (seen_points hValues)
  unfold dropPoint pointCloudFaultInjector.dropPoint
  refine SameDraws.bind_same fun dropped => ?_
  refine SameDraws.ite ?_ ?_
  · intro _
    exact SameDraws.pure (valuesOf_lost hApart point)
  · intro _
    exact SameDraws.pure rfl

theorem applyRangeNoise_view
    (hApart : FieldsApart msg) :
    SameDraws (applyRangeNoise bytes rand sqrt h base msg)
      (pointCloudFaultInjector.applyRangeNoise rand sqrt h
        base (bytes.view msg))
      (Seen msg) := by
  have hSkip :
      SameDraws (pure msg : Drawing G _)
        (pure (bytes.view msg)) (Seen msg) :=
    SameDraws.pure ⟨rfl, rfl⟩
  unfold applyRangeNoise
    pointCloudFaultInjector.applyRangeNoise
  refine SameDraws.bind_same fun stddev => ?_
  refine SameDraws.ite (fun _ => hSkip) fun _ => ?_
  refine SameDraws.ite (fun _ => hSkip) fun _ => ?_
  refine SameDraws.bind
    (SameDraws.mapNormal_map rand (fun point => ?_) stddev
      msg.points)
    fun points values hValues =>
      SameDraws.pure (seen_points hValues)
  unfold noisyPoint pointCloudFaultInjector.noisyPoint
  cases movableRange sqrt (bytes.valuesOf msg point) with
  | none => rfl
  | some range =>
      simp only [Option.map_some, Option.some.injEq]
      funext noise
      exact (valuesOf_scaled hApart _ point).symm

theorem dustReturnWithIntensity_view
    (hApart : FieldsApart msg)
    (hIntensity : hasFloat32Field msg "intensity" = true)
    (probability minRange maxRange intensityScale : Number)
    (point : bytes.Bytes) :
    SameDraws
      (dustReturnWithIntensity bytes rand sqrt msg
        probability minRange maxRange intensityScale point)
      (pointCloudFaultInjector.dustReturnWithIntensity rand
        sqrt probability minRange maxRange intensityScale
        (bytes.valuesOf msg point))
      fun moved value => bytes.valuesOf msg moved = value := by
  unfold dustReturnWithIntensity
    pointCloudFaultInjector.dustReturnWithIntensity
  refine SameDraws.bind_same fun hit => ?_
  refine SameDraws.ite (fun _ => SameDraws.pure rfl) ?_
  intro _
  cases movableRange sqrt (bytes.valuesOf msg point) with
  | none => exact SameDraws.pure rfl
  | some range =>
      refine SameDraws.bind_same fun dustRange => ?_
      refine SameDraws.pure ?_
      rw [valuesOf_rescale hApart hIntensity,
        valuesOf_scaled hApart]

theorem dustReturn_view
    (hApart : FieldsApart msg)
    (probability minRange maxRange : Number)
    (point : bytes.Bytes) :
    SameDraws
      (dustReturn bytes rand sqrt msg probability minRange
        maxRange point)
      (pointCloudFaultInjector.dustReturn rand sqrt
        probability minRange maxRange
        (bytes.valuesOf msg point))
      fun moved value => bytes.valuesOf msg moved = value := by
  unfold dustReturn pointCloudFaultInjector.dustReturn
  refine SameDraws.bind_same fun hit => ?_
  refine SameDraws.ite (fun _ => SameDraws.pure rfl) ?_
  intro _
  cases movableRange sqrt (bytes.valuesOf msg point) with
  | none => exact SameDraws.pure rfl
  | some range =>
      refine SameDraws.bind_same fun dustRange => ?_
      exact SameDraws.pure (valuesOf_scaled hApart _ point)

theorem applyDustReturns_view
    (hApart : FieldsApart msg) :
    SameDraws (applyDustReturns bytes rand sqrt h base msg)
      (pointCloudFaultInjector.applyDustReturns rand sqrt h
        base (bytes.view msg))
      (Seen msg) := by
  have hSkip :
      SameDraws (pure msg : Drawing G _)
        (pure (bytes.view msg)) (Seen msg) :=
    SameDraws.pure ⟨rfl, rfl⟩
  unfold applyDustReturns
    pointCloudFaultInjector.applyDustReturns
  refine SameDraws.bind_same fun probability => ?_
  refine SameDraws.ite (fun _ => hSkip) fun _ => ?_
  refine SameDraws.ite (fun _ => hSkip) fun _ => ?_
  refine SameDraws.bind_same fun minRange => ?_
  refine SameDraws.bind_same fun maxRange => ?_
  refine SameDraws.ite (fun _ => hSkip) fun _ => ?_
  refine SameDraws.bind_same fun intensityScale => ?_
  refine SameDraws.ite ?_ ?_
  · intro hIntensity
    exact
      SameDraws.bind
        (SameDraws.mapM_map
          (dustReturnWithIntensity_view rand sqrt hApart
            hIntensity probability minRange maxRange
            intensityScale)
          msg.points)
        fun points values hValues =>
          SameDraws.pure (seen_points hValues)
  · intro _
    exact
      SameDraws.bind
        (SameDraws.mapM_map
          (dustReturn_view rand sqrt hApart probability
            minRange maxRange)
          msg.points)
        fun points values hValues =>
          SameDraws.pure (seen_points hValues)

theorem applyIntensityScale_view
    (hApart : FieldsApart msg) :
    SameDraws
      (applyIntensityScale bytes h base msg : Drawing G _)
      (pointCloudFaultInjector.applyIntensityScale h base
        (bytes.view msg))
      (Seen msg) := by
  have hSkip :
      SameDraws (pure msg : Drawing G _)
        (pure (bytes.view msg)) (Seen msg) :=
    SameDraws.pure ⟨rfl, rfl⟩
  unfold applyIntensityScale
    pointCloudFaultInjector.applyIntensityScale
  refine SameDraws.bind_same fun intensityScale => ?_
  refine SameDraws.ite (fun _ => hSkip) fun _ => ?_
  refine SameDraws.ite (fun _ => hSkip) fun hField => ?_
  have hIntensity : hasFloat32Field msg "intensity" = true :=
    not_not.mp hField
  refine SameDraws.pure (seen_points ?_)
  change _ = (msg.points.map (bytes.valuesOf msg)).map _
  rw [List.map_map, List.map_map]
  refine List.map_congr_left fun point _ => ?_
  exact valuesOf_rescale hApart hIntensity _ point

end Views

end pointCloudBytes
