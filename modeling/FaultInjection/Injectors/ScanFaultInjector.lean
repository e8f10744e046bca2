import FaultInjection.Core.TopicInjector
import FaultInjection.Messages.Sensors

/-
  The injector for laser scans.

  The ranges are single precision numbers; their rounding is
  not modelled.

  Key definitions include:
    * `scanFaultInjector.normalizeDegrees`
    * `scanFaultInjector.angleInSector`
    * `scanFaultInjector.applySectorDropout`
    * `scanFaultInjector.change`

  Key theorems include:
    * `scanFaultInjector.normalizeDegrees_isSome`
-/

open NumberText

namespace scanFaultInjector

------------------------------------------------------------
-- Angles
------------------------------------------------------------

def kRadiansToDegrees : ℚ := 180 / Number.mPi

/- Subtract turns while above 180, as often as allowed. -/
def subtractTurns : Nat → Number → Option Number
| 0, degrees =>
    if Number.lt (.finite 180) degrees then
      none
    else
      some degrees
| n + 1, degrees =>
    if Number.lt (.finite 180) degrees then
      subtractTurns n (degrees.sub (.finite 360))
    else
      some degrees

/- Add turns while below -180, as often as allowed. -/
def addTurns : Nat → Number → Option Number
| 0, degrees =>
    if degrees.lt (.finite (-180)) then
      none
    else
      some degrees
| n + 1, degrees =>
    if degrees.lt (.finite (-180)) then
      addTurns n (degrees.add (.finite 360))
    else
      some degrees

/- As many turns as a finite angle needs at most. -/
def turnsOf : Number → Nat
| .finite q => ⌊|q| / 360⌋.toNat + 1
| _ => 0

/- A loop that does not end has no result. -/
def normalizeDegrees (degrees : Number) : Option Number := do
  let lowered ← subtractTurns (turnsOf degrees) degrees
  addTurns (turnsOf lowered) lowered

def angleInSector
    (angleDeg minDeg maxDeg : Number) : Option Bool := do
  let angleDeg ← normalizeDegrees angleDeg
  let minDeg ← normalizeDegrees minDeg
  let maxDeg ← normalizeDegrees maxDeg
  if minDeg.le maxDeg then
    return minDeg.le angleDeg && angleDeg.le maxDeg
  else
    return minDeg.le angleDeg || angleDeg.le maxDeg

/- The allowed turns bring a finite angle down. -/
theorem subtractTurns_isSome
    {n : Nat}
    {q : ℚ}
    (hTurns : q ≤ 180 + 360 * n) :
    ∃ r, subtractTurns n (.finite q) = some (.finite r) := by
  induction n generalizing q with
  | zero =>
      refine ⟨q, ?_⟩
      have hLow : q ≤ 180 := by simpa using hTurns
      simp [subtractTurns, hLow]
  | succ n ih =>
      unfold subtractTurns
      split
      · refine ih ?_
        push_cast at hTurns
        linarith
      · exact ⟨q, rfl⟩

/- The allowed turns bring a finite angle up. -/
theorem addTurns_isSome
    {n : Nat}
    {q : ℚ}
    (hTurns : -180 - 360 * n ≤ q) :
    ∃ r, addTurns n (.finite q) = some (.finite r) := by
  induction n generalizing q with
  | zero =>
      refine ⟨q, ?_⟩
      have hHigh : -180 ≤ q := by simpa using hTurns
      simp [addTurns, hHigh]
  | succ n ih =>
      unfold addTurns
      split
      · refine ih ?_
        push_cast at hTurns
        linarith
      · exact ⟨q, rfl⟩

theorem abs_le_turnsOf (q : ℚ) :
    |q| ≤ 360 * turnsOf (.finite q) := by
  have hFloor := Int.lt_floor_add_one (|q| / 360)
  have hNonneg : 0 ≤ ⌊|q| / 360⌋ := by
    rw [Int.floor_nonneg]
    positivity
  have hNat :
      ((⌊|q| / 360⌋.toNat : ℕ) : ℚ) = (⌊|q| / 360⌋ : ℤ) := by
    exact_mod_cast Int.toNat_of_nonneg hNonneg
  unfold turnsOf
  push_cast
  rw [hNat]
  linarith

/- The loops end for every finite angle. -/
theorem normalizeDegrees_isSome (q : ℚ) :
    ∃ r, normalizeDegrees (.finite q) =
      some (.finite r) := by
  have hBound := abs_le_turnsOf q
  have hAbove := le_abs_self q
  rcases subtractTurns_isSome
      (n := turnsOf (.finite q)) (q := q) (by linarith) with
    ⟨low, hLow⟩
  have hLowBound := abs_le_turnsOf low
  have hBelow := neg_abs_le low
  rcases addTurns_isSome
      (n := turnsOf (.finite low)) (q := low)
      (by linarith) with
    ⟨r, hHigh⟩
  refine ⟨r, ?_⟩
  unfold normalizeDegrees
  rw [hLow]
  exact hHigh

------------------------------------------------------------
-- Sectors
------------------------------------------------------------

/- A text that is not a number gives none. -/
def parseDouble (text : String) : Option Number :=
  (stod text).toOption

def parseSectorValue
    (value : String) : Except Errc Number :=
  if value = "inf" ∨ value = "+inf" then .ok .posInf
  else if value = "-inf" then .ok .negInf
  else if value = "nan" then .ok .nan
  else stod value

/- The bounds of a sector and what its ranges become. -/
structure Sector where
  minDeg : Number
  maxDeg : Number
  replacement : Number

/-
  The sector of a fault. A fault without both bounds or with
  a text that is not a number is skipped.
-/
def sectorOf (fault : FaultConfig) : Option Sector := do
  let minText ← fault.config.find? "sector_min_deg"
  let maxText ← fault.config.find? "sector_max_deg"
  let minDeg ← parseDouble minText
  let maxDeg ← parseDouble maxText
  match fault.config.find? "sector_value" with
  | none => return ⟨minDeg, maxDeg, .posInf⟩
  | some text =>
      let replacement ← (parseSectorValue text).toOption
      return ⟨minDeg, maxDeg, replacement⟩

/- The direction of a ray in degrees. -/
def rayDegrees (msg : LaserScan) (index : Nat) : Number :=
  (msg.angleMin.add
    ((Number.finite (index : ℚ)).mul msg.angleIncrement)).mul
      (.finite kRadiansToDegrees)

/- Replace the ranges in a sector. -/
def replaceSector
    (sector : Sector)
    (msg : LaserScan) : Option LaserScan := do
  let ranges ←
    msg.ranges.zipIdx.mapM fun (range, index) => do
      if ← angleInSector (rayDegrees msg index)
          sector.minDeg sector.maxDeg
      then
        return sector.replacement
      else
        return range
  return { msg with ranges := ranges }

------------------------------------------------------------
-- Changes
------------------------------------------------------------

variable {G N : Type}
variable (rand : RandomLibrary G N)
variable (h : HashOrder String)
variable (base : FaultInjectorBase)

def applyRangeBias
    (msg : LaserScan) : Drawing G LaserScan := do
  let bias ← base.activeSumDouble h "range_bias" .zero
  if bias = .zero then
    return msg
  else
    return { msg with
      ranges := msg.ranges.map fun range =>
        if range.isFinite then
          (range.add bias).clamp msg.rangeMin msg.rangeMax
        else
          range }

def applyRangeNoise
    (msg : LaserScan) : Drawing G LaserScan := do
  let noiseStddev ←
    base.activeMaxDouble h "range_noise_stddev" .zero
  if noiseStddev.le .zero then
    return msg
  else
    let noisy (range : Number) : Option (Number → Number) :=
      if range.isFinite then
        some fun noise =>
          (range.add noise).clamp msg.rangeMin msg.rangeMax
      else
        none
    let ranges ← rand.mapNormal noisy noiseStddev msg.ranges
    return { msg with ranges := ranges }

/- The sectors of the active faults, in iteration order. -/
def applySectorDropout
    (msg : LaserScan) : Drawing G LaserScan := do
  if msg.angleIncrement = .zero then
    return msg
  else
    (base.activeFaultIds h).foldlM
      (fun msg faultId => do
        let fault ← base.faultAt faultId
        match sectorOf fault with
        | none => return msg
        | some sector => liftM (replaceSector sector msg))
      msg

/- The changes that `on_scan` makes, in order. -/
def change : TopicInjector.Change G Unit LaserScan :=
  fun moment base msg memory => do
    let out ← applyRangeBias moment.h base msg
    let out ← applyRangeNoise rand moment.h base out
    let out ← applySectorDropout moment.h base out
    return (out, memory)

end scanFaultInjector
