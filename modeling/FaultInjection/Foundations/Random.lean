import FaultInjection.Foundations.Number

/-
  Random numbers drawn from a generator.

  The generator is a parameter with two kinds of draw: a
  number of the unit interval, and a standard normal value. A
  normal distribution is an object that may keep something
  between two samples. The computations are partial so that
  they combine with code that may end without a result.

  Key definitions include:
    * `RandomLibrary`
    * `Drawing`
    * `RandomLibrary.bernoulli`
    * `RandomLibrary.uniform`
    * `RandomLibrary.normal`
    * `RandomLibrary.mapNormal`
-/

/- States of generators and of normal distributions. -/
structure RandomLibrary (G N : Type) where
  canonical : G → ℚ × G
  newNormal : N
  standardNormal : N → G → (ℚ × N) × G

/- A computation that may draw numbers or have no result. -/
abbrev Drawing (G α : Type) : Type :=
  StateT G Option α

namespace RandomLibrary

variable {G N : Type}
variable (rand : RandomLibrary G N)

/- A number from zero inclusive to one exclusive. -/
def unit : Drawing G Number := fun g =>
  let (draw, g) := rand.canonical g
  some (.finite draw, g)

/- True with the probability. -/
def bernoulli (probability : Number) : Drawing G Bool := do
  let draw ← rand.unit
  return draw.lt probability

/- A number between two bounds. -/
def uniform (low high : Number) : Drawing G Number := do
  let draw ← rand.unit
  return (draw.mul (high.sub low)).add low

/- The next sample of a distribution object with mean zero. -/
def sample
    (stddev : Number)
    (state : N) : Drawing G (Number × N) := fun g =>
  let ((draw, state), g) := rand.standardNormal state g
  some (((Number.finite draw).mul stddev, state), g)

/- A sample of a new distribution object. -/
def normal (stddev : Number) : Drawing G Number := do
  let (value, _) ← rand.sample stddev rand.newNormal
  return value

/-
  Change the items of a list in order with samples of one
  distribution object. An item for which there is no change
  takes no sample.
-/
def mapSamples
    {α : Type}
    (change : α → Option (Number → α))
    (stddev : Number) : N → List α → Drawing G (List α)
| _, [] => return []
| state, item :: items =>
    match change item with
    | none => do
        let rest ← mapSamples change stddev state items
        return item :: rest
    | some changed => do
        let (value, state) ← rand.sample stddev state
        let rest ← mapSamples change stddev state items
        return changed value :: rest

/- As above with a new distribution object. -/
def mapNormal
    {α : Type}
    (change : α → Option (Number → α))
    (stddev : Number)
    (items : List α) : Drawing G (List α) :=
  rand.mapSamples change stddev rand.newNormal items

end RandomLibrary
