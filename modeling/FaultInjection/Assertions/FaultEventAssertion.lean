import FaultInjection.Assertions.AssertionResult
import FaultInjection.Core.ControllerState
import FaultInjection.Config.ScenarioConfig

/-
  The assertion that a fault reaches a state.

  Key definitions include:
    * `FaultEventAssertion`
    * `FaultEventAssertion.observe`
    * `FaultEventAssertion.update`

  Key theorems include:
    * `FaultEventAssertion.observe_advances`
    * `FaultEventAssertion.update_advances`
-/

structure FaultEventAssertion where
  config : AssertionConfig
  result : AssertionResult
deriving DecidableEq

namespace FaultEventAssertion

def create
    (config : AssertionConfig) : FaultEventAssertion where
  config := config
  result :=
    { id := config.id
      type := config.type
      state := .pending
      message :=
        "Waiting for fault event " ++ config.faultId ++
          " to reach state " ++ config.state }

/- Set the state and the message of the result. -/
def conclude
    (state : AssertionState)
    (text : String)
    (assertion : FaultEventAssertion) :
    FaultEventAssertion :=
  { assertion with
    result :=
      { assertion.result with
        state := state
        message := text } }

def observe
    (event : FaultEvent)
    (assertion : FaultEventAssertion) :
    FaultEventAssertion :=
  if assertion.result.state ≠ .pending then
    assertion
  else if event.faultId ≠ assertion.config.faultId then
    assertion
  else if event.state ≠ assertion.config.state then
    assertion
  else
    assertion.conclude .passed
      ("Observed fault event " ++ assertion.config.faultId ++
        " reach state " ++ assertion.config.state)

/- A deadline that is not-a-number is over at once. -/
def update
    (elapsedSeconds : Number)
    (assertion : FaultEventAssertion) :
    FaultEventAssertion :=
  if assertion.result.state ≠ .pending then
    assertion
  else
    match assertion.config.within with
    | none => assertion
    | some within =>
        if elapsedSeconds.le within then
          assertion
        else
          assertion.conclude .failed
            ("Timed out waiting for fault event " ++
              assertion.config.faultId ++
                " to reach state " ++ assertion.config.state)

@[simp] theorem observe_config
    (event : FaultEvent)
    (assertion : FaultEventAssertion) :
    (assertion.observe event).config = assertion.config := by
  unfold observe conclude
  split
  · exact rfl
  · split
    · exact rfl
    · split <;> exact rfl

@[simp] theorem update_config
    (elapsedSeconds : Number)
    (assertion : FaultEventAssertion) :
    (assertion.update elapsedSeconds).config =
      assertion.config := by
  unfold update conclude
  split
  · exact rfl
  · split
    · exact rfl
    · split <;> exact rfl

/- A decided assertion ignores events. -/
theorem observe_of_decided
    {assertion : FaultEventAssertion}
    (hDecided : assertion.result.state ≠ .pending)
    (event : FaultEvent) :
    assertion.observe event = assertion := by
  unfold observe
  rw [if_pos hDecided]

/- A decided assertion ignores the time. -/
theorem update_of_decided
    {assertion : FaultEventAssertion}
    (hDecided : assertion.result.state ≠ .pending)
    (elapsedSeconds : Number) :
    assertion.update elapsedSeconds = assertion := by
  unfold update
  rw [if_pos hDecided]

theorem observe_advances
    (event : FaultEvent)
    (assertion : FaultEventAssertion) :
    assertion.result.Advances
      (assertion.observe event).result := by
  refine ⟨?_, ?_⟩
  · unfold observe conclude
    split
    · exact rfl
    · split
      · exact rfl
      · split <;> exact rfl
  · intro hDecided
    rw [observe_of_decided hDecided]

theorem update_advances
    (elapsedSeconds : Number)
    (assertion : FaultEventAssertion) :
    assertion.result.Advances
      (assertion.update elapsedSeconds).result := by
  refine ⟨?_, ?_⟩
  · unfold update conclude
    split
    · exact rfl
    · split
      · exact rfl
      · split <;> exact rfl
  · intro hDecided
    rw [update_of_decided hDecided]

end FaultEventAssertion
