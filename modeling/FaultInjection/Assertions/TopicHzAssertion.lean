import FaultInjection.Foundations.BinaryFormats
import FaultInjection.Assertions.TwistStoppedAssertion

/-
  The assertion that a topic has a rate of messages.

  The times of the received messages are kept; a tick forgets
  those older than the window. There is no bound on how many
  are kept. Ages and rates are doubles, so they are rounded.

  Key definitions include:
    * `TopicHzAssertion`
    * `TopicHzAssertion.observeMessage`
    * `TopicHzAssertion.observedHz`
    * `TopicHzAssertion.update`

  Key theorems include:
    * `TopicHzAssertion.observeMessage_advances`
    * `TopicHzAssertion.update_advances`
-/

open NumberText (toString6)

/- Times are in nanoseconds. -/
structure TopicHzAssertion where
  config : AssertionConfig
  result : AssertionResult
  messageTimes : List Int := []
deriving DecidableEq

namespace TopicHzAssertion

def create (config : AssertionConfig) : TopicHzAssertion where
  config := config
  result :=
    { id := config.id
      type := config.type
      state := .pending
      message :=
        "Waiting for topic " ++ config.topic ++
          " to reach " ++
            toString6 (config.minHz.getD .zero) ++ " Hz" }

def topic (assertion : TopicHzAssertion) : String :=
  assertion.config.topic

/- Set the state and the message of the result. -/
def conclude
    (state : AssertionState)
    (text : String)
    (assertion : TopicHzAssertion) : TopicHzAssertion :=
  { assertion with
    result :=
      { assertion.result with
        state := state
        message := text } }

/- The time is kept in every state. -/
def observeMessage
    (stamp : Int)
    (assertion : TopicHzAssertion) : TopicHzAssertion :=
  { assertion with
    messageTimes := assertion.messageTimes ++ [stamp] }

/-
  The seconds of a duration: the count of nanoseconds and the
  quotient are doubles.
-/
def durationSeconds (nanoseconds : Int) : Number :=
  (Number.finite (nanoseconds : ℚ)).toDouble.divDouble
    (.finite (10 ^ 9))

/- The rate of a number of messages in a window. -/
def observedHz
    (count : Nat)
    (window : Number) : Number :=
  (Number.finite (count : ℚ)).toDouble.divDouble window

/- Forget the messages that are older than the window. -/
def forgetOld
    (window : Number)
    (now : Int)
    (assertion : TopicHzAssertion) : TopicHzAssertion :=
  { assertion with
    messageTimes :=
      assertion.messageTimes.filter fun stamp =>
        ¬ window.lt (durationSeconds (now - stamp)) }

/- Compare the rate in the window with the demanded one. -/
def judge
    (window minHz elapsedSeconds : Number)
    (assertion : TopicHzAssertion) : TopicHzAssertion :=
  let hz := observedHz assertion.messageTimes.length window
  if minHz.le hz then
    assertion.conclude .passed
      ("Observed topic " ++ assertion.config.topic ++
        " at " ++ toString6 hz ++ " Hz")
  else if
    assertion.config.within.any fun within =>
      within.lt elapsedSeconds
  then
    assertion.conclude .failed
      ("Timed out waiting for topic " ++
        assertion.config.topic ++ " to reach " ++
          toString6 minHz ++ " Hz")
  else
    assertion

def update
    (elapsedSeconds : Number)
    (now : Int)
    (assertion : TopicHzAssertion) : TopicHzAssertion :=
  if assertion.result.state ≠ .pending then
    assertion
  else
    let window := assertion.config.window.getD .one
    let minHz := assertion.config.minHz.getD .zero
    (assertion.forgetOld window now).judge window minHz
      elapsedSeconds

/- A decided assertion ignores the time. -/
theorem update_of_decided
    {assertion : TopicHzAssertion}
    (hDecided : assertion.result.state ≠ .pending)
    (elapsedSeconds : Number)
    (now : Int) :
    assertion.update elapsedSeconds now = assertion := by
  unfold update
  rw [if_pos hDecided]

/- A message changes no result. -/
theorem observeMessage_advances
    (stamp : Int)
    (assertion : TopicHzAssertion) :
    assertion.result.Advances
      (assertion.observeMessage stamp).result :=
  ⟨rfl, fun _ => rfl⟩

theorem id_judge
    (window minHz elapsedSeconds : Number)
    (assertion : TopicHzAssertion) :
    (assertion.judge window minHz elapsedSeconds).result.id =
      assertion.result.id := by
  unfold judge
  simp only
  split
  · exact rfl
  · split <;> exact rfl

theorem update_advances
    (elapsedSeconds : Number)
    (now : Int)
    (assertion : TopicHzAssertion) :
    assertion.result.Advances
      (assertion.update elapsedSeconds now).result := by
  refine ⟨?_, ?_⟩
  · unfold update
    split
    · exact rfl
    · exact id_judge _ _ _ _
  · intro hDecided
    rw [update_of_decided hDecided]

end TopicHzAssertion
