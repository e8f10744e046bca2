import FaultInjection.Assertions.FaultEventAssertion
import FaultInjection.Assertions.TopicHzAssertion
import FaultInjection.Foundations.Transition

/-
  What calls do to an assertion that is already decided.

  Two classes ignore every call. The rate of a topic keeps
  the time of every further message and never forgets one,
  since its tick returns at once.

  Key definitions include:
    * `Assertion`
    * `Assertion.step`
    * `Assertion.retained`

  Key theorems include:
    * `Assertion.step_of_decided`
    * `Assertion.retained_of_run`
    * `Assertion.decided_unchanged_iff`
-/

/- An assertion of one of the three classes. -/
inductive Assertion where
| faultEvent : FaultEventAssertion → Assertion
| topicHz : TopicHzAssertion → Assertion
| twistStopped : TwistStoppedAssertion → Assertion
deriving DecidableEq

namespace Assertion

open Transition

def result : Assertion → AssertionResult
| .faultEvent assertion => assertion.result
| .topicHz assertion => assertion.result
| .twistStopped assertion => assertion.result

/- The entry points of the three classes. -/
inductive Call where
| observe : FaultEvent → Call
| update : Number → Call
| observeTopicHz : Int → Call
| updateTopicHz : Number → Int → Call
| twistStopped : TwistStoppedAssertion.Call → Call

/- A call of another class is not enabled. -/
def step
    (fromSeconds : Number → Int) :
    Assertion → Call → Option Assertion
| .faultEvent assertion, .observe event =>
    some (.faultEvent (assertion.observe event))
| .faultEvent assertion, .update elapsedSeconds =>
    some (.faultEvent (assertion.update elapsedSeconds))
| .topicHz assertion, .observeTopicHz stamp =>
    some (.topicHz (assertion.observeMessage stamp))
| .topicHz assertion, .updateTopicHz elapsedSeconds now =>
    some (.topicHz (assertion.update elapsedSeconds now))
| .twistStopped assertion, .twistStopped call =>
    (TwistStoppedAssertion.step fromSeconds assertion
      call).map .twistStopped
| _, _ => none

/- The call is `observe_message` of the topic rate. -/
def Call.isTopicHzMessage : Call → Bool
| .observeTopicHz _ => true
| _ => false

/- The number of message times that a topic rate keeps. -/
def retained : Assertion → Nat
| .topicHz assertion => assertion.messageTimes.length
| _ => 0

/-
  A call on a decided assertion leaves it as it is, or keeps
  one more message time.
-/
theorem step_of_decided
    {fromSeconds : Number → Int}
    {s t : Assertion}
    {call : Call}
    (hDecided : s.result.state ≠ .pending)
    (hStep : step fromSeconds s call = some t) :
    (call.isTopicHzMessage = false ∧ t = s) ∨
      (call.isTopicHzMessage = true ∧
        t.result = s.result ∧
          t.retained = s.retained + 1) := by
  unfold step at hStep
  split at hStep
  case h_1 assertion event =>
    cases hStep
    refine Or.inl ⟨rfl, congrArg _ ?_⟩
    exact FaultEventAssertion.observe_of_decided hDecided
      event
  case h_2 assertion elapsedSeconds =>
    cases hStep
    refine Or.inl ⟨rfl, congrArg _ ?_⟩
    exact FaultEventAssertion.update_of_decided hDecided
      elapsedSeconds
  case h_3 assertion stamp =>
    cases hStep
    refine Or.inr ⟨rfl, rfl, ?_⟩
    simp [retained, TopicHzAssertion.observeMessage]
  case h_4 assertion elapsedSeconds now =>
    cases hStep
    refine Or.inl ⟨rfl, congrArg _ ?_⟩
    exact TopicHzAssertion.update_of_decided hDecided
      elapsedSeconds now
  case h_5 assertion call =>
    rcases Option.map_eq_some_iff.mp hStep with
      ⟨next, hNext, rfl⟩
    refine Or.inl ⟨rfl, congrArg _ ?_⟩
    rw [TwistStoppedAssertion.step_of_decided hDecided]
      at hNext
    exact (Option.some.inj hNext).symm
  case h_6 => cases hStep

/-
  Over a run, a decided assertion keeps one message time for
  each message and changes in nothing else.
-/
theorem retained_of_run
    {fromSeconds : Number → Int}
    {s t : Assertion}
    {calls : List Call}
    (hDecided : s.result.state ≠ .pending)
    (hRun : run (step fromSeconds) s calls = some t) :
    t.retained =
        s.retained + calls.countP Call.isTopicHzMessage ∧
      ((∀ call ∈ calls, call.isTopicHzMessage = false) →
        t = s) := by
  induction calls generalizing s with
  | nil =>
      cases hRun
      exact ⟨rfl, fun _ => rfl⟩
  | cons call calls ih =>
      rcases run_cons_iff.mp hRun with ⟨m, hFirst, hRest⟩
      rw [List.countP_cons]
      rcases step_of_decided hDecided hFirst with
        ⟨hOther, hSame⟩ | ⟨hMessage, hResult, hOne⟩
      · subst hSame
        rcases ih hDecided hRest with ⟨hCount, hStays⟩
        refine ⟨?_, ?_⟩
        · simpa [hOther] using hCount
        · intro hNone
          exact hStays fun other hOther' =>
            hNone other (List.mem_cons_of_mem _ hOther')
      · rw [← hResult] at hDecided
        rcases ih hDecided hRest with ⟨hCount, _⟩
        refine ⟨?_, ?_⟩
        · rw [hCount, hOne, if_pos hMessage]
          omega
        · intro hNone
          have hHead := hNone call List.mem_cons_self
          rw [hMessage] at hHead
          cases hHead

/-
  A decided assertion stays as it is exactly when no message
  reaches the topic rate.
-/
theorem decided_unchanged_iff
    {fromSeconds : Number → Int}
    {s t : Assertion}
    {calls : List Call}
    (hDecided : s.result.state ≠ .pending)
    (hRun : run (step fromSeconds) s calls = some t) :
    t = s ↔
      ∀ call ∈ calls, call.isTopicHzMessage = false := by
  rcases retained_of_run hDecided hRun with
    ⟨hCount, hStays⟩
  refine ⟨?_, hStays⟩
  intro hSame call hCall
  rw [hSame] at hCount
  have hNone :
      calls.countP Call.isTopicHzMessage = 0 := by omega
  rw [List.countP_eq_zero] at hNone
  simpa using hNone call hCall

------------------------------------------------------------
-- A Rate That Passed
------------------------------------------------------------

/- The rate of a topic, with no message demanded. -/
def anyRate : Assertion :=
  .topicHz
    (TopicHzAssertion.create
      { id := "rate"
        type := "topic_hz"
        topic := "/odom" })

/- The rate after a tick, which is enough for it to pass. -/
def passedRate : Assertion :=
  (step (fun _ => 0) anyRate
    (.updateTopicHz .one 1)).getD anyRate

/- After it passed it still keeps the time of a message. -/
theorem decided_rate_grows :
    ¬ ∀ (fromSeconds : Number → Int)
        (config : AssertionConfig)
        (calls : List Call) (s t : Assertion) (call : Call),
      run (step fromSeconds)
          (.topicHz (TopicHzAssertion.create config)) calls =
          some s →
        s.result.state ≠ .pending →
          step fromSeconds s call = some t → t = s := by
  intro hAll
  have hSame :=
    hAll (fun _ => 0)
      { id := "rate"
        type := "topic_hz"
        topic := "/odom" }
      [.updateTopicHz .one 1] passedRate
      (.topicHz
        { config :=
            { id := "rate"
              type := "topic_hz"
              topic := "/odom" }
          result := passedRate.result
          messageTimes := [2] })
      (.observeTopicHz 2)
      (by decide +kernel) (by decide +kernel)
      (by decide +kernel)
  have hTimes := congrArg retained hSame
  revert hTimes
  decide +kernel

theorem passed_rate_unchanged_by_tick :
    passedRate = passedRate ↔
      ∀ call ∈ [Call.updateTopicHz .one 2],
        call.isTopicHzMessage = false := by
  have hDecided : passedRate.result.state ≠ .pending := by
    decide +kernel
  have hRun :
      run (step fun _ => 0) passedRate
          [.updateTopicHz .one 2] =
        some passedRate := by
    decide +kernel
  exact decided_unchanged_iff hDecided hRun

end Assertion
