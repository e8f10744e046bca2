import FaultInjection.Assertions.AssertionResult
import FaultInjection.Core.ControllerState
import FaultInjection.Messages.Twist

/-
  The assertion that a fault stops velocity commands.

  Reading a limit that is not set throws, which is `none`
  here. The conversion of seconds into a duration is not part
  of the repository and therefore a parameter.

  Key definitions include:
    * `TwistStoppedAssertion`
    * `TwistStoppedAssertion.observeFaultEvent`
    * `TwistStoppedAssertion.observeMessage`
    * `TwistStoppedAssertion.update`
    * `TwistStoppedAssertion.step`

  Key theorems include:
    * `TwistStoppedAssertion.step_advances`
-/

------------------------------------------------------------
-- State
------------------------------------------------------------

def maxPendingMessages : Nat := 16384

/- A time span of nanoseconds in seconds. -/
def seconds (nanoseconds : Int) : ℚ :=
  nanoseconds / 10 ^ 9

/-
  Times are in nanoseconds. Messages that arrive before the
  activation is known are pending.
-/
structure TwistStoppedAssertion where
  config : AssertionConfig
  result : AssertionResult
  startTime : Int
  faultActive : Bool := false
  faultActivationStamp : Option Int := none
  firstZeroStamp : Option Int := none
  lastZeroStamp : Option Int := none
  pendingMessages : List (Twist × Int) := []
deriving DecidableEq

namespace TwistStoppedAssertion

def create
    (config : AssertionConfig)
    (startTime : Int) : TwistStoppedAssertion where
  config := config
  startTime := startTime
  result :=
    { id := config.id
      type := config.type
      state := .pending
      message :=
        "Waiting for fault " ++ config.faultId ++
          " to stop Twist commands on " ++ config.topic }

def topic (assertion : TwistStoppedAssertion) : String :=
  assertion.config.topic

def fail
    (text : String)
    (assertion : TwistStoppedAssertion) :
    TwistStoppedAssertion :=
  { assertion with
    result :=
      { assertion.result with
        state := .failed
        message := text }
    pendingMessages := [] }

def pass
    (text : String)
    (assertion : TwistStoppedAssertion) :
    TwistStoppedAssertion :=
  { assertion with
    result :=
      { assertion.result with
        state := .passed
        message := text } }

------------------------------------------------------------
-- Commands
------------------------------------------------------------

/- Each component of a vector is within the tolerance. -/
def withinTolerance
    (tolerance : Number)
    (v : GeometryMsgs.Vector3) : Bool :=
  v.x.abs.le tolerance && v.y.abs.le tolerance &&
    v.z.abs.le tolerance

def isZero
    (config : AssertionConfig)
    (message : Twist) : Option Bool := do
  let linearTolerance ← config.linearTolerance
  let angularTolerance ← config.angularTolerance
  return withinTolerance linearTolerance message.linear &&
    withinTolerance angularTolerance message.angular

def isFinite (message : Twist) : Bool :=
  message.linear.x.isFinite && message.linear.y.isFinite &&
    message.linear.z.isFinite && message.angular.x.isFinite &&
      message.angular.y.isFinite && message.angular.z.isFinite

------------------------------------------------------------
-- Ticks
------------------------------------------------------------

/- `update` while the activation is not known. -/
def updateInactive
    (now : Int)
    (assertion : TwistStoppedAssertion) :
    Option TwistStoppedAssertion := do
  let triggerWithin ← assertion.config.triggerWithin
  let within ← assertion.config.within
  let window := triggerWithin.add within
  if ¬ window.isFinite then
    return assertion.fail
      ("The trigger_within and within deadlines for fault " ++
        assertion.config.faultId ++ " must have a finite sum")
  else if
    window.lt (.finite (seconds (now - assertion.startTime)))
  then
    return assertion.fail
      ("Timed out waiting for fault " ++
        assertion.config.faultId ++
          " to activate and produce a stop response")
  else
    return assertion

/- `update` while no zero command has arrived. -/
def updateUnanswered
    (now : Int)
    (assertion : TwistStoppedAssertion) :
    Option TwistStoppedAssertion := do
  let activation ← assertion.faultActivationStamp
  let within ← assertion.config.within
  if within.lt (.finite (seconds (now - activation))) then
    return assertion.fail
      ("Fault " ++ assertion.config.faultId ++
        " activated but no zero Twist command arrived on " ++
          assertion.config.topic ++ " before the deadline")
  else
    return assertion

/-
  `update` after the first zero command. A late tick checks
  the gap only up to the end of the hold.
-/
def updateHold
    (fromSeconds : Number → Int)
    (now first : Int)
    (assertion : TwistStoppedAssertion) :
    Option TwistStoppedAssertion := do
  let duration ← assertion.config.duration
  let last ← assertion.lastZeroStamp
  let heldSeconds := Number.finite (seconds (now - first))
  let gapSeconds :=
    if duration.le heldSeconds then
      seconds (fromSeconds duration - (last - first))
    else
      seconds (now - last)
  let maxGap ← assertion.config.maxGap
  if maxGap.lt (.finite gapSeconds) then
    return assertion.fail
      ("Zero Twist commands on " ++ assertion.config.topic ++
        " stopped arriving within max_gap")
  else if duration.le heldSeconds then
    return assertion.pass
      ("Observed zero Twist commands on " ++
        assertion.config.topic ++ " for " ++
          NumberText.toString6 duration ++
            " seconds after fault " ++
              assertion.config.faultId)
  else
    return assertion

def update
    (fromSeconds : Number → Int)
    (now : Int)
    (assertion : TwistStoppedAssertion) :
    Option TwistStoppedAssertion :=
  if assertion.result.state ≠ .pending then
    some assertion
  else if ¬ assertion.faultActive then
    assertion.updateInactive now
  else
    match assertion.firstZeroStamp with
    | none => assertion.updateUnanswered now
    | some first =>
        assertion.updateHold fromSeconds now first

------------------------------------------------------------
-- Messages
------------------------------------------------------------

/- A message before the activation is known. -/
def keepMessage
    (message : Twist)
    (stamp : Int)
    (assertion : TwistStoppedAssertion) :
    TwistStoppedAssertion :=
  if maxPendingMessages ≤ assertion.pendingMessages.length then
    assertion.fail
      ("Received too many Twist commands while waiting for " ++
        "fault " ++ assertion.config.faultId ++
          " to activate; cannot safely verify its stop " ++
            "response")
  else
    { assertion with
      pendingMessages :=
        assertion.pendingMessages ++ [(message, stamp)] }

/- A finite message before the first zero command. -/
def judgeFirst
    (message : Twist)
    (stamp : Int)
    (assertion : TwistStoppedAssertion) :
    Option TwistStoppedAssertion := do
  let activation ← assertion.faultActivationStamp
  let within ← assertion.config.within
  if within.lt (.finite (seconds (stamp - activation))) then
    return assertion.fail
      ("No zero Twist command arrived on " ++
        assertion.config.topic ++ " within " ++
          NumberText.toString6 within ++
            " seconds after fault " ++
              assertion.config.faultId)
  else if ← isZero assertion.config message then
    let started :=
      { assertion with firstZeroStamp := some stamp }
    return { started with lastZeroStamp := some stamp }
  else
    return assertion

/- A finite message after the first zero command. -/
def judgeNext
    (message : Twist)
    (stamp : Int)
    (assertion : TwistStoppedAssertion) :
    Option TwistStoppedAssertion := do
  if ← isZero assertion.config message then
    let last ← assertion.lastZeroStamp
    let maxGap ← assertion.config.maxGap
    if maxGap.lt (.finite (seconds (stamp - last))) then
      return assertion.fail
        ("Zero Twist commands on " ++ assertion.config.topic ++
          " exceeded max_gap")
    else
      return { assertion with lastZeroStamp := some stamp }
  else
    return assertion.fail
      ("Received a non-zero Twist command on " ++
        assertion.config.topic ++
          " after the stop response began")

def failNonFinite
    (assertion : TwistStoppedAssertion) :
    TwistStoppedAssertion :=
  assertion.fail
    ("Received a non-finite Twist command on " ++
      assertion.config.topic ++ " after fault " ++
        assertion.config.faultId ++ " activated")

def observeMessage
    (fromSeconds : Number → Int)
    (message : Twist)
    (stamp : Int)
    (assertion : TwistStoppedAssertion) :
    Option TwistStoppedAssertion :=
  if assertion.result.state ≠ .pending then
    some assertion
  else if ¬ assertion.faultActive then
    some (assertion.keepMessage message stamp)
  else
    match assertion.firstZeroStamp with
    | none =>
        if ¬ isFinite message then
          some assertion.failNonFinite
        else
          assertion.judgeFirst message stamp
    | some _ => do
        let updated ← assertion.update fromSeconds stamp
        if updated.result.state ≠ .pending then
          return updated
        else if ¬ isFinite message then
          return updated.failNonFinite
        else
          updated.judgeNext message stamp

------------------------------------------------------------
-- Fault Events
------------------------------------------------------------

/- The event is the activation that is waited for. -/
def activates
    (config : AssertionConfig)
    (event : FaultEvent) : Bool :=
  event.faultId = config.faultId ∧ event.state = "active"

/- Judge the pending messages from the activation on. -/
def replay
    (fromSeconds : Number → Int)
    (stamp : Int) :
    List (Twist × Int) →
      TwistStoppedAssertion → Option TwistStoppedAssertion
| [], assertion => some assertion
| message :: pending, assertion =>
    if message.2 < stamp then
      replay fromSeconds stamp pending assertion
    else do
      let observed ←
        assertion.observeMessage fromSeconds message.1
          message.2
      if observed.result.state ≠ .pending then
        return observed
      else
        replay fromSeconds stamp pending observed

def observeFaultEvent
    (fromSeconds : Number → Int)
    (event : FaultEvent)
    (stamp : Int)
    (assertion : TwistStoppedAssertion) :
    Option TwistStoppedAssertion :=
  if
    assertion.result.state ≠ .pending ∨ assertion.faultActive
  then
    some assertion
  else if ¬ activates assertion.config event then
    some assertion
  else do
    let secondsSinceStart :=
      Number.finite (seconds (stamp - assertion.startTime))
    if secondsSinceStart.lt .zero then
      return assertion.fail
        ("Fault " ++ assertion.config.faultId ++
          " activated before the assertion started")
    else
      let triggerWithin ← assertion.config.triggerWithin
      if triggerWithin.lt secondsSinceStart then
        return assertion.fail
          ("Fault " ++ assertion.config.faultId ++
            " activated after trigger_within expired")
      else
        replay fromSeconds stamp assertion.pendingMessages
          { assertion with
            faultActive := true
            faultActivationStamp := some stamp
            pendingMessages := [] }

------------------------------------------------------------
-- Runs
------------------------------------------------------------

/-
  The calls that the assertion runner makes. A fault event
  carries its own stamp and is delivered at some time; the
  runner stamps a message with the time of its delivery.
-/
inductive Call where
| faultEvent : FaultEvent → Int → Int → Call
| message : Twist → Int → Call
| update : Int → Call

/- The time at which the runner makes the call. -/
def Call.time : Call → Int
| .faultEvent _ _ deliveredAt => deliveredAt
| .message _ stamp => stamp
| .update now => now

def step
    (fromSeconds : Number → Int)
    (assertion : TwistStoppedAssertion) :
    Call → Option TwistStoppedAssertion
| .faultEvent event stamp _ =>
    assertion.observeFaultEvent fromSeconds event stamp
| .message message stamp =>
    assertion.observeMessage fromSeconds message stamp
| .update now => assertion.update fromSeconds now

end TwistStoppedAssertion

------------------------------------------------------------
-- Results
------------------------------------------------------------

namespace TwistStoppedAssertion

section Decided

variable {a : TwistStoppedAssertion}
variable (hDecided : a.result.state ≠ .pending)
include hDecided

/- A decided assertion ignores the time. -/
theorem update_of_decided
    (fromSeconds : Number → Int)
    (now : Int) :
    a.update fromSeconds now = some a := by
  unfold update
  rw [if_pos hDecided]

/- A decided assertion ignores messages. -/
theorem observeMessage_of_decided
    (fromSeconds : Number → Int)
    (message : Twist)
    (stamp : Int) :
    a.observeMessage fromSeconds message stamp = some a := by
  unfold observeMessage
  rw [if_pos hDecided]

/- A decided assertion ignores events. -/
theorem observeFaultEvent_of_decided
    (fromSeconds : Number → Int)
    (event : FaultEvent)
    (stamp : Int) :
    a.observeFaultEvent fromSeconds event stamp =
      some a := by
  unfold observeFaultEvent
  rw [if_pos (Or.inl hDecided)]

end Decided

/- The same assertion, whatever it observed since. -/
structure Continues (a b : TwistStoppedAssertion) : Prop where
  config : b.config = a.config
  id : b.result.id = a.result.id

theorem Continues.trans
    {a b c : TwistStoppedAssertion}
    (hFirst : Continues a b)
    (hSecond : Continues b c) :
    Continues a c :=
  ⟨hSecond.config.trans hFirst.config,
    hSecond.id.trans hFirst.id⟩

section Continues

variable {a b : TwistStoppedAssertion}
variable {fromSeconds : Number → Int}
variable {now first stamp : Int}
variable {message : Twist}

theorem continues_updateInactive
    (hUpdate : a.updateInactive now = some b) :
    Continues a b := by
  unfold updateInactive at hUpdate
  simp only [Option.bind_eq_bind, Option.bind_eq_some_iff,
    Option.pure_def] at hUpdate
  rcases hUpdate with ⟨_, _, _, _, hUpdate⟩
  split at hUpdate
  · cases hUpdate
    exact ⟨rfl, rfl⟩
  · split at hUpdate <;> cases hUpdate <;> exact ⟨rfl, rfl⟩

theorem continues_updateUnanswered
    (hUpdate : a.updateUnanswered now = some b) :
    Continues a b := by
  unfold updateUnanswered at hUpdate
  simp only [Option.bind_eq_bind, Option.bind_eq_some_iff,
    Option.pure_def] at hUpdate
  rcases hUpdate with ⟨_, _, _, _, hUpdate⟩
  split at hUpdate <;> cases hUpdate <;> exact ⟨rfl, rfl⟩

theorem continues_updateHold
    (hUpdate :
      a.updateHold fromSeconds now first = some b) :
    Continues a b := by
  unfold updateHold at hUpdate
  simp only [Option.bind_eq_bind, Option.bind_eq_some_iff,
    Option.pure_def] at hUpdate
  rcases hUpdate with ⟨_, _, _, _, _, _, hUpdate⟩
  -- The hold is over or not, and then the gap is judged.
  split at hUpdate
  · split at hUpdate <;> cases hUpdate <;> exact ⟨rfl, rfl⟩
  · split at hUpdate <;> cases hUpdate <;> exact ⟨rfl, rfl⟩

theorem continues_update
    (hUpdate : a.update fromSeconds now = some b) :
    Continues a b := by
  unfold update at hUpdate
  split at hUpdate
  · cases hUpdate
    exact ⟨rfl, rfl⟩
  · split at hUpdate
    · exact continues_updateInactive hUpdate
    · split at hUpdate
      · exact continues_updateUnanswered hUpdate
      · exact continues_updateHold hUpdate

theorem continues_judgeFirst
    (hJudge : a.judgeFirst message stamp = some b) :
    Continues a b := by
  unfold judgeFirst at hJudge
  simp only [Option.bind_eq_bind, Option.bind_eq_some_iff,
    Option.pure_def] at hJudge
  rcases hJudge with ⟨_, _, _, _, hJudge⟩
  split at hJudge
  · cases hJudge
    exact ⟨rfl, rfl⟩
  · rw [Option.bind_eq_some_iff] at hJudge
    rcases hJudge with ⟨_, _, hJudge⟩
    split at hJudge <;> cases hJudge <;> exact ⟨rfl, rfl⟩

theorem continues_judgeNext
    (hJudge : a.judgeNext message stamp = some b) :
    Continues a b := by
  unfold judgeNext at hJudge
  simp only [Option.bind_eq_bind, Option.bind_eq_some_iff,
    Option.pure_def] at hJudge
  rcases hJudge with ⟨_, _, hJudge⟩
  split at hJudge
  · simp only [Option.bind_eq_some_iff] at hJudge
    rcases hJudge with ⟨_, _, _, _, hJudge⟩
    split at hJudge <;> cases hJudge <;> exact ⟨rfl, rfl⟩
  · cases hJudge
    exact ⟨rfl, rfl⟩

theorem continues_observeMessage
    (hObserve :
      a.observeMessage fromSeconds message stamp = some b) :
    Continues a b := by
  unfold observeMessage at hObserve
  split at hObserve
  · cases hObserve
    exact ⟨rfl, rfl⟩
  · split at hObserve
    · cases hObserve
      unfold keepMessage
      split <;> exact ⟨rfl, rfl⟩
    · split at hObserve
      · split at hObserve
        · cases hObserve
          exact ⟨rfl, rfl⟩
        · exact continues_judgeFirst hObserve
      · simp only [Option.bind_eq_bind,
          Option.bind_eq_some_iff, Option.pure_def]
          at hObserve
        rcases hObserve with ⟨updated, hUpdate, hObserve⟩
        have hUpdated := continues_update hUpdate
        split at hObserve
        · cases hObserve
          exact hUpdated
        · split at hObserve
          · cases hObserve
            exact ⟨hUpdated.config, hUpdated.id⟩
          · exact hUpdated.trans (continues_judgeNext hObserve)

theorem continues_replay
    {pending : List (Twist × Int)}
    (hReplay : replay fromSeconds stamp pending a = some b) :
    Continues a b := by
  induction pending generalizing a with
  | nil =>
      cases hReplay
      exact ⟨rfl, rfl⟩
  | cons message pending ih =>
      unfold replay at hReplay
      split at hReplay
      · exact ih hReplay
      · simp only [Option.bind_eq_bind,
          Option.bind_eq_some_iff, Option.pure_def]
          at hReplay
        rcases hReplay with ⟨observed, hObserve, hReplay⟩
        have hObserved := continues_observeMessage hObserve
        split at hReplay
        · cases hReplay
          exact hObserved
        · exact hObserved.trans (ih hReplay)

theorem continues_observeFaultEvent
    {event : FaultEvent}
    (hObserve :
      a.observeFaultEvent fromSeconds event stamp =
        some b) :
    Continues a b := by
  unfold observeFaultEvent at hObserve
  split at hObserve
  · cases hObserve
    exact ⟨rfl, rfl⟩
  · split at hObserve
    · cases hObserve
      exact ⟨rfl, rfl⟩
    · simp only [Option.bind_eq_bind, Option.pure_def]
        at hObserve
      split at hObserve
      · cases hObserve
        exact ⟨rfl, rfl⟩
      · rw [Option.bind_eq_some_iff] at hObserve
        rcases hObserve with ⟨_, _, hObserve⟩
        split at hObserve
        · cases hObserve
          exact ⟨rfl, rfl⟩
        · have hReplay := continues_replay hObserve
          exact ⟨hReplay.config, hReplay.id⟩

end Continues

/- A decided assertion ignores every call. -/
theorem step_of_decided
    {fromSeconds : Number → Int}
    {a : TwistStoppedAssertion}
    {call : Call}
    (hDecided : a.result.state ≠ .pending) :
    step fromSeconds a call = some a := by
  cases call with
  | faultEvent event stamp deliveredAt =>
      exact observeFaultEvent_of_decided hDecided _ _ _
  | message message stamp =>
      exact observeMessage_of_decided hDecided _ _ _
  | update now => exact update_of_decided hDecided _ _

/- A call leaves the assertion the same one. -/
theorem step_continues
    {fromSeconds : Number → Int}
    {a b : TwistStoppedAssertion}
    {call : Call}
    (hStep : step fromSeconds a call = some b) :
    Continues a b := by
  cases call with
  | faultEvent event stamp deliveredAt =>
      exact continues_observeFaultEvent hStep
  | message message stamp =>
      exact continues_observeMessage hStep
  | update now => exact continues_update hStep

/- A call decides the result or leaves it undecided. -/
theorem step_advances
    {fromSeconds : Number → Int}
    {a b : TwistStoppedAssertion}
    {call : Call}
    (hStep : step fromSeconds a call = some b) :
    a.result.Advances b.result := by
  refine ⟨(step_continues hStep).id, ?_⟩
  intro hDecided
  rw [step_of_decided hDecided] at hStep
  cases hStep
  exact rfl

end TwistStoppedAssertion
