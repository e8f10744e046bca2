import FaultInjection.Assertions.Deadlines
import FaultInjection.Assertions.SeparateAssertions
import FaultInjection.Assertions.StopLimits
import FaultInjection.Assertions.StopMonitor

/-
  When an assertion has its final verdict.

  A tick decides whatever has waited too long: for an event
  or a rate, for the activation of a fault, for the first
  zero command after it or for the end of the hold. So every
  assertion with a deadline is decided at the first tick
  after a time that its configuration fixes, and for good.

  Key definitions include:
    * `TwistStoppedAssertion.Timely`
    * `AssertionConfig.lastDeadline`

  Key theorems include:
    * `TwistStoppedAssertion.Timely.step`
    * `TwistStoppedAssertion.Timely.decided_of_update`
    * `FaultAssertionRunner.decided_after_deadline`
-/

------------------------------------------------------------
-- Stopped Commands
------------------------------------------------------------

namespace TwistStoppedAssertion

/-
  The activation came in time and so did the first zero
  command after it, as far as they are known.
-/
structure Timely
    (startTime : Int)
    (a : TwistStoppedAssertion) : Prop where
  limits : StopLimits.Set a.config
  start : a.startTime = startTime
  active :
    a.faultActive = true →
      ∃ activation,
        a.faultActivationStamp = some activation ∧
          seconds (activation - startTime) ≤
            (StopLimits.ofConfig a.config).triggerWithin
  waiting : a.faultActive = false → a.firstZeroStamp = none
  answered :
    ∀ first,
      a.firstZeroStamp = some first →
        ∃ activation,
          a.faultActivationStamp = some activation ∧
            seconds (first - activation) ≤
              (StopLimits.ofConfig a.config).within

/- What the times of an assertion are made of is the same. -/
structure SameTimes (a b : TwistStoppedAssertion) : Prop where
  config : b.config = a.config
  start : b.startTime = a.startTime
  faultActive : b.faultActive = a.faultActive
  activation :
    b.faultActivationStamp = a.faultActivationStamp
  first : b.firstZeroStamp = a.firstZeroStamp

section Timely

variable {startTime : Int}
variable {a b : TwistStoppedAssertion}
variable {fromSeconds : Number → Int}
variable {now stamp : Int}
variable {message : Twist}

theorem Timely.of_sameTimes
    (hTimely : Timely startTime a)
    (hSame : SameTimes a b) :
    Timely startTime b := by
  constructor
  · rw [hSame.config]
    exact hTimely.limits
  · rw [hSame.start]
    exact hTimely.start
  · rw [hSame.config, hSame.faultActive, hSame.activation]
    exact hTimely.active
  · rw [hSame.faultActive, hSame.first]
    exact hTimely.waiting
  · rw [hSame.config, hSame.first, hSame.activation]
    exact hTimely.answered

theorem sameTimes_updateHold
    {first : Int}
    (hUpdate :
      a.updateHold fromSeconds now first = some b) :
    SameTimes a b := by
  unfold updateHold at hUpdate
  simp only [Option.bind_eq_bind, Option.bind_eq_some_iff,
    Option.pure_def] at hUpdate
  rcases hUpdate with ⟨_, _, _, _, _, _, hUpdate⟩
  split at hUpdate
  · split at hUpdate
    · cases hUpdate
      exact ⟨rfl, rfl, rfl, rfl, rfl⟩
    · cases hUpdate
      exact ⟨rfl, rfl, rfl, rfl, rfl⟩
  · split at hUpdate
    · cases hUpdate
      exact ⟨rfl, rfl, rfl, rfl, rfl⟩
    · cases hUpdate
      exact ⟨rfl, rfl, rfl, rfl, rfl⟩

/- A tick changes none of the times. -/
theorem sameTimes_update
    (hUpdate : a.update fromSeconds now = some b) :
    SameTimes a b := by
  unfold update at hUpdate
  split at hUpdate
  · cases hUpdate
    exact ⟨rfl, rfl, rfl, rfl, rfl⟩
  · split at hUpdate
    · unfold updateInactive at hUpdate
      simp only [Option.bind_eq_bind, Option.bind_eq_some_iff,
        Option.pure_def] at hUpdate
      rcases hUpdate with ⟨_, _, _, _, hUpdate⟩
      split at hUpdate
      · cases hUpdate
        exact ⟨rfl, rfl, rfl, rfl, rfl⟩
      · split at hUpdate
        · cases hUpdate
          exact ⟨rfl, rfl, rfl, rfl, rfl⟩
        · cases hUpdate
          exact ⟨rfl, rfl, rfl, rfl, rfl⟩
    · split at hUpdate
      · unfold updateUnanswered at hUpdate
        simp only [Option.bind_eq_bind,
          Option.bind_eq_some_iff, Option.pure_def] at hUpdate
        rcases hUpdate with ⟨_, _, _, _, hUpdate⟩
        split at hUpdate
        · cases hUpdate
          exact ⟨rfl, rfl, rfl, rfl, rfl⟩
        · cases hUpdate
          exact ⟨rfl, rfl, rfl, rfl, rfl⟩
      · exact sameTimes_updateHold hUpdate

theorem sameTimes_judgeNext
    (hJudge : a.judgeNext message stamp = some b) :
    SameTimes a b := by
  unfold judgeNext at hJudge
  simp only [Option.bind_eq_bind, Option.bind_eq_some_iff,
    Option.pure_def] at hJudge
  rcases hJudge with ⟨_, _, hJudge⟩
  split at hJudge
  · simp only [Option.bind_eq_some_iff] at hJudge
    rcases hJudge with ⟨_, _, _, _, hJudge⟩
    split at hJudge
    · cases hJudge
      exact ⟨rfl, rfl, rfl, rfl, rfl⟩
    · cases hJudge
      exact ⟨rfl, rfl, rfl, rfl, rfl⟩
  · cases hJudge
    exact ⟨rfl, rfl, rfl, rfl, rfl⟩

/- The first zero command counts only within its window. -/
theorem Timely.judgeFirst
    (hTimely : Timely startTime a)
    (hActive : a.faultActive = true)
    (hJudge : a.judgeFirst message stamp = some b) :
    Timely startTime b := by
  unfold TwistStoppedAssertion.judgeFirst at hJudge
  simp only [Option.bind_eq_bind, Option.bind_eq_some_iff,
    Option.pure_def] at hJudge
  rcases hJudge with
    ⟨activation, hActivation, within, hWithin, hJudge⟩
  split at hJudge
  · cases hJudge
    exact hTimely.of_sameTimes ⟨rfl, rfl, rfl, rfl, rfl⟩
  · rename_i hInTime
    rw [Option.bind_eq_some_iff] at hJudge
    rcases hJudge with ⟨_, _, hJudge⟩
    split at hJudge
    · cases hJudge
      refine ⟨hTimely.limits, hTimely.start, hTimely.active,
        ?_, ?_⟩
      · intro hInactive
        exact absurd (hActive.symm.trans hInactive) (by simp)
      · intro first hFirst
        cases hFirst
        refine ⟨activation, hActivation, ?_⟩
        rw [hTimely.limits.within, Option.some.injEq]
          at hWithin
        rw [← hWithin, Number.lt_finite_iff] at hInTime
        exact not_lt.mp hInTime
    · cases hJudge
      exact hTimely

theorem Timely.observeMessage
    (hTimely : Timely startTime a)
    (hObserve :
      a.observeMessage fromSeconds message stamp = some b) :
    Timely startTime b := by
  unfold TwistStoppedAssertion.observeMessage at hObserve
  split at hObserve
  · cases hObserve
    exact hTimely
  · split at hObserve
    · cases hObserve
      unfold keepMessage
      split
      · exact hTimely.of_sameTimes ⟨rfl, rfl, rfl, rfl, rfl⟩
      · exact hTimely.of_sameTimes ⟨rfl, rfl, rfl, rfl, rfl⟩
    · rename_i hActive
      rw [not_not] at hActive
      split at hObserve
      · split at hObserve
        · cases hObserve
          exact hTimely.of_sameTimes ⟨rfl, rfl, rfl, rfl, rfl⟩
        · exact hTimely.judgeFirst hActive hObserve
      · simp only [Option.bind_eq_bind,
          Option.bind_eq_some_iff, Option.pure_def] at hObserve
        rcases hObserve with ⟨updated, hUpdate, hObserve⟩
        have hUpdated :=
          hTimely.of_sameTimes (sameTimes_update hUpdate)
        split at hObserve
        · cases hObserve
          exact hUpdated
        · split at hObserve
          · cases hObserve
            exact
              hUpdated.of_sameTimes ⟨rfl, rfl, rfl, rfl, rfl⟩
          · exact
              hUpdated.of_sameTimes
                (sameTimes_judgeNext hObserve)

theorem Timely.replay
    {pending : List (Twist × Int)}
    (hTimely : Timely startTime a)
    (hReplay : replay fromSeconds stamp pending a = some b) :
    Timely startTime b := by
  induction pending generalizing a with
  | nil =>
      cases hReplay
      exact hTimely
  | cons message pending ih =>
      unfold TwistStoppedAssertion.replay at hReplay
      split at hReplay
      · exact ih hTimely hReplay
      · simp only [Option.bind_eq_bind,
          Option.bind_eq_some_iff, Option.pure_def] at hReplay
        rcases hReplay with ⟨observed, hObserve, hReplay⟩
        have hObserved := hTimely.observeMessage hObserve
        split at hReplay
        · cases hReplay
          exact hObserved
        · exact ih hObserved hReplay

/- An activation counts only within its window. -/
theorem Timely.observeFaultEvent
    {event : FaultEvent}
    (hTimely : Timely startTime a)
    (hObserve :
      a.observeFaultEvent fromSeconds event stamp = some b) :
    Timely startTime b := by
  unfold TwistStoppedAssertion.observeFaultEvent at hObserve
  split at hObserve
  · cases hObserve
    exact hTimely
  · rename_i hWaiting
    split at hObserve
    · cases hObserve
      exact hTimely
    · simp only [Option.bind_eq_bind, Option.pure_def]
        at hObserve
      split at hObserve
      · cases hObserve
        exact hTimely.of_sameTimes ⟨rfl, rfl, rfl, rfl, rfl⟩
      · rw [Option.bind_eq_some_iff] at hObserve
        rcases hObserve with ⟨triggerWithin, hTrigger, hRest⟩
        split at hRest
        · cases hRest
          exact hTimely.of_sameTimes ⟨rfl, rfl, rfl, rfl, rfl⟩
        · rename_i hInTime
          refine Timely.replay ?_ hRest
          rw [hTimely.limits.triggerWithin,
            Option.some.injEq] at hTrigger
          rw [← hTrigger, Number.lt_finite_iff, not_lt,
            hTimely.start] at hInTime
          refine ⟨hTimely.limits, hTimely.start,
            fun _ => ⟨stamp, rfl, hInTime⟩, ?_, ?_⟩
          · intro hInactive
            cases hInactive
          · intro first hFirst
            have hNone : a.firstZeroStamp = none := by
              apply hTimely.waiting
              simpa using fun hActive =>
                hWaiting (Or.inr hActive)
            exact absurd hFirst (by simp [hNone])

theorem Timely.step
    {call : Call}
    (hTimely : Timely startTime a)
    (hStep : step fromSeconds a call = some b) :
    Timely startTime b := by
  cases call with
  | faultEvent event stamp deliveredAt =>
      exact hTimely.observeFaultEvent hStep
  | message message stamp =>
      exact hTimely.observeMessage hStep
  | update now =>
      exact hTimely.of_sameTimes (sameTimes_update hStep)

theorem timely_create
    {config : AssertionConfig}
    (hLimits : StopLimits.Set config)
    (startTime : Int) :
    Timely startTime (create config startTime) := by
  refine ⟨hLimits, rfl, ?_, fun _ => rfl, ?_⟩
  · intro hActive
    cases hActive
  · intro first hFirst
    cases hFirst

/- A span of time is the sum of its parts. -/
theorem seconds_split (first second third : Int) :
    seconds (third - first) =
      seconds (second - first) + seconds (third - second) := by
  unfold seconds
  push_cast
  ring

/- A tick after all deadlines of an assertion decides it. -/
theorem Timely.decided_of_update
    (hTimely : Timely startTime a)
    (hOver :
      (StopLimits.ofConfig a.config).triggerWithin +
            (StopLimits.ofConfig a.config).within +
          (StopLimits.ofConfig a.config).duration <
        seconds (now - startTime))
    (hUpdate : a.update fromSeconds now = some b) :
    b.result.state ≠ .pending := by
  have hDuration := hTimely.limits.duration_pos
  unfold update at hUpdate
  split at hUpdate
  · rename_i hDecided
    cases hUpdate
    exact hDecided
  · split at hUpdate
    · -- the fault did not activate in time
      unfold updateInactive at hUpdate
      have hLate :
          (StopLimits.ofConfig a.config).triggerWithin +
              (StopLimits.ofConfig a.config).within <
            seconds (now - a.startTime) := by
        rw [hTimely.start]
        linarith
      simp only [hTimely.limits.triggerWithin,
        hTimely.limits.within, Option.bind_eq_bind,
        Option.bind_some, Option.pure_def, Number.add_finite,
        Number.isFinite, not_true_eq_false, if_false,
        Number.lt_finite_iff, hLate, if_true] at hUpdate
      cases hUpdate
      simp [fail]
    · rename_i hActive
      rw [not_not] at hActive
      rcases hTimely.active hActive with
        ⟨activation, hActivation, hTriggered⟩
      split at hUpdate
      · -- no zero command came in time
        unfold updateUnanswered at hUpdate
        have hLate :
            (StopLimits.ofConfig a.config).within <
              seconds (now - activation) := by
          have hParts := seconds_split startTime activation now
          linarith
        simp only [hActivation, hTimely.limits.within,
          Option.bind_eq_bind, Option.bind_some,
          Option.pure_def, Number.lt_finite_iff, hLate,
          if_true] at hUpdate
        cases hUpdate
        simp [fail]
      · -- the hold is over
        rename_i first hFirst
        rcases hTimely.answered first hFirst with
          ⟨same, hSame, hAnswered⟩
        rw [hActivation, Option.some.injEq] at hSame
        subst hSame
        have hHeld :
            (StopLimits.ofConfig a.config).duration ≤
              seconds (now - first) := by
          have hParts := seconds_split startTime activation now
          have hRest := seconds_split activation first now
          linarith
        unfold updateHold at hUpdate
        simp only [hTimely.limits.duration,
          hTimely.limits.maxGap, Option.bind_eq_bind,
          Option.bind_some, Option.pure_def,
          Option.bind_eq_some_iff, Number.le_finite_iff,
          hHeld, if_true] at hUpdate
        rcases hUpdate with ⟨_, _, hUpdate⟩
        split at hUpdate
        · cases hUpdate
          simp [fail]
        · cases hUpdate
          simp [pass]

end Timely

end TwistStoppedAssertion

------------------------------------------------------------
-- The Assertions Of A Runner
------------------------------------------------------------

/-
  The seconds after the start at which an assertion is over,
  if its configuration limits them.
-/
def AssertionConfig.lastDeadline
    (config : AssertionConfig) : Option ℚ :=
  if config.type = "twist_stopped" then
    let limits := StopLimits.ofConfig config
    some
      (limits.triggerWithin + limits.within + limits.duration)
  else
    match config.within with
    | some (.finite within) => some within
    | _ => none

namespace FaultAssertionRunner

open Transition

/- What every call leaves as it is or lets go on. -/
theorem parts_step
    {fromSeconds : Number → Int}
    {r t : FaultAssertionRunner}
    {call : Call}
    (hStep : step fromSeconds r call = some t) :
    t.startTime = r.startTime ∧
      t.faultEventAssertions.map FaultEventAssertion.config =
          r.faultEventAssertions.map
            FaultEventAssertion.config ∧
        t.topicHzAssertions.map TopicHzAssertion.config =
            r.topicHzAssertions.map TopicHzAssertion.config ∧
          List.Forall₂
            (fun a b =>
              b = a ∨
                ∃ twistCall,
                  TwistStoppedAssertion.step fromSeconds a
                      twistCall =
                    some b)
            r.twistStoppedAssertions
            t.twistStoppedAssertions := by
  rw [step_eq] at hStep
  rcases Option.map_eq_some_iff.mp hStep with
    ⟨u, hObserve, rfl⟩
  rcases announce_keeps call u with
    ⟨hSameTime, hSameEvents, hSameRates, hSameTwists⟩
  rw [hSameTime, hSameEvents, hSameRates, hSameTwists]
  cases call with
  | faultEvent event stampOf =>
      rcases Option.map_eq_some_iff.mp hObserve with
        ⟨twists, hTwists, rfl⟩
      refine ⟨rfl, ?_, rfl, ?_⟩
      · simp
      · refine (Option.mapM_eq_some_iff.mp hTwists).imp ?_
        intro a b hOne
        exact
          Or.inr
            ⟨.faultEvent event.toFaultEvent event.stamp
              event.stamp, hOne⟩
  | topicHzMessage index now =>
      rcases Option.map_eq_some_iff.mp hObserve with
        ⟨rates, hRates, rfl⟩
      refine ⟨rfl, rfl, ?_,
        List.forall₂_same.mpr fun _ _ => Or.inl rfl⟩
      refine
        map_eq_of_forall₂
          ((forall₂_of_changeAt hRates).imp ?_)
      intro a b hOne
      rcases hOne with rfl | hOne
      · exact rfl
      · cases hOne
        exact rfl
  | twistMessage index message now =>
      rcases Option.map_eq_some_iff.mp hObserve with
        ⟨twists, hTwists, rfl⟩
      refine ⟨rfl, rfl, rfl, ?_⟩
      refine (forall₂_of_changeAt hTwists).imp ?_
      intro a b hOne
      exact hOne.imp_right fun hCall =>
        ⟨.message message now, hCall⟩
  | update readings =>
      rcases Option.map_eq_some_iff.mp hObserve with
        ⟨twists, hTwists, rfl⟩
      refine ⟨rfl, ?_, ?_, ?_⟩
      · simp
      · rw [List.map_map]
        exact
          List.map_congr_left fun _ _ =>
            TopicHzAssertion.update_config _ _ _
      · refine (Option.mapM_eq_some_iff.mp hTwists).imp ?_
        intro a b hOne
        exact Or.inr ⟨.update readings.now, hOne⟩

/- The assertions of a scenario, with what is timely. -/
structure Monitors
    (startedAt : Int)
    (configs : List AssertionConfig)
    (r : FaultAssertionRunner) : Prop where
  startTime : r.startTime = startedAt
  events :
    r.faultEventAssertions.map FaultEventAssertion.config =
      configs.filter fun config => config.type = "fault_event"
  rates :
    r.topicHzAssertions.map TopicHzAssertion.config =
      configs.filter fun config => config.type = "topic_hz"
  twists :
    r.twistStoppedAssertions.map
        TwistStoppedAssertion.config =
      configs.filter fun config =>
        config.type = "twist_stopped"
  timely :
    ∀ a ∈ r.twistStoppedAssertions, a.Timely startedAt

section Monitors

variable {fromSeconds : Number → Int}
variable {startedAt : Int}
variable {configs : List AssertionConfig}
variable {r t u : FaultAssertionRunner}

theorem monitors_start
    (hLimits :
      ∀ config ∈ configs,
        config.type = "twist_stopped" →
          StopLimits.Set config) :
    Monitors startedAt configs (start startedAt configs {}) := by
  rw [start_eq]
  refine ⟨rfl, ?_, ?_, ?_, ?_⟩
  · rw [List.map_map]
    exact List.map_id _
  · rw [List.map_map]
    exact List.map_id _
  · rw [List.map_map]
    exact List.map_id _
  · intro a hA
    rcases List.mem_map.mp hA with ⟨config, hConfig, rfl⟩
    rcases List.mem_filter.mp hConfig with ⟨hListed, hType⟩
    exact
      TwistStoppedAssertion.timely_create
        (hLimits config hListed (by simpa using hType)) _

theorem Monitors.step
    {call : Call}
    (hMonitors : Monitors startedAt configs r)
    (hStep : step fromSeconds r call = some t) :
    Monitors startedAt configs t := by
  rcases parts_step hStep with
    ⟨hTime, hEvents, hRates, hTwists⟩
  constructor
  · rw [hTime, hMonitors.startTime]
  · rw [hEvents, hMonitors.events]
  · rw [hRates, hMonitors.rates]
  · rw [← hMonitors.twists]
    refine map_eq_of_forall₂ (hTwists.imp ?_)
    intro a b hOne
    rcases hOne with rfl | ⟨twistCall, hCall⟩
    · exact rfl
    · exact
        (TwistStoppedAssertion.step_continues hCall).config
  · intro b hB
    rcases hTwists.exists_of_mem_right hB with
      ⟨a, hA, rfl | ⟨twistCall, hCall⟩⟩
    · exact hMonitors.timely b hA
    · exact (hMonitors.timely a hA).step hCall

theorem Monitors.run
    {calls : List Call}
    (hMonitors : Monitors startedAt configs r)
    (hRun :
      Transition.run (FaultAssertionRunner.step fromSeconds) r
          calls =
        some t) :
    Monitors startedAt configs t :=
  run_invariant
    (fun _ _ _ hHere _ hStep => hHere.step hStep) hMonitors
    (along_of_forall (fun _ _ => True.intro) r calls) hRun

/- The deadline of an assertion lies before the tick. -/
def Overdue
    (startedAt : Int)
    (readings : Readings)
    (config : AssertionConfig) : Prop :=
  ∃ deadline,
    config.lastDeadline = some deadline ∧
      deadline < seconds (readings.now - startedAt)

theorem over_of_overdue
    {readings : Readings}
    {config : AssertionConfig}
    (hStart : r.startTime = startedAt)
    (hType : config.type ≠ "twist_stopped")
    (hOverdue : Overdue startedAt readings config) :
    r.Over readings.now config := by
  rcases hOverdue with ⟨deadline, hDeadline, hOver⟩
  unfold AssertionConfig.lastDeadline at hDeadline
  rw [if_neg hType] at hDeadline
  split at hDeadline
  · rename_i within hWithin
    rw [Option.some.injEq] at hDeadline
    subst hDeadline
    refine ⟨.finite within, hWithin, ?_⟩
    rw [Number.lt_finite_iff, hStart]
    exact hOver
  · cases hDeadline

theorem listed_of_mem
    {α : Type}
    {items : List α}
    {configOf : α → AssertionConfig}
    {type : String}
    (hConfigs :
      items.map configOf =
        configs.filter fun config => config.type = type)
    {item : α}
    (hItem : item ∈ items) :
    configOf item ∈ configs ∧ (configOf item).type = type := by
  have hListed : configOf item ∈ items.map configOf :=
    List.mem_map_of_mem hItem
  rw [hConfigs, List.mem_filter, decide_eq_true_iff] at hListed
  exact hListed

/- What is overdue at a tick is decided by it. -/
theorem Monitors.decided_of_tick
    {readings : Readings}
    (hMonitors : Monitors startedAt configs r)
    (hTick :
      FaultAssertionRunner.step fromSeconds r
          (.update readings) =
        some t) :
    (∀ a ∈ t.faultEventAssertions,
        Overdue startedAt readings a.config →
          a.result.state ≠ .pending) ∧
      (∀ a ∈ t.topicHzAssertions,
          Overdue startedAt readings a.config →
            a.result.state ≠ .pending) ∧
        ∀ a ∈ t.twistStoppedAssertions,
          Overdue startedAt readings a.config →
            a.result.state ≠ .pending := by
  have hAfter := hMonitors.step hTick
  rcases FaultAssertionRunner.decided_of_tick hTick with
    ⟨hEvents, hRates⟩
  refine ⟨?_, ?_, ?_⟩
  · intro a hA hOverdue
    have hType := (listed_of_mem hAfter.events hA).2
    exact
      hEvents a hA
        (over_of_overdue hMonitors.startTime
          (by simp [hType]) hOverdue)
  · intro a hA hOverdue
    have hType := (listed_of_mem hAfter.rates hA).2
    exact
      hRates a hA
        (over_of_overdue hMonitors.startTime
          (by simp [hType]) hOverdue)
  · intro b hB hOverdue
    have hType := (listed_of_mem hAfter.twists hB).2
    rcases hOverdue with ⟨deadline, hDeadline, hOver⟩
    rw [AssertionConfig.lastDeadline, if_pos hType,
      Option.some.injEq] at hDeadline
    rw [← hDeadline] at hOver
    rw [step_eq] at hTick
    rcases Option.map_eq_some_iff.mp hTick with
      ⟨u, hObserve, rfl⟩
    rw [(announce_keeps _ u).2.2.2] at hB
    rcases Option.map_eq_some_iff.mp hObserve with
      ⟨twists, hTwists, rfl⟩
    rcases
      (Option.mapM_eq_some_iff.mp hTwists).exists_of_mem_right
        hB with
      ⟨a, hA, hUpdate⟩
    have hSame :=
      (TwistStoppedAssertion.sameTimes_update hUpdate).config
    rw [hSame] at hOver
    exact (hMonitors.timely a hA).decided_of_update hOver hUpdate

------------------------------------------------------------
-- Verdicts
------------------------------------------------------------

/- The assertions with their results, in the reported order. -/
def judged
    (r : FaultAssertionRunner) :
    List (AssertionConfig × AssertionResult) :=
  (r.faultEventAssertions.map fun a => (a.config, a.result)) ++
    ((r.topicHzAssertions.map fun a => (a.config, a.result)) ++
      r.twistStoppedAssertions.map fun a =>
        (a.config, a.result))

theorem judged_results (r : FaultAssertionRunner) :
    r.judged.map Prod.snd = r.results := by
  simp [judged, results, Function.comp_def]

theorem Monitors.judged_configs
    (hMonitors : Monitors startedAt configs r) :
    r.judged.map Prod.fst =
      (configs.filter fun config =>
          config.type = "fault_event") ++
        ((configs.filter fun config =>
            config.type = "topic_hz") ++
          configs.filter fun config =>
            config.type = "twist_stopped") := by
  rw [← hMonitors.events, ← hMonitors.rates,
    ← hMonitors.twists]
  simp [judged, Function.comp_def]

/- The types divide the assertions. -/
theorem filter_types_perm
    (hTypes :
      ∀ config ∈ configs,
        isSupportedAssertionType config.type = true) :
    ((configs.filter fun config =>
          config.type = "fault_event") ++
        ((configs.filter fun config =>
            config.type = "topic_hz") ++
          configs.filter fun config =>
            config.type = "twist_stopped")).Perm
      configs := by
  induction configs with
  | nil => exact List.Perm.refl _
  | cons config configs ih =>
      rw [List.forall_mem_cons] at hTypes
      have hRest := ih hTypes.2
      have hSupported := hTypes.1
      unfold isSupportedAssertionType at hSupported
      rw [decide_eq_true_iff] at hSupported
      rcases hSupported with hType | hType | hType
      · simp only [List.filter_cons, hType, decide_true,
          String.reduceEq, decide_false, if_true, if_false,
          Bool.false_eq_true, List.cons_append]
        exact hRest.cons config
      · simp only [List.filter_cons, hType, decide_true,
          String.reduceEq, decide_false, if_true, if_false,
          Bool.false_eq_true, List.cons_append]
        exact List.perm_middle.trans (hRest.cons config)
      · simp only [List.filter_cons, hType, decide_true,
          String.reduceEq, decide_false, if_true, if_false,
          Bool.false_eq_true]
        rw [← List.append_assoc]
        refine List.perm_middle.trans ?_
        rw [List.append_assoc]
        exact hRest.cons config

theorem Monitors.judged_decided
    {readings : Readings}
    (hMonitors : Monitors startedAt configs r)
    (hTick :
      FaultAssertionRunner.step fromSeconds r
          (.update readings) =
        some t)
    {entry : AssertionConfig × AssertionResult}
    (hEntry : entry ∈ t.judged)
    (hOverdue : Overdue startedAt readings entry.1) :
    entry.2.state ≠ .pending := by
  rcases hMonitors.decided_of_tick hTick with
    ⟨hEvents, hRates, hTwists⟩
  unfold judged at hEntry
  simp only [List.mem_append, List.mem_map] at hEntry
  rcases hEntry with ⟨a, hA, rfl⟩ | ⟨a, hA, rfl⟩ | ⟨a, hA, rfl⟩
  · exact hEvents a hA hOverdue
  · exact hRates a hA hOverdue
  · exact hTwists a hA hOverdue

/- Results advance along a run. -/
theorem advances_run
    {calls : List Call}
    (hRun :
      Transition.run (FaultAssertionRunner.step fromSeconds) r
          calls =
        some t) :
    List.Forall₂ AssertionResult.Advances r.results
      t.results := by
  refine run_invariant
    (I := fun s : FaultAssertionRunner =>
      List.Forall₂ AssertionResult.Advances r.results
        s.results)
    ?_ (advances_refl _)
    (along_of_forall (fun _ _ => True.intro) r calls) hRun
  intro s call u hHere _ hStep
  refine hHere.comp (advances_step hStep) ?_
  intro x y z hFirst hSecond
  refine ⟨hSecond.1.trans hFirst.1, ?_⟩
  intro hDecided
  have hSame := hFirst.2 hDecided
  rw [← hSame] at hDecided
  rw [hSecond.2 hDecided, hSame]

/- Lists of pairs that are related part by part. -/
theorem forall₂_of_parts
    {α β : Type}
    {R : β → β → Prop}
    {xs ys : List (α × β)}
    (hFirst : ys.map Prod.fst = xs.map Prod.fst)
    (hSecond :
      List.Forall₂ R (xs.map Prod.snd) (ys.map Prod.snd)) :
    List.Forall₂ (fun x y => y.1 = x.1 ∧ R x.2 y.2) xs ys := by
  rw [List.forall₂_map_left_iff, List.forall₂_map_right_iff]
    at hSecond
  have hSame :
      List.Forall₂ (fun x y : α × β => y.1 = x.1) xs ys := by
    have hEqual :
        List.Forall₂ (fun a b : α => b = a)
          (xs.map Prod.fst) (ys.map Prod.fst) := by
      rw [hFirst]
      exact List.forall₂_same.mpr fun _ _ => rfl
    rw [List.forall₂_map_left_iff,
      List.forall₂_map_right_iff] at hEqual
    exact hEqual
  exact hSame.both hSecond

/- Decided results are final. -/
theorem results_of_advances
    {xs ys : List AssertionResult}
    (hAdvances : List.Forall₂ AssertionResult.Advances xs ys)
    (hDecided : ∀ result ∈ xs, result.state ≠ .pending) :
    ys = xs := by
  induction hAdvances with
  | nil => exact rfl
  | cons hHead _ ih =>
      rw [List.forall_mem_cons] at hDecided
      rw [hHead.2 hDecided.1, ih hDecided.2]

/- The validator accepts only types that the runner has. -/
theorem supported_of_ok
    {h : HashOrder String}
    {scenario : ScenarioConfig}
    {config : AssertionConfig}
    (hOk : (validateScenario h scenario).ok = true)
    (hConfig : config ∈ scenario.assertions) :
    isSupportedAssertionType config.type = true := by
  have hChecks :=
    (ok_checkDistinct_iff _ _ _ _ _).mp
      (ok_validateScenario_iff.mp hOk).2.2
  have hValid := hChecks.1 config hConfig
  unfold isSupportedAssertionType
  rw [decide_eq_true_iff]
  by_contra hOther
  push Not at hOther
  unfold validateAssertions at hValid
  rw [if_neg hOther.1, if_neg hOther.2.1,
    if_neg hOther.2.2] at hValid
  split at hValid
  · simp at hValid
  · simp at hValid

end Monitors

end FaultAssertionRunner

------------------------------------------------------------
-- A Stop That Never Comes
------------------------------------------------------------

namespace FaultAssertionRunner.NoStop

open Transition

def stopped : AssertionConfig where
  id := "stopped"
  type := "twist_stopped"
  faultId := "jam"
  topic := "/cmd_vel"
  triggerWithin := some .one
  within := some .one
  duration := some (.finite (1 / 2))
  linearTolerance := some .zero
  angularTolerance := some .zero
  maxGap := some (.finite (1 / 5))

def scenario : ScenarioConfig where
  injectors :=
    [{ id := "drive", type := "twist",
       topic := some
        { inputTopic := "cmd", outputTopic := "cmd_vel" } }]
  faults := [{ id := "jam", injectorId := "drive" }]
  assertions := [stopped]

def tick : Readings where
  now := 3000000000
  eventStamp := fun _ => 3000000000
  statusStamp := 3000000000

/- The fault activates, and no command stops. -/
def calls : List Call :=
  [ .faultEvent
      { faultId := "jam"
        injectorId := "drive"
        state := "active"
        source := "manual"
        details := ""
        stamp := 500000000 }
      (fun _ => 500000000) ]

end FaultAssertionRunner.NoStop
