import FaultInjection.Foundations.HoldMonitor
import FaultInjection.Assertions.StopLimits

/-
  The assertion that a fault stops commands refines a monitor
  that demands a response and that it is held.

  Key definitions include:
    * `TwistStoppedAssertion.rule`
    * `TwistStoppedAssertion.next`
    * `TwistStoppedAssertion.Shows`

  Key theorems include:
    * `TwistStoppedAssertion.update_shows`
    * `TwistStoppedAssertion.observeMessage_shows`
    * `TwistStoppedAssertion.step_shows`
-/

------------------------------------------------------------
-- Monitor
------------------------------------------------------------

namespace TwistStoppedAssertion

open HoldMonitor

theorem seconds_mono
    {a b : Int}
    (hLe : a ≤ b) :
    seconds a ≤ seconds b := by
  unfold seconds
  have hCast : (a : ℚ) ≤ b := by exact_mod_cast hLe
  linarith

/- A time span shorter than a duration has no more whole units. -/
theorem le_floor_of_seconds_lt
    {n : Int}
    {duration : ℚ}
    (hLt : seconds n < duration) :
    n ≤ ⌊duration * 10 ^ 9⌋ := by
  rw [Int.le_floor]
  unfold seconds at hLt
  linarith

theorem isFinite_of_abs_le
    {x : Number}
    {q : ℚ}
    (hLe : x.abs.le (.finite q) = true) :
    x.isFinite = true := by
  cases x with
  | finite r => rfl
  | posInf => simp [Number.abs, Number.le] at hLe
  | negInf => simp [Number.abs, Number.le] at hLe
  | nan => simp [Number.abs, Number.le] at hLe

/- A zero command is finite. -/
theorem isFinite_of_isZero
    {limits : StopLimits}
    (message : Twist)
    (hZero : limits.isZero message = true) :
    isFinite message = true := by
  unfold StopLimits.isZero withinTolerance at hZero
  simp only [Bool.and_eq_true] at hZero
  unfold isFinite
  simp only [Bool.and_eq_true]
  rcases hZero with
    ⟨⟨⟨hX, hY⟩, hZ⟩, ⟨hRoll, hPitch⟩, hYaw⟩
  exact ⟨⟨⟨⟨⟨isFinite_of_abs_le hX, isFinite_of_abs_le hY⟩,
    isFinite_of_abs_le hZ⟩, isFinite_of_abs_le hRoll⟩,
      isFinite_of_abs_le hPitch⟩, isFinite_of_abs_le hYaw⟩

/- What the assertion demands, as a rule of the monitor. -/
def rule
    (limits : StopLimits)
    (start : Int) : Rule Twist where
  capacity := maxPendingMessages
  timely stamp :=
    0 ≤ seconds (stamp - start) ∧
      seconds (stamp - start) ≤ limits.triggerWithin
  expired now :=
    limits.triggerWithin + limits.within <
      seconds (now - start)
  fine := isFinite
  good := limits.isZero
  late n := limits.within < seconds n
  wide n := limits.maxGap < seconds n
  held n := limits.duration ≤ seconds n
  hold := ⌊limits.duration * 10 ^ 9⌋
  fine_of_good := isFinite_of_isZero
  late_mono a b hLe hLate := by
    have hSeconds := seconds_mono hLe
    simp only [decide_eq_true_eq] at hLate ⊢
    linarith
  wide_mono a b hLe hWide := by
    have hSeconds := seconds_mono hLe
    simp only [decide_eq_true_eq] at hWide ⊢
    linarith
  held_mono a b hLe hHeld := by
    have hSeconds := seconds_mono hLe
    simp only [decide_eq_true_eq] at hHeld ⊢
    linarith
  le_hold n hInside := by
    apply le_floor_of_seconds_lt
    simpa using hInside

section Rule

variable (limits : StopLimits)
variable (start n : Int)
variable (message : Twist)

@[simp] theorem rule_capacity :
    (rule limits start).capacity = maxPendingMessages := rfl

@[simp] theorem rule_hold :
    (rule limits start).hold =
      ⌊limits.duration * 10 ^ 9⌋ := rfl

@[simp] theorem rule_timely_iff :
    (rule limits start).timely n = true ↔
      0 ≤ seconds (n - start) ∧
        seconds (n - start) ≤ limits.triggerWithin :=
  decide_eq_true_iff

@[simp] theorem rule_expired_iff :
    (rule limits start).expired n = true ↔
      limits.triggerWithin + limits.within <
        seconds (n - start) :=
  decide_eq_true_iff

@[simp] theorem rule_fine_iff :
    (rule limits start).fine message = true ↔
      isFinite message = true := Iff.rfl

@[simp] theorem rule_good_iff :
    (rule limits start).good message = true ↔
      limits.isZero message = true := Iff.rfl

@[simp] theorem rule_late_iff :
    (rule limits start).late n = true ↔
      limits.within < seconds n :=
  decide_eq_true_iff

@[simp] theorem rule_wide_iff :
    (rule limits start).wide n = true ↔
      limits.maxGap < seconds n :=
  decide_eq_true_iff

@[simp] theorem rule_held_iff :
    (rule limits start).held n = true ↔
      limits.duration ≤ seconds n :=
  decide_eq_true_iff

end Rule

/- What a call tells the monitor. -/
def Call.input?
    (config : AssertionConfig) : Call → Option (Input Twist)
| .faultEvent event stamp deliveredAt =>
    if TwistStoppedAssertion.activates config event then
      some (.activate stamp deliveredAt)
    else
      none
| .message twist stamp => some (.item twist stamp)
| .update now => some (.tick now)

/- The monitor after a call. -/
def next
    (config : AssertionConfig)
    (start : Int)
    (p : Phase Twist)
    (call : Call) : Phase Twist :=
  match call.input? config with
  | none => p
  | some input =>
      apply (rule (StopLimits.ofConfig config) start) p input

/- The conversion cuts the duration to whole nanoseconds. -/
def CutsDuration
    (fromSeconds : Number → Int)
    (config : AssertionConfig) : Prop :=
  fromSeconds
      (.finite (StopLimits.ofConfig config).duration) =
    ⌊(StopLimits.ofConfig config).duration * 10 ^ 9⌋

/- The assertion stands where the monitor does. -/
def Shows
    (config : AssertionConfig)
    (start : Int)
    (a : TwistStoppedAssertion)
    (p : Phase Twist) : Prop :=
  a.config = config ∧ a.startTime = start ∧
    match p with
    | .waiting buffer =>
        a.result.state = .pending ∧ a.faultActive = false ∧
          a.firstZeroStamp = none ∧ a.pendingMessages = buffer
    | .awaiting stamp =>
        a.result.state = .pending ∧ a.faultActive = true ∧
          a.faultActivationStamp = some stamp ∧
            a.firstZeroStamp = none
    | .holding stamp first last =>
        a.result.state = .pending ∧ a.faultActive = true ∧
          a.faultActivationStamp = some stamp ∧
            a.firstZeroStamp = some first ∧
              a.lastZeroStamp = some last
    | .passed => a.result.state = .passed
    | .failed => a.result.state = .failed

------------------------------------------------------------
-- Refinement
------------------------------------------------------------

section Refinement

variable {fromSeconds : Number → Int}
variable {config : AssertionConfig}
variable {start now : Int}
variable {a : TwistStoppedAssertion}

theorem shows_fail
    (hConfig : a.config = config)
    (hStart : a.startTime = start)
    (text : String) :
    Shows config start (a.fail text) .failed :=
  ⟨hConfig, hStart, rfl⟩

theorem isZero_of_set
    (hSet : StopLimits.Set config)
    (message : Twist) :
    isZero config message =
      some ((StopLimits.ofConfig config).isZero message) := by
  unfold isZero
  rw [hSet.linearTolerance, hSet.angularTolerance]
  rfl

theorem updateInactive_shows
    (hSet : StopLimits.Set config)
    {buffer : List (Twist × Int)}
    (hShows : Shows config start a (.waiting buffer)) :
    ∃ b, a.updateInactive now = some b ∧
      Shows config start b
        (tick (rule (StopLimits.ofConfig config) start) now
          (.waiting buffer)) := by
  rcases hShows with ⟨hConfig, hStart, hWaiting⟩
  unfold updateInactive
  rw [hConfig, hStart, hSet.triggerWithin, hSet.within, tick]
  simp only [bind, Option.bind, pure, Number.add_finite,
    Number.isFinite, not_true, if_false,
    Number.lt_finite_iff, rule_expired_iff]
  split
  · exact ⟨_, rfl, shows_fail hConfig hStart _⟩
  · exact ⟨_, rfl, hConfig, hStart, hWaiting⟩

theorem updateUnanswered_shows
    (hSet : StopLimits.Set config)
    {stamp : Int}
    (hShows : Shows config start a (.awaiting stamp)) :
    ∃ b, a.updateUnanswered now = some b ∧
      Shows config start b
        (tick (rule (StopLimits.ofConfig config) start) now
          (.awaiting stamp)) := by
  rcases hShows with ⟨hConfig, hStart, hAwaiting⟩
  unfold updateUnanswered
  rw [hConfig, hAwaiting.2.2.1, hSet.within, tick]
  simp only [bind, Option.bind, pure, Number.lt_finite_iff,
    rule_late_iff]
  split
  · exact ⟨_, rfl, shows_fail hConfig hStart _⟩
  · exact ⟨_, rfl, hConfig, hStart, hAwaiting⟩

theorem updateHold_shows
    (hSet : StopLimits.Set config)
    (hHold : CutsDuration fromSeconds config)
    {stamp first last : Int}
    (hShows :
      Shows config start a (.holding stamp first last)) :
    ∃ b, a.updateHold fromSeconds now first = some b ∧
      Shows config start b
        (tick (rule (StopLimits.ofConfig config) start) now
          (.holding stamp first last)) := by
  rcases hShows with ⟨hConfig, hStart, hHolding⟩
  have hCut := hHold
  unfold CutsDuration at hCut
  unfold updateHold
  rw [hConfig, hHolding.2.2.2.2, hSet.duration, hSet.maxGap,
    tick]
  simp only [bind, Option.bind, pure, Number.lt_finite_iff,
    Number.le_finite_iff, rule_held_iff, rule_wide_iff,
    rule_hold, hCut]
  by_cases hOver :
      (StopLimits.ofConfig config).duration ≤
        seconds (now - first)
  · simp only [if_pos hOver]
    split
    · exact ⟨_, rfl, shows_fail hConfig hStart _⟩
    · exact ⟨_, rfl, hConfig, hStart, rfl⟩
  · simp only [if_neg hOver]
    split
    · exact ⟨_, rfl, shows_fail hConfig hStart _⟩
    · exact ⟨_, rfl, hConfig, hStart, hHolding⟩

theorem update_shows
    (hSet : StopLimits.Set config)
    (hHold : CutsDuration fromSeconds config)
    {p : Phase Twist}
    (hShows : Shows config start a p) :
    ∃ b, a.update fromSeconds now = some b ∧
      Shows config start b
        (tick (rule (StopLimits.ofConfig config) start) now
          p) := by
  unfold update
  cases p with
  | waiting buffer =>
      simp only [hShows.2.2.1, hShows.2.2.2.1]
      exact updateInactive_shows hSet hShows
  | awaiting stamp =>
      simp only [hShows.2.2.1, hShows.2.2.2.1,
        hShows.2.2.2.2.2]
      exact updateUnanswered_shows hSet hShows
  | holding stamp first last =>
      simp only [hShows.2.2.1, hShows.2.2.2.1,
        hShows.2.2.2.2.2.1]
      exact updateHold_shows hSet hHold hShows
  | passed =>
      simp only [hShows.2.2]
      exact ⟨a, rfl, hShows⟩
  | failed =>
      simp only [hShows.2.2]
      exact ⟨a, rfl, hShows⟩

theorem keepMessage_shows
    {buffer : List (Twist × Int)}
    {twist : Twist}
    (hShows : Shows config start a (.waiting buffer)) :
    Shows config start (a.keepMessage twist now)
      (observe (rule (StopLimits.ofConfig config) start)
        (.waiting buffer) (twist, now)) := by
  rcases hShows with
    ⟨hConfig, hStart, hState, hActive, hFirst, hBuffer⟩
  unfold keepMessage
  rw [observe, hBuffer, rule_capacity]
  by_cases hRoom : buffer.length < maxPendingMessages
  · rw [if_pos hRoom, if_neg (Nat.not_le.mpr hRoom)]
    exact ⟨hConfig, hStart, hState, hActive, hFirst, rfl⟩
  · rw [if_neg hRoom, if_pos (Nat.not_lt.mp hRoom)]
    exact shows_fail hConfig hStart _

theorem judgeFirst_shows
    (hSet : StopLimits.Set config)
    {stamp : Int}
    {twist : Twist}
    (hFinite : isFinite twist = true)
    (hShows : Shows config start a (.awaiting stamp)) :
    ∃ b, a.judgeFirst twist now = some b ∧
      Shows config start b
        (observe (rule (StopLimits.ofConfig config) start)
          (.awaiting stamp) (twist, now)) := by
  rcases hShows with
    ⟨hConfig, hStart, hState, hActive, hStamp, hFirst⟩
  unfold judgeFirst
  rw [hConfig, hStamp, hSet.within, isZero_of_set hSet,
    observe]
  simp only [bind, Option.bind, pure, Number.lt_finite_iff,
    rule_fine_iff, rule_late_iff, rule_good_iff, hFinite,
    not_true, false_or]
  split
  · exact ⟨_, rfl, shows_fail hConfig hStart _⟩
  · by_cases hZero :
        (StopLimits.ofConfig config).isZero twist = true
    · rw [if_pos hZero, if_pos hZero]
      exact ⟨_, rfl, rfl, hStart, hState, hActive, rfl, rfl,
        rfl⟩
    · rw [if_neg hZero, if_neg hZero]
      exact ⟨_, rfl, hConfig, hStart, hState, hActive,
        hStamp, hFirst⟩

/- The gap was checked when the message updated the hold. -/
theorem judgeNext_shows
    (hSet : StopLimits.Set config)
    {stamp first last : Int}
    {twist : Twist}
    (hInside :
      (rule (StopLimits.ofConfig config) start).held
          (now - first) =
        false)
    (hGap :
      (rule (StopLimits.ofConfig config) start).wide
          (now - last) =
        false)
    (hShows :
      Shows config start a (.holding stamp first last)) :
    ∃ b, a.judgeNext twist now = some b ∧
      Shows config start b
        (observe (rule (StopLimits.ofConfig config) start)
          (.holding stamp first last) (twist, now)) := by
  rcases hShows with
    ⟨hConfig, hStart, hState, hActive, hStamp, hFirst, hLast⟩
  have hNarrow :
      ¬ (StopLimits.ofConfig config).maxGap <
        seconds (now - last) := by
    rw [← rule_wide_iff _ start, hGap]
    exact Bool.false_ne_true
  unfold judgeNext
  rw [hConfig, isZero_of_set hSet, hLast, hSet.maxGap,
    observe, hInside, hGap]
  simp only [bind, Option.bind, pure, Number.lt_finite_iff,
    if_neg hNarrow, Bool.false_eq_true, if_false, false_or,
    rule_good_iff]
  by_cases hZero :
      (StopLimits.ofConfig config).isZero twist = true
  · rw [if_pos hZero, if_neg (not_not_intro hZero)]
    exact ⟨_, rfl, rfl, hStart, hState, hActive, hStamp,
      hFirst, rfl⟩
  · rw [if_neg hZero, if_pos hZero]
    exact ⟨_, rfl, shows_fail hConfig hStart _⟩

theorem decided_iff_of_shows
    {p : Phase Twist}
    (hShows : Shows config start a p) :
    a.result.state ≠ .pending ↔ p = .passed ∨ p = .failed := by
  rcases hShows with ⟨_, _, hPhase⟩
  cases p with
  | waiting buffer => simp [hPhase.1]
  | awaiting stamp => simp [hPhase.1]
  | holding stamp first last => simp [hPhase.1]
  | passed => simp [hPhase]
  | failed => simp [hPhase]

/- A message during the hold updates it and is judged then. -/
theorem observeMessage_shows_holding
    (hSet : StopLimits.Set config)
    (hHold : CutsDuration fromSeconds config)
    {stamp first last : Int}
    {twist : Twist}
    (hShows :
      Shows config start a (.holding stamp first last)) :
    ∃ b, a.observeMessage fromSeconds twist now = some b ∧
      Shows config start b
        (observe (rule (StopLimits.ofConfig config) start)
          (.holding stamp first last) (twist, now)) := by
  unfold observeMessage
  simp only [hShows.2.2.1, hShows.2.2.2.1,
    hShows.2.2.2.2.2.1, ne_eq, not_true, if_false]
  have hUpdated :
      ∃ b, a.update fromSeconds now = some b ∧
        Shows config start b
          (tick (rule (StopLimits.ofConfig config) start) now
            (.holding stamp first last)) :=
    update_shows hSet hHold hShows
  rcases hUpdated with ⟨b, hUpdate, hNext⟩
  simp only [hUpdate, bind, Option.bind]
  rcases tick_holding_cases stamp first last with
    ⟨hInside, hGap, hTick⟩ | hDecided
  · rw [hTick] at hNext
    rw [if_neg (by simp [hNext.2.2.1])]
    by_cases hFinite : isFinite twist = true
    · rw [if_neg (not_not_intro hFinite)]
      exact judgeNext_shows hSet hInside hGap hNext
    · rw [if_pos hFinite]
      refine ⟨_, rfl, ?_⟩
      have hPoor :
          ¬ (rule (StopLimits.ofConfig config) start).good
              twist =
            true :=
        fun hGood => hFinite (isFinite_of_isZero _ hGood)
      rw [observe, hInside, if_neg Bool.false_ne_true,
        if_pos (.inr hPoor)]
      exact shows_fail hNext.1 hNext.2.1 _
  · have hState := (decided_iff_of_shows hNext).mpr hDecided
    rw [if_pos hState, observe_eq_tick]
    · exact ⟨b, rfl, hNext⟩
    · intro hSame
      rw [hSame] at hDecided
      simp at hDecided

theorem observeMessage_shows
    (hSet : StopLimits.Set config)
    (hHold : CutsDuration fromSeconds config)
    {p : Phase Twist}
    {twist : Twist}
    (hShows : Shows config start a p) :
    ∃ b, a.observeMessage fromSeconds twist now = some b ∧
      Shows config start b
        (observe (rule (StopLimits.ofConfig config) start) p
          (twist, now)) := by
  cases p with
  | waiting buffer =>
      unfold observeMessage
      simp only [hShows.2.2.1, hShows.2.2.2.1]
      exact ⟨_, rfl, keepMessage_shows hShows⟩
  | awaiting stamp =>
      unfold observeMessage
      simp only [hShows.2.2.1, hShows.2.2.2.1,
        hShows.2.2.2.2.2]
      by_cases hFinite : isFinite twist = true
      · simp only [hFinite]
        exact judgeFirst_shows hSet hFinite hShows
      · simp only [hFinite]
        refine ⟨_, rfl, ?_⟩
        rw [observe, if_pos (.inl hFinite)]
        exact shows_fail hShows.1 hShows.2.1 _
  | holding stamp first last =>
      exact observeMessage_shows_holding hSet hHold hShows
  | passed =>
      unfold observeMessage
      simp only [hShows.2.2]
      exact ⟨a, rfl, hShows⟩
  | failed =>
      unfold observeMessage
      simp only [hShows.2.2]
      exact ⟨a, rfl, hShows⟩

/- Replaying is observing the messages from the stamp on. -/
theorem replay_shows
    (hSet : StopLimits.Set config)
    (hHold : CutsDuration fromSeconds config)
    {stamp : Int}
    (pending : List (Twist × Int))
    {p : Phase Twist}
    (hShows : Shows config start a p) :
    ∃ b, replay fromSeconds stamp pending a = some b ∧
      Shows config start b
        ((pending.filter fun m => stamp ≤ m.2).foldl
          (observe (rule (StopLimits.ofConfig config) start))
          p) := by
  induction pending generalizing a p with
  | nil => exact ⟨a, rfl, hShows⟩
  | cons message pending ih =>
      unfold replay
      by_cases hEarlier : message.2 < stamp
      · have hSkip : ¬ stamp ≤ message.2 := by omega
        rw [if_pos hEarlier, List.filter_cons,
          if_neg (by simpa using hSkip)]
        exact ih hShows
      · have hSince : stamp ≤ message.2 := by omega
        rw [if_neg hEarlier, List.filter_cons,
          if_pos (by simpa using hSince), List.foldl_cons]
        have hObserved :
            ∃ b,
              a.observeMessage fromSeconds message.1
                  message.2 =
                some b ∧
              Shows config start b
                (observe
                  (rule (StopLimits.ofConfig config) start)
                  p (message.1, message.2)) :=
          observeMessage_shows hSet hHold hShows
        rcases hObserved with ⟨b, hObserve, hNext⟩
        simp only [hObserve, bind, Option.bind]
        by_cases hDecided : b.result.state ≠ .pending
        · -- A decided assertion leaves the loop early.
          rw [if_pos hDecided]
          refine ⟨b, rfl, ?_⟩
          rcases (decided_iff_of_shows hNext).mp hDecided with
            hPassed | hFailed
          · rw [hPassed] at hNext ⊢
            simpa using hNext
          · rw [hFailed] at hNext ⊢
            simpa using hNext
        · rw [if_neg hDecided]
          exact ih hNext

theorem next_faultEvent
    (p : Phase Twist)
    (event : FaultEvent)
    (stamp deliveredAt : Int) :
    next config start p (.faultEvent event stamp deliveredAt) =
      if activates config event then
        activate (rule (StopLimits.ofConfig config) start)
          stamp p
      else
        p := by
  unfold next Call.input?
  by_cases hEvent : activates config event = true
  · simp only [if_pos hEvent]
    rfl
  · simp only [if_neg hEvent]

/- The activation starts the replay if it is timely. -/
theorem observeFaultEvent_shows_waiting
    (hSet : StopLimits.Set config)
    (hHold : CutsDuration fromSeconds config)
    {buffer : List (Twist × Int)}
    {event : FaultEvent}
    {stamp : Int}
    (hEvent : activates config event = true)
    (hShows : Shows config start a (.waiting buffer)) :
    ∃ b,
      a.observeFaultEvent fromSeconds event stamp = some b ∧
        Shows config start b
          (activate (rule (StopLimits.ofConfig config) start)
            stamp (.waiting buffer)) := by
  rcases hShows with
    ⟨hConfig, hStart, hState, hActive, hFirst, hBuffer⟩
  have hPending :
      ¬ (a.result.state ≠ .pending ∨ a.faultActive = true) := by
    simp [hState, hActive]
  unfold observeFaultEvent
  rw [if_neg hPending, hConfig, hStart, hBuffer,
    if_neg (not_not_intro hEvent), hSet.triggerWithin]
  simp only [bind, Option.bind, pure, Number.zero,
    Number.lt_finite_iff, activate, rule_timely_iff]
  by_cases hBefore : seconds (stamp - start) < 0
  · have hUntimely :
        ¬ (0 ≤ seconds (stamp - start) ∧
          seconds (stamp - start) ≤
            (StopLimits.ofConfig config).triggerWithin) := by
      intro hTimely
      linarith [hTimely.1]
    rw [if_pos hBefore, if_neg hUntimely]
    exact ⟨_, rfl, shows_fail hConfig hStart _⟩
  · rw [if_neg hBefore]
    by_cases hAfter :
        (StopLimits.ofConfig config).triggerWithin <
          seconds (stamp - start)
    · have hUntimely :
          ¬ (0 ≤ seconds (stamp - start) ∧
            seconds (stamp - start) ≤
              (StopLimits.ofConfig config).triggerWithin) := by
        intro hTimely
        linarith [hTimely.2]
      rw [if_pos hAfter, if_neg hUntimely]
      exact ⟨_, rfl, shows_fail hConfig hStart _⟩
    · rw [if_neg hAfter,
        if_pos ⟨not_lt.mp hBefore, not_lt.mp hAfter⟩]
      apply replay_shows hSet hHold
      exact ⟨rfl, rfl, hState, rfl, rfl, hFirst⟩

/- A fault event tells the monitor of the activation. -/
theorem observeFaultEvent_shows
    (hSet : StopLimits.Set config)
    (hHold : CutsDuration fromSeconds config)
    {p : Phase Twist}
    {event : FaultEvent}
    {stamp deliveredAt : Int}
    (hShows : Shows config start a p) :
    ∃ b,
      a.observeFaultEvent fromSeconds event stamp = some b ∧
        Shows config start b
          (next config start p
            (.faultEvent event stamp deliveredAt)) := by
  rw [next_faultEvent]
  by_cases hSettled : p.settled = true
  · have hInert :
        a.result.state ≠ .pending ∨ a.faultActive = true := by
      cases p with
      | waiting buffer => cases hSettled
      | awaiting stamp' => exact .inr hShows.2.2.2.1
      | holding stamp' first last =>
          exact .inr hShows.2.2.2.1
      | passed =>
          exact .inl ((decided_iff_of_shows hShows).mpr (by simp))
      | failed =>
          exact .inl ((decided_iff_of_shows hShows).mpr (by simp))
    unfold observeFaultEvent
    rw [if_pos hInert, activate_of_settled p hSettled, ite_self]
    exact ⟨a, rfl, hShows⟩
  · cases p with
    | waiting buffer =>
        by_cases hEvent : activates config event = true
        · rw [if_pos hEvent]
          exact observeFaultEvent_shows_waiting hSet hHold
            hEvent hShows
        · rw [if_neg hEvent]
          refine ⟨a, ?_, hShows⟩
          unfold observeFaultEvent
          rw [hShows.1, if_pos hEvent, ite_self]
    | awaiting stamp' => exact absurd rfl hSettled
    | holding stamp' first last => exact absurd rfl hSettled
    | passed => exact absurd rfl hSettled
    | failed => exact absurd rfl hSettled

/- Every call keeps the assertion where the monitor is. -/
theorem step_shows
    (hSet : StopLimits.Set config)
    (hHold : CutsDuration fromSeconds config)
    (a : TwistStoppedAssertion)
    (p : Phase Twist)
    (call : Call)
    (hShows : Shows config start a p) :
    ∃ b, step fromSeconds a call = some b ∧
      Shows config start b (next config start p call) := by
  cases call with
  | faultEvent event stamp deliveredAt =>
      exact observeFaultEvent_shows hSet hHold hShows
  | message twist stamp =>
      exact observeMessage_shows hSet hHold hShows
  | update now => exact update_shows hSet hHold hShows

end Refinement

end TwistStoppedAssertion
