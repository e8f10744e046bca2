import Mathlib.Data.List.TakeWhile
import FaultInjection.Foundations.Transition
import FaultInjection.Assertions.StopMonitor

/-
  The verdict of the assertion that a fault stops commands.

  The verdict of the monitor, and so of the assertion,
  depends on the messages alone and not on when the assertion
  was updated or learned of the activation.

  Key definitions include:
    * `TwistStoppedAssertion.Stops`
    * `TwistStoppedAssertion.Passes`
    * `TwistStoppedAssertion.JudgedRun`
    * `TwistStoppedAssertion.GivesVerdict`

  Key theorems include:
    * `TwistStoppedAssertion.run_shows`
    * `TwistStoppedAssertion.gives_verdict`
-/

------------------------------------------------------------
-- Documented Verdict
------------------------------------------------------------

namespace TwistStoppedAssertion

open HoldMonitor Transition

/- A message that a call brings, with its stamp. -/
def Call.message? : Call → Option (Twist × Int)
| .message twist stamp => some (twist, stamp)
| _ => none

def messages (calls : List Call) : List (Twist × Int) :=
  calls.filterMap Call.message?

/- The call delivers the activation that is waited for. -/
def Call.activates (config : AssertionConfig) : Call → Bool
| .faultEvent event _ _ =>
    TwistStoppedAssertion.activates config event
| _ => false

def beforeActivation
    (config : AssertionConfig)
    (calls : List Call) : List Call :=
  calls.takeWhile fun call => ¬ call.activates config

/- Stamp and delivery of the first activation. -/
def activation
    (config : AssertionConfig)
    (calls : List Call) : Option (Int × Int) :=
  match calls.find? fun call => call.activates config with
  | some (.faultEvent _ stamp deliveredAt) =>
      some (stamp, deliveredAt)
  | _ => none

/-
  The zero commands from a first one on are kept up for the
  duration. The last gap is measured up to the end of a hold
  of the given length.
-/
def StopHeld
    (limits : StopLimits)
    (hold : ℚ)
    (zero : Int)
    (after : List (Twist × Int)) : Prop :=
  let during :=
    after.filter fun m =>
      seconds (m.2 - zero) < limits.duration
  let last := (during.map Prod.snd).getLastD zero
  (∀ m ∈ during, limits.isZero m.1 = true) ∧
    (zero :: during.map Prod.snd).IsChain
        (fun a b => seconds (b - a) ≤ limits.maxGap) ∧
      hold - seconds (last - zero) ≤ limits.maxGap

/-
  Among the messages a first zero command arrives in time
  after nothing but finite commands, and the stop is held.
-/
def Stops
    (limits : StopLimits)
    (hold : ℚ)
    (stamp : Int)
    (received : List (Twist × Int)) : Prop :=
  ∃ before zero after,
    received = before ++ zero :: after ∧
      (∀ m ∈ before,
        isFinite m.1 = true ∧ limits.isZero m.1 = false) ∧
        limits.isZero zero.1 = true ∧
          seconds (zero.2 - stamp) ≤ limits.within ∧
            StopHeld limits hold zero.2 after

/-
  The fault is activated in time and the messages stamped
  since then stop. The length of the hold up to which the
  last gap is measured depends on the duration.
-/
def Passes
    (hold : ℚ → ℚ)
    (config : AssertionConfig)
    (start : Int)
    (calls : List Call) : Prop :=
  let limits := StopLimits.ofConfig config
  ∃ stamp deliveredAt,
    activation config calls = some (stamp, deliveredAt) ∧
      0 ≤ seconds (stamp - start) ∧
        seconds (stamp - start) ≤ limits.triggerWithin ∧
          Stops limits (hold limits.duration) stamp
            ((messages calls).filter fun m => stamp ≤ m.2)

/-
  A run with a last update after all deadlines. Its calls are
  made in the order of time, and times are 64-bit counts of
  nanoseconds. The first activation carries no later stamp
  than its delivery and comes before an update that gives up
  and with room for the messages so far.
-/
structure JudgedRun
    (config : AssertionConfig)
    (start now : Int)
    (calls : List Call) : Prop where
  start_nonneg : 0 ≤ start
  now_lt : now < 2 ^ 63
  ordered :
    (calls ++ [Call.update now]).Pairwise
      fun a b => a.time ≤ b.time
  late :
    (StopLimits.ofConfig config).triggerWithin +
        (StopLimits.ofConfig config).within +
          (StopLimits.ofConfig config).duration <
      seconds (now - start)
  stamp :
    ∀ stamp deliveredAt,
      activation config calls = some (stamp, deliveredAt) →
        stamp ≤ deliveredAt
  ticks :
    (activation config calls).isSome = true →
      ∀ tick, .update tick ∈ beforeActivation config calls →
        seconds (tick - start) ≤
          (StopLimits.ofConfig config).triggerWithin +
            (StopLimits.ofConfig config).within
  room :
    (activation config calls).isSome = true →
      (messages (beforeActivation config calls)).length ≤
        maxPendingMessages

/-
  After the last update the assertion has passed exactly if
  the condition holds, and it has failed otherwise.
-/
def GivesVerdict
    (fromSeconds : Number → Int)
    (config : AssertionConfig)
    (start now : Int)
    (calls : List Call)
    (condition : Prop) : Prop :=
  ∃ last,
    run (step fromSeconds) (create config start)
        (calls ++ [.update now]) =
        some last ∧
      (last.result.state = .passed ↔ condition) ∧
        (last.result.state = .failed ↔ ¬ condition)

------------------------------------------------------------
-- Runs
------------------------------------------------------------

section Runs

variable {config : AssertionConfig}
variable {start now : Int}

def inputs
    (config : AssertionConfig)
    (calls : List Call) : List (Input Twist) :=
  calls.filterMap (Call.input? config)

theorem foldl_next
    (calls : List Call)
    (p : Phase Twist) :
    calls.foldl (next config start) p =
      (inputs config calls).foldl
        (apply (rule (StopLimits.ofConfig config) start))
        p := by
  unfold inputs
  induction calls generalizing p with
  | nil => rfl
  | cons call calls ih =>
      rw [List.foldl_cons, ih, List.filterMap_cons]
      unfold next
      cases call.input? config with
      | none => rfl
      | some input => rfl

theorem time_of_input?
    {call : Call}
    {input : Input Twist}
    (hInput : call.input? config = some input) :
    input.time = call.time := by
  unfold Call.input? at hInput
  cases call with
  | faultEvent event stamp deliveredAt =>
      by_cases hEvent : activates config event = true
      · simp only [hEvent, if_true, Option.some.injEq]
          at hInput
        rw [← hInput]
        rfl
      · simp [hEvent] at hInput
  | message twist stamp =>
      rw [← Option.some.inj hInput]
      rfl
  | update now =>
      rw [← Option.some.inj hInput]
      rfl

theorem activates_of_input?
    {call : Call}
    {input : Input Twist}
    (hInput : call.input? config = some input) :
    input.activates = call.activates config := by
  unfold Call.input? at hInput
  cases call with
  | faultEvent event stamp deliveredAt =>
      by_cases hEvent : activates config event = true
      · simp only [hEvent, if_true, Option.some.injEq]
          at hInput
        rw [← hInput]
        exact hEvent.symm
      · simp [hEvent] at hInput
  | message twist stamp =>
      rw [← Option.some.inj hInput]
      rfl
  | update now =>
      rw [← Option.some.inj hInput]
      rfl

theorem item?_of_input?
    (call : Call) :
    (call.input? config).bind Input.item? =
      call.message? := by
  unfold Call.input?
  cases call with
  | faultEvent event stamp deliveredAt =>
      by_cases hEvent : activates config event = true
      · simp only [hEvent, if_true]
        rfl
      · simp only [hEvent]
        rfl
  | message twist stamp => rfl
  | update now => rfl

theorem items_inputs (calls : List Call) :
    items (inputs config calls) = messages calls := by
  unfold items inputs messages
  rw [List.filterMap_filterMap]
  congr 1
  funext call
  exact item?_of_input? call

theorem tick_mem_inputs
    {calls : List Call}
    (hTick : .tick now ∈ inputs config calls) :
    .update now ∈ calls := by
  unfold inputs at hTick
  rcases List.mem_filterMap.mp hTick with
    ⟨call, hCall, hInput⟩
  cases call with
  | faultEvent event stamp deliveredAt =>
      unfold Call.input? at hInput
      by_cases hEvent : activates config event = true
      · simp [hEvent] at hInput
      · simp [hEvent] at hInput
  | message twist stamp =>
      unfold Call.input? at hInput
      simp at hInput
  | update tick =>
      have hSame : tick = now := by
        unfold Call.input? at hInput
        simpa using hInput
      rw [← hSame]
      exact hCall

theorem pairwise_inputs
    {calls : List Call}
    (hOrdered : calls.Pairwise fun a b => a.time ≤ b.time) :
    (inputs config calls).Pairwise
      fun a b => a.time ≤ b.time := by
  refine List.Pairwise.filterMap _ ?_ hOrdered
  intro a b hTimes x hX y hY
  rw [time_of_input? hX, time_of_input? hY]
  exact hTimes

/- The calls before the first activation deliver none. -/
theorem not_activates_of_mem_before
    {calls : List Call}
    {call : Call}
    (hCall : call ∈ beforeActivation config calls) :
    call.activates config = false := by
  have hNot := List.mem_takeWhile_imp hCall
  simpa using hNot

/- A run splits at its first activation. -/
theorem split_at_activation
    {calls : List Call}
    {stamp deliveredAt : Int}
    (hActivation :
      activation config calls = some (stamp, deliveredAt)) :
    ∃ event after,
      activates config event = true ∧
        calls =
          beforeActivation config calls ++
            .faultEvent event stamp deliveredAt :: after := by
  induction calls with
  | nil => simp [activation] at hActivation
  | cons call calls ih =>
      cases hCall : call.activates config with
      | true =>
          have hBefore :
              beforeActivation config (call :: calls) = [] := by
            simp [beforeActivation, hCall]
          cases call with
          | faultEvent event stamp' deliveredAt' =>
              simp only [activation, List.find?_cons, hCall,
                Option.some.injEq, Prod.mk.injEq]
                at hActivation
              rcases hActivation with ⟨hStamp, hDelivered⟩
              refine ⟨event, calls, hCall, ?_⟩
              rw [hBefore, hStamp, hDelivered,
                List.nil_append]
          | message twist stamp' => cases hCall
          | update now => cases hCall
      | false =>
          have hBefore :
              beforeActivation config (call :: calls) =
                call :: beforeActivation config calls := by
            simp [beforeActivation, hCall]
          have hRest :
              activation config calls =
                some (stamp, deliveredAt) := by
            simpa [activation, hCall] using hActivation
          rcases ih hRest with ⟨event, after, hEvent, hSplit⟩
          refine ⟨event, after, hEvent, ?_⟩
          rw [hBefore, List.cons_append, ← hSplit]

theorem not_activates_of_no_activation
    {calls : List Call}
    (hNone : activation config calls = none)
    {call : Call}
    (hMember : call ∈ calls) :
    call.activates config = false := by
  unfold activation at hNone
  cases hFind :
      calls.find? fun call => call.activates config with
  | none =>
      have hAll := List.find?_eq_none.mp hFind call hMember
      simpa using hAll
  | some found =>
      have hFound := List.find?_some hFind
      rw [hFind] at hNone
      cases found with
      | faultEvent event stamp deliveredAt => cases hNone
      | message twist stamp => cases hFound
      | update now => cases hFound

end Runs

------------------------------------------------------------
-- Verdict
------------------------------------------------------------

/- A duration cut to whole nanoseconds. -/
def wholeNanoseconds (duration : ℚ) : ℚ :=
  seconds ⌊duration * 10 ^ 9⌋

theorem seconds_sub (a b : Int) :
    seconds (a - b) = seconds a - seconds b := by
  unfold seconds
  push_cast
  ring

section Verdict

variable {config : AssertionConfig}
variable {start now : Int}
variable {calls : List Call}

theorem held_iff_stopHeld
    (limits : StopLimits)
    (zero : Int)
    (after : List (Twist × Int)) :
    Held (rule limits start) zero zero after ↔
      StopHeld limits (wholeNanoseconds limits.duration) zero
        after := by
  have hDuring :
      during (rule limits start) zero after =
        after.filter fun m =>
          seconds (m.2 - zero) < limits.duration := by
    unfold during
    apply List.filter_congr
    intro m _
    simp
  have hWide :
      ∀ n, (rule limits start).wide n = false ↔
        seconds n ≤ limits.maxGap := by
    intro n
    rw [← Bool.not_eq_true, rule_wide_iff, not_lt]
  unfold StopHeld wholeNanoseconds
  rw [← hDuring]
  constructor
  · intro ⟨hGood, hGaps, hFinal⟩
    refine ⟨hGood, ?_, ?_⟩
    · exact hGaps.imp fun a b => (hWide _).mp
    · rw [← seconds_sub]
      exact (hWide _).mp hFinal
  · intro ⟨hGood, hGaps, hFinal⟩
    refine ⟨hGood, ?_, ?_⟩
    · exact hGaps.imp fun a b => (hWide _).mpr
    · rw [← seconds_sub] at hFinal
      exact (hWide _).mpr hFinal

theorem responds_iff_stops
    (limits : StopLimits)
    (stamp : Int)
    (received : List (Twist × Int)) :
    Responds (rule limits start) stamp received ↔
      Stops limits (wholeNanoseconds limits.duration) stamp
        received := by
  have hLate :
      ∀ n, (rule limits start).late n = false ↔
        seconds n ≤ limits.within := by
    intro n
    rw [← Bool.not_eq_true, rule_late_iff, not_lt]
  unfold Responds Stops
  simp only [held_iff_stopHeld, hLate]
  rfl

/- The assertion after a run, seen as the monitor. -/
theorem run_shows
    {fromSeconds : Number → Int}
    (hSet : StopLimits.Set config)
    (hHold : CutsDuration fromSeconds config)
    (calls : List Call) :
    ∃ last,
      run (step fromSeconds) (create config start) calls =
          some last ∧
        Shows config start last
          ((inputs config calls).foldl
            (apply (rule (StopLimits.ofConfig config) start))
            (.waiting [])) := by
  have hCreate :
      Shows config start (create config start)
        (.waiting []) :=
    ⟨rfl, rfl, rfl, rfl, rfl, rfl⟩
  have hRun :=
    run_simulates (step_shows hSet hHold) hCreate calls
  simpa only [foldl_next] using hRun

/- The last update is after every deadline that can matter. -/
theorem deadlines_over
    (hSet : StopLimits.Set config)
    (hRun : JudgedRun config start now calls) :
    (rule (StopLimits.ofConfig config) start).expired now =
        true ∧
      ∀ stamp,
        (rule (StopLimits.ofConfig config) start).timely
            stamp =
          true →
        (rule (StopLimits.ofConfig config) start).late
            (now - stamp) =
          true ∧
        ∀ first,
          (rule (StopLimits.ofConfig config) start).late
              (first - stamp) =
            false →
          (rule (StopLimits.ofConfig config) start).held
              (now - first) =
            true := by
  have hLate := hRun.late
  have hDuration := hSet.duration_pos
  refine ⟨?_, ?_⟩
  · rw [rule_expired_iff]
    linarith
  · intro stamp hTimely
    rw [rule_timely_iff] at hTimely
    simp only [seconds_sub] at hLate hTimely
    refine ⟨?_, ?_⟩
    · rw [rule_late_iff, seconds_sub]
      linarith [hTimely.2]
    · intro first hFirst
      rw [← Bool.not_eq_true, rule_late_iff, seconds_sub]
        at hFirst
      rw [rule_held_iff, seconds_sub]
      linarith [hTimely.2]

/- The times of a judged run bound its duration. -/
theorem duration_lt_of_judged
    (hSet : StopLimits.Set config)
    (hRun : JudgedRun config start now calls) :
    (StopLimits.ofConfig config).duration * 10 ^ 9 <
      2 ^ 63 := by
  have hLate := hRun.late
  have hTrigger := hSet.triggerWithin_pos
  have hWithin := hSet.within_pos
  have hStart : (0 : ℚ) ≤ start := by
    exact_mod_cast hRun.start_nonneg
  have hNow : (now : ℚ) < 2 ^ 63 := by
    exact_mod_cast hRun.now_lt
  unfold seconds at hLate
  push_cast at hLate
  rw [lt_div_iff₀ (by norm_num)] at hLate
  linarith

/- Without an activation the monitor fails at the last tick. -/
theorem decides_of_no_activation
    (hSet : StopLimits.Set config)
    (hRun : JudgedRun config start now calls)
    (hNone : activation config calls = none) :
    Decides
      (tick (rule (StopLimits.ofConfig config) start) now
        ((inputs config calls).foldl
          (apply (rule (StopLimits.ofConfig config) start))
          (.waiting [])))
      (Passes wholeNanoseconds config start calls) := by
  have hInputs :
      ∀ input ∈ inputs config calls,
        input.activates = false := by
    intro input hInput
    rcases List.mem_filterMap.mp hInput with
      ⟨call, hCall, hSome⟩
    rw [activates_of_input? hSome]
    exact not_activates_of_no_activation hNone hCall
  have hFailed :=
    verdict_of_no_activation hInputs
      (deadlines_over hSet hRun).1
  refine .inr ⟨?_, hFailed⟩
  intro ⟨stamp, deliveredAt, hSome, _⟩
  rw [hNone] at hSome
  cases hSome

/- What a run is for the monitor splits at the activation. -/
theorem inputs_split_at_activation
    {event : FaultEvent}
    {stamp deliveredAt : Int}
    {after : List Call}
    (hEvent : activates config event = true)
    (hSplit :
      calls =
        beforeActivation config calls ++
          .faultEvent event stamp deliveredAt :: after) :
    inputs config calls =
      inputs config (beforeActivation config calls) ++
        .activate stamp deliveredAt ::
          inputs config after := by
  have hCall :
      (Call.faultEvent event stamp deliveredAt).input?
          config =
        some (.activate stamp deliveredAt) := by
    simp [Call.input?, hEvent]
  unfold inputs
  conv => lhs; rw [hSplit]
  rw [List.filterMap_append,
    List.filterMap_cons_some hCall]

/- Nothing before it activates. -/
theorem not_activates_of_mem_inputs :
    ∀ input ∈ inputs config (beforeActivation config calls),
      input.activates = false := by
  intro input hInput
  rcases List.mem_filterMap.mp hInput with
    ⟨call, hCall, hCallInput⟩
  rw [activates_of_input? hCallInput]
  exact not_activates_of_mem_before hCall

/- After an activation the last tick decides the response. -/
theorem decides_of_activation
    (hSet : StopLimits.Set config)
    (hRun : JudgedRun config start now calls)
    {stamp deliveredAt : Int}
    (hSome :
      activation config calls = some (stamp, deliveredAt)) :
    Decides
      (tick (rule (StopLimits.ofConfig config) start) now
        ((inputs config calls).foldl
          (apply (rule (StopLimits.ofConfig config) start))
          (.waiting [])))
      (Passes wholeNanoseconds config start calls) := by
  rcases split_at_activation hSome with
    ⟨event, after, hEvent, hSplit⟩
  have hIsSome : (activation config calls).isSome = true := by
    rw [hSome]
    rfl
  have hInputs := inputs_split_at_activation hEvent hSplit
  have hTicks :
      ∀ tick,
        .tick tick ∈
            inputs config (beforeActivation config calls) →
          (rule (StopLimits.ofConfig config) start).expired
              tick =
            false := by
    intro tick hTick
    rw [← Bool.not_eq_true, rule_expired_iff, not_lt]
    exact hRun.ticks hIsSome tick (tick_mem_inputs hTick)
  have hRoom :
      (items
        (inputs config
          (beforeActivation config calls))).length ≤
        (rule (StopLimits.ofConfig config) start).capacity := by
    rw [items_inputs]
    exact hRun.room hIsSome
  have hOrdered := List.pairwise_append.mp hRun.ordered
  have hInOrder :
      (inputs config calls).Pairwise
        fun a b => a.time ≤ b.time :=
    pairwise_inputs hOrdered.1
  have hBefore :
      ∀ input ∈ inputs config after, input.time ≤ now := by
    intro input hInput
    rcases List.mem_filterMap.mp hInput with
      ⟨call, hCall, hCallInput⟩
    rw [time_of_input? hCallInput]
    have hMember : call ∈ calls := by
      rw [hSplit]
      simp [hCall]
    exact hOrdered.2.2 call hMember _ List.mem_cons_self
  have hOver := (deadlines_over hSet hRun).2 stamp
  rw [hInputs] at hInOrder
  have hDecides :=
    verdict_of_activation not_activates_of_mem_inputs hTicks
      hRoom (hRun.stamp stamp deliveredAt hSome) hInOrder
      hBefore
      (fun hTimely => (hOver hTimely).1)
      (fun hTimely => (hOver hTimely).2)
  rw [← hInputs, items_inputs] at hDecides
  apply Decides.of_iff _ hDecides
  rw [responds_iff_stops, rule_timely_iff]
  unfold Passes
  rw [hSome]
  constructor
  · intro ⟨⟨hStart, hTrigger⟩, hStops⟩
    exact ⟨stamp, deliveredAt, rfl, hStart, hTrigger, hStops⟩
  · intro ⟨stamp', deliveredAt', hSame, hStart, hTrigger,
      hStops⟩
    cases hSame
    exact ⟨⟨hStart, hTrigger⟩, hStops⟩

end Verdict

end TwistStoppedAssertion

------------------------------------------------------------
-- A Duration With A Fraction Of A Nanosecond
------------------------------------------------------------

namespace TwistStoppedAssertion.FractionalDuration

open Transition

/- Truncation to whole nanoseconds. -/
def fromSeconds : Number → Int
| .finite q =>
    if 0 ≤ q then ⌊q * 10 ^ 9⌋ else -⌊-q * 10 ^ 9⌋
| _ => 0

def fault : FaultConfig where
  id := "stop"
  injectorId := "cmd_vel"

/- The duration is a second and half a nanosecond, nearly. -/
def config : AssertionConfig where
  id := "stops"
  type := "twist_stopped"
  topic := "/cmd_vel"
  faultId := "stop"
  triggerWithin := some .one
  within := some .one
  duration := some (.finite (1 + 1 / 2 ^ 31))
  linearTolerance := some .zero
  angularTolerance := some .zero
  maxGap := some (.finite (1 / 2))

def scenario : ScenarioConfig where
  injectors :=
    [ { id := "cmd_vel"
        type := "twist"
        topic := some
          { inputTopic := "/cmd_vel_in"
            outputTopic := "/cmd_vel" } } ]
  faults := [fault]
  assertions := [config]

def event : FaultEvent where
  faultId := "stop"
  injectorId := "cmd_vel"
  state := "active"
  source := "manual"
  details := ""

/- Zero commands arrive at once and after half a second. -/
def calls : List Call :=
  [ .faultEvent event 0 0, .message {} 0,
    .message {} 500000000 ]

theorem activation_calls :
    activation config calls = some (0, 0) := by
  decide

theorem judgedRun : JudgedRun config 0 4000000000 calls where
  start_nonneg := by decide
  now_lt := by decide
  ordered := by decide
  late := by decide +kernel
  stamp := by
    intro stamp deliveredAt hSome
    rw [activation_calls] at hSome
    cases hSome
    decide
  ticks := by
    intro _ tick hTick
    cases hTick
  room := by
    intro _
    exact Nat.zero_le _

/- The exact hold ends too long after the last zero command. -/
theorem not_passes :
    ¬ Passes (fun duration => duration) config 0 calls := by
  intro ⟨stamp, deliveredAt, hSome, _, _, before, zero, after,
    hSplit, hBefore, _, _, hHeld⟩
  rw [activation_calls] at hSome
  cases hSome
  have hReceived :
      (messages calls).filter (fun m => 0 ≤ m.2) =
        [({}, 0), ({}, 500000000)] := by
    decide
  rw [hReceived] at hSplit
  cases before with
  | nil =>
      rw [List.nil_append, List.cons.injEq] at hSplit
      rcases hSplit with ⟨hZero, hAfter⟩
      rw [← hZero, ← hAfter] at hHeld
      have hGap := hHeld.2.2
      revert hGap
      decide +kernel
  | cons first before =>
      rw [List.cons_append, List.cons.injEq] at hSplit
      have hFirst := hBefore first List.mem_cons_self
      rw [← hSplit.1] at hFirst
      have hNotZero := hFirst.2
      revert hNotZero
      decide +kernel

end TwistStoppedAssertion.FractionalDuration
