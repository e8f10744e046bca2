import FaultInjection.Assertions.StopVerdict
import FaultInjection.Injectors.TwistFaultInjector

/-
  An assertion about stopped commands that watches an
  injector which forces a stop.

  While the stop is in force all published commands are zero.
  So the verdict depends on when they are received only: the
  first one in time, the later ones without a long gap up to
  the end of the hold.

  Key definitions include:
    * `TwistStoppedAssertion.KeepsComing`

  Key theorems include:
    * `TwistFaultInjector.stopped_outputs`
    * `TwistStoppedAssertion.stops_iff_keepsComing`
    * `TwistStoppedAssertion.forced_stop_verdict`
-/

------------------------------------------------------------
-- Published Commands
------------------------------------------------------------

namespace TwistFaultInjector

open Transition

/-
  What is published while a stop is in force that took hold
  is zero.
-/
theorem stopped_outputs
    {config : InjectorConfig}
    {before during : List Action}
    {s : TwistFaultInjector}
    (hHold :
      Along step StopTakesHold (create config)
        (before ++ during))
    (hBefore : run step (create config) before = some s)
    (hStop :
      Along step (fun u _ => ForcesStop u.base) s during)
    {twist : Twist}
    (hTwist : twist ∈ outputs step publishes s during) :
    twist = {} := by
  have hInit : (create config).QueueStopped := by
    intro _ d hMember
    cases hMember
  have hZero :
      Along step PublishesZero (create config)
        (before ++ during) :=
    along_of_invariant QueueStopped.step
      QueueStopped.publishesZero hInit hHold
  have hDuring :
      Along step PublishesZero s during :=
    (along_append_iff.mp hZero).2 s hBefore
  refine
    forall_mem_outputs (Q := fun twist => twist = {}) ?_
      (along_and hStop hDuring) twist hTwist
  intro u a hBoth
  exact hBoth.2 hBoth.1

end TwistFaultInjector

------------------------------------------------------------
-- Verdict By Times
------------------------------------------------------------

namespace TwistStoppedAssertion

open HoldMonitor Transition

/-
  Messages keep coming: the first one in time, and no gap up
  to the end of the hold is too long.
-/
def KeepsComing
    (limits : StopLimits)
    (hold : ℚ)
    (stamp : Int)
    (times : List Int) : Prop :=
  ∃ first later,
    times = first :: later ∧
      seconds (first - stamp) ≤ limits.within ∧
        let during :=
          later.filter fun time =>
            seconds (time - first) < limits.duration
        (first :: during).IsChain
            (fun a b => seconds (b - a) ≤ limits.maxGap) ∧
          hold - seconds (during.getLastD first - first) ≤
            limits.maxGap

section Times

variable {limits : StopLimits}
variable {hold : ℚ}
variable {stamp : Int}

/- Zero commands hold the stop if their times do. -/
theorem stopHeld_of_zero
    {zero : Int}
    {after : List (Twist × Int)}
    (hZero : ∀ m ∈ after, limits.isZero m.1 = true) :
    StopHeld limits hold zero after ↔
      let during :=
        (after.map Prod.snd).filter fun time =>
          seconds (time - zero) < limits.duration
      (zero :: during).IsChain
          (fun a b => seconds (b - a) ≤ limits.maxGap) ∧
        hold - seconds (during.getLastD zero - zero) ≤
          limits.maxGap := by
  have hDuring :
      (after.map Prod.snd).filter
          (fun time => seconds (time - zero) < limits.duration) =
        (after.filter fun m =>
          seconds (m.2 - zero) < limits.duration).map
            Prod.snd := by
    rw [List.filter_map]
    rfl
  unfold StopHeld
  rw [hDuring]
  constructor
  · exact fun hHeld => hHeld.2
  · intro hTimes
    refine ⟨fun m hMember => ?_, hTimes⟩
    exact hZero m (List.mem_of_mem_filter hMember)

/-
  Moving commands followed by zero ones stop exactly if the
  zero ones keep coming.
-/
theorem stops_iff_keepsComing
    {old new : List (Twist × Int)}
    (hOld :
      ∀ m ∈ old,
        isFinite m.1 = true ∧ limits.isZero m.1 = false)
    (hNew : ∀ m ∈ new, limits.isZero m.1 = true) :
    Stops limits hold stamp (old ++ new) ↔
      KeepsComing limits hold stamp (new.map Prod.snd) := by
  constructor
  · rintro ⟨before, zero, after, hSplit, hBefore, hZero,
      hWithin, hHeld⟩
    have hMoving :
        ∀ moving : List (Twist × Int),
          (∀ m ∈ moving,
            isFinite m.1 = true ∧ limits.isZero m.1 = false) →
          ∀ m ∈ moving, (!limits.isZero m.1) = true := by
      intro moving hAll m hMember
      rw [(hAll m hMember).2]
      rfl
    have hNewSplit : new = zero :: after := by
      have hDrop :
          (old ++ new).dropWhile
              (fun m => !limits.isZero m.1) =
            (before ++ zero :: after).dropWhile
              (fun m => !limits.isZero m.1) := by
        rw [hSplit]
      rw [List.dropWhile_append_of_pos (hMoving old hOld),
        List.dropWhile_append_of_pos
          (hMoving before hBefore),
        List.dropWhile_cons_of_neg (by simp [hZero])]
        at hDrop
      cases hCase : new with
      | nil =>
          rw [hCase] at hDrop
          cases hDrop
      | cons first rest =>
          have hFirst := hNew first (by simp [hCase])
          rw [hCase,
            List.dropWhile_cons_of_neg (by simp [hFirst])]
            at hDrop
          exact hDrop
    have hAfter : ∀ m ∈ after, limits.isZero m.1 = true := by
      intro m hMember
      exact hNew m (by simp [hNewSplit, hMember])
    refine
      ⟨zero.2, after.map Prod.snd, ?_, hWithin,
        (stopHeld_of_zero hAfter).mp hHeld⟩
    rw [hNewSplit, List.map_cons]
  · rintro ⟨first, later, hTimes, hWithin, hComing⟩
    cases hCase : new with
    | nil =>
        rw [hCase] at hTimes
        cases hTimes
    | cons zero after =>
        rw [hCase, List.map_cons] at hTimes
        cases hTimes
        have hAfter :
            ∀ m ∈ after, limits.isZero m.1 = true := by
          intro m hMember
          exact hNew m (by simp [hCase, hMember])
        exact
          ⟨old, zero, after, rfl, hOld,
            hNew zero (by simp [hCase]), hWithin,
            (stopHeld_of_zero hAfter).mpr hComing⟩

end Times

------------------------------------------------------------
-- The Verdict
------------------------------------------------------------

/- An accepted tolerance is not negative. -/
theorem tolerance_nonneg
    {assertion : AssertionConfig}
    {name : String}
    {limit : Option Number}
    (hOk :
      (requireFiniteNonNegative assertion name limit).ok =
        true) :
    0 ≤ StopLimits.value limit := by
  have hValue := StopLimits.value_of_requireFiniteNonNegative hOk
  unfold requireFiniteNonNegative at hOk
  rw [hValue] at hOk
  have hBoth :
      (Number.finite (StopLimits.value limit)).isFinite =
          true ∧
        0 ≤ StopLimits.value limit := by
    simpa [Number.lt, Number.zero] using hOk
  exact hBoth.2

/- So the zero command is zero for an accepted assertion. -/
theorem isZero_zero_of_ok
    {h : HashOrder String}
    {scenario : ScenarioConfig}
    {config : AssertionConfig}
    (hOk : (validateScenario h scenario).ok = true)
    (hMember : config ∈ scenario.assertions)
    (hType : config.type = "twist_stopped") :
    (StopLimits.ofConfig config).isZero {} = true := by
  have hChecks :=
    (ok_checkDistinct_iff _ _ _ _ _).mp
      (ok_validateScenario_iff.mp hOk).2.2
  have hValid := hChecks.1 config hMember
  unfold validateAssertions at hValid
  have hOther :
      ("twist_stopped" : String) ≠ "" ∧
        ("twist_stopped" : String) ≠ "fault_event" ∧
          ("twist_stopped" : String) ≠ "topic_hz" := by
    decide
  rw [hType, if_neg hOther.1, if_neg hOther.2.1,
    if_neg hOther.2.2, if_pos rfl] at hValid
  unfold validateTwistStopped at hValid
  simp only [ValidationResult.ok_append] at hValid
  rcases hValid with
    ⟨_, ⟨⟨⟨_, hLinear⟩, hAngular⟩, _⟩, _⟩
  have hLinear := tolerance_nonneg hLinear
  have hAngular := tolerance_nonneg hAngular
  simp [StopLimits.isZero, withinTolerance, Number.zero,
    Number.abs, Number.le, StopLimits.ofConfig, hLinear,
    hAngular]

section Verdict

variable {fromSeconds : Number → Int}
variable {config : AssertionConfig}
variable {start now : Int}
variable {calls : List Call}

/- The phase after the last tick is the result. -/
theorem givesVerdict_of_decides
    {condition : Prop}
    (hSet : StopLimits.Set config)
    (hHold : CutsDuration fromSeconds config)
    (hDecides :
      Decides
        (tick (rule (StopLimits.ofConfig config) start) now
          ((inputs config calls).foldl
            (apply (rule (StopLimits.ofConfig config) start))
            (.waiting [])))
        condition) :
    GivesVerdict fromSeconds config start now calls
      condition := by
  have hEnd :
      ∃ last,
        run (step fromSeconds) (create config start)
            (calls ++ [.update now]) =
            some last ∧
          Shows config start last
            ((inputs config (calls ++ [.update now])).foldl
              (apply
                (rule (StopLimits.ofConfig config) start))
              (.waiting [])) :=
    run_shows hSet hHold _
  rcases hEnd with ⟨last, hLast, hShows⟩
  have hInputs :
      inputs config (calls ++ [.update now]) =
        inputs config calls ++ [.tick now] := by
    unfold inputs
    rw [List.filterMap_append]
    rfl
  rw [hInputs, List.foldl_append] at hShows
  change
    Shows config start last
      (tick (rule (StopLimits.ofConfig config) start) now
        ((inputs config calls).foldl
          (apply (rule (StopLimits.ofConfig config) start))
          (.waiting []))) at hShows
  refine ⟨last, hLast, ?_⟩
  rcases hDecides with ⟨hPasses, hPassed⟩ | ⟨hFails, hFailed⟩
  · rw [hPassed] at hShows
    simp [hShows.2.2, hPasses]
  · rw [hFailed] at hShows
    simp [hShows.2.2, hFails]

end Verdict

end TwistStoppedAssertion

------------------------------------------------------------
-- Two Stopped Commands
------------------------------------------------------------

namespace TwistStoppedAssertion.StopTest

open FractionalDuration Transition
open TwistFaultInjector.DelayedCommand (stopFault forward)

def before : List TwistFaultInjector.Action :=
  [ .change (.add stopFault), .change (.activate "stop") ]

/- Two commands to go forward, half a second apart. -/
def during : List TwistFaultInjector.Action :=
  [ .arrive .insertion 0 0 forward,
    .arrive .insertion 0 500000000 forward ]

def injector : TwistFaultInjector :=
  (run TwistFaultInjector.step
    (TwistFaultInjector.create
      TwistFaultInjector.DelayedCommand.config)
    before).getD (TwistFaultInjector.create {})

def limits : StopLimits :=
  StopLimits.ofConfig FractionalDuration.config

end TwistStoppedAssertion.StopTest
