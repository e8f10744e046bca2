import FaultInjection.Core.FaultScenarioRunner
import FaultInjection.Core.ScheduleLimits

/-
  When a run of a campaign times out.

  The campaign node checks its timeout against the largest
  count of milliseconds. The loop of a run compares
  nanoseconds, of which a 64-bit count holds fewer seconds.

  Key definitions include:
    * `CampaignRunnerNode.acceptTimeout`
    * `CampaignRunnerNode.timeoutMilliseconds`
    * `CampaignRunnerNode.TimesOutOnlyAfter`
    * `CampaignRunnerNode.WholeMilliseconds`

  Key theorems include:
    * `FaultScenarioRunner.elapsed_of_timed_out`
    * `CampaignRunnerNode.timesOutOnlyAfter_iff_elapsed`
    * `CampaignRunnerNode.times_out_only_after_iff`
-/

------------------------------------------------------------
-- The Loop At Its Last Turn
------------------------------------------------------------

namespace FaultScenarioRunner

/-
  The clock does not go back, and what has elapsed is a
  64-bit count.
-/
def SteadyReadings (turns : List Turn) : Prop :=
  (turns.map Turn.elapsed).Pairwise (· ≤ ·) ∧
    ∀ turn ∈ turns,
      0 ≤ turn.elapsed ∧ turn.elapsed < Ticks.limit

/- A run of one turn times out only when the time is up. -/
theorem elapsed_of_single_turn
    {context : ReportContext}
    {timeout : Int}
    {s : MonitoredController}
    {turn : Turn}
    {result : ScenarioRunnerResult}
    (hRun :
      run context timeout s [turn] = some (.ok result))
    (hMessage : result.message = "Scenario timed out") :
    timeoutNanoseconds timeout < turn.elapsed := by
  rw [run] at hRun
  by_cases hDown : turn.rosOk = false
  · rw [if_pos hDown, Option.some.injEq, Except.ok.injEq]
      at hRun
    rw [← hRun] at hMessage
    simp at hMessage
  · rw [if_neg hDown] at hRun
    cases hSpun : turn.spun with
    | error what => simp [hSpun] at hRun
    | ok spun =>
        simp only [hSpun] at hRun
        by_cases hComplete : spun.assertionsComplete = true
        · rw [if_pos hComplete, Option.some.injEq,
            Except.ok.injEq] at hRun
          rw [← hRun] at hMessage
          simp only at hMessage
          split at hMessage
          · simp at hMessage
          · simp at hMessage
        · rw [if_neg hComplete] at hRun
          by_contra hEarly
          rw [if_neg hEarly] at hRun
          cases hRun

/- The turns that the loop survives lead to the last one. -/
theorem exists_run_last
    {context : ReportContext}
    {timeout : Int}
    {s : MonitoredController}
    {before : List Turn}
    {turn : Turn}
    {outcome : Except String ScenarioRunnerResult}
    (hBefore : run context timeout s before = none)
    (hRun :
      run context timeout s (before ++ [turn]) =
        some outcome) :
    ∃ last, run context timeout last [turn] = some outcome := by
  induction before generalizing s with
  | nil => exact ⟨s, hRun⟩
  | cons first before ih =>
      rw [List.cons_append, run] at hRun
      rw [run] at hBefore
      by_cases hDown : first.rosOk = false
      · rw [if_pos hDown] at hBefore
        cases hBefore
      · rw [if_neg hDown] at hBefore hRun
        cases hSpun : first.spun with
        | error what => simp [hSpun] at hBefore
        | ok spun =>
            simp only [hSpun] at hBefore hRun
            by_cases hComplete : spun.assertionsComplete = true
            · rw [if_pos hComplete] at hBefore
              cases hBefore
            · rw [if_neg hComplete] at hBefore hRun
              by_cases hLate :
                  timeoutNanoseconds timeout < first.elapsed
              · rw [if_pos hLate] at hBefore
                cases hBefore
              · rw [if_neg hLate] at hBefore hRun
                exact ih hBefore hRun

/- A run that times out does so when the time is up. -/
theorem elapsed_of_timed_out
    {context : ReportContext}
    {timeout : Int}
    {s : MonitoredController}
    {before : List Turn}
    {turn : Turn}
    {result : ScenarioRunnerResult}
    (hBefore : run context timeout s before = none)
    (hRun :
      run context timeout s (before ++ [turn]) =
        some (.ok result))
    (hMessage : result.message = "Scenario timed out") :
    timeoutNanoseconds timeout < turn.elapsed := by
  rcases exists_run_last hBefore hRun with ⟨last, hLast⟩
  exact elapsed_of_single_turn hLast hMessage

/- A pending assertion waits until the time is up. -/
theorem timed_out_of_elapsed
    (timeout : Int)
    {elapsed : Int}
    (hLate : timeoutNanoseconds timeout < elapsed) :
    ∃ result,
      run TimedOut.context timeout TimedOut.waiting
          [{ rosOk := true
             spun := .ok TimedOut.waiting
             elapsed := elapsed }] =
        some (.ok result) ∧
      result.message = "Scenario timed out" := by
  have hPending :
      TimedOut.waiting.assertionsComplete = false := by
    decide
  refine
    ⟨{ success := false
       message := "Scenario timed out"
       finalResult := "timeout"
       reportMarkdown :=
         TimedOut.waiting.createReportMarkdown
           TimedOut.context }, ?_, rfl⟩
  simp [run, hPending, hLate]

end FaultScenarioRunner

------------------------------------------------------------
-- The Node
------------------------------------------------------------

namespace CampaignRunnerNode

open FaultScenarioRunner

/- An override of zero leaves the timeout of the file. -/
def timeoutSeconds
    (timeoutOverride timeout : Number) : Number :=
  if Number.zero.lt timeoutOverride then
    timeoutOverride
  else
    timeout

/-
  The largest count of a signed 64-bit integer as a double,
  which is the next power of two, divided by a thousand.
-/
def secondsLimit : ℚ :=
  BinaryFormat.double.nearest (9223372036854775808 / 1000)

/-
  The seconds with which the node goes on, none if it reports
  that the timeout must be finite, positive and representable
  in milliseconds.
-/
def acceptTimeout
    (timeoutOverride timeout : Number) : Option ℚ :=
  match timeoutSeconds timeoutOverride timeout with
  | .finite seconds =>
      if seconds ≤ 0 ∨ secondsLimit ≤ seconds ∨
          timeoutOverride.isFinite = false ∨
          timeoutOverride.lt .zero = true then
        none
      else
        some seconds
  | _ => none

/- As for a scenario, a product of doubles is cut off. -/
def timeoutMilliseconds (seconds : ℚ) : Int :=
  wholeMilliseconds seconds

/- The double next to 2.3 is a little less, yet it is kept. -/
example :
    timeoutMilliseconds (2589569785738035 / 2 ^ 50) = 2300 := by
  decide +kernel

/-
  No run of the campaign times out before its timeout is
  over. Without a positive count of milliseconds the campaign
  starts no run.
-/
def TimesOutOnlyAfter (seconds : ℚ) : Prop :=
  ∀ context s before turn result,
    0 < timeoutMilliseconds seconds →
      SteadyReadings (before ++ [turn]) →
        run context (timeoutMilliseconds seconds) s before =
            none →
          run context (timeoutMilliseconds seconds) s
              (before ++ [turn]) =
            some (.ok result) →
            result.message = "Scenario timed out" →
              seconds * 10 ^ 9 < turn.elapsed

/- Less than a nanosecond is lost in the milliseconds. -/
def WholeMilliseconds (seconds : ℚ) : Prop :=
  seconds * 10 ^ 9 <
    (timeoutMilliseconds seconds * 1000000 : Int) + 1

------------------------------------------------------------
-- Accepted Timeouts
------------------------------------------------------------

theorem acceptTimeout_positive
    {timeoutOverride timeout : Number}
    {seconds : ℚ}
    (hAccept :
      acceptTimeout timeoutOverride timeout = some seconds) :
    0 < seconds := by
  unfold acceptTimeout at hAccept
  split at hAccept
  · split at hAccept
    · cases hAccept
    · rename_i hChecks
      cases hAccept
      exact not_le.mp fun hZero => hChecks (.inl hZero)
  · cases hAccept

/- What the runs do, as a statement about the clock. -/
theorem timesOutOnlyAfter_iff_elapsed (seconds : ℚ) :
    TimesOutOnlyAfter seconds ↔
      (0 < timeoutMilliseconds seconds →
        ∀ elapsed : Int,
          0 ≤ elapsed → elapsed < Ticks.limit →
            timeoutNanoseconds (timeoutMilliseconds seconds) <
                elapsed →
              seconds * 10 ^ 9 < elapsed) := by
  constructor
  · intro hOnlyAfter hPositive elapsed hNonneg hFits hLate
    rcases timed_out_of_elapsed _ hLate with
      ⟨result, hRun, hMessage⟩
    refine
      hOnlyAfter TimedOut.context TimedOut.waiting [] _ result
        hPositive ⟨List.pairwise_singleton _ _, ?_⟩ rfl hRun
        hMessage
    intro turn hTurn
    rw [List.nil_append, List.mem_singleton] at hTurn
    rw [hTurn]
    exact ⟨hNonneg, hFits⟩
  · intro hClock context s before turn result hPositive
      hReadings hBefore hRun hMessage
    have hTurn :=
      hReadings.2 turn
        (List.mem_append_right _ List.mem_cons_self)
    exact
      hClock hPositive turn.elapsed hTurn.1 hTurn.2
        (elapsed_of_timed_out hBefore hRun hMessage)

/- A whole millisecond is left of what rounds to one. -/
theorem timeoutMilliseconds_pos_iff (seconds : ℚ) :
    0 < timeoutMilliseconds seconds ↔
      1 - 1 / 2 ^ 54 ≤ seconds * 1000 := by
  have hOne :=
    Ticks.truncate_lt_iff one_pos
      (BinaryFormat.double.nearest (seconds * 1000))
  rw [Int.cast_one, nearest_lt_one_iff] at hOne
  rw [← not_iff_not, not_le, ← hOne]
  unfold timeoutMilliseconds wholeMilliseconds
  omega

/- The count of nanoseconds fits below a number of seconds. -/
theorem nanoseconds_lt_limit_iff (seconds : ℚ) :
    timeoutMilliseconds seconds * 1000000 < Ticks.limit ↔
      seconds * 1000 < productLimit := by
  have hCount :
      timeoutMilliseconds seconds * 1000000 < Ticks.limit ↔
        timeoutMilliseconds seconds < periodLimit := by
    unfold Ticks.limit periodLimit
    omega
  rw [hCount]
  exact wholeMilliseconds_lt_iff seconds

/-
  An accepted timeout is kept exactly if it is rounded to less
  than a millisecond, when there is no run, or if its
  nanoseconds fit into 64 bits and it has whole milliseconds.
-/
theorem times_out_only_after_iff
    {timeoutOverride timeout : Number}
    {seconds : ℚ}
    (hAccept :
      acceptTimeout timeoutOverride timeout = some seconds) :
    TimesOutOnlyAfter seconds ↔
      seconds * 1000 < 1 - 1 / 2 ^ 54 ∨
        (seconds * 1000 < productLimit ∧
          WholeMilliseconds seconds) := by
  have hPositive := acceptTimeout_positive hAccept
  have hNone :
      ¬ 0 < timeoutMilliseconds seconds ↔
        seconds * 1000 < 1 - 1 / 2 ^ 54 := by
    rw [timeoutMilliseconds_pos_iff, not_le]
  rw [timesOutOnlyAfter_iff_elapsed, ← hNone, imp_iff_not_or]
  refine or_congr_right' fun hRuns => ?_
  rw [not_not] at hRuns
  have hAmount :
      Ticks.limit ≤ timeoutMilliseconds seconds * 1000000 →
        (Ticks.limit : ℚ) ≤ seconds * 10 ^ 9 := by
    intro hLarge
    have hProduct : productLimit ≤ seconds * 1000 := by
      rw [← not_lt, ← nanoseconds_lt_limit_iff]
      exact not_lt.mpr hLarge
    have hEnough :
        (Ticks.limit : ℚ) ≤ productLimit * 10 ^ 6 := by
      decide +kernel
    linarith
  rw [← nanoseconds_lt_limit_iff seconds]
  exact
    Ticks.forall_wrap_lt_iff (by omega) (by omega) hAmount

------------------------------------------------------------
-- A Timeout That Does Not Fit
------------------------------------------------------------

namespace LongTimeout

/- The nanoseconds of this timeout wrap to a negative count. -/
theorem long_timeout_is_over_at_once :
    ¬ ∀ (timeoutOverride timeout : Number) (seconds : ℚ),
      acceptTimeout timeoutOverride timeout = some seconds →
        TimesOutOnlyAfter seconds := by
  intro hAll
  have hKept :=
    hAll .zero (.finite 9223372037) 9223372037
      (by decide +kernel)
  rw [timesOutOnlyAfter_iff_elapsed] at hKept
  have hLater :=
    hKept (by decide +kernel) 0 (by decide) (by decide)
      (by decide +kernel)
  exact absurd hLater (by norm_num)

/- The exact condition for half a minute. -/
theorem times_out_only_after_iff_of_half_a_minute :
    TimesOutOnlyAfter 30 ↔
      (30 : ℚ) * 1000 < 1 - 1 / 2 ^ 54 ∨
        ((30 : ℚ) * 1000 < productLimit ∧
          WholeMilliseconds 30) := by
  have hAccept :
      acceptTimeout .zero (.finite 30) = some 30 := by
    decide +kernel
  exact times_out_only_after_iff hAccept

end LongTimeout

end CampaignRunnerNode
