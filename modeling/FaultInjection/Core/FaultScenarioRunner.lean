import FaultInjection.Foundations.Ticks
import FaultInjection.Core.AssertionReferences
import FaultInjection.Core.CampaignRunner
import FaultInjection.Core.ReportCreator

/-
  The runner of one scenario and the verdicts about it.

  The loop reads whether ROS is up, spins the node once and
  reads the steady clock. What each turn finds is left open,
  and a callback that throws leaves the loop.

  Key definitions include:
    * `MonitoredController.assertionsComplete`
    * `MonitoredController.createReportMarkdown`
    * `FaultScenarioRunner.Turn`
    * `FaultScenarioRunner.timeoutNanoseconds`
    * `FaultScenarioRunner.run`
    * `FaultScenarioRunner.Ends`

  Key theorems include:
    * `FaultScenarioRunner.results_verdicts_agree`
    * `FaultScenarioRunner.ends_of_run`
    * `FaultScenarioRunner.exists_run_of_exit`
    * `FaultScenarioRunner.verdicts_agree`
-/

------------------------------------------------------------
-- What The Controller Answers
------------------------------------------------------------

/- No result is pending. -/
def resultsComplete (results : List AssertionResult) : Bool :=
  !results.any fun result => result.state = .pending

def resultsPassed (results : List AssertionResult) : Bool :=
  results.all fun result => result.state = .passed

/- What stays the same in all reports of a controller. -/
structure ReportContext where
  order : HashOrder String
  scenarioFile : String
  drawnSeed : String → Nat
  stampText : Int → String

namespace MonitoredController

def assertionResults
    (s : MonitoredController) : List AssertionResult :=
  s.runner.results

def assertionsComplete (s : MonitoredController) : Bool :=
  resultsComplete s.assertionResults

def assertionsPassed (s : MonitoredController) : Bool :=
  resultsPassed s.assertionResults

def createReport
    (context : ReportContext)
    (s : MonitoredController) : ScenarioReport :=
  ReportCreator.createReport context.order context.drawnSeed
    s.controller.node.rosNow context.scenarioFile
    s.controller.injectors s.assertionResults
    s.controller.recorder.events

def createReportMarkdown
    (context : ReportContext)
    (s : MonitoredController) : String :=
  ReportCreator.toMarkdown context.stampText
    (s.createReport context)

theorem createReport_finalResult
    (context : ReportContext)
    (s : MonitoredController) :
    (s.createReport context).finalResult =
      ReportCreator.finalResult s.assertionResults := rfl

/- The text that a controller creates prints its verdict. -/
theorem createReportMarkdown_prints
    (context : ReportContext)
    (s : MonitoredController) :
    ReportCreator.PrintsResult (s.createReportMarkdown context)
      context.scenarioFile
      (ReportCreator.finalResult s.assertionResults) := by
  have hPrints :=
    ReportCreator.toMarkdown_prints context.stampText
      (s.createReport context)
  rw [createReport, ReportCreator.createReport_scenarioFile]
    at hPrints
  exact hPrints

end MonitoredController

------------------------------------------------------------
-- The Loop
------------------------------------------------------------

namespace FaultScenarioRunner

/-
  What one turn of the loop finds: whether ROS is up, the
  controller after spinning or the exception that left a
  callback, and the nanoseconds since the start.
-/
structure Turn where
  rosOk : Bool
  spun : Except String MonitoredController
  elapsed : Int

/-
  The timeout in the unit of the clock. The comparison of
  milliseconds with nanoseconds converts them.
-/
def timeoutNanoseconds (timeout : Int) : Int :=
  Ticks.wrap (timeout * 1000000)

/-
  Run until the assertions are complete, the time is up, ROS
  is shut down or an exception is thrown. Without a result
  the loop would go on after the listed turns.
-/
def run
    (context : ReportContext)
    (timeout : Int) :
    MonitoredController →
      List Turn →
        Option (Except String ScenarioRunnerResult)
| _, [] => none
| s, turn :: turns =>
    if turn.rosOk = false then
      some
        (.ok
          { success := false
            message := "ROS shutdown before scenario completed"
            finalResult := "interrupted"
            reportMarkdown := s.createReportMarkdown context })
    else
      match turn.spun with
      | .error what => some (.error what)
      | .ok spun =>
          if spun.assertionsComplete then
            let report := spun.createReport context
            let passed := spun.assertionsPassed
            some
              (.ok
                { success := passed
                  message :=
                    if passed then
                      "Scenario passed"
                    else
                      "Scenario failed"
                  finalResult := report.finalResult
                  reportMarkdown :=
                    spun.createReportMarkdown context })
          else if timeoutNanoseconds timeout < turn.elapsed then
            some
              (.ok
                { success := false
                  message := "Scenario timed out"
                  finalResult := "timeout"
                  reportMarkdown :=
                    spun.createReportMarkdown context })
          else
            run context timeout spun turns

/- How a run ends that no exception leaves. -/
inductive Exit where
| completed : Exit
| timedOut : Exit
| interrupted : Exit
deriving DecidableEq

/- A turn with which the loop is left. -/
def Exits (timeout : Int) (turn : Turn) : Prop :=
  turn.rosOk = false ∨
    (∃ what, turn.spun = .error what) ∨
      (∃ spun,
        turn.spun = .ok spun ∧
          spun.assertionsComplete = true) ∨
        timeoutNanoseconds timeout < turn.elapsed

/- The run ends in a state, with the result returned there. -/
structure Ends
    (context : ReportContext)
    (last : MonitoredController)
    (exit : Exit)
    (result : ScenarioRunnerResult) : Prop where
  markdown :
    result.reportMarkdown = last.createReportMarkdown context
  complete : exit = .completed → last.assertionsComplete = true
  pending : exit = .timedOut → last.assertionsComplete = false
  success :
    result.success =
      (decide (exit = .completed) && last.assertionsPassed)
  finalResult :
    result.finalResult =
      match exit with
      | .completed =>
          ReportCreator.finalResult last.assertionResults
      | .timedOut => "timeout"
      | .interrupted => "interrupted"

/- Every result comes from one of the three exits. -/
theorem ends_of_run
    {context : ReportContext}
    {timeout : Int}
    {s : MonitoredController}
    {turns : List Turn}
    {result : ScenarioRunnerResult}
    (hRun : run context timeout s turns = some (.ok result)) :
    ∃ last exit, Ends context last exit result := by
  induction turns generalizing s with
  | nil => cases hRun
  | cons turn turns ih =>
      rw [run] at hRun
      by_cases hDown : turn.rosOk = false
      · rw [if_pos hDown, Option.some.injEq, Except.ok.injEq]
          at hRun
        rw [← hRun]
        refine ⟨s, .interrupted, rfl, ?_, ?_, rfl, rfl⟩
        · intro hExit
          cases hExit
        · intro hExit
          cases hExit
      · rw [if_neg hDown] at hRun
        cases hSpun : turn.spun with
        | error what => simp [hSpun] at hRun
        | ok spun =>
            simp only [hSpun] at hRun
            by_cases hComplete : spun.assertionsComplete = true
            · rw [if_pos hComplete, Option.some.injEq,
                Except.ok.injEq] at hRun
              rw [← hRun]
              refine ⟨spun, .completed, rfl, fun _ => hComplete,
                ?_, rfl, rfl⟩
              intro hExit
              cases hExit
            · rw [if_neg hComplete] at hRun
              by_cases hLate : timeoutNanoseconds timeout < turn.elapsed
              · rw [if_pos hLate, Option.some.injEq,
                  Except.ok.injEq] at hRun
                rw [← hRun]
                refine ⟨spun, .timedOut, rfl, ?_,
                  fun _ => Bool.eq_false_iff.mpr hComplete, rfl,
                  rfl⟩
                intro hExit
                cases hExit
              · rw [if_neg hLate] at hRun
                exact ih hRun

/- The loop is left at a turn with which it can be left. -/
theorem exists_run_of_exit
    {context : ReportContext}
    {timeout : Int}
    {turns : List Turn}
    (hExit : ∃ turn ∈ turns, Exits timeout turn)
    (s : MonitoredController) :
    ∃ outcome, run context timeout s turns = some outcome := by
  induction turns generalizing s with
  | nil =>
      rcases hExit with ⟨turn, hTurn, _⟩
      cases hTurn
  | cons turn turns ih =>
      rw [run]
      by_cases hDown : turn.rosOk = false
      · exact ⟨_, if_pos hDown⟩
      · rw [if_neg hDown]
        cases hSpun : turn.spun with
        | error what => exact ⟨_, rfl⟩
        | ok spun =>
            simp only
            by_cases hComplete : spun.assertionsComplete = true
            · exact ⟨_, if_pos hComplete⟩
            · rw [if_neg hComplete]
              by_cases hLate : timeoutNanoseconds timeout < turn.elapsed
              · exact ⟨_, if_pos hLate⟩
              · rw [if_neg hLate]
                apply ih
                rcases hExit with ⟨other, hOther, hExits⟩
                rcases List.mem_cons.mp hOther with
                  hHead | hTail
                · subst hHead
                  rcases hExits with hOff | ⟨what, hThrown⟩ |
                    ⟨found, hFound, hDone⟩ | hTime
                  · exact absurd hOff hDown
                  · rw [hSpun] at hThrown
                    cases hThrown
                  · rw [hSpun, Except.ok.injEq] at hFound
                    rw [hFound] at hComplete
                    exact absurd hDone hComplete
                  · exact absurd hTime hLate
                · exact ⟨other, hTail, hExits⟩

end FaultScenarioRunner

------------------------------------------------------------
-- Agreement
------------------------------------------------------------

namespace FaultScenarioRunner

open ReportCreator ScenarioMonitor

theorem resultsComplete_iff (results : List AssertionResult) :
    resultsComplete results = true ↔
      ∀ result ∈ results, result.state ≠ .pending := by
  simp [resultsComplete]

theorem resultsPassed_iff (results : List AssertionResult) :
    resultsPassed results = true ↔
      ∀ result ∈ results, result.state = .passed := by
  simp [resultsPassed]

theorem countOf_eq_zero_iff
    (state : AssertionState)
    (results : List AssertionResult) :
    countOf state results = 0 ↔
      ∀ result ∈ results, result.state ≠ state := by
  simp [countOf]

/- The state that counts stand for. -/
theorem scenarioStateFromCounts_iff
    (pendingCount failedCount : Nat) :
    (scenarioStateFromCounts pendingCount failedCount =
          "failed" ↔
        failedCount ≠ 0) ∧
      (scenarioStateFromCounts pendingCount failedCount =
          "passed" ↔
        failedCount = 0 ∧ pendingCount = 0) := by
  unfold scenarioStateFromCounts
  by_cases hFailed : failedCount = 0
  · by_cases hPending : pendingCount = 0
    · simp [hFailed, hPending]
    · simp [hFailed, hPending, Nat.pos_iff_ne_zero]
  · simp [hFailed, Nat.pos_iff_ne_zero]

/- The monitor says what the states of the results say. -/
theorem status_state_iff
    (results : List AssertionResult)
    (stamp : Int) :
    ((status results stamp).state = "failed" ↔
        ∃ result ∈ results, result.state = .failed) ∧
      ((status results stamp).state = "passed" ↔
        ∀ result ∈ results, result.state = .passed) := by
  have hState :=
    scenarioStateFromCounts_iff (countOf .pending results)
      (countOf .failed results)
  rw [status_state, hState.1, hState.2, Ne,
    countOf_eq_zero_iff, countOf_eq_zero_iff]
  refine ⟨by simp, ?_⟩
  constructor
  · rintro ⟨hFailed, hPending⟩ result hResult
    cases hHere : result.state with
    | passed => rfl
    | failed => exact absurd hHere (hFailed result hResult)
    | pending => exact absurd hHere (hPending result hResult)
  · intro hAll
    constructor
    · intro result hResult hHere
      rw [hAll result hResult] at hHere
      cases hHere
    · intro result hResult hHere
      rw [hAll result hResult] at hHere
      cases hHere

/- All folds over the results come to the same verdict. -/
theorem results_verdicts_agree
    (results : List AssertionResult)
    (stamp : Int) :
    (finalResult results = "passed" ↔
        (status results stamp).state = "passed") ∧
      (finalResult results = "passed" ↔
        resultsComplete results = true ∧
          resultsPassed results = true) ∧
        (finalResult results = "failed" ↔
          (status results stamp).state = "failed") := by
  rcases status_state_iff results stamp with ⟨hFailed, hPassed⟩
  rw [finalResult_eq_passed_iff, finalResult_eq_failed_iff,
    hFailed, hPassed, resultsComplete_iff, resultsPassed_iff]
  refine ⟨Iff.rfl, ⟨fun hAll => ⟨?_, hAll⟩, fun hBoth => hBoth.2⟩,
    Iff.rfl⟩
  intro result hResult hState
  rw [hAll result hResult] at hState
  cases hState

/- A verdict that is passed needs every result to be passed. -/
theorem finalResult_passed_iff_passed
    (results : List AssertionResult) :
    resultsPassed results = true ↔
      finalResult results = "passed" := by
  rw [resultsPassed_iff, finalResult_eq_passed_iff]

/- A run succeeds exactly if it returns that it passed. -/
theorem Ends.success_iff
    {context : ReportContext}
    {last : MonitoredController}
    {exit : Exit}
    {result : ScenarioRunnerResult}
    (hEnds : Ends context last exit result) :
    result.success = true ↔ result.finalResult = "passed" := by
  have hSuccess := hEnds.success
  have hFinal := hEnds.finalResult
  cases exit with
  | completed =>
      rw [hSuccess, hFinal,
        ← finalResult_passed_iff_passed last.assertionResults]
      simp [MonitoredController.assertionsPassed]
  | timedOut => simp [hSuccess, hFinal]
  | interrupted => simp [hSuccess, hFinal]

/-
  All verdicts about the results agree. A run that completes
  returns the verdict that its text prints; one that does not
  says so instead, while the text prints the verdict about
  the results so far. A run succeeds exactly if it passed.
-/
theorem verdicts_agree
    (context : ReportContext)
    (timeout : Int) :
    (∀ results stamp,
      (finalResult results = "passed" ↔
          (status results stamp).state = "passed") ∧
        (finalResult results = "passed" ↔
          resultsComplete results = true ∧
            resultsPassed results = true) ∧
          (finalResult results = "failed" ↔
            (status results stamp).state = "failed")) ∧
    ∀ s turns result,
      run context timeout s turns = some (.ok result) →
        (result.success = true ↔
            result.finalResult = "passed") ∧
          ∃ last exit,
            Ends context last exit result ∧
              PrintsResult result.reportMarkdown
                context.scenarioFile
                (finalResult last.assertionResults) ∧
                (exit = .completed →
                  PrintsResult result.reportMarkdown
                    context.scenarioFile
                    result.finalResult) := by
  refine ⟨results_verdicts_agree, ?_⟩
  intro s turns result hRun
  rcases ends_of_run hRun with ⟨last, exit, hEnds⟩
  have hPrints :=
    MonitoredController.createReportMarkdown_prints context last
  rw [← hEnds.markdown] at hPrints
  refine ⟨hEnds.success_iff, last, exit, hEnds, hPrints, ?_⟩
  intro hExit
  have hFinal := hEnds.finalResult
  subst hExit
  rw [hFinal]
  exact hPrints

end FaultScenarioRunner

------------------------------------------------------------
-- A Run That Times Out
------------------------------------------------------------

namespace FaultScenarioRunner.TimedOut

open ReportCreator

def context : ReportContext where
  order := .insertion
  scenarioFile := "scenario.yaml"
  drawnSeed := fun _ => 0
  stampText := toString

/-
  The node has one manual fault, and its only assertion waits
  for an activation that nobody asks for.
-/
def waiting : MonitoredController :=
  MonitoredController.Renaming.started

def turns : List Turn :=
  [ { rosOk := true, spun := .ok waiting, elapsed := 0 },
    { rosOk := true, spun := .ok waiting,
      elapsed := 1000000001 } ]

/- What the run returns is not what its text prints. -/
theorem returned_is_not_printed :
    ∃ result,
      run context 1000 waiting turns = some (.ok result) ∧
        ¬ PrintsResult result.reportMarkdown
          context.scenarioFile result.finalResult := by
  refine ⟨_, rfl, ?_⟩
  intro hPrints
  have hVerdict :=
    printsResult_unique hPrints
      (MonitoredController.createReportMarkdown_prints context
        waiting)
      (by decide)
  exact absurd hVerdict (by decide)

end FaultScenarioRunner.TimedOut
