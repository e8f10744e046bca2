import FaultInjection.Config.FileFormats
import FaultInjection.Core.DeliveredEvents
import FaultInjection.Core.Timeouts

/-
  The program that runs one scenario file and what its exit
  status says.

  Unlike a campaign it takes any timeout and writes its
  report without looking at the outcome. An exception that
  leaves the constructor or the loop ends the process.

  Key definitions include:
    * `FaultScenarioRunner.Continues`
    * `FaultScenarioRunner.Spins`
    * `FaultScenarioRunnerNode.World`
    * `FaultScenarioRunnerNode.prepare`
    * `FaultScenarioRunnerNode.main`

  Key theorems include:
    * `FaultScenarioRunner.run_success_iff`
    * `FaultScenarioRunner.passed_run_saw_its_events`
    * `FaultScenarioRunnerNode.scenario_exit_status`
-/

------------------------------------------------------------
-- Successful Runs
------------------------------------------------------------

namespace FaultScenarioRunner

open Transition FaultAssertionRunner MonitoredController

/- A turn after which the loop goes on. -/
def Continues (timeout : Int) (turn : Turn) : Prop :=
  turn.rosOk = true ∧
    ∃ spun,
      turn.spun = .ok spun ∧
        spun.assertionsComplete = false ∧
          turn.elapsed ≤ timeoutNanoseconds timeout

/- All assertions are found to have passed at a turn. -/
def FindsPassed
    (turn : Turn)
    (last : MonitoredController) : Prop :=
  turn.rosOk = true ∧
    turn.spun = .ok last ∧ last.assertionsPassed = true

theorem complete_of_passed
    {results : List AssertionResult}
    (hPassed : resultsPassed results = true) :
    resultsComplete results = true := by
  rw [resultsPassed_iff] at hPassed
  rw [resultsComplete_iff]
  intro result hResult hPending
  rw [hPassed result hResult] at hPending
  cases hPending

/- What a run returns that finds all assertions passed. -/
def passedResult
    (context : ReportContext)
    (last : MonitoredController) : ScenarioRunnerResult where
  success := true
  message := "Scenario passed"
  finalResult := (last.createReport context).finalResult
  reportMarkdown := last.createReportMarkdown context

theorem run_continues
    {context : ReportContext}
    {timeout : Int}
    {turn : Turn}
    {spun : MonitoredController}
    (hUp : turn.rosOk = true)
    (hSpun : turn.spun = .ok spun)
    (hPending : spun.assertionsComplete = false)
    (hEarly : turn.elapsed ≤ timeoutNanoseconds timeout)
    (s : MonitoredController)
    (turns : List Turn) :
    run context timeout s (turn :: turns) =
      run context timeout spun turns := by
  rw [run, if_neg (by simp [hUp]), hSpun]
  simp only [hPending, Bool.false_eq_true, if_false,
    not_lt.mpr hEarly]

theorem run_findsPassed
    {context : ReportContext}
    {timeout : Int}
    {turn : Turn}
    {last : MonitoredController}
    (hFinds : FindsPassed turn last)
    (s : MonitoredController)
    (turns : List Turn) :
    run context timeout s (turn :: turns) =
      some (.ok (passedResult context last)) := by
  rcases hFinds with ⟨hUp, hSpun, hPassed⟩
  have hComplete : last.assertionsComplete = true :=
    complete_of_passed hPassed
  rw [run, if_neg (by simp [hUp]), hSpun]
  simp only [hComplete, hPassed, if_true]
  exact rfl

/-
  A run succeeds exactly if all assertions have passed at a
  turn before which the loop went on.
-/
theorem run_success_iff
    {context : ReportContext}
    {timeout : Int}
    {s : MonitoredController}
    {turns : List Turn}
    {result : ScenarioRunnerResult} :
    (run context timeout s turns = some (.ok result) ∧
        result.success = true) ↔
      ∃ before turn after last,
        turns = before ++ turn :: after ∧
          (∀ earlier ∈ before, Continues timeout earlier) ∧
            FindsPassed turn last ∧
              result = passedResult context last := by
  constructor
  · rintro ⟨hRun, hSuccess⟩
    induction turns generalizing s with
    | nil => cases hRun
    | cons turn turns ih =>
        by_cases hDown : turn.rosOk = false
        · rw [run, if_pos hDown, Option.some.injEq,
            Except.ok.injEq] at hRun
          rw [← hRun] at hSuccess
          cases hSuccess
        · rw [Bool.not_eq_false] at hDown
          cases hSpun : turn.spun with
          | error what => simp [run, hDown, hSpun] at hRun
          | ok spun =>
              by_cases hComplete :
                  spun.assertionsComplete = true
              · simp only [run, hDown, Bool.true_eq_false,
                  if_false, hSpun, hComplete, if_true,
                  Option.some.injEq, Except.ok.injEq] at hRun
                have hPassed : spun.assertionsPassed = true := by
                  rw [← hRun] at hSuccess
                  exact hSuccess
                refine ⟨[], turn, turns, spun, rfl, ?_,
                  ⟨hDown, hSpun, hPassed⟩, ?_⟩
                · simp
                · rw [← hRun]
                  simp [passedResult, hPassed]
              · rw [Bool.not_eq_true] at hComplete
                by_cases hLate :
                    timeoutNanoseconds timeout < turn.elapsed
                · simp only [run, hDown, Bool.true_eq_false,
                    if_false, hSpun, hComplete, hLate,
                    if_true, Bool.false_eq_true,
                    Option.some.injEq, Except.ok.injEq] at hRun
                  rw [← hRun] at hSuccess
                  cases hSuccess
                · rw [not_lt] at hLate
                  rw [run_continues hDown hSpun hComplete
                    hLate] at hRun
                  rcases ih hRun with
                    ⟨before, found, after, last, rfl, hBefore,
                      hFinds⟩
                  refine ⟨turn :: before, found, after, last,
                    rfl, ?_, hFinds⟩
                  rw [List.forall_mem_cons]
                  exact
                    ⟨⟨hDown, spun, hSpun, hComplete, hLate⟩,
                      hBefore⟩
  · rintro
      ⟨before, turn, after, last, rfl, hBefore, hFinds, rfl⟩
    refine ⟨?_, rfl⟩
    induction before generalizing s with
    | nil => exact run_findsPassed hFinds s after
    | cons earlier before ih =>
        rw [List.forall_mem_cons] at hBefore
        rcases hBefore.1 with
          ⟨hUp, spun, hSpun, hPending, hEarly⟩
        rw [List.cons_append,
          run_continues hUp hSpun hPending hEarly]
        exact ih hBefore.2

/- Each turn leaves what happens on the node while it spins. -/
def Spins
    (fromSeconds : Number → Int)
    (h : HashOrder String) :
    MonitoredController → List Turn → Prop
| _, [] => True
| s, turn :: turns =>
    ∀ spun,
      turn.spun = .ok spun →
        (∃ occurrences,
          Transition.run (occur fromSeconds h) s occurrences =
            some spun) ∧
          Spins fromSeconds h spun turns

/- What the loop finds was reached by what happened. -/
theorem reached_of_spins
    {fromSeconds : Number → Int}
    {h : HashOrder String}
    {timeout : Int}
    {s : MonitoredController}
    {before after : List Turn}
    {turn : Turn}
    {last : MonitoredController}
    (hSpins : Spins fromSeconds h s (before ++ turn :: after))
    (hBefore : ∀ earlier ∈ before, Continues timeout earlier)
    (hSpun : turn.spun = .ok last) :
    ∃ occurrences,
      Transition.run (occur fromSeconds h) s occurrences =
        some last := by
  induction before generalizing s with
  | nil => exact (hSpins last hSpun).1
  | cons earlier before ih =>
      rw [List.forall_mem_cons] at hBefore
      rcases hBefore.1 with ⟨_, spun, hEarlier, _, _⟩
      rcases hSpins spun hEarlier with
        ⟨⟨first, hFirst⟩, hRest⟩
      rcases ih hRest hBefore.2 with ⟨second, hSecond⟩
      exact
        ⟨first ++ second,
          run_append_iff.mpr ⟨spun, hFirst, hSecond⟩⟩

------------------------------------------------------------
-- What A Passed Run Has Seen
------------------------------------------------------------

theorem judge_eq_passed
    {config : AssertionConfig}
    {input : Heard}
    (hJudge : judge config input = some .passed) :
    ∃ event,
      input = .event event ∧
        event.faultId = config.faultId ∧
          event.state = config.state := by
  cases input with
  | event event =>
      rw [judge, Option.ite_none_right_eq_some] at hJudge
      exact ⟨event, rfl, hJudge.1⟩
  | tick elapsedSeconds =>
      rw [judge, Option.ite_none_right_eq_some] at hJudge
      cases hJudge.2

theorem judge_tick_eq_none
    {config : AssertionConfig}
    {elapsedSeconds within : Number}
    (hJudge : judge config (.tick elapsedSeconds) = none)
    (hWithin : config.within = some within) :
    elapsedSeconds.le within = true := by
  rw [judge, hWithin] at hJudge
  by_contra hLate
  simp [hLate] at hJudge

/-
  The event that an assertion waits for was recorded, and it
  was delivered before any tick after the deadline.
-/
def Saw
    (config : AssertionConfig)
    (told : List Heard)
    (recorded : List FaultEvent) : Prop :=
  ∃ earlier event later,
    told = earlier ++ .event event :: later ∧
      event ∈ recorded ∧
        event.faultId = config.faultId ∧
          event.state = config.state ∧
            ∀ elapsedSeconds within,
              .tick elapsedSeconds ∈ earlier →
                config.within = some within →
                  elapsedSeconds.le within = true

theorem saw_of_passed
    {fromSeconds : Number → Int}
    {h : HashOrder String}
    {factory : InjectorConfig → Bool}
    {scenario : ScenarioConfig}
    {s t : MonitoredController}
    {occurrences : List Occurrence}
    (hStarted :
      MonitoredController.Started h factory scenario s)
    (hRun :
      Transition.run (occur fromSeconds h) s occurrences =
        some t)
    (hPassed : t.assertionsPassed = true)
    {config : AssertionConfig}
    (hConfig : config ∈ scenario.assertions)
    (hType : config.type = "fault_event") :
    Saw config
      (outputs (occur fromSeconds h) heard s occurrences)
      t.controller.recordedEvents := by
  have hListed :
      (config,
          (outputs (occur fromSeconds h) heard s
            occurrences).findSome? (judge config)) ∈
        t.runner.faultEventAssertions.map standing := by
    rw [standings_of_started_run hStarted hRun]
    refine List.mem_map.mpr ⟨config, ?_, rfl⟩
    exact List.mem_filter.mpr ⟨hConfig, by simp [hType]⟩
  rcases List.mem_map.mp hListed with
    ⟨assertion, hAssertion, hStanding⟩
  have hState : assertion.result.state = .passed := by
    apply (resultsPassed_iff _).mp hPassed
    unfold assertionResults results
    exact
      List.mem_append_left _ (List.mem_map_of_mem hAssertion)
  have hFirst :
      (outputs (occur fromSeconds h) heard s
          occurrences).findSome? (judge config) =
        some .passed := by
    have hVerdict := congrArg Prod.snd hStanding
    exact hVerdict.symm.trans (by simp [standing, hState])
  rcases List.findSome?_eq_some_iff.mp hFirst with
    ⟨earlier, input, later, hTold, hDecides, hEarlier⟩
  rcases judge_eq_passed hDecides with
    ⟨event, rfl, hFault, hEventState⟩
  refine ⟨earlier, event, later, hTold, ?_, hFault,
    hEventState, ?_⟩
  · apply (heard_recorded hStarted hRun).1.subset
    refine List.mem_append_left _ ?_
    rw [hTold]
    exact List.mem_filterMap.mpr ⟨.event event, by simp, rfl⟩
  · intro elapsedSeconds within hTick hWithin
    exact judge_tick_eq_none (hEarlier _ hTick) hWithin

end FaultScenarioRunner

------------------------------------------------------------
-- A Run That Passes
------------------------------------------------------------

namespace FaultScenarioRunner.SeenActivation

open FaultAssertionRunner MonitoredController
open MonitoredController.SeenActivation

/- What the loop finds when it delivered the startup event. -/
def spun : MonitoredController :=
  (Transition.run (occur (fun _ => 0) .insertion) started
    [.eventDelivery fun _ => 0]).getD started

def turns : List Turn :=
  [{ rosOk := true, spun := .ok spun, elapsed := 20000000 }]

theorem spins_turns :
    Spins (fun _ => 0) .insertion started turns := by
  have hReturns :
      (Transition.run (occur (fun _ => 0) .insertion) started
        [.eventDelivery fun _ => 0]).isSome = true := by
    decide +kernel
  rcases Option.isSome_iff_exists.mp hReturns with ⟨t, hRun⟩
  intro found hFound
  cases hFound
  refine ⟨⟨[.eventDelivery fun _ => 0], ?_⟩, True.intro⟩
  rw [spun, hRun]
  exact rfl

theorem finds_passed :
    FindsPassed
      { rosOk := true, spun := .ok spun, elapsed := 20000000 }
      spun :=
  ⟨rfl, rfl, by decide +kernel⟩

end FaultScenarioRunner.SeenActivation

------------------------------------------------------------
-- The Program
------------------------------------------------------------

namespace FaultScenarioRunnerNode

/- The ROS parameters of the node. -/
structure Parameters where
  scenarioFile : String := ""
  timeout : Number := .finite 30
  reportFile : String := ""

/-
  What the program finds: the YAML library, how it converts
  seconds, the plugins, the clocks when the controller is
  constructed and the turns of the loop. A count of
  milliseconds that is no 64-bit number is left open.
-/
structure World (Node : Type) where
  yaml : YamlCpp Node
  milliseconds : Number → Int
  order : HashOrder String
  factory : InjectorConfig → Bool
  steadyNow : Int
  rosNow : Int
  drawnSeed : String → Nat
  stampText : Int → String
  turns : MonitoredController → List FaultScenarioRunner.Turn

/-
  How the program ends: with an exit status and the report it
  hands to a file, by an exception that nothing catches, or
  not within the turns that are listed.
-/
inductive Ending where
| exited : Nat → Option (String × String) → Ending
| aborted : Ending
| running : Ending

section Program

variable {Node : Type}
variable (world : World Node)
variable (parameters : Parameters)

/- The scenario to run or the errors that are logged. -/
def prepare : Except (List String) ScenarioConfig :=
  if parameters.scenarioFile = "" then
    .error ["Missing required parameter: scenario_file"]
  else
    match
      loadScenarioConfig world.yaml world.milliseconds
        parameters.scenarioFile
    with
    | .error what =>
        .error
          [ "Failed to load scenario config '" ++
              parameters.scenarioFile ++ "': " ++ what ]
    | .ok scenario =>
        let validation := validateScenario world.order scenario
        if validation.ok then
          .ok scenario
        else
          .error
            (validation.errors.map fun error =>
              "Scenario config error: " ++ error)

def context : ReportContext where
  order := world.order
  scenarioFile := parameters.scenarioFile
  drawnSeed := world.drawnSeed
  stampText := world.stampText

/- The assertion runner is started by the constructor. -/
def construct
    (scenario : ScenarioConfig) : Outcome FaultController :=
  FaultController.construct world.order world.factory
    { steadyNow := world.steadyNow, rosNow := world.rosNow } 0
    scenario

def monitor
    (scenario : ScenarioConfig)
    (c : FaultController) : MonitoredController where
  controller := c
  runner :=
    FaultAssertionRunner.start world.rosNow
      scenario.assertions {}

/- What the program returns for the result of its run. -/
def finish (result : ScenarioRunnerResult) : Ending :=
  .exited (if result.success then 0 else 1)
    (if parameters.reportFile = "" then
      none
    else
      some (parameters.reportFile, result.reportMarkdown))

def main : Ending :=
  match prepare world parameters with
  | .error _ => .exited 1 none
  | .ok scenario =>
      match construct world scenario with
      | .threw _ => .aborted
      | .done c =>
          let s := monitor world scenario c
          match
            FaultScenarioRunner.run (context world parameters)
              (world.milliseconds parameters.timeout) s
              (world.turns s)
          with
          | none => .running
          | some (.error _) => .aborted
          | some (.ok result) => finish parameters result

end Program

------------------------------------------------------------
-- The Exit Status
------------------------------------------------------------

section ExitStatus

open FaultScenarioRunner

variable {Node : Type}
variable {world : World Node}
variable {parameters : Parameters}

theorem prepare_eq_ok_iff
    {scenario : ScenarioConfig} :
    prepare world parameters = .ok scenario ↔
      parameters.scenarioFile ≠ "" ∧
        loadScenarioConfig world.yaml world.milliseconds
              parameters.scenarioFile =
            .ok scenario ∧
          (validateScenario world.order scenario).ok = true := by
  unfold prepare
  by_cases hFile : parameters.scenarioFile = ""
  · simp [hFile]
  · rw [if_neg hFile]
    cases hLoad :
        loadScenarioConfig world.yaml world.milliseconds
          parameters.scenarioFile with
    | error what => simp
    | ok loaded =>
        simp only [Except.ok.injEq]
        constructor
        · intro hValid
          split at hValid
          · rename_i hOk
            cases hValid
            exact ⟨hFile, rfl, hOk⟩
          · cases hValid
        · rintro ⟨_, rfl, hOk⟩
          rw [if_pos hOk]

theorem finish_eq_exited_zero
    {result : ScenarioRunnerResult}
    {report : Option (String × String)}
    (hFinish : finish parameters result = .exited 0 report) :
    result.success = true ∧
      report =
        if parameters.reportFile = "" then
          none
        else
          some (parameters.reportFile, result.reportMarkdown) := by
  unfold finish at hFinish
  rw [Ending.exited.injEq] at hFinish
  refine ⟨?_, hFinish.2.symm⟩
  by_contra hFailed
  simp [hFailed] at hFinish

/-
  The program exits with status 0 exactly if a scenario file
  is named, loads and is valid, its controller can be
  constructed, and the loop goes on until it finds all
  assertions passed. It then hands over the report of the
  state in which it found them.
-/
theorem scenario_exit_status
    (report : Option (String × String)) :
    main world parameters = .exited 0 report ↔
      ∃ scenario c before turn after last,
        (parameters.scenarioFile ≠ "" ∧
            loadScenarioConfig world.yaml world.milliseconds
                  parameters.scenarioFile =
                .ok scenario ∧
              (validateScenario world.order scenario).ok =
                true) ∧
          construct world scenario = .done c ∧
            world.turns (monitor world scenario c) =
                before ++ turn :: after ∧
              (∀ earlier ∈ before,
                Continues
                  (world.milliseconds parameters.timeout)
                  earlier) ∧
                FindsPassed turn last ∧
                  report =
                    if parameters.reportFile = "" then
                      none
                    else
                      some
                        (parameters.reportFile,
                          last.createReportMarkdown
                            (context world parameters)) := by
  simp only [← prepare_eq_ok_iff]
  unfold main
  cases hPrepare : prepare world parameters with
  | error errors => simp
  | ok scenario =>
      simp only [Except.ok.injEq, exists_and_left,
        exists_eq_left']
      cases hConstruct : construct world scenario with
      | threw c => simp
      | done c =>
          simp only [Outcome.done.injEq, exists_eq_left']
          constructor
          · intro hExit
            split at hExit
            · cases hExit
            · cases hExit
            · rename_i result hRun
              rcases finish_eq_exited_zero hExit with
                ⟨hSuccess, hReport⟩
              rcases run_success_iff.mp ⟨hRun, hSuccess⟩ with
                ⟨before, turn, after, last, hTurns, hBefore,
                  hFinds, rfl⟩
              exact
                ⟨before, turn, after, hTurns, hBefore, last,
                  hFinds, hReport⟩
          · rintro
              ⟨before, turn, after, hTurns, hBefore, last,
                hFinds, rfl⟩
            have hRun :
                run (context world parameters)
                      (world.milliseconds parameters.timeout)
                      (monitor world scenario c)
                      (world.turns
                        (monitor world scenario c)) =
                    some
                      (.ok
                        (passedResult
                          (context world parameters) last)) ∧
                  (passedResult (context world parameters)
                      last).success =
                    true :=
              run_success_iff.mpr
                ⟨before, turn, after, last, hTurns, hBefore,
                  hFinds, rfl⟩
            rw [hRun.1]
            exact rfl

end ExitStatus

end FaultScenarioRunnerNode
