import FaultInjection.Assertions.FaultAssertionRunner
import FaultInjection.Core.ControllerState

/-
  The report about a scenario and its text.

  What the report does not compute itself is left open: the
  seed an injector draws when none is configured, and how a
  stamp is printed in seconds.

  Key definitions include:
    * `ScenarioReport`
    * `ReportCreator.finalResult`
    * `ReportCreator.createReport`
    * `ReportCreator.toMarkdown`
    * `ReportCreator.PrintsResult`

  Key theorems include:
    * `ReportCreator.finalResult_eq_passed_iff`
    * `ReportCreator.toMarkdown_prints`
    * `ReportCreator.printsResult_unique`
-/

------------------------------------------------------------
-- Reports
------------------------------------------------------------

structure InjectorReportEntry where
  id : String
  type : String
  seed : Nat
deriving DecidableEq

structure FaultReportEntry where
  id : String
  injectorId : String
  state : String
  details : String
deriving DecidableEq

/- The time of the report is in nanoseconds. -/
structure ScenarioReport where
  scenarioFile : String
  finishedAt : Int
  injectorIds : List String := []
  faultIds : List String := []
  injectors : List InjectorReportEntry := []
  faults : List FaultReportEntry := []
  assertionResults : List AssertionResult := []
  finalResult : String := ""
  faultEvents : List FaultEventRecord := []
deriving DecidableEq

namespace ReportCreator

/- The two flags that the loop over the results sets. -/
def flags
    (seen : Bool × Bool)
    (result : AssertionResult) : Bool × Bool :=
  match result.state with
  | .failed => (true, seen.2)
  | .pending => (seen.1, true)
  | .passed => seen

/- Any failure decides, then anything pending. -/
def finalResult (results : List AssertionResult) : String :=
  let seen := results.foldl flags (false, false)
  if seen.1 then
    "failed"
  else if seen.2 then
    "pending"
  else
    "passed"

/- One fault of an injector and whether it is active. -/
def faultEntry
    (h : HashOrder String)
    (injectorId : String)
    (injector : FaultInjectorBase)
    (faultId : String) : FaultReportEntry where
  id := faultId
  injectorId := injectorId
  state :=
    if faultId ∈ injector.activeFaultIds h then
      "active"
    else
      "inactive"
  details :=
    match injector.getFaultConfig faultId with
    | some fault => describeFault fault
    | none => "config unavailable"

/- The configured seed, or the one that was drawn. -/
def effectiveSeed
    (drawnSeed : String → Nat)
    (injectorId : String)
    (injector : FaultInjectorBase) : Nat :=
  injector.config.seed.getD (drawnSeed injectorId)

/- Add an injector and its faults to the report. -/
def addInjector
    (h : HashOrder String)
    (drawnSeed : String → Nat)
    (report : ScenarioReport)
    (entry : String × FaultInjectorBase) : ScenarioReport :=
  { report with
    injectorIds := report.injectorIds ++ [entry.1]
    injectors :=
      report.injectors ++
        [ { id := entry.1
            type := entry.2.type
            seed := effectiveSeed drawnSeed entry.1 entry.2 } ]
    faultIds := report.faultIds ++ entry.2.faultIds h
    faults :=
      report.faults ++
        (entry.2.faultIds h).map
          (faultEntry h entry.1 entry.2) }

def createReport
    (h : HashOrder String)
    (drawnSeed : String → Nat)
    (now : Int)
    (scenarioFile : String)
    (injectors : UnorderedMap String FaultInjectorBase)
    (assertionResults : List AssertionResult)
    (faultEvents : List FaultEventRecord) : ScenarioReport :=
  let report : ScenarioReport :=
    { scenarioFile := scenarioFile
      finishedAt := now
      assertionResults := assertionResults
      faultEvents := faultEvents }
  { (injectors.enumerate h).foldl (addInjector h drawnSeed)
      report with
    finalResult := finalResult assertionResults }

------------------------------------------------------------
-- Text
------------------------------------------------------------

/- A table, or a line that says that there is nothing. -/
def tableOr
    {α : Type}
    (nothing : String)
    (head : String)
    (row : α → String)
    (items : List α) : String :=
  if items.isEmpty then
    nothing
  else
    head ++ String.join (items.map row)

def injectorRow (entry : InjectorReportEntry) : String :=
  "| `" ++ entry.id ++ "` | `" ++ entry.type ++ "` | `" ++
    toString entry.seed ++ "` |\n"

def faultRow (entry : FaultReportEntry) : String :=
  "| `" ++ entry.id ++ "` | `" ++ entry.injectorId ++
    "` | `" ++ entry.state ++ "` | " ++ entry.details ++ " |\n"

def eventRow
    (stampText : Int → String)
    (event : FaultEventRecord) : String :=
  "| " ++ stampText event.stamp ++ " | `" ++ event.faultId ++
    "` | `" ++ event.injectorId ++ "` | `" ++ event.state ++
      "` | `" ++ event.source ++ "` | " ++ event.details ++
        " |\n"

def assertionRow (result : AssertionResult) : String :=
  "| `" ++ result.id ++ "` | `" ++ result.type ++ "` | `" ++
    assertionStateToString result.state ++ "` | " ++
      result.message ++ " |\n"

/- The report up to the verdict that it prints. -/
def heading (scenarioFile : String) : String :=
  "# Fault Injection Scenario Report\n\n" ++
    "## Summary\n\n" ++
      "- Scenario file: `" ++ scenarioFile ++ "`\n" ++
        "- Final result: `"

/- The report after its verdict. -/
def body
    (stampText : Int → String)
    (report : ScenarioReport) : String :=
  "- Injectors: " ++ toString report.injectorIds.length ++
    "\n" ++
  "- Faults: " ++ toString report.faultIds.length ++ "\n" ++
  "- Assertions: " ++
    toString report.assertionResults.length ++ "\n\n" ++
  "## Injectors\n\n" ++
  tableOr "_No injectors registered._\n"
    ("| Injector ID | Type | Effective Seed |\n" ++
      "| --- | --- | --- |\n")
    injectorRow report.injectors ++ "\n" ++
  "## Faults\n\n" ++
  tableOr "_No faults registered._\n"
    ("| Fault ID | Injector | State | Details |\n" ++
      "| --- | --- | --- | --- |\n")
    faultRow report.faults ++ "\n" ++
  "## Fault Event Timeline\n\n" ++
  tableOr "_No fault events recorded._\n"
    ("| Time (s) | Fault | Injector | State | Source " ++
      "| Details |\n| ---: | --- | --- | --- | --- | --- |\n")
    (eventRow stampText) report.faultEvents ++ "\n" ++
  "## Assertions\n\n" ++
  tableOr "_No assertions configured._\n"
    ("| Assertion ID | Type | State | Message |\n" ++
      "| --- | --- | --- | --- |\n")
    assertionRow report.assertionResults

def toMarkdown
    (stampText : Int → String)
    (report : ScenarioReport) : String :=
  heading report.scenarioFile ++ report.finalResult ++
    "`\n" ++ body stampText report

/- The text of a report prints the verdict in its summary. -/
def PrintsResult
    (markdown : String)
    (scenarioFile : String)
    (verdict : String) : Prop :=
  ∃ rest,
    markdown = heading scenarioFile ++ verdict ++ "`\n" ++ rest

end ReportCreator

------------------------------------------------------------
-- Verdicts
------------------------------------------------------------

namespace ReportCreator

/- The flags tell which states occur among the results. -/
theorem foldl_flags
    (results : List AssertionResult)
    (seen : Bool × Bool) :
    ((results.foldl flags seen).1 = true ↔
        seen.1 = true ∨
          ∃ result ∈ results, result.state = .failed) ∧
      ((results.foldl flags seen).2 = true ↔
        seen.2 = true ∨
          ∃ result ∈ results, result.state = .pending) := by
  induction results generalizing seen with
  | nil => simp
  | cons result results ih =>
      rw [List.foldl_cons]
      rcases ih (flags seen result) with ⟨hFailed, hPending⟩
      rw [hFailed, hPending, flags]
      cases hState : result.state with
      | pending => simp [hState]
      | passed => simp [hState]
      | failed => simp [hState]

theorem finalResult_eq_failed_iff
    (results : List AssertionResult) :
    finalResult results = "failed" ↔
      ∃ result ∈ results, result.state = .failed := by
  have hFlags := (foldl_flags results (false, false)).1
  simp only [Bool.false_eq_true, false_or] at hFlags
  rw [← hFlags, finalResult]
  by_cases hFailed :
      (results.foldl flags (false, false)).1 = true
  · simp [hFailed]
  · simp only [hFailed]
    cases (results.foldl flags (false, false)).2 <;> simp

theorem finalResult_eq_passed_iff
    (results : List AssertionResult) :
    finalResult results = "passed" ↔
      ∀ result ∈ results, result.state = .passed := by
  have hFlags := foldl_flags results (false, false)
  simp only [Bool.false_eq_true, false_or] at hFlags
  have hPassed :
      finalResult results = "passed" ↔
        (results.foldl flags (false, false)).1 = false ∧
          (results.foldl flags (false, false)).2 = false := by
    rw [finalResult]
    cases (results.foldl flags (false, false)).1 <;>
      cases (results.foldl flags (false, false)).2 <;> simp
  rw [hPassed, Bool.eq_false_iff, Bool.eq_false_iff, Ne,
    hFlags.1, Ne, hFlags.2]
  constructor
  · rintro ⟨hFailed, hPending⟩ result hResult
    cases hState : result.state with
    | passed => rfl
    | failed => exact absurd ⟨result, hResult, hState⟩ hFailed
    | pending =>
        exact absurd ⟨result, hResult, hState⟩ hPending
  · intro hAll
    constructor
    · rintro ⟨result, hResult, hState⟩
      rw [hAll result hResult] at hState
      cases hState
    · rintro ⟨result, hResult, hState⟩
      rw [hAll result hResult] at hState
      cases hState

/- A report has no other verdict. -/
theorem finalResult_cases (results : List AssertionResult) :
    finalResult results = "failed" ∨
      finalResult results = "pending" ∨
        finalResult results = "passed" := by
  rw [finalResult]
  cases (results.foldl flags (false, false)).1 <;>
    cases (results.foldl flags (false, false)).2 <;> simp

theorem createReport_finalResult
    (h : HashOrder String)
    (drawnSeed : String → Nat)
    (now : Int)
    (scenarioFile : String)
    (injectors : UnorderedMap String FaultInjectorBase)
    (assertionResults : List AssertionResult)
    (faultEvents : List FaultEventRecord) :
    (createReport h drawnSeed now scenarioFile injectors
        assertionResults faultEvents).finalResult =
      finalResult assertionResults := rfl

/- Adding injectors keeps the file of the report. -/
theorem createReport_scenarioFile
    (h : HashOrder String)
    (drawnSeed : String → Nat)
    (now : Int)
    (scenarioFile : String)
    (injectors : UnorderedMap String FaultInjectorBase)
    (assertionResults : List AssertionResult)
    (faultEvents : List FaultEventRecord) :
    (createReport h drawnSeed now scenarioFile injectors
        assertionResults faultEvents).scenarioFile =
      scenarioFile := by
  unfold createReport
  simp only
  suffices hGeneral :
      ∀ (entries : List (String × FaultInjectorBase))
        (report : ScenarioReport),
        (entries.foldl (addInjector h drawnSeed)
            report).scenarioFile =
          report.scenarioFile by
    rw [hGeneral]
  intro entries
  induction entries with
  | nil => exact fun report => rfl
  | cons entry entries ih =>
      intro report
      rw [List.foldl_cons, ih]
      rfl

theorem toMarkdown_prints
    (stampText : Int → String)
    (report : ScenarioReport) :
    PrintsResult (toMarkdown stampText report)
      report.scenarioFile report.finalResult :=
  ⟨body stampText report, rfl⟩

/- A text prints at most one verdict without a back quote. -/
theorem printsResult_unique
    {markdown scenarioFile first second : String}
    (hFirst : PrintsResult markdown scenarioFile first)
    (hSecond : PrintsResult markdown scenarioFile second)
    (hPlain :
      Char.ofNat 96 ∉ first.toList ∧
        Char.ofNat 96 ∉ second.toList) :
    first = second := by
  rcases hFirst with ⟨rest, hRest⟩
  rcases hSecond with ⟨other, hOther⟩
  have hTexts :
      first.toList ++ Char.ofNat 96 :: ('\n' :: rest.toList) =
        second.toList ++
          Char.ofNat 96 :: ('\n' :: other.toList) := by
    have hSame := congrArg String.toList (hRest.symm.trans hOther)
    simp only [String.toList_append, List.append_assoc] at hSame
    exact List.append_cancel_left hSame
  have hLists : first.toList = second.toList := by
    have hTake :
        ∀ (text : String) (tail : List Char),
          Char.ofNat 96 ∉ text.toList →
            (text.toList ++ Char.ofNat 96 :: tail).takeWhile
                (fun c => c ≠ Char.ofNat 96) =
              text.toList := by
      intro text tail hNone
      rw [List.takeWhile_append_of_pos]
      · simp
      · intro c hC
        rw [decide_eq_true_iff]
        intro hEq
        exact hNone (hEq ▸ hC)
    rw [← hTake first _ hPlain.1, hTexts, hTake second _ hPlain.2]
  exact String.toList_injective hLists

end ReportCreator
