import FaultInjection.Core.DeliveredEvents
import FaultInjection.Core.ReportReading
import FaultInjection.Core.StatusServices

/-
  What the report written for a running system says.

  Read back from its text, the report lists each stored fault
  once as it is, its timeline replays to these faults, and it
  has the results that the assertions have.

  Key theorems include:
    * `MonitoredController.mem_report_faults_iff`
    * `MonitoredController.written_report_tells_state`
-/

open MarkdownTables

namespace ReportCreator

/- Listing the injectors leaves the rest of the report. -/
theorem foldl_addInjector_frame
    (h : HashOrder String)
    (drawnSeed : String → Nat)
    (entries : List (String × FaultInjectorBase))
    (report : ScenarioReport) :
    (entries.foldl (addInjector h drawnSeed)
            report).faultEvents =
        report.faultEvents ∧
      (entries.foldl (addInjector h drawnSeed)
            report).assertionResults =
          report.assertionResults := by
  induction entries generalizing report with
  | nil => exact ⟨rfl, rfl⟩
  | cons entry entries ih => exact ih _

theorem unbroken_finalResult
    (results : List AssertionResult) :
    Unbroken (finalResult results) := by
  rcases finalResult_cases results with
    hFailed | hPending | hPassed
  · rw [hFailed]
    decide
  · rw [hPending]
    decide
  · rw [hPassed]
    decide

end ReportCreator

namespace MonitoredController

open FaultController FaultServiceManager ReportCreator
open Transition

section Report

variable {context : ReportContext}
variable {s : MonitoredController}

theorem createReport_faultEvents :
    (s.createReport context).faultEvents =
      s.controller.recorder.events :=
  (foldl_addInjector_frame _ _ _ _).1

theorem createReport_assertionResults :
    (s.createReport context).assertionResults =
      s.runner.results :=
  (foldl_addInjector_frame _ _ _ _).2

/- The report lists what the status service answers. -/
theorem createReport_faults :
    (s.createReport context).faults =
      (handleGetFaultStatus context.order s.controller).map
        FaultStatus.reportEntry := by
  unfold createReport ReportCreator.createReport
    handleGetFaultStatus
  simp only [report_faults_eq, List.nil_append,
    List.map_flatMap, List.map_map]
  rfl

/- The rows about faults are those of the stored faults. -/
theorem mem_report_faults_iff
    {row : FaultReportEntry} :
    row ∈ (s.createReport context).faults ↔
      ∃ key faultId stored,
        s.controller.registry key faultId = some stored ∧
          row =
            (storedStatus key faultId stored).reportEntry := by
  rw [createReport_faults, List.mem_map]
  constructor
  · rintro ⟨status, hStatus, rfl⟩
    rcases mem_statuses_iff.mp hStatus with
      ⟨key, faultId, stored, hStored, rfl⟩
    exact ⟨key, faultId, stored, hStored, rfl⟩
  · rintro ⟨key, faultId, stored, hStored, rfl⟩
    exact
      ⟨_,
        mem_statuses_iff.mpr
          ⟨key, faultId, stored, hStored, rfl⟩,
        rfl⟩

theorem nodup_report_faults :
    ((s.createReport context).faults.map fun row =>
      (row.injectorId, row.id)).Nodup := by
  rw [createReport_faults, List.map_map]
  exact nodup_statuses

end Report

/-
  In every reachable state the written report, read back from
  its text, lists each stored fault once with its flag and
  its parameters; the timeline since the last load replays to
  these faults, and the results are those of the assertions.
-/
theorem written_report_tells_state
    {fromSeconds : Number → Int}
    {h : HashOrder String}
    {factory : InjectorConfig → Bool}
    {scenario : ScenarioConfig}
    {s t : MonitoredController}
    {occurrences : List Occurrence}
    {context : ReportContext}
    (hStarted : Started h factory scenario s)
    (hRun :
      run (occur fromSeconds h) s occurrences = some t)
    (hStamp : PrintsSeconds context.stampText)
    (hFile : Unbroken context.scenarioFile)
    (hTexts :
      ∀ text ∈ (t.createReport context).texts, Fits text) :
    ∃ read,
      readReport (t.createReportMarkdown context) =
          some read ∧
        (∀ row,
          row ∈ read.faults ↔
            ∃ key faultId stored,
              t.controller.registry key faultId =
                  some stored ∧
                row =
                  (storedStatus key faultId
                    stored).reportEntry) ∧
          (read.faults.map fun row =>
              (row.injectorId, row.id)).Nodup ∧
            t.controller.registry =
                ((read.faultEvents.map Prod.snd).drop
                    (eventJournal.lastMark
                      (FaultController.step h) (loads h) 0
                      s.controller
                      (occurrences.filterMap
                        Occurrence.action?))).foldl
                  applyEvent
                  (loadedRegistry t.controller.runs
                    t.controller.scenario) ∧
              read.assertionResults = t.runner.results := by
  have hReads :
      readReport (t.createReportMarkdown context) =
        some
          (contents context.stampText
            (t.createReport context)) := by
    apply readReport_toMarkdown hStamp
    · rw [createReport, createReport_scenarioFile]
      exact hFile
    · exact unbroken_finalResult _
    · exact hTexts
  have hSteps :
      run (FaultController.step h) s.controller
          (occurrences.filterMap Occurrence.action?) =
        some t.controller := by
    refine run_mono ?_ (run_controller hRun)
    intro c a next hNext
    exact (nodeStep_eq_some_iff.mp hNext).2
  have hReplays :=
    (replaysFrom_of_started_run hStarted.controller hSteps).2
  have hEvents :
      (contents context.stampText
            (t.createReport context)).faultEvents.map
          Prod.snd =
        t.controller.recordedEvents := by
    unfold contents recordedEvents
    rw [createReport_faultEvents, List.map_map]
    rfl
  refine
    ⟨_, hReads, fun _ => mem_report_faults_iff,
      nodup_report_faults, ?_, createReport_assertionResults⟩
  rw [hEvents]
  exact hReplays

end MonitoredController

------------------------------------------------------------
-- The Report After A Manual Stop
------------------------------------------------------------

namespace MonitoredController.SeenActivation

open FaultController FaultServiceManager ReportCreator
open Transition

def context : ReportContext where
  order := .insertion
  scenarioFile := "seen.yaml"
  drawnSeed := fun _ => 7
  stampText := fun _ => "0.000"

theorem written_report_tells_seen :
    ∃ t read,
      run (occur (fun _ => 0) .insertion) started
            occurrences =
          some t ∧
        readReport (t.createReportMarkdown context) =
            some read ∧
          (∀ row,
            row ∈ read.faults ↔
              ∃ key faultId stored,
                t.controller.registry key faultId =
                    some stored ∧
                  row =
                    (storedStatus key faultId
                      stored).reportEntry) ∧
            (read.faults.map fun row =>
                (row.injectorId, row.id)).Nodup ∧
              t.controller.registry =
                  ((read.faultEvents.map Prod.snd).drop
                      (eventJournal.lastMark
                        (FaultController.step .insertion)
                        (loads .insertion) 0 started.controller
                        (occurrences.filterMap
                          Occurrence.action?))).foldl
                    applyEvent
                    (loadedRegistry t.controller.runs
                      t.controller.scenario) ∧
                read.assertionResults = t.runner.results := by
  have hReturns :
      (run (occur (fun _ => 0) .insertion) started
          occurrences).map
          (fun t =>
            decide
              (∀ text ∈ (t.createReport context).texts,
                text.toList.countP isBreak = 0 ∧
                  boundaries [] text.toList = 0)) =
        some true := by
    decide +kernel
  rcases Option.map_eq_some_iff.mp hReturns with
    ⟨t, hRun, hTexts⟩
  have hFits :
      ∀ text ∈ (t.createReport context).texts, Fits text :=
    fun text hText =>
      (fits_iff text).mpr
        (of_decide_eq_true hTexts text hText)
  have hFile : Unbroken context.scenarioFile := by
    decide
  rcases
    written_report_tells_state started_started hRun
      ReportTables.printsSeconds_zero hFile hFits with
    ⟨read, hTold⟩
  exact ⟨t, read, hRun, hTold⟩

end MonitoredController.SeenActivation
