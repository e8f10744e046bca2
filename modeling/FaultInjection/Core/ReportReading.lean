import FaultInjection.Core.ReportTables
import FaultInjection.Foundations.NumberText
import FaultInjection.Foundations.TableReading

/-
  The report of a scenario read back.

  If the texts of a report fit its tables, the four tables of
  the text that is written for it give its entries back.

  Key definitions include:
    * `ReportCreator.written`
    * `ReportCreator.readReport`

  Key theorems include:
    * `ReportCreator.toMarkdown_eq_ofLines`
    * `ReportCreator.readReport_toMarkdown`
    * `ReportCreator.report_reads_back`
-/

open MarkdownTables

namespace ReportCreator

------------------------------------------------------------
-- Written Tables
------------------------------------------------------------

def injectorsTable
    (entries : List InjectorReportEntry) : TitledTable where
  title := "## Injectors"
  nothing := "_No injectors registered._"
  names := "| Injector ID | Type | Effective Seed |"
  rule := "| --- | --- | --- |"
  rows := entries.map injectorTable.cells

def faultsTable
    (entries : List FaultReportEntry) : TitledTable where
  title := "## Faults"
  nothing := "_No faults registered._"
  names := "| Fault ID | Injector | State | Details |"
  rule := "| --- | --- | --- | --- |"
  rows := entries.map faultTable.cells

def timelineTable
    (stampText : Int → String)
    (entries : List FaultEventRecord) : TitledTable where
  title := "## Fault Event Timeline"
  nothing := "_No fault events recorded._"
  names :=
    "| Time (s) | Fault | Injector | State | Source | Details |"
  rule := "| ---: | --- | --- | --- | --- | --- |"
  rows := entries.map (eventTable stampText).cells

def assertionsTable
    (entries : List AssertionResult) : TitledTable where
  title := "## Assertions"
  nothing := "_No assertions configured._"
  names := "| Assertion ID | Type | State | Message |"
  rule := "| --- | --- | --- | --- |"
  rows := entries.map assertionTable.cells

/- The lines above the first table. -/
def summary (report : ScenarioReport) : List String :=
  [ "# Fault Injection Scenario Report", "", "## Summary", "",
    "- Scenario file: `" ++ report.scenarioFile ++ "`",
    "- Final result: `" ++ report.finalResult ++ "`",
    "- Injectors: " ++ toString report.injectorIds.length,
    "- Faults: " ++ toString report.faultIds.length,
    "- Assertions: " ++
      toString report.assertionResults.length ]

def reportTables
    (stampText : Int → String)
    (report : ScenarioReport) : List TitledTable :=
  [ injectorsTable report.injectors,
    faultsTable report.faults,
    timelineTable stampText report.faultEvents,
    assertionsTable report.assertionResults ]

/- All lines of the report. -/
def written
    (stampText : Int → String)
    (report : ScenarioReport) : List String :=
  summary report ++
    (reportTables stampText report).flatMap TitledTable.written

/- A table or a sentence is the body below its title. -/
theorem tableOr_eq_ofLines
    {α : Type}
    {format : TableFormat α}
    {entries : List α}
    {nothing : String}
    {t : TitledTable}
    (hRows : t.rows = entries.map format.cells)
    (hNothing : nothing = t.nothing ++ "\n")
    (hHead : format.head = ofLines [t.names, t.rule]) :
    tableOr nothing format.head format.row entries =
      ofLines t.body := by
  unfold TitledTable.body
  rw [hRows]
  cases entries with
  | nil =>
      apply String.toList_injective
      simp [tableOr, ofLines, hNothing]
  | cons entry entries =>
      have hEntries :
          (entry :: entries).map format.row =
            (((entry :: entries).map format.cells).map
              rowLine).map fun line => line ++ "\n" := by
        rw [List.map_map, List.map_map]
        exact List.map_congr_left fun e _ => format.row_eq e
      apply String.toList_injective
      rw [tableOr, if_neg (by simp), if_neg (by simp), hEntries,
        hHead]
      simp [ofLines]

theorem ofLines_written (t : TitledTable) :
    ofLines t.written =
      "\n" ++ (t.title ++ "\n\n") ++ ofLines t.body := by
  apply String.toList_injective
  simp [TitledTable.written, ofLines]

theorem ofLines_summary (report : ScenarioReport) :
    ofLines (summary report) =
      heading report.scenarioFile ++ report.finalResult ++
        "`\n" ++
      ("- Injectors: " ++ toString report.injectorIds.length ++
        "\n") ++
      ("- Faults: " ++ toString report.faultIds.length ++
        "\n") ++
      ("- Assertions: " ++
        toString report.assertionResults.length ++ "\n") := by
  have hTitle :
      "# Fault Injection Scenario Report\n\n" =
        "# Fault Injection Scenario Report" ++ "\n" ++
          ("" ++ "\n") := by
    decide
  have hSummary :
      "## Summary\n\n" =
        "## Summary" ++ "\n" ++ ("" ++ "\n") := by
    decide
  have hFence : "`\n" = "`" ++ "\n" := by
    decide
  delta summary heading ofLines
  rw [hTitle, hSummary, hFence]
  simp only [List.map_cons, List.map_nil, String.join_cons,
    String.join_nil, String.append_assoc,
    String.append_empty]

/- The report is the text with these lines. -/
theorem toMarkdown_eq_ofLines
    (stampText : Int → String)
    (report : ScenarioReport) :
    toMarkdown stampText report =
      ofLines (written stampText report) := by
  have hInjectors :
      tableOr "_No injectors registered._\n"
          injectorTable.head injectorTable.row
          report.injectors =
        ofLines (injectorsTable report.injectors).body :=
    tableOr_eq_ofLines rfl rfl rfl
  have hFaults :
      tableOr "_No faults registered._\n" faultTable.head
          faultTable.row report.faults =
        ofLines (faultsTable report.faults).body :=
    tableOr_eq_ofLines rfl rfl rfl
  have hEvents :
      tableOr "_No fault events recorded._\n"
          (eventTable stampText).head
          (eventTable stampText).row report.faultEvents =
        ofLines
          (timelineTable stampText report.faultEvents).body :=
    tableOr_eq_ofLines rfl rfl rfl
  have hAssertions :
      tableOr "_No assertions configured._\n"
          assertionTable.head assertionTable.row
          report.assertionResults =
        ofLines
          (assertionsTable report.assertionResults).body :=
    tableOr_eq_ofLines rfl rfl rfl
  have hBlank : "\n\n" = "\n" ++ "\n" := by
    decide
  have hFirst :
      "## Injectors\n\n" =
        (injectorsTable report.injectors).title ++ "\n\n" :=
    rfl
  have hSecond :
      "## Faults\n\n" =
        (faultsTable report.faults).title ++ "\n\n" :=
    rfl
  have hThird :
      "## Fault Event Timeline\n\n" =
        (timelineTable stampText report.faultEvents).title ++
          "\n\n" :=
    rfl
  have hFourth :
      "## Assertions\n\n" =
        (assertionsTable report.assertionResults).title ++
          "\n\n" :=
    rfl
  unfold written reportTables
  rw [List.flatMap_cons, List.flatMap_cons, List.flatMap_cons,
    List.flatMap_cons, List.flatMap_nil, List.append_nil,
    ofLines_append, ofLines_append, ofLines_append,
    ofLines_append, ofLines_summary, ofLines_written,
    ofLines_written, ofLines_written, ofLines_written,
    ← hInjectors, ← hFaults, ← hEvents, ← hAssertions]
  delta toMarkdown body
  rw [hFirst, hSecond, hThird, hFourth, hBlank]
  simp only [String.append_assoc]
  rfl

------------------------------------------------------------
-- Reading
------------------------------------------------------------

/- What the tables of a report say. -/
structure Contents where
  injectors : List InjectorReportEntry
  faults : List FaultReportEntry
  faultEvents : List (String × FaultEvent)
  assertionResults : List AssertionResult
deriving DecidableEq

def readSeed (text : String) : Nat :=
  NumberText.digitsValue 10
    (NumberText.takeDigits 10 text.toList).1

def readState (text : String) : AssertionState :=
  if text = "passed" then
    .passed
  else if text = "failed" then
    .failed
  else
    .pending

def readInjector :
    List (List Char) → Option InjectorReportEntry
| [id, type, seed] =>
    some
      { id := readCell 1 id
        type := readCell 1 type
        seed := readSeed (readCell 1 seed) }
| _ => none

def readFault : List (List Char) → Option FaultReportEntry
| [id, injectorId, state, details] =>
    some
      { id := readCell 1 id
        injectorId := readCell 1 injectorId
        state := readCell 1 state
        details := readCell 0 details }
| _ => none

def readEvent :
    List (List Char) → Option (String × FaultEvent)
| [time, faultId, injectorId, state, source, details] =>
    some
      (readCell 0 time,
        { faultId := readCell 1 faultId
          injectorId := readCell 1 injectorId
          state := readCell 1 state
          source := readCell 1 source
          details := readCell 0 details })
| _ => none

def readAssertion : List (List Char) → Option AssertionResult
| [id, type, state, message] =>
    some
      { id := readCell 1 id
        type := readCell 1 type
        state := readState (readCell 1 state)
        message := readCell 0 message }
| _ => none

/- Read the four tables of a report. -/
def readReport (text : String) : Option Contents := do
  let read := lines text.toList
  let injectors ←
    (readTable "## Injectors" read).mapM readInjector
  let faults ← (readTable "## Faults" read).mapM readFault
  let faultEvents ←
    (readTable "## Fault Event Timeline" read).mapM readEvent
  let assertionResults ←
    (readTable "## Assertions" read).mapM readAssertion
  return ⟨injectors, faults, faultEvents, assertionResults⟩

/- What the tables are given to say. -/
def contents
    (stampText : Int → String)
    (report : ScenarioReport) : Contents where
  injectors := report.injectors
  faults := report.faults
  faultEvents :=
    report.faultEvents.map fun event =>
      (stampText event.stamp, event.toFaultEvent)
  assertionResults := report.assertionResults

------------------------------------------------------------
-- Entries
------------------------------------------------------------

theorem readCell_bare (text : String) :
    readCell 0 (Cell.bare text).inner = text :=
  readCell_inner rfl

theorem readCell_code (text : String) :
    readCell 1 (Cell.code text).inner = text := by
  apply readCell_inner
  show "`".toList.length = 1
  decide

theorem readSeed_toString (seed : Nat) :
    readSeed (toString seed) = seed := by
  rcases NumberText.takeDigits_toString seed with
    ⟨digits, hText, _, hValue⟩
  rw [readSeed, hText]
  exact hValue

theorem readState_toString (state : AssertionState) :
    readState (assertionStateToString state) = state := by
  cases state with
  | pending => decide
  | passed => decide
  | failed => decide

theorem readInjector_cells (entry : InjectorReportEntry) :
    readInjector ((injectorTable.cells entry).map Cell.inner) =
      some entry := by
  have hCells :
      injectorTable.cells entry =
        [.code entry.id, .code entry.type,
          .code (toString entry.seed)] := rfl
  rw [hCells]
  simp only [List.map_cons, List.map_nil, readInjector,
    readCell_code, readSeed_toString]

theorem readFault_cells (entry : FaultReportEntry) :
    readFault ((faultTable.cells entry).map Cell.inner) =
      some entry := by
  have hCells :
      faultTable.cells entry =
        [.code entry.id, .code entry.injectorId,
          .code entry.state, .bare entry.details] := rfl
  rw [hCells]
  simp only [List.map_cons, List.map_nil, readFault,
    readCell_code, readCell_bare]

theorem readEvent_cells
    (stampText : Int → String)
    (event : FaultEventRecord) :
    readEvent
        (((eventTable stampText).cells event).map Cell.inner) =
      some (stampText event.stamp, event.toFaultEvent) := by
  have hCells :
      (eventTable stampText).cells event =
        [.bare (stampText event.stamp), .code event.faultId,
          .code event.injectorId, .code event.state,
          .code event.source, .bare event.details] := rfl
  rw [hCells]
  simp only [List.map_cons, List.map_nil, readEvent,
    readCell_code, readCell_bare]

theorem readAssertion_cells (result : AssertionResult) :
    readAssertion
        ((assertionTable.cells result).map Cell.inner) =
      some result := by
  have hCells :
      assertionTable.cells result =
        [.code result.id, .code result.type,
          .code (assertionStateToString result.state),
          .bare result.message] := rfl
  rw [hCells]
  simp only [List.map_cons, List.map_nil, readAssertion,
    readCell_code, readCell_bare, readState_toString]

/- Rows that are read one by one are read together. -/
theorem mapM_rows
    {α β : Type}
    {cellsOf : α → List Cell}
    {entryOf : α → β}
    {read : List (List Char) → Option β}
    (hRead :
      ∀ entry,
        read ((cellsOf entry).map Cell.inner) =
          some (entryOf entry))
    (entries : List α) :
    ((entries.map cellsOf).map (List.map Cell.inner)).mapM
        read =
      some (entries.map entryOf) := by
  induction entries with
  | nil => rfl
  | cons entry entries ih =>
      rw [List.map_cons, List.map_cons, List.mapM_cons,
        hRead, ih]
      rfl

------------------------------------------------------------
-- Round Trip
------------------------------------------------------------

theorem head?_append
    {first second : String}
    {c : Char}
    (hHead : first.toList.head? = some c) :
    (first ++ second).toList.head? = some c := by
  rw [String.toList_append, List.head?_append, hHead]
  rfl

/- The lines of the summary are no titles of tables. -/
theorem title_not_mem_summary
    {report : ScenarioReport}
    {t : TitledTable}
    (hTitle : t.title ≠ "# Fault Injection Scenario Report")
    (hSummary : t.title ≠ "## Summary") :
    t.title ∉ summary report := by
  have hMarked := t.marked
  have hBlank : t.title ≠ "" := by
    intro hEmpty
    rw [hEmpty] at hMarked
    simp at hMarked
  have hItems :
      ∀ line ∈ (summary report).drop 4,
        line.toList.head? = some '-' := by
    intro line hLine
    delta summary at hLine
    simp only [List.drop_succ_cons, List.drop_zero,
      List.mem_cons, List.not_mem_nil, or_false] at hLine
    rcases hLine with rfl | rfl | rfl | rfl | rfl
    · exact head?_append (head?_append (by decide))
    · exact head?_append (head?_append (by decide))
    · exact head?_append (by decide)
    · exact head?_append (by decide)
    · exact head?_append (by decide)
  intro hMember
  rw [← List.take_append_drop 4 (summary report),
    List.mem_append] at hMember
  rcases hMember with hHeading | hItem
  · have hFour :
        (summary report).take 4 =
          ["# Fault Injection Scenario Report", "",
            "## Summary", ""] := rfl
    rw [hFour] at hHeading
    simp only [List.mem_cons, List.not_mem_nil, or_false,
      hTitle, hSummary, hBlank] at hHeading
  · rw [hItems _ hItem] at hMarked
    cases hMarked

theorem unbroken_append
    {first second : String}
    (hFirst : Unbroken first)
    (hSecond : Unbroken second) :
    Unbroken (first ++ second) := by
  intro c hC
  rw [String.toList_append, List.mem_append] at hC
  rcases hC with hFirstC | hSecondC
  · exact hFirst c hFirstC
  · exact hSecond c hSecondC

theorem unbroken_of_mem_summary
    {report : ScenarioReport}
    (hFile : Unbroken report.scenarioFile)
    (hResult : Unbroken report.finalResult)
    {line : String}
    (hLine : line ∈ summary report) :
    Unbroken line := by
  have hCount : ∀ n : Nat, Unbroken (toString n) :=
    fun n => (fits_repr n).1
  have hFence : Unbroken "`" := by
    decide
  delta summary at hLine
  simp only [List.mem_cons, List.not_mem_nil, or_false]
    at hLine
  rcases hLine with
    rfl | rfl | rfl | rfl | rfl | rfl | rfl | rfl | rfl
  · decide
  · decide
  · decide
  · decide
  · exact
      unbroken_append (unbroken_append (by decide) hFile)
        hFence
  · exact
      unbroken_append (unbroken_append (by decide) hResult)
        hFence
  · exact unbroken_append (by decide) (hCount _)
  · exact unbroken_append (by decide) (hCount _)
  · exact unbroken_append (by decide) (hCount _)

/- The texts of the entries are the texts in the cells. -/
theorem fits_of_texts
    {α : Type}
    {format : TableFormat α}
    {texts : α → List String}
    {entries : List α}
    (hFormat :
      ∀ entry,
        (∀ cell ∈ format.cells entry, Fits cell.text) ↔
          ∀ text ∈ texts entry, Fits text)
    (hTexts : ∀ text ∈ entries.flatMap texts, Fits text) :
    ∀ row ∈ entries.map format.cells,
      ∀ cell ∈ row, Fits cell.text := by
  intro row hRow
  rcases List.mem_map.mp hRow with ⟨entry, hEntry, rfl⟩
  apply (hFormat entry).mpr
  intro text hText
  exact
    hTexts text (List.mem_flatMap.mpr ⟨entry, hEntry, hText⟩)

section RoundTrip

variable {stampText : Int → String}
variable {report : ScenarioReport}

/- Texts that fit the report fit each of its tables. -/
theorem fits_of_mem_reportTables
    (hStamp : PrintsSeconds stampText)
    (hTexts : ∀ text ∈ report.texts, Fits text)
    {t : TitledTable}
    (hTable : t ∈ reportTables stampText report) :
    ∀ row ∈ t.rows, ∀ cell ∈ row, Fits cell.text := by
  simp only [ScenarioReport.texts, List.mem_append,
    or_imp, forall_and] at hTexts
  rcases hTexts with
    ⟨⟨⟨hInjectors, hFaults⟩, hEvents⟩, hAssertions⟩
  unfold reportTables at hTable
  simp only [List.mem_cons, List.not_mem_nil, or_false]
    at hTable
  rcases hTable with rfl | rfl | rfl | rfl
  · exact fits_of_texts injectorTable_fits_iff hInjectors
  · exact fits_of_texts faultTable_fits_iff hFaults
  · exact fits_of_texts (eventTable_fits_iff hStamp) hEvents
  · exact fits_of_texts assertionTable_fits_iff hAssertions

theorem lines_toMarkdown
    (hStamp : PrintsSeconds stampText)
    (hFile : Unbroken report.scenarioFile)
    (hResult : Unbroken report.finalResult)
    (hTexts : ∀ text ∈ report.texts, Fits text) :
    lines (toMarkdown stampText report).toList =
      (written stampText report).map String.toList := by
  rw [toMarkdown_eq_ofLines]
  apply lines_ofLines
  intro line hLine
  rcases List.mem_append.mp hLine with hSummary | hTables
  · exact unbroken_of_mem_summary hFile hResult hSummary
  · rcases List.mem_flatMap.mp hTables with
      ⟨t, hTable, hWritten⟩
    exact
      TitledTable.unbroken_of_mem
        (fits_of_mem_reportTables hStamp hTexts hTable)
        hWritten

/- Each table of the report is found under its title. -/
theorem readTable_written
    (hStamp : PrintsSeconds stampText)
    (hTexts : ∀ text ∈ report.texts, Fits text)
    {t : TitledTable}
    (hTable : t ∈ reportTables stampText report) :
    readTable t.title
        ((written stampText report).map String.toList) =
      t.rows.map (List.map Cell.inner) := by
  have hDistinct :
      ((reportTables stampText report).map
        TitledTable.title).Nodup := by
    show
      ["## Injectors", "## Faults", "## Fault Event Timeline",
        "## Assertions"].Nodup
    decide
  have hTitles :
      t.title ≠ "# Fault Injection Scenario Report" ∧
        t.title ≠ "## Summary" := by
    unfold reportTables at hTable
    simp only [List.mem_cons, List.not_mem_nil, or_false]
      at hTable
    rcases hTable with rfl | rfl | rfl | rfl
    · show
        "## Injectors" ≠ "# Fault Injection Scenario Report" ∧
          "## Injectors" ≠ "## Summary"
      decide
    · show
        "## Faults" ≠ "# Fault Injection Scenario Report" ∧
          "## Faults" ≠ "## Summary"
      decide
    · show
        "## Fault Event Timeline" ≠
            "# Fault Injection Scenario Report" ∧
          "## Fault Event Timeline" ≠ "## Summary"
      decide
    · show
        "## Assertions" ≠
            "# Fault Injection Scenario Report" ∧
          "## Assertions" ≠ "## Summary"
      decide
  exact
    readTable_of_mem hDistinct hTable
      (title_not_mem_summary hTitles.1 hTitles.2)
      (fits_of_mem_reportTables hStamp hTexts hTable)

/- The rows of each table are read as its entries. -/
theorem mapM_readTable
    {α β : Type}
    {cellsOf : α → List Cell}
    {entryOf : α → β}
    {read : List (List Char) → Option β}
    {entries : List α}
    {t : TitledTable}
    (hStamp : PrintsSeconds stampText)
    (hTexts : ∀ text ∈ report.texts, Fits text)
    (hTable : t ∈ reportTables stampText report)
    (hRows : t.rows = entries.map cellsOf)
    (hRead :
      ∀ entry,
        read ((cellsOf entry).map Cell.inner) =
          some (entryOf entry)) :
    (readTable t.title
        ((written stampText report).map
          String.toList)).mapM read =
      some (entries.map entryOf) := by
  rw [readTable_written hStamp hTexts hTable, hRows]
  exact mapM_rows hRead entries

/- The tables of a report whose texts fit are read back. -/
theorem readReport_toMarkdown
    (hStamp : PrintsSeconds stampText)
    (hFile : Unbroken report.scenarioFile)
    (hResult : Unbroken report.finalResult)
    (hTexts : ∀ text ∈ report.texts, Fits text) :
    readReport (toMarkdown stampText report) =
      some (contents stampText report) := by
  have hInjectors :=
    mapM_readTable hStamp hTexts
      (t := injectorsTable report.injectors)
      List.mem_cons_self rfl readInjector_cells
  have hFaults :=
    mapM_readTable hStamp hTexts
      (t := faultsTable report.faults)
      (List.mem_cons_of_mem _ List.mem_cons_self) rfl
      readFault_cells
  have hEvents :=
    mapM_readTable hStamp hTexts
      (t := timelineTable stampText report.faultEvents)
      (List.mem_cons_of_mem _
        (List.mem_cons_of_mem _ List.mem_cons_self))
      rfl (readEvent_cells stampText)
  have hAssertions :=
    mapM_readTable hStamp hTexts
      (t := assertionsTable report.assertionResults)
      (List.mem_cons_of_mem _
        (List.mem_cons_of_mem _
          (List.mem_cons_of_mem _ List.mem_cons_self)))
      rfl readAssertion_cells
  rw [List.map_id'] at hInjectors hFaults hAssertions
  unfold injectorsTable at hInjectors
  unfold faultsTable at hFaults
  unfold timelineTable at hEvents
  unfold assertionsTable at hAssertions
  rw [readReport, lines_toMarkdown hStamp hFile hResult hTexts]
  simp only [hInjectors, hFaults, hEvents, hAssertions]
  rfl

/-
  A report whose texts fit says what it was given: its tables
  are read back from the text, and no report with other
  entries has the same text.
-/
theorem report_reads_back
    (hStamp : PrintsSeconds stampText)
    (hFile : Unbroken report.scenarioFile)
    (hResult : Unbroken report.finalResult)
    (hTexts : ∀ text ∈ report.texts, Fits text) :
    readReport (toMarkdown stampText report) =
        some (contents stampText report) ∧
      ∀ other : ScenarioReport,
        Unbroken other.scenarioFile →
        Unbroken other.finalResult →
        (∀ text ∈ other.texts, Fits text) →
        toMarkdown stampText other =
            toMarkdown stampText report →
          contents stampText other =
            contents stampText report := by
  have hReads :=
    readReport_toMarkdown hStamp hFile hResult hTexts
  refine ⟨hReads, ?_⟩
  intro other hOtherFile hOtherResult hOtherTexts hSame
  have hOther :=
    readReport_toMarkdown hStamp hOtherFile hOtherResult
      hOtherTexts
  rw [hSame, hReads, Option.some.injEq] at hOther
  exact hOther.symm

end RoundTrip

end ReportCreator

------------------------------------------------------------
-- A Report With One Fault
------------------------------------------------------------

namespace ReportCreator.OneFault

def report : ScenarioReport where
  scenarioFile := "bias.yaml"
  finishedAt := 0
  injectorIds := ["base"]
  faultIds := ["bias"]
  injectors := [{ id := "base", type := "odom", seed := 42 }]
  faults :=
    [ { id := "bias", injectorId := "base", state := "active",
        details := "manual-only, config=\x7bx_bias=1.0\x7d" } ]
  assertionResults :=
    [ { id := "seen", type := "fault_event", state := .pending,
        message := "waiting" } ]
  finalResult := "pending"
  faultEvents :=
    [ { faultId := "bias", injectorId := "base",
        state := "active", source := "manual", details := "",
        stamp := 0 } ]

theorem one_fault_reads_back :
    readReport (toMarkdown (fun _ => "0.000") report) =
        some (contents (fun _ => "0.000") report) ∧
      ∀ other : ScenarioReport,
        Unbroken other.scenarioFile →
        Unbroken other.finalResult →
        (∀ text ∈ other.texts, Fits text) →
        toMarkdown (fun _ => "0.000") other =
            toMarkdown (fun _ => "0.000") report →
          contents (fun _ => "0.000") other =
            contents (fun _ => "0.000") report := by
  have hTexts :
      ∀ text ∈ report.texts,
        text.toList.countP isBreak = 0 ∧
          boundaries [] text.toList = 0 := by
    decide +kernel
  refine
    report_reads_back ReportTables.printsSeconds_zero
      (by decide) (by decide) ?_
  intro text hText
  exact (fits_iff text).mpr (hTexts text hText)

end ReportCreator.OneFault
