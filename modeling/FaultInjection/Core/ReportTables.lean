import FaultInjection.Core.CampaignResult
import FaultInjection.Core.ReportCreator
import FaultInjection.Foundations.MarkdownTables

/-
  The tables that the two reports write.

  The report about a scenario writes its texts as they are.
  The report about a campaign escapes the bars and replaces
  the breaks of a text, but leaves its backslashes alone.

  Key definitions include:
    * `PrintsSeconds`
    * `ReportCreator.document`
    * `FaultCampaignRunnerNode.tableCell`
    * `FaultCampaignRunnerNode.createCampaignReportMarkdown`
    * `FaultCampaignRunnerNode.document`
    * `FaultCampaignRunnerNode.BarsUnescaped`

  Key theorems include:
    * `ReportCreator.wellFormed_iff`
    * `FaultCampaignRunnerNode.wellFormed_iff`
    * `ReportTables.tables_well_formed_iff`
-/

open MarkdownTables

------------------------------------------------------------
-- Texts That Fit
------------------------------------------------------------

/- A time in seconds is printed as a decimal number. -/
def PrintsSeconds (stampText : Int → String) : Prop :=
  ∀ stamp, ∀ c ∈ (stampText stamp).toList,
    c.isDigit ∨ c = '.' ∨ c = '-'

theorem fits_of_decimal
    {text : String}
    (hDecimal :
      ∀ c ∈ text.toList, c.isDigit ∨ c = '.' ∨ c = '-') :
    Fits text := by
  apply fits_of_plain
  intro c hMember
  rcases hDecimal c hMember with hDigit | rfl | rfl
  · have hOther : ∀ d, d.isDigit = false → c ≠ d := by
      rintro d hNone rfl
      rw [hNone] at hDigit
      cases hDigit
    have hBreak : isBreak c = false := by
      simp [isBreak, hOther '\n' (by decide),
        hOther '\r' (by decide)]
    exact ⟨hOther '|' (by decide), hOther '\\' (by decide),
      hBreak⟩
  · decide
  · decide

theorem fits_repr (n : Nat) : Fits n.repr := by
  apply fits_of_decimal
  intro c hMember
  apply Or.inl
  apply Nat.isDigit_of_mem_toDigits (b := 10)
  · decide
  · decide
  · rw [← Nat.toList_repr]
    exact hMember

theorem fits_assertionStateToString (state : AssertionState) :
    Fits (assertionStateToString state) := by
  apply fits_of_plain
  cases state <;> decide

------------------------------------------------------------
-- The Report About A Scenario
------------------------------------------------------------

namespace ReportCreator

def injectorTable : TableFormat InjectorReportEntry where
  head :=
    "| Injector ID | Type | Effective Seed |\n" ++
      "| --- | --- | --- |\n"
  row := injectorRow
  cells entry :=
    [.code entry.id, .code entry.type,
      .code (toString entry.seed)]
  row_eq := by
    intro entry
    apply String.toList_injective
    delta injectorRow
    simp only [rowText, rowLine, Cell.render, Cell.code,
      List.map_cons, List.map_nil, String.join_cons,
      String.join_nil, String.append_empty,
      String.toList_append, List.append_assoc]
    rfl
  length_cells := by
    intro entry
    change 3 = _
    decide

def faultTable : TableFormat FaultReportEntry where
  head :=
    "| Fault ID | Injector | State | Details |\n" ++
      "| --- | --- | --- | --- |\n"
  row := faultRow
  cells entry :=
    [.code entry.id, .code entry.injectorId, .code entry.state,
      .bare entry.details]
  row_eq := by
    intro entry
    apply String.toList_injective
    delta faultRow
    simp only [rowText, rowLine, Cell.render, Cell.code, Cell.bare,
      List.map_cons, List.map_nil, String.join_cons,
      String.join_nil, String.append_empty,
      String.toList_append, List.append_assoc]
    rfl
  length_cells := by
    intro entry
    change 4 = _
    decide

def eventTable
    (stampText : Int → String) :
    TableFormat FaultEventRecord where
  head :=
    "| Time (s) | Fault | Injector | State | Source " ++
      "| Details |\n| ---: | --- | --- | --- | --- | --- |\n"
  row := eventRow stampText
  cells event :=
    [.bare (stampText event.stamp), .code event.faultId,
      .code event.injectorId, .code event.state,
      .code event.source, .bare event.details]
  row_eq := by
    intro event
    apply String.toList_injective
    delta eventRow
    simp only [rowText, rowLine, Cell.render, Cell.code, Cell.bare,
      List.map_cons, List.map_nil, String.join_cons,
      String.join_nil, String.append_empty,
      String.toList_append, List.append_assoc]
    rfl
  length_cells := by
    intro event
    change 6 = _
    decide

def assertionTable : TableFormat AssertionResult where
  head :=
    "| Assertion ID | Type | State | Message |\n" ++
      "| --- | --- | --- | --- |\n"
  row := assertionRow
  cells result :=
    [.code result.id, .code result.type,
      .code (assertionStateToString result.state),
      .bare result.message]
  row_eq := by
    intro result
    apply String.toList_injective
    delta assertionRow
    simp only [rowText, rowLine, Cell.render, Cell.code, Cell.bare,
      List.map_cons, List.map_nil, String.join_cons,
      String.join_nil, String.append_empty,
      String.toList_append, List.append_assoc]
    rfl
  length_cells := by
    intro result
    change 4 = _
    decide

/- The report with its tables apart from the rest. -/
def document
    (stampText : Int → String)
    (report : ScenarioReport) : List Piece :=
  [ .prose
      (heading report.scenarioFile ++ report.finalResult ++
        "`\n" ++
        "- Injectors: " ++ toString report.injectorIds.length ++
          "\n" ++
        "- Faults: " ++ toString report.faultIds.length ++
          "\n" ++
        "- Assertions: " ++
          toString report.assertionResults.length ++ "\n\n" ++
        "## Injectors\n\n"),
    injectorTable.orProse "_No injectors registered._\n"
      report.injectors,
    .prose ("\n" ++ "## Faults\n\n"),
    faultTable.orProse "_No faults registered._\n" report.faults,
    .prose ("\n" ++ "## Fault Event Timeline\n\n"),
    (eventTable stampText).orProse
      "_No fault events recorded._\n" report.faultEvents,
    .prose ("\n" ++ "## Assertions\n\n"),
    assertionTable.orProse "_No assertions configured._\n"
      report.assertionResults ]

theorem render_orProse
    {α : Type}
    (format : TableFormat α)
    (nothing : String)
    (entries : List α) :
    (format.orProse nothing entries).render =
      tableOr nothing format.head format.row entries := by
  unfold TableFormat.orProse tableOr
  split
  · rfl
  · rfl

theorem toMarkdown_eq_render
    (stampText : Int → String)
    (report : ScenarioReport) :
    toMarkdown stampText report =
      MarkdownTables.render (document stampText report) := by
  rw [toMarkdown, MarkdownTables.render]
  delta body document
  simp only [List.map_cons, List.map_nil, render_orProse,
    Piece.render_prose, String.join_cons, String.join_nil,
    String.append_empty, String.append_assoc]
  rfl

end ReportCreator

/- The texts that the report about a scenario is given. -/
def InjectorReportEntry.texts
    (entry : InjectorReportEntry) : List String :=
  [entry.id, entry.type]

def FaultReportEntry.texts
    (entry : FaultReportEntry) : List String :=
  [entry.id, entry.injectorId, entry.state, entry.details]

def FaultEventRecord.texts
    (event : FaultEventRecord) : List String :=
  [event.faultId, event.injectorId, event.state, event.source,
    event.details]

def AssertionResult.texts
    (result : AssertionResult) : List String :=
  [result.id, result.type, result.message]

def ScenarioReport.texts (report : ScenarioReport) : List String :=
  report.injectors.flatMap InjectorReportEntry.texts ++
    report.faults.flatMap FaultReportEntry.texts ++
      report.faultEvents.flatMap FaultEventRecord.texts ++
        report.assertionResults.flatMap AssertionResult.texts

namespace ReportCreator

theorem injectorTable_fits_iff (entry : InjectorReportEntry) :
    (∀ cell ∈ injectorTable.cells entry, Fits cell.text) ↔
      ∀ text ∈ entry.texts, Fits text := by
  have hCells :
      injectorTable.cells entry =
        [.code entry.id, .code entry.type,
          .code (toString entry.seed)] := rfl
  rw [hCells]
  simp [Cell.code, InjectorReportEntry.texts, fits_repr]

theorem faultTable_fits_iff (entry : FaultReportEntry) :
    (∀ cell ∈ faultTable.cells entry, Fits cell.text) ↔
      ∀ text ∈ entry.texts, Fits text := by
  have hCells :
      faultTable.cells entry =
        [.code entry.id, .code entry.injectorId,
          .code entry.state, .bare entry.details] := rfl
  rw [hCells]
  simp [Cell.code, Cell.bare, FaultReportEntry.texts]

theorem eventTable_fits_iff
    {stampText : Int → String}
    (hStamp : PrintsSeconds stampText)
    (event : FaultEventRecord) :
    (∀ cell ∈ (eventTable stampText).cells event,
        Fits cell.text) ↔
      ∀ text ∈ event.texts, Fits text := by
  have hCells :
      (eventTable stampText).cells event =
        [.bare (stampText event.stamp), .code event.faultId,
          .code event.injectorId, .code event.state,
          .code event.source, .bare event.details] := rfl
  rw [hCells]
  simp [Cell.code, Cell.bare, FaultEventRecord.texts,
    fits_of_decimal (hStamp event.stamp)]

theorem assertionTable_fits_iff (result : AssertionResult) :
    (∀ cell ∈ assertionTable.cells result, Fits cell.text) ↔
      ∀ text ∈ result.texts, Fits text := by
  have hCells :
      assertionTable.cells result =
        [.code result.id, .code result.type,
          .code (assertionStateToString result.state),
          .bare result.message] := rfl
  rw [hCells]
  simp [Cell.code, Cell.bare, AssertionResult.texts,
    fits_assertionStateToString]

/- The tables are well formed if all texts fit into cells. -/
theorem wellFormed_iff
    {stampText : Int → String}
    (hStamp : PrintsSeconds stampText)
    (report : ScenarioReport) :
    (∀ table ∈ tables (document stampText report),
        table.WellFormed) ↔
      ∀ text ∈ report.texts, Fits text := by
  delta document
  rw [tables_prose_cons, allWellFormed_cons_iff,
    tables_prose_cons, allWellFormed_cons_iff,
    tables_prose_cons, allWellFormed_cons_iff,
    tables_prose_cons, allWellFormed_cons_iff, tables_nil,
    TableFormat.orProse_wellFormed_iff injectorTable_fits_iff,
    TableFormat.orProse_wellFormed_iff faultTable_fits_iff,
    TableFormat.orProse_wellFormed_iff
      (eventTable_fits_iff hStamp),
    TableFormat.orProse_wellFormed_iff assertionTable_fits_iff]
  simp only [ScenarioReport.texts, List.forall_mem_append,
    and_assoc]
  simp

end ReportCreator

------------------------------------------------------------
-- The Report About A Campaign
------------------------------------------------------------

namespace FaultCampaignRunnerNode

/- Add one character to the text of a cell. -/
def escapeCharacter
    (escaped : String)
    (character : Char) : String :=
  if character = '|' then
    escaped ++ "\\|"
  else if character = '\n' ∨ character = '\r' then
    escaped ++ " "
  else
    escaped.push character

def tableCell (value : String) : String :=
  value.toList.foldl escapeCharacter ""

def campaignRow (run : CampaignScenarioRun) : String :=
  "| " ++ toString run.repeatNumber ++ " | " ++
    toString run.variantIndex ++ " | " ++
      tableCell run.faultId ++ " | " ++ tableCell run.key ++
        " | " ++ tableCell run.value ++ " | " ++
          (if run.result.success then "passed" else "failed") ++
            " | " ++ tableCell run.result.message ++ " |\n"

def createCampaignReportMarkdown
    (result : CampaignRunResult) : String :=
  "# Fault Injection Campaign: " ++ result.campaignName ++
    "\n\n" ++
  "- Total runs: " ++ toString result.totalRuns ++ "\n" ++
  "- Passed runs: " ++ toString result.passedRuns ++ "\n" ++
  "- Failed runs: " ++ toString result.failedRuns ++ "\n\n" ++
  ("| Repeat | Variant | Fault | Key | Value | Result " ++
    "| Message |\n" ++
      "| --- | --- | --- | --- | --- | --- | --- |\n") ++
  String.join (result.runs.map campaignRow)

def campaignTable : TableFormat CampaignScenarioRun where
  head :=
    "| Repeat | Variant | Fault | Key | Value | Result " ++
      "| Message |\n" ++
        "| --- | --- | --- | --- | --- | --- | --- |\n"
  row := campaignRow
  cells run :=
    [.bare (toString run.repeatNumber),
      .bare (toString run.variantIndex),
      .bare (tableCell run.faultId), .bare (tableCell run.key),
      .bare (tableCell run.value),
      .bare
        (if run.result.success then "passed" else "failed"),
      .bare (tableCell run.result.message)]
  row_eq := by
    intro run
    apply String.toList_injective
    delta campaignRow
    simp only [rowText, rowLine, Cell.render, Cell.bare,
      List.map_cons, List.map_nil, String.join_cons,
      String.join_nil, String.append_empty,
      String.toList_append, List.append_assoc]
    rfl
  length_cells := by
    intro run
    change 7 = _
    decide

/- The report with its table apart from the rest. -/
def document (result : CampaignRunResult) : List Piece :=
  [ .prose
      ("# Fault Injection Campaign: " ++ result.campaignName ++
        "\n\n" ++
      "- Total runs: " ++ toString result.totalRuns ++ "\n" ++
      "- Passed runs: " ++ toString result.passedRuns ++ "\n" ++
      "- Failed runs: " ++ toString result.failedRuns ++
        "\n\n"),
    .table (campaignTable.table result.runs) ]

theorem createCampaignReportMarkdown_eq_render
    (result : CampaignRunResult) :
    createCampaignReportMarkdown result =
      MarkdownTables.render (document result) := by
  rw [MarkdownTables.render]
  delta createCampaignReportMarkdown document
  simp only [List.map_cons, List.map_nil, Piece.render_prose,
    String.join_cons, String.join_nil, String.append_empty,
    String.append_assoc]
  rfl

/- What a character becomes. -/
def escaping (character : Char) : List Char :=
  if character = '|' then
    ['\\', '|']
  else if isBreak character then
    [' ']
  else
    [character]

theorem toList_escapeCharacter
    (escaped : String)
    (character : Char) :
    (escapeCharacter escaped character).toList =
      escaped.toList ++ escaping character := by
  unfold escapeCharacter escaping isBreak
  by_cases hBar : character = '|'
  · simp [hBar]
  · by_cases hBreak : character = '\n' ∨ character = '\r'
    · simp [hBar, hBreak]
    · simp [hBar, hBreak]

theorem toList_tableCell (value : String) :
    (tableCell value).toList =
      value.toList.flatMap escaping := by
  suffices hLoop :
      ∀ (characters : List Char) (escaped : String),
        (characters.foldl escapeCharacter escaped).toList =
          escaped.toList ++ characters.flatMap escaping by
    exact hLoop value.toList ""
  intro characters
  induction characters with
  | nil => simp
  | cons character characters ih =>
      intro escaped
      rw [List.foldl_cons, ih, toList_escapeCharacter,
        List.flatMap_cons, List.append_assoc]

/- No bar of the text has been escaped before. -/
def BarsUnescaped (value : String) : Prop :=
  BarsFollow 0 [] value.toList

/-
  A bar gets one backslash more than those before it. What
  comes after a bar or a break follows no backslash.
-/
theorem boundaries_escaping_eq_zero_iff
    {seen other : List Char}
    (hSame : backslashes seen = backslashes other)
    (text : List Char) :
    boundaries seen (text.flatMap escaping) = 0 ↔
      BarsFollow 0 other text := by
  induction text generalizing seen other with
  | nil => exact iff_of_true rfl (barsFollow_nil 0 other)
  | cons c text ih =>
      rw [List.flatMap_cons, barsFollow_cons_iff,
        boundaries_append, Nat.add_eq_zero_iff]
      apply and_congr
      · unfold escaping
        by_cases hBar : c = '|'
        · simp [hBar, boundaries, isBoundary, backslashes_cons,
            hSame]
          omega
        · by_cases hBreak : isBreak c
          · simp [hBar, hBreak, boundaries, isBoundary]
          · simp [hBar, hBreak, boundaries, isBoundary]
      · apply ih
        unfold escaping
        by_cases hBar : c = '|'
        · simp [hBar, backslashes_cons]
        · by_cases hBreak : isBreak c
          · have hSlash : c ≠ '\\' := by
              rintro rfl
              revert hBreak
              decide
            simp [hBar, hBreak, backslashes_cons, hSlash]
          · simp [hBar, hBreak, backslashes_cons, hSame]

theorem fits_tableCell_iff (value : String) :
    Fits (tableCell value) ↔ BarsUnescaped value := by
  rw [Fits, toList_tableCell, ← boundaries_eq_zero_iff,
    boundaries_escaping_eq_zero_iff rfl]
  apply and_iff_right
  intro c hMember
  rcases List.mem_flatMap.mp hMember with ⟨source, _, hSource⟩
  unfold escaping at hSource
  by_cases hBar : source = '|'
  · rw [if_pos hBar] at hSource
    rcases List.mem_pair.mp hSource with rfl | rfl
    · decide
    · decide
  · rw [if_neg hBar] at hSource
    by_cases hBreak : isBreak source
    · rw [if_pos hBreak, List.mem_singleton] at hSource
      rw [hSource]
      decide
    · rw [if_neg hBreak, List.mem_singleton] at hSource
      rw [hSource]
      exact Bool.eq_false_iff.mpr hBreak

end FaultCampaignRunnerNode

def CampaignScenarioRun.texts
    (run : CampaignScenarioRun) : List String :=
  [run.faultId, run.key, run.value, run.result.message]

/- The texts that the report about a campaign is given. -/
def CampaignRunResult.texts
    (result : CampaignRunResult) : List String :=
  result.runs.flatMap CampaignScenarioRun.texts

namespace FaultCampaignRunnerNode

theorem campaignTable_fits_iff (run : CampaignScenarioRun) :
    (∀ cell ∈ campaignTable.cells run, Fits cell.text) ↔
      ∀ text ∈ run.texts, BarsUnescaped text := by
  have hVerdict :
      Fits (if run.result.success then "passed" else "failed") := by
    apply fits_of_plain
    split
    · decide
    · decide
  have hCells :
      campaignTable.cells run =
        [.bare (toString run.repeatNumber),
          .bare (toString run.variantIndex),
          .bare (tableCell run.faultId),
          .bare (tableCell run.key), .bare (tableCell run.value),
          .bare
            (if run.result.success then "passed" else "failed"),
          .bare (tableCell run.result.message)] := rfl
  rw [hCells]
  simp [Cell.bare, CampaignScenarioRun.texts, fits_repr,
    fits_tableCell_iff, hVerdict]

/- The table is well formed if no bar was escaped before. -/
theorem wellFormed_iff (result : CampaignRunResult) :
    (∀ table ∈ tables (document result), table.WellFormed) ↔
      ∀ text ∈ result.texts, BarsUnescaped text := by
  delta document
  rw [tables_prose_cons, allWellFormed_cons_iff, tables_nil,
    CampaignRunResult.texts,
    ← TableFormat.table_wellFormed_iff campaignTable_fits_iff]
  simp [Piece.table?]

end FaultCampaignRunnerNode

------------------------------------------------------------
-- Both Reports
------------------------------------------------------------

namespace ReportTables

/-
  Both reports consist of the tables named here. Those about
  a scenario are well formed if every text fits into a cell
  as it is, the one about a campaign if no bar in a text
  follows an odd number of backslashes.
-/
theorem tables_well_formed_iff
    {stampText : Int → String}
    (hStamp : PrintsSeconds stampText)
    (report : ScenarioReport)
    (result : CampaignRunResult) :
    (ReportCreator.toMarkdown stampText report =
        render (ReportCreator.document stampText report) ∧
      ((∀ table ∈
            tables (ReportCreator.document stampText report),
          table.WellFormed) ↔
        ∀ text ∈ report.texts, Fits text)) ∧
    (FaultCampaignRunnerNode.createCampaignReportMarkdown
          result =
        render (FaultCampaignRunnerNode.document result) ∧
      ((∀ table ∈
            tables (FaultCampaignRunnerNode.document result),
          table.WellFormed) ↔
        ∀ text ∈ result.texts,
          FaultCampaignRunnerNode.BarsUnescaped text)) := by
  constructor
  · constructor
    · exact ReportCreator.toMarkdown_eq_render stampText report
    · exact ReportCreator.wellFormed_iff hStamp report
  · constructor
    · apply
        FaultCampaignRunnerNode.createCampaignReportMarkdown_eq_render
    · exact FaultCampaignRunnerNode.wellFormed_iff result

/- A trigger service that fails with a message with a bar. -/
def jam : FaultConfig where
  id := "jam"
  injectorId := "trigger"
  config := UnorderedMap.empty.insert "failure_message" "door|jam"

def trigger : FaultInjectorBase :=
  FaultInjectorBase.addFault
    { config :=
        { id := "trigger"
          type := "trigger_service" } }
    jam

def jamReport : ScenarioReport :=
  ReportCreator.createReport HashOrder.insertion (fun _ => 0) 0
    "jam.yaml" (UnorderedMap.empty.insert "trigger" trigger) []
    [ { faultId := "jam"
        injectorId := "trigger"
        state := "active"
        source := "manual"
        details := describeFault jam
        stamp := 0 } ]

/- A campaign that tries a message with an escaped bar. -/
def jamCampaign : CampaignRunResult :=
  CampaignRunResult.recordRun { campaignName := "jam" }
    { repeatNumber := 1
      variantIndex := 1
      faultId := "jam"
      key := "failure_message"
      value := "door\\|jam"
      result :=
        { success := true
          message := "Scenario passed"
          finalResult := "passed"
          reportMarkdown := "" } }

theorem printsSeconds_zero : PrintsSeconds fun _ => "0.000" := by
  intro stamp c hMember
  have hCases : c = '0' ∨ c = '.' ∨ c = '0' := by
    simpa using hMember
  rcases hCases with rfl | rfl | rfl
  · decide
  · decide
  · decide

/- The details have a bar, the value one after a backslash. -/
theorem texts_split_rows :
    (¬ ∀ stampText report,
        PrintsSeconds stampText →
          ∀ table ∈
              tables (ReportCreator.document stampText report),
            table.WellFormed) ∧
      ¬ ∀ result,
        ∀ table ∈
            tables (FaultCampaignRunnerNode.document result),
          table.WellFormed := by
  constructor
  · intro hWell
    have hFits :=
      (ReportCreator.wellFormed_iff printsSeconds_zero
        jamReport).mp
        (hWell _ jamReport printsSeconds_zero)
        "manual-only, config=\x7bfailure_message=door|jam\x7d"
        (by decide +kernel)
    revert hFits
    rw [fits_iff]
    decide +kernel
  · intro hWell
    have hUnescaped :=
      (FaultCampaignRunnerNode.wellFormed_iff jamCampaign).mp
        (hWell jamCampaign) "door\\|jam" (by decide +kernel)
    revert hUnescaped
    rw [← FaultCampaignRunnerNode.fits_tableCell_iff, fits_iff]
    decide +kernel

theorem tables_well_formed_iff_of_jam :
    (ReportCreator.toMarkdown (fun _ => "0.000") jamReport =
        render
          (ReportCreator.document (fun _ => "0.000")
            jamReport) ∧
      ((∀ table ∈
            tables
              (ReportCreator.document (fun _ => "0.000")
                jamReport),
          table.WellFormed) ↔
        ∀ text ∈ jamReport.texts, Fits text)) ∧
    (FaultCampaignRunnerNode.createCampaignReportMarkdown
          jamCampaign =
        render
          (FaultCampaignRunnerNode.document jamCampaign) ∧
      ((∀ table ∈
            tables
              (FaultCampaignRunnerNode.document jamCampaign),
          table.WellFormed) ↔
        ∀ text ∈ jamCampaign.texts,
          FaultCampaignRunnerNode.BarsUnescaped text)) :=
  tables_well_formed_iff printsSeconds_zero jamReport
    jamCampaign

end ReportTables
