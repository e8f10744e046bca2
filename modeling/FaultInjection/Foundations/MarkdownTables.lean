import Mathlib.Algebra.BigOperators.Group.List.Basic
import Mathlib.Algebra.GroupWithZero.Nat

/-
  Tables in a text: a line for the names of the columns, one
  below it, and one for each row.

  A line is split into cells at its bars. A bar that follows
  an odd number of backslashes is part of a cell. So whether
  a table has the rows and the cells that were written can
  depend on the texts in it.

  Key definitions include:
    * `MarkdownTables.lines`
    * `MarkdownTables.cells`
    * `MarkdownTables.BarsFollow`
    * `MarkdownTables.Cell`
    * `MarkdownTables.Fits`
    * `MarkdownTables.Table.WellFormed`
    * `MarkdownTables.TableFormat`
    * `MarkdownTables.Piece`

  Key theorems include:
    * `MarkdownTables.boundaries_append`
    * `MarkdownTables.boundaries_eq_zero_iff`
    * `MarkdownTables.Table.wellFormed_iff`
    * `MarkdownTables.TableFormat.orProse_wellFormed_iff`
-/

namespace MarkdownTables

------------------------------------------------------------
-- Lines And Cells
------------------------------------------------------------

/- A line feed or a carriage return ends a line. -/
def isBreak (c : Char) : Bool :=
  c = '\n' ∨ c = '\r'

/- The lines of a text without what ends them. -/
def lines : List Char → List (List Char)
| [] => []
| c :: text =>
    if isBreak c then
      [] :: lines text
    else
      match lines text with
      | [] => [[c]]
      | line :: rest => (c :: line) :: rest

/- The backslashes at the end of what was seen, last first. -/
def backslashes (seen : List Char) : Nat :=
  (seen.takeWhile fun c => c = '\\').length

/- A bar after an even number of backslashes. -/
def isBoundary
    (seen : List Char)
    (c : Char) : Bool :=
  c = '|' ∧ backslashes seen % 2 = 0

/- A line cut at its boundaries. -/
def pieces (seen : List Char) : List Char → List (List Char)
| [] => [[]]
| c :: line =>
    let later := pieces (c :: seen) line
    if isBoundary seen c then
      [] :: later
    else
      (c :: later.headD []) :: later.tail

/- What stands between the outer bars of a line. -/
def cells (line : List Char) : List (List Char) :=
  (pieces [] line).tail.dropLast

/- The number of boundaries. -/
def boundaries (seen : List Char) : List Char → Nat
| [] => 0
| c :: line =>
    boundaries (c :: seen) line +
      if isBoundary seen c then 1 else 0

theorem length_pieces
    (seen line : List Char) :
    (pieces seen line).length = boundaries seen line + 1 := by
  induction line generalizing seen with
  | nil => rfl
  | cons c line ih =>
      unfold pieces boundaries
      dsimp only
      split
      · rw [List.length_cons, ih]
      · rw [List.length_cons, List.length_tail, ih]
        rfl

theorem length_cells (line : List Char) :
    (cells line).length = boundaries [] line - 1 := by
  unfold cells
  rw [List.length_dropLast, List.length_tail, length_pieces]
  rfl

------------------------------------------------------------
-- Boundaries
------------------------------------------------------------

theorem backslashes_cons
    (c : Char)
    (seen : List Char) :
    backslashes (c :: seen) =
      if c = '\\' then backslashes seen + 1 else 0 := by
  unfold backslashes
  rw [List.takeWhile_cons]
  by_cases hSlash : c = '\\'
  · simp [hSlash]
  · simp [hSlash]

/- Only the backslashes at the end of what was seen matter. -/
theorem boundaries_congr
    {seen other : List Char}
    (hSame : backslashes seen = backslashes other)
    (text : List Char) :
    boundaries seen text = boundaries other text := by
  induction text generalizing seen other with
  | nil => rfl
  | cons c text ih =>
      have hNext :
          backslashes (c :: seen) = backslashes (c :: other) := by
        rw [backslashes_cons, backslashes_cons, hSame]
      unfold boundaries isBoundary
      rw [ih hNext, hSame]

theorem boundaries_append
    (seen first second : List Char) :
    boundaries seen (first ++ second) =
      boundaries seen first +
        boundaries (first.reverse ++ seen) second := by
  induction first generalizing seen with
  | nil => simp [boundaries]
  | cons c first ih =>
      rw [List.cons_append, boundaries, boundaries, ih,
        List.reverse_cons, List.append_assoc,
        List.singleton_append]
      omega

/- Characters that neither split a line nor end it. -/
def Plain (text : List Char) : Prop :=
  ∀ c ∈ text, c ≠ '|' ∧ c ≠ '\\' ∧ isBreak c = false

instance Plain.decidable (text : List Char) :
    Decidable (Plain text) :=
  List.decidableBAll
    (fun c => c ≠ '|' ∧ c ≠ '\\' ∧ isBreak c = false) text

theorem backslashes_of_plain
    {text seen : List Char}
    (hPlain : Plain text)
    (hSeen : backslashes seen = 0) :
    backslashes (text.reverse ++ seen) = 0 := by
  induction text generalizing seen with
  | nil => exact hSeen
  | cons c text ih =>
      rw [List.reverse_cons, List.append_assoc]
      apply ih (List.forall_mem_of_forall_mem_cons hPlain)
      rw [List.singleton_append, backslashes_cons,
        if_neg (hPlain c List.mem_cons_self).2.1]

theorem boundaries_of_plain
    {text : List Char}
    (hPlain : Plain text)
    (seen : List Char) :
    boundaries seen text = 0 := by
  induction text generalizing seen with
  | nil => rfl
  | cons c text ih =>
      have hBar := (hPlain c List.mem_cons_self).1
      unfold boundaries isBoundary
      rw [ih (List.forall_mem_of_forall_mem_cons hPlain)]
      simp [hBar]

/-
  Every bar of the text follows an even number of backslashes
  (parity 0) or an odd one (parity 1), counting those at the
  end of what was seen before.
-/
def BarsFollow
    (parity : Nat)
    (seen text : List Char) : Prop :=
  ∀ before after,
    text = before ++ '|' :: after →
      backslashes (before.reverse ++ seen) % 2 = parity

theorem barsFollow_nil
    (parity : Nat)
    (seen : List Char) :
    BarsFollow parity seen [] := by
  intro before after hText
  simp at hText

theorem barsFollow_cons_iff
    {parity : Nat}
    {seen text : List Char}
    {c : Char} :
    BarsFollow parity seen (c :: text) ↔
      (c = '|' → backslashes seen % 2 = parity) ∧
        BarsFollow parity (c :: seen) text := by
  constructor
  · intro hBars
    constructor
    · intro hBar
      exact hBars [] text (by rw [hBar]; rfl)
    · intro before after hText
      have hCons := hBars (c :: before) after (by rw [hText]; rfl)
      rw [List.reverse_cons, List.append_assoc] at hCons
      exact hCons
  · rintro ⟨hFirst, hRest⟩ before after hText
    cases before with
    | nil =>
        rw [List.nil_append, List.cons.injEq] at hText
        exact hFirst hText.1
    | cons first before =>
        rw [List.cons_append, List.cons.injEq] at hText
        have hLater := hRest before after hText.2
        rw [hText.1] at hLater
        rw [List.reverse_cons, List.append_assoc]
        exact hLater

/- A text without boundaries has all its bars escaped. -/
theorem boundaries_eq_zero_iff
    (seen text : List Char) :
    boundaries seen text = 0 ↔ BarsFollow 1 seen text := by
  induction text generalizing seen with
  | nil => exact iff_of_true rfl (barsFollow_nil 1 seen)
  | cons c text ih =>
      rw [barsFollow_cons_iff, ← ih, boundaries,
        Nat.add_eq_zero_iff, and_comm]
      apply and_congr_left
      intro _
      unfold isBoundary
      by_cases hBar : c = '|'
      · simp [hBar]
      · simp [hBar]

------------------------------------------------------------
-- Lines Of Rows
------------------------------------------------------------

/- A line that ends with a line feed comes first. -/
theorem lines_append_of_unbroken
    {line : List Char}
    (hUnbroken : ∀ c ∈ line, isBreak c = false)
    (text : List Char) :
    lines (line ++ '\n' :: text) = line :: lines text := by
  induction line with
  | nil => rfl
  | cons c line ih =>
      rw [List.cons_append, lines,
        if_neg (by simp [hUnbroken c List.mem_cons_self]),
        ih (List.forall_mem_of_forall_mem_cons hUnbroken)]

/- Each break before the line feed makes one more line. -/
theorem length_lines_append
    (line text : List Char) :
    (lines (line ++ '\n' :: text)).length =
      line.countP isBreak + 1 + (lines text).length := by
  induction line with
  | nil => exact Nat.add_comm _ _
  | cons c line ih =>
      rw [List.cons_append, lines, List.countP_cons]
      split
      · rw [List.length_cons, ih]
        omega
      · cases hLater : lines (line ++ '\n' :: text) with
        | nil =>
            rw [hLater, List.length_nil] at ih
            omega
        | cons first rest =>
            rw [hLater] at ih
            exact ih

------------------------------------------------------------
-- Rows
------------------------------------------------------------

/- A text between two fences. -/
structure Cell where
  fence : String := ""
  text : String
  plain : Plain fence.toList := by
    intro c hMember
    simp at hMember

namespace Cell

def render (cell : Cell) : String :=
  " " ++ cell.fence ++ cell.text ++ cell.fence ++ " |"

def bare (text : String) : Cell where
  text := text

/- A text set as code. -/
def code (text : String) : Cell where
  fence := "`"
  text := text
  plain := by
    intro c hMember
    simp at hMember
    rw [hMember]
    decide

end Cell

/- A row from its first bar to its last one. -/
def rowLine (row : List Cell) : String :=
  "|" ++ String.join (row.map Cell.render)

/- The text can stand in a cell: it splits no row. -/
def Fits (text : String) : Prop :=
  (∀ c ∈ text.toList, isBreak c = false) ∧
    BarsFollow 1 [] text.toList

theorem fits_of_plain
    {text : String}
    (hPlain : Plain text.toList) :
    Fits text := by
  refine ⟨fun c hMember => (hPlain c hMember).2.2, ?_⟩
  rw [← boundaries_eq_zero_iff]
  exact boundaries_of_plain hPlain []

theorem fits_iff (text : String) :
    Fits text ↔
      text.toList.countP isBreak = 0 ∧
        boundaries [] text.toList = 0 := by
  unfold Fits
  rw [boundaries_eq_zero_iff, List.countP_eq_zero]
  apply and_congr_left
  intro _
  simp

theorem toList_render (cell : Cell) :
    cell.render.toList =
      (' ' :: cell.fence.toList) ++ (cell.text.toList ++
        ((cell.fence.toList ++ [' ']) ++ ['|'])) := by
  simp [Cell.render, String.toList_append]

/- A cell adds its own bar and those that split its text. -/
theorem boundaries_render
    {seen : List Char}
    (hSeen : backslashes seen = 0)
    (cell : Cell) :
    boundaries seen cell.render.toList =
        boundaries [] cell.text.toList + 1 ∧
      backslashes (cell.render.toList.reverse ++ seen) = 0 := by
  have hBlank : Plain [' '] := by
    intro c hMember
    rw [List.mem_singleton] at hMember
    rw [hMember]
    decide
  have hOpen : Plain (' ' :: cell.fence.toList) := by
    intro c hMember
    rcases List.mem_cons.mp hMember with hFirst | hFence
    · exact hBlank c (by rw [hFirst]; exact List.mem_cons_self)
    · exact cell.plain c hFence
  have hClose : Plain (cell.fence.toList ++ [' ']) := by
    intro c hMember
    rcases List.mem_append.mp hMember with hFence | hLast
    · exact cell.plain c hFence
    · exact hBlank c hLast
  have hBefore := backslashes_of_plain hOpen hSeen
  constructor
  · rw [toList_render, boundaries_append, boundaries_append,
      boundaries_append, boundaries_of_plain hOpen,
      boundaries_of_plain hClose,
      boundaries_congr (show _ = backslashes [] from hBefore)]
    simp [boundaries, isBoundary, backslashes_cons]
  · rw [toList_render]
    simp [backslashes_cons]

theorem toList_rowLine (row : List Cell) :
    (rowLine row).toList =
      '|' :: row.flatMap fun cell => cell.render.toList := by
  unfold rowLine
  rw [String.toList_append, String.toList_join, List.flatMap_map]
  rfl

/- The first bar of a row is the only one outside its cells. -/
theorem boundaries_rowLine (row : List Cell) :
    boundaries [] (rowLine row).toList =
      (row.map fun cell =>
        boundaries [] cell.text.toList).sum + row.length + 1 := by
  suffices hCells :
      ∀ seen, backslashes seen = 0 →
        boundaries seen
            (row.flatMap fun cell => cell.render.toList) =
          (row.map fun cell =>
            boundaries [] cell.text.toList).sum + row.length by
    rw [toList_rowLine, boundaries,
      hCells ['|'] (by rw [backslashes_cons]; rfl)]
    rfl
  induction row with
  | nil => exact fun seen hSeen => rfl
  | cons cell row ih =>
      intro seen hSeen
      have hCell := boundaries_render hSeen cell
      rw [List.flatMap_cons, boundaries_append, hCell.1,
        ih _ hCell.2, List.map_cons, List.sum_cons,
        List.length_cons]
      omega

/- A row has the breaks of its texts. -/
theorem countP_isBreak_rowLine (row : List Cell) :
    (rowLine row).toList.countP isBreak =
      (row.map fun cell =>
        cell.text.toList.countP isBreak).sum := by
  have hCell :
      ∀ cell ∈ row,
        cell.render.toList.countP isBreak =
          cell.text.toList.countP isBreak := by
    intro cell _
    have hFence : cell.fence.toList.countP isBreak = 0 := by
      rw [List.countP_eq_zero]
      intro c hMember
      simp [(cell.plain c hMember).2.2]
    rw [toList_render]
    simp [List.countP_append, hFence, isBreak]
  rw [toList_rowLine, List.countP_cons, List.countP_flatMap]
  rw [if_neg (by decide), Nat.add_zero]
  exact congrArg List.sum (List.map_congr_left hCell)

------------------------------------------------------------
-- Tables
------------------------------------------------------------

/- What is written above the rows and each row with its end. -/
structure Table where
  head : String
  rows : List String

namespace Table

def render (table : Table) : String :=
  table.head ++ String.join table.rows

/- The cells of the line with the names of the columns. -/
def columns (table : Table) : Nat :=
  (cells ((lines table.head.toList).headD [])).length

/- One line for each row with a cell for each column. -/
def WellFormed (table : Table) : Prop :=
  let below := lines (String.join table.rows).toList
  below.length = table.rows.length ∧
    ∀ line ∈ below, (cells line).length = table.columns

end Table

/- A row and the end of its line. -/
def rowText (row : List Cell) : String :=
  rowLine row ++ "\n"

theorem toList_join_rowText
    (row : List Cell)
    (rows : List (List Cell)) :
    (String.join ((row :: rows).map rowText)).toList =
      (rowLine row).toList ++
        '\n' :: (String.join (rows.map rowText)).toList := by
  rw [List.map_cons, String.join_cons, rowText,
    String.toList_append, String.toList_append,
    List.append_assoc]
  rfl

/- The breaks inside the rows are the lines too many. -/
theorem length_lines_rows (rows : List (List Cell)) :
    (lines (String.join (rows.map rowText)).toList).length =
      (rows.map fun row =>
        (rowLine row).toList.countP isBreak).sum +
        rows.length := by
  induction rows with
  | nil => rfl
  | cons row rows ih =>
      rw [toList_join_rowText, length_lines_append, ih,
        List.map_cons, List.sum_cons, List.length_cons]
      omega

theorem length_lines_eq_iff (rows : List (List Cell)) :
    (lines (String.join (rows.map rowText)).toList).length =
        rows.length ↔
      ∀ row ∈ rows, ∀ cell ∈ row,
        cell.text.toList.countP isBreak = 0 := by
  rw [length_lines_rows]
  simp [countP_isBreak_rowLine,
    List.sum_eq_zero_iff_forall_eq_nat]

/- Without breaks in the texts each row is a line. -/
theorem lines_rows
    {rows : List (List Cell)}
    (hTexts :
      ∀ row ∈ rows, ∀ cell ∈ row,
        cell.text.toList.countP isBreak = 0) :
    lines (String.join (rows.map rowText)).toList =
      rows.map fun row => (rowLine row).toList := by
  induction rows with
  | nil => rfl
  | cons row rows ih =>
      rcases List.forall_mem_cons.mp hTexts with
        ⟨hRow, hRows⟩
      have hNone : (rowLine row).toList.countP isBreak = 0 := by
        rw [countP_isBreak_rowLine,
          List.sum_eq_zero_iff_forall_eq_nat]
        exact List.forall_mem_map.mpr hRow
      have hUnbroken :
          ∀ c ∈ (rowLine row).toList, isBreak c = false :=
        fun c hC =>
          Bool.eq_false_iff.mpr (List.countP_eq_zero.mp hNone c hC)
      rw [toList_join_rowText,
        lines_append_of_unbroken hUnbroken, ih hRows,
        List.map_cons]

/- A row has a cell for each text unless a text is split. -/
theorem length_cells_rowLine_iff (row : List Cell) :
    (cells (rowLine row).toList).length = row.length ↔
      ∀ cell ∈ row, boundaries [] cell.text.toList = 0 := by
  rw [length_cells, boundaries_rowLine, Nat.add_sub_cancel]
  simp [List.sum_eq_zero_iff_forall_eq_nat]

/- A table of the right width depends on its texts alone. -/
theorem Table.wellFormed_iff
    {table : Table}
    {rows : List (List Cell)}
    (hRows : table.rows = rows.map rowText)
    (hWidth : ∀ row ∈ rows, row.length = table.columns) :
    table.WellFormed ↔
      ∀ row ∈ rows, ∀ cell ∈ row, Fits cell.text := by
  unfold WellFormed
  rw [hRows, List.length_map]
  simp only [length_lines_eq_iff, fits_iff]
  constructor
  · rintro ⟨hTexts, hWidths⟩ row hRow cell hCell
    rw [lines_rows hTexts] at hWidths
    have hLine := List.forall_mem_map.mp hWidths row hRow
    rw [← hWidth row hRow, length_cells_rowLine_iff] at hLine
    exact ⟨hTexts row hRow cell hCell, hLine cell hCell⟩
  · intro hFits
    have hTexts :
        ∀ row ∈ rows, ∀ cell ∈ row,
          cell.text.toList.countP isBreak = 0 :=
      fun row hRow cell hCell => (hFits row hRow cell hCell).1
    refine ⟨hTexts, ?_⟩
    rw [lines_rows hTexts, List.forall_mem_map]
    intro row hRow
    rw [← hWidth row hRow, length_cells_rowLine_iff]
    intro cell hCell
    exact (hFits row hRow cell hCell).2

------------------------------------------------------------
-- Tables Of Entries
------------------------------------------------------------

/- How the entries of a table become its rows. -/
structure TableFormat (α : Type) where
  head : String
  row : α → String
  cells : α → List Cell
  row_eq : ∀ entry, row entry = rowText (cells entry)
  length_cells :
    ∀ entry,
      (cells entry).length =
        (Table.mk head []).columns

namespace TableFormat

variable {α : Type}

def table
    (format : TableFormat α)
    (entries : List α) : Table where
  head := format.head
  rows := entries.map format.row

/-
  The texts of the entries decide whether the table is well
  formed, each by what it takes to fit.
-/
theorem table_wellFormed_iff
    {format : TableFormat α}
    {texts : α → List String}
    {Keeps : String → Prop}
    (hTexts :
      ∀ entry,
        (∀ cell ∈ format.cells entry, Fits cell.text) ↔
          ∀ text ∈ texts entry, Keeps text)
    (entries : List α) :
    (format.table entries).WellFormed ↔
      ∀ text ∈ entries.flatMap texts, Keeps text := by
  have hRows :
      (format.table entries).rows =
        (entries.map format.cells).map rowText := by
    rw [List.map_map]
    apply List.map_congr_left
    intro entry _
    exact format.row_eq entry
  rw [Table.wellFormed_iff hRows]
  · simp only [List.forall_mem_map, hTexts, List.mem_flatMap]
    constructor
    · rintro hEach text ⟨entry, hEntry, hText⟩
      exact hEach entry hEntry text hText
    · intro hAll entry hEntry text hText
      exact hAll text ⟨entry, hEntry, hText⟩
  · intro row hRow
    rcases List.mem_map.mp hRow with ⟨entry, _, rfl⟩
    exact format.length_cells entry

end TableFormat

------------------------------------------------------------
-- Documents
------------------------------------------------------------

/- A part of a document. -/
inductive Piece where
  | prose (text : String)
  | table (written : Table)

namespace Piece

def render : Piece → String
| prose text => text
| table written => written.render

def table? : Piece → Option Table
| prose _ => none
| table written => some written

@[simp] theorem render_prose (text : String) :
    (prose text).render = text := rfl

end Piece

/- The table of some entries, or a line if there are none. -/
def TableFormat.orProse
    {α : Type}
    (format : TableFormat α)
    (nothing : String)
    (entries : List α) : Piece :=
  if entries.isEmpty then
    .prose nothing
  else
    .table (format.table entries)

def render (document : List Piece) : String :=
  String.join (document.map Piece.render)

def tables (document : List Piece) : List Table :=
  document.filterMap Piece.table?

@[simp] theorem tables_nil : tables [] = [] := rfl

@[simp] theorem tables_prose_cons
    (text : String)
    (document : List Piece) :
    tables (.prose text :: document) = tables document := rfl

/- The tables are well formed piece by piece. -/
theorem allWellFormed_cons_iff
    (piece : Piece)
    (document : List Piece) :
    (∀ table ∈ tables (piece :: document), table.WellFormed) ↔
      (∀ table ∈ piece.table?, table.WellFormed) ∧
        ∀ table ∈ tables document, table.WellFormed := by
  unfold tables
  rw [List.filterMap_cons]
  cases piece with
  | prose text => simp [Piece.table?]
  | table written => simp [Piece.table?]

/- Without entries there is no table and there are no texts. -/
theorem TableFormat.orProse_wellFormed_iff
    {α : Type}
    {format : TableFormat α}
    {texts : α → List String}
    {Keeps : String → Prop}
    (hTexts :
      ∀ entry,
        (∀ cell ∈ format.cells entry, Fits cell.text) ↔
          ∀ text ∈ texts entry, Keeps text)
    (nothing : String)
    (entries : List α) :
    (∀ table ∈ (format.orProse nothing entries).table?,
        table.WellFormed) ↔
      ∀ text ∈ entries.flatMap texts, Keeps text := by
  unfold orProse
  cases entries with
  | nil => simp [Piece.table?]
  | cons entry entries =>
      rw [← table_wellFormed_iff hTexts]
      simp [Piece.table?]

end MarkdownTables
