import FaultInjection.Foundations.MarkdownTables

/-
  Reading the tables of a text back.

  A table is found by the title above it. If its texts fit,
  the cells between the bars of its lines are the texts that
  were written, between blanks and fences.

  Key definitions include:
    * `MarkdownTables.Cell.inner`
    * `MarkdownTables.readCell`
    * `MarkdownTables.TitledTable`
    * `MarkdownTables.readTable`

  Key theorems include:
    * `MarkdownTables.cells_rowLine`
    * `MarkdownTables.readCell_inner`
    * `MarkdownTables.readTable_of_mem`
-/

namespace MarkdownTables

------------------------------------------------------------
-- Cells
------------------------------------------------------------

/- What stands between the two bars of a cell. -/
def Cell.inner (cell : Cell) : List Char :=
  (' ' :: cell.fence.toList) ++ (cell.text.toList ++
    (cell.fence.toList ++ [' ']))

/- The text in a cell with a fence of this width. -/
def readCell (width : Nat) (inner : List Char) : String :=
  String.ofList
    ((inner.drop (width + 1)).take
      (inner.length - 2 * (width + 1)))

theorem readCell_inner
    {cell : Cell}
    {width : Nat}
    (hWidth : cell.fence.toList.length = width) :
    readCell width cell.inner = cell.text := by
  have hLength :
      cell.inner.length - 2 * (width + 1) =
        cell.text.toList.length := by
    simp only [Cell.inner, List.length_append,
      List.length_cons, List.length_nil, hWidth]
    omega
  have hDrop :
      cell.inner.drop (width + 1) =
        cell.text.toList ++ (cell.fence.toList ++ [' ']) := by
    refine List.drop_left' ?_
    rw [List.length_cons, hWidth]
  rw [readCell, hLength, hDrop, List.take_left,
    String.ofList_toList]

/- A part without a boundary belongs to the first piece. -/
theorem pieces_append_of_boundaries_eq_zero
    {seen first : List Char}
    (hNone : boundaries seen first = 0)
    (second : List Char) :
    pieces seen (first ++ second) =
      (first ++
          (pieces (first.reverse ++ seen) second).headD []) ::
        (pieces (first.reverse ++ seen) second).tail := by
  induction first generalizing seen with
  | nil =>
      have hLength := length_pieces seen second
      cases hPieces : pieces seen second with
      | nil =>
          rw [hPieces] at hLength
          cases hLength
      | cons piece rest => simp [hPieces]
  | cons c first ih =>
      unfold boundaries at hNone
      have hLater : boundaries (c :: seen) first = 0 := by omega
      have hHere : isBoundary seen c = false := by
        by_contra hBoundary
        simp [hBoundary] at hNone
      rw [List.cons_append, pieces, ih hLater]
      simp [hHere]

/- A cell whose text fits is a piece of its own. -/
theorem pieces_render
    {seen : List Char}
    {cell : Cell}
    (hSeen : backslashes seen = 0)
    (hFits : boundaries [] cell.text.toList = 0)
    (rest : List Char) :
    pieces seen (cell.render.toList ++ rest) =
      cell.inner ::
        pieces (cell.render.toList.reverse ++ seen) rest := by
  have hInner :
      cell.render.toList = cell.inner ++ ['|'] := by
    simp only [toList_render, Cell.inner, List.append_assoc]
  have hBoundaries := (boundaries_render hSeen cell).1
  rw [hInner, boundaries_append, hFits] at hBoundaries
  have hOpen :
      backslashes (cell.inner.reverse ++ seen) = 0 := by
    simp [Cell.inner, backslashes_cons]
  have hBar :
      isBoundary (cell.inner.reverse ++ seen) '|' = true := by
    simp [isBoundary, hOpen]
  have hNone : boundaries seen cell.inner = 0 := by
    have hLast :
        boundaries (cell.inner.reverse ++ seen) ['|'] = 1 := by
      simp [boundaries, hBar]
    omega
  rw [hInner, List.append_assoc,
    pieces_append_of_boundaries_eq_zero hNone,
    List.singleton_append, pieces]
  simp [hBar]

theorem pieces_renders
    {seen : List Char}
    {row : List Cell}
    (hSeen : backslashes seen = 0)
    (hFits :
      ∀ cell ∈ row, boundaries [] cell.text.toList = 0) :
    pieces seen (row.flatMap fun cell => cell.render.toList) =
      row.map Cell.inner ++ [[]] := by
  induction row generalizing seen with
  | nil => rfl
  | cons cell row ih =>
      rcases List.forall_mem_cons.mp hFits with
        ⟨hCell, hRow⟩
      have hLater := (boundaries_render hSeen cell).2
      rw [List.flatMap_cons, pieces_render hSeen hCell,
        ih hLater hRow, List.map_cons, List.cons_append]

/- The cells of a row are those that were written. -/
theorem cells_rowLine
    {row : List Cell}
    (hFits : ∀ cell ∈ row, Fits cell.text) :
    cells (rowLine row).toList = row.map Cell.inner := by
  have hNone :
      ∀ cell ∈ row, boundaries [] cell.text.toList = 0 :=
    fun cell hCell => ((fits_iff _).mp (hFits cell hCell)).2
  have hBar : isBoundary [] '|' = true := by
    decide
  rw [cells, toList_rowLine, pieces]
  simp only [hBar, if_true, List.tail_cons]
  rw [pieces_renders (by decide) hNone,
    List.dropLast_concat]

------------------------------------------------------------
-- Lines
------------------------------------------------------------

/- The text with the given lines. -/
def ofLines (written : List String) : String :=
  String.join (written.map fun line => line ++ "\n")

/- No line break is part of the line. -/
def Unbroken (line : String) : Prop :=
  ∀ c ∈ line.toList, isBreak c = false

instance (line : String) : Decidable (Unbroken line) :=
  List.decidableBAll (fun c => isBreak c = false) line.toList

theorem ofLines_append (first second : List String) :
    ofLines (first ++ second) =
      ofLines first ++ ofLines second := by
  unfold ofLines
  rw [List.map_append, String.join_append]

/- Unbroken lines are read back. -/
theorem lines_ofLines
    {written : List String}
    (hUnbroken : ∀ line ∈ written, Unbroken line) :
    lines (ofLines written).toList =
      written.map String.toList := by
  induction written with
  | nil => rfl
  | cons line written ih =>
      rcases List.forall_mem_cons.mp hUnbroken with
        ⟨hLine, hRest⟩
      have hText :
          (ofLines (line :: written)).toList =
            line.toList ++ '\n' :: (ofLines written).toList := by
        simp [ofLines, String.toList_append]
      rw [hText, lines_append_of_unbroken hLine, ih hRest,
        List.map_cons]

/- A row whose texts fit is one line. -/
theorem unbroken_rowLine
    {row : List Cell}
    (hFits : ∀ cell ∈ row, Fits cell.text) :
    Unbroken (rowLine row) := by
  have hNone : (rowLine row).toList.countP isBreak = 0 := by
    rw [countP_isBreak_rowLine,
      List.sum_eq_zero_iff_forall_eq_nat]
    intro count hCount
    rcases List.mem_map.mp hCount with ⟨cell, hCell, rfl⟩
    exact ((fits_iff _).mp (hFits cell hCell)).1
  intro c hC
  exact Bool.eq_false_iff.mpr (List.countP_eq_zero.mp hNone c hC)

------------------------------------------------------------
-- Titles
------------------------------------------------------------

/-
  A table below a title, or a sentence if it has no rows.
  Only titles start with a hash.
-/
structure TitledTable where
  title : String
  nothing : String
  names : String
  rule : String
  rows : List (List Cell)
  marked : title.toList.head? = some '#' := by decide
  unbroken : Unbroken title := by decide
  framed :
    ∀ line ∈ [nothing, names, rule],
      line ≠ "" ∧ line.toList.head? ≠ some '#' ∧
        Unbroken line := by
    decide

namespace TitledTable

/- What is written below the title. -/
def body (t : TitledTable) : List String :=
  if t.rows.isEmpty then
    [t.nothing]
  else
    t.names :: t.rule :: t.rows.map rowLine

/- The lines of the table, with a blank one before it. -/
def written (t : TitledTable) : List String :=
  "" :: t.title :: "" :: t.body

variable {t : TitledTable}
variable {line : String}

theorem mem_body
    (hLine : line ∈ t.body) :
    line ∈ [t.nothing, t.names, t.rule] ∨
      ∃ row ∈ t.rows, line = rowLine row := by
  unfold body at hLine
  split at hLine
  · rw [List.mem_singleton.mp hLine]
    exact .inl List.mem_cons_self
  · rcases List.mem_cons.mp hLine with hNames | hLine
    · rw [hNames]
      simp
    · rcases List.mem_cons.mp hLine with hRule | hRow
      · rw [hRule]
        simp
      · rcases List.mem_map.mp hRow with ⟨row, hRow, hSame⟩
        exact .inr ⟨row, hRow, hSame.symm⟩

theorem head?_rowLine (row : List Cell) :
    (rowLine row).toList.head? = some '|' := by
  rw [toList_rowLine]
  rfl

/- No line below the title is empty or looks like a title. -/
theorem of_mem_body
    (hLine : line ∈ t.body) :
    line ≠ "" ∧ line.toList.head? ≠ some '#' := by
  rcases mem_body hLine with hFrame | ⟨row, _, hRow⟩
  · exact ⟨(t.framed line hFrame).1, (t.framed line hFrame).2.1⟩
  · have hHead := head?_rowLine row
    rw [← hRow] at hHead
    refine ⟨?_, ?_⟩
    · intro hEmpty
      rw [hEmpty] at hHead
      simp at hHead
    · rw [hHead]
      decide

/- The only line that looks like a title is the title. -/
theorem eq_title_of_mem
    (hLine : line ∈ t.written)
    (hMarked : line.toList.head? = some '#') :
    line = t.title := by
  have hEmpty : line ≠ "" := by
    intro hEmpty
    rw [hEmpty] at hMarked
    simp at hMarked
  rcases List.mem_cons.mp hLine with hFirst | hLine
  · exact absurd hFirst hEmpty
  · rcases List.mem_cons.mp hLine with hTitle | hLine
    · exact hTitle
    · rcases List.mem_cons.mp hLine with hBlank | hBody
      · exact absurd hBlank hEmpty
      · exact absurd hMarked (of_mem_body hBody).2

/- Texts that fit leave all lines in one piece. -/
theorem unbroken_of_mem
    (hFits : ∀ row ∈ t.rows, ∀ cell ∈ row, Fits cell.text)
    (hLine : line ∈ t.written) :
    Unbroken line := by
  have hBlank : Unbroken "" := by
    decide
  rcases List.mem_cons.mp hLine with hFirst | hLine
  · rw [hFirst]
    exact hBlank
  · rcases List.mem_cons.mp hLine with hTitle | hLine
    · rw [hTitle]
      exact t.unbroken
    · rcases List.mem_cons.mp hLine with hBelow | hBody
      · rw [hBelow]
        exact hBlank
      · rcases mem_body hBody with hFrame | ⟨row, hRow, hSame⟩
        · exact (t.framed line hFrame).2.2
        · rw [hSame]
          exact unbroken_rowLine (hFits row hRow)

end TitledTable

/- The rows of the table below a title, as cells. -/
def readTable
    (title : String)
    (text : List (List Char)) : List (List (List Char)) :=
  let below :=
    (text.dropWhile fun line => line ≠ title.toList).drop 2
  ((below.takeWhile fun line => line ≠ []).drop 2).map cells

/- A table is read up to the blank line that ends it. -/
theorem takeWhile_body
    (t : TitledTable)
    (later : List TitledTable) :
    (((t.body ++ later.flatMap TitledTable.written).map
        String.toList).takeWhile fun line => line ≠ []) =
      t.body.map String.toList := by
  rw [List.map_append, List.takeWhile_append_of_pos]
  · cases later with
    | nil => simp
    | cons next later => simp [TitledTable.written]
  · intro line hLine
    rcases List.mem_map.mp hLine with ⟨text, hText, rfl⟩
    have hSome := (TitledTable.of_mem_body hText).1
    simpa using hSome

/- The table below a new title is read back. -/
theorem readTable_eq
    {before : List String}
    {t : TitledTable}
    (hNew : t.title ∉ before)
    (hFits : ∀ row ∈ t.rows, ∀ cell ∈ row, Fits cell.text)
    (later : List TitledTable) :
    readTable t.title
        ((before ++
          (t.written ++
            later.flatMap TitledTable.written)).map
          String.toList) =
      t.rows.map (List.map Cell.inner) := by
  have hBefore :
      ∀ line ∈ before.map String.toList,
        decide (line ≠ t.title.toList) = true := by
    intro line hLine
    rcases List.mem_map.mp hLine with ⟨text, hText, rfl⟩
    rw [decide_eq_true_iff]
    intro hSame
    rw [String.toList_injective hSame] at hText
    exact hNew hText
  have hBlank : "".toList ≠ t.title.toList := by
    intro hSame
    have hMarked := t.marked
    rw [← hSame] at hMarked
    simp at hMarked
  have hFound :
      ((before ++
            (t.written ++
              later.flatMap TitledTable.written)).map
            String.toList).dropWhile
          (fun line => line ≠ t.title.toList) =
        (t.title :: "" :: (t.body ++
          later.flatMap TitledTable.written)).map
          String.toList := by
    rw [List.map_append, List.dropWhile_append_of_pos hBefore,
      TitledTable.written, List.cons_append, List.map_cons,
      List.dropWhile_cons_of_pos (by simpa using hBlank),
      List.cons_append, List.map_cons,
      List.dropWhile_cons_of_neg (by simp)]
    rfl
  have hBelow :
      ((t.title :: "" :: (t.body ++
          later.flatMap TitledTable.written)).map
          String.toList).drop 2 =
        (t.body ++ later.flatMap TitledTable.written).map
          String.toList := rfl
  rw [readTable]
  simp only [hFound, hBelow]
  rw [takeWhile_body]
  unfold TitledTable.body
  cases hRows : t.rows with
  | nil => rfl
  | cons row rows =>
      rw [hRows] at hFits
      simp only [List.isEmpty_cons, Bool.false_eq_true,
        if_false, List.map_cons, List.drop_succ_cons,
        List.drop_zero]
      rw [cells_rowLine (hFits row List.mem_cons_self),
        List.map_map, List.map_map]
      refine congrArg _ (List.map_congr_left ?_)
      intro other hOther
      exact
        cells_rowLine
          (hFits other (List.mem_cons_of_mem row hOther))

/- Each table of a text is found under its own title. -/
theorem readTable_of_mem
    {before : List String}
    {tables : List TitledTable}
    {t : TitledTable}
    (hDistinct : (tables.map TitledTable.title).Nodup)
    (hTable : t ∈ tables)
    (hNew : t.title ∉ before)
    (hFits : ∀ row ∈ t.rows, ∀ cell ∈ row, Fits cell.text) :
    readTable t.title
        ((before ++ tables.flatMap TitledTable.written).map
          String.toList) =
      t.rows.map (List.map Cell.inner) := by
  rcases List.append_of_mem hTable with
    ⟨earlier, later, hSplit⟩
  rw [hSplit, List.map_append, List.map_cons] at hDistinct
  have hApart : t.title ∉ earlier.map TitledTable.title := by
    intro hEarlier
    exact
      (List.nodup_append.mp hDistinct).2.2 _ hEarlier _
        List.mem_cons_self rfl
  have hUnseen :
      t.title ∉
        before ++ earlier.flatMap TitledTable.written := by
    intro hSeen
    rcases List.mem_append.mp hSeen with hBefore | hEarlier
    · exact hNew hBefore
    · rcases List.mem_flatMap.mp hEarlier with
        ⟨other, hOther, hLine⟩
      rw [TitledTable.eq_title_of_mem hLine t.marked] at hApart
      exact hApart (List.mem_map_of_mem hOther)
  rw [hSplit, List.flatMap_append, List.flatMap_cons,
    ← List.append_assoc]
  exact readTable_eq hUnseen hFits later

end MarkdownTables
