import Mathlib.Data.List.Perm.Basic

/-
  Choosing the best of some values by going through them and
  keeping the better one, from a start value on.

  Values that are not comparable are never better and never
  worse than another one.

  Key definitions include:
    * `BestChoice`
    * `BestChoice.pick`
    * `BestChoice.AtLeast`
    * `BestChoice.Applies`

  Key theorems include:
    * `BestChoice.foldl_pick`
    * `BestChoice.foldl_pick_best`
    * `BestChoice.applies_iff`
    * `BestChoice.pick_right_comm`
-/

------------------------------------------------------------
-- Choices
------------------------------------------------------------

/- When the second of two values replaces the first. -/
structure BestChoice (α : Type) where
  better : α → α → Bool
  comparable : α → Prop
  incomparable :
    ∀ a x, ¬ comparable a →
      better a x = false ∧ better x a = false
  asymm : ∀ a b, better a b = true → better b a = false
  trans :
    ∀ a b c, comparable a → comparable b → comparable c →
      better a b = false → better b c = false →
        better a c = false
  antisymm :
    ∀ a b, comparable a → comparable b →
      better a b = false → better b a = false → a = b

namespace BestChoice

variable {α : Type}
variable (choice : BestChoice α)

/- Keep the value unless the other one is better. -/
def pick (value other : α) : α :=
  if choice.better value other then other else value

/- The value is comparable with the other and no worse. -/
def AtLeast (value other : α) : Prop :=
  choice.comparable value ∧ choice.comparable other ∧
    choice.better value other = false

/-
  What was chosen is the best of the values, or the start
  value if there is none.
-/
def Applies
    (start : α)
    (values : List α)
    (chosen : α) : Prop :=
  (values = [] → chosen = start) ∧
    (values ≠ [] →
      chosen ∈ values ∧
        ∀ other ∈ values, choice.AtLeast chosen other)

/- What a choice from a start value on gives. -/
structure ChosenFrom
    (start : α)
    (values : List α)
    (chosen : α) : Prop where
  mem : chosen ∈ start :: values
  best :
    choice.comparable start →
      (∀ value ∈ values, choice.comparable value) →
        ∀ other ∈ start :: values,
          choice.better chosen other = false
  kept : ¬ choice.comparable start → chosen = start

end BestChoice

------------------------------------------------------------
-- Folds
------------------------------------------------------------

namespace BestChoice

variable {α : Type}
variable {choice : BestChoice α}

theorem irrefl (a : α) : choice.better a a = false := by
  by_contra hSelf
  rw [Bool.not_eq_false] at hSelf
  have hNot := choice.asymm a a hSelf
  rw [hSelf] at hNot
  cases hNot

theorem pick_mem (a x : α) :
    choice.pick a x = a ∨ choice.pick a x = x := by
  unfold pick
  by_cases hBetter : choice.better a x = true
  · exact Or.inr (if_pos hBetter)
  · exact Or.inl (if_neg hBetter)

theorem comparable_pick
    {a x : α}
    (hA : choice.comparable a)
    (hX : choice.comparable x) :
    choice.comparable (choice.pick a x) := by
  rcases choice.pick_mem a x with hKept | hTaken
  · rw [hKept]
    exact hA
  · rw [hTaken]
    exact hX

/- Neither of the two is better than the one picked. -/
theorem not_better_pick (a x : α) :
    choice.better (choice.pick a x) a = false ∧
      choice.better (choice.pick a x) x = false := by
  unfold pick
  by_cases hBetter : choice.better a x = true
  · rw [if_pos hBetter]
    exact ⟨choice.asymm a x hBetter, choice.irrefl x⟩
  · rw [if_neg hBetter]
    exact ⟨choice.irrefl a, Bool.eq_false_iff.mpr hBetter⟩

/- A value that is not comparable is kept, and never taken. -/
theorem pick_of_incomparable
    {a x : α}
    (hBad : ¬ choice.comparable a ∨ ¬ choice.comparable x) :
    choice.pick a x = a := by
  unfold pick
  rw [if_neg]
  rcases hBad with hA | hX
  · rw [(choice.incomparable a x hA).1]
    simp
  · rw [(choice.incomparable x a hX).2]
    simp

section ChosenFrom

variable {start first chosen : α}
variable {rest : List α}

/- What is chosen from comparable values is comparable. -/
theorem ChosenFrom.comparable
    (hChosen : choice.ChosenFrom start rest chosen)
    (hStart : choice.comparable start)
    (hRest : ∀ value ∈ rest, choice.comparable value) :
    choice.comparable chosen := by
  rcases List.mem_cons.mp hChosen.mem with hSame | hLater
  · rw [hSame]
    exact hStart
  · exact hRest chosen hLater

/- Choosing first between the start and the first value. -/
theorem ChosenFrom.cons
    (hChosen :
      choice.ChosenFrom (choice.pick start first) rest
        chosen) :
    choice.ChosenFrom start (first :: rest) chosen where
  mem := by
    rcases List.mem_cons.mp hChosen.mem with hPicked | hRest
    · rcases choice.pick_mem start first with hOld | hNew
      · rw [hPicked, hOld]
        exact List.mem_cons_self
      · rw [hPicked, hNew]
        exact List.mem_cons_of_mem _ List.mem_cons_self
    · exact
        List.mem_cons_of_mem _
          (List.mem_cons_of_mem _ hRest)
  best := by
    intro hStart hAll other hOther
    have hFirst := hAll first List.mem_cons_self
    have hRest :
        ∀ value ∈ rest, choice.comparable value :=
      fun value hValue =>
        hAll value (List.mem_cons_of_mem _ hValue)
    have hPick := choice.comparable_pick hStart hFirst
    have hBetter := hChosen.best hPick hRest
    have hPicked :=
      hBetter (choice.pick start first) List.mem_cons_self
    have hComparable := hChosen.comparable hPick hRest
    have hNeither := choice.not_better_pick start first
    rcases List.mem_cons.mp hOther with hSame | hLater
    · rw [hSame]
      exact
        choice.trans _ _ _ hComparable hPick hStart hPicked
          hNeither.1
    · rcases List.mem_cons.mp hLater with hSame | hMore
      · rw [hSame]
        exact
          choice.trans _ _ _ hComparable hPick hFirst hPicked
            hNeither.2
      · exact hBetter other (List.mem_cons_of_mem _ hMore)
  kept := by
    intro hBad
    have hSame : choice.pick start first = start :=
      choice.pick_of_incomparable (Or.inl hBad)
    have hKept := hChosen.kept
    rw [hSame] at hKept
    exact hKept hBad

end ChosenFrom

/- Going through values keeps the best of them. -/
theorem foldl_pick
    (choice : BestChoice α)
    (values : List α)
    (start : α) :
    choice.ChosenFrom start values
      (values.foldl choice.pick start) := by
  induction values generalizing start with
  | nil =>
      refine ⟨by simp, ?_, fun _ => rfl⟩
      intro _ _ other hOther
      rw [List.mem_singleton.mp hOther]
      exact choice.irrefl start
  | cons first rest ih =>
      rw [List.foldl_cons]
      exact (ih (choice.pick start first)).cons

/-
  From a comparable start value on, no comparable value is
  better than what is kept.
-/
theorem foldl_pick_best
    (choice : BestChoice α)
    (values : List α)
    {start : α}
    (hStart : choice.comparable start) :
    choice.comparable (values.foldl choice.pick start) ∧
      ∀ other ∈ start :: values,
        choice.comparable other →
          choice.better (values.foldl choice.pick start)
              other =
            false := by
  induction values generalizing start with
  | nil =>
      refine ⟨hStart, ?_⟩
      intro other hOther _
      rw [List.mem_singleton.mp hOther]
      exact choice.irrefl start
  | cons first rest ih =>
      have hPick :
          choice.comparable (choice.pick start first) := by
        by_cases hFirst : choice.comparable first
        · exact comparable_pick hStart hFirst
        · rw [pick_of_incomparable (Or.inr hFirst)]
          exact hStart
      rw [List.foldl_cons]
      rcases ih hPick with ⟨hKept, hBest⟩
      refine ⟨hKept, ?_⟩
      intro other hOther hComparable
      have hPicked :=
        hBest (choice.pick start first) List.mem_cons_self
          hPick
      have hNeither := choice.not_better_pick start first
      rcases List.mem_cons.mp hOther with hSame | hLater
      · rw [hSame]
        exact
          choice.trans _ _ _ hKept hPick hStart hPicked
            hNeither.1
      · rcases List.mem_cons.mp hLater with hSame | hMore
        · rw [hSame] at hComparable ⊢
          exact
            choice.trans _ _ _ hKept hPick hComparable
              hPicked hNeither.2
        · exact
            hBest other (List.mem_cons_of_mem _ hMore)
              hComparable

/-
  The choice applies exactly if all values are comparable and
  the start value does not beat them all.
-/
theorem applies_iff
    {start chosen : α}
    {values : List α}
    (hChosen : choice.ChosenFrom start values chosen) :
    choice.Applies start values chosen ↔
      (∀ value ∈ values, choice.comparable value) ∧
        (values = [] ∨
          ∃ value ∈ values, choice.AtLeast value start) := by
  constructor
  · rintro ⟨_, hSome⟩
    by_cases hNone : values = []
    · refine ⟨?_, Or.inl hNone⟩
      intro value hValue
      rw [hNone] at hValue
      cases hValue
    · rcases hSome hNone with ⟨hMem, hBest⟩
      have hAll :
          ∀ value ∈ values, choice.comparable value :=
        fun value hValue => (hBest value hValue).2.1
      refine ⟨hAll, Or.inr ⟨chosen, hMem, hAll _ hMem, ?_⟩⟩
      by_cases hStart : choice.comparable start
      · exact
          ⟨hStart,
            hChosen.best hStart hAll start
              List.mem_cons_self⟩
      · rw [hChosen.kept hStart] at hMem
        exact absurd (hAll start hMem) hStart
  · rintro ⟨hAll, hEnough⟩
    refine ⟨?_, ?_⟩
    · intro hNone
      have hMem := hChosen.mem
      rw [hNone, List.mem_singleton] at hMem
      exact hMem
    · intro hSome
      rcases hEnough with hNone | ⟨value, hValue, _, hStart,
        hNoWorse⟩
      · exact absurd hNone hSome
      · have hBest := hChosen.best hStart hAll
        have hMem : chosen ∈ values := by
          rcases List.mem_cons.mp hChosen.mem with hSame | hIn
          · have hBack :=
              hBest value (List.mem_cons_of_mem _ hValue)
            rw [hSame] at hBack
            rw [hSame,
              choice.antisymm start value hStart
                (hAll value hValue) hBack hNoWorse]
            exact hValue
          · exact hIn
        refine ⟨hMem, fun other hOther =>
          ⟨hAll chosen hMem, hAll other hOther, ?_⟩⟩
        exact hBest other (List.mem_cons_of_mem _ hOther)

/- The order in which two values are met does not matter. -/
theorem pick_right_comm (a x y : α) :
    choice.pick (choice.pick a x) y =
      choice.pick (choice.pick a y) x := by
  by_cases hA : choice.comparable a
  · by_cases hX : choice.comparable x
    · by_cases hY : choice.comparable y
      · have hLeft := choice.foldl_pick [x, y] a
        have hRight := choice.foldl_pick [y, x] a
        have hBothXY :
            ∀ value ∈ [x, y], choice.comparable value := by
          simp [hX, hY]
        have hBothYX :
            ∀ value ∈ [y, x], choice.comparable value := by
          simp [hX, hY]
        have hMemLeft := hLeft.mem
        have hMemRight := hRight.mem
        have hBestLeft := hLeft.best hA hBothXY
        have hBestRight := hRight.best hA hBothYX
        simp only [List.foldl_cons, List.foldl_nil,
          List.mem_cons, List.not_mem_nil, or_false,
          forall_eq_or_imp, forall_eq] at *
        refine choice.antisymm _ _
          (choice.comparable_pick
            (choice.comparable_pick hA hX) hY)
          (choice.comparable_pick
            (choice.comparable_pick hA hY) hX) ?_ ?_
        · rcases hMemRight with hSame | hSame | hSame
          · rw [hSame]
            exact hBestLeft.1
          · rw [hSame]
            exact hBestLeft.2.2
          · rw [hSame]
            exact hBestLeft.2.1
        · rcases hMemLeft with hSame | hSame | hSame
          · rw [hSame]
            exact hBestRight.1
          · rw [hSame]
            exact hBestRight.2.2
          · rw [hSame]
            exact hBestRight.2.1
      · rw [choice.pick_of_incomparable (Or.inr hY),
          choice.pick_of_incomparable (x := y) (Or.inr hY)]
    · rw [choice.pick_of_incomparable (x := x) (Or.inr hX),
        choice.pick_of_incomparable (Or.inr hX)]
  · rw [choice.pick_of_incomparable (x := x) (Or.inl hA),
      choice.pick_of_incomparable (Or.inl hA),
      choice.pick_of_incomparable (Or.inl hA)]

end BestChoice
