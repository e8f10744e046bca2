import FaultInjection.Foundations.Outcome
import FaultInjection.Foundations.UnorderedMap

/-
  Final verdicts that are announced once.

  A board lists entries, each with a key and a verdict or
  none yet. A verdict is never changed or withdrawn. A pass
  over the board announces every verdict that is not the last
  one announced under its key.

  Key definitions include:
    * `EachAfter`
    * `Announcements.Advances`
    * `Announcements.announce`
    * `Announcements.Ledger`

  Key theorems include:
    * `eachAfter_append_singleton_iff`
    * `Announcements.openCount_le_of_advances`
    * `Announcements.verdictCount_le_of_advances`
    * `Announcements.ledger_of_advances`
    * `Announcements.ledger_announceEntry`
    * `Announcements.announced_of_mem`
-/

------------------------------------------------------------
-- Growing Logs
------------------------------------------------------------

/- Each item of a log is as demanded after those before it. -/
def EachAfter
    {α : Type}
    (P : List α → α → Prop)
    (log : List α) : Prop :=
  ∀ before x after, log = before ++ x :: after → P before x

theorem eachAfter_nil
    {α : Type}
    (P : List α → α → Prop) :
    EachAfter P [] := by
  intro before x after hSplit
  simp at hSplit

/- One more item is judged after the whole log. -/
theorem eachAfter_append_singleton_iff
    {α : Type}
    {P : List α → α → Prop}
    {log : List α}
    {x : α} :
    EachAfter P (log ++ [x]) ↔ EachAfter P log ∧ P log x := by
  constructor
  · intro hEach
    refine ⟨?_, hEach log x [] rfl⟩
    intro before y after hSplit
    apply hEach before y (after ++ [x])
    rw [hSplit, List.append_assoc, List.cons_append]
  · rintro ⟨hEach, hLast⟩ before y after hSplit
    rcases List.eq_nil_or_concat after with
      hEmpty | ⟨rest, z, hEnd⟩
    · subst hEmpty
      rcases List.append_inj' hSplit rfl with ⟨hLog, hItem⟩
      cases hItem
      rw [← hLog]
      exact hLast
    · subst hEnd
      rw [List.concat_eq_append, ← List.cons_append,
        ← List.append_assoc] at hSplit
      rcases List.append_inj' hSplit rfl with ⟨hLog, _⟩
      exact hEach before y rest hLog

------------------------------------------------------------
-- Boards
------------------------------------------------------------

namespace Announcements

variable {κ ν : Type}

/- An entry keeps its key, and its verdict if it has one. -/
def EntryAdvances (a b : κ × Option ν) : Prop :=
  b.1 = a.1 ∧ (a.2 ≠ none → b.2 = a.2)

/- Every entry of a board advances in its place. -/
def Advances (board next : List (κ × Option ν)) : Prop :=
  List.Forall₂ EntryAdvances board next

/- The number of entries without a verdict. -/
def openCount (board : List (κ × Option ν)) : Nat :=
  board.countP fun entry => entry.2.isNone

theorem entryAdvances_trans
    {a b c : κ × Option ν}
    (hFirst : EntryAdvances a b)
    (hSecond : EntryAdvances b c) :
    EntryAdvances a c := by
  refine ⟨hSecond.1.trans hFirst.1, ?_⟩
  intro hDecided
  have hSame := hFirst.2 hDecided
  rw [← hSame] at hDecided
  exact (hSecond.2 hDecided).trans hSame

theorem advances_trans
    {a b c : List (κ × Option ν)}
    (hFirst : Advances a b)
    (hSecond : Advances b c) :
    Advances a c := by
  unfold Advances at *
  induction hFirst generalizing c with
  | nil => exact hSecond
  | cons hHead _ ih =>
      rcases List.forall₂_cons_left_iff.mp hSecond with
        ⟨z, zs, hNext, hRest, hSame⟩
      rw [hSame]
      exact .cons (entryAdvances_trans hHead hNext)
        (ih hRest)

theorem keys_of_advances
    {board next : List (κ × Option ν)}
    (hAdvances : Advances board next) :
    next.map Prod.fst = board.map Prod.fst := by
  unfold Advances at hAdvances
  induction hAdvances with
  | nil => rfl
  | cons hHead _ ih =>
      rw [List.map_cons, List.map_cons, ih, hHead.1]

/- No verdict is withdrawn. -/
theorem mem_of_advances
    {board next : List (κ × Option ν)}
    (hAdvances : Advances board next)
    {k : κ}
    {v : ν}
    (hMember : (k, some v) ∈ board) :
    (k, some v) ∈ next := by
  rcases hAdvances.exists_of_mem_left hMember with
    ⟨entry, hEntry, hKey, hVerdict⟩
  have hSame : entry = (k, some v) :=
    Prod.ext hKey (hVerdict (by simp))
  rw [← hSame]
  exact hEntry

/- An entry that is open was open before. -/
theorem isNone_of_entryAdvances
    {a b : κ × Option ν}
    (hAdvances : EntryAdvances a b)
    (hOpen : b.2.isNone = true) :
    a.2.isNone = true := by
  by_contra hDecided
  have hSome : a.2 ≠ none := by
    intro hNone
    simp [hNone] at hDecided
  rw [← hAdvances.2 hSome] at hDecided
  exact hDecided hOpen

/- The number of open entries never grows. -/
theorem openCount_le_of_advances
    {board next : List (κ × Option ν)}
    (hAdvances : Advances board next) :
    openCount next ≤ openCount board := by
  unfold Advances at hAdvances
  unfold openCount
  induction hAdvances with
  | nil => exact Nat.le_refl _
  | @cons a b rest nextRest hHead _ ih =>
      rw [List.countP_cons, List.countP_cons]
      by_cases hOpen : b.2.isNone = true
      · simp only [hOpen, isNone_of_entryAdvances hHead hOpen,
          if_true]
        omega
      · rw [if_neg hOpen]
        omega

/- The number of entries with a verdict. -/
def verdictCount
    [DecidableEq ν]
    (v : ν)
    (board : List (κ × Option ν)) : Nat :=
  board.countP fun entry => entry.2 = some v

/- The number of entries with a verdict never shrinks. -/
theorem verdictCount_le_of_advances
    [DecidableEq ν]
    {board next : List (κ × Option ν)}
    (hAdvances : Advances board next)
    (v : ν) :
    verdictCount v board ≤ verdictCount v next := by
  unfold Advances at hAdvances
  unfold verdictCount
  induction hAdvances with
  | nil => exact Nat.le_refl _
  | @cons a b rest nextRest hHead _ ih =>
      rw [List.countP_cons, List.countP_cons]
      by_cases hVerdict : a.2 = some v
      · have hSame := hHead.2 (by simp [hVerdict])
        simp only [hSame, hVerdict]
        omega
      · rw [if_neg (by simp [hVerdict])]
        omega

/- A board without open entries does not change. -/
theorem eq_of_advances_of_openCount
    {board next : List (κ × Option ν)}
    (hAdvances : Advances board next)
    (hClosed : openCount board = 0) :
    next = board := by
  unfold Advances at hAdvances
  unfold openCount at hClosed
  induction hAdvances with
  | nil => rfl
  | cons hHead _ ih =>
      rw [List.countP_cons] at hClosed
      rw [ih (by omega)]
      congr 1
      refine Prod.ext hHead.1 (hHead.2 ?_)
      intro hOpen
      simp [hOpen] at hClosed

/- With distinct keys an entry is known by its key. -/
theorem verdict_unique
    {board : List (κ × Option ν)}
    (hKeys : (board.map Prod.fst).Nodup)
    {k : κ}
    {v w : Option ν}
    (hV : (k, v) ∈ board)
    (hW : (k, w) ∈ board) :
    v = w := by
  have hSame :=
    List.inj_on_of_nodup_map hKeys hV hW rfl
  exact congrArg Prod.snd hSame

------------------------------------------------------------
-- Announcing
------------------------------------------------------------

variable [DecidableEq κ] [DecidableEq ν]

/- Announce one verdict unless it is the last announced. -/
def announceEntry
    (state : UnorderedMap κ ν × List (κ × ν))
    (entry : κ × Option ν) :
    UnorderedMap κ ν × List (κ × ν) :=
  match entry.2 with
  | none => state
  | some v =>
      if state.1.find? entry.1 = some v then
        state
      else
        (state.1.insert entry.1 v,
          state.2 ++ [(entry.1, v)])

/- A pass over the board. -/
def announce
    (state : UnorderedMap κ ν × List (κ × ν))
    (board : List (κ × Option ν)) :
    UnorderedMap κ ν × List (κ × ν) :=
  board.foldl announceEntry state

/-
  The announcements made so far are verdicts of the board,
  the map holds exactly these, and no key has two.
-/
structure Ledger
    (board : List (κ × Option ν))
    (state : UnorderedMap κ ν × List (κ × ν)) : Prop where
  onBoard : ∀ k v, (k, v) ∈ state.2 → (k, some v) ∈ board
  recorded :
    ∀ k v, state.1.find? k = some v ↔ (k, v) ∈ state.2
  once : (state.2.map Prod.fst).Nodup

omit [DecidableEq ν] in
/- Nothing is announced yet. -/
theorem ledger_empty (board : List (κ × Option ν)) :
    Ledger board (.empty, []) where
  onBoard k v hMember := by cases hMember
  recorded k v := by simp
  once := List.nodup_nil

omit [DecidableEq ν] in
/- Announcements stay true while the board advances. -/
theorem ledger_of_advances
    {board next : List (κ × Option ν)}
    {state : UnorderedMap κ ν × List (κ × ν)}
    (hAdvances : Advances board next)
    (hLedger : Ledger board state) :
    Ledger next state where
  onBoard k v hMember :=
    mem_of_advances hAdvances (hLedger.onBoard k v hMember)
  recorded := hLedger.recorded
  once := hLedger.once

/- An announcement is never taken back. -/
theorem mem_announceEntry
    {state : UnorderedMap κ ν × List (κ × ν)}
    {event : κ × ν}
    (hMember : event ∈ state.2)
    (entry : κ × Option ν) :
    event ∈ (announceEntry state entry).2 := by
  unfold announceEntry
  split
  · exact hMember
  · split
    · exact hMember
    · exact List.mem_append_left _ hMember

theorem mem_announce
    {state : UnorderedMap κ ν × List (κ × ν)}
    {event : κ × ν}
    (hMember : event ∈ state.2)
    (entries : List (κ × Option ν)) :
    event ∈ (announce state entries).2 := by
  unfold announce
  induction entries generalizing state with
  | nil => exact hMember
  | cons entry entries ih =>
      exact ih (mem_announceEntry hMember entry)

section Distinct

variable {board : List (κ × Option ν)}
variable (hKeys : (board.map Prod.fst).Nodup)
include hKeys

theorem ledger_announceEntry
    {state : UnorderedMap κ ν × List (κ × ν)}
    (hLedger : Ledger board state)
    {entry : κ × Option ν}
    (hEntry : entry ∈ board) :
    Ledger board (announceEntry state entry) := by
  rcases entry with ⟨k, verdict⟩
  unfold announceEntry
  cases verdict with
  | none => exact hLedger
  | some v =>
      by_cases hLast : state.1.find? k = some v
      · simp only [hLast, if_true]
        exact hLedger
      · simp only [hLast, if_false]
        -- The entry has one verdict, so nothing was announced.
        have hFresh : ∀ w, (k, w) ∉ state.2 := by
          intro w hMember
          have hSame :=
            verdict_unique hKeys (hLedger.onBoard k w hMember)
              hEntry
          cases hSame
          exact hLast ((hLedger.recorded k v).mpr hMember)
        refine ⟨?_, ?_, ?_⟩
        · intro l w hMember
          rcases List.mem_append.mp hMember with hOld | hNew
          · exact hLedger.onBoard l w hOld
          · cases List.mem_singleton.mp hNew
            exact hEntry
        · intro l w
          rw [UnorderedMap.find?_insert, List.mem_append,
            List.mem_singleton, Prod.mk.injEq]
          by_cases hSame : l = k
          · subst hSame
            simp [hFresh, eq_comm]
          · simp [hSame, Ne.symm hSame, hLedger.recorded]
        · rw [List.map_append, List.map_singleton,
            List.nodup_append]
          refine ⟨hLedger.once, List.nodup_singleton k, ?_⟩
          intro l hOld m hNew hSame
          rw [List.mem_singleton] at hNew
          subst hSame hNew
          rcases List.mem_map.mp hOld with
            ⟨⟨_, w⟩, hMember, rfl⟩
          exact hFresh w hMember

/- A pass announces what it meets, if it is not yet told. -/
theorem announced_foldl
    {entries : List (κ × Option ν)}
    (hEntries : ∀ entry ∈ entries, entry ∈ board)
    {state : UnorderedMap κ ν × List (κ × ν)}
    (hLedger : Ledger board state)
    {k : κ}
    {v : ν}
    (hMember : (k, some v) ∈ entries) :
    (k, v) ∈ (announce state entries).2 := by
  unfold announce
  induction entries generalizing state with
  | nil => cases hMember
  | cons entry entries ih =>
      rw [List.foldl_cons]
      have hHead := hEntries entry List.mem_cons_self
      rcases List.mem_cons.mp hMember with hHere | hLater
      · apply mem_announce
        subst hHere
        unfold announceEntry
        by_cases hLast : state.1.find? k = some v
        · simpa [hLast] using (hLedger.recorded k v).mp hLast
        · simp [hLast]
      · apply ih
        · intro other hOther
          exact hEntries other (List.mem_cons_of_mem _ hOther)
        · exact ledger_announceEntry hKeys hLedger hHead
        · exact hLater

/- After a pass every verdict of the board is announced. -/
theorem announced_of_mem
    {state : UnorderedMap κ ν × List (κ × ν)}
    (hLedger : Ledger board state)
    {k : κ}
    {v : ν}
    (hMember : (k, some v) ∈ board) :
    (k, v) ∈ (announce state board).2 :=
  announced_foldl hKeys (fun _ hEntry => hEntry) hLedger
    hMember

end Distinct

end Announcements
