import Mathlib.Data.Finset.Sort
import Mathlib.Data.List.Count

/-
  Notices about the changes of a level.

  A level is a finite set of keys that is observed again and
  again, a key perhaps several times in one observation. A
  key that is new to the level is raised each time that it is
  observed, and one that left the level is cleared once.

  Key definitions include:
    * `LevelChanges.Notice`
    * `LevelChanges.notices`
    * `LevelChanges.replay`
    * `LevelChanges.Balanced`

  Key theorems include:
    * `LevelChanges.replay_notices`
    * `LevelChanges.Balanced.observe`
-/

namespace LevelChanges

------------------------------------------------------------
-- Notices
------------------------------------------------------------

/- A key was raised, with what was seen of it, or cleared. -/
inductive Notice (α β : Type) where
| raised : α → β → Notice α β
| cleared : α → Notice α β
deriving DecidableEq

section Notices

variable {α β : Type}
variable [LinearOrder α]

/- The keys of an observation. -/
def levelOf (observed : List (α × β)) : Finset α :=
  (observed.map Prod.fst).toFinset

/-
  What is told of an observation: first what is new to the
  level, then in order what left it.
-/
def notices
    (level : Finset α)
    (observed : List (α × β)) : List (Notice α β) :=
  ((observed.filter fun entry => entry.1 ∉ level).map
      fun entry => .raised entry.1 entry.2) ++
    ((level.sort).filter
      fun key => key ∉ levelOf observed).map .cleared

/- What a reader of the notices takes for the level. -/
def replayNotice
    (level : Finset α) : Notice α β → Finset α
| .raised key _ => insert key level
| .cleared key => level.erase key

def replay
    (level : Finset α)
    (log : List (Notice α β)) : Finset α :=
  log.foldl replayNotice level

def Notice.raises (key : α) : Notice α β → Bool
| .raised other _ => other = key
| .cleared _ => false

def Notice.clears (key : α) : Notice α β → Bool
| .raised _ _ => false
| .cleared other => other = key

------------------------------------------------------------
-- Replay
------------------------------------------------------------

theorem mem_replay_raised
    (level : Finset α)
    (observed : List (α × β))
    (key : α) :
    key ∈
        replay level
          (observed.map fun entry =>
            .raised entry.1 entry.2) ↔
      key ∈ level ∨ key ∈ levelOf observed := by
  unfold replay levelOf
  induction observed generalizing level with
  | nil => simp
  | cons entry observed ih =>
      rw [List.map_cons, List.foldl_cons, ih]
      simp only [replayNotice, Finset.mem_insert,
        List.map_cons, List.toFinset_cons]
      tauto

theorem mem_replay_cleared
    (level : Finset α)
    (left : List α)
    (key : α) :
    key ∈ replay level
        ((left.map .cleared : List (Notice α β))) ↔
      key ∈ level ∧ key ∉ left := by
  unfold replay
  induction left generalizing level with
  | nil => simp
  | cons other left ih =>
      rw [List.map_cons, List.foldl_cons, ih]
      simp only [replayNotice, Finset.mem_erase,
        List.mem_cons]
      tauto

/- The notices lead from the level to what is observed. -/
theorem replay_notices
    (level : Finset α)
    (observed : List (α × β)) :
    replay level (notices level observed) =
      levelOf observed := by
  ext key
  unfold notices replay
  rw [List.foldl_append]
  change key ∈ replay (replay _ _) _ ↔ _
  rw [mem_replay_cleared, mem_replay_raised]
  have hNew :
      key ∈
          levelOf
            (observed.filter fun entry =>
              entry.1 ∉ level) ↔
        key ∈ levelOf observed ∧ key ∉ level := by
    unfold levelOf
    simp only [List.mem_toFinset, List.mem_map,
      List.mem_filter, decide_eq_true_eq]
    constructor
    · rintro ⟨entry, ⟨hEntry, hOut⟩, rfl⟩
      exact ⟨⟨entry, hEntry, rfl⟩, hOut⟩
    · rintro ⟨⟨entry, hEntry, rfl⟩, hOut⟩
      exact ⟨entry, ⟨hEntry, hOut⟩, rfl⟩
  rw [hNew]
  simp only [List.mem_filter, Finset.mem_sort,
    decide_eq_true_eq]
  tauto

theorem replay_append
    (level : Finset α)
    (before after : List (Notice α β)) :
    replay level (before ++ after) =
      replay (replay level before) after :=
  List.foldl_append

------------------------------------------------------------
-- Counts
------------------------------------------------------------

/- A key new to the level is raised as often as observed. -/
theorem countP_raises_notices
    (level : Finset α)
    (observed : List (α × β))
    (key : α) :
    (notices level observed).countP (Notice.raises key) =
      if key ∈ level then
        0
      else
        (observed.map Prod.fst).count key := by
  have hCleared :
      (((level.sort).filter
          fun key => key ∉ levelOf observed).map
            Notice.cleared : List (Notice α β)).countP
          (Notice.raises key) =
        0 := by
    rw [List.countP_eq_zero]
    intro notice hNotice
    rcases List.mem_map.mp hNotice with ⟨other, _, rfl⟩
    simp [Notice.raises]
  unfold notices
  rw [List.countP_append, hCleared, Nat.add_zero,
    List.countP_map, List.count, List.countP_map,
    List.countP_filter]
  split
  · rename_i hKnown
    rw [List.countP_eq_zero]
    intro entry _
    simp only [Function.comp_apply, Notice.raises,
      Bool.and_eq_true, decide_eq_true_eq, not_and]
    rintro rfl hNew
    exact hNew hKnown
  · rename_i hNew
    refine List.countP_congr fun entry _ => ?_
    simp only [Function.comp_apply, Notice.raises,
      Bool.and_eq_true, decide_eq_true_eq, beq_iff_eq]
    constructor
    · exact fun hBoth => hBoth.1
    · rintro rfl
      exact ⟨rfl, hNew⟩

/- A key that left the level is cleared once. -/
theorem countP_clears_notices
    (level : Finset α)
    (observed : List (α × β))
    (key : α) :
    (notices level observed).countP (Notice.clears key) =
      if key ∈ level ∧ key ∉ levelOf observed then
        1
      else
        0 := by
  have hRaised :
      ((observed.filter fun entry => entry.1 ∉ level).map
          fun entry =>
            (.raised entry.1 entry.2 :
              Notice α β)).countP
          (Notice.clears key) =
        0 := by
    rw [List.countP_eq_zero]
    intro notice hNotice
    rcases List.mem_map.mp hNotice with ⟨entry, _, rfl⟩
    simp [Notice.clears]
  unfold notices
  rw [List.countP_append, hRaised, Nat.zero_add,
    List.countP_map]
  have hCount :
      ((level.sort).filter
          fun key => key ∉ levelOf observed).countP
          (Notice.clears key ∘ Notice.cleared (β := β)) =
        ((level.sort).filter
          fun key => key ∉ levelOf observed).count key := by
    unfold List.count
    refine List.countP_congr fun other _ => ?_
    simp [Notice.clears]
  rw [hCount,
    List.Nodup.count ((Finset.sort_nodup _ _).filter _)]
  simp only [List.mem_filter, Finset.mem_sort,
    decide_eq_true_eq]

end Notices

------------------------------------------------------------
-- Runs Of Observations
------------------------------------------------------------

section Runs

variable {α β : Type}
variable [LinearOrder α]

/-
  What a log and the level that it led to have in common when
  a key is observed with one multiplicity or not at all: the
  key was raised so often for each time that it was cleared,
  and once more while it is in the level.
-/
structure Balanced
    (multiplicity : α → Nat)
    (level : Finset α)
    (log : List (Notice α β)) : Prop where
  replayed : replay ∅ log = level
  counts :
    ∀ key,
      log.countP (Notice.raises key) =
        multiplicity key *
          (log.countP (Notice.clears key) +
            if key ∈ level then 1 else 0)

variable {multiplicity : α → Nat}

theorem balanced_nil :
    Balanced (β := β) multiplicity ∅ [] where
  replayed := rfl
  counts := by simp

/- One more observation. -/
theorem Balanced.observe
    {level : Finset α}
    {log : List (Notice α β)}
    {observed : List (α × β)}
    (hBalanced : Balanced multiplicity level log)
    (hOften :
      ∀ key ∈ levelOf observed,
        (observed.map Prod.fst).count key =
          multiplicity key) :
    Balanced multiplicity (levelOf observed)
      (log ++ notices level observed) where
  replayed := by
    rw [replay_append, hBalanced.replayed, replay_notices]
  counts := by
    intro key
    rw [List.countP_append, List.countP_append,
      countP_raises_notices, countP_clears_notices,
      hBalanced.counts key]
    have hAbsent :
        key ∉ levelOf observed →
          (observed.map Prod.fst).count key = 0 := by
      intro hOut
      rw [List.count_eq_zero]
      simpa [levelOf] using hOut
    by_cases hBefore : key ∈ level
    · by_cases hAfter : key ∈ levelOf observed
      · simp [hBefore, hAfter]
      · simp [hBefore, hAfter]
    · by_cases hAfter : key ∈ levelOf observed
      · simp [hBefore, hAfter, hOften key hAfter, Nat.mul_add]
      · simp [hBefore, hAfter, hAbsent hAfter]

end Runs

end LevelChanges
