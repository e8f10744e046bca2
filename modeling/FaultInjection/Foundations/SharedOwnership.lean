import Mathlib.Data.List.Basic
import Mathlib.Logic.Function.Iterate

/-
  Objects kept alive by strong references.

  A heap holds live objects. Each object holds strong
  references to other objects, and named owners outside the
  heap hold strong references too. An object without any
  strong reference is destroyed, which drops the references
  it held. Weak references keep nothing alive and are not
  represented.

  Key definitions include:
    * `SharedOwnership.Heap`
    * `SharedOwnership.Heap.collect`
    * `SharedOwnership.Heap.release`
    * `SharedOwnership.SelfSustained`

  Key theorems include:
    * `SharedOwnership.live_collect_iff`
    * `SharedOwnership.live_release_of_cycle`
    * `SharedOwnership.not_live_release`
-/

------------------------------------------------------------
-- Heaps
------------------------------------------------------------

namespace SharedOwnership

/-
  The references that outside owners hold, and the live
  objects with the references that each of them holds.
-/
structure Heap (ω ι : Type) where
  roots : List (ω × ι) := []
  cells : List (ι × List ι) := []
deriving DecidableEq

namespace Heap

variable {ω ι : Type}

/- The object has not been destroyed. -/
def Live
    (h : Heap ω ι)
    (i : ι) : Prop :=
  ∃ c ∈ h.cells, c.1 = i

instance
    [DecidableEq ι]
    (h : Heap ω ι)
    (i : ι) :
    Decidable (h.Live i) := by
  unfold Live
  infer_instance

/- Some owner or some live object refers to the object. -/
def Held
    (h : Heap ω ι)
    (i : ι) : Prop :=
  (∃ r ∈ h.roots, r.2 = i) ∨
    ∃ c ∈ h.cells, i ∈ c.2

instance
    [DecidableEq ι]
    (h : Heap ω ι)
    (i : ι) :
    Decidable (h.Held i) := by
  unfold Held
  infer_instance

/- Create an object that holds the given references. -/
def alloc
    (h : Heap ω ι)
    (i : ι)
    (refs : List ι) : Heap ω ι :=
  { h with cells := h.cells ++ [(i, refs)] }

/- Give an outside owner a reference to the object. -/
def hold
    (h : Heap ω ι)
    (owner : ω)
    (i : ι) : Heap ω ι :=
  { h with roots := h.roots ++ [(owner, i)] }

variable [DecidableEq ι]

/- Destroy every object that nothing refers to. -/
def sweep (h : Heap ω ι) : Heap ω ι :=
  { h with cells := h.cells.filter fun c => h.Held c.1 }

/-
  Destroy until every live object is referred to. One round
  for each object is enough.
-/
def collect (h : Heap ω ι) : Heap ω ι :=
  Nat.iterate sweep h.cells.length h

/- The owner drops all its references. -/
def release
    [DecidableEq ω]
    (h : Heap ω ι)
    (owner : ω) : Heap ω ι :=
  collect
    { h with roots := h.roots.filter fun r => r.1 ≠ owner }

end Heap

end SharedOwnership

------------------------------------------------------------
-- What Destruction Leaves
------------------------------------------------------------

namespace SharedOwnership

open Heap

variable {ω ι : Type}

/-
  A set of objects that sustains itself: each member is live
  and is referred to by an owner or by another member.
-/
def SelfSustained
    (h : Heap ω ι)
    (S : ι → Prop) : Prop :=
  ∀ i, S i →
    h.Live i ∧
      ((∃ r ∈ h.roots, r.2 = i) ∨
        ∃ c ∈ h.cells, S c.1 ∧ i ∈ c.2)

variable [DecidableEq ι]

@[simp] theorem sweep_roots (h : Heap ω ι) :
    h.sweep.roots = h.roots := rfl

theorem live_sweep_iff
    (h : Heap ω ι)
    (i : ι) :
    h.sweep.Live i ↔ h.Live i ∧ h.Held i := by
  simp only [Heap.Live, sweep, List.mem_filter,
    decide_eq_true_eq]
  constructor
  · rintro ⟨c, ⟨hCell, hHeld⟩, rfl⟩
    exact ⟨⟨c, hCell, rfl⟩, hHeld⟩
  · rintro ⟨⟨c, hCell, rfl⟩, hHeld⟩
    exact ⟨c, ⟨hCell, hHeld⟩, rfl⟩

/- A self-sustained set survives one round. -/
theorem SelfSustained.sweep
    {h : Heap ω ι}
    {S : ι → Prop}
    (hS : SelfSustained h S) :
    SelfSustained h.sweep S := by
  have hHeld : ∀ i, S i → h.Held i := by
    intro i hi
    rcases (hS i hi).2 with hRoot | ⟨c, hCell, _, hRef⟩
    · exact Or.inl hRoot
    · exact Or.inr ⟨c, hCell, hRef⟩
  intro i hi
  refine ⟨(live_sweep_iff h i).mpr
    ⟨(hS i hi).1, hHeld i hi⟩, ?_⟩
  rcases (hS i hi).2 with hRoot | ⟨c, hCell, hMember, hRef⟩
  · exact Or.inl hRoot
  · refine Or.inr ⟨c, ?_, hMember, hRef⟩
    exact List.mem_filter.mpr
      ⟨hCell, by simpa using hHeld c.1 hMember⟩

theorem SelfSustained.iterate_sweep
    {h : Heap ω ι}
    {S : ι → Prop}
    (hS : SelfSustained h S)
    (n : Nat) :
    SelfSustained (Nat.iterate Heap.sweep n h) S := by
  induction n generalizing h with
  | zero => exact hS
  | succ n ih => exact ih hS.sweep

/- A round that destroys nothing changes nothing. -/
theorem sweep_eq_self_or_shorter (h : Heap ω ι) :
    h.sweep = h ∨
      h.sweep.cells.length < h.cells.length := by
  by_cases hAll : ∀ c ∈ h.cells, h.Held c.1
  · left
    have hCells :
        h.cells.filter (fun c => h.Held c.1) = h.cells := by
      apply List.filter_eq_self.mpr
      simpa using hAll
    cases h with
    | mk roots cells =>
        simp only [sweep, Heap.mk.injEq, true_and]
        exact hCells
  · right
    push Not at hAll
    rcases hAll with ⟨c, hCell, hFree⟩
    apply List.length_filter_lt_length_iff_exists.mpr
    exact ⟨c, hCell, by simpa using hFree⟩

/- One round for each object reaches a fixed point. -/
theorem sweep_collect (h : Heap ω ι) :
    h.collect.sweep = h.collect := by
  suffices hGeneral :
      ∀ (n : Nat) (h : Heap ω ι), h.cells.length ≤ n →
        (Nat.iterate Heap.sweep n h).sweep =
          Nat.iterate Heap.sweep n h by
    exact hGeneral _ h (Nat.le_refl _)
  intro n
  induction n with
  | zero =>
      intro h hLength
      have hNil : h.cells = [] := by
        simpa using hLength
      cases h with
      | mk roots cells =>
          subst hNil
          rfl
  | succ n ih =>
      intro h hLength
      rcases sweep_eq_self_or_shorter h with hSame | hLess
      · have hFixed :
            Nat.iterate Heap.sweep (n + 1) h = h :=
          Function.iterate_fixed hSame (n + 1)
        rw [hFixed, hSame]
      · exact ih h.sweep (by omega)

theorem live_of_live_iterate_sweep
    {h : Heap ω ι}
    {i : ι}
    {n : Nat}
    (hLive : (Nat.iterate Heap.sweep n h).Live i) :
    h.Live i := by
  induction n generalizing h with
  | zero => exact hLive
  | succ n ih =>
      exact ((live_sweep_iff h i).mp (ih hLive)).1

/- Destruction leaves the objects that stay live unchanged. -/
theorem mem_cells_iterate_sweep_iff
    (h : Heap ω ι)
    (n : Nat)
    (c : ι × List ι) :
    c ∈ (Nat.iterate Heap.sweep n h).cells ↔
      c ∈ h.cells ∧
        (Nat.iterate Heap.sweep n h).Live c.1 := by
  induction n generalizing h with
  | zero =>
      constructor
      · intro hCell
        exact ⟨hCell, c, hCell, rfl⟩
      · exact And.left
  | succ n ih =>
      have hRest := ih h.sweep
      constructor
      · intro hCell
        rcases hRest.mp hCell with ⟨hSwept, hLive⟩
        exact ⟨(List.mem_filter.mp hSwept).1, hLive⟩
      · rintro ⟨hCell, hLive⟩
        have hSwept : h.sweep.Live c.1 :=
          live_of_live_iterate_sweep hLive
        have hHeld := ((live_sweep_iff h c.1).mp hSwept).2
        refine hRest.mpr ⟨?_, hLive⟩
        exact List.mem_filter.mpr
          ⟨hCell, decide_eq_true hHeld⟩

theorem mem_cells_collect_iff
    (h : Heap ω ι)
    (c : ι × List ι) :
    c ∈ h.collect.cells ↔
      c ∈ h.cells ∧ h.collect.Live c.1 :=
  mem_cells_iterate_sweep_iff h h.cells.length c

@[simp] theorem iterate_sweep_roots
    (h : Heap ω ι)
    (n : Nat) :
    (Nat.iterate Heap.sweep n h).roots = h.roots := by
  induction n generalizing h with
  | zero => rfl
  | succ n ih => exact ih h.sweep

@[simp] theorem collect_roots (h : Heap ω ι) :
    h.collect.roots = h.roots :=
  iterate_sweep_roots h h.cells.length

/- Every object that destruction leaves is referred to. -/
theorem held_of_live_collect
    {h : Heap ω ι}
    {i : ι}
    (hLive : h.collect.Live i) :
    h.collect.Held i := by
  rw [← sweep_collect] at hLive
  exact ((live_sweep_iff h.collect i).mp hLive).2

/-
  Destruction leaves exactly the objects that belong to some
  self-sustained set.
-/
theorem live_collect_iff
    (h : Heap ω ι)
    (i : ι) :
    h.collect.Live i ↔
      ∃ S, SelfSustained h S ∧ S i := by
  constructor
  · intro hLive
    refine ⟨fun j => h.collect.Live j, ?_, hLive⟩
    intro j hj
    refine ⟨live_of_live_iterate_sweep hj, ?_⟩
    rcases held_of_live_collect hj with
      hRoot | ⟨c, hCell, hRef⟩
    · left
      simpa using hRoot
    · right
      have hBefore :=
        ((mem_cells_collect_iff h c).mp hCell).1
      exact ⟨c, hBefore, ⟨c, hCell, rfl⟩, hRef⟩
  · rintro ⟨S, hS, hi⟩
    exact (hS.iterate_sweep h.cells.length i hi).1

end SharedOwnership

------------------------------------------------------------
-- Releasing An Owner
------------------------------------------------------------

namespace SharedOwnership

open Heap

variable {ω ι : Type}
variable [DecidableEq ω] [DecidableEq ι]

@[simp] theorem mem_release_roots
    (h : Heap ω ι)
    (owner : ω)
    (r : ω × ι) :
    r ∈ (h.release owner).roots ↔
      r ∈ h.roots ∧ r.1 ≠ owner := by
  simp [release]

theorem mem_cells_of_mem_release
    {h : Heap ω ι}
    {owner : ω}
    {c : ι × List ι}
    (hCell : c ∈ (h.release owner).cells) :
    c ∈ h.cells :=
  ((mem_cells_collect_iff _ _).mp hCell).1

/-
  Two live objects that refer to each other survive whatever
  an outside owner releases.
-/
theorem live_release_of_cycle
    {h : Heap ω ι}
    {owner : ω}
    {i j : ι}
    (hFirst : (i, [j]) ∈ h.cells)
    (hSecond : (j, [i]) ∈ h.cells) :
    (i, [j]) ∈ (h.release owner).cells ∧
      (j, [i]) ∈ (h.release owner).cells := by
  have hSustained :
      SelfSustained
        { h with
          roots := h.roots.filter fun r => r.1 ≠ owner }
        (fun k => k = i ∨ k = j) := by
    rintro k (hI | hJ)
    · subst hI
      exact ⟨⟨_, hFirst, rfl⟩,
        Or.inr ⟨_, hSecond, Or.inr rfl, by simp⟩⟩
    · subst hJ
      exact ⟨⟨_, hSecond, rfl⟩,
        Or.inr ⟨_, hFirst, Or.inl rfl, by simp⟩⟩
  constructor
  · apply (mem_cells_collect_iff _ _).mpr
    refine ⟨hFirst, (live_collect_iff _ _).mpr ?_⟩
    exact ⟨_, hSustained, Or.inl rfl⟩
  · apply (mem_cells_collect_iff _ _).mpr
    refine ⟨hSecond, (live_collect_iff _ _).mpr ?_⟩
    exact ⟨_, hSustained, Or.inr rfl⟩

/-
  An object that only the released owner refers to is
  destroyed.
-/
theorem not_live_release
    {h : Heap ω ι}
    {owner : ω}
    {i : ι}
    (hRoots : ∀ r ∈ h.roots, r.2 = i → r.1 = owner)
    (hCells : ∀ c ∈ h.cells, i ∉ c.2) :
    ¬ (h.release owner).Live i := by
  intro hLive
  rcases (live_collect_iff _ _).mp hLive with ⟨S, hS, hMember⟩
  rcases (hS i hMember).2 with
    ⟨r, hRoot, hTarget⟩ | ⟨c, hCell, _, hRef⟩
  · rw [List.mem_filter] at hRoot
    have hOwner := hRoots r hRoot.1 hTarget
    simp [hOwner] at hRoot
  · exact hCells c hCell hRef

end SharedOwnership
