import Mathlib.Data.List.Perm.Basic
import FaultInjection.Foundations.Outcome
import FaultInjection.Foundations.UnorderedMap

/-
  Folds over the entries of an unordered map, and when the
  order of the iteration does not matter.

  Key definitions include:
    * `HashOrder.first`
    * `HashOrder.last`
    * `SameValue`

  Key theorems include:
    * `UnorderedMap.enumerate_perm`
    * `foldlM_lookup`
    * `foldlM_reads`
    * `mapM_perm`
    * `sameValue_foldl`
-/

------------------------------------------------------------
-- Orders
------------------------------------------------------------

namespace HashOrder

variable {κ : Type}
variable [DecidableEq κ]

/- Visit a key first. -/
def first (k : κ) : HashOrder κ where
  order := fun keys =>
    if k ∈ keys then k :: keys.erase k else keys
  perm := by
    intro keys
    by_cases hKey : k ∈ keys
    · rw [if_pos hKey]
      exact (List.perm_cons_erase hKey).symm
    · rw [if_neg hKey]

/- Visit a key last. -/
def last (k : κ) : HashOrder κ where
  order := fun keys =>
    if k ∈ keys then keys.erase k ++ [k] else keys
  perm := by
    intro keys
    by_cases hKey : k ∈ keys
    · rw [if_pos hKey]
      exact
        (List.perm_append_singleton k _).trans
          (List.perm_cons_erase hKey).symm
    · rw [if_neg hKey]

end HashOrder

namespace UnorderedMap

variable {κ β : Type}
variable [DecidableEq κ]

/- Two iterations visit the same entries. -/
theorem enumerate_perm
    (h k : HashOrder κ)
    (m : UnorderedMap κ β) :
    (m.enumerate h).Perm (m.enumerate k) :=
  ((h.perm m.keys).trans (k.perm m.keys).symm).filterMap _

end UnorderedMap

------------------------------------------------------------
-- Lookups
------------------------------------------------------------

/-
  A loop that looks something up for each item is a loop over
  what is found if every lookup succeeds.
-/
theorem foldlM_lookup
    {M : Type → Type}
    [Monad M]
    [LawfulMonad M]
    {α β γ : Type}
    {look : α → M β}
    {find : α → Option β}
    {items : List α}
    (hFound :
      ∀ item ∈ items,
        ∃ value, find item = some value ∧
          look item = pure value)
    (step : γ → β → M γ)
    (start : γ) :
    (items.foldlM
        (fun result item => do
          step result (← look item))
        start) =
      (items.filterMap find).foldlM step start := by
  induction items generalizing start with
  | nil => rfl
  | cons item items ih =>
      rcases hFound item List.mem_cons_self with
        ⟨value, hFind, hLook⟩
      have hRest := List.forall_mem_of_forall_mem_cons hFound
      rw [List.foldlM_cons, hLook, pure_bind,
        List.filterMap_cons, hFind, List.foldlM_cons]
      congr 1
      funext result
      exact ih hRest result

------------------------------------------------------------
-- Reads
------------------------------------------------------------

variable {ε α β γ : Type}

/- Both throw, or both give the same value. -/
def SameValue (x y : Except ε α) : Prop :=
  x.toOption = y.toOption

theorem SameValue.map
    {x y : Except ε α}
    (hSame : SameValue x y)
    (f : α → β) :
    SameValue (x.map f) (y.map f) := by
  unfold SameValue at *
  cases x with
  | error e =>
      cases y with
      | error d => rfl
      | ok b => cases hSame
  | ok a =>
      cases y with
      | error d => cases hSame
      | ok b =>
          simp only [Except.toOption, Option.some.injEq] at hSame
          rw [hSame]

/- Changing a result twice is changing it once. -/
theorem Except.map_map
    (x : Except ε α)
    (f : α → β)
    (g : β → γ) :
    (x.map f).map g = x.map fun a => g (f a) := by
  cases x with
  | error e => rfl
  | ok a => rfl

/-
  A loop that reads a value of each item and combines it with
  what it has so far reads all values and combines them.
-/
theorem foldlM_reads
    (read : α → Except ε β)
    (combine : γ → β → γ)
    (items : List α)
    (start : γ) :
    (items.foldlM
        (fun value item => do
          return combine value (← read item))
        start) =
      (items.mapM read).map
        (fun values => values.foldl combine start) := by
  induction items generalizing start with
  | nil => rfl
  | cons item items ih =>
      rw [List.foldlM_cons, List.mapM_cons]
      cases read item with
      | error e => rfl
      | ok value =>
          refine (ih (combine start value)).trans ?_
          cases items.mapM read with
          | error e => rfl
          | ok values => rfl

/- Reading in another order gives the same values reordered. -/
theorem mapM_perm
    {read : α → Except ε β}
    {first second : List α}
    (hPerm : first.Perm second)
    {values : List β}
    (hRead : first.mapM read = .ok values) :
    ∃ others,
      second.mapM read = .ok others ∧ values.Perm others := by
  rcases List.perm_comp_forall₂ hPerm.symm
      (Except.mapM_eq_ok_iff.mp hRead) with
    ⟨others, hOthers, hSame⟩
  exact ⟨others, Except.mapM_eq_ok_iff.mpr hOthers, hSame.symm⟩

/-
  A fold over the values read does not depend on the order if
  combining two values does not.
-/
theorem sameValue_foldl
    {read : α → Except ε β}
    {combine : γ → β → γ}
    (hComm :
      ∀ value x y,
        combine (combine value x) y =
          combine (combine value y) x)
    {first second : List α}
    (hPerm : first.Perm second)
    (start : γ) :
    SameValue
      ((first.mapM read).map fun values =>
        values.foldl combine start)
      ((second.mapM read).map fun values =>
        values.foldl combine start) := by
  unfold SameValue
  cases hFirst : first.mapM read with
  | error e =>
      cases hSecond : second.mapM read with
      | error e => rfl
      | ok others =>
          rcases mapM_perm hPerm.symm hSecond with
            ⟨values, hValues, _⟩
          rw [hFirst] at hValues
          cases hValues
  | ok values =>
      rcases mapM_perm hPerm hFirst with
        ⟨others, hSecond, hSame⟩
      rw [hSecond]
      have hEqual :
          values.foldl combine start =
            others.foldl combine start :=
        hSame.foldl_eq'
          (fun x _ y _ value => hComm value x y) start
      simp only [Except.map, hEqual]
