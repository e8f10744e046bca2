import FaultInjection.Foundations.UnorderedMap

/-
  A map that is filled by the items of a list in turn.

  An item writes one entry or none. What a key holds in the
  end is what the last item with that key has written.

  Key definitions include:
    * `LastWrites.put`
    * `LastWrites.IsLast`

  Key theorems include:
    * `LastWrites.find?_fill_iff`
    * `LastWrites.isLast_iff_of_agree`
-/

namespace LastWrites

------------------------------------------------------------
-- Writing In Turn
------------------------------------------------------------

variable {α κ β : Type}
variable [DecidableEq κ]

/- Store what the item writes, if anything. -/
def put
    (write : α → Option (κ × β))
    (m : UnorderedMap κ β)
    (x : α) : UnorderedMap κ β :=
  match write x with
  | some entry => m.insert entry.1 entry.2
  | none => m

/- Store what each item writes, in order. -/
def fill
    (write : α → Option (κ × β))
    (m : UnorderedMap κ β)
    (xs : List α) : UnorderedMap κ β :=
  xs.foldl (put write) m

theorem find?_put
    (write : α → Option (κ × β))
    (m : UnorderedMap κ β)
    (x : α)
    (k : κ) :
    (put write m x).find? k =
      match write x with
      | some entry =>
          if entry.1 = k then some entry.2 else m.find? k
      | none => m.find? k := by
  unfold put
  cases write x with
  | none => rfl
  | some entry => exact UnorderedMap.find?_insert m _ k _

omit [DecidableEq κ] in
/- The item writes the key. -/
def Writes
    (write : α → Option (κ × β))
    (x : α)
    (k : κ) : Prop :=
  ∃ v, write x = some (k, v)

omit [DecidableEq κ] in
/- An item writes the value, and no later one the key. -/
def IsLast
    (write : α → Option (κ × β))
    (xs : List α)
    (k : κ)
    (v : β) : Prop :=
  ∃ before x after,
    xs = before ++ x :: after ∧ write x = some (k, v) ∧
      ∀ y ∈ after, ¬ Writes write y k

------------------------------------------------------------
-- What Is Stored
------------------------------------------------------------

section Stored

variable {write : α → Option (κ × β)}
variable {m : UnorderedMap κ β}
variable {xs : List α}
variable {k : κ}
variable {v : β}

omit [DecidableEq κ] in
/- The last write of a longer list is in its tail or first. -/
theorem isLast_cons_iff
    {x : α} :
    IsLast write (x :: xs) k v ↔
      IsLast write xs k v ∨
        (write x = some (k, v) ∧
          ∀ y ∈ xs, ¬ Writes write y k) := by
  constructor
  · rintro ⟨before, y, after, hSplit, hWrite, hAfter⟩
    cases before with
    | nil =>
        cases hSplit
        exact Or.inr ⟨hWrite, hAfter⟩
    | cons first before =>
        cases hSplit
        exact Or.inl ⟨before, y, after, rfl, hWrite, hAfter⟩
  · rintro (hLater | ⟨hWrite, hNone⟩)
    · rcases hLater with
        ⟨before, y, after, hSplit, hWrite, hAfter⟩
      subst hSplit
      exact ⟨x :: before, y, after, rfl, hWrite, hAfter⟩
    · exact ⟨[], x, xs, rfl, hWrite, hNone⟩

/- A key holds its last write, or else what it held before. -/
theorem find?_fill_iff :
    (fill write m xs).find? k = some v ↔
      IsLast write xs k v ∨
        (m.find? k = some v ∧
          ∀ y ∈ xs, ¬ Writes write y k) := by
  unfold fill
  induction xs generalizing m with
  | nil => simp [IsLast]
  | cons x xs ih =>
      rw [List.foldl_cons, ih, find?_put, isLast_cons_iff]
      simp only [List.mem_cons, forall_eq_or_imp]
      cases hWrite : write x with
      | none => simp [Writes, hWrite]
      | some entry =>
          rcases entry with ⟨j, w⟩
          by_cases hKey : j = k
          · subst hKey
            simp [Writes, hWrite, or_comm, and_comm]
          · simp [Writes, hWrite, hKey]

theorem find?_fill_empty_iff :
    (fill write .empty xs).find? k = some v ↔
      IsLast write xs k v := by
  rw [find?_fill_iff]
  simp

omit [DecidableEq κ] in
/- The last write of a key is a write. -/
theorem IsLast.mem
    (hLast : IsLast write xs k v) :
    ∃ x ∈ xs, write x = some (k, v) := by
  rcases hLast with ⟨before, x, after, hSplit, hWrite, _⟩
  subst hSplit
  exact ⟨x, by simp, hWrite⟩

omit [DecidableEq κ] in
/- If all writes of a key agree, any of them is the last. -/
theorem isLast_iff_of_agree
    (hAgree :
      ∀ x ∈ xs, ∀ y ∈ xs, ∀ a b,
        write x = some (k, a) → write y = some (k, b) →
          a = b) :
    IsLast write xs k v ↔
      ∃ x ∈ xs, write x = some (k, v) := by
  refine ⟨IsLast.mem, ?_⟩
  induction xs with
  | nil => simp
  | cons x xs ih =>
      rintro ⟨y, hMember, hWrite⟩
      rw [isLast_cons_iff]
      by_cases hLater : ∃ z ∈ xs, Writes write z k
      · rcases hLater with ⟨z, hZ, w, hW⟩
        have hSame : w = v :=
          hAgree z (by simp [hZ]) y hMember w v hW hWrite
        subst hSame
        refine Or.inl (ih ?_ ⟨z, hZ, hW⟩)
        intro p hP q hQ
        exact hAgree p (by simp [hP]) q (by simp [hQ])
      · have hNone : ∀ z ∈ xs, ¬ Writes write z k :=
          fun z hZ hWrites => hLater ⟨z, hZ, hWrites⟩
        rcases List.mem_cons.mp hMember with hFirst | hTail
        · subst hFirst
          exact Or.inr ⟨hWrite, hNone⟩
        · exact absurd ⟨v, hWrite⟩ (hNone y hTail)

end Stored

end LastWrites
