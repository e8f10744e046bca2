import Mathlib.Data.List.Infix
import Mathlib.Data.List.Nodup

/-
  Texts that are joined with a separator of two characters,
  and texts that are cut at a character.

  A joined text is read back if no part has the separator
  inside; a part may end or begin with half of it.

  Key definitions include:
    * `JoinedTexts.fields`
    * `JoinedTexts.cutAt`

  Key theorems include:
    * `JoinedTexts.fields_intercalate`
    * `JoinedTexts.cutAt_append`
    * `JoinedTexts.eq_of_same_members`
-/

namespace JoinedTexts

variable {α : Type}
variable [DecidableEq α]

------------------------------------------------------------
-- Separators
------------------------------------------------------------

/- Split at each separator, which has two characters. -/
def fields (a b : α) : List α → List (List α)
| [] => [[]]
| [x] => [[x]]
| x :: y :: rest =>
    if x = a ∧ y = b then
      [] :: fields a b rest
    else
      let read := fields a b (y :: rest)
      (x :: read.headD []) :: read.tail

/- A part does not contain the separator. -/
def Plain (a b : α) (part : List α) : Prop :=
  ¬ [a, b] <:+: part

instance (a b : α) (part : List α) :
    Decidable (Plain a b part) :=
  inferInstanceAs (Decidable (¬ [a, b] <:+: part))

section Separators

variable {a b : α}

omit [DecidableEq α] in
theorem Plain.tail
    {x : α}
    {part : List α}
    (hPlain : Plain a b (x :: part)) :
    Plain a b part := by
  intro hInfix
  exact hPlain (hInfix.trans (List.suffix_cons x part).isInfix)

omit [DecidableEq α] in
theorem Plain.head
    {x y : α}
    {part : List α}
    (hPlain : Plain a b (x :: y :: part)) :
    ¬ (x = a ∧ y = b) := by
  rintro ⟨hX, hY⟩
  subst hX hY
  exact hPlain ⟨[], part, rfl⟩

/- One part is read up to the separator behind it. -/
theorem fields_append
    (hApart : a ≠ b)
    {part : List α}
    (hPlain : Plain a b part)
    (rest : List α) :
    fields a b (part ++ a :: b :: rest) =
      part :: fields a b rest := by
  induction part with
  | nil => simp [fields]
  | cons x part ih =>
      cases part with
      | nil =>
          simp [fields, hApart]
      | cons y part =>
          have hRest := ih hPlain.tail
          rw [List.cons_append] at hRest
          rw [List.cons_append, List.cons_append, fields,
            if_neg hPlain.head, hRest]
          rfl

/- A part alone is read as it is. -/
theorem fields_part
    {part : List α}
    (hPlain : Plain a b part) :
    fields a b part = [part] := by
  induction part with
  | nil => rfl
  | cons x part ih =>
      cases part with
      | nil => rfl
      | cons y part =>
          rw [fields, if_neg hPlain.head, ih hPlain.tail]
          rfl

/- Joined parts are read back. -/
theorem fields_intercalate
    (hApart : a ≠ b)
    {parts : List (List α)}
    (hSome : parts ≠ [])
    (hPlain : ∀ part ∈ parts, Plain a b part) :
    fields a b ([a, b].intercalate parts) = parts := by
  induction parts with
  | nil => exact absurd rfl hSome
  | cons part parts ih =>
      cases parts with
      | nil =>
          rw [List.intercalate_singleton,
            fields_part (hPlain part (by simp))]
      | cons next parts =>
          have hRest :=
            ih (by simp) fun p hP => hPlain p (by simp [hP])
          rw [List.intercalate_cons_cons, List.append_assoc,
            List.cons_append, List.cons_append, List.nil_append,
            fields_append hApart (hPlain part (by simp)),
            hRest]

omit [DecidableEq α] in
theorem plain_of_not_mem
    {part : List α}
    (hNone : a ∉ part) :
    Plain a b part := by
  intro hInfix
  exact hNone (hInfix.subset (by simp))

omit [DecidableEq α] in
/- Another character between plain parts makes none either. -/
theorem plain_join
    {c : α}
    (hA : c ≠ a)
    (hB : c ≠ b)
    {first second : List α}
    (hFirst : Plain a b first)
    (hSecond : Plain a b second) :
    Plain a b (first ++ c :: second) := by
  induction first with
  | nil =>
      intro hInfix
      rw [List.nil_append, List.infix_cons_iff] at hInfix
      rcases hInfix with hPrefix | hInfix
      · rw [List.cons_prefix_cons] at hPrefix
        exact hA hPrefix.1.symm
      · exact hSecond hInfix
  | cons x first ih =>
      intro hInfix
      rw [List.cons_append, List.infix_cons_iff] at hInfix
      rcases hInfix with hPrefix | hInfix
      · rw [List.cons_prefix_cons] at hPrefix
        cases first with
        | nil =>
            rw [List.nil_append, List.cons_prefix_cons]
              at hPrefix
            exact hB hPrefix.2.1.symm
        | cons y first =>
            rw [List.cons_append, List.cons_prefix_cons]
              at hPrefix
            exact
              hFirst.head
                ⟨hPrefix.1.symm, hPrefix.2.1.symm⟩
      · exact ih hFirst.tail hInfix

omit [DecidableEq α] in
/- A joined text has the characters of its parts. -/
theorem not_mem_intercalate
    {x : α}
    {parts : List (List α)}
    (hSeparator : x ≠ a ∧ x ≠ b)
    (hParts : ∀ part ∈ parts, x ∉ part) :
    x ∉ [a, b].intercalate parts := by
  induction parts with
  | nil => simp
  | cons part parts ih =>
      have hRest :=
        ih fun p hP => hParts p (List.mem_cons_of_mem part hP)
      have hFirst := hParts part (by simp)
      cases parts with
      | nil =>
          rw [List.intercalate_singleton]
          exact hFirst
      | cons next parts =>
          rw [List.intercalate_cons_cons]
          simp only [List.mem_append, List.mem_cons,
            List.not_mem_nil, or_false, not_or]
          exact ⟨⟨hFirst, hSeparator⟩, hRest⟩

end Separators

------------------------------------------------------------
-- Cuts
------------------------------------------------------------

/- What stands before and after the first such character. -/
def cutAt
    (a : α)
    (xs : List α) : List α × List α :=
  ( xs.takeWhile fun x => x ≠ a,
    (xs.dropWhile fun x => x ≠ a).tail )

theorem cutAt_append
    {a : α}
    {first : List α}
    (hNone : a ∉ first)
    (second : List α) :
    cutAt a (first ++ a :: second) = (first, second) := by
  have hPass : ∀ x ∈ first, decide (x ≠ a) = true := by
    intro x hX
    rw [decide_eq_true_iff]
    intro hSame
    exact hNone (hSame ▸ hX)
  unfold cutAt
  rw [List.takeWhile_append_of_pos hPass,
    List.dropWhile_append_of_pos hPass]
  simp

------------------------------------------------------------
-- Sorted Entries
------------------------------------------------------------

omit [DecidableEq α] in
/-
  Entries in strict order are determined by which they are.
-/
theorem eq_of_same_members
    {r : α → α → Prop}
    (hStrict : ∀ x y, r x y → ¬ r y x)
    {xs ys : List α}
    (hXs : xs.Pairwise r)
    (hYs : ys.Pairwise r)
    (hSame : ∀ x, x ∈ xs ↔ x ∈ ys) :
    xs = ys := by
  have hNodup :
      ∀ zs : List α, zs.Pairwise r → zs.Nodup := by
    intro zs hZs
    refine hZs.imp ?_
    intro x y hLess hEq
    subst hEq
    exact hStrict x x hLess hLess
  have hPerm : xs.Perm ys :=
    (List.perm_ext_iff_of_nodup (hNodup xs hXs)
      (hNodup ys hYs)).mpr hSame
  refine hPerm.eq_of_pairwise ?_ hXs hYs
  intro x y _ _ hLess hGreater
  exact absurd hGreater (hStrict x y hLess)

end JoinedTexts
