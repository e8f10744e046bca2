import Mathlib.Data.List.Basic
import Mathlib.Data.List.Forall2

/-
  What a change of a value may touch.

  A value is seen through a table of parts. Each part has the
  keys that allow it to be changed. A part without keys never
  changes, and one with keys only if one of them is set.

  Key definitions include:
    * `KeyedPart`
    * `Framed`
    * `Covers`

  Key theorems include:
    * `Framed.trans`
    * `Framed.mono`
    * `framed_cons`
-/

------------------------------------------------------------
-- Parts
------------------------------------------------------------

/- A view of a value, with the keys that may change it. -/
structure KeyedPart (K M : Type) where
  keys : List K
  {Value : Type}
  value : M → Value

section Framed

variable {K M : Type}
variable {part : KeyedPart K M}
variable {parts : List (KeyedPart K M)}
variable {set : K → Prop}
variable {a b c : M}

/- Each part none of whose keys is set is the same. -/
def Framed
    (parts : List (KeyedPart K M))
    (set : K → Prop)
    (before after : M) : Prop :=
  ∀ part ∈ parts,
    (∀ key ∈ part.keys, ¬ set key) →
      part.value after = part.value before

/- Values that agree in every part are the same. -/
def Covers (parts : List (KeyedPart K M)) : Prop :=
  ∀ a b : M,
    (∀ part ∈ parts, part.value b = part.value a) → b = a

@[simp] theorem framed_nil :
    Framed ([] : List (KeyedPart K M)) set a b := by
  intro part hPart
  cases hPart

@[simp] theorem framed_cons :
    Framed (part :: parts) set a b ↔
      ((∀ key ∈ part.keys, ¬ set key) →
          part.value b = part.value a) ∧
        Framed parts set a b :=
  List.forall_mem_cons

theorem Framed.refl (a : M) : Framed parts set a a := by
  intro part _ _
  rfl

/- Changes in sequence. -/
theorem Framed.trans
    (hFirst : Framed parts set a b)
    (hSecond : Framed parts set b c) :
    Framed parts set a c := by
  intro part hPart hKeys
  exact
    (hSecond part hPart hKeys).trans (hFirst part hPart hKeys)

/- More keys allow more changes. -/
theorem Framed.mono
    {set' : K → Prop}
    (hFramed : Framed parts set a b)
    (hMore : ∀ key, set key → set' key) :
    Framed parts set' a b := by
  intro part hPart hKeys
  refine hFramed part hPart fun key hKey hSet => ?_
  exact hKeys key hKey (hMore key hSet)

end Framed

------------------------------------------------------------
-- Lists
------------------------------------------------------------

section Lists

variable {A B : Type}

/- Items that agree in a view give the same list of views. -/
theorem map_eq_of_forall₂
    {view : A → B}
    {before after : List A}
    (hSame :
      List.Forall₂ (fun a b => view b = view a)
        before after) :
    after.map view = before.map view := by
  induction hSame with
  | nil => rfl
  | cons hHead _ ih =>
      rw [List.map_cons, List.map_cons, hHead, ih]

end Lists
