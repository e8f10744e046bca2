import FaultInjection.Foundations.Random

/-
  Drawing computations that note what they do.

  A note is kept when the computation ends without a result.
  Without its notes the computation is an ordinary one. The
  rules say which notes are made in terms of it.

  Key definitions include:
    * `Noting`
    * `Noting.note`
    * `Noting.quiet`
    * `Noting.erase`
    * `Noting.AllNotes`

  The rules for notes are:
    * `Noting.erase_bind`
    * `Noting.allNotes_bind_iff`
    * `Noting.allNotes_ite_iff`
    * `Noting.allNotes_noteAll_iff`
    * `Noting.allNotes_mapM`
-/

/- The notes, and the result with the generator if any. -/
def Noting (C G A : Type) : Type :=
  G → List C × Option (A × G)

namespace Noting

variable {C G A B : Type}

------------------------------------------------------------
-- Computations
------------------------------------------------------------

/- Go on with the result, if there is one. -/
def andThen
    (ended : List C × Option (A × G))
    (f : A → Noting C G B) : List C × Option (B × G) :=
  ended.2.elim (ended.1, none) fun result =>
    (ended.1 ++ (f result.1 result.2).1,
      (f result.1 result.2).2)

instance : Monad (Noting C G) where
  pure a := fun g => ([], some (a, g))
  bind x f := fun g => andThen (x g) f

theorem andThen_pure (ended : List C × Option (A × G)) :
    andThen ended (fun a => (pure a : Noting C G A)) =
      ended := by
  rcases ended with ⟨notes, result⟩
  cases result with
  | none => rfl
  | some result =>
      exact Prod.ext (List.append_nil notes) rfl

theorem andThen_assoc
    {D : Type}
    (ended : List C × Option (A × G))
    (f : A → Noting C G B)
    (k : B → Noting C G D) :
    andThen (andThen ended f) k =
      andThen ended fun a => f a >>= k := by
  rcases ended with ⟨notes, result⟩
  cases result with
  | none => rfl
  | some result =>
      rcases result with ⟨a, next⟩
      change andThen (notes ++ (f a next).1, (f a next).2) k =
        (notes ++ (andThen (f a next) k).1,
          (andThen (f a next) k).2)
      rcases f a next with ⟨more, result⟩
      cases result with
      | none => rfl
      | some result =>
          exact Prod.ext (List.append_assoc _ _ _) rfl

instance : LawfulMonad (Noting C G) :=
  LawfulMonad.mk' (Noting C G)
    (fun x => funext fun g => andThen_pure (x g))
    (fun _ _ => rfl)
    (fun x f k => funext fun g => andThen_assoc (x g) f k)

/- A computation that notes nothing. -/
def quiet (x : Drawing G A) : Noting C G A :=
  fun g => ([], x.run g)

instance : MonadLift (Drawing G) (Noting C G) where
  monadLift := quiet

def noteAll (notes : List C) : Noting C G Unit :=
  fun g => (notes, some ((), g))

def note (c : C) : Noting C G Unit :=
  noteAll [c]

/- The computation without its notes. -/
def erase (x : Noting C G A) : Drawing G A :=
  fun g => (x g).2

/- All notes of the computation satisfy the property. -/
def AllNotes
    (P : C → Prop)
    (x : Noting C G A)
    (g : G) : Prop :=
  ∀ c ∈ (x g).1, P c

------------------------------------------------------------
-- Erasure
------------------------------------------------------------

@[simp] theorem erase_pure (a : A) :
    erase (pure a : Noting C G A) = pure a := rfl

@[simp] theorem erase_noteAll (notes : List C) :
    erase (noteAll notes : Noting C G Unit) = pure () := rfl

@[simp] theorem erase_note (c : C) :
    erase (note c : Noting C G Unit) = pure () := rfl

@[simp] theorem erase_bind
    (x : Noting C G A)
    (f : A → Noting C G B) :
    erase (x >>= f) = erase x >>= fun a => erase (f a) := by
  funext g
  change (andThen (x g) f).2 =
    (x g).2.bind fun result => (f result.1 result.2).2
  unfold andThen
  cases (x g).2 with
  | none => rfl
  | some result => rfl

@[simp] theorem erase_map
    (f : A → B)
    (x : Noting C G A) :
    erase (f <$> x) = f <$> erase x := by
  rw [← bind_pure_comp, ← bind_pure_comp, erase_bind]
  rfl

@[simp] theorem erase_ite
    {p : Prop}
    [Decidable p]
    (x y : Noting C G A) :
    erase (if p then x else y) =
      if p then erase x else erase y :=
  apply_ite erase p x y

theorem erase_mapM
    (f : A → Noting C G B)
    (items : List A) :
    erase (items.mapM f) =
      items.mapM fun item => erase (f item) := by
  induction items with
  | nil => rfl
  | cons item items ih =>
      simp only [List.mapM_cons, erase_bind, erase_pure, ih]

------------------------------------------------------------
-- Notes
------------------------------------------------------------

section Notes

variable {P : C → Prop}
variable {g : G}

@[simp] theorem allNotes_pure (a : A) :
    AllNotes P (pure a : Noting C G A) g := by
  intro c hNote
  cases hNote

@[simp] theorem allNotes_quiet (x : Drawing G A) :
    AllNotes P (quiet x : Noting C G A) g := by
  intro c hNote
  cases hNote

@[simp] theorem allNotes_noteAll_iff (notes : List C) :
    AllNotes P (noteAll notes : Noting C G Unit) g ↔
      ∀ c ∈ notes, P c :=
  Iff.rfl

/- What comes later is noted if it is come to. -/
theorem allNotes_bind_iff
    (x : Noting C G A)
    (f : A → Noting C G B) :
    AllNotes P (x >>= f) g ↔
      AllNotes P x g ∧
        ∀ a next, (erase x).run g = some (a, next) →
          AllNotes P (f a) next := by
  unfold AllNotes
  change (∀ c ∈ (andThen (x g) f).1, P c) ↔
    (∀ c ∈ (x g).1, P c) ∧
      ∀ a next, (x g).2 = some (a, next) →
        ∀ c ∈ (f a next).1, P c
  unfold andThen
  cases (x g).2 with
  | none => simp
  | some result =>
      rcases result with ⟨a, next⟩
      simp [or_imp, forall_and]

theorem allNotes_ite_iff
    {p : Prop}
    [Decidable p]
    (x y : Noting C G A) :
    AllNotes P (if p then x else y) g ↔
      if p then AllNotes P x g else AllNotes P y g := by
  by_cases hCond : p
  · rw [if_pos hCond, if_pos hCond]
  · rw [if_neg hCond, if_neg hCond]

/- In a loop, if every round notes only what is allowed. -/
theorem allNotes_mapM
    {f : A → Noting C G B}
    {items : List A}
    (hItem :
      ∀ item ∈ items, ∀ next, AllNotes P (f item) next) :
    AllNotes P (items.mapM f) g := by
  induction items generalizing g with
  | nil => exact allNotes_pure []
  | cons item items ih =>
      rw [List.mapM_cons, allNotes_bind_iff]
      refine ⟨hItem item List.mem_cons_self g, ?_⟩
      intro a next _
      rw [allNotes_bind_iff]
      refine ⟨ih ?_, fun _ _ _ => allNotes_pure _⟩
      intro other hOther
      exact hItem other (List.mem_cons_of_mem _ hOther)

end Notes

end Noting
