import Mathlib.Data.List.Forall2
import FaultInjection.Foundations.Random

/-
  Properties of whatever a drawing computation results in.

  `Yields x P` says that the result of `x`, if there is one,
  satisfies `P` whatever numbers are drawn. There is one rule
  for each way to build a computation.

  Key definitions include:
    * `Yields`

  Key theorems include:
    * `Yields.bind`
    * `Yields.foldlM`
    * `Yields.mapM`
    * `isSome_bind_iff`
    * `isSome_mapM`
    * `RandomLibrary.normal_yields`
    * `RandomLibrary.mapNormal_yields_of_sample`
    * `RandomLibrary.mapNormal_yields`
-/

/- A result satisfies the property from every generator. -/
def Yields
    {G A : Type}
    (x : Drawing G A)
    (P : A → Prop) : Prop :=
  ∀ g a next, x.run g = some (a, next) → P a

------------------------------------------------------------
-- Rules
------------------------------------------------------------

namespace Yields

variable {G A B : Type}
variable {x y : Drawing G A}
variable {P Q : A → Prop}

theorem imp
    (hYields : Yields x P)
    (hImp : ∀ a, P a → Q a) :
    Yields x Q := by
  intro g a next hRun
  exact hImp a (hYields g a next hRun)

theorem pure
    {a : A}
    (hHolds : P a) :
    Yields (Pure.pure a : Drawing G A) P := by
  intro g b next hRun
  cases hRun
  exact hHolds

theorem bind
    {f : A → Drawing G B}
    {R : B → Prop}
    (hYields : Yields x P)
    (hNext : ∀ a, P a → Yields (f a) R) :
    Yields (x >>= f) R := by
  intro g b next hRun
  rcases Option.bind_eq_some_iff.mp hRun with
    ⟨⟨a, middle⟩, hFirst, hRest⟩
  exact hNext a (hYields g a middle hFirst) middle b next hRest

/- A partial computation draws nothing. -/
theorem liftOption
    {value : Option A}
    (hValue : ∀ a, value = some a → P a) :
    Yields (liftM value : Drawing G A) P := by
  intro g a next hRun
  rcases Option.bind_eq_some_iff.mp hRun with
    ⟨found, hFound, hSame⟩
  cases hSame
  exact hValue a hFound

/- Nothing is known of a value that does not matter. -/
theorem anything (x : Drawing G A) :
    Yields x fun _ => True := by
  intro _ _ _ _
  trivial

theorem ite
    {c : Prop}
    [Decidable c]
    (hThen : c → Yields x P)
    (hElse : ¬ c → Yields y P) :
    Yields (if c then x else y) P := by
  by_cases hCond : c
  · rw [if_pos hCond]
    exact hThen hCond
  · rw [if_neg hCond]
    exact hElse hCond

/- A loop keeps what each of its rounds keeps. -/
theorem foldlM
    {step : A → B → Drawing G A}
    {items : List B}
    {start : A}
    (hStart : P start)
    (hStep :
      ∀ a, P a → ∀ item ∈ items, Yields (step a item) P) :
    Yields (items.foldlM step start) P := by
  induction items generalizing start with
  | nil => exact Yields.pure hStart
  | cons item items ih =>
      rw [List.foldlM_cons]
      refine Yields.bind
        (hStep start hStart item List.mem_cons_self) ?_
      intro next hNext
      refine ih hNext ?_
      intro a hHolds other hOther
      exact
        hStep a hHolds other (List.mem_cons_of_mem _ hOther)

/- Each item is related to what it becomes. -/
theorem mapM
    {f : A → Drawing G B}
    {R : A → B → Prop}
    {items : List A}
    (hItem : ∀ item ∈ items, Yields (f item) (R item)) :
    Yields (items.mapM f) (List.Forall₂ R items) := by
  induction items with
  | nil =>
      rw [List.mapM_nil]
      exact Yields.pure List.Forall₂.nil
  | cons item items ih =>
      rw [List.mapM_cons]
      refine Yields.bind (hItem item List.mem_cons_self) ?_
      intro b hHead
      refine Yields.bind (ih ?_) ?_
      · intro other hOther
        exact hItem other (List.mem_cons_of_mem _ hOther)
      · intro rest hRest
        exact Yields.pure (List.Forall₂.cons hHead hRest)

end Yields

------------------------------------------------------------
-- Results
------------------------------------------------------------

section Results

variable {G A B : Type}
variable {g : G}

theorem isSome_bind_iff
    (x : Drawing G A)
    (f : A → Drawing G B) :
    ((x >>= f).run g).isSome = true ↔
      ∃ result, x.run g = some result ∧
        ((f result.1).run result.2).isSome = true := by
  change (((x.run g).bind fun result =>
    (f result.1).run result.2).isSome = true) ↔ _
  cases x.run g with
  | none => simp
  | some result => simp

/- A loop ends if each round does. -/
theorem isSome_mapM
    {f : A → Drawing G B}
    (hItem : ∀ item g, ((f item).run g).isSome = true)
    (items : List A)
    (g : G) :
    ((items.mapM f).run g).isSome = true := by
  induction items generalizing g with
  | nil => rfl
  | cons item items ih =>
      rcases Option.isSome_iff_exists.mp (hItem item g) with
        ⟨first, hFirst⟩
      rcases Option.isSome_iff_exists.mp (ih first.2) with
        ⟨rest, hRest⟩
      rw [List.mapM_cons, isSome_bind_iff]
      refine ⟨first, hFirst, ?_⟩
      rw [isSome_bind_iff]
      exact ⟨rest, hRest, rfl⟩

end Results

------------------------------------------------------------
-- Samples
------------------------------------------------------------

namespace RandomLibrary

variable {G N : Type}
variable (rand : RandomLibrary G N)

/- Without deviation every sample is the mean. -/
theorem normal_yields (stddev : Number) :
    Yields (rand.normal stddev) fun value =>
      stddev = .zero → value = .zero := by
  intro g value next hRun hZero
  subst hZero
  cases hRun
  change Number.finite _ = Number.finite 0
  rw [mul_zero]

/- A sample is a draw times the deviation. -/
theorem sample_yields
    {V : Number → Prop}
    {stddev : Number}
    (hSample : ∀ draw, V ((Number.finite draw).mul stddev))
    (state : N) :
    Yields (rand.sample stddev state) fun sampled =>
      V sampled.1 := by
  intro g sampled next hRun
  cases hRun
  exact hSample _

theorem mapSamples_yields
    {A : Type}
    {V : Number → Prop}
    {change : A → Option (Number → A)}
    {R : A → A → Prop}
    {stddev : Number}
    (hSample : ∀ draw, V ((Number.finite draw).mul stddev))
    (hSame : ∀ item, change item = none → R item item)
    (hChanged :
      ∀ item changed value,
        change item = some changed →
          V value → R item (changed value))
    (state : N)
    (items : List A) :
    Yields (rand.mapSamples change stddev state items)
      (List.Forall₂ R items) := by
  induction items generalizing state with
  | nil => exact Yields.pure List.Forall₂.nil
  | cons item items ih =>
      unfold mapSamples
      cases hChange : change item with
      | none =>
          refine Yields.bind (ih state) ?_
          intro rest hRest
          exact
            Yields.pure
              (List.Forall₂.cons (hSame item hChange) hRest)
      | some changed =>
          refine Yields.bind
            (sample_yields rand hSample state) ?_
          intro sampled hValue
          refine Yields.bind (ih sampled.2) ?_
          intro rest hRest
          have hHead :=
            hChanged item changed sampled.1 hChange hValue
          exact
            Yields.pure (List.Forall₂.cons hHead hRest)

/- Each item is related to what its sample makes of it. -/
theorem mapNormal_yields_of_sample
    {A : Type}
    {V : Number → Prop}
    {change : A → Option (Number → A)}
    {R : A → A → Prop}
    {stddev : Number}
    (hSample : ∀ draw, V ((Number.finite draw).mul stddev))
    (hSame : ∀ item, change item = none → R item item)
    (hChanged :
      ∀ item changed value,
        change item = some changed →
          V value → R item (changed value))
    (items : List A) :
    Yields (rand.mapNormal change stddev items)
      (List.Forall₂ R items) :=
  mapSamples_yields rand hSample hSame hChanged
    rand.newNormal items

/- As above, whatever the samples are. -/
theorem mapNormal_yields
    {A : Type}
    {change : A → Option (Number → A)}
    {R : A → A → Prop}
    (hSame : ∀ item, change item = none → R item item)
    (hChanged :
      ∀ item changed value,
        change item = some changed →
          R item (changed value))
    (stddev : Number)
    (items : List A) :
    Yields (rand.mapNormal change stddev items)
      (List.Forall₂ R items) := by
  refine
    @mapNormal_yields_of_sample G N rand A (fun _ => True)
      change R stddev (fun _ => trivial) hSame ?_ items
  intro item changed value hChange _
  exact hChanged item changed value hChange

/- Items for which there is no change stay as they are. -/
theorem mapNormal_unchanged
    {A : Type}
    {change : A → Option (Number → A)}
    {items : List A}
    (hNone : ∀ item ∈ items, change item = none)
    (stddev : Number) :
    rand.mapNormal change stddev items = pure items := by
  unfold mapNormal
  induction items with
  | nil => rfl
  | cons item items ih =>
      have hItem := hNone item List.mem_cons_self
      have hItems := List.forall_mem_of_forall_mem_cons hNone
      unfold mapSamples
      rw [hItem]
      change (rand.mapSamples change stddev rand.newNormal
        items >>= fun rest => pure (item :: rest)) = _
      rw [ih hItems, pure_bind]

/- There are as many items as before. -/
theorem mapNormal_length
    {A : Type}
    (change : A → Option (Number → A))
    (stddev : Number)
    (items : List A) :
    Yields (rand.mapNormal change stddev items)
      fun changed => changed.length = items.length := by
  have hItems :=
    @mapNormal_yields G N rand A change (fun _ _ => True)
      (fun _ _ => trivial) (fun _ _ _ _ => trivial)
      stddev items
  exact hItems.imp fun changed hAll => hAll.length_eq.symm

end RandomLibrary
