import FaultInjection.Foundations.Yields

/-
  Two drawing computations that draw the same numbers.

  `SameDraws x y R` says that from every generator both have
  no result, or both have results that `R` relates and leave
  the generator in the same state. There is one rule for each
  way to build a computation.

  Key definitions include:
    * `SameDraws`

  Key theorems include:
    * `SameDraws.bind`
    * `SameDraws.bind_yields`
    * `SameDraws.ite`
    * `SameDraws.mapM_zipWith`
    * `SameDraws.mapM_map`
    * `SameDraws.mapNormal_map`
    * `SameDraws.cases`
-/

/- The same draws, and related results. -/
def SameDraws
    {G A B : Type}
    (x : Drawing G A)
    (y : Drawing G B)
    (R : A → B → Prop) : Prop :=
  ∀ g,
    Option.Rel (fun p q => p.2 = q.2 ∧ R p.1 q.1)
      (x.run g) (y.run g)

------------------------------------------------------------
-- Rules
------------------------------------------------------------

namespace SameDraws

variable {G A B C D : Type}
variable {x x' : Drawing G A}
variable {y y' : Drawing G B}
variable {R S : A → B → Prop}

theorem imp
    (hSame : SameDraws x y R)
    (hImp : ∀ a b, R a b → S a b) :
    SameDraws x y S := by
  intro g
  have hRun := hSame g
  revert hRun
  generalize x.run g = p
  generalize y.run g = q
  intro hRun
  cases hRun with
  | none => exact .none
  | some hBoth => exact .some ⟨hBoth.1, hImp _ _ hBoth.2⟩

theorem refl (x : Drawing G A) :
    SameDraws x x Eq := by
  intro g
  cases x.run g with
  | none => exact .none
  | some result => exact .some ⟨rfl, rfl⟩

theorem pure
    {a : A}
    {b : B}
    (hRelated : R a b) :
    SameDraws (Pure.pure a : Drawing G A)
      (Pure.pure b : Drawing G B) R :=
  fun _ => .some ⟨rfl, hRelated⟩

theorem bind
    {f : A → Drawing G C}
    {k : B → Drawing G D}
    {T : C → D → Prop}
    (hSame : SameDraws x y R)
    (hNext : ∀ a b, R a b → SameDraws (f a) (k b) T) :
    SameDraws (x >>= f) (y >>= k) T := by
  intro g
  rw [StateT.run_bind, StateT.run_bind]
  have hRun := hSame g
  revert hRun
  generalize x.run g = p
  generalize y.run g = q
  intro hRun
  cases hRun with
  | none => exact .none
  | @some p q hBoth =>
      rcases p with ⟨a, next⟩
      rcases q with ⟨b, next'⟩
      rcases hBoth with ⟨hGenerator, hRelated⟩
      change next = next' at hGenerator
      subst hGenerator
      exact hNext a b hRelated next

/- A result is put into another form without a draw. -/
theorem bind_pure_left
    {form : A → C}
    {T : C → B → Prop}
    (hSame : SameDraws x y R)
    (hForm : ∀ a b, R a b → T (form a) b) :
    SameDraws (x >>= fun a => Pure.pure (form a)) y T := by
  rw [← bind_pure y]
  refine bind hSame ?_
  intro a b hRelated
  exact pure (hForm a b hRelated)

/- What a start always yields can be used in the rest. -/
theorem bind_yields
    {f : A → Drawing G C}
    {k : A → Drawing G D}
    {P : A → Prop}
    {T : C → D → Prop}
    (hYields : Yields x P)
    (hNext : ∀ a, P a → SameDraws (f a) (k a) T) :
    SameDraws (x >>= f) (x >>= k) T := by
  intro g
  rw [StateT.run_bind, StateT.run_bind]
  cases hRun : x.run g with
  | none => exact .none
  | some result =>
      rcases result with ⟨a, next⟩
      exact hNext a (hYields g a next hRun) next

/- After the same start the rest draws the same. -/
theorem bind_same
    {f : A → Drawing G C}
    {k : A → Drawing G D}
    {T : C → D → Prop}
    (hNext : ∀ a, SameDraws (f a) (k a) T) :
    SameDraws (x >>= f) (x >>= k) T :=
  bind_yields (Yields.anything x) fun a _ => hNext a

theorem ite
    {c : Prop}
    [Decidable c]
    (hThen : c → SameDraws x y R)
    (hElse : ¬ c → SameDraws x' y' R) :
    SameDraws (if c then x else x') (if c then y else y') R := by
  by_cases hCond : c
  · rw [if_pos hCond, if_pos hCond]
    exact hThen hCond
  · rw [if_neg hCond, if_neg hCond]
    exact hElse hCond

/-
  Two loops in step: the second one decides for each item
  what the first one makes of its own item.
-/
theorem mapM_zipWith
    {f : A → Drawing G B}
    {decide : D → Drawing G C}
    {make : A → C → B}
    {items : List A}
    {others : List D}
    (hItems :
      List.Forall₂
        (fun a d =>
          SameDraws (f a) (decide d)
            fun b c => b = make a c)
        items others) :
    SameDraws (items.mapM f) (others.mapM decide)
      fun bs cs =>
        cs.length = items.length ∧
          bs = List.zipWith make items cs := by
  induction hItems with
  | nil =>
      rw [List.mapM_nil, List.mapM_nil]
      exact pure ⟨rfl, rfl⟩
  | @cons a d items others hHead _ ih =>
      rw [List.mapM_cons, List.mapM_cons]
      refine bind hHead ?_
      intro b c hMade
      refine bind ih ?_
      rintro bs cs ⟨hLength, hRest⟩
      refine pure ⟨?_, ?_⟩
      · rw [List.length_cons, List.length_cons, hLength]
      · rw [List.zipWith_cons_cons, ← hMade, ← hRest]

/- Two loops over the same items, seen in two ways. -/
theorem mapM_map
    {f : A → Drawing G A}
    {k : B → Drawing G B}
    {see : A → B}
    (hItem :
      ∀ a, SameDraws (f a) (k (see a)) fun a' b => see a' = b)
    (items : List A) :
    SameDraws (items.mapM f) ((items.map see).mapM k)
      fun as bs => as.map see = bs := by
  induction items with
  | nil => exact pure rfl
  | cons item items ih =>
      rw [List.map_cons, List.mapM_cons, List.mapM_cons]
      refine bind (hItem item) ?_
      intro a b hHead
      refine bind ih ?_
      intro as bs hTail
      refine pure ?_
      rw [List.map_cons, hHead, hTail]

theorem mapSamples_map
    {N : Type}
    (rand : RandomLibrary G N)
    {f : A → Option (Number → A)}
    {k : B → Option (Number → B)}
    {see : A → B}
    (hItem :
      ∀ a, k (see a) = (f a).map fun changed => see ∘ changed)
    (stddev : Number)
    (state : N)
    (items : List A) :
    SameDraws (rand.mapSamples f stddev state items)
      (rand.mapSamples k stddev state (items.map see))
      fun as bs => as.map see = bs := by
  induction items generalizing state with
  | nil => exact pure rfl
  | cons item items ih =>
      rw [List.map_cons]
      unfold RandomLibrary.mapSamples
      simp only [hItem item]
      cases f item with
      | none =>
          refine bind (ih state) ?_
          intro as bs hTail
          refine pure ?_
          rw [List.map_cons, hTail]
      | some changed =>
          refine bind_same fun sample => ?_
          refine bind (ih sample.2) ?_
          intro as bs hTail
          refine pure ?_
          rw [List.map_cons, hTail]
          rfl

/- Two loops with normal samples, seen in two ways. -/
theorem mapNormal_map
    {N : Type}
    (rand : RandomLibrary G N)
    {f : A → Option (Number → A)}
    {k : B → Option (Number → B)}
    {see : A → B}
    (hItem :
      ∀ a, k (see a) = (f a).map fun changed => see ∘ changed)
    (stddev : Number)
    (items : List A) :
    SameDraws (rand.mapNormal f stddev items)
      (rand.mapNormal k stddev (items.map see))
      fun as bs => as.map see = bs :=
  mapSamples_map rand hItem stddev rand.newNormal items

/- Both have no result, or related ones. -/
theorem cases
    (hSame : SameDraws x y R)
    (g : G) :
    (x.run g = none ∧ y.run g = none) ∨
      ∃ a b next,
        x.run g = some (a, next) ∧
          y.run g = some (b, next) ∧ R a b := by
  have hRun := hSame g
  revert hRun
  generalize x.run g = p
  generalize y.run g = q
  intro hRun
  cases hRun with
  | none => exact .inl ⟨rfl, rfl⟩
  | @some p q hBoth =>
      rcases p with ⟨a, next⟩
      rcases q with ⟨b, next'⟩
      rcases hBoth with ⟨hGenerator, hRelated⟩
      change next = next' at hGenerator
      subst hGenerator
      exact .inr ⟨a, b, next, rfl, rfl, hRelated⟩

theorem flip
    (hSame : SameDraws x y R) :
    SameDraws y x fun b a => R a b := by
  intro g
  have hRun := hSame g
  revert hRun
  generalize x.run g = p
  generalize y.run g = q
  intro hRun
  cases hRun with
  | none => exact .none
  | some hBoth => exact .some ⟨hBoth.1.symm, hBoth.2⟩

/- A result of the one comes with a result of the other. -/
theorem exists_right
    (hSame : SameDraws x y R)
    {g next : G}
    {a : A}
    (hRun : x.run g = some (a, next)) :
    ∃ b, y.run g = some (b, next) ∧ R a b := by
  rcases hSame.cases g with
    ⟨hNone, _⟩ | ⟨a', b, next', hA, hB, hRelated⟩
  · rw [hRun] at hNone
    cases hNone
  · rw [hRun] at hA
    cases hA
    exact ⟨b, hB, hRelated⟩

/- One has a result exactly if the other one has. -/
theorem isSome_eq
    (hSame : SameDraws x y R)
    (g : G) :
    (x.run g).isSome = (y.run g).isSome := by
  rcases hSame.cases g with
    ⟨hX, hY⟩ | ⟨a, b, next, hX, hY, _⟩
  · rw [hX, hY]
    rfl
  · rw [hX, hY]
    rfl

end SameDraws
