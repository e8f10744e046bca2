import FaultInjection.Foundations.Yields

/-
  Draws from a fixed tape.

  Whether a bad result can occur is shown with a generator
  that gives chosen numbers: so many times one number and
  zero ever after, and always the same normal value. A loop
  that takes one number for each item then has a result that
  can be computed item by item.

  Key definitions include:
    * `RandomLibrary.UnitDraws`
    * `fixedDraws`

  Key theorems include:
    * `RandomLibrary.uniform_yields`
    * `RandomLibrary.bernoulli_yields`
    * `mapM_run_of_steps`
    * `fixedDraws.mapNormal_run`
-/

------------------------------------------------------------
-- Draws From The Unit Interval
------------------------------------------------------------

namespace RandomLibrary

variable {G N : Type}

/- Zero can be drawn and one cannot. -/
def UnitDraws (rand : RandomLibrary G N) : Prop :=
  ∀ g, 0 ≤ (rand.canonical g).1 ∧ (rand.canonical g).1 < 1

variable {rand : RandomLibrary G N}

/- What is certain always happens. -/
theorem bernoulli_yields
    (hUnit : rand.UnitDraws)
    (probability : Number) :
    Yields (rand.bernoulli probability) fun happens =>
      Number.one.le probability = true → happens = true := by
  intro g happens next hRun hCertain
  cases hRun
  have hBelow := (hUnit g).2
  cases probability with
  | finite p =>
      have hOne : 1 ≤ p := by
        simpa [Number.one] using hCertain
      change (Number.finite _).lt (.finite p) = true
      rw [Number.lt_finite_iff]
      exact lt_of_lt_of_le hBelow hOne
  | posInf => rfl
  | negInf => simp [Number.le, Number.one] at hCertain
  | nan => simp [Number.le] at hCertain

/- A draw between two numbers lies between them. -/
theorem uniform_yields
    (hUnit : rand.UnitDraws)
    {low high : ℚ}
    (hOrder : low ≤ high) :
    Yields (rand.uniform (.finite low) (.finite high))
      fun value =>
        ∃ q : ℚ, value = .finite q ∧ low ≤ q ∧ q ≤ high := by
  intro g value next hRun
  cases hRun
  have hDraw := hUnit g
  have hWidth : 0 ≤ high - low := sub_nonneg.mpr hOrder
  refine
    ⟨(rand.canonical g).1 * (high - low) + low, ?_, ?_, ?_⟩
  · change Number.finite _ = _
    rw [sub_eq_add_neg]
  · have hAbove := mul_nonneg hDraw.1 hWidth
    linarith
  · have hBelow := mul_le_mul_of_nonneg_right hDraw.2.le hWidth
    linarith

end RandomLibrary

------------------------------------------------------------
-- Loops
------------------------------------------------------------

/- A loop goes through the states that its rounds go through. -/
theorem mapM_run_of_steps
    {G A B : Type}
    {f : A → Drawing G B}
    {value : A → B}
    {state : ℕ → G}
    (hItem :
      ∀ item n,
        (f item).run (state (n + 1)) =
          some (value item, state n))
    (items : List A) :
    (items.mapM f).run (state items.length) =
      some (items.map value, state 0) := by
  induction items with
  | nil => rfl
  | cons item items ih =>
      rw [List.mapM_cons, StateT.run_bind]
      rw [List.length_cons, hItem item items.length]
      change ((items.mapM f >>= fun rest =>
        pure (value item :: rest)).run _) = _
      rw [StateT.run_bind, ih]
      rfl

------------------------------------------------------------
-- Tapes
------------------------------------------------------------

/- The first draws are equal, as many as the state says. -/
def fixedDraws (first sample : ℚ) : RandomLibrary ℕ Unit where
  canonical
  | 0 => (0, 0)
  | n + 1 => (first, n)
  newNormal := ()
  standardNormal := fun state g => ((sample, state), g)

namespace fixedDraws

variable {first sample : ℚ}

theorem unitDraws
    (hNonneg : 0 ≤ first)
    (hBelow : first < 1) :
    (fixedDraws first sample).UnitDraws := by
  intro g
  cases g with
  | zero => exact ⟨le_rfl, one_pos⟩
  | succ n => exact ⟨hNonneg, hBelow⟩

/- What equals the probability does not happen. -/
theorem bernoulli_run_succ (n : ℕ) :
    ((fixedDraws first sample).bernoulli
        (.finite first)).run (n + 1) =
      some (false, n) := by
  change some ((Number.finite first).lt (.finite first), n) = _
  rw [Number.lt_self]

/- At the end of the tape everything possible happens. -/
theorem bernoulli_run_zero
    {probability : Number}
    (hPossible : Number.zero.lt probability = true) :
    ((fixedDraws first sample).bernoulli probability).run 0 =
      some (true, 0) := by
  change some (Number.zero.lt probability, 0) = _
  rw [hPossible]

theorem mapSamples_run
    {A : Type}
    (change : A → Option (Number → A))
    (stddev : Number)
    (items : List A)
    (g : ℕ) :
    ((fixedDraws first sample).mapSamples change stddev ()
        items).run g =
      some
        (items.map fun item =>
          (change item).elim item
            (· ((Number.finite sample).mul stddev)), g) := by
  induction items with
  | nil => rfl
  | cons item items ih =>
      unfold RandomLibrary.mapSamples
      cases hChange : change item with
      | none =>
          refine Option.bind_eq_some_iff.mpr ⟨_, ih, ?_⟩
          rw [List.map_cons, hChange]
          rfl
      | some changed =>
          refine Option.bind_eq_some_iff.mpr ⟨_, ih, ?_⟩
          rw [List.map_cons, hChange]
          rfl

/- Every item takes the same sample. -/
theorem mapNormal_run
    {A : Type}
    (change : A → Option (Number → A))
    (stddev : Number)
    (items : List A)
    (g : ℕ) :
    ((fixedDraws first sample).mapNormal change stddev
        items).run g =
      some
        (items.map fun item =>
          (change item).elim item
            (· ((Number.finite sample).mul stddev)), g) :=
  mapSamples_run change stddev items g

end fixedDraws
