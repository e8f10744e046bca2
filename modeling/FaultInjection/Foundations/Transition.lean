import Mathlib.Logic.Basic

/-
  Labelled transition systems given by a partial step
  function, and the induction rules for their runs.

  A step returns `none` when the action is not enabled in
  the state. A run performs a list of actions in order.

  Key definitions include:
    * `Transition.run`
    * `Transition.outputs`
    * `Transition.Along`
    * `Transition.Throughout`
    * `Transition.Performs`

  The induction rules are:
    * `Transition.run_invariant`
    * `Transition.run_invariant_of_past`
    * `Transition.along_of_invariant`
    * `Transition.throughout_iff_along`
    * `Transition.run_simulates`
    * `Transition.run_hears`
-/

------------------------------------------------------------
-- Runs
------------------------------------------------------------

namespace Transition

variable {σ α : Type}

/- Perform the listed actions in order. -/
def run
    (step : σ → α → Option σ) : σ → List α → Option σ
| s, [] => some s
| s, a :: as =>
    match step s a with
    | none => none
    | some t => run step t as

/- What the steps of a run put out, in order. -/
def outputs
    {β : Type}
    (step : σ → α → Option σ)
    (out : σ → α → List β) : σ → List α → List β
| _, [] => []
| s, a :: as =>
    out s a ++
      (step s a).elim [] fun t => outputs step out t as

/-
  A condition on the state and the next action holds at
  every step the run takes.
-/
def Along
    (step : σ → α → Option σ)
    (P : σ → α → Prop) : σ → List α → Prop
| _, [] => True
| s, a :: as =>
    P s a ∧ ∀ t, step s a = some t → Along step P t as

/- A condition holds of every state the run goes through. -/
def Throughout
    (step : σ → α → Option σ)
    (I : σ → Prop) : σ → List α → Prop
| s, [] => I s
| s, a :: as =>
    I s ∧ ∀ t, step s a = some t → Throughout step I t as

/- A condition on what a step leads to can be decided. -/
def decidableAfter
    {P : σ → Prop}
    (t? : Option σ)
    (decideP : ∀ t, Decidable (P t)) :
    Decidable (∀ t, t? = some t → P t) :=
  match t? with
  | none => isTrue fun _ hNone => nomatch hNone
  | some t =>
      match decideP t with
      | isTrue hP =>
          isTrue fun _ hSome => Option.some.inj hSome ▸ hP
      | isFalse hP => isFalse fun hAll => hP (hAll t rfl)

instance decidableAlong
    {step : σ → α → Option σ}
    {P : σ → α → Prop}
    [∀ s a, Decidable (P s a)] :
    ∀ s as, Decidable (Along step P s as)
| _, [] => isTrue True.intro
| s, a :: as =>
    have hTail :
        Decidable
          (∀ t, step s a = some t → Along step P t as) :=
      decidableAfter (step s a)
        fun t => decidableAlong t as
    @instDecidableAnd (P s a) _ inferInstance hTail

end Transition

------------------------------------------------------------
-- Composition
------------------------------------------------------------

namespace Transition

variable {σ α : Type}
variable {step : σ → α → Option σ}

/- A nonempty run takes one step and then runs on. -/
theorem run_cons_iff
    {s u : σ}
    {a : α}
    {as : List α} :
    run step s (a :: as) = some u ↔
      ∃ t, step s a = some t ∧ run step t as = some u := by
  rw [run]
  cases step s a with
  | none => simp
  | some t => simp

/- Running two action lists is running one after the other. -/
theorem run_append_iff
    {s u : σ}
    {as bs : List α} :
    run step s (as ++ bs) = some u ↔
      ∃ t, run step s as = some t ∧
        run step t bs = some u := by
  induction as generalizing s with
  | nil =>
      simp [run]
  | cons a as ih =>
      rw [List.cons_append, run_cons_iff]
      constructor
      · rintro ⟨m, hStep, hRest⟩
        rcases ih.mp hRest with ⟨t, hRun, hTail⟩
        exact ⟨t, run_cons_iff.mpr ⟨m, hStep, hRun⟩, hTail⟩
      · rintro ⟨t, hRun, hTail⟩
        rcases run_cons_iff.mp hRun with ⟨m, hStep, hRest⟩
        exact ⟨m, hStep, ih.mpr ⟨t, hRest, hTail⟩⟩

/- A condition along a run holds along each of its parts. -/
theorem along_append_iff
    {P : σ → α → Prop}
    {s : σ}
    {as bs : List α} :
    Along step P s (as ++ bs) ↔
      Along step P s as ∧
        ∀ t, run step s as = some t → Along step P t bs := by
  induction as generalizing s with
  | nil =>
      simp [run, Along]
  | cons a as ih =>
      simp only [List.cons_append, Along]
      constructor
      · rintro ⟨hHead, hTail⟩
        refine ⟨⟨hHead, fun m hStep =>
          (ih.mp (hTail m hStep)).1⟩, ?_⟩
        intro t hRun
        rcases run_cons_iff.mp hRun with ⟨m, hStep, hRest⟩
        exact (ih.mp (hTail m hStep)).2 t hRest
      · rintro ⟨⟨hHead, hTail⟩, hAfter⟩
        refine ⟨hHead, fun m hStep => ih.mpr ?_⟩
        refine ⟨hTail m hStep, fun t hRest => ?_⟩
        exact hAfter t (run_cons_iff.mpr ⟨m, hStep, hRest⟩)

/- What holds along a run holds at each step of it. -/
theorem along_iff
    {P : σ → α → Prop}
    {s : σ}
    {as : List α} :
    Along step P s as ↔
      ∀ before a after t, as = before ++ a :: after →
        run step s before = some t → P t a := by
  constructor
  · intro hAlong before a after t hSplit hRun
    rw [hSplit, along_append_iff] at hAlong
    exact (hAlong.2 t hRun).1
  · intro hPoints
    induction as generalizing s with
    | nil => trivial
    | cons a as ih =>
        refine ⟨hPoints [] a as s rfl rfl, ?_⟩
        intro m hFirst
        apply ih
        intro before b after t hSplit hRun
        have hWhole : run step s (a :: before) = some t :=
          run_cons_iff.mpr ⟨m, hFirst, hRun⟩
        refine hPoints (a :: before) b after t ?_ hWhole
        rw [hSplit, List.cons_append]

end Transition

------------------------------------------------------------
-- Invariants
------------------------------------------------------------

namespace Transition

variable {σ α : Type}
variable {step : σ → α → Option σ}

/-
  An invariant that every permitted step preserves holds
  after every run whose steps are all permitted.
-/
theorem run_invariant
    {I : σ → Prop}
    {P : σ → α → Prop}
    (hStep :
      ∀ s a t, I s → P s a → step s a = some t → I t)
    {s t : σ}
    {as : List α}
    (hInit : I s)
    (hAlong : Along step P s as)
    (hRun : run step s as = some t) :
    I t := by
  induction as generalizing s with
  | nil =>
      rw [run, Option.some.injEq] at hRun
      subst hRun
      exact hInit
  | cons a as ih =>
      rcases run_cons_iff.mp hRun with ⟨m, hFirst, hRest⟩
      exact ih (hStep s a m hInit hAlong.1 hFirst)
        (hAlong.2 m hFirst) hRest

/-
  An invariant of a state and of the actions that led to it
  holds after every run.
-/
theorem run_invariant_of_past
    {I : List α → σ → Prop}
    {init : σ}
    (hStep :
      ∀ past s a t,
        run step init past = some s → I past s →
          step s a = some t → I (past ++ [a]) t)
    (hInit : I [] init)
    {as : List α}
    {t : σ}
    (hRun : run step init as = some t) :
    I as t := by
  suffices hFrom :
      ∀ past s,
        run step init past = some s → I past s →
          run step s as = some t → I (past ++ as) t from
    hFrom [] init rfl hInit hRun
  clear hRun
  induction as with
  | nil =>
      intro past s _ hPast hRest
      rw [run, Option.some.injEq] at hRest
      subst hRest
      rw [List.append_nil]
      exact hPast
  | cons a as ih =>
      intro past s hReach hPast hRest
      rcases run_cons_iff.mp hRest with ⟨m, hFirst, hTail⟩
      have hNext : run step init (past ++ [a]) = some m :=
        run_append_iff.mpr
          ⟨s, hReach, run_cons_iff.mpr ⟨m, hFirst, rfl⟩⟩
      have hWhole :=
        ih (past ++ [a]) m hNext
          (hStep past s a m hReach hPast hFirst) hTail
      rw [List.append_assoc] at hWhole
      exact hWhole

/-
  What an invariant guarantees of one permitted step holds
  at every step of a run whose steps are all permitted.
-/
theorem along_of_invariant
    {I : σ → Prop}
    {P Q : σ → α → Prop}
    (hStep :
      ∀ s a t, I s → P s a → step s a = some t → I t)
    (hGood : ∀ s a, I s → P s a → Q s a)
    {s : σ}
    {as : List α}
    (hInit : I s)
    (hAlong : Along step P s as) :
    Along step Q s as := by
  induction as generalizing s with
  | nil =>
      trivial
  | cons a as ih =>
      refine ⟨hGood s a hInit hAlong.1, ?_⟩
      intro m hFirst
      exact ih (hStep s a m hInit hAlong.1 hFirst)
        (hAlong.2 m hFirst)

/-
  Along runs whose steps all lie in a domain, two conditions
  say the same if they do so in every state of an invariant.
-/
theorem along_iff_of_invariant
    {I : σ → Prop}
    {D P Q : σ → α → Prop}
    (hStep :
      ∀ s a t, I s → D s a → step s a = some t → I t)
    (hSame : ∀ s a, I s → D s a → (P s a ↔ Q s a))
    {s : σ}
    {as : List α}
    (hInit : I s)
    (hDomain : Along step D s as) :
    Along step P s as ↔ Along step Q s as := by
  induction as generalizing s with
  | nil => exact Iff.rfl
  | cons a as ih =>
      have hTail :
          ∀ t, step s a = some t →
            (Along step P t as ↔ Along step Q t as) := by
        intro t hFirst
        exact ih (hStep s a t hInit hDomain.1 hFirst)
          (hDomain.2 t hFirst)
      constructor
      · intro hAlong
        refine ⟨(hSame s a hInit hDomain.1).mp hAlong.1, ?_⟩
        intro t hFirst
        exact (hTail t hFirst).mp (hAlong.2 t hFirst)
      · intro hAlong
        refine ⟨(hSame s a hInit hDomain.1).mpr hAlong.1, ?_⟩
        intro t hFirst
        exact (hTail t hFirst).mpr (hAlong.2 t hFirst)

/- Every step of a run leads somewhere. -/
theorem along_isSome_of_run
    {s t : σ}
    {as : List α}
    (hRun : run step s as = some t) :
    Along step (fun s a => (step s a).isSome = true) s as := by
  induction as generalizing s with
  | nil => trivial
  | cons a as ih =>
      rcases run_cons_iff.mp hRun with ⟨m, hFirst, hRest⟩
      refine ⟨Option.isSome_iff_exists.mpr ⟨m, hFirst⟩, ?_⟩
      intro u hStep
      rw [hFirst, Option.some.injEq] at hStep
      subst hStep
      exact ih hRest

/- A condition that all listed actions meet in every state. -/
theorem along_of_mem
    {P : σ → α → Prop}
    {as : List α}
    (hAll : ∀ a ∈ as, ∀ s, P s a)
    (s : σ) :
    Along step P s as := by
  induction as generalizing s with
  | nil => trivial
  | cons a as ih =>
      refine ⟨hAll a (by simp) s, fun t _ => ?_⟩
      exact ih (fun b hB => hAll b (by simp [hB])) t

/- A condition true of every step holds along every run. -/
theorem along_of_forall
    {P : σ → α → Prop}
    (hAll : ∀ s a, P s a)
    (s : σ)
    (as : List α) :
    Along step P s as :=
  along_of_mem (fun a _ t => hAll t a) s

/- Conditions that agree on every step agree on every run. -/
theorem along_congr
    {P Q : σ → α → Prop}
    (hSame : ∀ s a, P s a ↔ Q s a)
    (s : σ)
    (as : List α) :
    Along step P s as ↔ Along step Q s as := by
  rw [along_iff, along_iff]
  simp only [hSame]

/- Two conditions that hold along a run. -/
theorem along_and
    {P Q : σ → α → Prop}
    {s : σ}
    {as : List α}
    (hFirst : Along step P s as)
    (hSecond : Along step Q s as) :
    Along step (fun s a => P s a ∧ Q s a) s as := by
  induction as generalizing s with
  | nil => trivial
  | cons a as ih =>
      refine ⟨⟨hFirst.1, hSecond.1⟩, ?_⟩
      intro t hStep
      exact ih (hFirst.2 t hStep) (hSecond.2 t hStep)

/- What each step puts out is what the run puts out. -/
theorem forall_mem_outputs
    {β : Type}
    {out : σ → α → List β}
    {P : σ → α → Prop}
    {Q : β → Prop}
    (hOut : ∀ s a, P s a → ∀ b ∈ out s a, Q b)
    {s : σ}
    {as : List α}
    (hAlong : Along step P s as) :
    ∀ b ∈ outputs step out s as, Q b := by
  induction as generalizing s with
  | nil =>
      intro b hNone
      cases hNone
  | cons a as ih =>
      intro b hMember
      rcases List.mem_append.mp hMember with hHere | hLater
      · exact hOut s a hAlong.1 b hHere
      · cases hStep : step s a with
        | none =>
            rw [hStep] at hLater
            cases hLater
        | some t =>
            rw [hStep] at hLater
            exact ih (hAlong.2 t hStep) b hLater

/- What holds throughout a run holds at each point of it. -/
theorem throughout_iff
    {I : σ → Prop}
    {s : σ}
    {as : List α} :
    Throughout step I s as ↔
      ∀ before after t, as = before ++ after →
        run step s before = some t → I t := by
  constructor
  · intro hThroughout before
    induction before generalizing s as with
    | nil =>
        intro after t hSplit hRun
        rw [run, Option.some.injEq] at hRun
        subst hRun
        cases as with
        | nil => exact hThroughout
        | cons a as => exact hThroughout.1
    | cons a before ih =>
        intro after t hSplit hRun
        subst hSplit
        rcases run_cons_iff.mp hRun with ⟨m, hFirst, hRest⟩
        exact ih (hThroughout.2 m hFirst) after t rfl hRest
  · intro hPoints
    induction as generalizing s with
    | nil => exact hPoints [] [] s rfl rfl
    | cons a as ih =>
        refine ⟨hPoints [] (a :: as) s rfl rfl, ?_⟩
        intro m hFirst
        apply ih
        intro before after t hSplit hRun
        have hWhole : run step s (a :: before) = some t :=
          run_cons_iff.mpr ⟨m, hFirst, hRun⟩
        exact hPoints (a :: before) after t
          (by rw [hSplit, List.cons_append]) hWhole

/-
  Consider runs whose steps all lie in a domain. When a step
  of the domain keeps a condition exactly if it is permitted,
  the condition holds throughout such a run exactly if all
  its steps are permitted.
-/
theorem throughout_iff_along
    {I J : σ → Prop}
    {D P : σ → α → Prop}
    (hKeep : ∀ s a t, J s → D s a → step s a = some t → J t)
    (hStep :
      ∀ s a t, J s → D s a → I s → step s a = some t →
        (I t ↔ P s a))
    {s u : σ}
    {as : List α}
    (hInit : I s)
    (hJ : J s)
    (hDomain : Along step D s as)
    (hRun : run step s as = some u) :
    Throughout step I s as ↔ Along step P s as := by
  induction as generalizing s with
  | nil => exact ⟨fun _ => True.intro, fun _ => hInit⟩
  | cons a as ih =>
      rcases run_cons_iff.mp hRun with ⟨m, hFirst, hRest⟩
      rcases hDomain with ⟨hHere, hLater⟩
      have hNext := hKeep s a m hJ hHere hFirst
      have hPermitted := hStep s a m hJ hHere hInit hFirst
      have hThere := hLater m hFirst
      constructor
      · rintro ⟨_, hTail⟩
        have hM : I m := by
          have hRemaining := hTail m hFirst
          cases as with
          | nil => exact hRemaining
          | cons b bs => exact hRemaining.1
        refine ⟨hPermitted.mp hM, ?_⟩
        intro t hT
        rw [hFirst, Option.some.injEq] at hT
        subst hT
        exact (ih hM hNext hThere hRest).mp (hTail m hFirst)
      · rintro ⟨hHead, hTail⟩
        have hM : I m := hPermitted.mpr hHead
        refine ⟨hInit, ?_⟩
        intro t hT
        rw [hFirst, Option.some.injEq] at hT
        subst hT
        exact (ih hM hNext hThere hRest).mpr (hTail m hFirst)

/-
  A relation to a total function's state that every permitted
  step keeps relates the ends of both runs, and the run of
  permitted steps never gets stuck.
-/
theorem run_simulates
    {β : Type}
    {next : β → α → β}
    {R : σ → β → Prop}
    (hStep :
      ∀ s p a, R s p → ∃ t, step s a = some t ∧ R t (next p a))
    {s : σ}
    {p : β}
    (hInit : R s p)
    (as : List α) :
    ∃ t, run step s as = some t ∧ R t (as.foldl next p) := by
  induction as generalizing s p with
  | nil => exact ⟨s, rfl, hInit⟩
  | cons a as ih =>
      rcases hStep s p a hInit with ⟨m, hFirst, hNext⟩
      rcases ih hNext with ⟨t, hRest, hEnd⟩
      exact ⟨t, run_cons_iff.mpr ⟨m, hFirst, hRest⟩, hEnd⟩

/- A run takes the same steps in a system that has them all. -/
theorem run_mono
    {next : σ → α → Option σ}
    (hSteps : ∀ s a t, step s a = some t → next s a = some t)
    {s t : σ}
    {as : List α}
    (hRun : run step s as = some t) :
    run next s as = some t := by
  induction as generalizing s with
  | nil => exact hRun
  | cons a as ih =>
      rcases run_cons_iff.mp hRun with ⟨m, hFirst, hRest⟩
      exact
        run_cons_iff.mpr ⟨m, hSteps s a m hFirst, ih hRest⟩

/-
  A system that hears some of the actions of another one, in
  its own words, follows every run of that one.
-/
theorem run_hears
    {τ β : Type}
    {next : τ → β → Option τ}
    {hears : α → Option β}
    {R : σ → τ → Prop}
    (hSilent :
      ∀ s p a t, R s p → step s a = some t →
        hears a = none → R t p)
    (hHeard :
      ∀ s p a b t, R s p → step s a = some t →
        hears a = some b → ∃ q, next p b = some q ∧ R t q)
    {s t : σ}
    {p : τ}
    {as : List α}
    (hInit : R s p)
    (hRun : run step s as = some t) :
    ∃ q, run next p (as.filterMap hears) = some q ∧ R t q := by
  induction as generalizing s p with
  | nil =>
      rw [run, Option.some.injEq] at hRun
      subst hRun
      exact ⟨p, rfl, hInit⟩
  | cons a as ih =>
      rcases run_cons_iff.mp hRun with ⟨m, hFirst, hRest⟩
      cases hHears : hears a with
      | none =>
          rw [List.filterMap_cons_none hHears]
          exact ih (hSilent s p a m hInit hFirst hHears) hRest
      | some b =>
          rw [List.filterMap_cons_some hHears]
          rcases hHeard s p a b m hInit hFirst hHears with
            ⟨q, hNext, hRelated⟩
          rcases ih hRelated hRest with ⟨u, hTail, hEnd⟩
          exact ⟨u, run_cons_iff.mpr ⟨q, hNext, hTail⟩, hEnd⟩

------------------------------------------------------------
-- Performed Actions
------------------------------------------------------------

/- The run performs an action in a state that it reaches. -/
def Performs
    (step : σ → α → Option σ)
    (init : σ)
    (as : List α)
    (s : σ)
    (a : α) : Prop :=
  ∃ before after,
    as = before ++ a :: after ∧ run step init before = some s

theorem Performs.snoc
    {init s : σ}
    {as : List α}
    {a : α}
    (hPerforms : Performs step init as s a)
    (b : α) :
    Performs step init (as ++ [b]) s a := by
  rcases hPerforms with ⟨before, after, rfl, hRun⟩
  exact ⟨before, after ++ [b], by simp, hRun⟩

theorem Performs.mem
    {init s : σ}
    {as : List α}
    {a : α}
    (hPerforms : Performs step init as s a) :
    a ∈ as := by
  rcases hPerforms with ⟨before, after, rfl, _⟩
  simp

theorem performs_last
    {init s : σ}
    {as : List α}
    (hRun : run step init as = some s)
    (a : α) :
    Performs step init (as ++ [a]) s a :=
  ⟨as, [], rfl, hRun⟩

end Transition
