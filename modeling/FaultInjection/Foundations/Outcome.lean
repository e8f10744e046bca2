import Mathlib.Data.List.Forall2
import Mathlib.Logic.Basic

/-
  Imperative code that may throw and keeps the state the
  exception found.

  A body returns normally with the new state or throws and
  leaves whatever it had done so far. A loop over a list
  stops at the first exception.

  Key definitions include:
    * `Outcome`
    * `Outcome.bind`
    * `Outcome.forEach`

  The rules of pre- and postconditions are:
    * `Except.bind_eq_ok_iff`
    * `Except.mapM_eq_ok_iff`
    * `Option.mapM_eq_some_iff`
    * `Outcome.bind_state`
    * `Outcome.forEach_state`
    * `Outcome.forEach_done`
    * `Outcome.forEach_returned_iff`
-/

------------------------------------------------------------
-- Outcomes
------------------------------------------------------------

/-
  The end of a computation that changes a state: a normal
  return or an exception, each with the state it left.
-/
inductive Outcome (σ : Type) where
| done : σ → Outcome σ
| threw : σ → Outcome σ
deriving DecidableEq

namespace Outcome

variable {σ α : Type}

/- The state left behind, however the computation ended. -/
def state : Outcome σ → σ
| .done s => s
| .threw s => s

/- The computation returned normally. -/
def returned : Outcome σ → Bool
| .done _ => true
| .threw _ => false

/- Run the continuation unless an exception was thrown. -/
def bind
    (o : Outcome σ)
    (k : σ → Outcome σ) : Outcome σ :=
  match o with
  | .done s => k s
  | .threw s => .threw s

/- A loop over a list, left at the first exception. -/
def forEach
    (body : α → σ → Outcome σ) : List α → σ → Outcome σ
| [], s => .done s
| x :: xs, s => (body x s).bind (forEach body xs)

@[simp] theorem state_done (s : σ) :
    (Outcome.done s).state = s := rfl

@[simp] theorem state_threw (s : σ) :
    (Outcome.threw s).state = s := rfl

@[simp] theorem returned_done (s : σ) :
    (Outcome.done s).returned = true := rfl

@[simp] theorem returned_threw (s : σ) :
    (Outcome.threw s).returned = false := rfl

/- What returned ends in the state that it leaves. -/
theorem eq_done_of_returned
    {o : Outcome σ}
    (hReturned : o.returned = true) :
    o = .done o.state := by
  cases o with
  | done s => rfl
  | threw s => cases hReturned

@[simp] theorem bind_done
    (s : σ)
    (k : σ → Outcome σ) :
    (Outcome.done s).bind k = k s := rfl

@[simp] theorem bind_threw
    (s : σ)
    (k : σ → Outcome σ) :
    (Outcome.threw s).bind k = .threw s := rfl

@[simp] theorem forEach_nil
    (body : α → σ → Outcome σ)
    (s : σ) :
    forEach body [] s = .done s := rfl

@[simp] theorem forEach_cons
    (body : α → σ → Outcome σ)
    (x : α)
    (xs : List α)
    (s : σ) :
    forEach body (x :: xs) s =
      (body x s).bind (forEach body xs) := rfl

end Outcome

------------------------------------------------------------
-- Exceptions
------------------------------------------------------------

/- A value is computed in sequence when both parts do. -/
theorem Except.bind_eq_ok_iff
    {ε α β : Type}
    {x : Except ε α}
    {f : α → Except ε β}
    {b : β} :
    (x >>= f) = .ok b ↔ ∃ a, x = .ok a ∧ f a = .ok b := by
  cases x with
  | error e => simp [bind, Except.bind]
  | ok a => simp [bind, Except.bind]

/- Every item of the first list has a related item. -/
theorem List.Forall₂.exists_of_mem_left
    {α β : Type}
    {R : α → β → Prop}
    {xs : List α}
    {ys : List β}
    (hRelated : List.Forall₂ R xs ys)
    {x : α}
    (hMember : x ∈ xs) :
    ∃ y ∈ ys, R x y := by
  induction hRelated with
  | nil => cases hMember
  | cons hHead _ ih =>
      cases hMember with
      | head => exact ⟨_, List.mem_cons_self, hHead⟩
      | tail _ hRest =>
          rcases ih hRest with ⟨y, hY, hSame⟩
          exact ⟨y, List.mem_cons_of_mem _ hY, hSame⟩

/- Every item of the second list has a related item. -/
theorem List.Forall₂.exists_of_mem_right
    {α β : Type}
    {R : α → β → Prop}
    {xs : List α}
    {ys : List β}
    (hRelated : List.Forall₂ R xs ys)
    {y : β}
    (hMember : y ∈ ys) :
    ∃ x ∈ xs, R x y :=
  List.Forall₂.exists_of_mem_left hRelated.flip hMember

/- Relations along two steps make one along both. -/
theorem List.Forall₂.comp
    {α β γ : Type}
    {R : α → β → Prop}
    {S : β → γ → Prop}
    {T : α → γ → Prop}
    {xs : List α}
    {ys : List β}
    {zs : List γ}
    (hFirst : List.Forall₂ R xs ys)
    (hSecond : List.Forall₂ S ys zs)
    (hBoth : ∀ x y z, R x y → S y z → T x z) :
    List.Forall₂ T xs zs := by
  induction hFirst generalizing zs with
  | nil =>
      cases hSecond
      exact List.Forall₂.nil
  | cons hHead _ ih =>
      cases hSecond with
      | cons hNext hRest =>
          exact
            List.Forall₂.cons (hBoth _ _ _ hHead hNext)
              (ih hRest)

/- Two relations between the same items. -/
theorem List.Forall₂.both
    {α β : Type}
    {R S : α → β → Prop}
    {xs : List α}
    {ys : List β}
    (hFirst : List.Forall₂ R xs ys)
    (hSecond : List.Forall₂ S xs ys) :
    List.Forall₂ (fun x y => R x y ∧ S x y) xs ys := by
  induction hFirst with
  | nil => exact List.Forall₂.nil
  | cons hHead _ ih =>
      cases hSecond with
      | cons hOther hRest =>
          exact List.Forall₂.cons ⟨hHead, hOther⟩ (ih hRest)

/- What related items make is related to each of them. -/
theorem List.Forall₂.zipWith_left
    {α β γ : Type}
    {R : α → β → Prop}
    {S : α → γ → Prop}
    {make : α → β → γ}
    {xs : List α}
    {ys : List β}
    (hRelated : List.Forall₂ R xs ys)
    (hMade : ∀ x y, R x y → S x (make x y)) :
    List.Forall₂ S xs (List.zipWith make xs ys) := by
  induction hRelated with
  | nil => exact List.Forall₂.nil
  | cons hHead _ ih =>
      exact List.Forall₂.cons (hMade _ _ hHead) ih

theorem List.Forall₂.zipWith_right
    {α β γ : Type}
    {R : α → β → Prop}
    {S : β → γ → Prop}
    {make : α → β → γ}
    {xs : List α}
    {ys : List β}
    (hRelated : List.Forall₂ R xs ys)
    (hMade : ∀ x y, R x y → S y (make x y)) :
    List.Forall₂ S ys (List.zipWith make xs ys) := by
  induction hRelated with
  | nil => exact List.Forall₂.nil
  | cons hHead _ ih =>
      exact List.Forall₂.cons (hMade _ _ hHead) ih

/- Related items satisfy conditions that say the same. -/
theorem List.Forall₂.congr
    {α β : Type}
    {R P Q : α → β → Prop}
    {xs : List α}
    {ys : List β}
    (hRelated : List.Forall₂ R xs ys)
    (hSame : ∀ x, ∀ y ∈ ys, R x y → (P x y ↔ Q x y)) :
    List.Forall₂ P xs ys ↔ List.Forall₂ Q xs ys := by
  induction hRelated with
  | nil => simp
  | cons hHead _ ih =>
      rw [List.forall₂_cons, List.forall₂_cons,
        hSame _ _ List.mem_cons_self hHead,
        ih fun x y hY => hSame x y (List.mem_cons_of_mem _ hY)]

theorem Except.toOption_eq_some_iff
    {ε α : Type}
    {x : Except ε α}
    {a : α} :
    x.toOption = some a ↔ x = .ok a := by
  cases x with
  | error e => simp [Except.toOption]
  | ok b => simp [Except.toOption]

/- A list is computed item by item. -/
theorem Except.mapM_eq_ok_iff
    {ε α β : Type}
    {f : α → Except ε β}
    {xs : List α}
    {ys : List β} :
    xs.mapM f = .ok ys ↔
      List.Forall₂ (fun x y => f x = .ok y) xs ys := by
  induction xs generalizing ys with
  | nil =>
      rw [List.mapM_nil, List.forall₂_nil_left_iff]
      constructor
      · intro hDone
        cases hDone
        exact rfl
      · intro hEmpty
        rw [hEmpty]
        exact rfl
  | cons x xs ih =>
      rw [List.mapM_cons, Except.bind_eq_ok_iff,
        List.forall₂_cons_left_iff]
      constructor
      · rintro ⟨y, hHead, hTail⟩
        rcases Except.bind_eq_ok_iff.mp hTail with
          ⟨rest, hRest, hDone⟩
        cases hDone
        exact ⟨y, rest, hHead, ih.mp hRest, rfl⟩
      · rintro ⟨y, rest, hHead, hRest, hSame⟩
        refine ⟨y, hHead, ?_⟩
        rw [Except.bind_eq_ok_iff]
        refine ⟨rest, ih.mpr hRest, ?_⟩
        rw [hSame]
        exact rfl

/- A partial map of a list succeeds item by item. -/
theorem Option.mapM_eq_some_iff
    {α β : Type}
    {f : α → Option β}
    {xs : List α}
    {ys : List β} :
    xs.mapM f = some ys ↔
      List.Forall₂ (fun x y => f x = some y) xs ys := by
  induction xs generalizing ys with
  | nil =>
      rw [List.mapM_nil, List.forall₂_nil_left_iff]
      exact Option.some_inj.trans eq_comm
  | cons x xs ih =>
      rw [List.mapM_cons, List.forall₂_cons_left_iff]
      simp only [Option.bind_eq_bind, Option.bind_eq_some_iff,
        Option.pure_def, Option.some.injEq, ih]
      constructor
      · rintro ⟨y, hHead, rest, hRest, hSame⟩
        exact ⟨y, rest, hHead, hRest, hSame.symm⟩
      · rintro ⟨y, rest, hHead, hRest, hSame⟩
        exact ⟨y, hHead, rest, hRest, hSame.symm⟩

/- A map that is partial item by item, with known values. -/
theorem Option.mapM_eq_map_iff
    {α β : Type}
    {f : α → Option β}
    {g : α → β}
    (hValue : ∀ x y, f x = some y → y = g x)
    {xs : List α}
    {ys : List β} :
    xs.mapM f = some ys ↔
      (∀ x ∈ xs, (f x).isSome = true) ∧ ys = xs.map g := by
  rw [Option.mapM_eq_some_iff]
  constructor
  · intro hRelated
    constructor
    · intro x hMember
      rcases hRelated.exists_of_mem_left hMember with
        ⟨y, _, hSome⟩
      rw [hSome]
      rfl
    · refine (List.forall₂_eq_eq_eq ▸ ?_ : ys = xs.map g)
      rw [List.forall₂_map_right_iff]
      exact
        hRelated.flip.imp fun y x hSome => hValue x y hSome
  · rintro ⟨hSome, hMap⟩
    rw [hMap, List.forall₂_map_right_iff, List.forall₂_same]
    intro x hMember
    rcases Option.isSome_iff_exists.mp (hSome x hMember) with
      ⟨y, hY⟩
    rw [hY, hValue x y hY]

------------------------------------------------------------
-- Sequencing
------------------------------------------------------------

namespace Outcome

variable {σ α : Type}

/- A sequence returns normally when both parts do. -/
theorem bind_eq_done_iff
    {o : Outcome σ}
    {k : σ → Outcome σ}
    {t : σ} :
    o.bind k = .done t ↔
      ∃ s, o = .done s ∧ k s = .done t := by
  cases o with
  | done s => simp
  | threw s => simp

/- Sequencing is associative. -/
theorem bind_assoc
    (o : Outcome σ)
    (k l : σ → Outcome σ) :
    (o.bind k).bind l = o.bind (fun s => (k s).bind l) := by
  cases o with
  | done s => rfl
  | threw s => rfl

/-
  A property of the state that both parts keep survives the
  sequence, also when it ends in an exception.
-/
theorem bind_state
    {P : σ → Prop}
    {o : Outcome σ}
    {k : σ → Outcome σ}
    (hFirst : P o.state)
    (hSecond : ∀ s, P s → P (k s).state) :
    P (o.bind k).state := by
  cases o with
  | done s => exact hSecond s hFirst
  | threw s => exact hFirst

/- Two loops in sequence are one loop over both lists. -/
theorem forEach_append
    (body : α → σ → Outcome σ)
    (xs ys : List α)
    (s : σ) :
    forEach body (xs ++ ys) s =
      (forEach body xs s).bind (forEach body ys) := by
  induction xs generalizing s with
  | nil => rfl
  | cons x xs ih =>
      rw [List.cons_append, forEach, forEach, bind_assoc]
      congr 1
      funext t
      exact ih t

/- A loop of loops is one loop over the joined lists. -/
theorem forEach_flatMap
    {β : Type}
    (body : α → σ → Outcome σ)
    (f : β → List α)
    (ys : List β)
    (s : σ) :
    forEach (fun y => forEach body (f y)) ys s =
      forEach body (ys.flatMap f) s := by
  induction ys generalizing s with
  | nil => rfl
  | cons y ys ih =>
      rw [List.flatMap_cons, forEach_append, forEach]
      congr 1
      funext t
      exact ih t

/- A loop over renamed items is the loop with the renaming. -/
theorem forEach_map
    {β : Type}
    (body : α → σ → Outcome σ)
    (f : β → α)
    (ys : List β)
    (s : σ) :
    forEach body (ys.map f) s =
      forEach (fun y => body (f y)) ys s := by
  induction ys generalizing s with
  | nil => rfl
  | cons y ys ih =>
      rw [List.map_cons, forEach, forEach]
      congr 1
      funext t
      exact ih t

end Outcome

------------------------------------------------------------
-- Loop Rules
------------------------------------------------------------

namespace Outcome

variable {σ α : Type}
variable {body : α → σ → Outcome σ}

/-
  A property of the state that every round keeps holds when
  the loop is left, normally or by an exception.
-/
theorem forEach_state
    {P : σ → Prop}
    {xs : List α}
    (hBody : ∀ x ∈ xs, ∀ s, P s → P (body x s).state)
    {s : σ}
    (hInit : P s) :
    P (forEach body xs s).state := by
  induction xs generalizing s with
  | nil => exact hInit
  | cons x xs ih =>
      rw [forEach]
      apply bind_state (hBody x (by simp) s hInit)
      intro t hT
      exact ih (fun y hY => hBody y (by simp [hY])) hT

/-
  A relation to the rounds done so far that every completed
  round extends holds of all rounds when the loop completes.
-/
theorem forEach_done
    {I : List α → σ → Prop}
    {xs : List α}
    (hBody :
      ∀ before x s t, I before s → x ∈ xs →
        body x s = .done t → I (before ++ [x]) t)
    {s t : σ}
    (hInit : I [] s)
    (hDone : forEach body xs s = .done t) :
    I xs t := by
  suffices hGeneral :
      ∀ (rest before : List α) (s : σ),
        rest ⊆ xs → I before s →
          forEach body rest s = .done t →
            I (before ++ rest) t by
    simpa using hGeneral xs [] s (fun _ h => h) hInit hDone
  intro rest
  induction rest with
  | nil =>
      intro before s _ hBefore hRun
      rw [forEach, Outcome.done.injEq] at hRun
      subst hRun
      simpa using hBefore
  | cons x rest ih =>
      intro before s hSubset hBefore hRun
      rcases bind_eq_done_iff.mp hRun with
        ⟨m, hRound, hRest⟩
      have hNext : I (before ++ [x]) m :=
        hBody before x s m hBefore
          (hSubset (by simp)) hRound
      have hTail : rest ⊆ xs :=
        fun y hY => hSubset (by simp [hY])
      simpa using ih (before ++ [x]) m hTail hNext hRest

/-
  A loop whose rounds throw for a reason in the item alone
  completes exactly when no item has that reason.
-/
theorem forEach_returned_iff
    {ok : α → Prop}
    {P : σ → Prop}
    {xs : List α}
    (hOk :
      ∀ x ∈ xs, ∀ s, P s →
        ((body x s).returned = true ↔ ok x))
    (hKeep : ∀ x ∈ xs, ∀ s, P s → P (body x s).state)
    {s : σ}
    (hInit : P s) :
    (forEach body xs s).returned = true ↔
      ∀ x ∈ xs, ok x := by
  induction xs generalizing s with
  | nil => simp [forEach]
  | cons x xs ih =>
      have hHead := hOk x (by simp) s hInit
      have hKept := hKeep x (by simp) s hInit
      rw [forEach]
      cases hRound : body x s with
      | done t =>
          rw [hRound] at hHead hKept
          have hTail := ih
            (fun y hY => hOk y (by simp [hY]))
            (fun y hY => hKeep y (by simp [hY])) hKept
          have hItem : ok x := hHead.mp rfl
          rw [bind_done, List.forall_mem_cons]
          exact hTail.trans ⟨fun h => ⟨hItem, h⟩, And.right⟩
      | threw t =>
          rw [hRound, returned_threw] at hHead
          rw [bind_threw, returned_threw,
            List.forall_mem_cons]
          constructor
          · intro hFalse
            cases hFalse
          · intro hAll
            exact hHead.mpr hAll.1

end Outcome
