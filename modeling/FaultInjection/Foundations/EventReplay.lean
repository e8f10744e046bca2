import FaultInjection.Foundations.Transition

/-
  Systems whose log tells what they did.

  A journal reads off a state its log and a view that the log
  is about, and says what an entry makes of a view. Some
  actions load a new base; after the last of them the entries
  since then replay that base into the view.

  Key definitions include:
    * `Journal`
    * `Journal.Extends`
    * `Journal.ReplaysFrom`
    * `Journal.lastMark`

  Key theorems include:
    * `Journal.Extends.trans`
    * `Journal.ReplaysFrom.extends`
    * `Journal.replaysFrom_of_run`
-/

------------------------------------------------------------
-- Journals
------------------------------------------------------------

structure Journal (σ ε ν : Type) where
  log : σ → List ε
  view : σ → ν
  apply : ν → ε → ν

namespace Journal

variable {σ ε ν α : Type}
variable (j : Journal σ ε ν)

/- What entries make of a view, in order. -/
def replay (start : ν) (entries : List ε) : ν :=
  entries.foldl j.apply start

/-
  The log has grown, and the view has changed as the new
  entries say.
-/
def Extends (s t : σ) : Prop :=
  ∃ new,
    j.log t = j.log s ++ new ∧
      j.view t = j.replay (j.view s) new

/- From a position on, the log replays a base into the view. -/
def ReplaysFrom (mark : Nat) (base : ν) (s : σ) : Prop :=
  mark ≤ (j.log s).length ∧
    j.view s = j.replay base ((j.log s).drop mark)

/- The length of the log at the last action that loads. -/
def lastMark
    (step : σ → α → Option σ)
    (loads : σ → α → Bool) : Nat → σ → List α → Nat
| mark, _, [] => mark
| mark, s, a :: as =>
    match step s a with
    | none => mark
    | some t =>
        lastMark step loads
          (if loads s a then (j.log s).length else mark) t as

------------------------------------------------------------
-- Growing Logs
------------------------------------------------------------

theorem replay_append
    (start : ν)
    (before after : List ε) :
    j.replay start (before ++ after) =
      j.replay (j.replay start before) after :=
  List.foldl_append

variable {j}
variable {s t u : σ}

theorem extends_of_eq
    (hLog : j.log t = j.log s)
    (hView : j.view t = j.view s) :
    j.Extends s t := by
  refine ⟨[], ?_, hView⟩
  rw [hLog, List.append_nil]

theorem extends_refl (s : σ) : j.Extends s s :=
  extends_of_eq rfl rfl

theorem extends_of_entry
    {entry : ε}
    (hLog : j.log t = j.log s ++ [entry])
    (hView : j.view t = j.apply (j.view s) entry) :
    j.Extends s t :=
  ⟨[entry], hLog, hView⟩

theorem Extends.trans
    (hFirst : j.Extends s t)
    (hSecond : j.Extends t u) :
    j.Extends s u := by
  rcases hFirst with ⟨first, hLog, hView⟩
  rcases hSecond with ⟨second, hNextLog, hNextView⟩
  refine ⟨first ++ second, ?_, ?_⟩
  · rw [hNextLog, hLog, List.append_assoc]
  · rw [hNextView, hView, replay_append]

/- A base replays into itself from the end of the log. -/
theorem replaysFrom_length
    {base : ν}
    (hView : j.view s = base) :
    j.ReplaysFrom (j.log s).length base s := by
  refine ⟨Nat.le_refl _, ?_⟩
  rw [List.drop_length]
  exact hView

/- What a log replays goes on with what extends it. -/
theorem ReplaysFrom.extends
    {mark : Nat}
    {base : ν}
    (hReplays : j.ReplaysFrom mark base s)
    (hExtends : j.Extends s t) :
    j.ReplaysFrom mark base t := by
  rcases hReplays with ⟨hMark, hView⟩
  rcases hExtends with ⟨new, hLog, hNext⟩
  refine ⟨?_, ?_⟩
  · rw [hLog, List.length_append]
    exact Nat.le_add_right_of_le hMark
  · rw [hNext, hView, hLog, List.drop_append_of_le_length hMark,
      replay_append]

------------------------------------------------------------
-- Runs
------------------------------------------------------------

section Runs

open Transition

variable {step : σ → α → Option σ}
variable {loads : σ → α → Bool}

/-
  An action that loads starts from the base of the state it
  leads to. Every other action extends the log and keeps the
  base.
-/
theorem replaysFrom_of_run
    {I : σ → Prop}
    (base : σ → ν)
    (hInv : ∀ s a t, I s → step s a = some t → I t)
    (hLoad :
      ∀ s a t, I s → step s a = some t → loads s a = true →
        j.ReplaysFrom (j.log s).length (base t) t)
    (hExtend :
      ∀ s a t, I s → step s a = some t → loads s a = false →
        base t = base s ∧ j.Extends s t)
    {mark : Nat}
    {as : List α}
    (hInit : I s)
    (hReplays : j.ReplaysFrom mark (base s) s)
    (hRun : run step s as = some t) :
    j.ReplaysFrom (lastMark j step loads mark s as) (base t)
      t := by
  induction as generalizing s mark with
  | nil =>
      rw [run, Option.some.injEq] at hRun
      subst hRun
      exact hReplays
  | cons a as ih =>
      rcases run_cons_iff.mp hRun with ⟨m, hFirst, hRest⟩
      have hNext :
          j.ReplaysFrom
            (if loads s a then (j.log s).length else mark)
            (base m) m := by
        cases hLoads : loads s a with
        | true => exact hLoad s a m hInit hFirst hLoads
        | false =>
            rcases hExtend s a m hInit hFirst hLoads with
              ⟨hBase, hExtends⟩
            rw [hBase]
            exact hReplays.extends hExtends
      unfold lastMark
      rw [hFirst]
      exact ih (hInv s a m hInit hFirst) hNext hRest

end Runs

end Journal
