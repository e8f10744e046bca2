import Mathlib.Logic.Basic

/-
  While loops without side effects: a condition and a body
  that changes a value.

  A loop is executed with a bound on its turns. That it ends
  does not speak of a bound: it is left from the values from
  which some number of turns makes the condition false.

  Key definitions include:
    * `WhileLoop`
    * `WhileLoop.run`
    * `WhileLoop.Leaves`

  The rules for loops are:
    * `WhileLoop.Leaves.unique`
    * `WhileLoop.leaves_of_run`
    * `WhileLoop.Leaves.invariant`
    * `WhileLoop.not_leaves_of_invariant`
-/

/- While the condition holds, change the value. -/
structure WhileLoop (α : Type) where
  condition : α → Bool
  body : α → α

namespace WhileLoop

variable {α : Type}
variable (loop : WhileLoop α)

/- Run the loop for at most this many turns. -/
def run : Nat → α → Option α
| 0, x =>
    if loop.condition x then
      none
    else
      some x
| n + 1, x =>
    if loop.condition x then
      run n (loop.body x)
    else
      some x

/- The loop that starts with a value ends with another one. -/
inductive Leaves : α → α → Prop where
| done {x : α} :
    loop.condition x = false →
      Leaves x x
| turn {x y : α} :
    loop.condition x = true →
      Leaves (loop.body x) y →
        Leaves x y

variable {loop}

/- The loop ends with one value only. -/
theorem Leaves.unique
    {x y z : α}
    (hFirst : loop.Leaves x y)
    (hSecond : loop.Leaves x z) :
    y = z := by
  induction hFirst with
  | done hFalse =>
      cases hSecond with
      | done _ => rfl
      | turn hTrue _ =>
          rw [hFalse] at hTrue
          cases hTrue
  | turn hTrue _ ih =>
      cases hSecond with
      | done hFalse =>
          rw [hFalse] at hTrue
          cases hTrue
      | turn _ hRest => exact ih hRest

/- A run with a result has left the loop. -/
theorem leaves_of_run
    {n : Nat}
    {x y : α}
    (hRun : loop.run n x = some y) :
    loop.Leaves x y := by
  induction n generalizing x with
  | zero =>
      unfold run at hRun
      by_cases hTrue : loop.condition x = true
      · rw [if_pos hTrue] at hRun
        cases hRun
      · rw [if_neg hTrue] at hRun
        cases hRun
        exact Leaves.done (Bool.eq_false_iff.mpr hTrue)
  | succ n ih =>
      unfold run at hRun
      by_cases hTrue : loop.condition x = true
      · rw [if_pos hTrue] at hRun
        exact Leaves.turn hTrue (ih hRun)
      · rw [if_neg hTrue] at hRun
        cases hRun
        exact Leaves.done (Bool.eq_false_iff.mpr hTrue)

/-
  An invariant that each turn keeps holds when the loop ends,
  and the condition does not.
-/
theorem Leaves.invariant
    (invariant : α → Prop)
    (hBody :
      ∀ x, loop.condition x = true →
        invariant x → invariant (loop.body x))
    {x y : α}
    (hLeaves : loop.Leaves x y)
    (hStart : invariant x) :
    invariant y ∧ loop.condition y = false := by
  induction hLeaves with
  | done hFalse => exact ⟨hStart, hFalse⟩
  | turn hTrue _ ih => exact ih (hBody _ hTrue hStart)

/-
  A loop does not end if an invariant that each turn keeps
  implies the condition.
-/
theorem not_leaves_of_invariant
    (invariant : α → Prop)
    (hCondition :
      ∀ x, invariant x → loop.condition x = true)
    (hBody : ∀ x, invariant x → invariant (loop.body x))
    {x y : α}
    (hStart : invariant x) :
    ¬ loop.Leaves x y := by
  intro hLeaves
  induction hLeaves with
  | done hFalse =>
      rw [hCondition _ hStart] at hFalse
      cases hFalse
  | turn _ _ ih => exact ih (hBody _ hStart)

end WhileLoop
