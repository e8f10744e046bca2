import Mathlib.Logic.Basic

/-
  The result of an assertion.

  Key definitions include:
    * `AssertionState`
    * `AssertionResult`
    * `AssertionResult.Advances`
-/

inductive AssertionState where
| pending : AssertionState
| passed : AssertionState
| failed : AssertionState
deriving DecidableEq

structure AssertionResult where
  id : String
  type : String
  state : AssertionState
  message : String
deriving DecidableEq

/- The result keeps its id, and stays as it is once decided. -/
def AssertionResult.Advances
    (before after : AssertionResult) : Prop :=
  after.id = before.id ∧
    (before.state ≠ .pending → after = before)
