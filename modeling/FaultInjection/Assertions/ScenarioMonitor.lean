import FaultInjection.Assertions.AssertionResult

/-
  The summary of all assertion results.

  Key definitions include:
    * `ScenarioStatus`
    * `scenarioStateFromCounts`
    * `ScenarioMonitor.status`
-/

/- The message published on the scenario status topic. -/
structure ScenarioStatus where
  stamp : Int
  state : String := ""
  pendingCount : Nat := 0
  passedCount : Nat := 0
  failedCount : Nat := 0
  failedAssertionIds : List String := []
  failedMessages : List String := []
deriving DecidableEq

def scenarioStateFromCounts
    (pendingCount failedCount : Nat) : String :=
  if 0 < failedCount then "failed"
  else if 0 < pendingCount then "running"
  else "passed"

namespace ScenarioMonitor

/- Count one result. -/
def count
    (status : ScenarioStatus)
    (result : AssertionResult) : ScenarioStatus :=
  match result.state with
  | .pending =>
      { status with pendingCount := status.pendingCount + 1 }
  | .passed =>
      { status with passedCount := status.passedCount + 1 }
  | .failed =>
      { status with
        failedCount := status.failedCount + 1
        failedAssertionIds :=
          status.failedAssertionIds ++ [result.id]
        failedMessages :=
          status.failedMessages ++ [result.message] }

/- The status that `publish` sends for the results. -/
def status
    (results : List AssertionResult)
    (stamp : Int) : ScenarioStatus :=
  let counted := results.foldl count { stamp := stamp }
  { counted with
    state :=
      scenarioStateFromCounts counted.pendingCount
        counted.failedCount }

/- The number of results in a state. -/
def countOf
    (state : AssertionState)
    (results : List AssertionResult) : Nat :=
  results.countP fun result => result.state = state

theorem foldl_count
    (results : List AssertionResult)
    (status : ScenarioStatus) :
    (results.foldl count status).pendingCount =
        status.pendingCount + countOf .pending results ∧
      (results.foldl count status).passedCount =
        status.passedCount + countOf .passed results ∧
      (results.foldl count status).failedCount =
        status.failedCount + countOf .failed results := by
  unfold countOf
  induction results generalizing status with
  | nil => simp
  | cons result results ih =>
      rw [List.foldl_cons]
      rcases ih (count status result) with
        ⟨hPending, hPassed, hFailed⟩
      simp only [hPending, hPassed, hFailed,
        List.countP_cons]
      unfold count
      cases hState : result.state with
      | pending => simp; omega
      | passed => simp; omega
      | failed => simp; omega

@[simp] theorem status_pendingCount
    (results : List AssertionResult)
    (stamp : Int) :
    (status results stamp).pendingCount =
      countOf .pending results := by
  have hCount := (foldl_count results { stamp := stamp }).1
  simpa [status] using hCount

@[simp] theorem status_passedCount
    (results : List AssertionResult)
    (stamp : Int) :
    (status results stamp).passedCount =
      countOf .passed results := by
  have hCount := (foldl_count results { stamp := stamp }).2.1
  simpa [status] using hCount

@[simp] theorem status_failedCount
    (results : List AssertionResult)
    (stamp : Int) :
    (status results stamp).failedCount =
      countOf .failed results := by
  have hCount := (foldl_count results { stamp := stamp }).2.2
  simpa [status] using hCount

theorem status_state
    (results : List AssertionResult)
    (stamp : Int) :
    (status results stamp).state =
      scenarioStateFromCounts (countOf .pending results)
        (countOf .failed results) := by
  rw [← status_pendingCount results stamp,
    ← status_failedCount results stamp]
  exact rfl

/- Every result is in one of the three states. -/
theorem count_total (results : List AssertionResult) :
    countOf .pending results + countOf .passed results +
        countOf .failed results =
      results.length := by
  unfold countOf
  induction results with
  | nil => rfl
  | cons result results ih =>
      simp only [List.countP_cons, List.length_cons]
      cases hState : result.state with
      | pending => simp; omega
      | passed => simp; omega
      | failed => simp; omega

end ScenarioMonitor
