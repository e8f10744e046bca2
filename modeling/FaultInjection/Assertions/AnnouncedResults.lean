import FaultInjection.Assertions.FaultAssertionRunner
import FaultInjection.Foundations.Announcements
import FaultInjection.Foundations.Transition

/-
  Assertion results are announced once and the scenario
  status never goes back.

  The results of the runner are a board of final verdicts,
  and its published assertion events are the announcements.

  Key definitions include:
    * `Orderly`
    * `reportedState`
    * `FaultAssertionRunner.Announced`

  Key theorems include:
    * `FaultAssertionRunner.announced_publishAssertionEvent`
    * `FaultAssertionRunner.announced_step`
    * `FaultAssertionRunner.results_announced_once`
-/

open Announcements

------------------------------------------------------------
-- Orderly Publications
------------------------------------------------------------

/- No event of the same assertion came before. -/
def OrderlyEvent
    (before : List Publication)
    (event : AssertionEvent) : Prop :=
  ∀ earlier ∈ assertionEvents before,
    earlier.assertionId ≠ event.assertionId

/-
  A status counts every assertion once, counts as decided
  only what was announced before, and does not go back behind
  an earlier status.
-/
structure OrderlyStatus
    (count : Nat)
    (before : List Publication)
    (results : List AssertionResult)
    (status : ScenarioStatus) : Prop where
  total :
    status.pendingCount + status.passedCount +
      status.failedCount = count
  announced :
    ∀ result ∈ results, result.state ≠ .pending →
      ∃ event ∈ assertionEvents before,
        event.assertionId = result.id ∧
          event.state = assertionStateToString result.state
  pending :
    ∀ earlier ∈ scenarioStatuses before,
      status.pendingCount ≤ earlier.pendingCount
  final :
    ∀ earlier ∈ scenarioStatuses before,
      earlier.state = "failed" ∨ earlier.state = "passed" →
        status.state = earlier.state

/- What is demanded of a message after those before it. -/
def Orderly
    (count : Nat)
    (before : List Publication) : Publication → Prop
| .assertionEvent result stamp =>
    OrderlyEvent before (assertionEvent result stamp)
| .scenarioStatus results stamp =>
    OrderlyStatus count before results
      (ScenarioMonitor.status results stamp)

/- The state that the results report for an id. -/
def reportedState
    (results : List AssertionResult)
    (id : String) : Option AssertionState :=
  (results.find? fun result => result.id = id).map
    AssertionResult.state

------------------------------------------------------------
-- Boards
------------------------------------------------------------

/- A state as a verdict, none while it is pending. -/
def verdict (state : AssertionState) : Option AssertionState :=
  if state = .pending then none else some state

/- The results as a board of verdicts under their ids. -/
def board
    (results : List AssertionResult) :
    List (String × Option AssertionState) :=
  results.map fun result => (result.id, verdict result.state)

/- The verdicts announced in a log. -/
def announced
    (log : List Publication) :
    List (String × AssertionState) :=
  log.filterMap fun
    | .assertionEvent result _ =>
        some (result.id, result.state)
    | .scenarioStatus _ _ => none

@[simp] theorem verdict_eq_some_iff
    {state v : AssertionState} :
    verdict state = some v ↔ state ≠ .pending ∧ state = v := by
  unfold verdict
  by_cases hPending : state = .pending
  · simp [hPending]
  · simp [hPending]

@[simp] theorem keys_board (results : List AssertionResult) :
    (board results).map Prod.fst =
      results.map AssertionResult.id := by
  unfold board
  rw [List.map_map]
  exact rfl

theorem mem_board_iff
    {results : List AssertionResult}
    {id : String}
    {state : AssertionState} :
    (id, some state) ∈ board results ↔
      ∃ result ∈ results,
        result.id = id ∧ result.state ≠ .pending ∧
          result.state = state := by
  simp [board, eq_comm]

theorem openCount_board (results : List AssertionResult) :
    openCount (board results) =
      ScenarioMonitor.countOf .pending results := by
  unfold openCount board ScenarioMonitor.countOf
  rw [List.countP_map]
  refine List.countP_congr ?_
  intro result _
  cases hState : result.state <;> simp [verdict, hState]

theorem verdictCount_board
    {state : AssertionState}
    (hDecided : state ≠ .pending)
    (results : List AssertionResult) :
    verdictCount state (board results) =
      ScenarioMonitor.countOf state results := by
  unfold verdictCount board ScenarioMonitor.countOf
  rw [List.countP_map]
  refine List.countP_congr ?_
  intro result _
  simp only [Function.comp, decide_eq_true_eq,
    verdict_eq_some_iff]
  constructor
  · rintro ⟨_, hSame⟩
    exact hSame
  · intro hSame
    rw [hSame]
    exact ⟨hDecided, rfl⟩

/- Results that advance advance as a board. -/
theorem board_advances
    {before after : List AssertionResult}
    (hResults :
      List.Forall₂ AssertionResult.Advances before after) :
    Advances (board before) (board after) := by
  unfold Advances board
  rw [List.forall₂_map_left_iff, List.forall₂_map_right_iff]
  refine hResults.imp ?_
  rintro a b ⟨hId, hSame⟩
  refine ⟨hId, ?_⟩
  intro hVerdict
  rw [hSame]
  intro hPending
  simp [verdict, hPending] at hVerdict

/- A decided scenario keeps its state. -/
theorem state_of_advances
    {before after : List AssertionResult}
    (hAdvances : Advances (board before) (board after))
    {stamp later : Int}
    (hDecided :
      (ScenarioMonitor.status before stamp).state =
          "failed" ∨
        (ScenarioMonitor.status before stamp).state =
          "passed") :
    (ScenarioMonitor.status after later).state =
      (ScenarioMonitor.status before stamp).state := by
  have hFailed :=
    verdictCount_le_of_advances hAdvances .failed
  have hOpen := openCount_le_of_advances hAdvances
  rw [verdictCount_board (by simp),
    verdictCount_board (by simp)] at hFailed
  rw [openCount_board, openCount_board] at hOpen
  rw [ScenarioMonitor.status_state,
    ScenarioMonitor.status_state] at *
  unfold scenarioStateFromCounts at *
  by_cases hSomeFailed :
      0 < ScenarioMonitor.countOf .failed before
  · rw [if_pos hSomeFailed, if_pos (by omega)]
  · by_cases hSomeOpen :
        0 < ScenarioMonitor.countOf .pending before
    · simp [hSomeFailed, hSomeOpen] at hDecided
    · -- Nothing is open, so nothing changed.
      have hClosed : openCount (board before) = 0 := by
        rw [openCount_board]
        omega
      have hSame :=
        eq_of_advances_of_openCount hAdvances hClosed
      have hCount :=
        congrArg (verdictCount AssertionState.failed) hSame
      rw [verdictCount_board (by simp),
        verdictCount_board (by simp)] at hCount
      rw [if_neg hSomeFailed, if_neg hSomeOpen,
        if_neg (by omega), if_neg (by omega)]

------------------------------------------------------------
-- Logs
------------------------------------------------------------

theorem mem_assertionEvents_iff
    {log : List Publication}
    {event : AssertionEvent} :
    event ∈ assertionEvents log ↔
      ∃ result stamp,
        .assertionEvent result stamp ∈ log ∧
          assertionEvent result stamp = event := by
  unfold assertionEvents
  rw [List.mem_filterMap]
  constructor
  · rintro ⟨publication, hMember, hEvent⟩
    cases publication with
    | assertionEvent result stamp =>
        exact ⟨result, stamp, hMember, Option.some.inj hEvent⟩
    | scenarioStatus results stamp => cases hEvent
  · rintro ⟨result, stamp, hMember, hEvent⟩
    exact ⟨_, hMember, congrArg some hEvent⟩

theorem mem_scenarioStatuses_iff
    {log : List Publication}
    {status : ScenarioStatus} :
    status ∈ scenarioStatuses log ↔
      ∃ results stamp,
        .scenarioStatus results stamp ∈ log ∧
          ScenarioMonitor.status results stamp = status := by
  unfold scenarioStatuses
  rw [List.mem_filterMap]
  constructor
  · rintro ⟨publication, hMember, hStatus⟩
    cases publication with
    | assertionEvent result stamp => cases hStatus
    | scenarioStatus results stamp =>
        exact ⟨results, stamp, hMember,
          Option.some.inj hStatus⟩
  · rintro ⟨results, stamp, hMember, hStatus⟩
    exact ⟨_, hMember, congrArg some hStatus⟩

theorem mem_announced_iff
    {log : List Publication}
    {id : String}
    {state : AssertionState} :
    (id, state) ∈ announced log ↔
      ∃ result stamp,
        .assertionEvent result stamp ∈ log ∧
          result.id = id ∧ result.state = state := by
  unfold announced
  rw [List.mem_filterMap]
  constructor
  · rintro ⟨publication, hMember, hEntry⟩
    cases publication with
    | assertionEvent result stamp =>
        have hPair := Prod.mk.inj (Option.some.inj hEntry)
        exact ⟨result, stamp, hMember, hPair⟩
    | scenarioStatus results stamp => cases hEntry
  · rintro ⟨result, stamp, hMember, hId, hState⟩
    refine ⟨_, hMember, ?_⟩
    rw [← hId, ← hState]

/- An announced verdict is in a published event. -/
theorem event_of_announced
    {log : List Publication}
    {id : String}
    {state : AssertionState}
    (hAnnounced : (id, state) ∈ announced log) :
    ∃ event ∈ assertionEvents log,
      event.assertionId = id ∧
        event.state = assertionStateToString state := by
  rcases mem_announced_iff.mp hAnnounced with
    ⟨result, stamp, hMember, hId, hState⟩
  refine ⟨assertionEvent result stamp, ?_, hId, ?_⟩
  · exact mem_assertionEvents_iff.mpr
      ⟨result, stamp, hMember, rfl⟩
  · rw [← hState]
    exact rfl

/- An event carries an announced verdict. -/
theorem announced_of_event
    {log : List Publication}
    {event : AssertionEvent}
    (hEvent : event ∈ assertionEvents log) :
    ∃ state,
      (event.assertionId, state) ∈ announced log ∧
        event.state = assertionStateToString state := by
  rcases mem_assertionEvents_iff.mp hEvent with
    ⟨result, stamp, hMember, hSame⟩
  refine ⟨result.state, ?_, ?_⟩
  · refine mem_announced_iff.mpr
      ⟨result, stamp, hMember, ?_, rfl⟩
    rw [← hSame]
    exact rfl
  · rw [← hSame]
    exact rfl

------------------------------------------------------------
-- Invariant
------------------------------------------------------------

namespace FaultAssertionRunner

open Transition

/-
  The announcements are the ledger of the board, everything
  published was orderly, and the board has advanced from the
  results of every status.
-/
structure Announced
    (count : Nat)
    (r : FaultAssertionRunner) : Prop where
  length : r.results.length = count
  ids : (r.results.map AssertionResult.id).Nodup
  ledger :
    Ledger (board r.results)
      (r.lastPublishedStates, announced r.published)
  orderly : EachAfter (Orderly count) r.published
  earlier :
    ∀ results stamp,
      .scenarioStatus results stamp ∈ r.published →
        Advances (board results) (board r.results)

/- Calls that publish nothing advance the results. -/
theorem announced_of_advances
    {count : Nat}
    {r s : FaultAssertionRunner}
    (hAnnounced : Announced count r)
    (hResults :
      List.Forall₂ AssertionResult.Advances r.results
        s.results)
    (hLast : s.lastPublishedStates = r.lastPublishedStates)
    (hPublished : s.published = r.published) :
    Announced count s := by
  have hBoard := board_advances hResults
  refine ⟨?_, ?_, ?_, ?_, ?_⟩
  · rw [← hResults.length_eq]
    exact hAnnounced.length
  · rw [← keys_board, keys_of_advances hBoard, keys_board]
    exact hAnnounced.ids
  · rw [hLast, hPublished]
    exact ledger_of_advances hBoard hAnnounced.ledger
  · rw [hPublished]
    exact hAnnounced.orderly
  · intro results stamp hMember
    rw [hPublished] at hMember
    exact advances_trans
      (hAnnounced.earlier results stamp hMember) hBoard

------------------------------------------------------------
-- Publishing
------------------------------------------------------------

@[simp] theorem results_publishResult
    (stampOf : String → Int)
    (r : FaultAssertionRunner)
    (result : AssertionResult) :
    (publishResult stampOf r result).results =
      r.results := by
  unfold publishResult
  split
  · exact rfl
  · split <;> exact rfl

/- Publishing a result announces its verdict. -/
theorem announced_publishResult
    (stampOf : String → Int)
    (r : FaultAssertionRunner)
    (result : AssertionResult) :
    ((publishResult stampOf r result).lastPublishedStates,
        announced
          (publishResult stampOf r result).published) =
      announceEntry
        (r.lastPublishedStates, announced r.published)
        (result.id, verdict result.state) := by
  unfold publishResult announceEntry verdict
  by_cases hPending : result.state = .pending
  · simp [hPending]
  · by_cases hLast :
        r.lastPublishedStates.find? result.id =
          some result.state
    · simp [hPending, hLast]
    · simp [hPending, hLast, announced]

theorem publishResult_keeps
    {count : Nat}
    {r : FaultAssertionRunner}
    (hAnnounced : Announced count r)
    (stampOf : String → Int)
    {result : AssertionResult}
    (hResult : result ∈ r.results) :
    Announced count (publishResult stampOf r result) := by
  have hKeys : ((board r.results).map Prod.fst).Nodup := by
    rw [keys_board]
    exact hAnnounced.ids
  have hEntry :
      (result.id, verdict result.state) ∈
        board r.results :=
    List.mem_map_of_mem hResult
  have hLedger :=
    ledger_announceEntry hKeys hAnnounced.ledger hEntry
  rw [← announced_publishResult stampOf] at hLedger
  refine ⟨?_, ?_, ?_, ?_, ?_⟩
  · rw [results_publishResult]
    exact hAnnounced.length
  · rw [results_publishResult]
    exact hAnnounced.ids
  · rw [results_publishResult]
    exact hLedger
  · have hOnce := hLedger.once
    unfold publishResult at hOnce ⊢
    split
    · exact hAnnounced.orderly
    · split
      · exact hAnnounced.orderly
      · rename_i hPending hLast
        rw [eachAfter_append_singleton_iff]
        refine ⟨hAnnounced.orderly, ?_⟩
        -- No announcement of this id came before.
        simp only [hPending, hLast, if_false] at hOnce
        intro event hEvent hSame
        rcases announced_of_event hEvent with
          ⟨state, hState, _⟩
        unfold announced at hOnce
        rw [List.filterMap_append, List.map_append,
          List.nodup_append] at hOnce
        refine hOnce.2.2 event.assertionId
          (List.mem_map_of_mem hState) result.id ?_ hSame
        simp
  · rw [results_publishResult]
    intro results stamp hMember
    apply hAnnounced.earlier results stamp
    unfold publishResult at hMember
    split at hMember
    · exact hMember
    · split at hMember
      · exact hMember
      · simpa using hMember

theorem foldl_publishResult
    {count : Nat}
    {r : FaultAssertionRunner}
    (hAnnounced : Announced count r)
    (stampOf : String → Int)
    {listed : List AssertionResult}
    (hListed : ∀ result ∈ listed, result ∈ r.results) :
    Announced count
        (listed.foldl (publishResult stampOf) r) ∧
      (listed.foldl (publishResult stampOf) r).results =
        r.results := by
  induction listed generalizing r with
  | nil => exact ⟨hAnnounced, rfl⟩
  | cons result rest ih =>
      rw [List.foldl_cons]
      have hHead :=
        publishResult_keeps hAnnounced stampOf
          (hListed result List.mem_cons_self)
      have hRest :
          ∀ other ∈ rest,
            other ∈
              (publishResult stampOf r result).results := by
        intro other hOther
        rw [results_publishResult]
        exact hListed other (List.mem_cons_of_mem _ hOther)
      rcases ih hHead hRest with ⟨hKept, hResults⟩
      exact ⟨hKept,
        hResults.trans (results_publishResult _ _ _)⟩

/- A pass announces the board of the results. -/
theorem announce_publishAssertionEvent
    (stampOf : String → Int)
    (r : FaultAssertionRunner) :
    ((publishAssertionEvent stampOf r).lastPublishedStates,
        announced
          (publishAssertionEvent stampOf r).published) =
      announce
        (r.lastPublishedStates, announced r.published)
        (board r.results) := by
  unfold publishAssertionEvent announce board
  rw [List.foldl_map]
  generalize r.results = results
  induction results generalizing r with
  | nil => exact rfl
  | cons result results ih =>
      rw [List.foldl_cons, List.foldl_cons, ih,
        announced_publishResult]

/-
  A pass keeps the invariant and leaves every decided result
  announced.
-/
theorem announced_publishAssertionEvent
    {count : Nat}
    {r : FaultAssertionRunner}
    (hAnnounced : Announced count r)
    (stampOf : String → Int) :
    Announced count (publishAssertionEvent stampOf r) ∧
      (publishAssertionEvent stampOf r).results =
        r.results ∧
      ∀ result ∈ r.results, result.state ≠ .pending →
        (result.id, result.state) ∈
          announced
            (publishAssertionEvent stampOf r).published := by
  have hKept :=
    foldl_publishResult hAnnounced stampOf
      (fun _ hResult => hResult)
  refine ⟨hKept.1, hKept.2, ?_⟩
  intro result hResult hDecided
  have hKeys : ((board r.results).map Prod.fst).Nodup := by
    rw [keys_board]
    exact hAnnounced.ids
  have hEntry :
      (result.id, some result.state) ∈ board r.results :=
    mem_board_iff.mpr
      ⟨result, hResult, rfl, hDecided, rfl⟩
  have hTold :=
    announced_of_mem hKeys hAnnounced.ledger hEntry
  rw [← announce_publishAssertionEvent stampOf] at hTold
  exact hTold

/- A status after a pass is orderly. -/
theorem announced_publishStatus
    {count : Nat}
    {r : FaultAssertionRunner}
    (hAnnounced : Announced count r)
    (hTold :
      ∀ result ∈ r.results, result.state ≠ .pending →
        (result.id, result.state) ∈ announced r.published)
    (stamp : Int) :
    Announced count (publishStatus stamp r) := by
  have hSame :
      announced (publishStatus stamp r).published =
        announced r.published := by
    simp [publishStatus, announced]
  refine ⟨hAnnounced.length, hAnnounced.ids, ?_, ?_, ?_⟩
  · rw [hSame]
    exact hAnnounced.ledger
  · unfold publishStatus
    rw [eachAfter_append_singleton_iff]
    refine ⟨hAnnounced.orderly, ?_, ?_, ?_, ?_⟩
    · simpa [hAnnounced.length] using
        ScenarioMonitor.count_total r.results
    · intro result hResult hDecided
      exact event_of_announced
        (hTold result hResult hDecided)
    · intro earlier hEarlier
      rcases mem_scenarioStatuses_iff.mp hEarlier with
        ⟨results, before, hMember, rfl⟩
      have hOpen :=
        openCount_le_of_advances
          (hAnnounced.earlier results before hMember)
      rw [openCount_board, openCount_board] at hOpen
      simpa using hOpen
    · intro earlier hEarlier hDecided
      rcases mem_scenarioStatuses_iff.mp hEarlier with
        ⟨results, before, hMember, rfl⟩
      exact state_of_advances
        (hAnnounced.earlier results before hMember) hDecided
  · intro results before hMember
    have hCases := List.mem_append.mp hMember
    rcases hCases with hOld | hNew
    · exact hAnnounced.earlier results before hOld
    · cases List.mem_singleton.mp hNew
      exact board_advances
        (List.forall₂_same.mpr fun _ _ =>
          ⟨rfl, fun _ => rfl⟩)

------------------------------------------------------------
-- Callbacks
------------------------------------------------------------

/- The results of a map of assertions. -/
theorem advances_map
    {α : Type}
    {result : α → AssertionResult}
    {change : α → α}
    (hChange :
      ∀ x, (result x).Advances (result (change x)))
    (xs : List α) :
    List.Forall₂ AssertionResult.Advances (xs.map result)
      ((xs.map change).map result) := by
  rw [List.forall₂_map_left_iff, List.forall₂_map_right_iff,
    List.forall₂_map_right_iff, List.forall₂_same]
  intro x _
  exact hChange x

/- The results of a partial map of assertions. -/
theorem advances_mapM
    {α : Type}
    {result : α → AssertionResult}
    {change : α → Option α}
    (hChange :
      ∀ x y, change x = some y →
        (result x).Advances (result y))
    {xs ys : List α}
    (hMap : xs.mapM change = some ys) :
    List.Forall₂ AssertionResult.Advances (xs.map result)
      (ys.map result) := by
  rw [List.forall₂_map_left_iff, List.forall₂_map_right_iff]
  exact (Option.mapM_eq_some_iff.mp hMap).imp hChange

/- Each item is as it was or is the changed one. -/
theorem forall₂_of_changeAt
    {α : Type}
    {change : α → Option α}
    {xs ys : List α}
    {index : Nat}
    (hAt : changeAt change xs index = some ys) :
    List.Forall₂ (fun x y => y = x ∨ change x = some y)
      xs ys := by
  induction xs generalizing index ys with
  | nil => cases hAt
  | cons x xs ih =>
      cases index with
      | zero =>
          rcases Option.map_eq_some_iff.mp hAt with
            ⟨y, hHead, hYs⟩
          subst hYs
          refine .cons (Or.inr hHead) ?_
          exact List.forall₂_same.mpr fun _ _ => Or.inl rfl
      | succ index =>
          rcases Option.map_eq_some_iff.mp hAt with
            ⟨rest, hRest, hYs⟩
          subst hYs
          exact .cons (Or.inl rfl) (ih hRest)

/- The results when one assertion changes. -/
theorem advances_changeAt
    {α : Type}
    {result : α → AssertionResult}
    {change : α → Option α}
    (hChange :
      ∀ x y, change x = some y →
        (result x).Advances (result y))
    {xs ys : List α}
    {index : Nat}
    (hAt : changeAt change xs index = some ys) :
    List.Forall₂ AssertionResult.Advances (xs.map result)
      (ys.map result) := by
  rw [List.forall₂_map_left_iff, List.forall₂_map_right_iff]
  refine (forall₂_of_changeAt hAt).imp ?_
  intro x y hCase
  rcases hCase with hSame | hChanged
  · subst hSame
    exact ⟨rfl, fun _ => rfl⟩
  · exact hChange x y hChanged

theorem advances_refl (results : List AssertionResult) :
    List.Forall₂ AssertionResult.Advances results results :=
  List.forall₂_same.mpr fun _ _ => ⟨rfl, fun _ => rfl⟩

section Callbacks

variable {fromSeconds : Number → Int}
variable {count : Nat}
variable {r s : FaultAssertionRunner}

/- A fault event concerns every assertion on its fault. -/
theorem announced_faultEvent
    {event : FaultEventMessage}
    {stampOf : String → Int}
    (hAnnounced : Announced count r)
    (hStep :
      step fromSeconds r (.faultEvent event stampOf) =
        some s) :
    Announced count s := by
  rcases Option.bind_eq_some_iff.mp hStep with
    ⟨twists, hTwists, hDone⟩
  cases hDone
  refine (announced_publishAssertionEvent ?_ stampOf).1
  refine announced_of_advances hAnnounced ?_ rfl rfl
  refine List.rel_append
    (advances_map
      (FaultEventAssertion.observe_advances _) _) ?_
  refine List.rel_append (advances_refl _) ?_
  refine advances_mapM ?_ hTwists
  intro a b hObserve
  have hTwist :
      TwistStoppedAssertion.step fromSeconds a
          (.faultEvent event.toFaultEvent event.stamp
            event.stamp) =
        some b := hObserve
  exact TwistStoppedAssertion.step_advances hTwist

theorem announced_topicHzMessage
    {index : Nat}
    {now : Int}
    (hAnnounced : Announced count r)
    (hStep :
      step fromSeconds r (.topicHzMessage index now) =
        some s) :
    Announced count s := by
  rcases Option.bind_eq_some_iff.mp hStep with
    ⟨rates, hRates, hDone⟩
  cases hDone
  refine announced_of_advances hAnnounced ?_ rfl rfl
  refine List.rel_append (advances_refl _) ?_
  refine List.rel_append
    (advances_changeAt ?_ hRates) (advances_refl _)
  intro a b hObserve
  cases hObserve
  exact TopicHzAssertion.observeMessage_advances now a

theorem announced_twistMessage
    {index : Nat}
    {message : Twist}
    {now : Int}
    (hAnnounced : Announced count r)
    (hStep :
      step fromSeconds r (.twistMessage index message now) =
        some s) :
    Announced count s := by
  rcases Option.bind_eq_some_iff.mp hStep with
    ⟨twists, hTwists, hDone⟩
  cases hDone
  refine announced_of_advances hAnnounced ?_ rfl rfl
  refine List.rel_append (advances_refl _) ?_
  refine List.rel_append (advances_refl _) ?_
  refine advances_changeAt ?_ hTwists
  intro a b hObserve
  have hTwist :
      TwistStoppedAssertion.step fromSeconds a
          (.message message now) =
        some b := hObserve
  exact TwistStoppedAssertion.step_advances hTwist

/- A tick updates all assertions and then publishes. -/
theorem announced_update
    {readings : Readings}
    (hAnnounced : Announced count r)
    (hStep : step fromSeconds r (.update readings) = some s) :
    Announced count s := by
  rcases Option.bind_eq_some_iff.mp hStep with
    ⟨twists, hTwists, hDone⟩
  cases hDone
  have hUpdated :
      Announced count
        { r with
          faultEventAssertions :=
            r.faultEventAssertions.map fun assertion =>
              assertion.update
                (.finite
                  (seconds (readings.now - r.startTime)))
          topicHzAssertions :=
            r.topicHzAssertions.map fun assertion =>
              assertion.update
                (.finite
                  (seconds (readings.now - r.startTime)))
                readings.now
          twistStoppedAssertions := twists } := by
    refine announced_of_advances hAnnounced ?_ rfl rfl
    refine List.rel_append
      (advances_map
        (FaultEventAssertion.update_advances _) _) ?_
    refine List.rel_append
      (advances_map
        (TopicHzAssertion.update_advances _ _) _) ?_
    refine advances_mapM ?_ hTwists
    intro a b hUpdate
    have hTwist :
        TwistStoppedAssertion.step fromSeconds a
            (.update readings.now) =
          some b := hUpdate
    exact TwistStoppedAssertion.step_advances hTwist
  rcases
    announced_publishAssertionEvent hUpdated
      readings.eventStamp with
    ⟨hKept, hResults, hTold⟩
  refine announced_publishStatus hKept ?_
    readings.statusStamp
  intro result hResult
  rw [hResults] at hResult
  exact hTold result hResult

/- Every callback keeps the invariant. -/
theorem announced_step
    {call : Call}
    (hAnnounced : Announced count r)
    (hStep : step fromSeconds r call = some s) :
    Announced count s := by
  cases call with
  | faultEvent event stampOf =>
      exact announced_faultEvent hAnnounced hStep
  | topicHzMessage index now =>
      exact announced_topicHzMessage hAnnounced hStep
  | twistMessage index message now =>
      exact announced_twistMessage hAnnounced hStep
  | update readings => exact announced_update hAnnounced hStep

end Callbacks

------------------------------------------------------------
-- Runs
------------------------------------------------------------

/- The types that the runner has assertions for. -/
def isSupportedAssertionType (type : String) : Bool :=
  type = "fault_event" ∨ type = "topic_hz" ∨
    type = "twist_stopped"

/- A supported assertion adds one result with its id. -/
theorem ids_startAssertion
    (r : FaultAssertionRunner)
    {config : AssertionConfig}
    (hType : isSupportedAssertionType config.type = true) :
    ((startAssertion r config).results.map
        AssertionResult.id).Perm
      (config.id :: r.results.map AssertionResult.id) := by
  unfold isSupportedAssertionType at hType
  rw [decide_eq_true_iff] at hType
  unfold startAssertion results
  rcases hType with hType | hType | hType
  · simp [hType, FaultEventAssertion.create]
  · simp only [hType, TopicHzAssertion.create]
    simp only [String.reduceEq, if_true, if_false,
      List.map_append, List.map_map, List.map_cons,
      List.map_nil, List.append_assoc, List.cons_append,
      List.nil_append]
    exact (List.perm_middle.append_left _).trans
      List.perm_middle
  · simp only [hType, TwistStoppedAssertion.create]
    simp only [String.reduceEq, if_true, if_false,
      List.map_append, List.map_map, List.map_cons,
      List.map_nil]
    refine (((List.perm_append_singleton _ _).append_left
      _).append_left _).trans ?_
    exact (List.perm_middle.append_left _).trans
      List.perm_middle

theorem ids_foldl_startAssertion
    {configs : List AssertionConfig}
    (hTypes :
      ∀ config ∈ configs,
        isSupportedAssertionType config.type = true)
    (r : FaultAssertionRunner) :
    ((configs.foldl startAssertion r).results.map
        AssertionResult.id).Perm
      (configs.map AssertionConfig.id ++
        r.results.map AssertionResult.id) := by
  induction configs generalizing r with
  | nil => exact List.Perm.refl _
  | cons config configs ih =>
      rw [List.foldl_cons, List.map_cons]
      refine (ih ?_ _).trans ?_
      · intro other hOther
        exact hTypes other (List.mem_cons_of_mem _ hOther)
      · have hHead :=
          ids_startAssertion r
            (hTypes config List.mem_cons_self)
        refine (hHead.append_left _).trans ?_
        exact List.perm_middle

/- A started runner has published nothing. -/
theorem announced_start
    {configs : List AssertionConfig}
    (hTypes :
      ∀ config ∈ configs,
        isSupportedAssertionType config.type = true)
    (hIds : (configs.map AssertionConfig.id).Nodup)
    (now : Int) :
    Announced configs.length (start now configs {}) := by
  have hPerm :=
    ids_foldl_startAssertion hTypes { startTime := now }
  have hKept :
      ∀ r : FaultAssertionRunner,
        (configs.foldl startAssertion r).published =
            r.published ∧
          (configs.foldl startAssertion
              r).lastPublishedStates =
            r.lastPublishedStates := by
    clear hTypes hIds hPerm
    induction configs with
    | nil => exact fun r => ⟨rfl, rfl⟩
    | cons config configs ih =>
        intro r
        rw [List.foldl_cons, (ih _).1, (ih _).2]
        unfold startAssertion
        split
        · exact ⟨rfl, rfl⟩
        · split
          · exact ⟨rfl, rfl⟩
          · split <;> exact ⟨rfl, rfl⟩
  unfold start
  refine ⟨?_, ?_, ?_, ?_, ?_⟩
  · have hLength := hPerm.length_eq
    simpa [results] using hLength
  · refine hPerm.nodup_iff.mpr ?_
    simpa [results] using hIds
  · rw [(hKept _).1, (hKept _).2]
    exact ledger_empty _
  · rw [(hKept _).1]
    exact eachAfter_nil _
  · intro results stamp hMember
    rw [(hKept _).1] at hMember
    cases hMember

/- Publishing only appends. -/
theorem prefix_publishAssertionEvent
    (stampOf : String → Int)
    (r : FaultAssertionRunner) :
    r.published <+:
      (publishAssertionEvent stampOf r).published := by
  unfold publishAssertionEvent
  generalize r.results = results
  induction results generalizing r with
  | nil => exact List.prefix_rfl
  | cons result results ih =>
      rw [List.foldl_cons]
      refine List.IsPrefix.trans ?_ (ih _)
      unfold publishResult
      split
      · exact List.prefix_rfl
      · split
        · exact List.prefix_rfl
        · exact List.prefix_append _ _

/- What was published stays published. -/
theorem prefix_step
    {fromSeconds : Number → Int}
    {r s : FaultAssertionRunner}
    {call : Call}
    (hStep : step fromSeconds r call = some s) :
    r.published <+: s.published := by
  cases call with
  | faultEvent event stampOf =>
      rcases Option.bind_eq_some_iff.mp hStep with
        ⟨twists, _, hDone⟩
      cases hDone
      refine List.IsPrefix.trans ?_
        (prefix_publishAssertionEvent stampOf _)
      exact List.prefix_rfl
  | topicHzMessage index now =>
      rcases Option.bind_eq_some_iff.mp hStep with
        ⟨rates, _, hDone⟩
      cases hDone
      exact List.prefix_rfl
  | twistMessage index message now =>
      rcases Option.bind_eq_some_iff.mp hStep with
        ⟨twists, _, hDone⟩
      cases hDone
      exact List.prefix_rfl
  | update readings =>
      rcases Option.bind_eq_some_iff.mp hStep with
        ⟨twists, _, hDone⟩
      cases hDone
      refine List.IsPrefix.trans ?_
        (List.prefix_append _ _)
      refine List.IsPrefix.trans ?_
        (prefix_publishAssertionEvent readings.eventStamp _)
      exact List.prefix_rfl

/- An event carries the state reported under its id. -/
theorem reportedState_of_event
    {count : Nat}
    {r : FaultAssertionRunner}
    (hAnnounced : Announced count r)
    {event : AssertionEvent}
    (hEvent : event ∈ assertionEvents r.published) :
    (reportedState r.results event.assertionId).map
        assertionStateToString =
      some event.state := by
  rcases announced_of_event hEvent with
    ⟨state, hTold, hText⟩
  have hEntry := hAnnounced.ledger.onBoard _ _ hTold
  rcases mem_board_iff.mp hEntry with
    ⟨result, hResult, hId, _, hState⟩
  have hFind :
      r.results.find?
          (fun result => result.id = event.assertionId) =
        some result :=
    (List.find?_eq_some_iff_of_nodup_map
      hAnnounced.ids).mpr ⟨hResult, hId⟩
  unfold reportedState
  rw [hFind, hText, ← hState]
  exact rfl

section Runs

variable {fromSeconds : Number → Int}
variable {configs : List AssertionConfig}
variable {now : Int}
variable {calls more : List Call}
variable {r u : FaultAssertionRunner}

theorem announced_run
    {count : Nat}
    (hAnnounced : Announced count r)
    (hRun : run (step fromSeconds) r calls = some u) :
    Announced count u :=
  run_invariant
    (fun _ _ _ hKept _ hStep => announced_step hKept hStep)
    hAnnounced
    (along_of_forall (fun _ _ => True.intro) r calls) hRun

theorem prefix_run
    (hRun : run (step fromSeconds) r calls = some u) :
    r.published <+: u.published :=
  run_invariant
    (I := fun s => r.published <+: s.published)
    (fun _ _ _ hKept _ hStep =>
      hKept.trans (prefix_step hStep))
    List.prefix_rfl
    (along_of_forall (fun _ _ => True.intro) r calls) hRun

/-
  Each message that the runner publishes is orderly after
  those before it, and an event carries what the results
  report under its id from then on.
-/
theorem results_announced_once
    (hTypes :
      ∀ config ∈ configs,
        isSupportedAssertionType config.type = true)
    (hIds : (configs.map AssertionConfig.id).Nodup)
    (hRun :
      run (step fromSeconds) (start now configs {}) calls =
        some r)
    (hMore : run (step fromSeconds) r more = some u) :
    EachAfter (Orderly configs.length) r.published ∧
      ∀ event ∈ assertionEvents r.published,
        (reportedState u.results event.assertionId).map
            assertionStateToString =
          some event.state := by
  have hHere :=
    announced_run (announced_start hTypes hIds now) hRun
  have hLater := announced_run hHere hMore
  refine ⟨hHere.orderly, ?_⟩
  intro event hEvent
  rcases mem_assertionEvents_iff.mp hEvent with
    ⟨result, stamp, hMember, hSame⟩
  have hKept :=
    (prefix_run hMore).subset hMember
  exact reportedState_of_event hLater
    (mem_assertionEvents_iff.mpr
      ⟨result, stamp, hKept, hSame⟩)

end Runs

/- An assertion of each type. -/
def sampleAssertions : List AssertionConfig :=
  [ { id := "applied"
      type := "fault_event"
      faultId := "bias"
      state := "active" },
    { id := "rate"
      type := "topic_hz"
      topic := "/odom"
      minHz := some (.finite 1)
      window := some (.finite 1) },
    { id := "stopped"
      type := "twist_stopped"
      topic := "/cmd_vel"
      faultId := "bias"
      triggerWithin := some (.finite 1)
      linearTolerance := some .zero
      angularTolerance := some .zero
      maxGap := some (.finite 1)
      within := some (.finite 1)
      duration := some (.finite 2) } ]

/- The fault starts, a message arrives and time passes. -/
def sampleCalls : List Call :=
  [ .faultEvent
      { faultId := "bias"
        injectorId := "odom"
        state := "active"
        source := "startup"
        details := ""
        stamp := 0 }
      (fun _ => 0),
    .topicHzMessage 0 1,
    .update
      { now := 2
        eventStamp := fun _ => 2
        statusStamp := 2 } ]

theorem sample_announced_once :
    ∃ r,
      run (step fun _ => 0) (start 0 sampleAssertions {})
          sampleCalls = some r ∧
        EachAfter (Orderly sampleAssertions.length)
          r.published ∧
        ∀ event ∈ assertionEvents r.published,
          (reportedState r.results event.assertionId).map
              assertionStateToString =
            some event.state := by
  have hReturns :
      (run (step fun _ => 0) (start 0 sampleAssertions {})
        sampleCalls).isSome = true := by
    decide +kernel
  rcases Option.isSome_iff_exists.mp hReturns with ⟨r, hRun⟩
  have hMore :
      run (step fun _ => 0) r [] = some r := rfl
  exact ⟨r, hRun,
    results_announced_once (by decide) (by decide) hRun
      hMore⟩

end FaultAssertionRunner
