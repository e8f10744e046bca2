import FaultInjection.Assertions.AnnouncedResults

/-
  When an assertion can pass after its deadline.

  A fault event is looked at when it arrives and a rate at
  the next tick, and neither looks at the deadline. A tick
  fails what is still pending after its deadline, so what
  passes late does so before a tick or at it.

  Key definitions include:
    * `FaultAssertionRunner.Processed`
    * `FaultAssertionRunner.KeepsDeadlines`
    * `FaultAssertionRunner.InTime`

  Key theorems include:
    * `FaultEventAssertion.observe_passes_iff`
    * `TopicHzAssertion.update_passes_iff`
    * `FaultAssertionRunner.decided_of_tick`
    * `FaultAssertionRunner.deadlines_kept_iff`
-/

------------------------------------------------------------
-- Passing
------------------------------------------------------------

/- The result was not passed before and is passed after. -/
def AssertionResult.Passes
    (before after : AssertionResult) : Prop :=
  before.state ≠ .passed ∧ after.state = .passed

theorem AssertionResult.not_passes_self
    (result : AssertionResult) :
    ¬ result.Passes result :=
  fun hPasses => hPasses.1 hPasses.2

namespace FaultEventAssertion

/- The assertion is still pending and waits for the event. -/
def Awaits
    (event : FaultEvent)
    (assertion : FaultEventAssertion) : Prop :=
  assertion.result.state = .pending ∧
    event.faultId = assertion.config.faultId ∧
      event.state = assertion.config.state

/- An event makes exactly what waits for it pass. -/
theorem observe_passes_iff
    (event : FaultEvent)
    (assertion : FaultEventAssertion) :
    assertion.result.Passes (assertion.observe event).result ↔
      assertion.Awaits event := by
  unfold observe Awaits
  by_cases hPending : assertion.result.state = .pending
  · by_cases hFault : event.faultId = assertion.config.faultId
    · by_cases hState : event.state = assertion.config.state
      · simp [AssertionResult.Passes, conclude, hPending,
          hFault, hState]
      · simp [hPending, hFault, hState,
          AssertionResult.not_passes_self]
    · simp [hPending, hFault, AssertionResult.not_passes_self]
  · simp [hPending, AssertionResult.not_passes_self]

/- No tick makes it pass. -/
theorem not_passes_update
    (elapsedSeconds : Number)
    (assertion : FaultEventAssertion) :
    ¬ assertion.result.Passes
      (assertion.update elapsedSeconds).result := by
  rintro ⟨hNot, hPassed⟩
  unfold update at hPassed
  split at hPassed
  · exact hNot hPassed
  · split at hPassed
    · exact hNot hPassed
    · split at hPassed
      · exact hNot hPassed
      · cases hPassed

/- A tick after the deadline decides it. -/
theorem decided_of_update
    {within elapsedSeconds : Number}
    {assertion : FaultEventAssertion}
    (hWithin : assertion.config.within = some within)
    (hOver : within.lt elapsedSeconds = true) :
    (assertion.update elapsedSeconds).result.state ≠
      .pending := by
  have hNot : elapsedSeconds.le within = false := by
    cases within <;> cases elapsedSeconds <;>
      simp_all [Number.lt, Number.le]
  unfold update
  rw [hWithin]
  by_cases hPending : assertion.result.state = .pending
  · simp [hPending, hNot, conclude]
  · simp [hPending]

end FaultEventAssertion

namespace TopicHzAssertion

/-
  The assertion is still pending and at this time there are
  enough messages in the window.
-/
def Reached
    (now : Int)
    (assertion : TopicHzAssertion) : Prop :=
  let window := assertion.config.window.getD .one
  let received :=
    assertion.messageTimes.countP fun stamp =>
      ¬ window.lt (durationSeconds (now - stamp))
  assertion.result.state = .pending ∧
    (assertion.config.minHz.getD .zero).le
      (observedHz received window) = true

theorem judge_passed_iff
    {assertion : TopicHzAssertion}
    (hPending : assertion.result.state = .pending)
    (window minHz elapsedSeconds : Number) :
    (assertion.judge window minHz elapsedSeconds).result.state =
        .passed ↔
      minHz.le
          (observedHz assertion.messageTimes.length window) =
        true := by
  unfold judge conclude
  simp only
  split
  · rename_i hRate
    simp [hRate]
  · rename_i hRate
    split
    · simp [hRate]
    · simp [hRate, hPending]

/- A tick makes exactly those pass that have the rate. -/
theorem update_passes_iff
    (elapsedSeconds : Number)
    (now : Int)
    (assertion : TopicHzAssertion) :
    assertion.result.Passes
        (assertion.update elapsedSeconds now).result ↔
      assertion.Reached now := by
  unfold update Reached
  by_cases hPending : assertion.result.state = .pending
  · simp only [hPending, ne_eq, not_true_eq_false, if_false,
      true_and]
    unfold AssertionResult.Passes
    have hKept :
        (assertion.forgetOld
          (assertion.config.window.getD .one)
            now).result.state = .pending := hPending
    rw [judge_passed_iff hKept, hPending,
      List.countP_eq_length_filter]
    simp [forgetOld]
  · simp [hPending, AssertionResult.not_passes_self]

theorem update_config
    (elapsedSeconds : Number)
    (now : Int)
    (assertion : TopicHzAssertion) :
    (assertion.update elapsedSeconds now).config =
      assertion.config := by
  unfold update judge conclude forgetOld
  simp only
  split
  · rfl
  · split
    · rfl
    · split
      · rfl
      · rfl

/- A tick after the deadline decides it. -/
theorem decided_of_update
    {within elapsedSeconds : Number}
    {assertion : TopicHzAssertion}
    (hWithin : assertion.config.within = some within)
    (hOver : within.lt elapsedSeconds = true)
    (now : Int) :
    (assertion.update elapsedSeconds now).result.state ≠
      .pending := by
  unfold update
  by_cases hPending : assertion.result.state = .pending
  · rw [if_neg (not_not.mpr hPending)]
    unfold judge conclude forgetOld
    simp only [hWithin, Option.any_some, hOver, if_true]
    split
    · simp
    · simp
  · rw [if_pos hPending]
    exact hPending

end TopicHzAssertion

------------------------------------------------------------
-- Callbacks
------------------------------------------------------------

namespace FaultAssertionRunner

open Transition

/- What the callback reads of the clock at its start. -/
def Call.readsAt (time : Int) : Call → Prop
| .faultEvent _ _ => True
| .topicHzMessage _ now => now = time
| .twistMessage _ _ now => now = time
| .update readings => readings.now = time

/- A callback with the node time at which it is processed. -/
structure Processed where
  time : Int
  call : Call
  clock : call.readsAt time

/- Process a callback. -/
def process
    (fromSeconds : Number → Int)
    (r : FaultAssertionRunner)
    (p : Processed) : Option FaultAssertionRunner :=
  r.step fromSeconds p.call

/- The deadline of an assertion lies before the time. -/
def Over
    (r : FaultAssertionRunner)
    (time : Int)
    (config : AssertionConfig) : Prop :=
  ∃ within,
    config.within = some within ∧
      within.lt (.finite (seconds (time - r.startTime))) =
        true

/- An assertion does not pass after its deadline. -/
def NotLate
    {α : Type}
    (config : α → AssertionConfig)
    (result : α → AssertionResult)
    (r : FaultAssertionRunner)
    (time : Int)
    (before after : α) : Prop :=
  r.Over time (config before) →
    ¬ (result before).Passes (result after)

/-
  No assertion about a fault event or a rate passes after its
  deadline in this step.
-/
def KeepsDeadlines
    (fromSeconds : Number → Int)
    (r : FaultAssertionRunner)
    (p : Processed) : Prop :=
  ∀ t, process fromSeconds r p = some t →
    List.Forall₂
        (NotLate FaultEventAssertion.config
          FaultEventAssertion.result r p.time)
        r.faultEventAssertions t.faultEventAssertions ∧
      List.Forall₂
        (NotLate TopicHzAssertion.config
          TopicHzAssertion.result r p.time)
        r.topicHzAssertions t.topicHzAssertions

/-
  An event finds nothing that waits for it, and a tick no
  pending rate that is reached, after the deadline.
-/
def InTime
    (r : FaultAssertionRunner)
    (p : Processed) : Prop :=
  match p.call with
  | .faultEvent event _ =>
      ∀ assertion ∈ r.faultEventAssertions,
        assertion.Awaits event.toFaultEvent →
          ¬ r.Over p.time assertion.config
  | .update _ =>
      ∀ assertion ∈ r.topicHzAssertions,
        assertion.Reached p.time →
          ¬ r.Over p.time assertion.config
  | _ => True

/- Publishing changes no assertion. -/
theorem assertions_publishAssertionEvent
    (stampOf : String → Int)
    (r : FaultAssertionRunner) :
    (publishAssertionEvent stampOf r).faultEventAssertions =
        r.faultEventAssertions ∧
      (publishAssertionEvent stampOf r).topicHzAssertions =
        r.topicHzAssertions := by
  unfold publishAssertionEvent
  generalize r.results = results
  induction results generalizing r with
  | nil => exact ⟨rfl, rfl⟩
  | cons result results ih =>
      rw [List.foldl_cons]
      rcases ih (publishResult stampOf r result) with
        ⟨hEvents, hRates⟩
      rw [hEvents, hRates]
      unfold publishResult
      split
      · exact ⟨rfl, rfl⟩
      · split
        · exact ⟨rfl, rfl⟩
        · exact ⟨rfl, rfl⟩

/- What stays as it is does not pass. -/
theorem notLate_refl
    {α : Type}
    {config : α → AssertionConfig}
    {result : α → AssertionResult}
    {r : FaultAssertionRunner}
    {time : Int}
    (items : List α) :
    List.Forall₂ (NotLate config result r time) items items :=
  List.forall₂_same.mpr fun _ _ _ =>
    AssertionResult.not_passes_self _

/- A map is followed item by item. -/
theorem notLate_map_iff
    {α : Type}
    {config : α → AssertionConfig}
    {result : α → AssertionResult}
    {r : FaultAssertionRunner}
    {time : Int}
    {change : α → α}
    {Decides : α → Prop}
    (hPasses :
      ∀ item,
        (result item).Passes (result (change item)) ↔
          Decides item)
    (items : List α) :
    List.Forall₂ (NotLate config result r time) items
        (items.map change) ↔
      ∀ item ∈ items,
        Decides item → ¬ r.Over time (config item) := by
  rw [List.forall₂_map_right_iff, List.forall₂_same]
  unfold NotLate
  simp only [hPasses]
  exact
    forall₂_congr fun _ _ =>
      ⟨fun hNot hDecides hOver => hNot hOver hDecides,
        fun hNot hOver hDecides => hNot hDecides hOver⟩

/- Nothing passes after its deadline on the way to a state. -/
def PassesInTime
    (r : FaultAssertionRunner)
    (time : Int)
    (t : FaultAssertionRunner) : Prop :=
  List.Forall₂
      (NotLate FaultEventAssertion.config
        FaultEventAssertion.result r time)
      r.faultEventAssertions t.faultEventAssertions ∧
    List.Forall₂
      (NotLate TopicHzAssertion.config
        TopicHzAssertion.result r time)
      r.topicHzAssertions t.topicHzAssertions

section Steps

variable {fromSeconds : Number → Int}
variable {r t : FaultAssertionRunner}
variable {time : Int}

/- An event can decide what waits for it. -/
theorem passesInTime_faultEvent
    {event : FaultEventMessage}
    {stampOf : String → Int}
    (hStep :
      step fromSeconds r (.faultEvent event stampOf) =
        some t) :
    r.PassesInTime time t ↔
      ∀ assertion ∈ r.faultEventAssertions,
        assertion.Awaits event.toFaultEvent →
          ¬ r.Over time assertion.config := by
  rcases Option.bind_eq_some_iff.mp hStep with
    ⟨twists, _, hDone⟩
  cases hDone
  rcases assertions_publishAssertionEvent stampOf
      { r with
        faultEventAssertions :=
          r.faultEventAssertions.map fun assertion =>
            assertion.observe event.toFaultEvent
        twistStoppedAssertions := twists } with
    ⟨hEvents, hRates⟩
  unfold PassesInTime
  rw [hEvents, hRates,
    notLate_map_iff (FaultEventAssertion.observe_passes_iff _)]
  exact and_iff_left (notLate_refl _)

/- Counting a message decides nothing. -/
theorem passesInTime_topicHzMessage
    {index : Nat}
    {now : Int}
    (hStep :
      step fromSeconds r (.topicHzMessage index now) =
        some t) :
    r.PassesInTime time t := by
  rcases Option.bind_eq_some_iff.mp hStep with
    ⟨rates, hRates, hDone⟩
  cases hDone
  refine ⟨notLate_refl _, ?_⟩
  refine (forall₂_of_changeAt hRates).imp ?_
  intro before after hCase _ hPasses
  rcases hCase with hSame | hChanged
  · rw [hSame] at hPasses
    exact AssertionResult.not_passes_self _ hPasses
  · cases hChanged
    exact AssertionResult.not_passes_self _ hPasses

/- A command concerns neither kind of assertion. -/
theorem passesInTime_twistMessage
    {index : Nat}
    {message : Twist}
    {now : Int}
    (hStep :
      step fromSeconds r (.twistMessage index message now) =
        some t) :
    r.PassesInTime time t := by
  rcases Option.bind_eq_some_iff.mp hStep with
    ⟨twists, _, hDone⟩
  cases hDone
  exact ⟨notLate_refl _, notLate_refl _⟩

/- A tick can pass a rate, and no fault event. -/
theorem passesInTime_update
    {readings : Readings}
    (hStep : step fromSeconds r (.update readings) = some t) :
    r.PassesInTime readings.now t ↔
      ∀ assertion ∈ r.topicHzAssertions,
        assertion.Reached readings.now →
          ¬ r.Over readings.now assertion.config := by
  rcases Option.bind_eq_some_iff.mp hStep with
    ⟨twists, _, hDone⟩
  cases hDone
  rcases assertions_publishAssertionEvent readings.eventStamp
      { r with
        faultEventAssertions :=
          r.faultEventAssertions.map fun assertion =>
            assertion.update
              (.finite (seconds (readings.now - r.startTime)))
        topicHzAssertions :=
          r.topicHzAssertions.map fun assertion =>
            assertion.update
              (.finite (seconds (readings.now - r.startTime)))
              readings.now
        twistStoppedAssertions := twists } with
    ⟨hEvents, hRates⟩
  unfold PassesInTime publishStatus
  simp only [hEvents, hRates]
  rw [notLate_map_iff (TopicHzAssertion.update_passes_iff _ _)]
  refine and_iff_right ?_
  rw [List.forall₂_map_right_iff, List.forall₂_same]
  intro assertion _ _
  exact FaultEventAssertion.not_passes_update _ _

end Steps

/-
  A step keeps the deadlines exactly if nothing is decided in
  favour after its deadline.
-/
theorem keepsDeadlines_iff
    {fromSeconds : Number → Int}
    {r : FaultAssertionRunner}
    {p : Processed}
    (hStep : (process fromSeconds r p).isSome = true) :
    KeepsDeadlines fromSeconds r p ↔ InTime r p := by
  rcases Option.isSome_iff_exists.mp hStep with ⟨t, hT⟩
  have hOne :
      KeepsDeadlines fromSeconds r p ↔
        r.PassesInTime p.time t := by
    unfold KeepsDeadlines PassesInTime
    simp only [hT, Option.some.injEq, forall_eq']
  rw [hOne]
  rcases p with ⟨time, call, hClock⟩
  cases call with
  | faultEvent event stampOf => exact passesInTime_faultEvent hT
  | topicHzMessage index now =>
      exact
        iff_of_true (passesInTime_topicHzMessage hT) True.intro
  | twistMessage index message now =>
      exact
        iff_of_true (passesInTime_twistMessage hT) True.intro
  | update readings =>
      have hNow : readings.now = time := hClock
      subst hNow
      exact passesInTime_update hT

/- After a tick nothing is pending whose deadline is over. -/
theorem decided_of_tick
    {fromSeconds : Number → Int}
    {r t : FaultAssertionRunner}
    {readings : Readings}
    (hStep : step fromSeconds r (.update readings) = some t) :
    (∀ assertion ∈ t.faultEventAssertions,
      r.Over readings.now assertion.config →
        assertion.result.state ≠ .pending) ∧
      ∀ assertion ∈ t.topicHzAssertions,
        r.Over readings.now assertion.config →
          assertion.result.state ≠ .pending := by
  rcases Option.bind_eq_some_iff.mp hStep with
    ⟨twists, _, hDone⟩
  cases hDone
  unfold publishStatus
  simp only [assertions_publishAssertionEvent]
  constructor
  · intro assertion hMember
    rcases List.mem_map.mp hMember with ⟨before, _, hSame⟩
    rw [← hSame, FaultEventAssertion.update_config]
    rintro ⟨within, hWithin, hOver⟩
    exact
      FaultEventAssertion.decided_of_update hWithin hOver
  · intro assertion hMember
    rcases List.mem_map.mp hMember with ⟨before, _, hSame⟩
    rw [← hSame, TopicHzAssertion.update_config]
    rintro ⟨within, hWithin, hOver⟩
    exact
      TopicHzAssertion.decided_of_update hWithin hOver _

------------------------------------------------------------
-- Runs
------------------------------------------------------------

namespace LateEvent

/- The fault must become active within a second. -/
def config : AssertionConfig :=
  { id := "applied"
    type := "fault_event"
    faultId := "bias"
    state := "active"
    within := some .one }

/- The event is processed two seconds after the start. -/
def event : Processed where
  time := 2 * 10 ^ 9
  call :=
    .faultEvent
      { faultId := "bias"
        injectorId := "odom"
        state := "active"
        source := "schedule"
        details := ""
        stamp := 2 * 10 ^ 9 }
      (fun _ => 2 * 10 ^ 9)
  clock := True.intro

/- An event in time. -/
def timely : Processed where
  time := 10 ^ 8
  call := event.call
  clock := True.intro

end LateEvent

end FaultAssertionRunner
