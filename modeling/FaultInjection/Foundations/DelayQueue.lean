import Mathlib.Data.List.Forall2
import Mathlib.Data.List.TakeWhile

/-
  Queues of messages that are released at given times.

  A flush publishes from the front as long as the release
  time has come, and keeps the rest in order. A message that
  is accepted without a delay is published past the queue.

  Key definitions include:
    * `DelayQueue.due`
    * `DelayQueue.rest`
    * `DelayQueue.Event`
    * `DelayQueue.Accounts`
    * `DelayQueue.Ascending`
    * `DelayQueue.DueBefore`

  Key theorems include:
    * `DelayQueue.due_append_rest`
    * `DelayQueue.due_eq_map_of_le`
    * `DelayQueue.run_accounts`
    * `DelayQueue.Ascending.rest_late`
    * `DelayQueue.mem_rest_of_blocked`
    * `DelayQueue.queueAfter_flush_sublist`
    * `DelayQueue.released_of_rest`
-/

namespace DelayQueue

variable {α : Type}

/- A queued message. Times are in nanoseconds. -/
structure Delayed (α : Type) where
  msg : α
  releaseTime : Int
deriving DecidableEq

/- The messages that a flush publishes. -/
def due
    (now : Int)
    (queue : List (Delayed α)) : List α :=
  (queue.takeWhile fun d => d.releaseTime ≤ now).map
    Delayed.msg

/- The messages that a flush leaves queued. -/
def rest
    (now : Int)
    (queue : List (Delayed α)) : List (Delayed α) :=
  queue.dropWhile fun d => d.releaseTime ≤ now

variable {now : Int}
variable {queue : List (Delayed α)}

/- A flush neither loses nor duplicates a message. -/
theorem due_append_rest :
    due now queue ++ (rest now queue).map Delayed.msg =
      queue.map Delayed.msg := by
  unfold due rest
  rw [← List.map_append, List.takeWhile_append_dropWhile]

theorem mem_of_mem_due
    {msg : α}
    (hDue : msg ∈ due now queue) :
    ∃ d ∈ queue, d.msg = msg := by
  have hBoth :
      msg ∈ due now queue ++
        (rest now queue).map Delayed.msg :=
    List.mem_append_left _ hDue
  rw [due_append_rest] at hBoth
  simpa using hBoth

theorem mem_of_mem_rest
    {d : Delayed α}
    (hRest : d ∈ rest now queue) :
    d ∈ queue :=
  (List.dropWhile_sublist _).subset hRest

/- A flush late enough publishes the whole queue. -/
theorem due_eq_map_of_le
    (hAll : ∀ d ∈ queue, d.releaseTime ≤ now) :
    due now queue = queue.map Delayed.msg := by
  unfold due
  rw [List.takeWhile_eq_self_iff.mpr]
  intro d hMember
  simpa using hAll d hMember

/- Some time is late enough for every queued message. -/
theorem exists_late
    (queue : List (Delayed α)) :
    ∃ now, ∀ d ∈ queue, d.releaseTime ≤ now := by
  induction queue with
  | nil => exact ⟨0, by simp⟩
  | cons first queue ih =>
      rcases ih with ⟨now, hAll⟩
      refine ⟨max first.releaseTime now, ?_⟩
      intro d hMember
      rcases List.mem_cons.mp hMember with hFirst | hLater
      · rw [hFirst]
        exact Int.le_max_left _ _
      · have hHere := hAll d hLater
        exact Int.le_trans hHere (Int.le_max_right _ _)

------------------------------------------------------------
-- Lines
------------------------------------------------------------

/- A message and the time at which it was published. -/
structure Published (α : Type) where
  msg : α
  time : Int
deriving DecidableEq

/- What can happen to a queue; an accepted message may wait. -/
inductive Event (α : Type) where
| accept (msg : α) (now delay : Int) : Event α
| flush (now : Int) : Event α
| idle : Event α
deriving DecidableEq

namespace Event

/- The accepted message with the time it may be released. -/
def accepted : Event α → List (Delayed α)
| .accept msg now delay =>
    [⟨msg, if 0 < delay then now + delay else now⟩]
| _ => []

/- The delay of an accepted message. -/
def delay? : Event α → Option Int
| .accept _ _ delay => some delay
| _ => none

/- The messages that leave, with their release times. -/
def released (queue : List (Delayed α)) :
    Event α → List (Delayed α)
| .accept msg now delay =>
    if 0 < delay then [] else [⟨msg, now⟩]
| .flush now =>
    queue.takeWhile fun d => d.releaseTime ≤ now
| .idle => []

/- The messages that are published. -/
def published (queue : List (Delayed α)) :
    Event α → List (Published α)
| .accept msg now delay =>
    if 0 < delay then [] else [⟨msg, now⟩]
| .flush now => (due now queue).map fun msg => ⟨msg, now⟩
| .idle => []

/- The queue that is left. -/
def next (queue : List (Delayed α)) :
    Event α → List (Delayed α)
| .accept msg now delay =>
    if 0 < delay then
      queue ++ [⟨msg, now + delay⟩]
    else
      queue
| .flush now => rest now queue
| .idle => queue

/- What leaves and what stays is what was there or came. -/
theorem perm_next
    (queue : List (Delayed α))
    (event : Event α) :
    (queue ++ event.accepted).Perm
      (event.released queue ++ event.next queue) := by
  cases event with
  | accept msg now delay =>
      by_cases hDelay : 0 < delay
      · simp [accepted, released, next, hDelay]
      · simp [accepted, released, next, hDelay]
  | flush now =>
      simp [accepted, released, next, rest,
        List.takeWhile_append_dropWhile]
  | idle => simp [accepted, released, next]

/- A message is published at its release time or later. -/
theorem punctual
    (queue : List (Delayed α))
    (event : Event α) :
    List.Forall₂
      (fun d p => p.msg = d.msg ∧ d.releaseTime ≤ p.time)
      (event.released queue) (event.published queue) := by
  cases event with
  | accept msg now delay =>
      by_cases hDelay : 0 < delay
      · simp [released, published, hDelay]
      · simp [released, published, hDelay]
  | flush now =>
      simp only [released, published, due, List.map_map,
        List.forall₂_map_right_iff, List.forall₂_same]
      intro d hMember
      have hDue := List.mem_takeWhile_imp hMember
      exact ⟨rfl, by simpa using hDue⟩
  | idle => simp [released, published]

/-
  A message passes only an empty queue when nothing waits or
  it has to wait itself.
-/
theorem next_eq_of_delay
    {queue : List (Delayed α)}
    {event : Event α}
    (hWaits :
      ∀ delay ∈ event.delay?, queue ≠ [] → 0 < delay) :
    queue ++ event.accepted =
      event.released queue ++ event.next queue := by
  cases event with
  | accept msg now delay =>
      by_cases hDelay : 0 < delay
      · simp [accepted, released, next, hDelay]
      · have hEmpty : queue = [] := by
          by_contra hWaiting
          exact hDelay (hWaits delay rfl hWaiting)
        simp [accepted, released, next, hDelay, hEmpty]
  | flush now =>
      simp [accepted, released, next, rest,
        List.takeWhile_append_dropWhile]
  | idle => simp [accepted, released, next]

end Event

/-
  Every accepted message was released once or waits. What
  was published is what was released, each message not before
  its time. With delays that never shrink the order of
  acceptance is kept.
-/
structure Accounts
    (events : List (Event α))
    (published : List (Published α))
    (queue : List (Delayed α))
    (released : List (Delayed α)) : Prop where
  conserved :
    (events.flatMap Event.accepted).Perm (released ++ queue)
  punctual :
    List.Forall₂
      (fun d p => p.msg = d.msg ∧ d.releaseTime ≤ p.time)
      released published
  ordered :
    (events.filterMap Event.delay?).Pairwise (· ≤ ·) →
      events.flatMap Event.accepted = released ++ queue

/- The messages that a run of events publishes. -/
def publishedBy :
    List (Delayed α) → List (Event α) → List (Published α)
| _, [] => []
| queue, event :: events =>
    event.published queue ++
      publishedBy (event.next queue) events

/- The messages that a run releases. -/
def releasedBy :
    List (Delayed α) → List (Event α) → List (Delayed α)
| _, [] => []
| queue, event :: events =>
    event.released queue ++
      releasedBy (event.next queue) events

/- The queue after a run. -/
def queueAfter :
    List (Delayed α) → List (Event α) → List (Delayed α)
| queue, [] => queue
| queue, event :: events =>
    queueAfter (event.next queue) events

theorem run_conserves
    (queue : List (Delayed α))
    (events : List (Event α)) :
    (queue ++ events.flatMap Event.accepted).Perm
      (releasedBy queue events ++ queueAfter queue events) := by
  induction events generalizing queue with
  | nil => simp [releasedBy, queueAfter]
  | cons event events ih =>
      have hHead :=
        (event.perm_next queue).append_right
          (events.flatMap Event.accepted)
      have hTail :=
        (ih (event.next queue)).append_left
          (event.released queue)
      rw [List.append_assoc, List.append_assoc] at hHead
      rw [List.flatMap_cons, releasedBy, queueAfter,
        List.append_assoc]
      exact hHead.trans hTail

theorem run_punctual
    (queue : List (Delayed α))
    (events : List (Event α)) :
    List.Forall₂
      (fun d p => p.msg = d.msg ∧ d.releaseTime ≤ p.time)
      (releasedBy queue events) (publishedBy queue events) := by
  induction events generalizing queue with
  | nil => exact .nil
  | cons event events ih =>
      rw [releasedBy, publishedBy]
      exact List.rel_append (event.punctual queue)
        (ih (event.next queue))

/- Delays that never shrink let no message pass another. -/
theorem run_ordered
    {queue : List (Delayed α)}
    {events : List (Event α)}
    (hDelays :
      (events.filterMap Event.delay?).Pairwise (· ≤ ·))
    (hWaits :
      queue ≠ [] →
        ∀ delay ∈ events.filterMap Event.delay?, 0 < delay) :
    queue ++ events.flatMap Event.accepted =
      releasedBy queue events ++ queueAfter queue events := by
  induction events generalizing queue with
  | nil => simp [releasedBy, queueAfter]
  | cons event events ih =>
      have hHead :
          ∀ delay ∈ event.delay?, queue ≠ [] → 0 < delay := by
        intro delay hDelay hQueue
        apply hWaits hQueue delay
        rw [List.mem_filterMap]
        exact ⟨event, List.mem_cons_self, hDelay⟩
      have hRest :
          ∀ delay ∈ events.filterMap Event.delay?,
            event.next queue ≠ [] → 0 < delay := by
        intro delay hDelay hNext
        cases event with
        | accept msg now first =>
            simp only [List.filterMap_cons, Event.delay?,
              List.pairwise_cons] at hDelays
            have hFirst := hDelays.1 delay hDelay
            by_cases hPositive : 0 < first
            · omega
            · have hQueue : queue ≠ [] := by
                simpa [Event.next, hPositive] using hNext
              have hHere := hHead first rfl hQueue
              omega
        | flush now =>
            refine hWaits ?_ delay hDelay
            intro hQueue
            simp [Event.next, rest, hQueue] at hNext
        | idle => exact hWaits hNext delay hDelay
      have hTail :
          (events.filterMap Event.delay?).Pairwise
            (· ≤ ·) := by
        cases event with
        | accept msg now first =>
            simp only [List.filterMap_cons, Event.delay?,
              List.pairwise_cons] at hDelays
            exact hDelays.2
        | flush now => exact hDelays
        | idle => exact hDelays
      rw [List.flatMap_cons, ← List.append_assoc,
        Event.next_eq_of_delay hHead, releasedBy, queueAfter,
        List.append_assoc, List.append_assoc,
        ih hTail fun hNext delay hDelay =>
          hRest delay hDelay hNext]

/- A run that starts with nothing queued is accounted for. -/
theorem run_accounts (events : List (Event α)) :
    Accounts events (publishedBy [] events)
      (queueAfter [] events)
      (releasedBy [] events) where
  conserved := by
    simpa using run_conserves [] events
  punctual := run_punctual [] events
  ordered hDelays := by
    have hOrder := run_ordered hDelays (fun h => absurd rfl h)
    simpa using hOrder

------------------------------------------------------------
-- Release Order
------------------------------------------------------------

/- The release times go up from the front to the back. -/
def Ascending (queue : List (Delayed α)) : Prop :=
  queue.Pairwise fun a b => a.releaseTime ≤ b.releaseTime

/- A message is not queued behind one to be released later. -/
def Event.NotOvertaking (queue : List (Delayed α)) :
    Event α → Prop
| .accept _ now delay =>
    0 < delay → ∀ d ∈ queue, d.releaseTime ≤ now + delay
| .flush _ => True
| .idle => True

/- After a flush no message that is left is due. -/
theorem Ascending.rest_late
    {queue : List (Delayed α)}
    (hAscending : Ascending queue)
    (now : Int) :
    ∀ d ∈ rest now queue, now < d.releaseTime := by
  unfold rest
  induction queue with
  | nil =>
      intro d hRest
      cases hRest
  | cons first queue ih =>
      rcases List.pairwise_cons.mp hAscending with
        ⟨hFirst, hLater⟩
      by_cases hDue : first.releaseTime ≤ now
      · rw [List.dropWhile_cons_of_pos (by simpa using hDue)]
        exact ih hLater
      · rw [List.dropWhile_cons_of_neg (by simpa using hDue)]
        intro d hRest
        rcases List.mem_cons.mp hRest with hSame | hMember
        · rw [hSame]
          exact Int.not_le.mp hDue
        · have hOrder := hFirst d hMember
          omega

/- What stands behind a message that is not due is left. -/
theorem mem_rest_of_blocked
    {queue : List (Delayed α)}
    {now : Int}
    {d : Delayed α}
    (hBlocking : d ∈ queue)
    (hNotDue : now < d.releaseTime)
    (last : Delayed α) :
    last ∈ rest now (queue ++ [last]) := by
  unfold rest
  induction queue with
  | nil => cases hBlocking
  | cons first queue ih =>
      rw [List.cons_append]
      by_cases hDue : first.releaseTime ≤ now
      · rw [List.dropWhile_cons_of_pos (by simpa using hDue)]
        apply ih
        rcases List.mem_cons.mp hBlocking with hSame | hMember
        · rw [hSame] at hNotDue
          omega
        · exact hMember
      · rw [List.dropWhile_cons_of_neg (by simpa using hDue)]
        exact
          List.mem_cons_of_mem _
            (List.mem_append_right _ List.mem_cons_self)

/- Without overtaking the release times keep going up. -/
theorem Ascending.next
    {queue : List (Delayed α)}
    (hAscending : Ascending queue)
    {event : Event α}
    (hEvent : event.NotOvertaking queue) :
    Ascending (event.next queue) := by
  cases event with
  | accept msg now delay =>
      by_cases hDelay : 0 < delay
      · have hLate := hEvent hDelay
        have hNext :
            (Event.accept msg now delay).next queue =
              queue ++ [⟨msg, now + delay⟩] :=
          if_pos hDelay
        rw [hNext, Ascending, List.pairwise_append]
        refine ⟨hAscending, List.pairwise_singleton _ _, ?_⟩
        intro d hMember last hLast
        rw [List.mem_singleton.mp hLast]
        exact hLate d hMember
      · have hNext :
            (Event.accept msg now delay).next queue = queue :=
          if_neg hDelay
        rw [hNext]
        exact hAscending
  | flush now =>
      exact hAscending.sublist (List.dropWhile_sublist _)
  | idle => exact hAscending

------------------------------------------------------------
-- Longest Wait
------------------------------------------------------------

/- Messages that are due at a time, with later ones behind. -/
def DueBefore
    (now : Int)
    (later : List (Delayed α))
    (queue : List (Delayed α)) : Prop :=
  ∃ early fresh,
    queue = early ++ fresh ∧
      (∀ d ∈ early, d.releaseTime ≤ now) ∧
        fresh.Sublist later

/- A flush at that time leaves nothing but later messages. -/
theorem DueBefore.rest_sublist
    {now : Int}
    {later queue : List (Delayed α)}
    (hBefore : DueBefore now later queue) :
    (rest now queue).Sublist later := by
  rcases hBefore with ⟨early, fresh, hSplit, hDue, hFresh⟩
  unfold rest
  rw [hSplit, List.dropWhile_append_of_pos]
  · exact (List.dropWhile_sublist _).trans hFresh
  · intro d hEarly
    exact decide_eq_true (hDue d hEarly)

/- What an event accepts gets in line behind. -/
theorem DueBefore.next
    {now : Int}
    {later queue : List (Delayed α)}
    (hBefore : DueBefore now later queue)
    (event : Event α) :
    DueBefore now (later ++ event.accepted)
      (event.next queue) := by
  rcases hBefore with ⟨early, fresh, hSplit, hDue, hFresh⟩
  have hKept : fresh.Sublist (later ++ event.accepted) :=
    hFresh.trans (List.sublist_append_left _ _)
  cases event with
  | accept msg time delay =>
      by_cases hDelay : 0 < delay
      · refine
          ⟨early, fresh ++ [⟨msg, time + delay⟩], ?_, hDue, ?_⟩
        · rw [Event.next, if_pos hDelay, hSplit,
            List.append_assoc]
        · rw [Event.accepted, if_pos hDelay]
          exact hFresh.append (List.Sublist.refl _)
      · refine ⟨early, fresh, ?_, hDue, hKept⟩
        rw [Event.next, if_neg hDelay, hSplit]
  | flush time =>
      rw [Event.next, rest, hSplit, List.dropWhile_append]
      by_cases hGone :
          (early.dropWhile fun d =>
            d.releaseTime ≤ time).isEmpty = true
      · rw [if_pos hGone]
        refine ⟨[], _, rfl, ?_, ?_⟩
        · intro d hNone
          cases hNone
        · exact (List.dropWhile_sublist _).trans hKept
      · rw [if_neg hGone]
        refine ⟨_, fresh, rfl, ?_, hKept⟩
        intro d hLeft
        exact hDue d ((List.dropWhile_sublist _).mem hLeft)
  | idle => exact ⟨early, fresh, hSplit, hDue, hKept⟩

theorem DueBefore.run
    {now : Int}
    {later queue : List (Delayed α)}
    (hBefore : DueBefore now later queue)
    (events : List (Event α)) :
    DueBefore now (later ++ events.flatMap Event.accepted)
      (queueAfter queue events) := by
  induction events generalizing later queue with
  | nil => simpa [queueAfter] using hBefore
  | cons event events ih =>
      have hRest := ih (hBefore.next event)
      rw [List.append_assoc] at hRest
      rw [List.flatMap_cons, queueAfter]
      exact hRest

theorem queueAfter_append
    (queue : List (Delayed α))
    (before after : List (Event α)) :
    queueAfter queue (before ++ after) =
      queueAfter (queueAfter queue before) after := by
  induction before generalizing queue with
  | nil => rfl
  | cons event before ih => exact ih (event.next queue)

/-
  A flush at a time at which all earlier messages are due
  leaves none of them, whatever was accepted since.
-/
theorem queueAfter_flush_sublist
    {before : List (Event α)}
    {now : Int}
    (hDue :
      ∀ d ∈ before.flatMap Event.accepted,
        d.releaseTime ≤ now)
    (after : List (Event α)) :
    (queueAfter [] (before ++ after ++ [.flush now])).Sublist
      (after.flatMap Event.accepted) := by
  have hStart :
      DueBefore now []
        (queueAfter ([] : List (Delayed α)) before) := by
    refine ⟨_, [], (List.append_nil _).symm, ?_, .slnil⟩
    intro d hQueued
    apply hDue d
    have hConserved := run_conserves [] before
    rw [List.nil_append] at hConserved
    exact
      hConserved.mem_iff.mpr
        (List.mem_append_right _ hQueued)
  have hEnd := (hStart.run after).rest_sublist
  rw [List.nil_append] at hEnd
  rw [List.append_assoc, queueAfter_append,
    queueAfter_append]
  exact hEnd

/-
  When the queue holds only later entries, what has been
  released is the earlier ones and the other later ones.
-/
theorem released_of_rest
    {early later released queue : List (Delayed α)}
    (hConserved : (early ++ later).Perm (released ++ queue))
    (hQueue : queue.Sublist later) :
    ∃ others,
      released.Perm (early ++ others) ∧
        (others ++ queue).Perm later := by
  rcases hQueue.exists_perm_append with ⟨others, hOthers⟩
  have hLater : (others ++ queue).Perm later :=
    List.perm_append_comm.trans hOthers.symm
  refine ⟨others, ?_, hLater⟩
  apply (List.perm_append_right_iff queue).mp
  rw [List.append_assoc]
  exact hConserved.symm.trans (hLater.symm.append_left early)

end DelayQueue
