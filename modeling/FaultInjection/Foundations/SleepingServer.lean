import Mathlib.Tactic.Ring
import Mathlib.Tactic.Linarith
import Mathlib.Data.List.Chain
import FaultInjection.Foundations.KeepLast

/-
  A server that takes messages from a bounded queue and
  sleeps for each of them.

  While it sleeps it takes nothing and the queue goes on
  filling. So the time that it sleeps bounds how many
  messages it serves, and what arrives faster than that is
  lost once the queue is full.

  Key definitions include:
    * `SleepingServer`
    * `SleepingServer.arrive`
    * `SleepingServer.serve`
    * `SleepingServer.Sound`
    * `SleepingServer.Since`

  Key theorems include:
    * `SleepingServer.Sound.serve`
    * `SleepingServer.Since.serve`
    * `SleepingServer.served_le`
    * `SleepingServer.short_of_overload`
-/

open KeepLast

/- A served message, with the time that the server slept. -/
structure Served (β : Type) where
  arrivedAt : Int
  item : β
  takenAt : Int
  pause : Int
deriving DecidableEq

/- The time at which the server is done with it. -/
def Served.doneAt
    {β : Type}
    (v : Served β) : Int :=
  v.takenAt + v.pause

structure SleepingServer (β : Type) where
  now : Int
  busyUntil : Int
  inbox : Subscription (Int × β)
  served : List (Served β) := []
deriving DecidableEq

namespace SleepingServer

variable {β : Type}

------------------------------------------------------------
-- Operations
------------------------------------------------------------

/- A message arrives, whether the server sleeps or not. -/
def arrive
    (time : Int)
    (item : β)
    (s : SleepingServer β) : Option (SleepingServer β) :=
  if s.now ≤ time then
    some
      { s with
        now := time
        inbox := s.inbox.publish (time, item) }
  else
    none

/- The server is awake at the time. -/
def wake
    (time : Int)
    (s : SleepingServer β) : Option (SleepingServer β) :=
  if s.now ≤ time ∧ s.busyUntil ≤ time then
    some { s with now := time }
  else
    none

/- The message that is taken next. -/
def next? (s : SleepingServer β) : Option (Int × β) :=
  s.inbox.queue.head?

/- Take the oldest message and sleep for it. -/
def serve
    (time : Int)
    (pause : Nat)
    (s : SleepingServer β) : Option (SleepingServer β) := do
  let awake ← s.wake time
  let (arrivedAt, item) ← awake.next?
  let inbox ← awake.inbox.deliver
  some
    { awake with
      busyUntil := time + pause
      inbox := inbox
      served :=
        awake.served ++
          [{ arrivedAt := arrivedAt
             item := item
             takenAt := time
             pause := pause }] }

section Inversion

variable {s t : SleepingServer β}
variable {time : Int}

theorem arrive_eq_some_iff
    {item : β} :
    s.arrive time item = some t ↔
      s.now ≤ time ∧
        t =
          { s with
            now := time
            inbox := s.inbox.publish (time, item) } := by
  unfold arrive
  split
  · rename_i hClock
    simp [hClock, eq_comm]
  · rename_i hClock
    simp [hClock]

theorem wake_eq_some_iff :
    s.wake time = some t ↔
      (s.now ≤ time ∧ s.busyUntil ≤ time) ∧
        t = { s with now := time } := by
  unfold wake
  split
  · rename_i hClock
    simp [hClock, eq_comm]
  · rename_i hClock
    simp [hClock]

/- Everything that serving a message does. -/
theorem serve_eq_some_iff
    {pause : Nat} :
    s.serve time pause = some t ↔
      (s.now ≤ time ∧ s.busyUntil ≤ time) ∧
        ∃ arrivedAt item rest,
          s.inbox.queue = (arrivedAt, item) :: rest ∧
            t =
              { s with
                now := time
                busyUntil := time + pause
                inbox :=
                  { s.inbox with
                    queue := rest
                    delivered :=
                      s.inbox.delivered ++
                        [(arrivedAt, item)] }
                served :=
                  s.served ++
                    [{ arrivedAt := arrivedAt
                       item := item
                       takenAt := time
                       pause := pause }] } := by
  unfold serve wake next? Subscription.deliver
  split
  · rename_i hClock
    cases hQueue : s.inbox.queue with
    | nil => simp [hClock, hQueue]
    | cons first rest =>
        rcases first with ⟨arrivedAt, item⟩
        simp [hClock, hQueue, eq_comm]
  · rename_i hClock
    simp [hClock]

end Inversion

------------------------------------------------------------
-- Order And Times
------------------------------------------------------------

/-
  Messages are served in the order of their arrival, each
  after it has arrived and when the one before is done.
-/
structure Sound (s : SleepingServer β) : Prop where
  delivered :
    s.inbox.delivered =
      s.served.map fun v => (v.arrivedAt, v.item)
  inOrder : InOrder s.inbox
  bounded : Bounded s.inbox
  past : ∀ entry ∈ s.inbox.queue, entry.1 ≤ s.now
  waited : ∀ v ∈ s.served, v.arrivedAt ≤ v.takenAt
  apart : s.served.IsChain fun a b => a.doneAt ≤ b.takenAt
  busy :
    ∀ v ∈ s.served.getLast?, v.doneAt = s.busyUntil

section Sound

variable {s t : SleepingServer β}
variable {time : Int}

theorem Sound.arrive
    {item : β}
    (hSound : s.Sound)
    (hStep : s.arrive time item = some t) :
    t.Sound := by
  rcases arrive_eq_some_iff.mp hStep with ⟨hClock, hSame⟩
  subst hSame
  refine
    ⟨hSound.delivered, hSound.inOrder.publish _,
      bounded_publish s.inbox _, ?_, hSound.waited,
      hSound.apart, hSound.busy⟩
  intro entry hEntry
  have hMember := List.mem_of_mem_drop hEntry
  rw [List.mem_append, List.mem_singleton] at hMember
  rcases hMember with hOld | hNew
  · exact (hSound.past entry hOld).trans hClock
  · subst hNew
    exact le_rfl

theorem Sound.wake
    (hSound : s.Sound)
    (hStep : s.wake time = some t) :
    t.Sound := by
  rcases wake_eq_some_iff.mp hStep with
    ⟨⟨hClock, _⟩, hSame⟩
  subst hSame
  exact
    ⟨hSound.delivered, hSound.inOrder, hSound.bounded,
      fun entry hEntry =>
        (hSound.past entry hEntry).trans hClock,
      hSound.waited, hSound.apart, hSound.busy⟩

theorem Sound.serve
    {pause : Nat}
    (hSound : s.Sound)
    (hStep : s.serve time pause = some t) :
    t.Sound := by
  rcases serve_eq_some_iff.mp hStep with
    ⟨⟨hClock, hAwake⟩, arrivedAt, item, rest, hQueue, hSame⟩
  have hDeliver :
      s.inbox.deliver =
        some
          { s.inbox with
            queue := rest
            delivered :=
              s.inbox.delivered ++ [(arrivedAt, item)] } :=
    deliver_eq_some_iff.mpr
      ⟨(arrivedAt, item), rest, hQueue, rfl⟩
  have hArrived : arrivedAt ≤ time :=
    (hSound.past (arrivedAt, item) (by simp [hQueue])).trans
      hClock
  subst hSame
  refine
    ⟨?_, hSound.inOrder.deliver hDeliver,
      hSound.bounded.deliver hDeliver, ?_, ?_, ?_, ?_⟩
  · rw [List.map_append, ← hSound.delivered]
    rfl
  · intro entry hEntry
    refine (hSound.past entry ?_).trans hClock
    rw [hQueue]
    exact List.mem_cons_of_mem _ hEntry
  · intro v hV
    rw [List.mem_append, List.mem_singleton] at hV
    rcases hV with hOld | hNew
    · exact hSound.waited v hOld
    · subst hNew
      exact hArrived
  · rw [List.isChain_append]
    refine ⟨hSound.apart, List.isChain_singleton _, ?_⟩
    intro a hA b hB
    rw [List.head?_cons, Option.mem_some_iff] at hB
    subst hB
    rw [hSound.busy a hA]
    exact hAwake
  · intro v hV
    rw [List.getLast?_concat, Option.mem_some_iff] at hV
    subst hV
    rfl

end Sound

------------------------------------------------------------
-- Rates
------------------------------------------------------------

/-
  What happened since an earlier state, if the server slept
  for at least so long with each message that it took.
-/
structure Since
    (pause : Nat)
    (s t : SleepingServer β)
    (served arrived : Nat) : Prop where
  clock : s.now ≤ t.now
  depth : t.inbox.depth = s.inbox.depth
  servedCount : t.served.length = s.served.length + served
  arrivedCount :
    t.inbox.published.length =
      s.inbox.published.length + arrived
  busy :
    0 < served →
      s.now + (served : Int) * pause ≤ t.busyUntil
  taken :
    0 < served →
      s.now + ((served : Int) - 1) * pause ≤ t.now

section Rates

variable {pause : Nat}
variable {s t u : SleepingServer β}
variable {served arrived : Nat}
variable {time : Int}

theorem Since.refl : Since pause s s 0 0 where
  clock := le_rfl
  depth := rfl
  servedCount := rfl
  arrivedCount := rfl
  busy := fun hPositive => absurd hPositive (lt_irrefl 0)
  taken := fun hPositive => absurd hPositive (lt_irrefl 0)

theorem Since.arrive
    {item : β}
    (hSince : Since pause s t served arrived)
    (hStep : t.arrive time item = some u) :
    Since pause s u served (arrived + 1) := by
  rcases arrive_eq_some_iff.mp hStep with ⟨hClock, hSame⟩
  subst hSame
  refine
    ⟨hSince.clock.trans hClock, hSince.depth, hSince.servedCount, ?_,
      hSince.busy,
      fun hPositive => (hSince.taken hPositive).trans hClock⟩
  rw [publish_published, List.length_append, hSince.arrivedCount]
  rfl

theorem Since.wake
    (hSince : Since pause s t served arrived)
    (hStep : t.wake time = some u) :
    Since pause s u served arrived := by
  rcases wake_eq_some_iff.mp hStep with
    ⟨⟨hClock, _⟩, hSame⟩
  subst hSame
  exact
    ⟨hSince.clock.trans hClock, hSince.depth, hSince.servedCount,
      hSince.arrivedCount, hSince.busy,
      fun hPositive => (hSince.taken hPositive).trans hClock⟩

theorem Since.serve
    {slept : Nat}
    (hSince : Since pause s t served arrived)
    (hPause : pause ≤ slept)
    (hStep : t.serve time slept = some u) :
    Since pause s u (served + 1) arrived := by
  rcases serve_eq_some_iff.mp hStep with
    ⟨⟨hClock, hAwake⟩, arrivedAt, item, rest, _, hSame⟩
  -- The pauses so far lie between the earlier state and now.
  have hSpent :
      s.now + (served : Int) * pause ≤ time := by
    rcases Nat.eq_zero_or_pos served with hNone | hSome
    · subst hNone
      have hStart := hSince.clock.trans hClock
      simpa using hStart
    · exact (hSince.busy hSome).trans hAwake
  have hLonger : (pause : Int) ≤ slept := by
    exact_mod_cast hPause
  subst hSame
  refine
    ⟨hSince.clock.trans hClock, hSince.depth, ?_, hSince.arrivedCount,
      fun _ => ?_, fun _ => ?_⟩
  · rw [List.length_append, hSince.servedCount]
    rfl
  · push_cast
    linarith
  · push_cast
    linarith

/- The pauses bound how many messages are served. -/
theorem served_le
    (hSince : Since pause s t served arrived) :
    ((served : Int) - 1) * pause ≤ t.now - s.now := by
  rcases Nat.eq_zero_or_pos served with hNone | hSome
  · subst hNone
    have hClock := hSince.clock
    have hPause : (0 : Int) ≤ pause := Int.natCast_nonneg pause
    push_cast
    linarith
  · have hTaken := hSince.taken hSome
    linarith

/- Nothing is lost only if there is room for what arrived. -/
theorem arrived_le_of_not_short
    (hFirst : s.Sound)
    (hLast : t.Sound)
    (hSince : Since pause s t served arrived)
    (hKept : ¬ Short t.inbox) :
    arrived ≤ served + s.inbox.depth := by
  unfold Short at hKept
  have hServed : t.inbox.delivered.length = t.served.length := by
    rw [hLast.delivered, List.length_map]
  have hOld : s.served.length ≤ s.inbox.published.length := by
    have hDelivered :
        s.inbox.delivered.length = s.served.length := by
      rw [hFirst.delivered, List.length_map]
    have hLength := hFirst.inOrder.length_le
    rw [List.length_append, hDelivered] at hLength
    omega
  have hQueue : t.inbox.queue.length ≤ s.inbox.depth := by
    rw [← hSince.depth]
    exact hLast.bounded
  have hCount := hSince.servedCount
  have hArrived := hSince.arrivedCount
  omega

/- More arrivals than pauses fit are not all kept. -/
theorem short_of_overload
    (hFirst : s.Sound)
    (hLast : t.Sound)
    (hSince : Since pause s t served arrived)
    (hOverload :
      t.now - s.now + ((s.inbox.depth : Int) + 1) * pause <
        (arrived : Int) * pause) :
    Short t.inbox := by
  by_contra hKept
  have hRoom : (arrived : Int) ≤ served + s.inbox.depth := by
    exact_mod_cast
      arrived_le_of_not_short hFirst hLast hSince hKept
  have hPause : (0 : Int) ≤ pause := Int.natCast_nonneg pause
  have hServed := served_le hSince
  have hScaled :
      (arrived : Int) * pause ≤
        (served + s.inbox.depth) * pause :=
    mul_le_mul_of_nonneg_right hRoom hPause
  have hSplit :
      ((served : Int) + s.inbox.depth) * pause =
        ((served : Int) - 1) * pause +
          ((s.inbox.depth : Int) + 1) * pause := by
    ring
  linarith

end Rates

end SleepingServer
