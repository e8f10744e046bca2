import Mathlib.Data.List.Basic

/-
  A subscription that keeps the last undelivered messages.

  A publisher hands messages to a subscription with a fixed
  depth. The subscription keeps at most that many messages
  until they are delivered; a further message displaces the
  oldest one.

  Key definitions include:
    * `KeepLast.Subscription`
    * `KeepLast.Subscription.publish`
    * `KeepLast.Subscription.deliver`
    * `KeepLast.Intact`
    * `KeepLast.Short`
    * `KeepLast.InOrder`

  Key theorems include:
    * `KeepLast.intact_publishAll_iff`
    * `KeepLast.Short.publishAll`
    * `KeepLast.not_intact_of_short`
    * `KeepLast.InOrder.publishAll`
-/

------------------------------------------------------------
-- Subscriptions
------------------------------------------------------------

namespace KeepLast

/-
  Everything published so far, the messages waiting in the
  subscription, and those already delivered, oldest first.
-/
structure Subscription (β : Type) where
  depth : Nat
  published : List β := []
  queue : List β := []
  delivered : List β := []
deriving DecidableEq

namespace Subscription

variable {β : Type}

/- Publish a message, displacing the oldest if full. -/
def publish
    (s : Subscription β)
    (e : β) : Subscription β :=
  { s with
    published := s.published ++ [e]
    queue :=
      (s.queue ++ [e]).drop (s.queue.length + 1 - s.depth) }

/- Publish several messages in order. -/
def publishAll
    (s : Subscription β)
    (es : List β) : Subscription β :=
  es.foldl publish s

/- Deliver the oldest waiting message, if there is one. -/
def deliver
    (s : Subscription β) : Option (Subscription β) :=
  match s.queue with
  | [] => none
  | e :: rest =>
      some
        { s with
          queue := rest
          delivered := s.delivered ++ [e] }

end Subscription

variable {β : Type}

/- No message was displaced. -/
def Intact (s : Subscription β) : Prop :=
  s.published = s.delivered ++ s.queue

instance
    [DecidableEq β]
    (s : Subscription β) :
    Decidable (Intact s) := by
  unfold Intact
  infer_instance

/- The subscription keeps no more than its depth. -/
def Bounded (s : Subscription β) : Prop :=
  s.queue.length ≤ s.depth

/- Some message was displaced. -/
def Short (s : Subscription β) : Prop :=
  s.delivered.length + s.queue.length < s.published.length

end KeepLast

------------------------------------------------------------
-- Publishing
------------------------------------------------------------

namespace KeepLast

open Subscription

variable {β : Type}

@[simp] theorem publish_depth
    (s : Subscription β)
    (e : β) :
    (s.publish e).depth = s.depth := rfl

@[simp] theorem publish_published
    (s : Subscription β)
    (e : β) :
    (s.publish e).published = s.published ++ [e] := rfl

@[simp] theorem publish_delivered
    (s : Subscription β)
    (e : β) :
    (s.publish e).delivered = s.delivered := rfl

@[simp] theorem publishAll_nil (s : Subscription β) :
    s.publishAll [] = s := rfl

@[simp] theorem publishAll_cons
    (s : Subscription β)
    (e : β)
    (es : List β) :
    s.publishAll (e :: es) = (s.publish e).publishAll es :=
  rfl

theorem publishAll_append
    (s : Subscription β)
    (es fs : List β) :
    s.publishAll (es ++ fs) =
      (s.publishAll es).publishAll fs := by
  simp [publishAll, List.foldl_append]

@[simp] theorem publishAll_depth
    (s : Subscription β)
    (es : List β) :
    (s.publishAll es).depth = s.depth := by
  induction es generalizing s with
  | nil => rfl
  | cons e es ih => simp [ih]

theorem publish_queue_of_room
    {s : Subscription β}
    (hRoom : s.queue.length < s.depth)
    (e : β) :
    (s.publish e).queue = s.queue ++ [e] := by
  have hNone : s.queue.length + 1 - s.depth = 0 := by
    omega
  simp [publish, hNone]

theorem publish_queue_length
    (s : Subscription β)
    (e : β) :
    (s.publish e).queue.length =
      min (s.queue.length + 1) s.depth := by
  simp only [publish, List.length_drop, List.length_append,
    List.length_singleton]
  omega

/- Publishing keeps the subscription within its depth. -/
theorem bounded_publish
    (s : Subscription β)
    (e : β) :
    Bounded (s.publish e) := by
  simp only [Bounded, publish_queue_length, publish_depth]
  omega

theorem bounded_publishAll
    {s : Subscription β}
    (hBounded : Bounded s)
    (es : List β) :
    Bounded (s.publishAll es) := by
  induction es generalizing s with
  | nil => exact hBounded
  | cons e es ih => exact ih (bounded_publish s e)

/- With room left nothing is displaced. -/
theorem Intact.publish
    {s : Subscription β}
    (hIntact : Intact s)
    (hRoom : s.queue.length < s.depth)
    (e : β) :
    Intact (s.publish e) := by
  rw [Intact, publish_queue_of_room hRoom]
  simp only [publish_published, publish_delivered]
  rw [hIntact, List.append_assoc]

/- A message published into a full subscription displaces. -/
theorem Intact.short_publish
    {s : Subscription β}
    (hIntact : Intact s)
    (hFull : s.depth ≤ s.queue.length)
    (e : β) :
    Short (s.publish e) := by
  have hLength := congrArg List.length hIntact
  rw [List.length_append] at hLength
  simp only [Short, publish_queue_length, publish_published,
    publish_delivered, List.length_append,
    List.length_singleton]
  omega

/- A displaced message never comes back. -/
theorem Short.publish
    {s : Subscription β}
    (hShort : Short s)
    (e : β) :
    Short (s.publish e) := by
  simp only [Short, publish_queue_length, publish_published,
    publish_delivered, List.length_append,
    List.length_singleton] at *
  omega

theorem Short.publishAll
    {s : Subscription β}
    (hShort : Short s)
    (es : List β) :
    Short (s.publishAll es) := by
  induction es generalizing s with
  | nil => exact hShort
  | cons e es ih => exact ih (hShort.publish e)

theorem not_intact_of_short
    {s : Subscription β}
    (hShort : Short s) :
    ¬ Intact s := by
  intro hIntact
  have hLength := congrArg List.length hIntact
  rw [List.length_append] at hLength
  simp only [Short] at hShort
  omega

/-
  A burst passes without loss exactly when it fits into the
  room left, and it displaces a message otherwise.
-/
theorem intact_or_short_publishAll
    {s : Subscription β}
    (hIntact : Intact s)
    (hBounded : Bounded s)
    (es : List β) :
    (s.queue.length + es.length ≤ s.depth ∧
        Intact (s.publishAll es)) ∨
      (s.depth < s.queue.length + es.length ∧
        Short (s.publishAll es)) := by
  induction es generalizing s with
  | nil => exact Or.inl ⟨hBounded, hIntact⟩
  | cons e es ih =>
      by_cases hRoom : s.queue.length < s.depth
      · have hLength := publish_queue_length s e
        rcases ih (hIntact.publish hRoom e)
            (bounded_publish s e) with
          ⟨hFits, hKept⟩ | ⟨hOver, hLost⟩
        · left
          refine ⟨?_, hKept⟩
          simp only [publish_depth] at hFits
          simp only [List.length_cons]
          omega
        · right
          refine ⟨?_, hLost⟩
          simp only [publish_depth] at hOver
          simp only [List.length_cons]
          omega
      · right
        refine ⟨?_, ?_⟩
        · simp only [List.length_cons]
          omega
        · exact (hIntact.short_publish (by omega) e).publishAll
            es

theorem intact_publishAll_iff
    {s : Subscription β}
    (hIntact : Intact s)
    (hBounded : Bounded s)
    (es : List β) :
    Intact (s.publishAll es) ↔
      s.queue.length + es.length ≤ s.depth := by
  rcases intact_or_short_publishAll hIntact hBounded es with
    ⟨hFits, hKept⟩ | ⟨hOver, hLost⟩
  · exact ⟨fun _ => hFits, fun _ => hKept⟩
  · constructor
    · intro hKept
      exact absurd hKept (not_intact_of_short hLost)
    · intro hFits
      omega

end KeepLast

------------------------------------------------------------
-- Delivering
------------------------------------------------------------

namespace KeepLast

open Subscription

variable {β : Type}
variable {s t : Subscription β}

theorem deliver_eq_some_iff :
    s.deliver = some t ↔
      ∃ e rest, s.queue = e :: rest ∧
        t = { s with
              queue := rest
              delivered := s.delivered ++ [e] } := by
  unfold deliver
  cases hQueue : s.queue with
  | nil => simp
  | cons e rest => simp [eq_comm]

theorem Intact.deliver
    (hIntact : Intact s)
    (hStep : s.deliver = some t) :
    Intact t := by
  rcases deliver_eq_some_iff.mp hStep with
    ⟨e, rest, hQueue, rfl⟩
  rw [Intact, hQueue] at hIntact
  simp [Intact, hIntact]

theorem Short.deliver
    (hShort : Short s)
    (hStep : s.deliver = some t) :
    Short t := by
  rcases deliver_eq_some_iff.mp hStep with
    ⟨e, rest, hQueue, rfl⟩
  simp only [Short, hQueue, List.length_cons,
    List.length_append, List.length_nil] at *
  omega

theorem Bounded.deliver
    (hBounded : Bounded s)
    (hStep : s.deliver = some t) :
    Bounded t := by
  rcases deliver_eq_some_iff.mp hStep with
    ⟨e, rest, hQueue, rfl⟩
  simp only [Bounded, hQueue, List.length_cons] at *
  omega

end KeepLast

------------------------------------------------------------
-- Order
------------------------------------------------------------

namespace KeepLast

open Subscription

variable {β : Type}
variable {s t : Subscription β}

/- What was delivered or waits was published in this order. -/
def InOrder (s : Subscription β) : Prop :=
  (s.delivered ++ s.queue).Sublist s.published

theorem InOrder.publish
    (hInOrder : InOrder s)
    (e : β) :
    InOrder (s.publish e) := by
  unfold InOrder at *
  rw [publish_delivered, publish_published]
  refine List.Sublist.trans ?_ (hInOrder.append_right [e])
  rw [List.append_assoc]
  exact (List.drop_sublist _ _).append_left _

theorem InOrder.publishAll
    (hInOrder : InOrder s)
    (es : List β) :
    InOrder (s.publishAll es) := by
  induction es generalizing s with
  | nil => exact hInOrder
  | cons e es ih =>
      rw [publishAll_cons]
      exact ih (hInOrder.publish e)

theorem InOrder.deliver
    (hInOrder : InOrder s)
    (hStep : s.deliver = some t) :
    InOrder t := by
  rcases deliver_eq_some_iff.mp hStep with
    ⟨e, rest, hQueue, rfl⟩
  unfold InOrder at *
  rw [hQueue] at hInOrder
  simpa using hInOrder

@[simp] theorem publishAll_delivered
    (s : Subscription β)
    (es : List β) :
    (s.publishAll es).delivered = s.delivered := by
  induction es generalizing s with
  | nil => exact rfl
  | cons e es ih =>
      rw [publishAll_cons, ih, publish_delivered]

end KeepLast
