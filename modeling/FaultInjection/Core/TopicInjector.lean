import FaultInjection.Foundations.Random
import FaultInjection.Injectors.TwistFaultInjector

/-
  What the injectors of topics with a delay queue share.

  A message is dropped, or changed and then published or
  queued. An injector differs from the others in how it
  changes a message and in what it remembers for that.

  Key definitions include:
    * `TopicInjector`
    * `TopicInjector.onMessage`
    * `TopicInjector.flushDelayed`
    * `TopicInjector.step`
    * `TopicInjector.events`

  Key theorems include:
    * `TopicInjector.perform_follows`
    * `TopicInjector.run_follows`
    * `TopicInjector.delay_queue_accounts`
-/

open DelayQueue NumberText

------------------------------------------------------------
-- Injector State
------------------------------------------------------------

/-
  The injector with its generator, its delay queue and what
  else it remembers.
-/
structure TopicInjector (G S M : Type) where
  base : FaultInjectorBase
  rng : G
  memory : S
  delayed : List (Delayed M) := []

/- A computation that throws has no result. -/
instance {G : Type} :
    MonadLift (Except Errc) (StateT G Option) where
  monadLift x := fun g => x.toOption.map fun a => (a, g)

/- The order in which faults are visited, and the time. -/
structure Moment where
  h : HashOrder String
  now : Int

namespace TopicInjector

/-
  How an injector changes a message, with the faults, what it
  remembers and the generator.
-/
abbrev Change (G S M : Type) : Type :=
  Moment → FaultInjectorBase → M → S → Drawing G (M × S)

variable {G N S M : Type}

/- A draw is made only for a positive probability. -/
def shouldDrop
    (rand : RandomLibrary G N)
    (h : HashOrder String)
    (base : FaultInjectorBase) : Drawing G Bool := do
  let probability ←
    base.activeMaxDouble h "drop_probability" .zero
  if probability.le .zero then
    return false
  else
    rand.bernoulli (probability.clamp .zero .one)

------------------------------------------------------------
-- Callbacks
------------------------------------------------------------

/-
  What becomes of a message: none when it is dropped, else
  the changed message with its delay in milliseconds.
-/
def prepare
    (rand : RandomLibrary G N)
    (change : Change G S M)
    (moment : Moment)
    (msg : M)
    (s : TopicInjector G S M) :
    Drawing G (S × Option (M × Int)) := do
  if ← shouldDrop rand moment.h s.base then
    return (s.memory, none)
  else
    let (out, memory) ← change moment s.base msg s.memory
    let delay ← s.base.activeDelay moment.h
    return (memory, some (out, delay))

/- A message with a delay is queued, else published. -/
def send
    (now : Int)
    (out : M)
    (delay : Int)
    (s : TopicInjector G S M) :
    TopicInjector G S M × List M :=
  if 0 < delay then
    let entry : Delayed M :=
      { msg := out, releaseTime := now + delay * 10 ^ 6 }
    ({ s with delayed := s.delayed ++ [entry] }, [])
  else
    (s, [out])

/-
  A message arrives. The result tells what is published at
  once; a callback that throws or hangs has none.
-/
def onMessage
    (rand : RandomLibrary G N)
    (change : Change G S M)
    (moment : Moment)
    (msg : M)
    (s : TopicInjector G S M) :
    Option (TopicInjector G S M × List M) := do
  let ((memory, prepared), rng) ←
    (prepare rand change moment msg s).run s.rng
  let updated := { s with rng := rng, memory := memory }
  match prepared with
  | none => some (updated, [])
  | some (out, delay) =>
      some (send moment.now out delay updated)

def flushDelayed
    (now : Int)
    (s : TopicInjector G S M) :
    TopicInjector G S M × List M :=
  ({ s with delayed := rest now s.delayed },
    due now s.delayed)

------------------------------------------------------------
-- Runs
------------------------------------------------------------

open TwistFaultInjector (FaultChange)

/- What can happen next. -/
inductive Action (M : Type) where
| arrive : Moment → M → Action M
| flush : Int → Action M
| change : FaultChange → Action M

/- The time at which the action reads the clock. -/
def Action.now : Action M → Int
| .arrive moment _ => moment.now
| .flush now => now
| .change _ => 0

/- Perform an action; the result tells what it publishes. -/
def perform
    (rand : RandomLibrary G N)
    (change : Change G S M)
    (s : TopicInjector G S M) :
    Action M → Option (TopicInjector G S M × List M)
| .arrive moment msg => onMessage rand change moment msg s
| .flush now => some (flushDelayed now s)
| .change faultChange =>
    some ({ s with base := faultChange.apply s.base }, [])

def step
    (rand : RandomLibrary G N)
    (change : Change G S M)
    (s : TopicInjector G S M)
    (a : Action M) : Option (TopicInjector G S M) :=
  (s.perform rand change a).map Prod.fst

/- The messages that an action publishes, with the time. -/
def publishes
    (rand : RandomLibrary G N)
    (change : Change G S M)
    (s : TopicInjector G S M)
    (a : Action M) : List (Published M) :=
  ((s.perform rand change a).elim [] Prod.snd).map fun msg =>
    ⟨msg, a.now⟩

/-
  A prepared message that is not dropped is accepted with its
  delay in nanoseconds.
-/
def arrival
    (now : Int) : Option (M × Int) → DelayQueue.Event M
| some (out, delay) => .accept out now (delay * 10 ^ 6)
| none => .idle

/- What an action is for the queue. -/
def event
    (rand : RandomLibrary G N)
    (change : Change G S M)
    (s : TopicInjector G S M) : Action M → DelayQueue.Event M
| .arrive moment msg =>
    ((prepare rand change moment msg s).run s.rng).elim .idle
      fun result => arrival moment.now result.1.2
| .flush now => .flush now
| .change _ => .idle

/- A new injector has no faults and nothing queued. -/
def create
    (config : InjectorConfig)
    (rng : G)
    (memory : S) : TopicInjector G S M where
  base := { config := config }
  rng := rng
  memory := memory

------------------------------------------------------------
-- Accounts
------------------------------------------------------------

section Accounts

open Transition

variable {rand : RandomLibrary G N}
variable {change : Change G S M}
variable {s t : TopicInjector G S M}

/- Sending is accepting with the delay in nanoseconds. -/
theorem send_follows
    (now : Int)
    (out : M)
    (delay : Int)
    (s : TopicInjector G S M) :
    ((send now out delay s).2.map fun msg => ⟨msg, now⟩) =
        (DelayQueue.Event.accept out now
          (delay * 10 ^ 6)).published s.delayed ∧
      (send now out delay s).1.delayed =
        (DelayQueue.Event.accept out now
          (delay * 10 ^ 6)).next s.delayed := by
  unfold send Event.published Event.next
  by_cases hDelay : 0 < delay
  · simp [hDelay]
  · simp [hDelay]

/- An action does to the queue what its event says. -/
theorem perform_follows
    {a : Action M}
    (hStep : step rand change s a = some t) :
    publishes rand change s a =
        (event rand change s a).published s.delayed ∧
      t.delayed =
        (event rand change s a).next s.delayed := by
  rcases Option.map_eq_some_iff.mp hStep with
    ⟨⟨next, out⟩, hPerform, hNext⟩
  subst hNext
  unfold publishes
  rw [hPerform]
  cases a with
  | arrive moment msg =>
      rcases Option.bind_eq_some_iff.mp hPerform with
        ⟨⟨⟨memory, prepared⟩, rng⟩, hPrepare, hRest⟩
      simp only [event, hPrepare, Option.elim_some]
      cases prepared with
      | none =>
          cases hRest
          exact ⟨rfl, rfl⟩
      | some kept =>
          rcases kept with ⟨msgOut, delay⟩
          simp only [Option.some.injEq] at hRest
          have hSend :=
            send_follows moment.now msgOut delay
              { s with rng := rng, memory := memory }
          rw [hRest] at hSend
          exact hSend
  | flush now =>
      cases hPerform
      exact ⟨rfl, rfl⟩
  | change faultChange =>
      cases hPerform
      exact ⟨rfl, rfl⟩

/- The events of a run. -/
def events
    (rand : RandomLibrary G N)
    (change : Change G S M)
    (s : TopicInjector G S M)
    (actions : List (Action M)) :
    List (DelayQueue.Event M) :=
  outputs (step rand change)
    (fun s a => [event rand change s a]) s actions

/- The messages that a run publishes. -/
def published
    (rand : RandomLibrary G N)
    (change : Change G S M)
    (s : TopicInjector G S M)
    (actions : List (Action M)) : List (Published M) :=
  outputs (step rand change) (publishes rand change)
    s actions

/- A run does to the queue what its events say. -/
theorem run_follows
    {actions : List (Action M)}
    (hRun : run (step rand change) s actions = some t) :
    published rand change s actions =
        publishedBy s.delayed
          (events rand change s actions) ∧
      t.delayed =
        queueAfter s.delayed
          (events rand change s actions) := by
  induction actions generalizing s with
  | nil =>
      cases hRun
      exact ⟨rfl, rfl⟩
  | cons a actions ih =>
      rcases run_cons_iff.mp hRun with ⟨m, hFirst, hRest⟩
      rcases perform_follows hFirst with ⟨hOut, hQueue⟩
      rcases ih hRest with ⟨hLater, hLast⟩
      rw [hQueue] at hLater hLast
      unfold published events at *
      simp only [outputs, hFirst, Option.elim_some,
        List.singleton_append, publishedBy, queueAfter]
      exact ⟨by rw [hOut, hLater], hLast⟩

/-
  In every run of a new injector the queue loses and
  duplicates nothing, holds every message until its release
  time and keeps the order when no delay shrinks.
-/
theorem delay_queue_accounts
    {config : InjectorConfig}
    {rng : G}
    {memory : S}
    {actions : List (Action M)}
    (hRun :
      run (step rand change) (create config rng memory)
          actions =
        some t) :
    ∃ released,
      Accounts
        (events rand change (create config rng memory)
          actions)
        (published rand change (create config rng memory)
          actions)
        t.delayed released := by
  rcases run_follows hRun with ⟨hPublished, hQueue⟩
  rw [hPublished, hQueue]
  exact ⟨_, run_accounts _⟩

end Accounts

end TopicInjector
