import FaultInjection.Injectors.ImuFaultInjector
import FaultInjection.Injectors.JointStateFaultInjector
import FaultInjection.Injectors.OdomFaultInjector
import FaultInjection.Injectors.PointCloudFaultInjector
import FaultInjection.Injectors.ScanFaultInjector

/-
  The delay queues of the six topic injectors.

  Key definitions include:
    * `twistFaultInjector.change`
    * `TopicInjector.QueueAccounts`

  Key theorems include:
    * `twistFaultInjector.onTwist_of_onMessage`
    * `TopicInjector.all_delay_queues_account`
-/

open DelayQueue NumberText

------------------------------------------------------------
-- Velocity Commands
------------------------------------------------------------

namespace twistFaultInjector

variable {G N : Type}

/- The last command and its time. -/
abbrev Memory : Type := Option Twist × Int

/- The injector that remembers and replays commands. -/
def remembering
    (base : FaultInjectorBase)
    (memory : Memory) : TwistFaultInjector where
  base := base
  lastCommand := memory.1
  lastCommandTime := memory.2

/- The changes that `on_twist` makes, in order. -/
def change : TopicInjector.Change G Memory Twist :=
  fun moment base msg memory => do
    let (chosen, remembered) ←
      TwistFaultInjector.replayOrRemember moment.h moment.now
        msg (remembering base memory)
    let out ←
      TwistFaultInjector.applyScale moment.h base chosen
    let out ←
      TwistFaultInjector.applyClamp moment.h base out
    let out ←
      TwistFaultInjector.applyForceStop moment.h base out
    return (out,
      (remembered.lastCommand, remembered.lastCommandTime))

end twistFaultInjector

namespace twistFaultInjector

variable {G N : Type}

/- The same injector with the draw left to the caller. -/
def withoutGenerator
    (s : TopicInjector G Memory Twist) :
    TwistFaultInjector where
  base := s.base
  delayed := s.delayed
  lastCommand := s.memory.1
  lastCommandTime := s.memory.2

/- A computation of the source leaves the generator. -/
theorem run_lift_iff
    {A : Type}
    {x : Except Errc A}
    {a : A}
    {g next : G} :
    (liftM x : Drawing G A).run g = some (a, next) ↔
      x = .ok a ∧ next = g := by
  constructor
  · intro hRun
    rcases Option.map_eq_some_iff.mp hRun with
      ⟨value, hValue, hSame⟩
    cases hSame
    exact ⟨Except.toOption_eq_some_iff.mp hValue, rfl⟩
  · intro hRun
    rcases hRun with ⟨hValue, hNext⟩
    subst hValue hNext
    rfl

/- What follows it uses its value. -/
theorem run_lift_bind_iff
    {A B : Type}
    {x : Except Errc A}
    {f : A → Drawing G B}
    {g : G}
    {result : B × G} :
    ((liftM x : Drawing G A) >>= f).run g = some result ↔
      ∃ a, x = .ok a ∧ (f a).run g = some result := by
  constructor
  · intro hRun
    rcases Option.bind_eq_some_iff.mp hRun with
      ⟨⟨a, next⟩, hRead, hRest⟩
    rcases run_lift_iff.mp hRead with ⟨hValue, hNext⟩
    subst hNext
    exact ⟨a, hValue, hRest⟩
  · intro hRun
    rcases hRun with ⟨a, hValue, hRest⟩
    subst hValue
    exact hRest

/- The generator gives the draw that decides on dropping. -/
theorem shouldDrop_of_run
    {rand : RandomLibrary G N}
    {h : HashOrder String}
    {base : FaultInjectorBase}
    {g next : G}
    {drop : Bool}
    (hRun :
      (TopicInjector.shouldDrop rand h base).run g =
        some (drop, next)) :
    base.shouldDrop h (rand.canonical g).1 = .ok drop := by
  unfold TopicInjector.shouldDrop at hRun
  unfold FaultInjectorBase.shouldDrop
  rcases run_lift_bind_iff.mp hRun with
    ⟨probability, hRead, hRest⟩
  refine Except.bind_eq_ok_iff.mpr ⟨probability, hRead, ?_⟩
  by_cases hZero : probability.le .zero = true
  · simp only [hZero, if_true] at hRest ⊢
    cases hRest
    rfl
  · simp only [hZero] at hRest ⊢
    cases hRest
    rfl

/- Choosing a command copies the queue. -/
theorem replayOrRemember_delayed
    {h : HashOrder String}
    {now : Int}
    {msg chosen : Twist}
    {s remembered : TwistFaultInjector}
    (hChoose :
      TwistFaultInjector.replayOrRemember h now msg
          { s with delayed := [] } =
        .ok (chosen, remembered)) :
    TwistFaultInjector.replayOrRemember h now msg s =
      .ok (chosen,
        { remembered with delayed := s.delayed }) := by
  rcases s with ⟨base, delayed, last, time⟩
  unfold TwistFaultInjector.replayOrRemember at *
  rcases Except.bind_eq_ok_iff.mp hChoose with
    ⟨enabled, hEnabled, hRest⟩
  refine Except.bind_eq_ok_iff.mpr ⟨enabled, hEnabled, ?_⟩
  cases enabled with
  | false =>
      cases hRest
      rfl
  | true =>
      cases last with
      | none =>
          cases hRest
          rfl
      | some command =>
          rcases Except.bind_eq_ok_iff.mp hRest with
            ⟨maxAge, hAge, hPick⟩
          refine Except.bind_eq_ok_iff.mpr ⟨maxAge, hAge, ?_⟩
          by_cases hFresh : now - time ≤ maxAge * 10 ^ 6
          · simp only [hFresh, if_true] at hPick ⊢
            cases hPick
            rfl
          · simp only [hFresh, if_false] at hPick ⊢
            cases hPick
            rfl

/-
  With the generator's draw the injector does what it does
  with the generator.
-/
theorem onTwist_of_onMessage
    {rand : RandomLibrary G N}
    {moment : Moment}
    {msg : Twist}
    {s t : TopicInjector G Memory Twist}
    {published : List Twist}
    (hArrive :
      TopicInjector.onMessage rand change moment msg s =
        some (t, published)) :
    TwistFaultInjector.onTwist moment.h
        (rand.canonical s.rng).1 moment.now msg
        (withoutGenerator s) =
      .ok (withoutGenerator t, published) := by
  rcases Option.bind_eq_some_iff.mp hArrive with
    ⟨⟨⟨memory, prepared⟩, rng⟩, hPrepare, hSend⟩
  rcases Option.bind_eq_some_iff.mp hPrepare with
    ⟨⟨drop, rng₁⟩, hDrop, hPrepare⟩
  refine Except.bind_eq_ok_iff.mpr
    ⟨drop, shouldDrop_of_run hDrop, ?_⟩
  cases drop with
  | true =>
      cases hPrepare
      cases hSend
      rfl
  | false =>
      rcases Option.bind_eq_some_iff.mp hPrepare with
        ⟨⟨⟨out, memory'⟩, rng₂⟩, hChange, hPrepare⟩
      rcases Option.bind_eq_some_iff.mp hPrepare with
        ⟨⟨delay, rng₃⟩, hDelay, hPrepare⟩
      cases hPrepare
      rcases run_lift_bind_iff.mp hChange with
        ⟨⟨chosen, remembered⟩, hChoose, hChange⟩
      rcases run_lift_bind_iff.mp hChange with
        ⟨scaled, hScale, hChange⟩
      rcases run_lift_bind_iff.mp hChange with
        ⟨clamped, hClamp, hChange⟩
      rcases run_lift_bind_iff.mp hChange with
        ⟨stopped, hForce, hChange⟩
      cases hChange
      rcases run_lift_iff.mp hDelay with ⟨hRead, hSame⟩
      subst hSame
      have hChosen := replayOrRemember_delayed
        (s := withoutGenerator s) hChoose
      refine Except.bind_eq_ok_iff.mpr ⟨_, hChosen, ?_⟩
      refine Except.bind_eq_ok_iff.mpr ⟨_, hScale, ?_⟩
      refine Except.bind_eq_ok_iff.mpr ⟨_, hClamp, ?_⟩
      refine Except.bind_eq_ok_iff.mpr ⟨_, hForce, ?_⟩
      refine Except.bind_eq_ok_iff.mpr ⟨_, hRead, ?_⟩
      have hBase : remembered.base = s.base :=
        (TwistFaultInjector.replayOrRemember_frame
          hChosen).1
      rcases remembered with ⟨base, queue, last, time⟩
      subst hBase
      simp only [TopicInjector.send] at hSend
      by_cases hPositive : 0 < delay
      · simp only [hPositive, if_true] at hSend ⊢
        cases hSend
        rfl
      · simp only [hPositive, if_false] at hSend ⊢
        cases hSend
        rfl

end twistFaultInjector

------------------------------------------------------------
-- Accounts Of The Six Injectors
------------------------------------------------------------

namespace TopicInjector

open Transition

variable {G N S M : Type}

/-
  In every run of a new injector, with what is accepted and
  what is published, the queue keeps its accounts.
-/
def QueueAccounts
    (rand : RandomLibrary G N)
    (change : Change G S M)
    (memory : S) : Prop :=
  ∀ config rng actions t,
    run (step rand change) (create config rng memory)
        actions =
      some t →
    ∃ released,
      Accounts
        (events rand change (create config rng memory)
          actions)
        (published rand change (create config rng memory)
          actions)
        t.delayed released

theorem queueAccounts
    (rand : RandomLibrary G N)
    (change : Change G S M)
    (memory : S) :
    QueueAccounts rand change memory := by
  intro config rng actions t hRun
  exact delay_queue_accounts hRun

/-
  Each of the six queues loses and duplicates nothing. A new
  velocity injector remembers no command.
-/
theorem all_delay_queues_account
    {K : Type}
    [Field K]
    [LinearOrder K]
    (rand : RandomLibrary G N)
    (tf2 : Tf2)
    (sqrt : Number K → Number K) :
    QueueAccounts rand (odomFaultInjector.change rand tf2)
        () ∧
      QueueAccounts rand (scanFaultInjector.change rand) () ∧
      QueueAccounts rand (jointStateFaultInjector.change rand)
        () ∧
      QueueAccounts rand (imuFaultInjector.change rand) () ∧
      QueueAccounts rand twistFaultInjector.change
        (none, 0) ∧
      QueueAccounts rand
        (pointCloudFaultInjector.change rand sqrt) () := by
  refine ⟨?_, ?_, ?_, ?_, ?_, ?_⟩
  · exact queueAccounts rand _ ()
  · exact queueAccounts rand _ ()
  · exact queueAccounts rand _ ()
  · exact queueAccounts rand _ ()
  · exact queueAccounts rand _ (none, 0)
  · exact queueAccounts rand _ ()

end TopicInjector
