import FaultInjection.Foundations.SleepingServer
import FaultInjection.Injectors.DelayedTopics
import FaultInjection.Injectors.TfFaultInjector

/-
  The injector for transforms on the executor of its node.

  It has no delay queue: its callback sleeps, and with it the
  only thread of the executor. So a delay bounds the rate of
  its output, and what arrives faster is lost in the queue of
  the subscription.

  Key definitions include:
    * `TfFaultInjector`
    * `TfFaultInjector.step`
    * `TfFaultInjector.SleepsAtLeast`

  Key theorems include:
    * `TfFaultInjector.Accounted.step`
    * `TfFaultInjector.delay_limits_rate`
-/

open KeepLast NumberText

------------------------------------------------------------
-- The Injector And Its Executor
------------------------------------------------------------

/-
  The injector with its generator, its subscription and what
  it has published, each with its time in nanoseconds.
-/
structure TfFaultInjector (G : Type) where
  base : FaultInjectorBase
  rng : G
  server : SleepingServer TFMessage
  outputs : List (Int × TFMessage) := []

namespace TfFaultInjector

open Transition
open TwistFaultInjector (FaultChange)

variable {G N : Type}

/-
  What can happen next. Only an arrival can happen while the
  callback sleeps, since the executor has one thread.
-/
inductive Action where
| arrive : Int → TFMessage → Action
| take : HashOrder String → Int → Action
| change : Int → FaultChange → Action

/- The constructor subscribes with the configured depth. -/
def create
    (config : InjectorConfig)
    (topic : TopicEndpointConfig)
    (rng : G)
    (now : Int) : TfFaultInjector G where
  base := { config := config }
  rng := rng
  server :=
    { now := now
      busyUntil := now
      inbox := { depth := topic.qosDepth } }

/-
  The callback for the oldest message: it sleeps for the
  delay in force and then publishes.
-/
def take
    (rand : RandomLibrary G N)
    (tf2 : Tf2)
    (h : HashOrder String)
    (time : Int)
    (s : TfFaultInjector G) : Option (TfFaultInjector G) := do
  let (_, msg) ← s.server.next?
  let ((slept, out), rng) ←
    (tfFaultInjector.onMessage rand tf2 h s.base msg).run s.rng
  let pause := slept.toNat * 10 ^ 6
  let server ← s.server.serve time pause
  some
    { s with
      rng := rng
      server := server
      outputs := s.outputs ++ [(time + (pause : Nat), out)] }

def step
    (rand : RandomLibrary G N)
    (tf2 : Tf2)
    (s : TfFaultInjector G) :
    Action → Option (TfFaultInjector G)
| .arrive time msg =>
    (s.server.arrive time msg).map fun server =>
      { s with server := server }
| .take h time => s.take rand tf2 h time
| .change time faultChange =>
    (s.server.wake time).map fun server =>
      { s with
        base := faultChange.apply s.base
        server := server }

/- What an action brings to the subscription. -/
def Action.arrival? : Action → Option (Int × TFMessage)
| .arrive time msg => some (time, msg)
| _ => none

/- The messages that arrive in a run, with their times. -/
def arrivals (actions : List Action) : List (Int × TFMessage) :=
  actions.filterMap Action.arrival?

theorem arrivals_cons
    (a : Action)
    (actions : List Action) :
    arrivals (a :: actions) =
      a.arrival?.toList ++ arrivals actions := by
  cases a with
  | arrive time msg => rfl
  | take h time => rfl
  | change time faultChange => rfl

theorem arrivals_append
    (first second : List Action) :
    arrivals (first ++ second) =
      arrivals first ++ arrivals second :=
  List.filterMap_append

/- The delay in force is so long, in milliseconds. -/
def SleepsAtLeast
    (delay : Nat)
    (s : TfFaultInjector G) : Action → Prop
| .take h _ =>
    ∀ value ∈ (s.base.activeDelay h).toOption,
      (delay : Int) ≤ value
| _ => True

instance
    (delay : Nat)
    (s : TfFaultInjector G)
    (a : Action) :
    Decidable (SleepsAtLeast delay s a) :=
  match a with
  | .take _ _ => inferInstanceAs (Decidable (∀ v ∈ _, _))
  | .arrive _ _ => inferInstanceAs (Decidable True)
  | .change _ _ => inferInstanceAs (Decidable True)

------------------------------------------------------------
-- Taking A Message
------------------------------------------------------------

section Take

variable {rand : RandomLibrary G N}
variable {tf2 : Tf2}
variable {h : HashOrder String}
variable {s t : TfFaultInjector G}
variable {time : Int}

/- The callback sleeps for the delay that it reads. -/
theorem slept_of_onMessage
    {base : FaultInjectorBase}
    {msg out : TFMessage}
    {g next : G}
    {slept : Int}
    (hRun :
      (tfFaultInjector.onMessage rand tf2 h base msg).run g =
        some ((slept, out), next)) :
    ∃ delay,
      base.activeDelay h = .ok delay ∧ slept = max delay 0 := by
  unfold tfFaultInjector.onMessage at hRun
  rcases twistFaultInjector.run_lift_bind_iff.mp hRun with
    ⟨delay, hDelay, hRest⟩
  rcases Option.bind_eq_some_iff.mp hRest with
    ⟨⟨kept, middle⟩, _, hEnd⟩
  cases hEnd
  refine ⟨delay, hDelay, ?_⟩
  split
  · rename_i hPositive
    exact (max_eq_left hPositive.le).symm
  · rename_i hNot
    exact (max_eq_right (not_lt.mp hNot)).symm

/- What taking a message does to the queue. -/
theorem take_eq_some
    (hTake : s.take rand tf2 h time = some t) :
    ∃ pause out,
      s.server.serve time pause = some t.server ∧
        t.base = s.base ∧
          t.outputs = s.outputs ++ [(time + (pause : Int), out)] ∧
            ∀ delay : Nat,
              SleepsAtLeast delay s (.take h time) →
                delay * 10 ^ 6 ≤ pause := by
  unfold take at hTake
  rcases Option.bind_eq_some_iff.mp hTake with
    ⟨⟨arrivedAt, msg⟩, _, hTake⟩
  rcases Option.bind_eq_some_iff.mp hTake with
    ⟨⟨⟨slept, out⟩, rng⟩, hMessage, hTake⟩
  rcases Option.bind_eq_some_iff.mp hTake with
    ⟨server, hServe, hTake⟩
  cases hTake
  refine
    ⟨slept.toNat * 10 ^ 6, out, hServe, rfl, rfl, ?_⟩
  intro delay hSleeps
  rcases slept_of_onMessage hMessage with
    ⟨value, hValue, hSlept⟩
  have hLong : (delay : Int) ≤ value := by
    apply hSleeps value
    rw [hValue]
    rfl
  have hNat : delay ≤ slept.toNat := by
    omega
  exact Nat.mul_le_mul_right _ hNat

end Take

------------------------------------------------------------
-- Whole Runs
------------------------------------------------------------

/-
  The subscription has received what arrived, and what it
  served was published when the callback was done.
-/
structure Accounted
    (depth : Nat)
    (past : List Action)
    (s : TfFaultInjector G) : Prop where
  sound : s.server.Sound
  depth : s.server.inbox.depth = depth
  published : s.server.inbox.published = arrivals past
  times :
    s.outputs.map Prod.fst = s.server.served.map Served.doneAt

section Runs

variable {rand : RandomLibrary G N}
variable {tf2 : Tf2}
variable {s t u : TfFaultInjector G}
variable {a : Action}
variable {depth : Nat}
variable {past : List Action}

theorem accounted_create
    (config : InjectorConfig)
    (topic : TopicEndpointConfig)
    (rng : G)
    (now : Int) :
    Accounted topic.qosDepth []
      (create config topic rng now) where
  sound :=
    { delivered := rfl
      inOrder := List.Sublist.refl []
      bounded := Nat.zero_le topic.qosDepth
      past := fun _ hEntry => nomatch hEntry
      waited := fun _ hServed => nomatch hServed
      apart := List.isChain_nil
      busy := fun _ hLast => nomatch hLast }
  depth := rfl
  published := rfl
  times := rfl

theorem Accounted.step
    (hAccounted : Accounted depth past s)
    (hStep : s.step rand tf2 a = some t) :
    Accounted depth (past ++ [a]) t := by
  have hPast :
      arrivals (past ++ [a]) =
        arrivals past ++ a.arrival?.toList := by
    rw [arrivals_append, arrivals_cons]
    exact congrArg _ (List.append_nil _)
  cases a with
  | arrive time msg =>
      rcases Option.map_eq_some_iff.mp hStep with
        ⟨server, hArrive, hSame⟩
      subst hSame
      refine ⟨hAccounted.sound.arrive hArrive, ?_, ?_, ?_⟩
      all_goals
        rcases SleepingServer.arrive_eq_some_iff.mp hArrive
          with ⟨_, hServer⟩
        subst hServer
      · exact hAccounted.depth
      · rw [hPast, ← hAccounted.published]
        rfl
      · exact hAccounted.times
  | take h time =>
      rcases take_eq_some hStep with
        ⟨pause, out, hServe, _, hOutputs, _⟩
      rcases SleepingServer.serve_eq_some_iff.mp hServe with
        ⟨_, arrivedAt, item, rest, _, hServer⟩
      refine ⟨hAccounted.sound.serve hServe, ?_, ?_, ?_⟩
      · rw [hServer]
        exact hAccounted.depth
      · rw [hPast, hServer, ← hAccounted.published]
        exact (List.append_nil _).symm
      · rw [hOutputs, hServer, List.map_append,
          List.map_append, hAccounted.times]
        rfl
  | change time faultChange =>
      rcases Option.map_eq_some_iff.mp hStep with
        ⟨server, hWake, hSame⟩
      subst hSame
      rcases SleepingServer.wake_eq_some_iff.mp hWake with
        ⟨_, hServer⟩
      refine ⟨hAccounted.sound.wake hWake, ?_, ?_, ?_⟩
      all_goals subst hServer
      · exact hAccounted.depth
      · rw [hPast, ← hAccounted.published]
        exact (List.append_nil _).symm
      · exact hAccounted.times

theorem accounted_of_run
    {config : InjectorConfig}
    {topic : TopicEndpointConfig}
    {rng : G}
    {now : Int}
    {actions : List Action}
    (hRun :
      run (step rand tf2) (create config topic rng now)
          actions =
        some s) :
    Accounted topic.qosDepth actions s :=
  run_invariant_of_past
    (fun _ _ _ _ _ hAccounted hStep => hAccounted.step hStep)
    (accounted_create config topic rng now) hRun

/- Each step is one of the three things a server can do. -/
theorem since_step
    {pause : Nat}
    {delay served arrived : Nat}
    (hPause : pause = delay * 10 ^ 6)
    (hSince :
      SleepingServer.Since pause s.server t.server served
        arrived)
    (hSleeps : SleepsAtLeast delay t a)
    (hStep : t.step rand tf2 a = some u) :
    ∃ more,
      SleepingServer.Since pause s.server u.server more
        (arrived + a.arrival?.toList.length) := by
  cases a with
  | arrive time msg =>
      rcases Option.map_eq_some_iff.mp hStep with
        ⟨server, hArrive, hSame⟩
      subst hSame
      exact ⟨served, hSince.arrive hArrive⟩
  | take h time =>
      rcases take_eq_some hStep with
        ⟨slept, out, hServe, _, _, hLong⟩
      have hEnough : pause ≤ slept := by
        rw [hPause]
        exact hLong delay hSleeps
      exact ⟨served + 1, hSince.serve hEnough hServe⟩
  | change time faultChange =>
      rcases Option.map_eq_some_iff.mp hStep with
        ⟨server, hWake, hSame⟩
      subst hSame
      exact ⟨served, hSince.wake hWake⟩

theorem since_of_run
    {pause : Nat}
    {delay served arrived : Nat}
    {actions : List Action}
    (hPause : pause = delay * 10 ^ 6)
    (hSince :
      SleepingServer.Since pause s.server t.server served
        arrived)
    (hSleeps :
      Along (step rand tf2) (SleepsAtLeast delay) t actions)
    (hRun : run (step rand tf2) t actions = some u) :
    ∃ more,
      SleepingServer.Since pause s.server u.server more
        (arrived + (arrivals actions).length) := by
  induction actions generalizing t served arrived with
  | nil =>
      cases hRun
      exact ⟨served, hSince⟩
  | cons a actions ih =>
      rcases run_cons_iff.mp hRun with ⟨v, hStep, hRest⟩
      rcases since_step hPause hSince hSleeps.1 hStep with
        ⟨more, hNext⟩
      rcases ih hNext (hSleeps.2 v hStep) hRest with
        ⟨last, hLast⟩
      rw [arrivals_cons, List.length_append, ← Nat.add_assoc]
      exact ⟨last, hLast⟩

/-
  In every run the messages are published in the order of
  their arrival, each after its delay and after the one
  before. While every delay in force is so long, at most one
  message is published for each such time, and if more
  arrive than that and the subscription holds, some of them
  are lost.
-/
theorem delay_limits_rate
    {config : InjectorConfig}
    {topic : TopicEndpointConfig}
    {rng : G}
    {now : Int}
    {before during : List Action}
    {delay : Nat}
    (hBefore :
      run (step rand tf2) (create config topic rng now)
          before =
        some s)
    (hDuring : run (step rand tf2) s during = some t)
    (hSleeps :
      Along (step rand tf2) (SleepsAtLeast delay) s during) :
    ((t.server.served.map fun v => (v.arrivedAt, v.item)) ++
          t.server.inbox.queue).Sublist
        (arrivals (before ++ during)) ∧
      t.outputs.map Prod.fst =
          t.server.served.map Served.doneAt ∧
        (∀ v ∈ t.server.served, v.arrivedAt ≤ v.takenAt) ∧
          t.server.served.IsChain
            (fun a b => a.doneAt ≤ b.takenAt) ∧
            ((t.outputs.length : Int) - s.outputs.length - 1) *
                (delay * 10 ^ 6) ≤
              t.server.now - s.server.now ∧
              (t.server.now - s.server.now +
                    ((topic.qosDepth : Int) + 1) *
                      (delay * 10 ^ 6) <
                  ((arrivals during).length : Int) *
                    (delay * 10 ^ 6) →
                t.server.served.length +
                    t.server.inbox.queue.length <
                  (arrivals (before ++ during)).length) := by
  have hFirst := accounted_of_run hBefore
  have hLast :=
    accounted_of_run (run_append_iff.mpr ⟨s, hBefore, hDuring⟩)
  rcases since_of_run rfl SleepingServer.Since.refl hSleeps
      hDuring with
    ⟨served, hSince⟩
  rw [Nat.zero_add] at hSince
  have hLength :
      ∀ v : TfFaultInjector G, ∀ past,
        Accounted topic.qosDepth past v →
          v.outputs.length = v.server.served.length := by
    intro v past hAccounted
    have hTimes := congrArg List.length hAccounted.times
    rw [List.length_map, List.length_map] at hTimes
    exact hTimes
  have hPause :
      ((delay * 10 ^ 6 : Nat) : Int) = delay * 10 ^ 6 := by
    push_cast
    rfl
  refine
    ⟨?_, hLast.times, hLast.sound.waited, hLast.sound.apart,
      ?_, ?_⟩
  · rw [← hLast.published, ← hLast.sound.delivered]
    exact hLast.sound.inOrder
  · have hServed := SleepingServer.served_le hSince
    have hCount := hSince.servedCount
    rw [hPause] at hServed
    rw [hLength t _ hLast, hLength s _ hFirst, hCount]
    push_cast
    have hSame :
        ((s.server.served.length : Int) + served -
            s.server.served.length - 1) =
          served - 1 := by
      ring
    rw [hSame]
    exact hServed
  · intro hOverload
    have hShort : Short t.server.inbox := by
      apply
        SleepingServer.short_of_overload hFirst.sound
          hLast.sound hSince
      rw [hFirst.depth, hPause]
      exact hOverload
    unfold Short at hShort
    rw [hLast.sound.delivered, List.length_map,
      hLast.published] at hShort
    exact hShort

end Runs

end TfFaultInjector

------------------------------------------------------------
-- A Flooded Injector
------------------------------------------------------------

namespace TfFaultInjector.Flooded

open Transition

def rand : RandomLibrary Unit Unit where
  canonical _ := (0, ())
  newNormal := ()
  standardNormal _ _ := ((0, ()), ())

def tf2 : Tf2 where
  getRPY _ := (.zero, .zero, .zero)
  setRPY _ _ _ := {}
  normalize q := q

def topic : TopicEndpointConfig where
  inputTopic := "tf"
  outputTopic := "tf_faulty"
  qosDepth := 1

def injector : InjectorConfig where
  id := "tf"
  type := "tf"
  topic := some topic

def slow : FaultConfig where
  id := "slow"
  injectorId := "tf"
  config := .ofList [("delay_ms", "100")]

def before : List Action :=
  [.change 0 (.add slow), .change 0 (.activate "slow")]

/- Five messages in four milliseconds. -/
def during : List Action :=
  [ .arrive 0 {}, .take .insertion 0, .arrive 1000000 {},
    .arrive 2000000 {}, .arrive 3000000 {},
    .arrive 4000000 {}, .take .insertion 100000000 ]

def started : TfFaultInjector Unit :=
  create injector topic () 0

def delayed : TfFaultInjector Unit :=
  (run (step rand tf2) started before).getD started

def last : TfFaultInjector Unit :=
  (run (step rand tf2) delayed during).getD started

theorem run_before :
    run (step rand tf2) started before = some delayed := by
  have hSome :
      (run (step rand tf2) started before).isSome = true := by
    decide +kernel
  rcases Option.isSome_iff_exists.mp hSome with ⟨s, hRun⟩
  rw [delayed, hRun, Option.getD_some]

theorem run_during :
    run (step rand tf2) delayed during = some last := by
  have hSome :
      (run (step rand tf2) delayed during).isSome = true := by
    decide +kernel
  rcases Option.isSome_iff_exists.mp hSome with ⟨s, hRun⟩
  rw [last, hRun, Option.getD_some]

theorem some_are_lost :
    last.server.served.length +
        last.server.inbox.queue.length <
      (arrivals (before ++ during)).length := by
  have hSleeps :
      Along (step rand tf2) (SleepsAtLeast 100) delayed
        during := by
    decide +kernel
  have hOverload :
      last.server.now - delayed.server.now +
          ((topic.qosDepth : Int) + 1) * ((100 : Nat) * 10 ^ 6) <
        ((arrivals during).length : Int) *
          ((100 : Nat) * 10 ^ 6) := by
    decide +kernel
  exact
    (delay_limits_rate run_before run_during
      hSleeps).2.2.2.2.2 hOverload

end TfFaultInjector.Flooded
