import FaultInjection.Injectors.DelayedTopics

/-
  Whether a flush releases every message that is due.

  A flush looks at the front of the queue only. A message
  with a short delay that stands behind one with a long delay
  waits for it.

  Key definitions include:
    * `TopicInjector.ClockGoesOn`
    * `TopicInjector.AlwaysReleasesDue`
    * `TopicInjector.NotOvertaking`

  Key theorems include:
    * `TopicInjector.ascending_of_run`
    * `TopicInjector.always_releases_due_iff`
-/

namespace TopicInjector

open DelayQueue Transition

variable {G N S M : Type}

------------------------------------------------------------
-- Clock
------------------------------------------------------------

/- The time that an action reads, if it reads the clock. -/
def Action.reads : Action M → Option Int
| .arrive moment _ => some moment.now
| .flush now => some now
| .change _ => none

/- The clock does not go back between the actions. -/
def ClockGoesOn (actions : List (Action M)) : Prop :=
  (actions.filterMap Action.reads).Pairwise (· ≤ ·)

/- After a flush at the time no queued message is due. -/
def ReleasesDue
    (s : TopicInjector G S M)
    (now : Int) : Prop :=
  ∀ d ∈ (flushDelayed now s).1.delayed, now < d.releaseTime

instance (actions : List (Action M)) :
    Decidable (ClockGoesOn actions) :=
  inferInstanceAs (Decidable (List.Pairwise _ _))

instance (s : TopicInjector G S M) (now : Int) :
    Decidable (ReleasesDue s now) :=
  inferInstanceAs (Decidable (∀ d ∈ _, _))

/-
  Wherever in the run a flush takes place, at whatever time
  the clock can show then, it leaves no message that is due.
-/
def AlwaysReleasesDue
    (rand : RandomLibrary G N)
    (change : Change G S M)
    (s : TopicInjector G S M)
    (actions : List (Action M)) : Prop :=
  ∀ before after t now,
    actions = before ++ after →
      run (step rand change) s before = some t →
        ClockGoesOn (before ++ [.flush now]) →
          ReleasesDue t now

/-
  An arriving message that has to wait is not to be released
  before a message that waits already.
-/
def NotOvertaking
    (rand : RandomLibrary G N)
    (change : Change G S M)
    (s : TopicInjector G S M)
    (a : Action M) : Prop :=
  (event rand change s a).NotOvertaking s.delayed

------------------------------------------------------------
-- Runs
------------------------------------------------------------

variable {rand : RandomLibrary G N}
variable {change : Change G S M}
variable {s t : TopicInjector G S M}
variable {actions : List (Action M)}

/- Without overtaking the release times go up in the queue. -/
theorem ascending_of_run
    (hAscending : Ascending s.delayed)
    (hAlong :
      Along (step rand change) (NotOvertaking rand change) s
        actions)
    (hRun : run (step rand change) s actions = some t) :
    Ascending t.delayed := by
  refine
    run_invariant (I := fun s => Ascending s.delayed) ?_
      hAscending hAlong hRun
  intro s a t hAscending hEvent hStep
  rw [(perform_follows hStep).2]
  exact hAscending.next hEvent

/- Later than all actions so far. -/
theorem clockGoesOn_flush
    {before : List (Action M)}
    {moment : Moment}
    {msg : M}
    (hClock : ClockGoesOn (before ++ [.arrive moment msg]))
    {now : Int}
    (hLater : moment.now ≤ now) :
    ClockGoesOn
      (before ++ [.arrive moment msg] ++ [.flush now]) := by
  unfold ClockGoesOn at hClock ⊢
  rw [List.filterMap_append] at hClock ⊢
  rw [List.filterMap_append, List.pairwise_append]
  refine ⟨hClock, List.pairwise_singleton _ _, ?_⟩
  intro earlier hEarlier last hLast
  rw [List.mem_singleton.mp hLast]
  rcases List.mem_append.mp hEarlier with hBefore | hArrival
  · have hOrder :=
      (List.pairwise_append.mp hClock).2.2 earlier hBefore
        moment.now List.mem_cons_self
    omega
  · rw [List.mem_singleton.mp hArrival]
    exact hLater

/- A message is accepted at the time of its arrival. -/
theorem now_of_event
    {moment : Moment}
    {msg out : M}
    {now delay : Int}
    (hEvent :
      event rand change s (.arrive moment msg) =
        .accept out now delay) :
    moment.now = now := by
  cases hPrepare :
      (prepare rand change moment msg s).run s.rng with
  | none =>
      simp only [event, hPrepare, Option.elim_none] at hEvent
      cases hEvent
  | some result =>
      simp only [event, hPrepare, Option.elim_some] at hEvent
      rcases result with ⟨⟨memory, prepared⟩, rng⟩
      cases prepared with
      | none => cases hEvent
      | some kept =>
          cases hEvent
          rfl

/-
  A message that gets in line behind one to be released later
  is still there after a flush at its own release time.
-/
theorem notOvertaking_of_releasesDue
    {a : Action M}
    (hStep : step rand change s a = some t)
    (hReleases :
      ∀ moment msg now,
        a = .arrive moment msg →
          moment.now ≤ now → ReleasesDue t now) :
    NotOvertaking rand change s a := by
  have hQueue := (perform_follows hStep).2
  unfold NotOvertaking
  cases a with
  | flush now => trivial
  | change faultChange => trivial
  | arrive moment msg =>
      cases hEvent : event rand change s (.arrive moment msg)
        with
      | flush now => trivial
      | idle => trivial
      | accept out now delay =>
          intro hDelay d hMember
          by_contra hLate
          have hArrived := now_of_event hEvent
          have hNext :
              t.delayed =
                s.delayed ++ [⟨out, now + delay⟩] := by
            rw [hQueue, hEvent]
            exact if_pos hDelay
          have hBlocked :=
            mem_rest_of_blocked hMember
              (Int.not_le.mp hLate) ⟨out, now + delay⟩
          rw [← hNext] at hBlocked
          have hReleased :=
            hReleases moment msg (now + delay) rfl (by omega)
              _ hBlocked
          simp at hReleased

/-
  Every flush leaves nothing that is due exactly if no message
  gets in line behind one that is to be released later.
-/
theorem always_releases_due_iff
    {config : InjectorConfig}
    {rng : G}
    {memory : S}
    (hClock : ClockGoesOn actions)
    (hRun :
      run (step rand change) (create config rng memory)
          actions =
        some t) :
    AlwaysReleasesDue rand change (create config rng memory)
        actions ↔
      Along (step rand change) (NotOvertaking rand change)
        (create config rng memory) actions := by
  constructor
  · intro hAlways
    rw [along_iff]
    intro before a after m hSplit hBefore
    rw [hSplit] at hRun hClock
    rcases run_append_iff.mp hRun with ⟨u, hU, hRest⟩
    rw [hBefore, Option.some.injEq] at hU
    subst hU
    rcases run_cons_iff.mp hRest with ⟨next, hStep, _⟩
    have hNext :
        run (step rand change) (create config rng memory)
            (before ++ [a]) =
          some next :=
      run_append_iff.mpr
        ⟨m, hBefore, run_cons_iff.mpr ⟨next, hStep, rfl⟩⟩
    refine notOvertaking_of_releasesDue hStep ?_
    intro moment msg now hArrive hLater
    subst hArrive
    refine hAlways _ after next now ?_ hNext
      (clockGoesOn_flush ?_ hLater)
    · rw [hSplit, List.append_assoc]
      rfl
    · refine hClock.sublist ?_
      refine List.Sublist.filterMap _ ?_
      exact
        List.Sublist.append_left
          (List.singleton_sublist.mpr List.mem_cons_self)
          before
  · intro hAlong before after m now hSplit hBefore _
    rw [hSplit, along_append_iff] at hAlong
    have hStart :
        Ascending
          (create (M := M) config rng memory).delayed :=
      List.Pairwise.nil
    have hAscending :=
      ascending_of_run hStart hAlong.1 hBefore
    exact hAscending.rest_late now

end TopicInjector

------------------------------------------------------------
-- A Shorter Delay
------------------------------------------------------------

namespace ShorterDelay

open TopicInjector Transition

/- A generator without randomness. -/
def rand : RandomLibrary Unit Unit where
  canonical := fun g => (0, g)
  newNormal := ()
  standardNormal := fun state g => ((0, state), g)

/- A fault that delays messages by 100 milliseconds. -/
def fault : FaultConfig :=
  { id := "lag"
    injectorId := "imu"
    config := UnorderedMap.empty.insert "delay_ms" "100" }

def injector : TopicInjector Unit Unit Imu :=
  create { id := "imu", type := "imu" } () ()

/- A message arrives and then the delay is shortened. -/
def before : List (Action Imu) :=
  [ .change (.add fault),
    .change (.activate "lag"),
    .arrive ⟨.insertion, 0⟩ {},
    .change (.setConfigValue "lag" "delay_ms" "10") ]

/- A second message, due after 11 milliseconds. -/
def second : Action Imu :=
  .arrive ⟨.insertion, 10 ^ 6⟩ {}

/- The second message is not released when it is due. -/
theorem second_waits_for_first :
    ClockGoesOn (before ++ [second, .flush (2 * 10 ^ 7)]) ∧
      ¬ AlwaysReleasesDue rand (imuFaultInjector.change rand)
        injector
        (before ++ [second, .flush (2 * 10 ^ 7)]) := by
  refine ⟨by decide, ?_⟩
  intro hAlways
  have hReturns :
      (run (step rand (imuFaultInjector.change rand)) injector
        (before ++ [second])).map
          (fun t => decide (ReleasesDue t (2 * 10 ^ 7))) =
        some false := by
    decide +kernel
  rcases Option.map_eq_some_iff.mp hReturns with
    ⟨t, hRun, hLate⟩
  have hReleases :=
    hAlways (before ++ [second]) [.flush (2 * 10 ^ 7)] t
      (2 * 10 ^ 7) rfl hRun (by decide)
  exact of_decide_eq_false hLate hReleases

/- The exact condition at the first message. -/
theorem always_releases_due_iff_of_one_delay :
    AlwaysReleasesDue rand (imuFaultInjector.change rand)
        injector before ↔
      Along (step rand (imuFaultInjector.change rand))
        (NotOvertaking rand (imuFaultInjector.change rand))
        injector before := by
  have hReturns :
      (run (step rand (imuFaultInjector.change rand))
        injector before).isSome = true := by
    decide +kernel
  rcases Option.isSome_iff_exists.mp hReturns with ⟨t, hRun⟩
  exact always_releases_due_iff (by decide) hRun

end ShorterDelay
