import FaultInjection.Injectors.ReleaseTimes

/-
  How long a message can wait in a delay queue.

  A message can stand behind one that is released later, so
  it may wait longer than the delay in force at its arrival.
  But nothing waits longer than the longest delay that was
  in force at an arrival so far.

  Key definitions include:
    * `TopicInjector.DelayAtMost`

  Key theorems include:
    * `TopicInjector.delay_of_event`
    * `TopicInjector.waits_at_most_longest_delay`
-/

namespace TopicInjector

open DelayQueue Transition

variable {G N S M : Type}

/- At an arrival the active faults delay by so much at most. -/
def DelayAtMost
    (longest : Nat)
    (s : TopicInjector G S M) : Action M → Prop
| .arrive moment _ =>
    ∀ delay ∈ (s.base.activeDelay moment.h).toOption,
      delay ≤ longest
| .flush _ => True
| .change _ => True

instance
    (longest : Nat)
    (s : TopicInjector G S M)
    (a : Action M) :
    Decidable (DelayAtMost longest s a) :=
  match a with
  | .arrive _ _ => inferInstanceAs (Decidable (∀ d ∈ _, _))
  | .flush _ => inferInstanceAs (Decidable True)
  | .change _ => inferInstanceAs (Decidable True)

variable {rand : RandomLibrary G N}
variable {change : Change G S M}
variable {s t : TopicInjector G S M}

/- What is accepted carries the delay of the active faults. -/
theorem delay_of_event
    {moment : Moment}
    {msg out : M}
    {now wait : Int}
    (hEvent :
      event rand change s (.arrive moment msg) =
        .accept out now wait) :
    ∃ delay,
      s.base.activeDelay moment.h = .ok delay ∧
        wait = delay * 10 ^ 6 := by
  cases hPrepare :
      (prepare rand change moment msg s).run s.rng with
  | none =>
      simp only [event, hPrepare, Option.elim_none] at hEvent
      cases hEvent
  | some result =>
      simp only [event, hPrepare, Option.elim_some] at hEvent
      rcases result with ⟨⟨memory, prepared⟩, rng⟩
      rcases Option.bind_eq_some_iff.mp hPrepare with
        ⟨⟨drop, rng₁⟩, _, hPrepare⟩
      cases drop with
      | true =>
          cases hPrepare
          cases hEvent
      | false =>
          rcases Option.bind_eq_some_iff.mp hPrepare with
            ⟨⟨⟨changed, memory'⟩, rng₂⟩, _, hPrepare⟩
          rcases Option.bind_eq_some_iff.mp hPrepare with
            ⟨⟨delay, rng₃⟩, hDelay, hPrepare⟩
          rcases twistFaultInjector.run_lift_iff.mp hDelay
            with ⟨hRead, _⟩
          cases hPrepare
          cases hEvent
          exact ⟨delay, hRead, rfl⟩

/- No arrival is released later than the longest delay. -/
theorem release_of_event
    {a : Action M}
    {longest : Nat}
    {since : Int}
    (hDelay : DelayAtMost longest s a)
    (hSince : ∀ time ∈ a.reads, time ≤ since) :
    ∀ d ∈ (event rand change s a).accepted,
      d.releaseTime ≤ since + longest * 10 ^ 6 := by
  intro d hAccepted
  cases a with
  | flush now => cases hAccepted
  | change faultChange => cases hAccepted
  | arrive moment msg =>
      cases hEvent : event rand change s (.arrive moment msg)
        with
      | flush now =>
          rw [hEvent] at hAccepted
          cases hAccepted
      | idle =>
          rw [hEvent] at hAccepted
          cases hAccepted
      | accept out now wait =>
          rw [hEvent] at hAccepted
          have hNow := now_of_event hEvent
          have hArrived := hSince moment.now rfl
          rcases delay_of_event hEvent with
            ⟨delay, hRead, hWait⟩
          have hLongest : delay ≤ longest := by
            apply hDelay delay
            rw [hRead]
            rfl
          rw [List.mem_singleton.mp hAccepted]
          by_cases hPositive : 0 < wait
          · rw [if_pos hPositive]
            show now + wait ≤ since + longest * 10 ^ 6
            omega
          · rw [if_neg hPositive]
            show now ≤ since + longest * 10 ^ 6
            omega

/- The events of a run in two parts. -/
theorem events_append
    {before after : List (Action M)}
    (hRun : run (step rand change) s before = some t) :
    events rand change s (before ++ after) =
      events rand change s before ++
        events rand change t after := by
  induction before generalizing s with
  | nil =>
      cases hRun
      rfl
  | cons a before ih =>
      rcases run_cons_iff.mp hRun with ⟨m, hFirst, hRest⟩
      have hLater := ih hRest
      unfold events at hLater ⊢
      rw [List.cons_append, outputs, outputs, hFirst,
        Option.elim_some, Option.elim_some, hLater,
        List.append_assoc]

/- What a run accepts is due after the longest delay. -/
theorem release_of_run
    {actions : List (Action M)}
    {longest : Nat}
    {since : Int}
    (hDelays :
      Along (step rand change)
        (fun s a => DelayAtMost longest s a) s actions)
    (hSince :
      ∀ a ∈ actions, ∀ time ∈ a.reads, time ≤ since) :
    ∀ d ∈
        (events rand change s actions).flatMap Event.accepted,
      d.releaseTime ≤ since + longest * 10 ^ 6 := by
  have hReads :
      Along (step rand change)
        (fun _ a => ∀ time ∈ a.reads, time ≤ since) s
        actions :=
    along_of_mem (fun a hA _ => hSince a hA) s
  have hEvents :
      ∀ e ∈ events rand change s actions,
        ∀ d ∈ e.accepted,
          d.releaseTime ≤ since + longest * 10 ^ 6 := by
    refine
      forall_mem_outputs
        (Q := fun e =>
          ∀ d ∈ Event.accepted e,
            d.releaseTime ≤ since + longest * 10 ^ 6)
        ?_ (along_and hDelays hReads)
    intro u a hBoth e hEvent
    rw [List.mem_singleton.mp hEvent]
    exact release_of_event hBoth.1 hBoth.2
  intro d hAccepted
  rcases List.mem_flatMap.mp hAccepted with ⟨e, hEvent, hD⟩
  exact hEvents e hEvent d hD

/-
  A flush that comes the longest delay after a part of a run
  leaves nothing of that part in the queue: what has been
  published is each message that the part accepted, once, and
  the later ones that are not queued, each once; what is still
  queued was accepted since, in its order.
-/
theorem waits_at_most_longest_delay
    {config : InjectorConfig}
    {rng : G}
    {memory : S}
    {before after : List (Action M)}
    {longest : Nat}
    {since now : Int}
    (hDelays :
      Along (step rand change)
        (fun s a => DelayAtMost longest s a)
        (create config rng memory) before)
    (hSince :
      ∀ a ∈ before, ∀ time ∈ a.reads, time ≤ since)
    (hNow : since + longest * 10 ^ 6 ≤ now)
    (hRun :
      run (step rand change) (create config rng memory)
          (before ++ after ++ [.flush now]) =
        some t) :
    ∃ m released later,
      run (step rand change) (create config rng memory)
            before =
          some m ∧
        List.Forall₂
          (fun d p => p.msg = d.msg ∧ d.releaseTime ≤ p.time)
          released
          (published rand change (create config rng memory)
            (before ++ after ++ [.flush now])) ∧
        released.Perm
          ((events rand change (create config rng memory)
              before).flatMap Event.accepted ++
            later) ∧
        (later ++ t.delayed).Perm
          ((events rand change m after).flatMap
            Event.accepted) ∧
        t.delayed.Sublist
          ((events rand change m after).flatMap
            Event.accepted) := by
  rcases run_append_iff.mp hRun with ⟨u, hBoth, hFlush⟩
  rcases run_append_iff.mp hBoth with ⟨m, hBefore, hAfter⟩
  rcases run_follows hRun with ⟨hPublished, hQueue⟩
  have hEvents :
      events rand change (create config rng memory)
          (before ++ after ++ [.flush now]) =
        events rand change (create config rng memory) before ++
            events rand change m after ++
          [.flush now] := by
    rw [events_append hBoth, events_append hBefore]
    rfl
  have hDue :
      ∀ d ∈
          (events rand change (create config rng memory)
            before).flatMap Event.accepted,
        d.releaseTime ≤ now := by
    intro d hAccepted
    exact (release_of_run hDelays hSince d hAccepted).trans hNow
  have hLeft :
      t.delayed.Sublist
        ((events rand change m after).flatMap
          Event.accepted) := by
    rw [hQueue, hEvents]
    exact queueAfter_flush_sublist hDue _
  have hConserved :=
    run_conserves (create (M := M) config rng memory).delayed
      (events rand change (create config rng memory)
        (before ++ after ++ [.flush now]))
  rw [← hQueue, hEvents, List.flatMap_append,
    List.flatMap_append] at hConserved
  have hTogether :
      ((events rand change (create config rng memory)
              before).flatMap Event.accepted ++
            (events rand change m after).flatMap
              Event.accepted).Perm
        (releasedBy (create (M := M) config rng memory).delayed
            (events rand change (create config rng memory)
                before ++
              events rand change m after ++ [.flush now]) ++
          t.delayed) := by
    simpa [create, Event.accepted] using hConserved
  rcases released_of_rest hTogether hLeft with
    ⟨later, hReleased, hLater⟩
  refine
    ⟨m, _, later, hBefore, ?_, hReleased, hLater, hLeft⟩
  rw [hPublished, hEvents]
  exact run_punctual _ _

end TopicInjector

------------------------------------------------------------
-- A Longer Wait
------------------------------------------------------------

namespace ShorterDelay

open TopicInjector Transition

/-
  The message with the shorter delay that got in line behind
  is published a tenth of a second after its arrival.
-/
theorem second_waits_at_most_longest_delay :
    ∃ (t m : TopicInjector Unit Unit Imu),
    ∃ released later,
      run (step rand (imuFaultInjector.change rand)) injector
            (before ++ [second]) =
          some m ∧
        List.Forall₂
          (fun d p =>
            p.msg = d.msg ∧ d.releaseTime ≤ p.time)
          released
          (published rand (imuFaultInjector.change rand)
            injector
            (before ++ [second] ++ [] ++
              [.flush (101 * 10 ^ 6)])) ∧
        released.Perm
          ((events rand (imuFaultInjector.change rand) injector
              (before ++ [second])).flatMap
                DelayQueue.Event.accepted ++
            later) ∧
        (later ++ t.delayed).Perm
          ((events rand (imuFaultInjector.change rand) m
            []).flatMap DelayQueue.Event.accepted) ∧
        t.delayed.Sublist
          ((events rand (imuFaultInjector.change rand) m
            []).flatMap DelayQueue.Event.accepted) := by
  have hReturns :
      (run (step rand (imuFaultInjector.change rand)) injector
        (before ++ [second] ++ [] ++
          [.flush (101 * 10 ^ 6)])).isSome = true := by
    decide +kernel
  have hDelays :
      Along (step rand (imuFaultInjector.change rand))
        (fun s a => DelayAtMost 100 s a) injector
        (before ++ [second]) := by
    decide +kernel
  have hSince :
      ∀ a ∈ before ++ [second],
        ∀ time ∈ a.reads, time ≤ 10 ^ 6 := by
    decide
  rcases Option.isSome_iff_exists.mp hReturns with ⟨t, hRun⟩
  exact
    ⟨t,
      waits_at_most_longest_delay hDelays hSince (by decide)
        hRun⟩

end ShorterDelay
