import FaultInjection.Injectors.TwistFaultInjector

/-
  How old a replayed command can be.

  A command is remembered when it is used as it arrives, and
  only then. While a replay is enabled and the remembered
  command is not too old, an arriving command is replaced by
  it and is not remembered.

  Key definitions include:
    * `TwistFaultInjector.takenAsBase`
    * `TwistFaultInjector.UsedOnArrival`

  Key theorems include:
    * `TwistFaultInjector.onTwist_starts_from`
    * `TwistFaultInjector.lastCommand_used_on_arrival`
    * `TwistFaultInjector.base_is_new_or_fresh`
-/

namespace TwistFaultInjector

open DelayQueue NumberText Transition

------------------------------------------------------------
-- The Command To Start From
------------------------------------------------------------

/-
  The command that an arrival starts from before it is scaled,
  clamped and stopped; none when the arriving one is dropped.
-/
def takenAsBase
    (h : HashOrder String)
    (draw : ℚ)
    (now : Int)
    (msg : Twist)
    (s : TwistFaultInjector) : Except Errc (Option Twist) := do
  if ← s.base.shouldDrop h draw then
    return none
  else
    let (chosen, _) ← replayOrRemember h now msg s
    return some chosen

/- What an arrival publishes or queues for a command. -/
def finish
    (h : HashOrder String)
    (base : FaultInjectorBase)
    (chosen : Twist) : Except Errc Twist := do
  let scaled ← applyScale h base chosen
  let clamped ← applyClamp h base scaled
  applyForceStop h base clamped

section OnTwist

variable {h : HashOrder String}
variable {draw : ℚ}
variable {now : Int}
variable {msg : Twist}
variable {s t : TwistFaultInjector}
variable {published : List Twist}

/- The two ways to choose the command to start from. -/
theorem replayOrRemember_cases
    {chosen : Twist}
    (hChoose :
      replayOrRemember h now msg s = .ok (chosen, t)) :
    (chosen = msg ∧ t.lastCommand = some msg ∧
        t.lastCommandTime = now) ∨
      (t = s ∧ s.lastCommand = some chosen ∧
        staleReplayEnabled h s.base = .ok true ∧
          ∃ maxAge,
            staleReplayDuration h s.base = .ok maxAge ∧
              now - s.lastCommandTime ≤ maxAge * 10 ^ 6) := by
  unfold replayOrRemember at hChoose
  rcases Except.bind_eq_ok_iff.mp hChoose with
    ⟨enabled, hEnabled, hRest⟩
  split at hRest
  · rename_i last hLast
    rcases Except.bind_eq_ok_iff.mp hRest with
      ⟨maxAge, hAge, hPick⟩
    split at hPick
    · rename_i hFresh
      cases hPick
      exact .inr ⟨rfl, hLast, hEnabled, maxAge, hAge, hFresh⟩
    · cases hPick
      exact .inl ⟨rfl, rfl, rfl⟩
  · cases hRest
    exact .inl ⟨rfl, rfl, rfl⟩

/- Without replay the arriving command is used. -/
theorem eq_of_replay_disabled
    {chosen : Twist}
    (hDisabled : staleReplayEnabled h s.base = .ok false)
    (hChoose :
      replayOrRemember h now msg s = .ok (chosen, t)) :
    chosen = msg := by
  rcases replayOrRemember_cases hChoose with
    ⟨hNew, _⟩ | ⟨_, _, hEnabled, _⟩
  · exact hNew
  · rw [hDisabled] at hEnabled
    cases hEnabled

theorem takenAsBase_eq_some_iff
    {base : Twist} :
    takenAsBase h draw now msg s = .ok (some base) ↔
      s.base.shouldDrop h draw = .ok false ∧
        ∃ t, replayOrRemember h now msg s = .ok (base, t) := by
  unfold takenAsBase
  constructor
  · intro hTaken
    rcases Except.bind_eq_ok_iff.mp hTaken with
      ⟨drop, hDrop, hKept⟩
    cases drop with
    | true => cases hKept
    | false =>
        rcases Except.bind_eq_ok_iff.mp hKept with
          ⟨⟨chosen, t⟩, hChoose, hBase⟩
        cases hBase
        exact ⟨hDrop, t, hChoose⟩
  · rintro ⟨hDrop, t, hChoose⟩
    exact
      Except.bind_eq_ok_iff.mpr
        ⟨false, hDrop,
          Except.bind_eq_ok_iff.mpr
            ⟨(base, t), hChoose, rfl⟩⟩

/-
  An arriving command is dropped, or the command it starts
  from is finished and then published or queued. What is
  remembered is what was chosen to be.
-/
theorem onTwist_starts_from
    (hArrive :
      onTwist h draw now msg s = .ok (t, published)) :
    (takenAsBase h draw now msg s = .ok none ∧ t = s ∧
        published = []) ∨
      ∃ base out remembered,
        takenAsBase h draw now msg s = .ok (some base) ∧
          replayOrRemember h now msg s =
            .ok (base, remembered) ∧
          t.lastCommand = remembered.lastCommand ∧
          t.lastCommandTime = remembered.lastCommandTime ∧
          finish h s.base base = .ok out ∧
          ((t.delayed = s.delayed ∧ published = [out]) ∨
            ∃ releaseTime,
              t.delayed = s.delayed ++ [⟨out, releaseTime⟩] ∧
                published = []) := by
  unfold onTwist at hArrive
  rcases Except.bind_eq_ok_iff.mp hArrive with
    ⟨drop, hDrop, hKept⟩
  cases drop with
  | true =>
      cases hKept
      have hNone :
          takenAsBase h draw now msg s = .ok none :=
        Except.bind_eq_ok_iff.mpr ⟨true, hDrop, rfl⟩
      exact .inl ⟨hNone, rfl, rfl⟩
  | false =>
      rcases Except.bind_eq_ok_iff.mp hKept with
        ⟨⟨chosen, remembered⟩, hChoose, hChosen⟩
      rcases Except.bind_eq_ok_iff.mp hChosen with
        ⟨scaled, hScale, hScaled⟩
      rcases Except.bind_eq_ok_iff.mp hScaled with
        ⟨clamped, hClamp, hClamped⟩
      rcases Except.bind_eq_ok_iff.mp hClamped with
        ⟨out, hStop, hStopped⟩
      rcases Except.bind_eq_ok_iff.mp hStopped with
        ⟨delay, _, hSend⟩
      have hTaken :
          takenAsBase h draw now msg s =
            .ok (some chosen) :=
        takenAsBase_eq_some_iff.mpr
          ⟨hDrop, remembered, hChoose⟩
      have hFinish :
          finish h s.base chosen = .ok out :=
        Except.bind_eq_ok_iff.mpr
          ⟨scaled, hScale,
            Except.bind_eq_ok_iff.mpr ⟨clamped, hClamp, hStop⟩⟩
      have hQueue := (replayOrRemember_frame hChoose).2
      refine .inr ⟨chosen, out, remembered, hTaken, hChoose, ?_⟩
      split at hSend
      · cases hSend
        refine
          ⟨rfl, rfl, hFinish,
            .inr ⟨now + delay * 10 ^ 6, ?_, rfl⟩⟩
        rw [← hQueue]
      · cases hSend
        exact ⟨rfl, rfl, hFinish, .inl ⟨hQueue, rfl⟩⟩

end OnTwist

------------------------------------------------------------
-- Runs
------------------------------------------------------------

/- The time that an action reads, if it reads the clock. -/
def Action.reads : Action → Option Int
| .arrive _ _ now _ => some now
| .flush now => some now
| .change _ => none

/- The clock does not go back between the actions. -/
def ClockGoesOn (actions : List Action) : Prop :=
  (actions.filterMap Action.reads).Pairwise (· ≤ ·)

instance (actions : List Action) :
    Decidable (ClockGoesOn actions) :=
  inferInstanceAs (Decidable (List.Pairwise _ _))

/-
  Among the actions of a new injector is an arrival of the
  command at the time, and it started from that command.
-/
def UsedOnArrival
    (config : InjectorConfig)
    (actions : List Action)
    (command : Twist)
    (time : Int) : Prop :=
  ∃ before h draw after s,
    actions = before ++ .arrive h draw time command :: after ∧
      run step (create config) before = some s ∧
      takenAsBase h draw time command s = .ok (some command)

theorem UsedOnArrival.later
    {config : InjectorConfig}
    {actions : List Action}
    {command : Twist}
    {time : Int}
    (hUsed : UsedOnArrival config actions command time)
    (a : Action) :
    UsedOnArrival config (actions ++ [a]) command time := by
  rcases hUsed with ⟨before, h, draw, after, s, hSplit, hRest⟩
  refine ⟨before, h, draw, after ++ [a], s, ?_, hRest⟩
  rw [hSplit, List.append_assoc, List.cons_append]

/- What is remembered was used when it arrived. -/
def RemembersUsed
    (config : InjectorConfig)
    (actions : List Action)
    (s : TwistFaultInjector) : Prop :=
  ∀ last,
    s.lastCommand = some last →
      UsedOnArrival config actions last s.lastCommandTime

theorem RemembersUsed.step
    {config : InjectorConfig}
    (past : List Action)
    (s : TwistFaultInjector)
    (a : Action)
    (t : TwistFaultInjector)
    (hReach : run step (create config) past = some s)
    (hUsed : RemembersUsed config past s)
    (hStep : step s a = some t) :
    RemembersUsed config (past ++ [a]) t := by
  rcases Option.map_eq_some_iff.mp hStep with
    ⟨⟨next, published⟩, hPerform, hNext⟩
  subst hNext
  intro last hLast
  cases a with
  | flush now =>
      cases hPerform
      exact (hUsed last hLast).later _
  | change faultChange =>
      cases hPerform
      exact (hUsed last hLast).later _
  | arrive h draw now msg =>
      unfold perform at hPerform
      cases hArrive : onTwist h draw now msg s with
      | error e => simp [hArrive] at hPerform
      | ok result =>
          simp only [hArrive, Option.some.injEq] at hPerform
          subst hPerform
          rcases onTwist_starts_from hArrive with
            ⟨_, hSame, _⟩ |
              ⟨base, out, remembered, hTaken, hChoose,
                hCommand, hTime, _⟩
          · simp only at hSame hLast ⊢
            rw [hSame] at hLast ⊢
            exact (hUsed last hLast).later _
          · simp only at hCommand hTime hLast ⊢
            rw [hCommand] at hLast
            rw [hTime]
            rcases replayOrRemember_cases hChoose with
              ⟨hNew, hMsg, hNow⟩ | ⟨hSame, _⟩
            · rw [hMsg, Option.some.injEq] at hLast
              subst hLast
              subst hNew
              rw [hNow]
              exact
                ⟨past, h, draw, [], s, rfl, hReach, hTaken⟩
            · subst hSame
              exact (hUsed last hLast).later _

theorem lastCommand_used_on_arrival
    {config : InjectorConfig}
    {actions : List Action}
    {s : TwistFaultInjector}
    (hRun : run step (create config) actions = some s) :
    RemembersUsed config actions s :=
  run_invariant_of_past RemembersUsed.step
    (fun _ hLast => nomatch hLast) hRun

/- An arrival of the past lies before the present. -/
theorem UsedOnArrival.time_le
    {config : InjectorConfig}
    {actions : List Action}
    {command msg : Twist}
    {time now : Int}
    {h : HashOrder String}
    {draw : ℚ}
    (hUsed : UsedOnArrival config actions command time)
    (hClock :
      ClockGoesOn (actions ++ [.arrive h draw now msg])) :
    time ≤ now := by
  rcases hUsed with ⟨before, h', draw', after, s, hSplit, _⟩
  unfold ClockGoesOn at hClock
  rw [List.filterMap_append, List.pairwise_append] at hClock
  refine hClock.2.2 time ?_ now List.mem_cons_self
  refine List.mem_filterMap.mpr
    ⟨.arrive h' draw' time command, ?_, rfl⟩
  rw [hSplit]
  exact List.mem_append_right _ List.mem_cons_self

/-
  After any run an arriving command that is not dropped is
  used itself, or the replay is enabled and a command is used
  that arrived no longer ago than the replay may last and was
  used itself then. Without replay it is used itself.
-/
theorem base_is_new_or_fresh
    {config : InjectorConfig}
    {actions : List Action}
    {s : TwistFaultInjector}
    {h : HashOrder String}
    {draw : ℚ}
    {now : Int}
    {msg base : Twist}
    (hRun : run step (create config) actions = some s)
    (hClock :
      ClockGoesOn (actions ++ [.arrive h draw now msg]))
    (hTaken :
      takenAsBase h draw now msg s = .ok (some base)) :
    (base = msg ∨
      staleReplayEnabled h s.base = .ok true ∧
        ∃ maxAge time,
          staleReplayDuration h s.base = .ok maxAge ∧
            UsedOnArrival config actions base time ∧
            time ≤ now ∧
            now - time ≤ maxAge * 10 ^ 6) ∧
      (staleReplayEnabled h s.base = .ok false →
        base = msg) := by
  rcases takenAsBase_eq_some_iff.mp hTaken with
    ⟨_, t, hChoose⟩
  refine ⟨?_, fun hDisabled =>
    eq_of_replay_disabled hDisabled hChoose⟩
  rcases replayOrRemember_cases hChoose with
    ⟨hNew, _⟩ | ⟨_, hLast, hEnabled, maxAge, hAge, hFresh⟩
  · exact .inl hNew
  · have hUsed := lastCommand_used_on_arrival hRun base hLast
    exact
      .inr
        ⟨hEnabled, maxAge, s.lastCommandTime, hAge, hUsed,
          hUsed.time_le hClock, hFresh⟩

------------------------------------------------------------
-- A Replayed Command
------------------------------------------------------------

namespace ReplayedCommand

/- Commands of the last second are replayed. -/
def fault : FaultConfig :=
  { id := "stale"
    injectorId := "cmd_vel"
    config :=
      .ofList
        [ ("stale_replay_enabled", "true"),
          ("stale_replay_duration_ms", "1000") ] }

def forward : Twist :=
  { linear := { x := .one } }

/- The command arrives before the replay is enabled. -/
def actions : List Action :=
  [ .change (.add fault),
    .arrive .insertion 0 0 forward,
    .change (.activate "stale"),
    .flush 10000000 ]

/- A stop after half a second starts from the old command. -/
theorem stop_starts_from_forward :
    ∃ s,
      run step (create { id := "cmd_vel", type := "twist" })
          actions =
        some s ∧
      (forward = {} ∨
        staleReplayEnabled .insertion s.base = .ok true ∧
          ∃ maxAge time,
            staleReplayDuration .insertion s.base =
                .ok maxAge ∧
              UsedOnArrival
                { id := "cmd_vel", type := "twist" }
                actions forward time ∧
              time ≤ 500000000 ∧
              500000000 - time ≤ maxAge * 10 ^ 6) ∧
      (staleReplayEnabled .insertion s.base = .ok false →
        forward = {}) := by
  have hReturns :
      (run step (create { id := "cmd_vel", type := "twist" })
          actions).map
        (takenAsBase .insertion 0 500000000 {}) =
        some (.ok (some forward)) := by
    decide +kernel
  rcases Option.map_eq_some_iff.mp hReturns with
    ⟨s, hRun, hTaken⟩
  exact
    ⟨s, hRun,
      base_is_new_or_fresh hRun (by decide) hTaken⟩

end ReplayedCommand

end TwistFaultInjector
