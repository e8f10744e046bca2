import FaultInjection.Foundations.DelayQueue
import FaultInjection.Foundations.Outcome
import FaultInjection.Foundations.Transition
import FaultInjection.Core.FaultInjectorBase
import FaultInjection.Messages.Twist

/-
  The injector for velocity commands.

  A command is changed when it arrives. With a delay it is
  queued as changed then and published later as it is.

  Key definitions include:
    * `TwistFaultInjector.onTwist`
    * `TwistFaultInjector.flushDelayed`
    * `TwistFaultInjector.perform`
    * `TwistFaultInjector.StopTakesHold`

  Key theorems include:
    * `TwistFaultInjector.onTwist_of_stopped`
    * `TwistFaultInjector.QueueStopped.step`
    * `TwistFaultInjector.force_stop_stops`
    * `TwistFaultInjector.queued_command_escapes`
-/

------------------------------------------------------------
-- Injector State
------------------------------------------------------------

/- The injector with its delay queue and its last command. -/
structure TwistFaultInjector where
  base : FaultInjectorBase
  delayed : List (DelayQueue.Delayed Twist) := []
  lastCommand : Option Twist := none
  lastCommandTime : Int := 0
deriving DecidableEq

namespace TwistFaultInjector

open DelayQueue NumberText Transition

------------------------------------------------------------
-- Callbacks
------------------------------------------------------------

/- The product of the fallback and all configured values. -/
def activeProductDouble
    (h : HashOrder String)
    (base : FaultInjectorBase)
    (key : String)
    (fallback : Number) : Except Errc Number :=
  base.foldActive h
    (fun value fault =>
      match fault.config.find? key with
      | none => .ok value
      | some text => do return value.mul (← stod text))
    fallback

def staleReplayEnabled
    (h : HashOrder String)
    (base : FaultInjectorBase) : Except Errc Bool :=
  base.activeBool h "stale_replay_enabled" false

/- The duration in milliseconds. -/
def staleReplayDuration
    (h : HashOrder String)
    (base : FaultInjectorBase) : Except Errc Int :=
  base.activeMaxInt h "stale_replay_duration_ms" 500

def applyScale
    (h : HashOrder String)
    (base : FaultInjectorBase)
    (msg : Twist) : Except Errc Twist := do
  let linearX ←
    activeProductDouble h base "linear_x_scale" .one
  let angularZ ←
    activeProductDouble h base "angular_z_scale" .one
  let linear :=
    { msg.linear with x := msg.linear.x.mul linearX }
  let angular :=
    { msg.angular with z := msg.angular.z.mul angularZ }
  return { linear := linear, angular := angular }

/- A bound that is set, and so not negative, is applied. -/
def clampTo
    (bound value : Number) : Number :=
  if Number.zero.le bound then
    value.clamp bound.neg bound
  else
    value

def applyClamp
    (h : HashOrder String)
    (base : FaultInjectorBase)
    (msg : Twist) : Except Errc Twist := do
  let maxLinearX ←
    base.activeMaxDouble h "max_linear_x" (.finite (-1))
  let maxAngularZ ←
    base.activeMaxDouble h "max_angular_z" (.finite (-1))
  let linear :=
    { msg.linear with x := clampTo maxLinearX msg.linear.x }
  let angular :=
    { msg.angular with
      z := clampTo maxAngularZ msg.angular.z }
  return { linear := linear, angular := angular }

def applyForceStop
    (h : HashOrder String)
    (base : FaultInjectorBase)
    (msg : Twist) : Except Errc Twist := do
  if ← base.activeBool h "force_stop" false then
    return {}
  else
    return msg

/-
  The command to start from: the last one while it may be
  replayed, else the new one, which is then remembered.
-/
def replayOrRemember
    (h : HashOrder String)
    (now : Int)
    (msg : Twist)
    (s : TwistFaultInjector) :
    Except Errc (Twist × TwistFaultInjector) := do
  let remembered :=
    { s with
      lastCommand := some msg
      lastCommandTime := now }
  match ← staleReplayEnabled h s.base, s.lastCommand with
  | true, some last =>
      let maxAge ← staleReplayDuration h s.base
      if now - s.lastCommandTime ≤ maxAge * 10 ^ 6 then
        return (last, s)
      else
        return (msg, remembered)
  | _, _ => return (msg, remembered)

/-
  A command arrives; the draw is the next random number. The
  result tells what is published at once.
-/
def onTwist
    (h : HashOrder String)
    (draw : ℚ)
    (now : Int)
    (msg : Twist)
    (s : TwistFaultInjector) :
    Except Errc (TwistFaultInjector × List Twist) := do
  if ← s.base.shouldDrop h draw then
    return (s, [])
  else
    let (chosen, remembered) ← replayOrRemember h now msg s
    let scaled ← applyScale h s.base chosen
    let clamped ← applyClamp h s.base scaled
    let out ← applyForceStop h s.base clamped
    let delay ← s.base.activeDelay h
    if 0 < delay then
      let entry : Delayed Twist :=
        { msg := out, releaseTime := now + delay * 10 ^ 6 }
      let queue := remembered.delayed ++ [entry]
      return ({ remembered with delayed := queue }, [])
    else
      return (remembered, [out])

def flushDelayed
    (now : Int)
    (s : TwistFaultInjector) :
    TwistFaultInjector × List Twist :=
  ({ s with delayed := rest now s.delayed },
    due now s.delayed)

------------------------------------------------------------
-- Runs
------------------------------------------------------------

/- What scheduler, services and reload do to the faults. -/
inductive FaultChange where
| activate : String → FaultChange
| deactivate : String → FaultChange
| setConfigValue : String → String → String → FaultChange
| add : FaultConfig → FaultChange
| clear : FaultChange

def FaultChange.apply
    (base : FaultInjectorBase) :
    FaultChange → FaultInjectorBase
| .activate faultId => base.activateFault faultId
| .deactivate faultId => base.deactivateFault faultId
| .setConfigValue faultId key value =>
    (base.setFaultConfigValue faultId key value).getD base
| .add fault => base.addFault fault
| .clear => base.clearFaults

/-
  What can happen next. An arriving command comes with the
  order in which the active faults are visited then.
-/
inductive Action where
| arrive : HashOrder String → ℚ → Int → Twist → Action
| flush : Int → Action
| change : FaultChange → Action

/-
  Perform an action; the result tells what it publishes. An
  exception in a callback ends the process.
-/
def perform
    (s : TwistFaultInjector) :
    Action → Option (TwistFaultInjector × List Twist)
| .arrive h draw now msg =>
    match onTwist h draw now msg s with
    | .error _ => none
    | .ok result => some result
| .flush now => some (flushDelayed now s)
| .change faultChange =>
    some ({ s with base := faultChange.apply s.base }, [])

def step
    (s : TwistFaultInjector)
    (a : Action) : Option TwistFaultInjector :=
  (s.perform a).map Prod.fst

/- The commands that an action publishes. -/
def publishes
    (s : TwistFaultInjector)
    (a : Action) : List Twist :=
  match s.perform a with
  | none => []
  | some (_, published) => published

/- A new injector has no faults and nothing queued. -/
def create (config : InjectorConfig) : TwistFaultInjector where
  base := { config := config }

------------------------------------------------------------
-- Force Stop
------------------------------------------------------------

/- Some active fault has `force_stop` set to `true`. -/
def ForcesStop (base : FaultInjectorBase) : Prop :=
  ∃ faultId fault,
    base.isActive faultId = true ∧
      base.getFaultConfig faultId = some fault ∧
        fault.config.find? "force_stop" = some "true"

/- What the action publishes while a stop is forced is zero. -/
def PublishesZero
    (s : TwistFaultInjector)
    (a : Action) : Prop :=
  ForcesStop s.base → ∀ twist ∈ s.publishes a, twist = {}

/- Only zero commands are queued. -/
def QueuesZero (s : TwistFaultInjector) : Prop :=
  ∀ d ∈ s.delayed, d.msg = {}

/-
  Whenever a stop comes into force only zero commands are
  queued. Whenever a command arrives while it is in force,
  the first active fault that sets `force_stop` sets `true`.
-/
def StopTakesHold (s : TwistFaultInjector) : Action → Prop
| .arrive h _ _ _ =>
    ForcesStop s.base →
      (s.base.activeTexts h "force_stop").head? =
        some "true"
| .flush _ => True
| .change faultChange =>
    ForcesStop (faultChange.apply s.base) → s.QueuesZero

/- While a stop is in force only zero commands are queued. -/
def QueueStopped (s : TwistFaultInjector) : Prop :=
  ForcesStop s.base → s.QueuesZero

theorem forcesStop_iff
    {h : HashOrder String}
    {base : FaultInjectorBase} :
    ForcesStop base ↔
      "true" ∈ base.activeTexts h "force_stop" :=
  FaultInjectorBase.mem_activeTexts_iff.symm

instance (base : FaultInjectorBase) :
    Decidable (ForcesStop base) :=
  decidable_of_iff _ (forcesStop_iff (h := .insertion)).symm

instance (s : TwistFaultInjector) :
    Decidable s.QueuesZero :=
  inferInstanceAs (Decidable (∀ d ∈ s.delayed, d.msg = {}))

instance (s : TwistFaultInjector) (a : Action) :
    Decidable (PublishesZero s a) :=
  inferInstanceAs (Decidable (_ → _))

instance (s : TwistFaultInjector) :
    ∀ a, Decidable (StopTakesHold s a)
| .arrive _ _ _ _ => inferInstanceAs (Decidable (_ → _))
| .flush _ => isTrue True.intro
| .change _ => inferInstanceAs (Decidable (_ → _))

------------------------------------------------------------
-- Arriving Commands
------------------------------------------------------------

section OnTwist

variable {h : HashOrder String}
variable {draw : ℚ}
variable {now : Int}
variable {msg : Twist}
variable {s t : TwistFaultInjector}
variable {published : List Twist}

/- Choosing a command leaves faults and queue alone. -/
theorem replayOrRemember_frame
    {chosen : Twist}
    (hChoose :
      replayOrRemember h now msg s = .ok (chosen, t)) :
    t.base = s.base ∧ t.delayed = s.delayed := by
  unfold replayOrRemember at hChoose
  rcases Except.bind_eq_ok_iff.mp hChoose with
    ⟨enabled, _, hRest⟩
  split at hRest
  · rcases Except.bind_eq_ok_iff.mp hRest with
      ⟨maxAge, _, hPick⟩
    split at hPick
    · cases hPick
      exact ⟨rfl, rfl⟩
    · cases hPick
      exact ⟨rfl, rfl⟩
  · cases hRest
    exact ⟨rfl, rfl⟩

/-
  A command that arrives is dropped, or it is published or
  queued in its final form.
-/
theorem onTwist_cases
    (hArrive :
      onTwist h draw now msg s = .ok (t, published)) :
    t.base = s.base ∧
      ((t.delayed = s.delayed ∧ published = []) ∨
        ∃ clamped out,
          applyForceStop h s.base clamped = .ok out ∧
            ((t.delayed = s.delayed ∧ published = [out]) ∨
              ∃ releaseTime,
                t.delayed = s.delayed ++ [⟨out, releaseTime⟩] ∧
                  published = [])) := by
  unfold onTwist at hArrive
  rcases Except.bind_eq_ok_iff.mp hArrive with
    ⟨drop, _, hKept⟩
  cases drop with
  | true =>
      cases hKept
      exact ⟨rfl, .inl ⟨rfl, rfl⟩⟩
  | false =>
      rcases Except.bind_eq_ok_iff.mp hKept with
        ⟨⟨chosen, remembered⟩, hChoose, hChosen⟩
      rcases Except.bind_eq_ok_iff.mp hChosen with
        ⟨scaled, _, hScaled⟩
      rcases Except.bind_eq_ok_iff.mp hScaled with
        ⟨clamped, _, hClamped⟩
      rcases Except.bind_eq_ok_iff.mp hClamped with
        ⟨out, hOut, hStopped⟩
      rcases Except.bind_eq_ok_iff.mp hStopped with
        ⟨delay, _, hDelayed⟩
      have hFrame := replayOrRemember_frame hChoose
      split at hDelayed
      · cases hDelayed
        refine ⟨hFrame.1, .inr ⟨clamped, out, hOut, .inr ?_⟩⟩
        exact ⟨_, by rw [hFrame.2], rfl⟩
      · cases hDelayed
        exact ⟨hFrame.1,
          .inr ⟨clamped, out, hOut, .inl ⟨hFrame.2, rfl⟩⟩⟩

/- The first active `force_stop` decides. -/
theorem applyForceStop_eq
    {text : String}
    {out : Twist}
    (hFirst :
      (s.base.activeTexts h "force_stop").head? = some text)
    (hOut : applyForceStop h s.base msg = .ok out) :
    out = if text = "true" then {} else msg := by
  unfold applyForceStop at hOut
  rcases Except.bind_eq_ok_iff.mp hOut with
    ⟨value, hRead, hChosen⟩
  have hValue :=
    FaultInjectorBase.activeBool_eq_of_head? hFirst hRead
  subst hValue
  by_cases hTrue : text = "true"
  · rw [if_pos hTrue]
    rw [if_pos (decide_eq_true hTrue)] at hChosen
    cases hChosen
    rfl
  · rw [if_neg hTrue]
    rw [if_neg (by simpa using hTrue)] at hChosen
    cases hChosen
    rfl

/-
  While the first active `force_stop` is `true`, an arriving
  command adds only zero commands.
-/
theorem onTwist_of_stopped
    (hFirst :
      (s.base.activeTexts h "force_stop").head? =
        some "true")
    (hArrive :
      onTwist h draw now msg s = .ok (t, published)) :
    (s.QueuesZero → t.QueuesZero) ∧
      ∀ twist ∈ published, twist = {} := by
  rcases onTwist_cases hArrive with
    ⟨_, ⟨hQueue, hNone⟩ | ⟨clamped, out, hOut, hRest⟩⟩
  · unfold QueuesZero
    rw [hQueue, hNone]
    exact ⟨fun hZero => hZero, by simp⟩
  · have hZero : out = {} := by
      rw [applyForceStop_eq hFirst hOut, if_pos rfl]
    unfold QueuesZero
    rcases hRest with ⟨hQueue, hSent⟩ | ⟨time, hQueue, hNone⟩
    · rw [hQueue, hSent]
      exact ⟨fun hAll => hAll, by simp [hZero]⟩
    · rw [hQueue, hNone]
      refine ⟨?_, by simp⟩
      intro hAll d hMember
      rcases List.mem_append.mp hMember with hOld | hNew
      · exact hAll d hOld
      · rw [List.mem_singleton.mp hNew]
        exact hZero

end OnTwist

------------------------------------------------------------
-- Stopped Runs
------------------------------------------------------------

/- A permitted action keeps the queue stopped. -/
theorem QueueStopped.step
    (s : TwistFaultInjector)
    (a : Action)
    (t : TwistFaultInjector)
    (hStopped : s.QueueStopped)
    (hHold : StopTakesHold s a)
    (hStep : step s a = some t) :
    t.QueueStopped := by
  rcases Option.map_eq_some_iff.mp hStep with
    ⟨⟨next, published⟩, hPerform, hNext⟩
  subst hNext
  intro hForce
  cases a with
  | arrive h draw now msg =>
      unfold perform at hPerform
      cases hArrive : onTwist h draw now msg s with
      | error e => simp [hArrive] at hPerform
      | ok result =>
          simp only [hArrive, Option.some.injEq] at hPerform
          subst hPerform
          have hBase := (onTwist_cases hArrive).1
          have hBefore : ForcesStop s.base := hBase ▸ hForce
          exact (onTwist_of_stopped (hHold hBefore)
            hArrive).1 (hStopped hBefore)
  | flush now =>
      cases hPerform
      intro d hMember
      exact hStopped hForce d (mem_of_mem_rest hMember)
  | change faultChange =>
      cases hPerform
      exact hHold hForce

/- With a stopped queue a permitted action publishes zero. -/
theorem QueueStopped.publishesZero
    (s : TwistFaultInjector)
    (a : Action)
    (hStopped : s.QueueStopped)
    (hHold : StopTakesHold s a) :
    PublishesZero s a := by
  intro hForce twist hTwist
  unfold publishes at hTwist
  cases a with
  | arrive h draw now msg =>
      unfold perform at hTwist
      cases hArrive : onTwist h draw now msg s with
      | error e => simp [hArrive] at hTwist
      | ok result =>
          simp only [hArrive] at hTwist
          exact (onTwist_of_stopped (hHold hForce)
            hArrive).2 twist hTwist
  | flush now =>
      rcases mem_of_mem_due hTwist with ⟨d, hMember, hMsg⟩
      rw [← hMsg]
      exact hStopped hForce d hMember
  | change faultChange =>
      simp [perform] at hTwist

/-
  A forced stop stops, provided that it comes into force with
  only zero commands queued and that no earlier active fault
  hides it from an arriving command.
-/
theorem force_stop_stops
    {config : InjectorConfig}
    {actions : List Action}
    (hHold :
      Along step StopTakesHold (create config) actions) :
    Along step PublishesZero (create config) actions := by
  have hInit : (create config).QueueStopped := by
    intro _ d hMember
    simp [create] at hMember
  exact along_of_invariant QueueStopped.step
    QueueStopped.publishesZero hInit hHold

/- A command queued before the stop is published during it. -/
theorem queued_command_escapes
    {s : TwistFaultInjector}
    (hForce : ForcesStop s.base)
    (hQueued : ¬ s.QueuesZero) :
    ∃ now, ¬ PublishesZero s (.flush now) := by
  rcases exists_late s.delayed with ⟨now, hLate⟩
  refine ⟨now, fun hZero => hQueued ?_⟩
  intro d hMember
  have hSent : d.msg ∈ s.publishes (.flush now) := by
    change d.msg ∈ due now s.delayed
    rw [due_eq_map_of_le hLate]
    exact List.mem_map_of_mem hMember
  exact hZero hForce d.msg hSent

end TwistFaultInjector

------------------------------------------------------------
-- A Stop After A Delayed Command
------------------------------------------------------------

namespace TwistFaultInjector.DelayedCommand

open Transition

def config : InjectorConfig where
  id := "cmd_vel"
  type := "twist"

/- A delay of a tenth of a second. -/
def delayFault : FaultConfig where
  id := "delay"
  injectorId := "cmd_vel"
  config := .ofList [("delay_ms", "100")]

def stopFault : FaultConfig where
  id := "stop"
  injectorId := "cmd_vel"
  config := .ofList [("force_stop", "true")]

def forward : Twist where
  linear := { x := .one }

/- The command arrives at time zero and before the stop. -/
def actions : List Action :=
  [ .change (.add delayFault),
    .change (.add stopFault),
    .change (.activate "delay"),
    .arrive .insertion 0 0 forward,
    .change (.activate "stop"),
    .flush 100000000 ]

/- The flush publishes the command while the stop is forced. -/
theorem force_stop_does_not_stop :
    ¬ ∀ config actions,
      Along step PublishesZero (create config) actions := by
  intro hAll
  have hRun := hAll config actions
  revert hRun
  decide +kernel

/- With the stop in force first the queued command is zero. -/
theorem force_stop_stops_when_first :
    Along step PublishesZero (create config)
      [ .change (.add delayFault),
        .change (.add stopFault),
        .change (.activate "stop"),
        .change (.activate "delay"),
        .arrive .insertion 0 0 forward,
        .flush 100000000 ] :=
  force_stop_stops (by decide +kernel)

end TwistFaultInjector.DelayedCommand
