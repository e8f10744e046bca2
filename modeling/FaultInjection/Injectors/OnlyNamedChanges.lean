import FaultInjection.Injectors.NamedPoints
import FaultInjection.Injectors.NamedTransforms

/-
  What the seven topic injectors may change of a message.

  Key definitions include:
    * `twistFaultInjector.Replays`
    * `twistFaultInjector.replaced`

  Key theorems include:
    * `twistFaultInjector.chosen_of_not_replays`
    * `twistFaultInjector.touchesOnlyNamed`
    * `injectors_touch_only_named`
-/

open FaultInjectorBase

------------------------------------------------------------
-- Velocity Commands
------------------------------------------------------------

namespace twistFaultInjector

variable {G N : Type}
variable {h : HashOrder String}
variable {base : FaultInjectorBase}

/- The parts of the message and the keys that name them. -/
def parts : List (KeyedPart String Twist) :=
  [ { keys := ["linear_x_scale", "max_linear_x"]
      value := fun msg => msg.linear.x },
    { keys := []
      value := fun msg => (msg.linear.y, msg.linear.z) },
    { keys := []
      value := fun msg => (msg.angular.x, msg.angular.y) },
    { keys := ["angular_z_scale", "max_angular_z"]
      value := fun msg => msg.angular.z } ]

theorem covers_parts : Covers parts := by
  intro a b hSame
  rcases a with ⟨⟨_, _, _⟩, ⟨_, _, _⟩⟩
  rcases b with ⟨⟨_, _, _⟩, ⟨_, _, _⟩⟩
  simp only [parts, List.forall_mem_cons, Prod.mk.injEq]
    at hSame
  simp only [hSame]

/- Replay is on and the last command is not too old. -/
def Replays
    (moment : Moment)
    (base : FaultInjectorBase)
    (memory : Memory) : Prop :=
  ∃ last maxAge,
    TwistFaultInjector.staleReplayEnabled moment.h base =
        .ok true ∧
      memory.1 = some last ∧
        TwistFaultInjector.staleReplayDuration moment.h base =
            .ok maxAge ∧
          moment.now - memory.2 ≤ maxAge * 10 ^ 6

/- The injector is told to stop the robot. -/
def Stops
    (moment : Moment)
    (base : FaultInjectorBase) : Prop :=
  base.activeBool moment.h "force_stop" false = .ok true

/- A stale command or a stop replaces the whole command. -/
def replaced
    (moment : Moment)
    (base : FaultInjectorBase)
    (memory : Memory) : Prop :=
  Replays moment base memory ∨ Stops moment base

/- Without a replay the new command is the one to change. -/
theorem chosen_of_not_replays
    {moment : Moment}
    {memory : Memory}
    {msg chosen : Twist}
    {remembered : TwistFaultInjector}
    (hFresh : ¬ Replays moment base memory)
    (hChoose :
      TwistFaultInjector.replayOrRemember moment.h moment.now
          msg (remembering base memory) =
        .ok (chosen, remembered)) :
    chosen = msg := by
  unfold TwistFaultInjector.replayOrRemember at hChoose
  rcases Except.bind_eq_ok_iff.mp hChoose with
    ⟨enabled, hEnabled, hRest⟩
  split at hRest
  · rename_i last _ hLast
    rcases Except.bind_eq_ok_iff.mp hRest with
      ⟨maxAge, hMaxAge, hPick⟩
    split at hPick
    · rename_i hYoung
      exact absurd
        ⟨_, maxAge, hEnabled, hLast, hMaxAge, hYoung⟩ hFresh
    · cases hPick
      rfl
  · cases hRest
    rfl

theorem applyScale_framed
    {msg out : Twist}
    (hScale :
      TwistFaultInjector.applyScale h base msg = .ok out) :
    Framed parts base.Sets msg out := by
  unfold TwistFaultInjector.applyScale at hScale
  rcases Except.bind_eq_ok_iff.mp hScale with
    ⟨linearX, hReadX, hRest⟩
  rcases Except.bind_eq_ok_iff.mp hRest with
    ⟨angularZ, hReadZ, hScaled⟩
  have hX :=
    (product_yields h base "linear_x_scale").of_lift hReadX
  have hZ :=
    (product_yields h base "angular_z_scale").of_lift hReadZ
  cases hScaled
  simp +contextual [parts, hX, hZ]

/- A bound that no active fault sets is not applied. -/
@[simp] theorem clampTo_default (value : Number) :
    TwistFaultInjector.clampTo (.finite (-1)) value =
      value := by
  simp [TwistFaultInjector.clampTo, Number.zero]

theorem applyClamp_framed
    {msg out : Twist}
    (hClamp :
      TwistFaultInjector.applyClamp h base msg = .ok out) :
    Framed parts base.Sets msg out := by
  unfold TwistFaultInjector.applyClamp at hClamp
  rcases Except.bind_eq_ok_iff.mp hClamp with
    ⟨maxLinearX, hReadX, hRest⟩
  rcases Except.bind_eq_ok_iff.mp hRest with
    ⟨maxAngularZ, hReadZ, hClamped⟩
  have hX :=
    (max_yields h base "max_linear_x" _).of_lift hReadX
  have hZ :=
    (max_yields h base "max_angular_z" _).of_lift hReadZ
  cases hClamped
  simp +contextual [parts, hX, hZ]

theorem applyForceStop_framed
    {moment : Moment}
    {msg out : Twist}
    (hGoes : ¬ Stops moment base)
    (hForce :
      TwistFaultInjector.applyForceStop moment.h base msg =
        .ok out) :
    Framed parts base.Sets msg out := by
  unfold TwistFaultInjector.applyForceStop at hForce
  rcases Except.bind_eq_ok_iff.mp hForce with
    ⟨stop, hStop, hRest⟩
  cases stop with
  | true => exact absurd hStop hGoes
  | false =>
      cases hRest
      exact Framed.refl msg

/- Without an active fault the command is remembered. -/
theorem replayOrRemember_of_noneActive
    {moment : Moment}
    {memory : Memory}
    (hNone : base.NoneActive)
    (msg : Twist) :
    TwistFaultInjector.replayOrRemember moment.h moment.now
        msg (remembering base memory) =
      .ok (msg,
        { remembering base memory with
          lastCommand := some msg
          lastCommandTime := moment.now }) := by
  have hReplay :
      TwistFaultInjector.staleReplayEnabled moment.h base =
        .ok false :=
    activeBool_of_noneActive hNone _ _ _
  unfold TwistFaultInjector.replayOrRemember remembering
  rw [hReplay]
  rfl

/- It is neither scaled nor clamped nor stopped. -/
theorem applyScale_of_noneActive
    (hNone : base.NoneActive)
    (h : HashOrder String)
    (msg : Twist) :
    TwistFaultInjector.applyScale h base msg = .ok msg := by
  have hProduct :
      ∀ key,
        TwistFaultInjector.activeProductDouble h base key
            .one =
          .ok .one :=
    fun _ => foldActive_of_noneActive hNone _ _ _
  unfold TwistFaultInjector.applyScale
  rw [hProduct, hProduct]
  refine Except.bind_eq_ok_iff.mpr ⟨.one, rfl, ?_⟩
  refine Except.bind_eq_ok_iff.mpr ⟨.one, rfl, ?_⟩
  simp [pure, Except.pure]

theorem applyClamp_of_noneActive
    (hNone : base.NoneActive)
    (h : HashOrder String)
    (msg : Twist) :
    TwistFaultInjector.applyClamp h base msg = .ok msg := by
  have hMax :
      ∀ key,
        base.activeMaxDouble h key (.finite (-1)) =
          .ok (.finite (-1)) :=
    fun _ => foldActive_of_noneActive hNone _ _ _
  unfold TwistFaultInjector.applyClamp
  rw [hMax, hMax]
  refine Except.bind_eq_ok_iff.mpr ⟨_, rfl, ?_⟩
  refine Except.bind_eq_ok_iff.mpr ⟨_, rfl, ?_⟩
  simp [pure, Except.pure]

theorem applyForceStop_of_noneActive
    (hNone : base.NoneActive)
    (h : HashOrder String)
    (msg : Twist) :
    TwistFaultInjector.applyForceStop h base msg =
      .ok msg := by
  unfold TwistFaultInjector.applyForceStop
  rw [activeBool_of_noneActive hNone]
  rfl

/- Without an active fault the command is passed on. -/
theorem change_of_noneActive
    {moment : Moment}
    {memory : Memory}
    (hNone : base.NoneActive)
    (msg : Twist) :
    change moment base msg memory =
      (pure (msg, (some msg, moment.now)) :
        Drawing G (Twist × Memory)) := by
  unfold change
  simp only [replayOrRemember_of_noneActive hNone,
    applyScale_of_noneActive hNone,
    applyClamp_of_noneActive hNone,
    applyForceStop_of_noneActive hNone, liftM_ok, pure_bind]

theorem touchesOnlyNamed
    (rand : RandomLibrary G N) :
    TopicInjector.TouchesOnlyNamed rand change parts
      replaced := by
  refine TopicInjector.touchesOnlyNamed_of_change ?_
    covers_parts ?_
  · intro moment base msg memory hNone
    exact
      ⟨(some msg, moment.now), change_of_noneActive hNone msg⟩
  · intro moment base msg memory hKept
    unfold change
    refine Yields.bind (Yields.lift fun _ hChoose => hChoose) ?_
    intro picked hChoose
    have hChosen :=
      chosen_of_not_replays
        (fun hReplays => hKept (Or.inl hReplays)) hChoose
    refine Yields.bind (Yields.lift fun _ hScale => hScale) ?_
    intro scaled hScale
    refine Yields.bind (Yields.lift fun _ hClamp => hClamp) ?_
    intro clamped hClamp
    refine Yields.bind (Yields.lift fun _ hForce => hForce) ?_
    intro out hForce
    refine Yields.pure ?_
    rw [hChosen] at hScale
    have hGoes : ¬ Stops moment base :=
      fun hStops => hKept (Or.inr hStops)
    exact
      ((applyScale_framed hScale).trans
        (applyClamp_framed hClamp)).trans
        (applyForceStop_framed hGoes hForce)

end twistFaultInjector

------------------------------------------------------------
-- All Topic Injectors
------------------------------------------------------------

section AllInjectors

variable {G N : Type}

/-
  Without an active fault every topic injector publishes what
  it receives and draws nothing. Else it changes only what
  the keys of active faults name, and the intensities of dust
  returns.
-/
theorem injectors_touch_only_named
    {K : Type}
    [Field K]
    [LinearOrder K]
    (rand : RandomLibrary G N)
    (tf2 : Tf2)
    (sqrt : Number K → Number K) :
    TopicInjector.TouchesOnlyNamed rand
        (odomFaultInjector.change rand tf2)
        odomFaultInjector.parts
        TopicInjector.neverReplaced ∧
      TopicInjector.TouchesOnlyNamed rand
        (scanFaultInjector.change rand)
        scanFaultInjector.parts
        TopicInjector.neverReplaced ∧
      TopicInjector.TouchesOnlyNamed rand
        (imuFaultInjector.change rand)
        imuFaultInjector.parts
        TopicInjector.neverReplaced ∧
      TopicInjector.TouchesOnlyNamed rand
        (jointStateFaultInjector.change rand)
        jointStateFaultInjector.parts
        TopicInjector.neverReplaced ∧
      tfFaultInjector.CarriesOnlyNamed rand tf2 ∧
      TopicInjector.TouchesOnlyNamed rand
        twistFaultInjector.change
        twistFaultInjector.parts
        twistFaultInjector.replaced ∧
      TopicInjector.TouchesOnlyNamed rand
        (pointCloudFaultInjector.change rand sqrt)
        (pointCloudFaultInjector.parts
          pointCloudFaultInjector.dimmingKeys)
        TopicInjector.neverReplaced ∧
      pointCloudFaultInjector.DustDims rand sqrt := by
  refine ⟨?_, ?_, ?_, ?_, ?_, ?_, ?_, ?_⟩
  · exact odomFaultInjector.touchesOnlyNamed rand tf2
  · exact scanFaultInjector.touchesOnlyNamed rand
  · exact imuFaultInjector.touchesOnlyNamed rand
  · exact jointStateFaultInjector.touchesOnlyNamed rand
  · exact tfFaultInjector.carriesOnlyNamed rand tf2
  · exact twistFaultInjector.touchesOnlyNamed rand
  · exact pointCloudFaultInjector.touchesOnlyNamed rand sqrt
  · exact pointCloudFaultInjector.dustDims rand sqrt

end AllInjectors
