import FaultInjection.Foundations.Number

/-
  The velocity command that is published to a robot.

  Key definitions include:
    * `GeometryMsgs.Vector3`
    * `Twist`
-/

structure GeometryMsgs.Vector3 where
  x : Number := .zero
  y : Number := .zero
  z : Number := .zero
deriving DecidableEq

/- A default constructed command is zero. -/
structure Twist where
  linear : GeometryMsgs.Vector3 := {}
  angular : GeometryMsgs.Vector3 := {}
deriving DecidableEq
