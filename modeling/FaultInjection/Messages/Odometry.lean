import FaultInjection.Messages.Twist

/-
  The odometry message of a mobile robot.

  Key definitions include:
    * `StdMsgs.Header`
    * `GeometryMsgs.Quaternion`
    * `Odometry`
-/

/- The stamp is in nanoseconds. -/
structure StdMsgs.Header where
  stamp : Int := 0
  frameId : String := ""
deriving DecidableEq

structure GeometryMsgs.Point where
  x : Number := .zero
  y : Number := .zero
  z : Number := .zero
deriving DecidableEq

structure GeometryMsgs.Quaternion where
  x : Number := .zero
  y : Number := .zero
  z : Number := .zero
  w : Number := .one
deriving DecidableEq

structure GeometryMsgs.Pose where
  position : GeometryMsgs.Point := {}
  orientation : GeometryMsgs.Quaternion := {}
deriving DecidableEq

/- The covariance has 36 entries. -/
structure GeometryMsgs.PoseWithCovariance where
  pose : GeometryMsgs.Pose := {}
  covariance : List Number := List.replicate 36 .zero
deriving DecidableEq

/- The covariance has 36 entries. -/
structure GeometryMsgs.TwistWithCovariance where
  twist : Twist := {}
  covariance : List Number := List.replicate 36 .zero
deriving DecidableEq

structure Odometry where
  header : StdMsgs.Header := {}
  childFrameId : String := ""
  pose : GeometryMsgs.PoseWithCovariance := {}
  twist : GeometryMsgs.TwistWithCovariance := {}
deriving DecidableEq
