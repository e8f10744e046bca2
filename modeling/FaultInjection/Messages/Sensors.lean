import FaultInjection.Messages.Odometry

/-
  The messages of sensors.

  A point cloud carries the values of its points, so its
  fields do not overlap. The values are rational numbers
  unless another type is given. Points may also be of another
  type, such as the bytes that encode them.

  Key definitions include:
    * `LaserScan`
    * `JointState`
    * `Imu`
    * `PointCloud2`
-/

structure LaserScan where
  header : StdMsgs.Header := {}
  angleMin : Number := .zero
  angleMax : Number := .zero
  angleIncrement : Number := .zero
  timeIncrement : Number := .zero
  scanTime : Number := .zero
  rangeMin : Number := .zero
  rangeMax : Number := .zero
  ranges : List Number := []
  intensities : List Number := []
deriving DecidableEq

structure JointState where
  header : StdMsgs.Header := {}
  name : List String := []
  position : List Number := []
  velocity : List Number := []
  effort : List Number := []
deriving DecidableEq

/- Each covariance has 9 entries. -/
structure Imu where
  header : StdMsgs.Header := {}
  orientation : GeometryMsgs.Quaternion := {}
  orientationCovariance : List Number :=
    List.replicate 9 .zero
  angularVelocity : GeometryMsgs.Vector3 := {}
  angularVelocityCovariance : List Number :=
    List.replicate 9 .zero
  linearAcceleration : GeometryMsgs.Vector3 := {}
  linearAccelerationCovariance : List Number :=
    List.replicate 9 .zero
deriving DecidableEq

/- The datatype of single precision numbers. -/
def PointField.float32 : Nat := 7

structure PointField where
  name : String := ""
  offset : Nat := 0
  datatype : Nat := 0
  count : Nat := 0
deriving DecidableEq

/-
  A point with the values of its single precision fields `x`,
  `y`, `z` and `intensity`, and with all its other bytes. A
  value is meaningless where the cloud has no such field.
-/
structure CloudPoint (K : Type := ℚ) where
  x : Number K
  y : Number K
  z : Number K
  intensity : Number K
  others : List Nat := []
deriving DecidableEq

/- A cloud with points of some type. -/
structure PointCloud (P : Type) where
  header : StdMsgs.Header := {}
  height : Nat := 0
  width : Nat := 0
  fields : List PointField := []
  isBigendian : Bool := false
  pointStep : Nat := 0
  rowStep : Nat := 0
  points : List P := []
  isDense : Bool := false
deriving DecidableEq

/- The same cloud with other points. -/
def PointCloud.mapPoints
    {P Q : Type}
    (f : P → Q)
    (msg : PointCloud P) : PointCloud Q where
  header := msg.header
  height := msg.height
  width := msg.width
  fields := msg.fields
  isBigendian := msg.isBigendian
  pointStep := msg.pointStep
  rowStep := msg.rowStep
  points := msg.points.map f
  isDense := msg.isDense

abbrev PointCloud2 (K : Type := ℚ) : Type :=
  PointCloud (CloudPoint K)
