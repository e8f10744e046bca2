import FaultInjection.Messages.Odometry

/-
  The message that carries transforms between frames.

  Key definitions include:
    * `GeometryMsgs.TransformStamped`
    * `TFMessage`
-/

structure GeometryMsgs.Transform where
  translation : GeometryMsgs.Vector3 := {}
  rotation : GeometryMsgs.Quaternion := {}
deriving DecidableEq

structure GeometryMsgs.TransformStamped where
  header : StdMsgs.Header := {}
  childFrameId : String := ""
  transform : GeometryMsgs.Transform := {}
deriving DecidableEq

structure TFMessage where
  transforms : List GeometryMsgs.TransformStamped := []
deriving DecidableEq
