import AbbWrapper.Protobuf

/-! # The EGM messages and their wrappers

The messages of `egm.proto` (exchanged with the robot controller), of `egm_wrapper.proto` and
of `egm_wrapper_trajectory.proto`, one structure for each message with the fields that the modelled
functions read or write.

* Every `optional` and `required` field is an `Optional` (a `required` field may be unset until the
  message is serialised, see `EgmSensor.isInitialized`), every `repeated double` a list.
* A field that is absent reads as its default, which is that of its type (`Inhabited`).
* Numbers are of an arbitrary type `α`; the integer fields keep their widths.
* Messages that have the same fields share a structure: `EgmFeedBack` and `EgmPlanned`, the three messages
  of states, and `Feedback` and `Planned` of the wrapper.
* The names are those of the `.proto` files.  A message of `egm.proto` keeps its prefix `Egm`, which
  tells it from the message of the wrapper. -/

namespace AbbWrapper

open Protobuf

/-! ### `egm.proto` -/

/-- `EgmHeader::MessageType`. -/
inductive EgmMessageType where
  | undefined | command | data | correction | pathCorrection
deriving DecidableEq, Repr, Inhabited

/-- `EgmHeader`: the number of a message, its time and its type. -/
structure EgmHeader where
  seqno : Optional UInt32 := .absent
  tm : Optional UInt32 := .absent
  mtype : Optional EgmMessageType := .absent
deriving DecidableEq, Repr, Inhabited

/-- `EgmCartesian`, in mm. -/
structure EgmCartesian (α : Type) where
  x : Optional α := .absent
  y : Optional α := .absent
  z : Optional α := .absent
deriving DecidableEq, Repr, Inhabited

/-- `EgmQuaternion`. -/
structure EgmQuaternion (α : Type) where
  u0 : Optional α := .absent
  u1 : Optional α := .absent
  u2 : Optional α := .absent
  u3 : Optional α := .absent
deriving DecidableEq, Repr, Inhabited

/-- `EgmEuler`, in degrees. -/
structure EgmEuler (α : Type) where
  x : Optional α := .absent
  y : Optional α := .absent
  z : Optional α := .absent
deriving DecidableEq, Repr, Inhabited

/-- `EgmClock`: seconds and microseconds. -/
structure EgmClock where
  sec : Optional UInt64 := .absent
  usec : Optional UInt64 := .absent
deriving DecidableEq, Repr, Inhabited

/-- `EgmPose`: an orientation may be given in two ways. -/
structure EgmPose (α : Type) where
  pos : Optional (EgmCartesian α) := .absent
  orient : Optional (EgmQuaternion α) := .absent
  euler : Optional (EgmEuler α) := .absent
deriving DecidableEq, Repr, Inhabited

/-- `EgmCartesianSpeed`: linear and angular velocities in one vector. -/
structure EgmCartesianSpeed (α : Type) where
  value : List α := []
deriving DecidableEq, Repr, Inhabited

/-- `EgmJoints`, in degrees. -/
structure EgmJoints (α : Type) where
  joints : List α := []
deriving DecidableEq, Repr, Inhabited

/-- `EgmPlanned`; the message `EgmFeedBack` has the same four fields. -/
structure EgmPlanned (α : Type) where
  joints : Optional (EgmJoints α) := .absent
  cartesian : Optional (EgmPose α) := .absent
  externalJoints : Optional (EgmJoints α) := .absent
  time : Optional EgmClock := .absent
deriving DecidableEq, Repr, Inhabited

abbrev EgmFeedBack (α : Type) := EgmPlanned α

/-- `EgmSpeedRef`: the velocity references of a reply. -/
structure EgmSpeedRef (α : Type) where
  joints : Optional (EgmJoints α) := .absent
  cartesians : Optional (EgmCartesianSpeed α) := .absent
  externalJoints : Optional (EgmJoints α) := .absent
deriving DecidableEq, Repr, Inhabited

/-- `EgmMotorState::MotorStateType`. -/
inductive MotorStateType where
  | undefined | on | off
deriving DecidableEq, Repr, Inhabited

/-- `EgmMCIState::MCIStateType`: the state of EGM on the robot controller. -/
inductive MCIStateType where
  | undefined | error | stopped | running
deriving DecidableEq, Repr, Inhabited

/-- `EgmRapidCtrlExecState::RapidCtrlExecStateType`. -/
inductive RapidCtrlExecStateType where
  | undefined | stopped | running
deriving DecidableEq, Repr, Inhabited

/-- `EgmMotorState`, `EgmMCIState` and `EgmRapidCtrlExecState`: one required `state`. -/
structure EgmState (τ : Type) where
  state : Optional τ := .absent
deriving DecidableEq, Repr, Inhabited

/-- The message sent by the robot controller (test signals and measured forces are not read). -/
structure EgmRobot (α : Type) where
  header : Optional EgmHeader := .absent
  feedBack : Optional (EgmFeedBack α) := .absent
  planned : Optional (EgmPlanned α) := .absent
  motorState : Optional (EgmState MotorStateType) := .absent
  mciState : Optional (EgmState MCIStateType) := .absent
  mciConvergenceMet : Optional Bool := .absent
  rapidExecState : Optional (EgmState RapidCtrlExecStateType) := .absent
deriving DecidableEq, Repr, Inhabited

/-- The message sent to the robot controller. -/
structure EgmSensor (α : Type) where
  header : Optional EgmHeader := .absent
  planned : Optional (EgmPlanned α) := .absent
  speedRef : Optional (EgmSpeedRef α) := .absent
deriving DecidableEq, Repr, Inhabited

/-! ### `egm_wrapper.proto` -/

/-- `Header::MessageType`. -/
inductive HeaderMessageType where
  | undefined | data
deriving DecidableEq, Repr, Inhabited

/-- `Header` of the inputs. -/
structure Header where
  sequenceNumber : Optional UInt32 := .absent
  timeStamp : Optional UInt32 := .absent
  messageType : Optional HeaderMessageType := .absent
deriving DecidableEq, Repr, Inhabited

/-- The three state enumerations of the wrapper have the values of those of `egm.proto`. -/
structure Status where
  egmConvergenceMet : Optional Bool := .absent
  egmState : Optional MCIStateType := .absent
  motorState : Optional MotorStateType := .absent
  rapidExecutionState : Optional RapidCtrlExecStateType := .absent
deriving DecidableEq, Repr, Inhabited

/-- `Clock`: seconds and microseconds. -/
structure Clock where
  sec : Optional UInt64 := .absent
  usec : Optional UInt64 := .absent
deriving DecidableEq, Repr, Inhabited

/-- `Joints`: values of joints, as many as there are in the list. -/
structure Joints (α : Type) where
  values : List α := []
deriving DecidableEq, Repr, Inhabited

/-- `JointSpace`, in degrees and degrees per second. -/
structure JointSpace (α : Type) where
  position : Optional (Joints α) := .absent
  velocity : Optional (Joints α) := .absent
deriving DecidableEq, Repr, Inhabited

/-- `Cartesian`, in mm, or a velocity or acceleration of it. -/
structure Cartesian (α : Type) where
  x : Optional α := .absent
  y : Optional α := .absent
  z : Optional α := .absent
deriving DecidableEq, Repr, Inhabited

/-- `Euler` angles, in degrees; they have priority over a quaternion. -/
structure Euler (α : Type) where
  x : Optional α := .absent
  y : Optional α := .absent
  z : Optional α := .absent
deriving DecidableEq, Repr, Inhabited

/-- `Quaternion`: `u0 + u1 * i + u2 * j + u3 * k`. -/
structure Quaternion (α : Type) where
  u0 : Optional α := .absent
  u1 : Optional α := .absent
  u2 : Optional α := .absent
  u3 : Optional α := .absent
deriving DecidableEq, Repr, Inhabited

/-- `CartesianPose`: an orientation may be given in two ways. -/
structure CartesianPose (α : Type) where
  position : Optional (Cartesian α) := .absent
  euler : Optional (Euler α) := .absent
  quaternion : Optional (Quaternion α) := .absent
deriving DecidableEq, Repr, Inhabited

/-- `CartesianVelocity`, in mm and degrees per second. -/
structure CartesianVelocity (α : Type) where
  linear : Optional (Cartesian α) := .absent
  angular : Optional (Euler α) := .absent
deriving DecidableEq, Repr, Inhabited

/-- `CartesianSpace`: a pose and its velocity. -/
structure CartesianSpace (α : Type) where
  pose : Optional (CartesianPose α) := .absent
  velocity : Optional (CartesianVelocity α) := .absent
deriving DecidableEq, Repr, Inhabited

/-- `Robot`: its joints, its tool, or both. -/
structure Robot (α : Type) where
  joints : Optional (JointSpace α) := .absent
  cartesian : Optional (CartesianSpace α) := .absent
deriving DecidableEq, Repr, Inhabited

/-- `External`: the external joints. -/
structure External (α : Type) where
  joints : Optional (JointSpace α) := .absent
deriving DecidableEq, Repr, Inhabited

/-- `Feedback`; the message `Planned` has the same three fields. -/
structure Feedback (α : Type) where
  robot : Optional (Robot α) := .absent
  external : Optional (External α) := .absent
  time : Optional Clock := .absent
deriving DecidableEq, Repr, Inhabited

abbrev Planned (α : Type) := Feedback α

/-- `Input`: what is extracted from a message of the robot controller. -/
structure Input (α : Type) where
  header : Optional Header := .absent
  feedback : Optional (Feedback α) := .absent
  planned : Optional (Planned α) := .absent
  status : Optional Status := .absent
deriving DecidableEq, Repr, Inhabited

/-- `Output`: what is to be sent to the robot controller. -/
structure Output (α : Type) where
  robot : Optional (Robot α) := .absent
  external : Optional (External α) := .absent
deriving DecidableEq, Repr, Inhabited

/-! ### `egm_wrapper_trajectory.proto` -/

/-- `JointGoal`: what the joints are to reach. -/
structure JointGoal (α : Type) where
  position : Optional (Joints α) := .absent
  velocity : Optional (Joints α) := .absent
  acceleration : Optional (Joints α) := .absent
deriving DecidableEq, Repr, Inhabited

/-- `CartesianGoal`: only linear velocities and accelerations can be given. -/
structure CartesianGoal (α : Type) where
  pose : Optional (CartesianPose α) := .absent
  velocity : Optional (Cartesian α) := .absent
  acceleration : Optional (Cartesian α) := .absent
deriving DecidableEq, Repr, Inhabited

/-- `RobotGoal`: which part is used depends on the mode. -/
structure RobotGoal (α : Type) where
  joints : Optional (JointGoal α) := .absent
  cartesian : Optional (CartesianGoal α) := .absent
deriving DecidableEq, Repr, Inhabited

/-- `ExternalGoal`: the goal of the external joints. -/
structure ExternalGoal (α : Type) where
  joints : Optional (JointGoal α) := .absent
deriving DecidableEq, Repr, Inhabited

/-- `PointGoal`: a point of a trajectory; `reach` tells whether it has to be reached or may be passed. -/
structure PointGoal (α : Type) where
  duration : Optional α := .absent
  robot : Optional (RobotGoal α) := .absent
  external : Optional (ExternalGoal α) := .absent
  reach : Optional Bool := .absent
deriving DecidableEq, Repr, Inhabited

/-- `TrajectoryGoal`: a trajectory, as the user gives it. -/
structure TrajectoryGoal (α : Type) where
  points : List (PointGoal α) := []
deriving DecidableEq, Repr, Inhabited

/-- `RobotPositionGoal`: which part is used depends on which is there. -/
structure RobotPositionGoal (α : Type) where
  joints : Optional (Joints α) := .absent
  cartesian : Optional (CartesianPose α) := .absent
deriving DecidableEq, Repr, Inhabited

/-- `RobotVelocityGoal`: which part is used depends on which is there. -/
structure RobotVelocityGoal (α : Type) where
  joints : Optional (Joints α) := .absent
  cartesian : Optional (CartesianVelocity α) := .absent
deriving DecidableEq, Repr, Inhabited

/-- `StaticPositionGoal`: a position to be held. -/
structure StaticPositionGoal (α : Type) where
  robot : Optional (RobotPositionGoal α) := .absent
  external : Optional (Joints α) := .absent
deriving DecidableEq, Repr, Inhabited

/-- `StaticVelocityGoal`: a velocity to be held. -/
structure StaticVelocityGoal (α : Type) where
  robot : Optional (RobotVelocityGoal α) := .absent
  external : Optional (Joints α) := .absent
deriving DecidableEq, Repr, Inhabited

/-- `ExecutionProgress::State`. -/
inductive ExecutionState where
  | undefined | normal | rampDown | staticGoal
deriving DecidableEq, Repr, Inhabited

/-- `ExecutionProgress::SubState`. -/
inductive ExecutionSubState where
  | none | running | finished
deriving DecidableEq, Repr, Inhabited

/-- `ExecutionProgress`: what the user is told about the execution. -/
structure ExecutionProgress (α : Type) where
  state : Optional ExecutionState := .absent
  subState : Optional ExecutionSubState := .absent
  inputs : Optional (Input α) := .absent
  outputs : Optional (Output α) := .absent
  timePassed : Optional α := .absent
  goalActive : Optional Bool := .absent
  goal : Optional (PointGoal α) := .absent
  activeTrajectory : Optional (TrajectoryGoal α) := .absent
  pendingTrajectories : Optional UInt32 := .absent
deriving DecidableEq, Repr, Inhabited

end AbbWrapper
