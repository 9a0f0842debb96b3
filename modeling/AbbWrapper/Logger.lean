import AbbWrapper.Interfaces

/-! # The log of an interface

`EGMLogger` writes a header and then one row for every logged message, with its values separated by
commas.

* The stream is kept as its lines: the header, the rows that have been ended, and the values and
  separators (`LogToken`) of the row that is being written.  The texts of the numbers are left out: a row
  has the values themselves.
* Each function `add` of the source has a definition here; the last one of a row writes no comma.
* Missing joints are made up for with zeros (`addMockJoints`).  The loop over the external joints starts
  at their number, and its bound is a difference in an unsigned type (`missingExternalJoints`).
* `LoggedInterface` is an interface with its logger: a message is logged between the outputs and the
  reply, while the time that was logged is at most what the configuration allows. -/

namespace AbbWrapper

open Protobuf

variable {α β κ μ υ : Type}

/-- `RobotController::MAX_NUMBER_OF_JOINTS`. -/
def Constants.maxNumberOfJoints : ℕ :=
  Constants.defaultNumberOfRobotJoints + Constants.defaultNumberOfExternalJoints

/-- What is streamed into a row. -/
inductive LogToken (α : Type) where
  | timeStamp (value : UInt32)
  | number (value : α)
  | comma
deriving DecidableEq, Repr

/-- `EGMLogger`: the tokens of its file, row by row, with the row that is being written. -/
structure EGMLogger (α : Type) where
  header : List String
  rows : List (List (LogToken α))
  row : List (LogToken α)
  numberOfLoggedMessages : UInt32
deriving DecidableEq, Repr

namespace EGMLogger

/-- The columns of the constructor's header, which writes them with commas between them. -/
def defaultHeaders : List String :=
  ["TIMESTAMP",
    -- robot feedback
    "R_FB_POS_RJ1", "R_FB_POS_RJ2", "R_FB_POS_RJ3", "R_FB_POS_RJ4", "R_FB_POS_RJ5", "R_FB_POS_RJ6",
    "R_FB_POS_EJ1", "R_FB_POS_EJ2", "R_FB_POS_EJ3", "R_FB_POS_EJ4", "R_FB_POS_EJ5", "R_FB_POS_EJ6",
    "R_FB_VEL_RJ1", "R_FB_VEL_RJ2", "R_FB_VEL_RJ3", "R_FB_VEL_RJ4", "R_FB_VEL_RJ5", "R_FB_VEL_RJ6",
    "R_FB_VEL_EJ1", "R_FB_VEL_EJ2", "R_FB_VEL_EJ3", "R_FB_VEL_EJ4", "R_FB_VEL_EJ5", "R_FB_VEL_EJ6",
    "R_FB_POS_X", "R_FB_POS_Y", "R_FB_POS_Z",
    "R_FB_EULER_X", "R_FB_EULER_Y", "R_FB_EULER_Z",
    "R_FB_QUAT_U0", "R_FB_QUAT_U1", "R_FB_QUAT_U2", "R_FB_QUAT_U3",
    "R_FB_VEL_LX", "R_FB_VEL_LY", "R_FB_VEL_LZ",
    "R_FB_VEL_AX", "R_FB_VEL_AY", "R_FB_VEL_AZ",
    -- robot planned
    "R_PL_POS_RJ1", "R_PL_POS_RJ2", "R_PL_POS_RJ3", "R_PL_POS_RJ4", "R_PL_POS_RJ5", "R_PL_POS_RJ6",
    "R_PL_POS_EJ1", "R_PL_POS_EJ2", "R_PL_POS_EJ3", "R_PL_POS_EJ4", "R_PL_POS_EJ5", "R_PL_POS_EJ6",
    "R_PL_VEL_RJ1", "R_PL_VEL_RJ2", "R_PL_VEL_RJ3", "R_PL_VEL_RJ4", "R_PL_VEL_RJ5", "R_PL_VEL_RJ6",
    "R_PL_VEL_EJ1", "R_PL_VEL_EJ2", "R_PL_VEL_EJ3", "R_PL_VEL_EJ4", "R_PL_VEL_EJ5", "R_PL_VEL_EJ6",
    "R_PL_POS_X", "R_PL_POS_Y", "R_PL_POS_Z",
    "R_PL_EULER_X", "R_PL_EULER_Y", "R_PL_EULER_Z",
    "R_PL_QUAT_U0", "R_PL_QUAT_U1", "R_PL_QUAT_U2", "R_PL_QUAT_U3",
    "R_PL_VEL_LX", "R_PL_VEL_LY", "R_PL_VEL_LZ",
    "R_PL_VEL_AX", "R_PL_VEL_AY", "R_PL_VEL_AZ",
    -- sensor references
    "S_REF_POS_RJ1", "S_REF_POS_RJ2", "S_REF_POS_RJ3", "S_REF_POS_RJ4", "S_REF_POS_RJ5", "S_REF_POS_RJ6",
    "S_REF_POS_EJ1", "S_REF_POS_EJ2", "S_REF_POS_EJ3", "S_REF_POS_EJ4", "S_REF_POS_EJ5", "S_REF_POS_EJ6",
    "S_REF_VEL_RJ1", "S_REF_VEL_RJ2", "S_REF_VEL_RJ3", "S_REF_VEL_RJ4", "S_REF_VEL_RJ5", "S_REF_VEL_RJ6",
    "S_REF_VEL_EJ1", "S_REF_VEL_EJ2", "S_REF_VEL_EJ3", "S_REF_VEL_EJ4", "S_REF_VEL_EJ5", "S_REF_VEL_EJ6",
    "S_REF_POS_X", "S_REF_POS_Y", "S_REF_POS_Z",
    "S_REF_EULER_X", "S_REF_EULER_Y", "S_REF_EULER_Z",
    "S_REF_QUAT_U0", "S_REF_QUAT_U1", "S_REF_QUAT_U2", "S_REF_QUAT_U3",
    "S_REF_VEL_LX", "S_REF_VEL_LY", "S_REF_VEL_LZ",
    "S_REF_VEL_AX", "S_REF_VEL_AY", "S_REF_VEL_AZ"]

/-- `EGMLogger(filename)`. -/
def init : EGMLogger α := ⟨defaultHeaders, [], [], 0⟩

/-- `log_stream_ << …`. -/
def write (logger : EGMLogger α) (tokens : List (LogToken α)) : EGMLogger α :=
  { logger with row := logger.row ++ tokens }

def flush (logger : EGMLogger α) : EGMLogger α :=
  { logger with
    rows := logger.rows ++ [logger.row]
    row := []
    numberOfLoggedMessages := logger.numberOfLoggedMessages + 1 }

/-- `add(Header)`. -/
def addHeader (logger : EGMLogger α) (header : Header) : EGMLogger α :=
  logger.write [.timeStamp header.timeStamp.get, .comma]

/-- Every value is followed by a comma. -/
def values (values : List α) : List (LogToken α) := values.flatMap fun v => [.number v, .comma]

variable [Field α]

/-- The number of passes of the loop over `size_t i = external_size`, whose bound is a difference of
values of that type. -/
def missingExternalJoints (robotSize externalSize : ℕ) : ℕ :=
  (Constants.maxNumberOfJoints + 2 ^ 64 - robotSize) % 2 ^ 64 - externalSize

def addMockJoints (logger : EGMLogger α) (robot : Bool) (robotSize externalSize : ℕ) : EGMLogger α :=
  if robot then
    logger.write (values (List.replicate (Constants.defaultNumberOfRobotJoints - robotSize) 0))
  else logger.write (values (List.replicate (missingExternalJoints robotSize externalSize) 0))

/-- `add(Joints, Joints)`. -/
def addJoints (logger : EGMLogger α) (robot external : Joints α) : EGMLogger α :=
  let logger := logger.write (values robot.values)
  let logger := logger.addMockJoints true robot.valuesSize external.valuesSize
  let logger := logger.write (values external.values)
  logger.addMockJoints false robot.valuesSize external.valuesSize

/-- `add(CartesianPose)`. -/
def addPose (logger : EGMLogger α) (pose : CartesianPose α) : EGMLogger α :=
  let position := pose.position.get
  let euler := pose.euler.get
  let quaternion := pose.quaternion.get
  let logger := logger.write (values [position.x.val, position.y.val, position.z.val])
  let logger := logger.write (values [euler.x.val, euler.y.val, euler.z.val])
  logger.write (values [quaternion.u0.val, quaternion.u1.val, quaternion.u2.val, quaternion.u3.val])

/-- `add(CartesianVelocity, last)`: no comma after the last value of a row. -/
def addVelocity (logger : EGMLogger α) (velocity : CartesianVelocity α) (last : Bool) : EGMLogger α :=
  let linear := velocity.linear.get
  let angular := velocity.angular.get
  let logger := logger.write (values [linear.x.val, linear.y.val, linear.z.val])
  logger.write (values [angular.x.val, angular.y.val] ++
    .number angular.z.val :: if last then [] else [.comma])

def calculateTimeLogged (logger : EGMLogger α) (sampleTime : α) : α :=
  (logger.numberOfLoggedMessages.toNat : α) * sampleTime

/-- The same four entries for the feedback and for the planned values. -/
def addFeedback (logger : EGMLogger α) (feedback : Feedback α) : EGMLogger α :=
  let robot := feedback.robotJoints
  let external := feedback.externalJoints
  let logger := logger.addJoints robot.position.get external.position.get
  let logger := logger.addJoints robot.velocity.get external.velocity.get
  let logger := logger.addPose feedback.robotCartesian.pose.get
  logger.addVelocity feedback.robotCartesian.velocity.get false

/-- The entries of the outputs end the row. -/
def addOutput (logger : EGMLogger α) (output : Output α) : EGMLogger α :=
  let robot := output.robotJoints
  let external := output.externalJoints
  let logger := logger.addJoints robot.position.get external.position.get
  let logger := logger.addJoints robot.velocity.get external.velocity.get
  let logger := logger.addPose output.robotCartesian.pose.get
  logger.addVelocity output.robotCartesian.velocity.get true

/-- The entries of `logData`. -/
def addMessage (logger : EGMLogger α) (inputs : InputContainer α) (outputs : OutputContainer α) :
    EGMLogger α :=
  let logger := logger.addHeader inputs.current.header.get
  let logger := logger.addFeedback inputs.current.feedback.get
  let logger := logger.addFeedback inputs.current.planned.get
  logger.addOutput outputs.current

def logData [LinearOrder α] (logger : EGMLogger α) (inputs : InputContainer α)
    (outputs : OutputContainer α) (maxTime : α) : EGMLogger α :=
  if logger.calculateTimeLogged inputs.estimatedSampleTime ≤ maxTime then
    (logger.addMessage inputs outputs).flush
  else logger

end EGMLogger

/-- An interface with its logger, `p_logger_`. -/
structure LoggedInterface (κ μ α : Type) where
  interface : EGMInterface κ μ α
  logger : Option (EGMLogger α)

namespace LoggedInterface

variable [Field α] [LinearOrder α] [Cmath α] [FloorRing α]

/-- The constructors open a log if the configuration wants one then. -/
def init (h : Handler κ μ υ α) (configuration : κ) (motion : μ) : LoggedInterface κ μ α :=
  ⟨.init configuration motion,
    if (h.base configuration).useLogging then some .init else none⟩

/-- A message is logged between the outputs and the reply. -/
def log (h : Handler κ μ υ α) (s : EGMInterface κ μ α) (logger : Option (EGMLogger α)) :
    Option (EGMLogger α) :=
  let base := h.base s.configuration.active
  if base.useLogging then logger.map (·.logData s.inputs s.outputs base.maxLoggingDuration)
  else logger

def callback (h : Handler κ μ υ α) (ParseFromArray : β → Bool × EgmRobot α)
    (s : LoggedInterface κ μ α) (data : Option β) (mid : List υ) : LoggedInterface κ μ α :=
  let r := s.interface.initializeCallback h ParseFromArray data
  ⟨s.interface.callback h ParseFromArray data mid,
    if r.1 then log h (r.2.execute h mid) s.logger else s.logger⟩

def step (h : Handler κ μ υ α) (ParseFromArray : β → Bool × EgmRobot α)
    (s : LoggedInterface κ μ α) : Event κ υ β → LoggedInterface κ μ α
  | .datagram data mid => s.callback h ParseFromArray data mid
  | .user call => { s with interface := s.interface.step h ParseFromArray (.user call) }
  | .setConfiguration configuration =>
      { s with interface := s.interface.step h ParseFromArray (.setConfiguration configuration) }

end LoggedInterface

end AbbWrapper
