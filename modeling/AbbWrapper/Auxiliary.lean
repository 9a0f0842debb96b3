import AbbWrapper.Common

/-! # Auxiliary functions on messages

The estimation, find, copy, parse and reset functions of `egm_common_auxiliary.cpp`.

* A function that writes through a pointer returns the new message.  One that also reports success
  returns the pair, since a failed `parse` may leave its target partly written; one that leaves its
  target as it was on failure returns an `Option`.
* Overloads have the name of the function in the namespace of the message that they write:
  `Joints.parse`, `CartesianPose.parse` and so on.
* A field that is opened for writing (`mutable_joints()`) is present afterwards, with its default where
  it was absent; `Robot.modifyJoints` and its like apply a function to such a field.
* Where Euler angles and a quaternion describe the same orientation, `copyPresent` gives priority to the
  Euler angles, and `EgmPose.parse` computes those that are missing.

The functions are total: a value that is read behind the end of its vector is zero.  Whether that
happens is the subject of `Accesses.lean`. -/

namespace AbbWrapper

open Protobuf

variable {α : Type} [Field α]

/-! ### Opening nested fields for writing -/

def JointSpace.setPosition (v : Joints α) (j : JointSpace α) : JointSpace α :=
  { j with position := .present v }

def JointSpace.setVelocity (v : Joints α) (j : JointSpace α) : JointSpace α :=
  { j with velocity := .present v }

/-- `mutable_joints()`. -/
def Robot.modifyJoints (f : JointSpace α → JointSpace α) (r : Robot α) : Robot α :=
  { r with joints := r.joints.modify f }

/-- `mutable_cartesian()`. -/
def Robot.modifyCartesian (f : CartesianSpace α → CartesianSpace α) (r : Robot α) : Robot α :=
  { r with cartesian := r.cartesian.modify f }

/-- `mutable_joints()`. -/
def External.modifyJoints (f : JointSpace α → JointSpace α) (e : External α) : External α :=
  { e with joints := e.joints.modify f }

def CartesianSpace.setPose (p : CartesianPose α) (c : CartesianSpace α) : CartesianSpace α :=
  { c with pose := .present p }

def CartesianSpace.setVelocity (v : CartesianVelocity α) (c : CartesianSpace α) :
    CartesianSpace α :=
  { c with velocity := .present v }

/-! ### Estimation functions -/

/-- `estimateVelocities(Joints*, …)`: `none` when the sample time is not positive. -/
def Joints.estimateVelocities [LinearOrder α] (current previous : Joints α) (sampleTime : α) :
    Option (Joints α) :=
  if 0 < sampleTime then
    some ⟨List.zipWith (fun c p => (c - p) / sampleTime) current.values previous.values⟩
  else none

section cmath
variable [Cmath α]

/-- `estimateVelocities(Euler*, …)`: `(2 (q2 - q1) / t) * conj(q1)`. -/
def Quaternion.estimateVelocities [LinearOrder α] (current previous : Quaternion α)
    (sampleTime : α) : Option (Euler α) :=
  if 0 < sampleTime then
    let difference := Quaternion.of (2 * (current.u0.val - previous.u0.val) / sampleTime)
      (2 * (current.u1.val - previous.u1.val) / sampleTime)
      (2 * (current.u2.val - previous.u2.val) / sampleTime)
      (2 * (current.u3.val - previous.u3.val) / sampleTime)
    let conj := Quaternion.of previous.u0.val (-previous.u1.val) (-previous.u2.val)
      (-previous.u3.val)
    let estimation := difference.multiply conj
    some (.of (estimation.u1.val * Constants.radToDeg α) (estimation.u2.val * Constants.radToDeg α)
      (estimation.u3.val * Constants.radToDeg α))
  else none

/-- `estimateVelocities(CartesianVelocity*, …)`. -/
def CartesianPose.estimateVelocities [LinearOrder α] (current previous : CartesianPose α)
    (sampleTime : α) : Option (CartesianVelocity α) :=
  if 0 < sampleTime then
    (current.quaternion.get.estimateVelocities previous.quaternion.get sampleTime).map fun angular =>
      { linear := .present (.of
          ((current.position.get.x.val - previous.position.get.x.val) / sampleTime)
          ((current.position.get.y.val - previous.position.get.y.val) / sampleTime)
          ((current.position.get.z.val - previous.position.get.z.val) / sampleTime))
        angular := .present angular }
  else none

end cmath

/-! ### Find functions -/

section find
variable [LinearOrder α]

def Joints.findMaxDifference (j1 j2 : Joints α) : α :=
  (List.zipWith (fun a b => |a - b|) j1.values j2.values).foldl max 0

def Cartesian.findMaxDifference (c1 c2 : Cartesian α) : α :=
  max (max |c1.x.val - c2.x.val| |c1.y.val - c2.y.val|) |c1.z.val - c2.z.val|

def Euler.findMaxDifference (e1 e2 : Euler α) : α :=
  max (max |e1.x.val - e2.x.val| |e1.y.val - e2.y.val|) |e1.z.val - e2.z.val|

end find

/-! ### Copy functions -/

def Joints.copyPresent (target source : Joints α) : Joints α :=
  target.update (min source.valuesSize target.valuesSize) fun i _ => source.value i

def JointSpace.copyPresent (target source : JointSpace α) : JointSpace α :=
  let target := if source.position.has then
    { target with position := target.position.modify (·.copyPresent source.position.get) }
    else target
  if source.velocity.has then
    { target with velocity := target.velocity.modify (·.copyPresent source.velocity.get) }
  else target

omit [Field α] in
def Cartesian.copyPresent (target source : Cartesian α) : Cartesian α :=
  ⟨target.x.copyIf source.x, target.y.copyIf source.y, target.z.copyIf source.z⟩

omit [Field α] in
def Euler.copyPresent (target source : Euler α) : Euler α :=
  ⟨target.x.copyIf source.x, target.y.copyIf source.y, target.z.copyIf source.z⟩

section copyPose
variable [LinearOrder α] [Cmath α]

def Quaternion.copyPresent (target source : Quaternion α) : Quaternion α :=
  normalize ⟨target.u0.copyIf source.u0, target.u1.copyIf source.u1, target.u2.copyIf source.u2,
    target.u3.copyIf source.u3⟩

/-- Euler angles have priority; the other representation of the orientation follows. -/
def CartesianPose.copyPresent (target source : CartesianPose α) : CartesianPose α :=
  let target := if source.position.has then
    { target with position := target.position.modify (·.copyPresent source.position.get) }
    else target
  if source.euler.has then
    let target := { target with euler := target.euler.modify (·.copyPresent source.euler.get) }
    { target with quaternion := .present target.euler.get.convert }
  else if source.quaternion.has then
    let target := { target with
      quaternion := target.quaternion.modify (normalize <| ·.copyPresent source.quaternion.get) }
    { target with euler := target.euler.modify target.quaternion.get.convert }
  else target

omit [Field α] [LinearOrder α] [Cmath α] in
def CartesianVelocity.copyPresent (target source : CartesianVelocity α) : CartesianVelocity α :=
  let target := if source.linear.has then
    { target with linear := target.linear.modify (·.copyPresent source.linear.get) }
    else target
  if source.angular.has then
    { target with angular := target.angular.modify (·.copyPresent source.angular.get) }
  else target

def CartesianSpace.copyPresent (target source : CartesianSpace α) : CartesianSpace α :=
  let target := if source.pose.has then
    { target with pose := target.pose.modify (·.copyPresent source.pose.get) }
    else target
  if source.velocity.has then
    { target with velocity := target.velocity.modify (·.copyPresent source.velocity.get) }
  else target

def Robot.copyPresent (target source : Robot α) : Robot α :=
  let target := if source.joints.has then
    target.modifyJoints (·.copyPresent source.joints.get)
    else target
  if source.cartesian.has then
    target.modifyCartesian (·.copyPresent source.cartesian.get)
  else target

omit [LinearOrder α] [Cmath α] in
def External.copyPresent (target source : External α) : External α :=
  if source.joints.has then target.modifyJoints (·.copyPresent source.joints.get) else target

def Output.copyPresent (target source : Output α) : Output α :=
  let target := if source.robot.has then
    { target with robot := target.robot.modify (·.copyPresent source.robot.get) }
    else target
  if source.external.has then
    { target with external := target.external.modify (·.copyPresent source.external.get) }
  else target

end copyPose

/-! ### Parse functions -/

def EgmHeader.parse (target : Header) (source : EgmHeader) : Bool × Header :=
  if source.seqno.has && source.tm.has && source.mtype.has then
    let target := { target with
      sequenceNumber := .present source.seqno.get
      timeStamp := .present source.tm.get }
    if source.mtype.get = .data then (true, { target with messageType := .present .data })
    else (false, { target with messageType := .present .undefined })
  else (false, target)

def EgmRobot.parseStatus (target : Status) (source : EgmRobot α) : Bool × Status :=
  if source.motorState.has && source.motorState.get.state.has &&
      source.mciState.has && source.mciState.get.state.has &&
      source.rapidExecState.has && source.rapidExecState.get.state.has &&
      source.mciConvergenceMet.has then
    (true, { target with
      motorState := .present source.motorState.get.state.get
      egmState := .present source.mciState.get.state.get
      rapidExecutionState := .present source.rapidExecState.get.state.get
      egmConvergenceMet := .present source.mciConvergenceMet.get })
  else (false, target)

def EgmClock.parse (target : Clock) (source : EgmClock) : Bool × Clock :=
  if source.sec.has && source.usec.has then
    (true, ⟨.present source.sec.get, .present source.usec.get⟩)
  else (false, target)

/-- `parse(Joints*, Joints*, EgmJoints, EgmJoints, RobotAxes)`: success, robot joints, external
joints.  Both targets are cleared first.  For seven axes the first external joint is the third
joint of the robot. -/
def EgmJoints.parse (sourceRobot sourceExternal : EgmJoints α) (axes : RobotAxes) :
    Bool × Joints α × Joints α :=
  match axes with
  | .six =>
      if sourceRobot.joints.length = Constants.defaultNumberOfRobotJoints then
        (true, ⟨sourceRobot.joints⟩, ⟨sourceExternal.joints⟩)
      else (false, {}, {})
  | .seven =>
      if sourceRobot.joints.length = Constants.defaultNumberOfRobotJoints ∧
          1 ≤ sourceExternal.joints.length then
        (true,
          ⟨[sourceRobot.joints.getD 0 0, sourceRobot.joints.getD 1 0, sourceExternal.joints.getD 0 0,
            sourceRobot.joints.getD 2 0, sourceRobot.joints.getD 3 0, sourceRobot.joints.getD 4 0,
            sourceRobot.joints.getD 5 0]⟩,
          ⟨sourceExternal.joints.drop 1⟩)
      else (false, {}, {})

section parsePose
variable [LinearOrder α] [Cmath α]

/-- The target is cleared first; missing Euler angles are converted from the quaternion. -/
def EgmPose.parse (source : EgmPose α) : Bool × CartesianPose α :=
  if source.pos.has && source.pos.get.x.has && source.pos.get.y.has && source.pos.get.z.has then
    let pos := source.pos.get
    let target : CartesianPose α :=
      { position := .present (.of pos.x.val pos.y.val pos.z.val) }
    if source.orient.has && source.orient.get.u0.has && source.orient.get.u1.has &&
        source.orient.get.u2.has && source.orient.get.u3.has then
      let orient := source.orient.get
      let quaternion := Quaternion.of orient.u0.val orient.u1.val orient.u2.val orient.u3.val
      let target := { target with quaternion := .present quaternion }
      if source.euler.has && source.euler.get.x.has && source.euler.get.y.has &&
          source.euler.get.z.has then
        let euler := source.euler.get
        (true, { target with euler := .present (.of euler.x.val euler.y.val euler.z.val) })
      else (true, { target with euler := .present (quaternion.convert {}) })
    else (false, target)
  else (false, {})

/-- `parse(Feedback*, …)` and `parse(Planned*, …)`. -/
def EgmPlanned.parse (target : Feedback α) (source : EgmPlanned α) (axes : RobotAxes) :
    Bool × Feedback α :=
  let joints := source.joints.get.parse source.externalJoints.get axes
  let target := { target with
    robot := target.robot.modify (·.modifyJoints (·.setPosition joints.2.1))
    external := target.external.modify (·.modifyJoints (·.setPosition joints.2.2)) }
  if joints.1 then
    let pose := source.cartesian.get.parse
    let target := { target with
      robot := target.robot.modify (·.modifyCartesian (·.setPose pose.2)) }
    if pose.1 then
      let time := source.time.get.parse target.time.get
      (time.1, { target with time := .present time.2 })
    else (false, target)
  else (false, target)

end parsePose

/-! ### Reset functions -/

def Joints.reset (numberOfJoints : ℕ) : Joints α := ⟨List.replicate numberOfJoints 0⟩

def Cartesian.reset : Cartesian α := .of 0 0 0

def Euler.reset : Euler α := .of 0 0 0

end AbbWrapper
