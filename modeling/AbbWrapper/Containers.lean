import Mathlib.Algebra.Order.Floor.Defs
import AbbWrapper.Auxiliary

/-! # The input and output containers

`EGMBaseInterface::InputContainer` parses a datagram of the robot controller and keeps the
initial, the current and the previous inputs of a session; `EGMBaseInterface::OutputContainer`
keeps the references and the message object from which every reply is serialised.

* Protobuf parsing is a parameter `ParseFromArray`: a pure function from the bytes to the success
  flag and the content of the message object.
* A reply is `none` when it is empty, otherwise the message it serialises.  Serialisation fails exactly
  if a required field of a present sub-message is not set (`EgmSensor.isInitialized`).
* The message object `egmSensor` is not cleared between replies: what a callback does not write stays
  as an earlier one has left it.
* Times are unsigned 64-bit integers, and so are their differences.
* The outputs of a callback start at rest at the feedback if the message is the first of a session
  (`Output.prepare`), and are those of the callback before otherwise. -/

namespace AbbWrapper

open Protobuf

variable {α β : Type}

/-! ### Inputs -/

/-- `InputContainer`: the message that was parsed last, and the inputs that were extracted from it, from the
one before it and from the first one of the session. -/
structure InputContainer (α : Type) where
  egmRobot : EgmRobot α
  initial : Input α
  current : Input α
  previous : Input α
  hasNewData : Bool
  firstCall : Bool
  firstMessage : Bool
  estimatedSampleTime : α
deriving DecidableEq, Repr

/-- `mutable_robot()->mutable_joints()->mutable_velocity()`. -/
def Feedback.setRobotVelocity (v : Joints α) (f : Feedback α) : Feedback α :=
  { f with robot := f.robot.modify (·.modifyJoints (·.setVelocity v)) }

/-- `mutable_robot()->mutable_cartesian()->mutable_velocity()`. -/
def Feedback.setCartesianVelocity (v : CartesianVelocity α) (f : Feedback α) : Feedback α :=
  { f with robot := f.robot.modify (·.modifyCartesian (·.setVelocity v)) }

/-- `mutable_external()->mutable_joints()->mutable_velocity()`. -/
def Feedback.setExternalVelocity (v : Joints α) (f : Feedback α) : Feedback α :=
  { f with external := f.external.modify (·.modifyJoints (·.setVelocity v)) }

/-- `robot().joints()`. -/
def Feedback.robotJoints (f : Feedback α) : JointSpace α := f.robot.get.joints.get

/-- `robot().cartesian()`. -/
def Feedback.robotCartesian (f : Feedback α) : CartesianSpace α := f.robot.get.cartesian.get

/-- `external().joints()`. -/
def Feedback.externalJoints (f : Feedback α) : JointSpace α := f.external.get.joints.get

variable [Field α]

/-- The three estimates that `estimateAllVelocities` makes for the feedback, and again for the
planned values. -/
def Feedback.estimateVelocities [LinearOrder α] [Cmath α] (current previous : Feedback α)
    (sampleTime : α) : Bool × Feedback α :=
  match current.robotJoints.position.get.estimateVelocities previous.robotJoints.position.get
      sampleTime with
  | none => (false, current)
  | some robot =>
      let current := current.setRobotVelocity robot
      match current.robotCartesian.pose.get.estimateVelocities previous.robotCartesian.pose.get
          sampleTime with
      | none => (false, current)
      | some cartesian =>
          let current := current.setCartesianVelocity cartesian
          match current.externalJoints.position.get.estimateVelocities
              previous.externalJoints.position.get sampleTime with
          | none => (false, current)
          | some external => (true, current.setExternalVelocity external)

namespace InputContainer

def init : InputContainer α :=
  ⟨{}, {}, {}, {}, false, true, false, Constants.lowestSampleTime α⟩

def parseFromArray (ParseFromArray : β → Bool × EgmRobot α) (i : InputContainer α)
    (data : Option β) : Bool × InputContainer α :=
  let i := { i with hasNewData := false }
  let i := match data with
    | none => i
    | some bytes =>
        { i with
          hasNewData := (ParseFromArray bytes).1
          egmRobot := (ParseFromArray bytes).2 }
  if i.hasNewData then
    (true, { i with
      firstMessage := i.firstCall || i.egmRobot.header.get.seqno.get == 0
      firstCall := false })
  else (false, i)

def updatePrevious (i : InputContainer α) : InputContainer α := { i with previous := i.current }

omit [Field α] in
def statesOk (i : InputContainer α) : Bool :=
  i.current.status.get.motorState.get == .on &&
    i.current.status.get.rapidExecutionState.get == .running &&
    i.current.status.get.egmState.get == .running

variable [LinearOrder α]

/-- The differences are taken in unsigned 64-bit arithmetic. -/
def estimateSampleTime [FloorRing α] (i : InputContainer α) : α :=
  let current := i.current.feedback.get.time
  let previous := i.previous.feedback.get.time
  let estimate : α :=
    if i.current.feedback.has && i.previous.feedback.has && current.has && previous.has &&
        current.get.sec.has && previous.get.sec.has &&
        current.get.usec.has && previous.get.usec.has then
      let diffS : UInt64 := current.get.sec.get - previous.get.sec.get
      let diffUs : UInt64 := current.get.usec.get - previous.get.usec.get
      let diffUs := if 0 < diffS then diffUs + diffS * 1000000 else diffUs
      (⌊(diffUs.toNat : α) * Constants.msToS α⌋ : α) * Constants.msToS α
    else 0
  if estimate < Constants.lowestSampleTime α then Constants.lowestSampleTime α else estimate

variable [Cmath α]

def estimateAllVelocities (i : InputContainer α) : Bool × InputContainer α :=
  let feedback := i.current.feedback.get.estimateVelocities i.previous.feedback.get
    i.estimatedSampleTime
  let i := { i with current := { i.current with feedback := .present feedback.2 } }
  if feedback.1 then
    let planned := i.current.planned.get.estimateVelocities i.previous.planned.get
      i.estimatedSampleTime
    (planned.1, { i with current := { i.current with planned := .present planned.2 } })
  else (false, i)

/-- The four `parse` calls of `extractParsedInformation`, stopping at the first that fails. -/
def parseParts (i : InputContainer α) (axes : RobotAxes) : Bool × Input α :=
  let header := i.egmRobot.header.get.parse i.current.header.get
  let current := { i.current with header := .present header.2 }
  if header.1 then
    let feedback := i.egmRobot.feedBack.get.parse current.feedback.get axes
    let current := { current with feedback := .present feedback.2 }
    if feedback.1 then
      let planned := i.egmRobot.planned.get.parse current.planned.get axes
      let current := { current with planned := .present planned.2 }
      if planned.1 then
        let status := i.egmRobot.parseStatus current.status.get
        (status.1, { current with status := .present status.2 })
      else (false, current)
    else (false, current)
  else (false, current)

def extractParsedInformation [FloorRing α] (i : InputContainer α) (axes : RobotAxes) :
    Bool × InputContainer α :=
  if i.hasNewData then
    let parts := i.parseParts axes
    let i := { i with current := parts.2 }
    if parts.1 then
      let i := if i.firstMessage then { i with initial := i.current, previous := i.current } else i
      let i := { i with estimatedSampleTime := i.estimateSampleTime }
      let velocities := i.estimateAllVelocities
      (velocities.1, { velocities.2 with hasNewData := false })
    else (false, i)
  else (false, i)

end InputContainer

/-! ### Outputs -/

/-- `OutputContainer`: the message object, the outputs it is constructed from, and the reply, if there is
one. -/
structure OutputContainer (α : Type) where
  egmSensor : EgmSensor α
  current : Output α
  previous : Output α
  sequenceNumber : UInt32
  reply : Option (EgmSensor α)
deriving DecidableEq, Repr

/-- `clear_velocity()` followed by `n` times `mutable_velocity()->add_values(0.0)`. -/
def JointSpace.zeroVelocity (n : ℕ) (j : JointSpace α) : JointSpace α :=
  { j with velocity := if n = 0 then .absent else .present (.reset n) }

/-- `robot().joints()`. -/
def Output.robotJoints (o : Output α) : JointSpace α := o.robot.get.joints.get

/-- `robot().cartesian()`. -/
def Output.robotCartesian (o : Output α) : CartesianSpace α := o.robot.get.cartesian.get

/-- `external().joints()`. -/
def Output.externalJoints (o : Output α) : JointSpace α := o.external.get.joints.get

def Output.modifyRobotJoints (f : JointSpace α → JointSpace α) (o : Output α) : Output α :=
  { o with robot := o.robot.modify (·.modifyJoints f) }

def Output.modifyRobotCartesian (f : CartesianSpace α → CartesianSpace α) (o : Output α) :
    Output α :=
  { o with robot := o.robot.modify (·.modifyCartesian f) }

def Output.modifyExternalJoints (f : JointSpace α → JointSpace α) (o : Output α) : Output α :=
  { o with external := o.external.modify (·.modifyJoints f) }

/-- The outputs at a session's first message: at rest at the feedback. -/
def Output.prepare (o : Output α) (feedback : Feedback α) : Output α :=
  let joints := feedback.robotJoints
  let external := feedback.externalJoints
  let velocity : CartesianVelocity α := ⟨.present .reset, .present .reset⟩
  ((o.modifyRobotJoints fun j => (j.setPosition joints.position.get).zeroVelocity
        joints.velocity.get.valuesSize).modifyRobotCartesian fun c =>
          (c.setPose feedback.robotCartesian.pose.get).setVelocity velocity).modifyExternalJoints
            fun j => (j.setPosition external.position.get).zeroVelocity
              external.velocity.get.valuesSize

/-- The joints of a position or speed body: `none` when the number of robot joints is wrong.  For
seven axes the third robot joint is sent as the first external joint.  Without any external joint
the field of the external joints stays unset. -/
def jointBody (axes : RobotAxes) (robot external : Joints α) :
    Option (EgmJoints α × Optional (EgmJoints α)) :=
  match axes with
  | .six =>
      if robot.valuesSize = Constants.defaultNumberOfRobotJoints then
        let values := external.values.take Constants.defaultNumberOfExternalJoints
        some (⟨robot.values⟩, if values = [] then .absent else .present ⟨values⟩)
      else none
  | .seven =>
      if robot.valuesSize = Constants.defaultNumberOfRobotJoints + 1 then
        some (⟨[robot.value 0, robot.value 1, robot.value 3, robot.value 4, robot.value 5,
            robot.value 6]⟩,
          .present ⟨robot.value 2 ::
            external.values.take (Constants.defaultNumberOfExternalJoints - 1)⟩)
      else none

section required
omit [Field α]

def EgmCartesian.isInitialized (c : EgmCartesian α) : Bool := c.x.has && c.y.has && c.z.has

def EgmEuler.isInitialized (e : EgmEuler α) : Bool := e.x.has && e.y.has && e.z.has

def EgmQuaternion.isInitialized (q : EgmQuaternion α) : Bool :=
  q.u0.has && q.u1.has && q.u2.has && q.u3.has

def EgmPose.isInitialized (p : EgmPose α) : Bool :=
  (!p.pos.has || p.pos.get.isInitialized) && (!p.orient.has || p.orient.get.isInitialized) &&
    (!p.euler.has || p.euler.get.isInitialized)

/-- Every required field of a present sub-message is set. -/
def EgmSensor.isInitialized (m : EgmSensor α) : Bool :=
  !m.planned.has ||
    ((!m.planned.get.cartesian.has || m.planned.get.cartesian.get.isInitialized) &&
      (!m.planned.get.time.has ||
        (m.planned.get.time.get.sec.has && m.planned.get.time.get.usec.has)))

/-- Serialisation succeeds for a message whose required fields are set. -/
def EgmSensor.serializeToString (m : EgmSensor α) : Option (EgmSensor α) :=
  if m.isInitialized then some m else none

end required

namespace OutputContainer

omit [Field α] in
def init : OutputContainer α := ⟨{}, {}, {}, 0, none⟩

def prepareOutputs (o : OutputContainer α) (inputs : InputContainer α) : OutputContainer α :=
  let o := { o with
    sequenceNumber := if inputs.firstMessage then 0 else o.sequenceNumber + 1 }
  if inputs.firstMessage then
    let current := o.current.prepare inputs.current.feedback.get
    { o with current := current, previous := current }
  else o

omit [Field α] in
def updatePrevious (o : OutputContainer α) : OutputContainer α := { o with previous := o.current }

omit [Field α] in
def clearReply (o : OutputContainer α) : OutputContainer α := { o with reply := none }

omit [Field α] in
def constructHeader (o : OutputContainer α) : OutputContainer α :=
  let header : EgmHeader := ⟨.present o.sequenceNumber, .present 0, .present .correction⟩
  { o with egmSensor := { o.egmSensor with header := .present header } }

/-- Returns whether the position and, when it is wanted, the speed could be written. -/
def constructJointBody (o : OutputContainer α) (configuration : BaseConfiguration α) :
    Bool × OutputContainer α :=
  let joints := o.current.robotJoints
  let external := o.current.externalJoints
  let position := jointBody configuration.axes joints.position.get external.position.get
  let sensor := if joints.position.has then
    { o.egmSensor with planned := o.egmSensor.planned.modify fun planned => { planned with
        joints := position.elim .absent fun body => .present body.1
        externalJoints := position.elim .absent Prod.snd } }
    else o.egmSensor
  let speed := jointBody configuration.axes joints.velocity.get external.velocity.get
  let wantsSpeed := configuration.useVelocityOutputs && joints.velocity.has
  let sensor := if wantsSpeed then
    { sensor with speedRef := sensor.speedRef.modify fun speedRef => { speedRef with
        joints := speed.elim .absent fun body => .present body.1
        externalJoints := speed.elim .absent Prod.snd } }
    else sensor
  let positionOk := joints.position.has && position.isSome
  let speedOk := !configuration.useVelocityOutputs || (wantsSpeed && speed.isSome)
  (positionOk && speedOk, { o with egmSensor := sensor })

/-- The pose sent to the controller. -/
def egmPose (pose : CartesianPose α) : Optional (EgmPose α) :=
  let p := pose.position.get
  let e := pose.euler.get
  let q := pose.quaternion.get
  if pose.position.has || pose.euler.has || pose.quaternion.has then
    .present
      { pos := if pose.position.has then
          .present ⟨.present p.x.val, .present p.y.val, .present p.z.val⟩ else .absent
        euler := if pose.euler.has then
          .present ⟨.present e.x.val, .present e.y.val, .present e.z.val⟩ else .absent
        orient := if pose.quaternion.has then
          .present ⟨.present q.u0.val, .present q.u1.val, .present q.u2.val, .present q.u3.val⟩
          else .absent }
  else .absent

/-- The six values of the Cartesian speed reference. -/
def cartesianSpeed (velocity : CartesianVelocity α) : EgmCartesianSpeed α :=
  let linear := velocity.linear.get
  let angular := velocity.angular.get
  ⟨(if velocity.linear.has then [linear.x.val, linear.y.val, linear.z.val] else [0, 0, 0]) ++
    (if velocity.angular.has then [angular.x.val, angular.y.val, angular.z.val] else [0, 0, 0])⟩

def constructCartesianBody (o : OutputContainer α) (configuration : BaseConfiguration α) :
    Bool × OutputContainer α :=
  let cartesian := o.current.robotCartesian
  let sensor := if cartesian.pose.has then
    { o.egmSensor with planned := o.egmSensor.planned.modify fun planned => { planned with
        cartesian := egmPose cartesian.pose.get } }
    else o.egmSensor
  let wantsSpeed := configuration.useVelocityOutputs && cartesian.velocity.has
  let sensor := if wantsSpeed then
    { sensor with speedRef := sensor.speedRef.modify fun speedRef => { speedRef with
        cartesians := .present (cartesianSpeed cartesian.velocity.get) } }
    else sensor
  (cartesian.pose.has && (!configuration.useVelocityOutputs || wantsSpeed),
    { o with egmSensor := sensor })

def constructReply (o : OutputContainer α) (configuration : BaseConfiguration α) :
    OutputContainer α :=
  let o := o.constructHeader
  let joints := o.constructJointBody configuration
  if joints.1 then
    let cartesian := joints.2.constructCartesianBody configuration
    if cartesian.1 then
      { cartesian.2 with reply := cartesian.2.egmSensor.serializeToString }
    else { cartesian.2 with reply := none }
  else { joints.2 with reply := none }

/-! ### Demo outputs -/

variable [LinearOrder α] [Cmath α]

/-- `generateDemoQuaternions`: Slerp from the initial orientation to a fixed one. -/
def generateDemoQuaternions (o : OutputContainer α) (inputs : InputContainer α) (t : α) :
    OutputContainer α :=
  let q1 := inputs.initial.feedback.get.robotCartesian.pose.get.quaternion.get
  let q := (Euler.of (-90 : α) 0 180).convert
  let q2 := if dotProduct q q1 < 0 then
    Quaternion.of (-q.u0.val) (-q.u1.val) (-q.u2.val) (-q.u3.val) else q
  let omega := Cmath.acos (dotProduct q1 q2)
  let k := 1 / Cmath.sin omega
  let a := Cmath.sin ((1 - t) * omega) * k
  let b := Cmath.sin (t * omega) * k
  let q3 := Quaternion.of (a * q1.u0.val + b * q2.u0.val) (a * q1.u1.val + b * q2.u1.val)
    (a * q1.u2.val + b * q2.u2.val) (a * q1.u3.val + b * q2.u3.val)
  let norm := euclideanNorm q3
  let q4 := Quaternion.of (q3.u0.val / norm) (q3.u1.val / norm) (q3.u2.val / norm)
    (q3.u3.val / norm)
  { o with current := o.current.modifyRobotCartesian fun c => { c with
      pose := c.pose.modify fun pose => { pose with
        quaternion := .present q4
        euler := pose.euler.modify q4.convert } } }

/-- Follow cosine curves around the initial feedback. -/
def generateDemoOutputs [FloorRing α] (o : OutputContainer α) (inputs : InputContainer α) :
    OutputContainer α :=
  let seqno : UInt32 := o.sequenceNumber
  let TS := inputs.estimatedSampleTime
  let RAMP_IN : α := 3
  let seqnoRampInEnd : UInt32 := .ofNat ⌊RAMP_IN / TS⌋.toNat
  let initialFdb := inputs.initial.feedback.get
  let currentFdb := inputs.current.feedback.get
  -- joint space
  let a : α := 5 / 2
  let b := Cmath.pi * TS / RAMP_IN
  let freq : α := 8 / 10
  let n : α := (seqno.toNat : α)
  let m : α := ((seqno - seqnoRampInEnd).toNat : α)
  let rampedIn := decide (seqnoRampInEnd + 1 < seqno)
  let dist := if rampedIn then -2 * a * Cmath.cos (b * m * freq) else a * Cmath.cos (b * n) - a
  let speedDist := if rampedIn then 2 * (a * b) * freq * Cmath.sin (b * m * freq) / TS
    else -(a * b) * Cmath.sin (b * n) / TS
  let follow (initial current : JointSpace α) (j : JointSpace α) : JointSpace α :=
    { position := j.position.modify (·.update current.position.get.valuesSize fun i _ =>
        initial.position.get.value i + dist)
      velocity := j.velocity.modify (·.update current.velocity.get.valuesSize fun _ _ =>
        speedDist) }
  let current := (o.current.modifyRobotJoints
    (follow initialFdb.robotJoints currentFdb.robotJoints)).modifyExternalJoints
      (follow initialFdb.externalJoints currentFdb.externalJoints)
  -- Cartesian space
  let a : α := 200 / 2
  let b := Cmath.pi * TS
  let freq : α := 2 / 10
  let xDist := a * (Cmath.cos (1 / 4 * b * n * freq + Cmath.pi) + 1)
  let zDist := a / 2 * Cmath.cos (1 / 2 * b * n * freq + 3 / 2 * Cmath.pi)
  let p := initialFdb.robotCartesian.pose.get.position.get
  let current := current.modifyRobotCartesian fun c => { c with
    pose := c.pose.modify fun pose => { pose with
      position := .present (.of (p.x.val + xDist) (p.y.val + xDist) (p.z.val + zDist)) } }
  let t := 1 / 2 * (Cmath.cos (1 / 4 * b * n * freq + Cmath.pi) + 1)
  { o with current := current }.generateDemoQuaternions inputs t

end OutputContainer

end AbbWrapper
