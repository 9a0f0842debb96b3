import Mathlib.Data.Int.Bitwise
import AbbWrapper.ArrayAccess
import AbbWrapper.Auxiliary
import AbbWrapper.Rapid

/-! # The controller bridge

`controller_bridge`: the arrays that its constructor sizes, the callbacks of its topics and of its
service, and the state machine of `run`.

* The kinematic chain is that of the KDL library, with the number of joints that it counts
  (`KDL.Chain`): fixed joints are segments of the chain, and not counted.
* What is read behind the end of an array is zero here, and what is written there is lost.
  `accesses` lists the indices with which the command arrays are accessed, so that one can tell which
  runs that concerns (`CommandArrays.lean`).
* `run` returns the bridge with what it writes to the EGM interface, which is nothing in the round in
  which a controller sees its first message.
* `measuredJoints` is the loop that reads the joints of a message, for six and for seven of them, and
  `commandLoop` the loop that writes them; `JointOrder.lean` proves that they agree.
* The commands are in radians and metres, and the messages in degrees and millimetres. -/

namespace KDL

/-- `Joint::JointType`. -/
inductive JointType where
  | rotAxis
  | rotX
  | rotY
  | rotZ
  | transAxis
  | transX
  | transY
  | transZ
  | none
deriving DecidableEq, Repr

/-- A joint of a segment of the chain. -/
structure Joint where
  name : AbbWrapper.Text
  type : JointType
deriving DecidableEq, Repr

/-- The joint that a segment has at its root. -/
structure Segment where
  joint : Joint
deriving DecidableEq, Repr

def Segment.movable (segment : Segment) : Bool := segment.joint.type ≠ .none

/-- Segments with the number of those that can move. -/
structure Chain where
  segments : List Segment
  nrOfJoints : ℕ
  nrOfJoints_eq : nrOfJoints = segments.countP Segment.movable

/-- The joints that are counted, and that the solvers number. -/
def Chain.joints (chain : Chain) : List Joint :=
  (chain.segments.filter Segment.movable).map Segment.joint

def Chain.ofSegments (segments : List Segment) : Chain :=
  ⟨segments, segments.countP Segment.movable, rfl⟩

end KDL

namespace AbbWrapper

open ArrayAccess Protobuf

variable {α : Type}

/-! ### The names of the joints -/

/-- The loop of the constructor over the segments, from the `i`-th on. -/
def nameLoop : ℕ → List KDL.Segment → List Text → List Text
  | _, [], names => names
  | i, segment :: segments, names =>
      if segment.joint.type = .none then nameLoop (i + 1) segments names
      else nameLoop (i + 1) segments (names.set i segment.joint.name)

/-- `joint_curr_.name` after the construction. -/
def jointNames (chain : KDL.Chain) : List Text :=
  nameLoop 0 chain.segments (List.replicate chain.nrOfJoints [])

def nameLoopAccesses : ℕ → List KDL.Segment → List Text → List ArrayAccess
  | _, [], _ => []
  | i, segment :: segments, names =>
      if segment.joint.type = .none then nameLoopAccesses (i + 1) segments names
      else ⟨i, names.length⟩ ::
        nameLoopAccesses (i + 1) segments (names.set i segment.joint.name)

def jointNamesAccesses (chain : KDL.Chain) : List ArrayAccess :=
  nameLoopAccesses 0 chain.segments (List.replicate chain.nrOfJoints [])

/-! ### The bridge -/

/-- `joint_curr_` is the published state, `q_msr_` what the forward kinematics is computed of. -/
structure ControllerBridge (α : Type) where
  kdlChain : KDL.Chain
  firstMsg : Bool
  state : ℤ
  jointCurrName : List Text
  jointCurrPosition : List α
  qMsr : List α
  jointArrayCmd : List α
  poseCmd : List α
  output : Output α

/-- A round of the main loop, or a callback of a topic or of the service. -/
inductive BridgeEvent (α : Type) where
  /-- A round of `run`, with the message if one has come. -/
  | run (input : Option (Input α))
  | jointCmd (data : List α)
  | testJoint (data : α)
  | bridgeCom (controller : ℤ) (start : Bool)

/-! ### Opening the fields of the output -/

/-- `mutable_robot()->mutable_joints()->mutable_position()`. -/
def Output.modifyRobotPosition (f : Joints α → Joints α) (output : Output α) : Output α :=
  { output with robot := output.robot.modify (·.modifyJoints fun joints =>
      { joints with position := joints.position.modify f }) }

/-- `mutable_external()->mutable_joints()->mutable_position()`. -/
def Output.modifyExternalPosition (f : Joints α → Joints α) (output : Output α) : Output α :=
  { output with external := output.external.modify (·.modifyJoints fun joints =>
      { joints with position := joints.position.modify f }) }

/-- `mutable_robot()->mutable_cartesian()->mutable_pose()`. -/
def Output.modifyPose (f : CartesianPose α → CartesianPose α) (output : Output α) : Output α :=
  { output with robot := output.robot.modify (·.modifyCartesian fun cartesian =>
      { cartesian with pose := cartesian.pose.modify f }) }

def Output.robotPosition (output : Output α) : Joints α := output.robot.get.joints.get.position.get

def CartesianPose.modifyPosition (f : Cartesian α → Cartesian α) (pose : CartesianPose α) :
    CartesianPose α :=
  { pose with position := pose.position.modify f }

def CartesianPose.modifyEuler (f : Euler α → Euler α) (pose : CartesianPose α) :
    CartesianPose α :=
  { pose with euler := pose.euler.modify f }

namespace ControllerBridge

/-- `data[i] = values[i]`, for every value. -/
def assign (data values : List α) : List α :=
  values.zipIdx.foldl (fun data value => data.set value.2 value.1) data

section run
variable [Field α]

def toRadians (degrees : α) : α := degrees * 3.14159265358979323846 / 180

def toDegrees (radians : α) : α := radians / 3.14159265358979323846 * 180

/-- The loop over the joints of the chain: `i` is the joint, `j` the next robot joint.  Of seven
joints the third is the first external joint. -/
def measureLoop (nrOfJoints : ℕ) (robot external : Joints α) : ℕ → ℕ → ℕ → List α
  | 0, _, _ => []
  | rounds + 1, i, j =>
      if nrOfJoints = 7 ∧ i = 2 then
        toRadians (external.value 0) :: measureLoop nrOfJoints robot external rounds (i + 1) j
      else toRadians (robot.value j) :: measureLoop nrOfJoints robot external rounds (i + 1) (j + 1)

def measuredJoints (chain : KDL.Chain) (input : Input α) : List α :=
  measureLoop chain.nrOfJoints input.feedback.get.robot.get.joints.get.position.get
    input.feedback.get.external.get.joints.get.position.get chain.nrOfJoints 0 0

theorem length_measureLoop (nrOfJoints : ℕ) (robot external : Joints α) (rounds i j : ℕ) :
    (measureLoop nrOfJoints robot external rounds i j).length = rounds := by
  induction rounds generalizing i j with
  | zero => rfl
  | succ rounds ih =>
      rw [measureLoop]
      split
      · rw [List.length_cons, ih]
      · rw [List.length_cons, ih]

theorem length_measuredJoints (chain : KDL.Chain) (input : Input α) :
    (measuredJoints chain input).length = chain.nrOfJoints :=
  length_measureLoop _ _ _ _ _ _

/-- The pose of the feedback in metres and radians. -/
def measuredPose (pose : CartesianPose α) : List α :=
  [pose.position.get.x.val / 1000, pose.position.get.y.val / 1000, pose.position.get.z.val / 1000,
    toRadians pose.euler.get.x.val, toRadians pose.euler.get.y.val, toRadians pose.euler.get.z.val]

/-- After the construction. -/
def init (chain : KDL.Chain) : ControllerBridge α where
  kdlChain := chain
  firstMsg := true
  state := 2
  jointCurrName := jointNames chain
  jointCurrPosition := List.replicate chain.nrOfJoints 0
  qMsr := List.replicate chain.nrOfJoints 0
  jointArrayCmd := List.replicate chain.nrOfJoints 0
  poseCmd := List.replicate 6 0
  output := {}

def callbackJointCmd (b : ControllerBridge α) (data : List α) : ControllerBridge α :=
  { b with jointArrayCmd := data }

def callbackTestJoint (b : ControllerBridge α) (data : α) : ControllerBridge α :=
  { b with jointArrayCmd := b.jointArrayCmd.set 6 data }

/-- The `int64` of the request is cut to an `int`. -/
def callbackBridgeCom (b : ControllerBridge α) (controller : ℤ) (start : Bool) :
    ControllerBridge α :=
  { b with firstMsg := true, state := if start then controller.bmod (2 ^ 32) else 2 }

variable (isFinite : α → Bool)

/-- A command that is neither infinite nor not a number is written. -/
def writeFinite (data : List α) (i : ℕ) (write : α → Output α → Output α) (output : Output α) :
    Output α :=
  if isFinite (data.getD i 0) then write (data.getD i 0) output else output

/-- The loop that writes the joint commands. -/
def commandLoop (nrOfJoints : ℕ) (jointArrayCmd : List α) : ℕ → ℕ → ℕ → Output α → Output α
  | 0, _, _, output => output
  | rounds + 1, i, j, output =>
      if nrOfJoints = 7 ∧ i = 2 then
        commandLoop nrOfJoints jointArrayCmd rounds (i + 1) j
          (writeFinite isFinite jointArrayCmd i (fun command =>
            Output.modifyExternalPosition fun joints => ⟨joints.values.set 0 (toDegrees command)⟩)
            output)
      else
        commandLoop nrOfJoints jointArrayCmd rounds (i + 1) (j + 1)
          (writeFinite isFinite jointArrayCmd i (fun command =>
            Output.modifyRobotPosition fun joints => ⟨joints.values.set j (toDegrees command)⟩)
            output)

def commandPose (poseCmd : List α) (output : Output α) : Output α :=
  let position (f : α → Cartesian α → Cartesian α) (command : α) : Output α → Output α :=
    Output.modifyPose (CartesianPose.modifyPosition (f (command * 1000)))
  let euler (f : α → Euler α → Euler α) (command : α) : Output α → Output α :=
    Output.modifyPose (CartesianPose.modifyEuler (f (toDegrees command)))
  let output := writeFinite isFinite poseCmd 0 (position fun v c => { c with x := .present v }) output
  let output := writeFinite isFinite poseCmd 1 (position fun v c => { c with y := .present v }) output
  let output := writeFinite isFinite poseCmd 2 (position fun v c => { c with z := .present v }) output
  let output := writeFinite isFinite poseCmd 3 (euler fun v e => { e with x := .present v }) output
  let output := writeFinite isFinite poseCmd 4 (euler fun v e => { e with y := .present v }) output
  writeFinite isFinite poseCmd 5 (euler fun v e => { e with z := .present v }) output

/-- The joint controller: the bridge, and what it writes to the EGM interface. -/
def runJoints (b : ControllerBridge α) (input : Input α) : ControllerBridge α × Option (Output α) :=
  let feedback := input.feedback.get
  if b.firstMsg then
    ({ b with
        output := Output.modifyExternalPosition
          (fun _ => feedback.external.get.joints.get.position.get)
          (Output.modifyRobotPosition (fun _ => feedback.robot.get.joints.get.position.get) {})
        jointArrayCmd := assign [] (measuredJoints b.kdlChain input)
        firstMsg := false }, none)
  else
    -- asking for the size makes the field present
    let output := b.output.modifyRobotPosition id
    if 1 < output.robotPosition.valuesSize then
      let n := b.kdlChain.nrOfJoints
      let output := commandLoop isFinite n b.jointArrayCmd n 0 0 output
      ({ b with output := output }, some output)
    else ({ b with output := output }, none)

/-- The pose controller. -/
def runPose (b : ControllerBridge α) (input : Input α) : ControllerBridge α × Option (Output α) :=
  if b.firstMsg then
    let pose := input.feedback.get.robot.get.cartesian.get.pose.get
    ({ b with
        output := Output.modifyPose (fun _ => pose) {}
        poseCmd := assign [] (measuredPose pose)
        firstMsg := false }, none)
  else
    let output := b.output.modifyRobotPosition id
    let output := if 1 < output.robotPosition.valuesSize then
        commandPose isFinite b.poseCmd output
      else output
    ({ b with output := output }, some output)

def run (b : ControllerBridge α) : Option (Input α) → ControllerBridge α × Option (Output α)
  | none => (b, none)
  | some input =>
      let measured := measuredJoints b.kdlChain input
      let b := { b with jointCurrPosition := measured, qMsr := measured }
      if b.state = 0 then b.runJoints isFinite input
      else if b.state = 1 then b.runPose isFinite input
      else if b.state = 2 then ({ b with output := {} }, some {})
      else (b, none)

def step (b : ControllerBridge α) : BridgeEvent α → ControllerBridge α
  | .run input => (b.run isFinite input).1
  | .jointCmd data => b.callbackJointCmd data
  | .testJoint data => b.callbackTestJoint data
  | .bridgeCom controller start => b.callbackBridgeCom controller start

end run

/-! ### The accesses to the command arrays -/

/-- `assign`, to an array that has just been cleared. -/
def assignAccesses (data values : List α) : List ArrayAccess := loop values.length 0 [data.length]

def runJointsAccesses [Field α] (b : ControllerBridge α) (input : Input α) : List ArrayAccess :=
  if b.firstMsg then assignAccesses ([] : List α) (measuredJoints b.kdlChain input)
  else if 1 < b.output.robotPosition.valuesSize then
    loop b.kdlChain.nrOfJoints 0 [b.jointArrayCmd.length]
  else []

def runPoseAccesses [Field α] (b : ControllerBridge α) (input : Input α) : List ArrayAccess :=
  if b.firstMsg then
    assignAccesses ([] : List α) (measuredPose input.feedback.get.robot.get.cartesian.get.pose.get)
  else if 1 < b.output.robotPosition.valuesSize then loop 6 0 [b.poseCmd.length]
  else []

def accesses [Field α] (b : ControllerBridge α) : BridgeEvent α → List ArrayAccess
  | .run none => []
  | .run (some input) =>
      if b.state = 0 then b.runJointsAccesses input
      else if b.state = 1 then b.runPoseAccesses input
      else []
  | .jointCmd _ => []
  | .testJoint _ => [⟨6, b.jointArrayCmd.length⟩, ⟨6, b.jointArrayCmd.length⟩]
  | .bridgeCom _ _ => []

end ControllerBridge

end AbbWrapper
