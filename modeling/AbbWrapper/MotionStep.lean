import AbbWrapper.Containers
import AbbWrapper.Interpolator

/-! # Motion steps and the output controller

`TrajectoryMotion::MotionStep` holds the external goal (a point as the user gave it), the internal
goal (the point completed with what the external goal leaves out), the interpolation (the current
reference) and the interpolator; `TrajectoryMotion::Controller` turns the interpolation into the
outputs.

* The Euler fields of the internal goal and of the interpolation hold angular velocities.
* The functions that the source overloads for robot and external joints, or for positions and
  velocities, are one function here, with what differs as an argument (`transferJoints`,
  `prepareStatic`, `calculateJoints`); those of the source are applications of it.
* `condition_met_` starts as true in every call of the source, so it is a local value (`conditionMet`).
* What the output controller calculates of a coordinate is either `follow`, the feedback with the gain
  times its error added, or `transition`, from a start value to a reference that is ramped out. -/

namespace AbbWrapper

open Protobuf

variable {α : Type}

/-! ### Motion steps -/

/-- `ProcessData`: what the motion step knows besides its goals. -/
structure ProcessData (α : Type) where
  mode : EGMModes
  timePassed : α
  estimatedSampleTime : α
  durationFactor : α
  feedback : Feedback α
deriving DecidableEq, Repr

/-- `MotionStep`: the goals, the current reference and the interpolator. -/
structure MotionStep (α : Type) where
  data : ProcessData α
  internalGoal : PointGoal α
  externalGoal : PointGoal α
  interpolation : PointGoal α
  interpolator : EGMInterpolator α
  interpolatorConditions : Conditions α
  configurations : TrajectoryConfiguration α
deriving DecidableEq, Repr

variable [Field α]

/-- The reset of the velocities and accelerations of an internal goal.  All joint vectors get
`n` zeros, the external ones as well. -/
def PointGoal.resetVelocities (n : ℕ) (p : PointGoal α) : PointGoal α :=
  ((p.modifyRobotJoints fun j =>
      { j with velocity := .present (.reset n), acceleration := .present (.reset n) }
    ).modifyRobotCartesian fun c =>
      { pose := c.pose.modify fun pose => { pose with euler := .present .reset }
        velocity := .present .reset
        acceleration := .present .reset }
    ).modifyExternalJoints fun j =>
      { j with velocity := .present (.reset n), acceleration := .present (.reset n) }

namespace MotionStep

/-- `CONDITION`, 0.005 degrees or mm. -/
def CONDITION : α := 5 / 1000
/-- `RAMP_DOWN_STOP_DURATION`, 1 s. -/
def rampDownStopDuration : α := 1
/-- `STATIC_GOAL_DURATION`, 5 s. -/
def staticGoalDuration : α := 5
/-- `STATIC_GOAL_DURATION_SHORT`, 0.1 s. -/
def staticGoalDurationShort : α := 1 / 10

def init (configurations : TrajectoryConfiguration α) : MotionStep α where
  data := ⟨.egmJoint, 0, Constants.lowestSampleTime α, 1, {}⟩
  internalGoal := {}
  externalGoal := {}
  interpolation := {}
  interpolator := .init
  interpolatorConditions := .init
  configurations := configurations

/-- The count used for robot and for external joints alike. -/
def robotJoints (m : MotionStep α) : ℕ := m.data.feedback.robotJoints.position.get.valuesSize

def resetMotionStep (m : MotionStep α) : MotionStep α :=
  let feedback := m.data.feedback
  let pose := feedback.robotCartesian.pose.get
  let goal : PointGoal α := ((({} : PointGoal α).modifyRobotJoints fun j =>
      { j with position := .present feedback.robotJoints.position.get }
    ).modifyRobotCartesian fun c => c.modifyPose fun p =>
      { p with position := .present pose.position.get, quaternion := .present pose.quaternion.get }
    ).modifyExternalJoints fun j =>
      { j with position := .present feedback.externalJoints.position.get }
  let goal := goal.resetVelocities m.robotJoints
  { m with
    internalGoal := goal
    externalGoal := {}
    interpolation := goal
    data := { m.data with timePassed := 0, mode := .egmJoint } }

section transfer
variable [LinearOrder α] [Cmath α]

/-- The orientation of a transferred goal: Euler angles complete those of the current quaternion
and are converted, a quaternion is copied where it is present. -/
def transferOrientation (source pose : CartesianPose α) : CartesianPose α :=
  if source.euler.has then
    let temp := (pose.quaternion.get.convert {}).copyPresent source.euler.get
    { pose with quaternion := .present (normalize temp.convert) }
  else if source.quaternion.has then
    { pose with quaternion := pose.quaternion.modify (·.copyPresent source.quaternion.get) }
  else pose

omit [LinearOrder α] [Cmath α] in
/-- `copyPresent` for the three vectors of a joint goal. -/
def transferJoints (source joints : JointGoal α) : JointGoal α :=
  { position := joints.position.modify (·.copyPresent source.position.get)
    velocity := joints.velocity.modify (·.copyPresent source.velocity.get)
    acceleration := joints.acceleration.modify (·.copyPresent source.acceleration.get) }

def transferRobotGoal (source : RobotGoal α) (goal : PointGoal α) : PointGoal α :=
  let cartesian := source.cartesian.get
  (goal.modifyRobotJoints (transferJoints source.joints.get)).modifyRobotCartesian fun c =>
    { pose := c.pose.modify fun pose => transferOrientation cartesian.pose.get
        { pose with
          position := pose.position.modify (·.copyPresent cartesian.pose.get.position.get) }
      velocity := c.velocity.modify (·.copyPresent cartesian.velocity.get)
      acceleration := c.acceleration.modify (·.copyPresent cartesian.acceleration.get) }

omit [LinearOrder α] [Cmath α] in
def transferExternalGoal (source : ExternalGoal α) (goal : PointGoal α) : PointGoal α :=
  goal.modifyExternalJoints (transferJoints source.joints.get)

def transferStaticPositionGoal (source : StaticPositionGoal α) (goal : PointGoal α) : PointGoal α :=
  let cartesian := source.robot.get.cartesian.get
  ((goal.modifyRobotJoints fun j =>
      { j with position := j.position.modify (·.copyPresent source.robot.get.joints.get) }
    ).modifyRobotCartesian fun c => c.modifyPose fun pose => transferOrientation cartesian
      { pose with position := pose.position.modify (·.copyPresent cartesian.position.get) }
    ).modifyExternalJoints fun j =>
      { j with position := j.position.modify (·.copyPresent source.external.get) }

omit [LinearOrder α] [Cmath α] in
def transferStaticVelocityGoal (source : StaticVelocityGoal α) (goal : PointGoal α) : PointGoal α :=
  let cartesian := source.robot.get.cartesian.get
  ((goal.modifyRobotJoints fun j =>
      { j with velocity := j.velocity.modify (·.copyPresent source.robot.get.joints.get) }
    ).modifyRobotCartesian fun c =>
      { c with
        velocity := c.velocity.modify (·.copyPresent cartesian.linear.get)
        pose := c.pose.modify fun pose =>
          { pose with euler := pose.euler.modify (·.copyPresent cartesian.angular.get) } }
    ).modifyExternalJoints fun j =>
      { j with velocity := j.velocity.modify (·.copyPresent source.external.get) }

end transfer

section prepare
variable [LinearOrder α] [Cmath α]

/-- The estimate for a goal without duration, at one degree or mm per second. -/
def estimateDuration (m : MotionStep α) : α :=
  let goal := m.internalGoal
  let feedback := m.data.feedback
  let external := goal.externalJoints.position.get.findMaxDifference
    feedback.externalJoints.position.get
  match m.data.mode with
  | .egmJoint =>
      max (max 0 (goal.robotJoints.position.get.findMaxDifference
        feedback.robotJoints.position.get)) external
  | .egmPose =>
      let goalPose := goal.robotCartesian.pose.get
      let feedbackPose := feedback.robotCartesian.pose.get
      max (max (goalPose.position.get.findMaxDifference feedbackPose.position.get)
        ((goalPose.quaternion.get.convert {}).findMaxDifference feedbackPose.euler.get)) external

/-- Complete the internal goal from the external one.  A goal without duration loses its
velocities and accelerations, as does the last point of a trajectory. -/
def prepareNormalGoal (m : MotionStep α) (lastPoint : Bool) : MotionStep α :=
  let external := m.externalGoal
  let n := m.robotJoints
  let mode := if external.robot.get.cartesian.has then EGMModes.egmPose else .egmJoint
  let goal := m.internalGoal.resetVelocities n
  let goal := { goal with
    reach := .present (if external.reach.has then external.reach.get else false) }
  let goal := transferExternalGoal external.external.get (transferRobotGoal external.robot.get goal)
  let goal := if lastPoint then { goal with reach := .present true }.resetVelocities n else goal
  let m := { m with data := { m.data with mode := mode }, internalGoal := goal }
  let duration := if external.duration.has then external.duration.val else m.estimateDuration
  let goal := if external.duration.has then goal else goal.resetVelocities n
  let duration := m.data.durationFactor * duration
  { m with
    internalGoal := { goal with duration := .present duration }
    interpolatorConditions := { m.interpolatorConditions with
      mode := mode
      duration := duration
      operation := .normal
      splineMethod := m.configurations.splineMethod } }

omit [LinearOrder α] [Cmath α] in
/-- A complete stop, or a ramp down to half of the current velocity. -/
def prepareRampDownGoal (m : MotionStep α) (doStop : Bool) : MotionStep α :=
  { m with interpolatorConditions := { m.interpolatorConditions with
      mode := m.data.mode
      operation := .rampDown
      duration := if doStop then rampDownStopDuration else rampDownStopDuration / 2
      rampDownFactor := if doStop then 0 else 1 / 2 } }

omit [LinearOrder α] [Cmath α] in
/-- What the two `prepareStaticGoal` have in common; `goal` is the transferred internal goal. -/
def prepareStatic (m : MotionStep α) (mode : EGMModes) (goal : PointGoal α) (operation : Operation)
    (fastTransition : Bool) : MotionStep α :=
  { m with
    data := { m.data with mode := mode }
    internalGoal := goal
    interpolatorConditions := { m.interpolatorConditions with
      mode := mode
      duration := if fastTransition then staticGoalDurationShort else staticGoalDuration
      operation := operation } }

def prepareStaticPositionGoal (m : MotionStep α) (positionGoal : StaticPositionGoal α)
    (fastTransition : Bool) : MotionStep α :=
  m.prepareStatic (if positionGoal.robot.get.cartesian.has then .egmPose else .egmJoint)
    (transferStaticPositionGoal positionGoal m.interpolation) .rampInPosition fastTransition

omit [LinearOrder α] [Cmath α] in
def prepareStaticVelocityGoal (m : MotionStep α) (velocityGoal : StaticVelocityGoal α)
    (fastTransition : Bool) : MotionStep α :=
  m.prepareStatic (if velocityGoal.robot.get.cartesian.has then .egmPose else .egmJoint)
    (transferStaticVelocityGoal velocityGoal m.interpolation) .rampInVelocity fastTransition

end prepare

section conditions
variable [LinearOrder α]

/-- `checkConditions(Joints, Joints)`: stops at the first joint that is too far away. -/
def checkJoints (conditionMet : Bool) (goal feedback : Joints α) : Bool :=
  conditionMet &&
    (List.zipWith (fun g f => decide (|g - f| < CONDITION)) goal.values feedback.values).all id

/-- `checkConditions(Cartesian, Cartesian)`: the earlier result is not read. -/
def checkCartesian (goal feedback : Cartesian α) : Bool :=
  decide (|goal.x.val - feedback.x.val| < CONDITION) &&
    decide (|goal.y.val - feedback.y.val| < CONDITION) &&
    decide (|goal.z.val - feedback.z.val| < CONDITION)

/-- `checkConditions(Quaternion, Quaternion)`. -/
def checkQuaternion (conditionMet : Bool) (goal feedback : Quaternion α) : Bool :=
  conditionMet && decide (1 ≤ |dotProduct goal feedback|)

/-- `condition_met_` starts as true in every call, so it is a local value here. -/
def conditionMet (m : MotionStep α) : Bool :=
  let goal := m.internalGoal
  let feedback := m.data.feedback
  let externalGoal := goal.externalJoints.position.get
  let externalFeedback := feedback.externalJoints.position.get
  match m.data.mode with
  | .egmJoint =>
      checkJoints (checkJoints true goal.robotJoints.position.get feedback.robotJoints.position.get)
        externalGoal externalFeedback
  | .egmPose =>
      let goalPose := goal.robotCartesian.pose.get
      let feedbackPose := feedback.robotCartesian.pose.get
      checkJoints (checkQuaternion (checkCartesian goalPose.position.get feedbackPose.position.get)
        goalPose.quaternion.get feedbackPose.quaternion.get) externalGoal externalFeedback

def interpolationDurationReached (m : MotionStep α) : Bool :=
  decide (m.interpolator.getDuration - m.data.timePassed < 1 / 2 * Constants.lowestSampleTime α)

variable [Cmath α]

def updateInterpolator (m : MotionStep α) : MotionStep α :=
  let interpolation := { m.interpolation with
    reach := .present m.internalGoal.reach.get
    duration := .present m.interpolatorConditions.duration }
  { m with
    data := { m.data with timePassed := 0 }
    interpolation := interpolation
    interpolator := m.interpolator.update interpolation m.internalGoal m.interpolatorConditions }

def evaluateInterpolator (m : MotionStep α) : MotionStep α :=
  let timePassed := m.data.timePassed + m.data.estimatedSampleTime
  { m with
    data := { m.data with timePassed := timePassed }
    interpolation := m.interpolator.evaluate m.interpolation m.data.estimatedSampleTime timePassed }

end conditions

omit [Field α] in
def updateConfigurations (m : MotionStep α) (configurations : TrajectoryConfiguration α) :
    MotionStep α :=
  { m with configurations := configurations }

end MotionStep

/-! ### The output controller -/

/-- `States` of the state manager. -/
inductive States where
  | normal | rampDown | staticGoal
deriving DecidableEq, Repr

/-- `SubStates` of the state manager. -/
inductive SubStates where
  | none | running | finished
deriving DecidableEq, Repr

/-- `Controller`: it turns the references into outputs; `a` and `b` are ramp factors, `k` is the gain. -/
structure Controller (α : Type) where
  egmMode : EGMModes
  initialReferences : PointGoal α
  isNormalState : Bool
  isLinear : Bool
  doVelocityTransition : Bool
  a : α
  b : α
  k : α
deriving DecidableEq, Repr

namespace Controller

def init : Controller α := ⟨.egmJoint, {}, false, false, false, 1, 1, 1⟩

omit [Field α] in
def update (c : Controller α) (state : States) (m : MotionStep α)
    (configurations : TrajectoryConfiguration α) : Controller α :=
  { c with
    isNormalState := state = .normal
    isLinear := configurations.splineMethod = .linear
    egmMode := m.data.mode
    initialReferences := m.interpolation }

/-- `k_*(ref - fdb)` added to the feedback. -/
def follow (c : Controller α) (ref fdb : α) : α := fdb + c.k * (ref - fdb)

/-- The transition from a start value to a reference that is ramped out. -/
def transition (c : Controller α) (ref start : α) : α := c.a * (start + c.b * (ref - start))

/-- `calculate(Joints*, …)`: the new output and the new reference. -/
def calculateJoints (c : Controller α) (out ref fdb start : Joints α) : Joints α × Joints α :=
  let n := min out.valuesSize (min ref.valuesSize (min fdb.valuesSize start.valuesSize))
  let ref := if c.doVelocityTransition then
    ref.update n fun i r => if c.isLinear then c.transition r (start.value i) else c.a * r
    else ref
  (out.update n fun i _ => c.follow (ref.value i) (fdb.value i), ref)

/-- `calculate(Cartesian*, …)`: the new output and the new reference. -/
def calculateCartesian (c : Controller α) (ref fdb start : Cartesian α) :
    Cartesian α × Cartesian α :=
  let ref := if c.doVelocityTransition then
    if c.isLinear then
      Cartesian.of (c.transition ref.x.val start.x.val) (c.transition ref.y.val start.y.val)
        (c.transition ref.z.val start.z.val)
    else ref.multiply c.a
    else ref
  (.of (c.follow ref.x.val fdb.x.val) (c.follow ref.y.val fdb.y.val)
    (c.follow ref.z.val fdb.z.val), ref)

/-- `calculate(Euler*, …)`: the new output and the new reference.  The transition depends on the
state only, neither on the reach flag nor on the spline method. -/
def calculateEuler (c : Controller α) (ref fdb start : Euler α) : Euler α × Euler α :=
  let ref := if c.isNormalState then
    Euler.of (c.transition ref.x.val start.x.val) (c.transition ref.y.val start.y.val)
      (c.transition ref.z.val start.z.val)
    else ref
  (.of (c.follow ref.x.val fdb.x.val) (c.follow ref.y.val fdb.y.val)
    (c.follow ref.z.val fdb.z.val), ref)

/-- The acceleration references are ramped out together with the velocities. -/
def checkForVelocityTransition (c : Controller α) (references : PointGoal α) :
    Controller α × PointGoal α :=
  let c := if c.isNormalState then
    { c with doVelocityTransition := if references.reach.get then true else c.isLinear }
    else c
  let references := if c.doVelocityTransition then
    ((references.modifyRobotJoints fun j =>
        { j with acceleration := j.acceleration.modify (·.multiply c.a) }
      ).modifyRobotCartesian fun g =>
        { g with acceleration := g.acceleration.modify (·.multiply c.a) }
      ).modifyExternalJoints fun j =>
        { j with acceleration := j.acceleration.modify (·.multiply c.a) }
    else references
  (c, references)

section calculate
variable [LinearOrder α] [Cmath α]

/-- `calculate(Quaternion*, …)`. -/
def calculateQuaternion (c : Controller α) (ref fdb : Quaternion α) : Quaternion α :=
  normalize (.of (c.follow ref.u0.val fdb.u0.val) (c.follow ref.u1.val fdb.u1.val)
    (c.follow ref.u2.val fdb.u2.val) (c.follow ref.u3.val fdb.u3.val))

omit [LinearOrder α] [Cmath α] in
/-- The external joint positions, as both modes calculate them. -/
def calculateExternalPosition (c : Controller α) (output : Output α) (m : MotionStep α) :
    Output α × MotionStep α :=
  let r := c.calculateJoints output.externalJoints.position.get
    m.interpolation.externalJoints.position.get m.data.feedback.externalJoints.position.get
    c.initialReferences.externalJoints.position.get
  (output.modifyExternalJoints (·.setPosition r.1),
    { m with
      interpolation := m.interpolation.modifyExternalJoints fun j =>
        { j with position := .present r.2 } })

omit [LinearOrder α] [Cmath α] in
/-- The external joint velocities, as both modes calculate them. -/
def calculateExternalVelocity (c : Controller α) (output : Output α) (m : MotionStep α) :
    Output α × MotionStep α :=
  let r := c.calculateJoints output.externalJoints.velocity.get
    m.interpolation.externalJoints.velocity.get m.data.feedback.externalJoints.velocity.get
    c.initialReferences.externalJoints.velocity.get
  (output.modifyExternalJoints (·.setVelocity r.1),
    { m with
      interpolation := m.interpolation.modifyExternalJoints fun j =>
        { j with velocity := .present r.2 } })

omit [LinearOrder α] [Cmath α] in
/-- The robot joint positions of joint mode. -/
def calculateRobotPosition (c : Controller α) (output : Output α) (m : MotionStep α) :
    Output α × MotionStep α :=
  let r := c.calculateJoints output.robotJoints.position.get
    m.interpolation.robotJoints.position.get m.data.feedback.robotJoints.position.get
    c.initialReferences.robotJoints.position.get
  (output.modifyRobotJoints (·.setPosition r.1),
    { m with
      interpolation := m.interpolation.modifyRobotJoints fun j =>
        { j with position := .present r.2 } })

omit [LinearOrder α] [Cmath α] in
/-- The robot joint velocities of joint mode. -/
def calculateRobotVelocity (c : Controller α) (output : Output α) (m : MotionStep α) :
    Output α × MotionStep α :=
  let r := c.calculateJoints output.robotJoints.velocity.get
    m.interpolation.robotJoints.velocity.get m.data.feedback.robotJoints.velocity.get
    c.initialReferences.robotJoints.velocity.get
  (output.modifyRobotJoints (·.setVelocity r.1),
    { m with
      interpolation := m.interpolation.modifyRobotJoints fun j =>
        { j with velocity := .present r.2 } })

/-- The pose of pose mode. -/
def calculatePose (c : Controller α) (output : Output α) (m : MotionStep α) :
    Output α × MotionStep α :=
  let feedback := m.data.feedback.robotCartesian.pose.get
  let reference := m.interpolation.robotCartesian.pose.get
  let r := c.calculateCartesian reference.position.get feedback.position.get
    c.initialReferences.robotCartesian.pose.get.position.get
  let q := c.calculateQuaternion reference.quaternion.get feedback.quaternion.get
  (output.modifyRobotCartesian fun cartesian => { cartesian with
      pose := cartesian.pose.modify fun pose => { pose with
        position := .present r.1, quaternion := .present q } },
    { m with
      interpolation := m.interpolation.modifyRobotCartesian fun g =>
        g.modifyPose fun pose => { pose with position := .present r.2 } })

omit [LinearOrder α] [Cmath α] in
/-- The linear velocity of pose mode. -/
def calculateLinear (c : Controller α) (output : Output α) (m : MotionStep α) :
    Output α × MotionStep α :=
  let r := c.calculateCartesian m.interpolation.robotCartesian.velocity.get
    m.data.feedback.robotCartesian.velocity.get.linear.get
    c.initialReferences.robotCartesian.velocity.get
  (output.modifyRobotCartesian fun cartesian => { cartesian with
      velocity := cartesian.velocity.modify fun v => { v with linear := .present r.1 } },
    { m with
      interpolation := m.interpolation.modifyRobotCartesian fun g =>
        { g with velocity := .present r.2 } })

omit [LinearOrder α] [Cmath α] in
/-- The angular velocity of pose mode. -/
def calculateAngular (c : Controller α) (output : Output α) (m : MotionStep α) :
    Output α × MotionStep α :=
  let r := c.calculateEuler m.interpolation.robotCartesian.pose.get.euler.get
    m.data.feedback.robotCartesian.velocity.get.angular.get
    c.initialReferences.robotCartesian.pose.get.euler.get
  (output.modifyRobotCartesian fun cartesian => { cartesian with
      velocity := cartesian.velocity.modify fun v => { v with angular := .present r.1 } },
    { m with
      interpolation := m.interpolation.modifyRobotCartesian fun g =>
        g.modifyPose fun pose => { pose with euler := .present r.2 } })

/-- The ramp factors of the current time. -/
def scaleFactors (c : Controller α) (m : MotionStep α) : Controller α :=
  let t := saturate (m.data.timePassed / m.interpolation.duration.val) 0 1
  { c with
    doVelocityTransition := false
    a := if m.interpolation.reach.get then 1 / 2 * Cmath.cos (Cmath.pi * t) + 1 / 2 else 1
    b := 1 / 2 * Cmath.cos (Cmath.pi * t + Cmath.pi) + 1 / 2 }

/-- `calculate(Output*, MotionStep*)`. -/
def calculate (c : Controller α) (output : Output α) (m : MotionStep α) :
    Controller α × Output α × MotionStep α :=
  let output := output.modifyRobotCartesian fun cartesian => { cartesian with
    pose := cartesian.pose.modify fun pose => { pose with euler := .absent } }
  let c := c.scaleFactors m
  match c.egmMode with
  | .egmJoint =>
      let r := c.calculateRobotPosition output m
      let r := c.calculateExternalPosition r.1 r.2
      let check := c.checkForVelocityTransition r.2.interpolation
      let r := check.1.calculateRobotVelocity r.1 { r.2 with interpolation := check.2 }
      (check.1, check.1.calculateExternalVelocity r.1 r.2)
  | .egmPose =>
      let r := c.calculatePose output m
      let r := c.calculateExternalPosition r.1 r.2
      let check := c.checkForVelocityTransition r.2.interpolation
      let r := check.1.calculateLinear r.1 { r.2 with interpolation := check.2 }
      let r := check.1.calculateExternalVelocity r.1 r.2
      (check.1, check.1.calculateAngular r.1 r.2)

end calculate
end Controller

end AbbWrapper
