import AbbWrapper.ActivationStart
import AbbWrapper.ArrayAccess
import AbbWrapper.VectorSizes

/-! # The accesses of a callback

What a callback of the trajectory interface accesses by index: the vectors of joint values, and the
array of spline polynomials.  There is one definition for each function with such accesses, of the
shape of the function and with `Accesses` at the end of its name; it lists the accesses in order, each
as an index with the number of elements of its array (`ArrayAccess`).

Most loops end with the shortest of the vectors they go through.  The others are those of
`EGMInterpolator`, which end with the positions of the start or of the output, and add `offset_`
after that, and those of the demo outputs, which end with the feedback.

* `processAccesses` are those of the processing of a goal, which are in range whatever the state is
  (`inRange_process`), and `constructJointBodyAccesses` those of a reply (`inRange_constructJointBody`).
* `updateAccesses` and `evaluateAccesses` are those of the interpolator; whether they are in range
  depends on the sizes of the references, and on the number of polynomials.
* `executeAccesses` are those of a whole callback, and `AccessesInRange` says that they are in range:
  `IndexRange.lean` proves it of the runs whose messages have room for their joints. -/

namespace AbbWrapper

open ArrayAccess Protobuf Runs

variable {α β : Type}

/-! ### Inputs and goals -/

/-- The loop of `copyPresent`, of `findMaxDifference`, of `estimateVelocities` and, up to the first
joint that is too far away, of `checkConditions`. -/
def Joints.pairAccesses (j1 j2 : Joints α) : List ArrayAccess :=
  guarded j1.valuesSize [j2.valuesSize]

@[simp] theorem Joints.inRange_pairAccesses (j1 j2 : Joints α) : InRange (j1.pairAccesses j2) :=
  inRange_guarded _ _

def Feedback.estimateVelocitiesAccesses (current previous : Feedback α) : List ArrayAccess :=
  current.robotJoints.position.get.pairAccesses previous.robotJoints.position.get ++
    current.externalJoints.position.get.pairAccesses previous.externalJoints.position.get

def InputContainer.estimateAllVelocitiesAccesses (i : InputContainer α) : List ArrayAccess :=
  i.current.feedback.get.estimateVelocitiesAccesses i.previous.feedback.get ++
    i.current.planned.get.estimateVelocitiesAccesses i.previous.planned.get

theorem InputContainer.inRange_estimateAllVelocities (i : InputContainer α) :
    InRange i.estimateAllVelocitiesAccesses := by
  simp [estimateAllVelocitiesAccesses, Feedback.estimateVelocitiesAccesses]

namespace MotionStep

def transferJointsAccesses (source joints : JointGoal α) : List ArrayAccess :=
  joints.position.get.pairAccesses source.position.get ++
    joints.velocity.get.pairAccesses source.velocity.get ++
    joints.acceleration.get.pairAccesses source.acceleration.get

/-- `conditionMet` and `estimateDuration` go through the same vectors. -/
def comparisonAccesses (m : MotionStep α) : List ArrayAccess :=
  let goal := m.internalGoal
  let feedback := m.data.feedback
  let external := goal.externalJoints.position.get.pairAccesses
    feedback.externalJoints.position.get
  match m.data.mode with
  | .egmJoint =>
      goal.robotJoints.position.get.pairAccesses feedback.robotJoints.position.get ++ external
  | .egmPose => external

@[simp] theorem inRange_comparisonAccesses (m : MotionStep α) : InRange m.comparisonAccesses := by
  unfold comparisonAccesses
  cases m.data.mode <;> simp

variable [Field α] [LinearOrder α] [Cmath α]

def prepareNormalGoalAccesses (m : MotionStep α) (lastPoint : Bool) : List ArrayAccess :=
  let external := m.externalGoal
  let goal := m.internalGoal.resetVelocities m.robotJoints
  transferJointsAccesses external.robot.get.joints.get goal.robotJoints ++
    transferJointsAccesses external.external.get.joints.get goal.externalJoints ++
    if external.duration.has then [] else (m.prepareNormalGoal lastPoint).comparisonAccesses

@[simp] theorem inRange_prepareNormalGoal (m : MotionStep α) (lastPoint : Bool) :
    InRange (m.prepareNormalGoalAccesses lastPoint) := by
  unfold prepareNormalGoalAccesses transferJointsAccesses
  simp only [inRange_append]
  refine ⟨by simp, InRange.ite (fun _ => inRange_nil) fun _ => inRange_comparisonAccesses _⟩

end MotionStep

/-! ### `process` -/

namespace TrajectoryMotion

variable [Field α] [LinearOrder α] [Cmath α]

def reachLoopAccesses (m : MotionStep α) (lastPoint : Bool) : List (PointGoal α) → List ArrayAccess
  | [] => m.prepareNormalGoalAccesses lastPoint ++ (m.prepareNormalGoal lastPoint).comparisonAccesses
  | point :: points =>
      m.prepareNormalGoalAccesses lastPoint ++ (m.prepareNormalGoal lastPoint).comparisonAccesses ++
        if (m.prepareNormalGoal lastPoint).conditionMet then
          reachLoopAccesses { m.prepareNormalGoal lastPoint with externalGoal := point } lastPoint
            points
        else []

def nextGoalAccesses (m : MotionStep α) : List (PointGoal α) → List ArrayAccess
  | [] => []
  | point :: points =>
      let m := { m with externalGoal := point }
      if point.reach.get then reachLoopAccesses m points.isEmpty points
      else m.prepareNormalGoalAccesses points.isEmpty

def updateNormalGoalAccesses (t : TrajectoryMotion α) : List ArrayAccess :=
  match t.trajectories.pCurrent with
  | none => []
  | some current => nextGoalAccesses t.motionStep current.points

def processNormalStateAccesses (t : TrajectoryMotion α) : List ArrayAccess :=
  match t.stateManager.currentSubState with
  | .running =>
      if t.events.doRampDown then []
      else
        match t.trajectories.pCurrent with
        | some _ =>
            if t.motionStep.interpolationDurationReached then
              if t.motionStep.internalGoal.reach.get then
                t.motionStep.comparisonAccesses ++
                  if t.motionStep.conditionMet then t.updateNormalGoalAccesses else []
              else t.updateNormalGoalAccesses
            else []
        | none =>
            match t.trajectories.primaryQueue with
            | [] => []
            | next :: _ => nextGoalAccesses t.motionStep next.points
  | .none | .finished => []

def processRampDownStateAccesses (t : TrajectoryMotion α) : List ArrayAccess :=
  match t.stateManager.currentSubState with
  | .finished =>
      let t := t.handleRampDownEvents
      if t.events.doStop && (!t.events.doResume || t.events.doStaticGoalStart) then []
      else t.updateNormalGoalAccesses
  | .none | .running => []

omit [Field α] [LinearOrder α] [Cmath α] in
/-- The transfer of a static goal into a copy of the references. -/
def applyStaticGoalAccesses (t : TrajectoryMotion α) : List ArrayAccess :=
  let events := t.events
  let goal := t.motionStep.interpolation
  if events.doStaticPositionGoalUpdate && !events.doRampDown then
    goal.robotJoints.position.get.pairAccesses events.staticPositionGoal.robot.get.joints.get ++
      goal.externalJoints.position.get.pairAccesses events.staticPositionGoal.external.get
  else if events.doStaticVelocityGoalUpdate && !events.doRampDown then
    goal.robotJoints.velocity.get.pairAccesses events.staticVelocityGoal.robot.get.joints.get ++
      goal.externalJoints.velocity.get.pairAccesses events.staticVelocityGoal.external.get
  else []

omit [Field α] [LinearOrder α] [Cmath α] in
def processStaticGoalStateAccesses (t : TrajectoryMotion α) : List ArrayAccess :=
  match t.stateManager.currentSubState with
  | .running => t.applyStaticGoalAccesses
  | .none | .finished => []

def processAccesses (t : TrajectoryMotion α) : List ArrayAccess :=
  let t := { t with stateManager := t.stateManager.updateState }
  match t.stateManager.currentState with
  | .normal => t.processNormalStateAccesses
  | .rampDown => t.processRampDownStateAccesses
  | .staticGoal => t.processStaticGoalStateAccesses

theorem inRange_reachLoop (m : MotionStep α) (lastPoint : Bool) (points : List (PointGoal α)) :
    InRange (reachLoopAccesses m lastPoint points) := by
  induction points generalizing m with
  | nil => simp [reachLoopAccesses]
  | cons point points ih =>
      unfold reachLoopAccesses
      simp only [inRange_append, MotionStep.inRange_prepareNormalGoal,
        MotionStep.inRange_comparisonAccesses, true_and]
      exact InRange.ite (fun _ => ih _) fun _ => inRange_nil

theorem inRange_nextGoal (m : MotionStep α) (points : List (PointGoal α)) :
    InRange (nextGoalAccesses m points) := by
  cases points with
  | nil => exact inRange_nil
  | cons point points =>
      exact InRange.ite (fun _ => inRange_reachLoop _ _ _) fun _ =>
        MotionStep.inRange_prepareNormalGoal _ _

theorem inRange_updateNormalGoal (t : TrajectoryMotion α) : InRange t.updateNormalGoalAccesses := by
  unfold updateNormalGoalAccesses
  split
  · exact inRange_nil
  · exact inRange_nextGoal _ _

/-- **Goals are updated within the vectors**, whatever the state is. -/
theorem inRange_process (t : TrajectoryMotion α) : InRange t.processAccesses := by
  have hupdate (u : TrajectoryMotion α) := u.inRange_updateNormalGoal
  unfold processAccesses
  simp only
  generalize { t with stateManager := t.stateManager.updateState } = t
  split
  · unfold processNormalStateAccesses
    split
    · refine InRange.ite (fun _ => inRange_nil) fun _ => ?_
      split
      · refine InRange.ite (fun _ => InRange.ite (fun _ => ?_) fun _ => hupdate t) fun _ =>
          inRange_nil
        rw [inRange_append]
        exact ⟨t.motionStep.inRange_comparisonAccesses,
          InRange.ite (fun _ => hupdate t) fun _ => inRange_nil⟩
      · split
        · exact inRange_nil
        · exact inRange_nextGoal _ _
    · exact inRange_nil
    · exact inRange_nil
  · unfold processRampDownStateAccesses
    split
    · exact InRange.ite (fun _ => inRange_nil) fun _ => hupdate _
    · exact inRange_nil
    · exact inRange_nil
  · unfold processStaticGoalStateAccesses applyStaticGoalAccesses
    split
    · exact InRange.ite (fun _ => by simp) fun _ => InRange.ite (fun _ => by simp) fun _ =>
        inRange_nil
    · exact inRange_nil
    · exact inRange_nil

end TrajectoryMotion

/-! ### The interpolator -/

namespace EGMInterpolator

/-- A loop that updates polynomials: `setConditions` reads the start and the goal at `i`, and the
polynomial stands at `i + offset`. -/
def updateJointsAccesses (offset : ℕ) (start goal : JointGoal α) : List ArrayAccess :=
  loop (splineBound start) 0 (start.vectorSizes ++ goal.vectorSizes) ++
    loop (splineBound start) offset [maxNumberOfSplines]

/-- The polynomials of the three axes. -/
def axesAccesses : List ArrayAccess := loop 3 0 [maxNumberOfSplines]

def updateAccesses (start goal : PointGoal α) (conditions : Conditions α) : List ArrayAccess :=
  match conditions.operation with
  | .normal | .rampDown =>
      let offset := start.robotJoints.position.get.valuesSize
      (match conditions.mode with
        | .egmJoint => updateJointsAccesses 0 start.robotJoints goal.robotJoints
        | .egmPose => axesAccesses) ++
        updateJointsAccesses offset start.externalJoints goal.externalJoints
  | .rampInPosition | .rampInVelocity => []

/-- A loop that evaluates polynomials, and sets the three vectors of the output at `i`. -/
def evaluateJointsAccesses (offset : ℕ) (output : JointGoal α) : List ArrayAccess :=
  loop (splineBound output) offset [maxNumberOfSplines] ++
    loop (splineBound output) 0 output.vectorSizes

end EGMInterpolator

namespace SoftRamp

def loopAccesses (output : JointGoal α) (start goal : Joints α) : List ArrayAccess :=
  guarded goal.valuesSize (output.vectorSizes ++ [start.valuesSize])

/-- The case of a position goal has no break. -/
def evaluateJointsAccesses (s : SoftRamp α) (output : JointGoal α)
    (joints : PointGoal α → JointGoal α) : List ArrayAccess :=
  let position := loopAccesses output (joints s.start).position.get (joints s.goal).position.get
  let velocity := loopAccesses output (joints s.start).velocity.get (joints s.goal).velocity.get
  match s.operation with
  | .normal | .rampDown => []
  | .rampInPosition => position ++ velocity
  | .rampInVelocity => velocity

@[simp] theorem inRange_evaluateJoints (s : SoftRamp α) (output : JointGoal α)
    (joints : PointGoal α → JointGoal α) : InRange (s.evaluateJointsAccesses output joints) := by
  unfold evaluateJointsAccesses loopAccesses
  cases s.operation <;> simp

end SoftRamp

def EGMInterpolator.evaluateAccesses (e : EGMInterpolator α) (output : PointGoal α) :
    List ArrayAccess :=
  let external := evaluateJointsAccesses e.offset output.externalJoints
  match e.conditions.operation, e.conditions.mode with
  | .normal, .egmJoint | .rampDown, .egmJoint =>
      evaluateJointsAccesses 0 output.robotJoints ++ external
  | .normal, .egmPose | .rampDown, .egmPose => axesAccesses ++ external
  | .rampInPosition, .egmJoint | .rampInVelocity, .egmJoint =>
      e.softRamp.evaluateJointsAccesses output.robotJoints PointGoal.robotJoints ++
        e.softRamp.evaluateJointsAccesses output.externalJoints PointGoal.externalJoints
  | .rampInPosition, .egmPose | .rampInVelocity, .egmPose =>
      e.softRamp.evaluateJointsAccesses output.externalJoints PointGoal.externalJoints

/-! ### The output controller -/

namespace Controller

def calculateJointsAccesses (out ref fdb start : Joints α) : List ArrayAccess :=
  guarded out.valuesSize [ref.valuesSize, fdb.valuesSize, start.valuesSize]

/-- The loop of `multiply`. -/
def multiplyAccesses (j : Joints α) : List ArrayAccess := guarded j.valuesSize []

variable [Field α] [LinearOrder α] [Cmath α]

/-- None of the calculations changes the size of a vector. -/
def calculateAccesses (c : Controller α) (output : Output α) (m : MotionStep α) :
    List ArrayAccess :=
  let check := ((c.scaleFactors m).checkForVelocityTransition m.interpolation).1
  let references := m.interpolation
  let feedback := m.data.feedback
  let initial := c.initialReferences
  let accelerations :=
    if check.doVelocityTransition then
      multiplyAccesses references.robotJoints.acceleration.get ++
        multiplyAccesses references.externalJoints.acceleration.get
    else []
  let externalPosition := calculateJointsAccesses output.externalJoints.position.get
    references.externalJoints.position.get feedback.externalJoints.position.get
    initial.externalJoints.position.get
  let externalVelocity := calculateJointsAccesses output.externalJoints.velocity.get
    references.externalJoints.velocity.get feedback.externalJoints.velocity.get
    initial.externalJoints.velocity.get
  match c.egmMode with
  | .egmJoint =>
      calculateJointsAccesses output.robotJoints.position.get references.robotJoints.position.get
          feedback.robotJoints.position.get initial.robotJoints.position.get ++
        externalPosition ++ accelerations ++
        calculateJointsAccesses output.robotJoints.velocity.get
          references.robotJoints.velocity.get feedback.robotJoints.velocity.get
          initial.robotJoints.velocity.get ++ externalVelocity
  | .egmPose => externalPosition ++ accelerations ++ externalVelocity

@[simp] theorem inRange_calculate (c : Controller α) (output : Output α) (m : MotionStep α) :
    InRange (c.calculateAccesses output m) := by
  have hjoints (out ref fdb start : Joints α) :
      InRange (calculateJointsAccesses out ref fdb start) := inRange_guarded _ _
  have hmultiply (j : Joints α) : InRange (multiplyAccesses j) := inRange_guarded _ _
  have haccelerations (p : Prop) [Decidable p] (j k : Joints α) :
      InRange (if p then multiplyAccesses j ++ multiplyAccesses k else []) :=
    InRange.ite (fun _ => by simp [hmultiply]) fun _ => inRange_nil
  unfold calculateAccesses
  cases c.egmMode <;> simp [hjoints, haccelerations]

end Controller

namespace TrajectoryMotion

variable [Field α] [LinearOrder α] [Cmath α]

def executeGoalAccesses (t : TrajectoryMotion α) (outputs : Output α) : List ArrayAccess :=
  let m := t.startGoal.motionStep
  (if t.data.hasNewGoal then
    EGMInterpolator.updateAccesses m.interpolation m.internalGoal m.interpolatorConditions
    else []) ++
    if t.data.hasActiveGoal then
      m.interpolator.evaluateAccesses m.interpolation ++
        t.startGoal.controller.calculateAccesses outputs m.evaluateInterpolator
    else []

def generateOutputsAccesses [FloorRing α] (t : TrajectoryMotion α) (outputs : Output α)
    (inputs : InputContainer α) : List ArrayAccess :=
  if inputs.statesOk then
    (t.prepared inputs).processAccesses ++ (t.prepared inputs).process.executeGoalAccesses outputs
  else []

end TrajectoryMotion

/-! ### Outputs -/

namespace OutputContainer

/-- The two loops of the demo outputs over robot joints, and over external joints. -/
def followAccesses (initial current j : JointSpace α) : List ArrayAccess :=
  loop current.position.get.valuesSize 0
      [initial.position.get.valuesSize, j.position.get.valuesSize] ++
    loop current.velocity.get.valuesSize 0 [j.velocity.get.valuesSize]

def generateDemoOutputsAccesses (o : OutputContainer α) (inputs : InputContainer α) :
    List ArrayAccess :=
  let initialFdb := inputs.initial.feedback.get
  let currentFdb := inputs.current.feedback.get
  followAccesses initialFdb.robotJoints currentFdb.robotJoints o.current.robotJoints ++
    followAccesses initialFdb.externalJoints currentFdb.externalJoints o.current.externalJoints

def jointBodyAccesses (axes : RobotAxes) (robot external : Joints α) : List ArrayAccess :=
  match axes with
  | .six =>
      if robot.valuesSize = Constants.defaultNumberOfRobotJoints then
        loop robot.valuesSize 0 [robot.valuesSize] ++
          loop (min external.valuesSize Constants.defaultNumberOfExternalJoints) 0
            [external.valuesSize]
      else []
  | .seven =>
      if robot.valuesSize = Constants.defaultNumberOfRobotJoints + 1 then
        [0, 1, 3, 4, 5, 6, 2].map (⟨·, robot.valuesSize⟩) ++
          loop (min external.valuesSize (Constants.defaultNumberOfExternalJoints - 1)) 0
            [external.valuesSize]
      else []

def constructJointBodyAccesses (o : OutputContainer α) (configuration : BaseConfiguration α) :
    List ArrayAccess :=
  let joints := o.current.robotJoints
  let external := o.current.externalJoints
  (if joints.position.has then
    jointBodyAccesses configuration.axes joints.position.get external.position.get else []) ++
    if configuration.useVelocityOutputs && joints.velocity.has then
      jointBodyAccesses configuration.axes joints.velocity.get external.velocity.get
    else []

theorem inRange_jointBody (axes : RobotAxes) (robot external : Joints α) :
    InRange (jointBodyAccesses axes robot external) := by
  have hexternal (n : ℕ) : InRange (loop (min external.valuesSize n) 0 [external.valuesSize]) := by
    apply inRange_loop.mpr
    right
    simp
  unfold jointBodyAccesses
  cases axes with
  | six =>
      refine InRange.ite (fun _ => ?_) fun _ => inRange_nil
      rw [inRange_append]
      exact ⟨inRange_loop.mpr (.inr (by simp)), hexternal _⟩
  | seven =>
      refine InRange.ite (fun hsize => ?_) fun _ => inRange_nil
      rw [inRange_append, hsize]
      exact ⟨by decide, hexternal _⟩

/-- **A reply is constructed within the vectors**, whatever the outputs are. -/
theorem inRange_constructJointBody (o : OutputContainer α) (configuration : BaseConfiguration α) :
    InRange (o.constructJointBodyAccesses configuration) := by
  unfold constructJointBodyAccesses
  simp only [inRange_append]
  exact ⟨InRange.ite (fun _ => inRange_jointBody _ _ _) fun _ => inRange_nil,
    InRange.ite (fun _ => inRange_jointBody _ _ _) fun _ => inRange_nil⟩

end OutputContainer

/-! ### A callback -/

namespace EGMInterface

variable [Field α] [LinearOrder α] [Cmath α] [FloorRing α]

/-- What a callback accesses once `initializeCallback` has accepted the message. -/
def executeAccesses
    (s : EGMInterface (TrajectoryConfiguration α) (TrajectoryMotion α) α)
    (mid : List (TrajectoryCall α)) : List ArrayAccess :=
  let base := s.configuration.active.base
  s.inputs.estimateAllVelocitiesAccesses ++
    (if base.useDemoOutputs then s.outputs.generateDemoOutputsAccesses s.inputs
      else (mid.foldl trajectoryHandler.user s.motion).generateOutputsAccesses s.outputs.current
        s.inputs) ++
    (s.execute trajectoryHandler mid).outputs.constructJointBodyAccesses base

/-- The accesses of a callback are in range. -/
def AccessesInRange (ParseFromArray : β → Bool × EgmRobot α)
    (s : EGMInterface (TrajectoryConfiguration α) (TrajectoryMotion α) α) :
    Event (TrajectoryConfiguration α) (TrajectoryCall α) β → Prop
  | .datagram data mid =>
      let r := s.initializeCallback trajectoryHandler ParseFromArray data
      r.1 = true → InRange (r.2.executeAccesses mid)
  | _ => True

end EGMInterface

end AbbWrapper
