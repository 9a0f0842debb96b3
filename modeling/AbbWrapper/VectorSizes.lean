import AbbWrapper.ReplyShape
import AbbWrapper.Residue

/-! # The sizes of joint vectors

Vectors of joint values are created by a parse, by the estimates of velocities, by the first outputs
of a session, by a reset of the references and by the preparation of a goal.  All other writes go
to elements of vectors, and keep the sizes.

* `vectorSizes` and `shape` are the sizes of all vectors of a goal or of outputs, for robot joints and for
  external ones.
* `KeepsShape` says of a calculation that it changes no size, of the outputs and of the references
  (`calculate_keepsShape`).
* `Output.Matches` says that outputs have the joints of a feedback.

A normal goal has the positions of the goal before it, and velocities and accelerations for the robot
joints of the feedback (`shape_prepareNormalGoal`). -/

namespace AbbWrapper

open Protobuf

variable {α : Type}

/-- The two vectors of an output or a feedback. -/
def JointSpace.vectorSizes (j : JointSpace α) : List ℕ :=
  [j.position.get.valuesSize, j.velocity.get.valuesSize]

/-- The sizes of the vectors of robot joints, and of external joints. -/
def Output.shape (o : Output α) : List ℕ × List ℕ :=
  (o.robotJoints.vectorSizes, o.externalJoints.vectorSizes)

namespace Output

theorem shape_modifyRobotJoints (o : Output α) {f : JointSpace α → JointSpace α}
    (hf : (f o.robotJoints).vectorSizes = o.robotJoints.vectorSizes) :
    (o.modifyRobotJoints f).shape = o.shape :=
  congrArg (·, o.externalJoints.vectorSizes) hf

theorem shape_modifyExternalJoints (o : Output α) {f : JointSpace α → JointSpace α}
    (hf : (f o.externalJoints).vectorSizes = o.externalJoints.vectorSizes) :
    (o.modifyExternalJoints f).shape = o.shape :=
  congrArg (o.robotJoints.vectorSizes, ·) hf

@[simp] theorem shape_modifyRobotCartesian (o : Output α)
    (f : CartesianSpace α → CartesianSpace α) : (o.modifyRobotCartesian f).shape = o.shape := rfl

end Output

/-! ### The output controller -/

namespace Controller

/-- A calculation keeps the sizes, of the outputs and of the references. -/
structure KeepsShape (output : Output α) (m : MotionStep α) (r : Output α × MotionStep α) : Prop where
  output : r.1.shape = output.shape
  references : r.2.interpolation.shape = m.interpolation.shape

theorem KeepsShape.trans {output : Output α} {m : MotionStep α} {r r' : Output α × MotionStep α}
    (h : KeepsShape output m r) (h' : KeepsShape r.1 r.2 r') : KeepsShape output m r' :=
  ⟨h'.output.trans h.output, h'.references.trans h.references⟩

variable [Field α] (c : Controller α) (output : Output α) (m : MotionStep α)

theorem calculateRobotPosition_keepsShape :
    KeepsShape output m (c.calculateRobotPosition output m) := by
  constructor
  · apply output.shape_modifyRobotJoints
    simp [JointSpace.vectorSizes, JointSpace.setPosition]
  · apply m.interpolation.shape_modifyRobotJoints
    simp [JointGoal.vectorSizes, valuesSize_reference]

theorem calculateRobotVelocity_keepsShape :
    KeepsShape output m (c.calculateRobotVelocity output m) := by
  constructor
  · apply output.shape_modifyRobotJoints
    simp [JointSpace.vectorSizes, JointSpace.setVelocity]
  · apply m.interpolation.shape_modifyRobotJoints
    simp [JointGoal.vectorSizes, valuesSize_reference]

theorem calculateExternalPosition_keepsShape :
    KeepsShape output m (c.calculateExternalPosition output m) := by
  constructor
  · apply output.shape_modifyExternalJoints
    simp [JointSpace.vectorSizes, JointSpace.setPosition]
  · apply m.interpolation.shape_modifyExternalJoints
    simp [JointGoal.vectorSizes, valuesSize_reference]

theorem calculateExternalVelocity_keepsShape :
    KeepsShape output m (c.calculateExternalVelocity output m) := by
  constructor
  · apply output.shape_modifyExternalJoints
    simp [JointSpace.vectorSizes, JointSpace.setVelocity]
  · apply m.interpolation.shape_modifyExternalJoints
    simp [JointGoal.vectorSizes, valuesSize_reference]

theorem shape_checkForVelocityTransition (references : PointGoal α) :
    (c.checkForVelocityTransition references).2.shape = references.shape := by
  have hmultiply (j : JointGoal α) (a : α) : JointGoal.vectorSizes { j with
      acceleration := j.acceleration.modify (·.multiply a) } = j.vectorSizes := by
    simp [JointGoal.vectorSizes, Joints.multiply]
  unfold checkForVelocityTransition
  simp only
  generalize (if c.isNormalState = true then _ else c : Controller α) = d
  split
  · rw [PointGoal.shape_modifyExternalJoints _ (hmultiply _ _),
      PointGoal.shape_modifyRobotCartesian, PointGoal.shape_modifyRobotJoints _ (hmultiply _ _)]
  · rfl

variable [LinearOrder α] [Cmath α]

/-- **Following the references changes no size.** -/
theorem calculate_keepsShape : KeepsShape output m (c.calculate output m).2 := by
  have hcheck (c : Controller α) (r : Output α × MotionStep α) : KeepsShape r.1 r.2
      (r.1, { r.2 with interpolation := (c.checkForVelocityTransition r.2.interpolation).2 }) :=
    ⟨rfl, c.shape_checkForVelocityTransition _⟩
  have hpose (c : Controller α) (output : Output α) (m : MotionStep α) :
      KeepsShape output m (c.calculatePose output m) := ⟨rfl, rfl⟩
  have hlinear (c : Controller α) (output : Output α) (m : MotionStep α) :
      KeepsShape output m (c.calculateLinear output m) := ⟨rfl, rfl⟩
  have hangular (c : Controller α) (output : Output α) (m : MotionStep α) :
      KeepsShape output m (c.calculateAngular output m) := ⟨rfl, rfl⟩
  -- the Euler angles of the outputs are cleared first
  have hcleared : KeepsShape output m (output.modifyRobotCartesian fun cartesian =>
      { cartesian with
        pose := cartesian.pose.modify fun pose => { pose with euler := .absent } }, m) := ⟨rfl, rfl⟩
  unfold calculate
  simp only
  generalize c.scaleFactors m = d
  split
  · have hposition := hcleared.trans (d.calculateRobotPosition_keepsShape _ _)
    have hexternal := hposition.trans (d.calculateExternalPosition_keepsShape _ _)
    have hchecked := hexternal.trans (hcheck d _)
    generalize d.checkForVelocityTransition _ = check at hchecked ⊢
    have hvelocity := hchecked.trans (check.1.calculateRobotVelocity_keepsShape _ _)
    exact hvelocity.trans (check.1.calculateExternalVelocity_keepsShape _ _)
  · have hposition := hcleared.trans (hpose d _ _)
    have hexternal := hposition.trans (d.calculateExternalPosition_keepsShape _ _)
    have hchecked := hexternal.trans (hcheck d _)
    generalize d.checkForVelocityTransition _ = check at hchecked ⊢
    have hvelocity := hchecked.trans (hlinear check.1 _ _)
    have hexternalVelocity := hvelocity.trans (check.1.calculateExternalVelocity_keepsShape _ _)
    exact hexternalVelocity.trans (hangular check.1 _ _)

end Controller

/-! ### The preparation of goals -/

namespace MotionStep

section transfer
variable [Field α]

theorem vectorSizes_transferJoints (source joints : JointGoal α) :
    (transferJoints source joints).vectorSizes = joints.vectorSizes := by
  simp [transferJoints, JointGoal.vectorSizes]

theorem shape_transferExternalGoal (source : ExternalGoal α) (goal : PointGoal α) :
    (transferExternalGoal source goal).shape = goal.shape :=
  goal.shape_modifyExternalJoints (vectorSizes_transferJoints _ _)

theorem shape_transferStaticVelocityGoal (source : StaticVelocityGoal α) (goal : PointGoal α) :
    (transferStaticVelocityGoal source goal).shape = goal.shape := by
  have hjoints (joints : JointGoal α) (source : Joints α) : JointGoal.vectorSizes { joints with
      velocity := joints.velocity.modify (·.copyPresent source) } = joints.vectorSizes := by
    simp [JointGoal.vectorSizes]
  unfold transferStaticVelocityGoal
  simp only
  rw [PointGoal.shape_modifyExternalJoints _ (hjoints _ _), PointGoal.shape_modifyRobotCartesian,
    PointGoal.shape_modifyRobotJoints _ (hjoints _ _)]

variable [LinearOrder α] [Cmath α]

theorem shape_transferRobotGoal (source : RobotGoal α) (goal : PointGoal α) :
    (transferRobotGoal source goal).shape = goal.shape :=
  goal.shape_modifyRobotJoints (vectorSizes_transferJoints _ _)

theorem shape_transferStaticPositionGoal (source : StaticPositionGoal α) (goal : PointGoal α) :
    (transferStaticPositionGoal source goal).shape = goal.shape := by
  have hjoints (joints : JointGoal α) (source : Joints α) : JointGoal.vectorSizes { joints with
      position := joints.position.modify (·.copyPresent source) } = joints.vectorSizes := by
    simp [JointGoal.vectorSizes]
  unfold transferStaticPositionGoal
  simp only
  rw [PointGoal.shape_modifyExternalJoints _ (hjoints _ _), PointGoal.shape_modifyRobotCartesian,
    PointGoal.shape_modifyRobotJoints _ (hjoints _ _)]

/-- A normal goal has the positions of the goal before it, and velocities and accelerations for the
robot joints of the feedback. -/
theorem shape_prepareNormalGoal (m : MotionStep α) (lastPoint : Bool) :
    (m.prepareNormalGoal lastPoint).internalGoal.shape =
      (m.internalGoal.resetVelocities m.robotJoints).shape := by
  have hagain {p : PointGoal α} {n : ℕ} (h : p.shape = (m.internalGoal.resetVelocities n).shape) :
      (p.resetVelocities n).shape = (m.internalGoal.resetVelocities n).shape := by
    rw [PointGoal.shape_resetVelocities, PointGoal.sizes_of_shape h,
      PointGoal.shape_resetVelocities]
    rfl
  have htransferred (p : PointGoal α) : (transferExternalGoal m.externalGoal.external.get
      (transferRobotGoal m.externalGoal.robot.get p)).shape = p.shape :=
    (shape_transferExternalGoal _ _).trans (shape_transferRobotGoal _ _)
  have hlast {p : PointGoal α}
      (h : p.shape = (m.internalGoal.resetVelocities m.robotJoints).shape) :
      (if lastPoint then { p with reach := .present true }.resetVelocities m.robotJoints
        else p).shape = (m.internalGoal.resetVelocities m.robotJoints).shape := by
    split
    · exact hagain h
    · exact h
  unfold prepareNormalGoal
  simp only
  split
  · exact hlast (htransferred _)
  · exact hagain (hlast (htransferred _))

end transfer

end MotionStep

/-! ### Outputs -/

/-- The outputs have the same joints as a feedback. -/
def Output.Matches (o : Output α) (sizes : ℕ × ℕ) : Prop :=
  o.shape = ([sizes.1, sizes.1], [sizes.2, sizes.2])

theorem Output.prepare_matches [Field α] (o : Output α) {feedback : Feedback α}
    (h : feedback.velocitySizes = feedback.sizes) : (o.prepare feedback).Matches feedback.sizes := by
  have hzero (j : JointSpace α) (n : ℕ) : (j.zeroVelocity n).velocity.get.valuesSize = n := by
    unfold JointSpace.zeroVelocity
    simp only
    split
    next hn => exact hn.symm
    next => exact List.length_replicate
  obtain ⟨hrobot, hexternal⟩ := Prod.mk.inj h
  refine Prod.ext ?_ ?_
  · have hvelocity := hzero (o.robotJoints.setPosition feedback.robotJoints.position.get)
      feedback.velocitySize
    exact congrArg ([feedback.sizes.1, ·]) (hvelocity.trans hrobot)
  · have hvelocity := hzero (o.externalJoints.setPosition feedback.externalJoints.position.get)
      feedback.velocitySizes.2
    exact congrArg ([feedback.sizes.2, ·]) (hvelocity.trans hexternal)

section generate
variable [Field α] [LinearOrder α] [Cmath α]

theorem OutputContainer.shape_generateDemoOutputs [FloorRing α] (o : OutputContainer α)
    (inputs : InputContainer α) : (o.generateDemoOutputs inputs).current.shape = o.current.shape := by
  have hfollow (j : JointSpace α) (n k : ℕ) (f g : ℕ → α → α) : JointSpace.vectorSizes
      { position := j.position.modify (·.update n f)
        velocity := j.velocity.modify (·.update k g) } = j.vectorSizes := by
    simp [JointSpace.vectorSizes]
  unfold OutputContainer.generateDemoOutputs OutputContainer.generateDemoQuaternions
  simp only [Output.shape_modifyRobotCartesian]
  rw [Output.shape_modifyExternalJoints _ (hfollow _ _ _ _ _),
    Output.shape_modifyRobotJoints _ (hfollow _ _ _ _ _)]

theorem TrajectoryMotion.shape_executeGoal (t : TrajectoryMotion α) (outputs : Output α) :
    (t.executeGoal outputs).2.shape = outputs.shape := by
  unfold TrajectoryMotion.executeGoal
  simp only
  split_ifs
  · exact (Controller.calculate_keepsShape _ _ _).output
  · rfl
  · exact (Controller.calculate_keepsShape _ _ _).output
  · rfl

theorem TrajectoryMotion.shape_generateOutputs [FloorRing α] (t : TrajectoryMotion α)
    (outputs : Output α) (inputs : InputContainer α) :
    (t.generateOutputs outputs inputs).2.shape = outputs.shape := by
  unfold TrajectoryMotion.generateOutputs
  simp only
  split
  · exact TrajectoryMotion.shape_executeGoal _ _
  · rfl

end generate

end AbbWrapper
