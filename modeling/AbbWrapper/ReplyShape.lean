import AbbWrapper.RejectedDatagram

/-! # The shape of the replies

A reply is dropped when a joint vector has the wrong length.  The lengths of the output vectors are
fixed by the first message of a session, and whatever is written later (the outputs of the user,
cut to the lengths that are there, or the references of the output controller) keeps them.

* `Output.Shaped n` says of outputs that the robot has `n` joint positions and velocities, and that pose
  and velocity are present; outputs with this shape get a reply (`constructReply_shaped`).
* `WellFormed` says of a reply that its vectors have the lengths that the robot controller expects.
* `Measured` is what an accepted message leaves in the inputs, and `Ready` the invariant of an interface:
  once a session has started, the outputs have their shape.
* `Handler.KeepsShape` is what is asked of a motion component; it is proved of the controller interface
  and of the trajectory interface, so that `replies_well_formed` is about both. -/

namespace AbbWrapper

open Protobuf Runs

variable {α β κ μ υ : Type}

/-- The joints of the robot, of which the seventh is sent as an external one. -/
def RobotAxes.numberOfJoints : RobotAxes → ℕ
  | .six => Constants.defaultNumberOfRobotJoints
  | .seven => Constants.defaultNumberOfRobotJoints + 1

theorem RobotAxes.numberOfJoints_ne_zero (axes : RobotAxes) : axes.numberOfJoints ≠ 0 := by
  cases axes <;> exact Nat.succ_ne_zero _

/-- Joint values are present, and there are `n` of them. -/
def HasSize (n : ℕ) (o : Optional (Joints α)) : Prop := o.has = true ∧ o.get.valuesSize = n

theorem HasSize.modify {n : ℕ} {o : Optional (Joints α)} (h : HasSize n o)
    {f : Joints α → Joints α} (hf : ∀ j, (f j).valuesSize = j.valuesSize) :
    HasSize n (o.modify f) :=
  ⟨rfl, (hf _).trans h.2⟩

/-- Position and velocity with `n` joints. -/
structure JointSpace.Shaped (n : ℕ) (j : JointSpace α) : Prop where
  position : HasSize n j.position
  velocity : HasSize n j.velocity

/-- Pose and velocity are present. -/
structure CartesianSpace.Complete (c : CartesianSpace α) : Prop where
  pose : c.pose.has = true
  velocity : c.velocity.has = true

/-- Outputs from which a reply can be constructed: `n` robot joints, and a whole pose. -/
structure Output.Shaped (n : ℕ) (o : Output α) : Prop where
  joints : o.robotJoints.Shaped n
  cartesian : o.robotCartesian.Complete

/-! ### What keeps the shape -/

namespace Output

theorem Shaped.modifyRobotJoints {n : ℕ} {o : Output α} (h : o.Shaped n)
    {f : JointSpace α → JointSpace α} (hf : (f o.robotJoints).Shaped n) :
    (o.modifyRobotJoints f).Shaped n :=
  ⟨hf, h.cartesian⟩

theorem Shaped.modifyRobotCartesian {n : ℕ} {o : Output α} (h : o.Shaped n)
    {f : CartesianSpace α → CartesianSpace α} (hf : (f o.robotCartesian).Complete) :
    (o.modifyRobotCartesian f).Shaped n :=
  ⟨h.joints, hf⟩

theorem Shaped.modifyExternalJoints {n : ℕ} {o : Output α} (h : o.Shaped n)
    (f : JointSpace α → JointSpace α) : (o.modifyExternalJoints f).Shaped n :=
  ⟨h.joints, h.cartesian⟩

end Output

section copy
variable [Field α]

@[simp] theorem Joints.valuesSize_copyPresent (target source : Joints α) :
    (target.copyPresent source).valuesSize = target.valuesSize := by
  simp [Joints.copyPresent]

theorem JointSpace.Shaped.copyPresent {n : ℕ} {target : JointSpace α} (h : target.Shaped n)
    (source : JointSpace α) : (target.copyPresent source).Shaped n := by
  have hposition := h.position.modify (f := (·.copyPresent source.position.get)) (by simp)
  have hvelocity := h.velocity.modify (f := (·.copyPresent source.velocity.get)) (by simp)
  unfold JointSpace.copyPresent
  simp only
  split_ifs
  · exact ⟨hposition, hvelocity⟩
  · exact ⟨h.position, hvelocity⟩
  · exact ⟨hposition, h.velocity⟩
  · exact h

variable [LinearOrder α] [Cmath α]

theorem CartesianSpace.Complete.copyPresent {target : CartesianSpace α} (h : target.Complete)
    (source : CartesianSpace α) : (target.copyPresent source).Complete := by
  unfold CartesianSpace.copyPresent
  simp only
  split_ifs
  · exact ⟨rfl, rfl⟩
  · exact ⟨h.pose, rfl⟩
  · exact ⟨rfl, h.velocity⟩
  · exact h

theorem Robot.copyPresent_shaped {n : ℕ} {target : Robot α} (hjoints : target.joints.get.Shaped n)
    (hcartesian : target.cartesian.get.Complete) (source : Robot α) :
    (target.copyPresent source).joints.get.Shaped n ∧
      (target.copyPresent source).cartesian.get.Complete := by
  have hjoints' := hjoints.copyPresent source.joints.get
  have hcartesian' := hcartesian.copyPresent source.cartesian.get
  unfold Robot.copyPresent
  simp only
  split_ifs
  · exact ⟨hjoints', hcartesian'⟩
  · exact ⟨hjoints, hcartesian'⟩
  · exact ⟨hjoints', hcartesian⟩
  · exact ⟨hjoints, hcartesian⟩

/-- The outputs of the user, of whatever sizes, keep the shape. -/
theorem Output.Shaped.copyPresent {n : ℕ} {target : Output α} (h : target.Shaped n)
    (source : Output α) : (target.copyPresent source).Shaped n := by
  obtain ⟨hjoints, hcartesian⟩ :=
    Robot.copyPresent_shaped h.joints h.cartesian source.robot.get
  unfold Output.copyPresent
  simp only
  split_ifs
  · exact ⟨hjoints, hcartesian⟩
  · exact ⟨h.joints, h.cartesian⟩
  · exact ⟨hjoints, hcartesian⟩
  · exact h

end copy

namespace Controller

section calculate
variable [Field α]

@[simp] theorem valuesSize_calculateJoints (c : Controller α) (out ref fdb start : Joints α) :
    (c.calculateJoints out ref fdb start).1.valuesSize = out.valuesSize := by
  simp [calculateJoints]

theorem calculateRobotPosition_shaped {n : ℕ} (c : Controller α) {output : Output α}
    (h : output.Shaped n) (m : MotionStep α) : (c.calculateRobotPosition output m).1.Shaped n :=
  h.modifyRobotJoints ⟨⟨rfl, (c.valuesSize_calculateJoints _ _ _ _).trans h.joints.position.2⟩,
    h.joints.velocity⟩

theorem calculateRobotVelocity_shaped {n : ℕ} (c : Controller α) {output : Output α}
    (h : output.Shaped n) (m : MotionStep α) : (c.calculateRobotVelocity output m).1.Shaped n :=
  h.modifyRobotJoints ⟨h.joints.position,
    ⟨rfl, (c.valuesSize_calculateJoints _ _ _ _).trans h.joints.velocity.2⟩⟩

theorem calculateExternalPosition_shaped {n : ℕ} (c : Controller α) {output : Output α}
    (h : output.Shaped n) (m : MotionStep α) : (c.calculateExternalPosition output m).1.Shaped n :=
  h.modifyExternalJoints _

theorem calculateExternalVelocity_shaped {n : ℕ} (c : Controller α) {output : Output α}
    (h : output.Shaped n) (m : MotionStep α) : (c.calculateExternalVelocity output m).1.Shaped n :=
  h.modifyExternalJoints _

theorem calculateLinear_shaped {n : ℕ} (c : Controller α) {output : Output α}
    (h : output.Shaped n) (m : MotionStep α) : (c.calculateLinear output m).1.Shaped n :=
  h.modifyRobotCartesian ⟨h.cartesian.pose, rfl⟩

theorem calculateAngular_shaped {n : ℕ} (c : Controller α) {output : Output α}
    (h : output.Shaped n) (m : MotionStep α) : (c.calculateAngular output m).1.Shaped n :=
  h.modifyRobotCartesian ⟨h.cartesian.pose, rfl⟩

variable [LinearOrder α] [Cmath α]

theorem calculatePose_shaped {n : ℕ} (c : Controller α) {output : Output α}
    (h : output.Shaped n) (m : MotionStep α) : (c.calculatePose output m).1.Shaped n :=
  h.modifyRobotCartesian ⟨rfl, h.cartesian.velocity⟩

/-- The output controller keeps the shape. -/
theorem calculate_shaped {n : ℕ} (c : Controller α) {output : Output α} (h : output.Shaped n)
    (m : MotionStep α) : (c.calculate output m).2.1.Shaped n := by
  have hcleared := h.modifyRobotCartesian (f := fun cartesian => { cartesian with
    pose := cartesian.pose.modify fun pose => { pose with euler := .absent } })
    ⟨rfl, h.cartesian.velocity⟩
  unfold calculate
  simp only
  split
  · exact calculateExternalVelocity_shaped _ (calculateRobotVelocity_shaped _
      (calculateExternalPosition_shaped _ (calculateRobotPosition_shaped _ hcleared _) _) _) _
  · exact calculateAngular_shaped _ (calculateExternalVelocity_shaped _ (calculateLinear_shaped _
      (calculateExternalPosition_shaped _ (calculatePose_shaped _ hcleared _) _) _) _) _

end calculate
end Controller

section handlers
variable [Field α] [LinearOrder α] [Cmath α] [FloorRing α]

/-- The motion component keeps the shape of the outputs. -/
def Handler.KeepsShape (h : Handler κ μ υ α) : Prop :=
  ∀ n motion (outputs : Output α) inputs, outputs.Shaped n →
    (h.generateOutputs motion outputs inputs).2.Shaped n

omit [FloorRing α] in
theorem controllerHandler_keepsShape : (controllerHandler (α := α)).KeepsShape := by
  intro n motion outputs inputs houtputs
  unfold controllerHandler
  simp only
  split
  · exact houtputs.copyPresent motion.outputs
  · exact houtputs

omit [FloorRing α] in
theorem TrajectoryMotion.executeGoal_shaped {n : ℕ} (t : TrajectoryMotion α) {outputs : Output α}
    (h : outputs.Shaped n) : (t.executeGoal outputs).2.Shaped n := by
  unfold TrajectoryMotion.executeGoal
  simp only
  generalize (if t.data.hasNewGoal then { t with
    motionStep := t.motionStep.updateInterpolator
    controller := t.controller.update t.stateManager.currentState t.motionStep.updateInterpolator
      t.configurations } else t) = u
  split
  · exact Controller.calculate_shaped _ h _
  · exact h

theorem trajectoryHandler_keepsShape : (trajectoryHandler (α := α)).KeepsShape := by
  intro n motion outputs inputs houtputs
  change (motion.generateOutputs outputs inputs).2.Shaped n
  unfold TrajectoryMotion.generateOutputs
  simp only
  split
  · exact TrajectoryMotion.executeGoal_shaped _ houtputs
  · exact houtputs

end handlers

/-! ### The construction of a reply -/

/-- The vectors of a reply have the lengths the robot controller expects. -/
structure EgmSensor.WellFormed (reply : EgmSensor α) (configuration : BaseConfiguration α) :
    Prop where
  joints : reply.planned.get.joints.get.joints.length = Constants.defaultNumberOfRobotJoints
  externalJoints : reply.planned.get.externalJoints.get.joints.length ≤
    Constants.defaultNumberOfExternalJoints
  speed : configuration.useVelocityOutputs = true →
    reply.speedRef.get.joints.get.joints.length = Constants.defaultNumberOfRobotJoints ∧
      reply.speedRef.get.cartesians.get.value.length = 6

section reply
variable [Field α]

/-- Of the right number of joints, a body with six robot joints can be built. -/
theorem jointBody_eq_some {axes : RobotAxes} {robot : Joints α} (external : Joints α)
    (h : robot.valuesSize = axes.numberOfJoints) :
    ∃ body, jointBody axes robot external = some body ∧
      body.1.joints.length = Constants.defaultNumberOfRobotJoints ∧
      body.2.get.joints.length ≤ Constants.defaultNumberOfExternalJoints := by
  cases axes with
  | six =>
      refine ⟨_, if_pos h, h, ?_⟩
      simp only
      split
      · exact Nat.zero_le _
      · exact List.length_take_le _ _
  | seven =>
      refine ⟨_, if_pos h, rfl, ?_⟩
      have htake := List.length_take_le (Constants.defaultNumberOfExternalJoints - 1)
        external.values
      exact Nat.succ_le_succ htake

/-- Every component of a pose is written. -/
theorem egmPose_isInitialized (pose : CartesianPose α)
    (h : (OutputContainer.egmPose pose).has = true) :
    (OutputContainer.egmPose pose).get.isInitialized = true := by
  unfold OutputContainer.egmPose at h ⊢
  simp only at h ⊢
  split at h
  next hsome =>
    rw [if_pos hsome]
    cases pose.position.has <;> cases pose.euler.has <;> cases pose.quaternion.has <;> rfl
  next => cases h

@[simp] theorem cartesianSpeed_length (velocity : CartesianVelocity α) :
    (OutputContainer.cartesianSpeed velocity).value.length = 6 := by
  unfold OutputContainer.cartesianSpeed
  simp only
  split_ifs <;> rfl

namespace OutputContainer

/-- The joints of outputs with the right shape can be sent. -/
theorem constructJointBody_shaped {o : OutputContainer α} {configuration : BaseConfiguration α}
    (h : o.current.Shaped configuration.axes.numberOfJoints) :
    (o.constructJointBody configuration).1 = true ∧
      (o.constructJointBody configuration).2.egmSensor.WellFormed
        { configuration with useVelocityOutputs := false } ∧
      (configuration.useVelocityOutputs = true →
        (o.constructJointBody configuration).2.egmSensor.speedRef.get.joints.get.joints.length =
          Constants.defaultNumberOfRobotJoints) := by
  obtain ⟨position, hposition, hjoints, hexternal⟩ :=
    jointBody_eq_some o.current.externalJoints.position.get h.joints.position.2
  obtain ⟨speed, hspeed, hspeeds, -⟩ :=
    jointBody_eq_some o.current.externalJoints.velocity.get h.joints.velocity.2
  have hhas := h.joints.position.1
  have hhas' := h.joints.velocity.1
  unfold constructJointBody
  simp only [hposition, hspeed, hhas, hhas']
  cases configuration.useVelocityOutputs
  · refine ⟨rfl, ⟨hjoints, hexternal, fun h => absurd h (by simp)⟩, fun h => absurd h (by simp)⟩
  · refine ⟨rfl, ⟨hjoints, hexternal, fun h => absurd h (by simp)⟩, fun _ => hspeeds⟩

theorem constructCartesianBody_complete {o : OutputContainer α}
    (configuration : BaseConfiguration α) (h : o.current.robotCartesian.Complete) :
    (o.constructCartesianBody configuration).1 = true ∧
      (o.constructCartesianBody configuration).2.egmSensor.planned =
        o.egmSensor.planned.modify (fun planned => { planned with
          cartesian := egmPose o.current.robotCartesian.pose.get }) ∧
      (o.constructCartesianBody configuration).2.egmSensor.speedRef.get.joints =
        o.egmSensor.speedRef.get.joints ∧
      (configuration.useVelocityOutputs = true → (o.constructCartesianBody
        configuration).2.egmSensor.speedRef.get.cartesians.get.value.length = 6) := by
  have hhas := h.pose
  have hhas' := h.velocity
  unfold constructCartesianBody
  simp only [hhas, hhas']
  cases configuration.useVelocityOutputs
  · exact ⟨rfl, rfl, rfl, fun h => absurd h (by simp)⟩
  · exact ⟨rfl, rfl, rfl, fun _ => cartesianSpeed_length _⟩

/-- The time is never written. -/
def WithoutTime (o : OutputContainer α) : Prop := o.egmSensor.planned.get.time.has = false

theorem constructJointBody_frame (o : OutputContainer α) (configuration : BaseConfiguration α) :
    (o.constructJointBody configuration).2.current = o.current ∧
      (o.constructJointBody configuration).2.egmSensor.planned.get.time =
        o.egmSensor.planned.get.time := by
  refine ⟨rfl, ?_⟩
  unfold constructJointBody
  simp only
  split_ifs <;> rfl

omit [Field α] in
theorem isInitialized_of_planned {m : EgmSensor α} (htime : m.planned.get.time.has = false)
    (hcartesian : m.planned.get.cartesian.has = true →
      m.planned.get.cartesian.get.isInitialized = true) : m.isInitialized = true := by
  unfold EgmSensor.isInitialized
  cases hhas : m.planned.get.cartesian.has with
  | false => simp [htime]
  | true => simp [htime, hcartesian hhas]

/-- **Outputs with the right shape get a reply.** -/
theorem constructReply_shaped {o : OutputContainer α} {configuration : BaseConfiguration α}
    (h : o.current.Shaped configuration.axes.numberOfJoints) (htime : o.WithoutTime) :
    (o.constructReply configuration).WithoutTime ∧
      ∃ reply, (o.constructReply configuration).reply = some reply ∧
        reply.WellFormed configuration := by
  obtain ⟨hjoints, hbody, hspeed⟩ := constructJointBody_shaped (o := o.constructHeader) h
  obtain ⟨hcurrent, hkept⟩ := o.constructHeader.constructJointBody_frame configuration
  unfold constructReply
  simp only
  generalize o.constructHeader.constructJointBody configuration = r at *
  obtain ⟨hcartesian, hplanned, hspeed', hspeeds⟩ :=
    constructCartesianBody_complete (o := r.2) configuration
      (hcurrent ▸ h.cartesian)
  rw [if_pos hjoints, if_pos hcartesian]
  generalize r.2.constructCartesianBody configuration = r' at *
  have hnotime : r'.2.egmSensor.planned.get.time.has = false := by
    rw [hplanned]
    exact (congrArg Optional.has hkept).trans htime
  have hcomplete' : r'.2.egmSensor.isInitialized = true := by
    refine isInitialized_of_planned hnotime ?_
    rw [hplanned]
    exact egmPose_isInitialized _
  refine ⟨hnotime, r'.2.egmSensor, if_pos hcomplete', ?_, ?_, fun hon => ?_⟩
  · rw [hplanned]
    exact hbody.joints
  · rw [hplanned]
    exact hbody.externalJoints
  · rw [hspeed']
    exact ⟨hspeed hon, hspeeds hon⟩

end OutputContainer

end reply

/-! ### First messages -/

section first
variable [Field α]

theorem EgmJoints.parse_size (robot external : EgmJoints α) (axes : RobotAxes)
    (h : (robot.parse external axes).1 = true) :
    (robot.parse external axes).2.1.valuesSize = axes.numberOfJoints := by
  unfold EgmJoints.parse at h ⊢
  cases axes with
  | six =>
      simp only at h ⊢
      split at h
      next hsize =>
        rw [if_pos hsize]
        exact hsize
      next => cases h
  | seven =>
      simp only at h ⊢
      split at h
      next hsize =>
        rw [if_pos hsize]
        rfl
      next => cases h

/-- The number of joints of a feedback's or planned position. -/
def Feedback.positionSize (f : Feedback α) : ℕ := f.robotJoints.position.get.valuesSize

/-- The number of joints of a feedback's or planned velocity. -/
def Feedback.velocitySize (f : Feedback α) : ℕ := f.robotJoints.velocity.get.valuesSize

section sizes
omit [Field α]

/-- The number of robot and of external joints. -/
def Feedback.sizes (f : Feedback α) : ℕ × ℕ :=
  (f.positionSize, f.externalJoints.position.get.valuesSize)

/-- The sizes of the estimated velocities. -/
def Feedback.velocitySizes (f : Feedback α) : ℕ × ℕ :=
  (f.velocitySize, f.externalJoints.velocity.get.valuesSize)

theorem Feedback.SameValues.sizes {f g : Feedback α} (h : f.SameValues g) : f.sizes = g.sizes := by
  obtain ⟨hrobot, -, hexternal, -⟩ := h
  simp only [Feedback.sizes, Feedback.positionSize, hrobot, hexternal]

end sizes

variable [LinearOrder α] [Cmath α]

theorem EgmPlanned.parse_size {target : Feedback α} {source : EgmPlanned α} {axes : RobotAxes}
    (h : (source.parse target axes).1 = true) :
    (source.parse target axes).2.positionSize = axes.numberOfJoints := by
  have hsize := EgmJoints.parse_size source.joints.get source.externalJoints.get axes
  unfold EgmPlanned.parse at h ⊢
  simp only at h ⊢
  split at h
  next hjoints =>
    split at h
    next hpose =>
      rw [if_pos hjoints, if_pos hpose]
      exact hsize hjoints
    next => cases h
  next => cases h

omit [Cmath α] in
/-- A velocity is estimated for every joint that both positions have. -/
theorem Joints.valuesSize_estimateVelocities {current previous velocity : Joints α} {sampleTime : α}
    (h : current.estimateVelocities previous sampleTime = some velocity) :
    velocity.valuesSize = min current.valuesSize previous.valuesSize := by
  unfold Joints.estimateVelocities at h
  split at h
  · obtain rfl := Option.some.inj h
    exact List.length_zipWith
  · cases h

theorem Feedback.velocitySizes_estimateVelocities {current previous : Feedback α} {sampleTime : α}
    (h : (current.estimateVelocities previous sampleTime).1 = true) :
    (current.estimateVelocities previous sampleTime).2.velocitySizes =
      (min current.sizes.1 previous.sizes.1, min current.sizes.2 previous.sizes.2) := by
  unfold Feedback.estimateVelocities at h ⊢
  split at h
  next => cases h
  next robot hrobot =>
    simp only at h ⊢
    split at h
    next => cases h
    next =>
      split at h
      next => cases h
      next external hexternal =>
        exact Prod.ext (Joints.valuesSize_estimateVelocities hrobot)
          (Joints.valuesSize_estimateVelocities hexternal)

namespace InputContainer

theorem parseParts_size {i : InputContainer α} {axes : RobotAxes}
    (h : (i.parseParts axes).1 = true) :
    (i.parseParts axes).2.feedback.get.positionSize = axes.numberOfJoints := by
  unfold parseParts at h ⊢
  simp only at h ⊢
  split at h
  next hheader =>
    split at h
    next hfeedback =>
      split at h
      next hplanned =>
        rw [if_pos hheader, if_pos hfeedback, if_pos hplanned]
        exact EgmPlanned.parse_size hfeedback
      next => cases h
    next => cases h
  next => cases h

/-- An accepted message has all robot joints, and there are not more velocities than positions. -/
structure Measured (i : InputContainer α) (axes : RobotAxes) : Prop where
  robot : i.current.feedback.get.sizes.1 = axes.numberOfJoints
  velocities : i.current.feedback.get.velocitySizes ≤ i.current.feedback.get.sizes
  first : i.firstMessage = true → i.initial.feedback.get.sizes = i.current.feedback.get.sizes ∧
    i.current.feedback.get.velocitySizes = i.current.feedback.get.sizes

theorem estimateAllVelocities_measured {i : InputContainer α} {axes : RobotAxes}
    (h : i.estimateAllVelocities.1 = true)
    (hrobot : i.current.feedback.get.sizes.1 = axes.numberOfJoints)
    (hfirst : i.firstMessage = true → i.initial = i.current ∧ i.previous = i.current) :
    i.estimateAllVelocities.2.Measured axes := by
  have hsizes := i.estimateAllVelocities_sameValues.2.1.sizes
  obtain ⟨hinitial, -, hmessage, -⟩ := i.estimateAllVelocities_frame
  have hvelocities : i.estimateAllVelocities.2.current.feedback.get.velocitySizes =
      (min i.current.feedback.get.sizes.1 i.previous.feedback.get.sizes.1,
        min i.current.feedback.get.sizes.2 i.previous.feedback.get.sizes.2) := by
    unfold estimateAllVelocities at h ⊢
    simp only at h ⊢
    split at h
    next hfeedback =>
      rw [if_pos hfeedback]
      exact Feedback.velocitySizes_estimateVelocities hfeedback
    next => cases h
  refine ⟨?_, ?_, ?_⟩
  · rw [← hsizes, hrobot]
  · rw [hvelocities, ← hsizes]
    exact ⟨min_le_left _ _, min_le_left _ _⟩
  · intro hf
    rw [hmessage] at hf
    obtain ⟨hinitial', hprevious⟩ := hfirst hf
    rw [hvelocities, ← hsizes, hinitial, hinitial', hprevious, min_self, min_self]
    exact ⟨rfl, rfl⟩

variable [FloorRing α]

theorem extractParsedInformation_measured {i : InputContainer α} {axes : RobotAxes}
    (h : (i.extractParsedInformation axes).1 = true) :
    (i.extractParsedInformation axes).2.Measured axes := by
  unfold extractParsedInformation at h ⊢
  cases hnew : i.hasNewData with
  | false => simp [hnew] at h
  | true =>
      cases hparts : (i.parseParts axes).1 with
      | false => simp [hnew, hparts] at h
      | true =>
          have hrobot := parseParts_size hparts
          cases hfirst : i.firstMessage with
          | true =>
              simp only [hnew, hparts, hfirst, if_true] at h ⊢
              obtain ⟨hrobot, hvelocities, hfirst⟩ :=
                estimateAllVelocities_measured h hrobot fun _ => ⟨rfl, rfl⟩
              exact ⟨hrobot, hvelocities, hfirst⟩
          | false =>
              simp only [hnew, hparts, hfirst, if_true, Bool.false_eq_true, if_false] at h ⊢
              obtain ⟨hrobot, hvelocities, hfirst⟩ :=
                estimateAllVelocities_measured h hrobot fun hf => by simp at hf
              exact ⟨hrobot, hvelocities, hfirst⟩

/-- Only the first message of a session is kept as the initial one. -/
theorem initial_extractParsedInformation [IsStrictOrderedRing α] {i : InputContainer α}
    {axes : RobotAxes} (h : i.firstMessage = false ∨ (i.extractParsedInformation axes).1 = false) :
    (i.extractParsedInformation axes).2.initial = i.initial := by
  cases hok : (i.extractParsedInformation axes).1 with
  | false =>
      rw [extractParsedInformation_rejected hok]
      split <;> rfl
  | true =>
      have hfirst := h.resolve_right (by simp [hok])
      unfold extractParsedInformation
      simp only [hfirst, Bool.false_eq_true, if_false]
      split_ifs
      · exact (estimateAllVelocities_frame _).1
      · rfl
      · rfl

/-- At the first message of a session, the feedback has all joints. -/
theorem extractParsedInformation_size {i : InputContainer α} {axes : RobotAxes}
    (haccepted : (i.extractParsedInformation axes).1 = true) (hfirst : i.firstMessage = true) :
    (i.extractParsedInformation axes).2.current.feedback.get.positionSize = axes.numberOfJoints ∧
      (i.extractParsedInformation axes).2.current.feedback.get.velocitySize =
        axes.numberOfJoints := by
  have hmeasured := extractParsedInformation_measured haccepted
  have hmessage := (i.extractParsedInformation_firstMessage axes).trans hfirst
  have hvelocity := congrArg Prod.fst (hmeasured.first hmessage).2
  exact ⟨hmeasured.robot, hvelocity.trans hmeasured.robot⟩

end InputContainer

omit [LinearOrder α] [Cmath α] in
/-- The outputs at the first message of a session take their shape from the feedback. -/
theorem Output.prepare_shaped {n : ℕ} (o : Output α) {feedback : Feedback α} (hn : n ≠ 0)
    (hposition : feedback.positionSize = n) (hvelocity : feedback.velocitySize = n) :
    (o.prepare feedback).Shaped n := by
  have hvelocity' : ¬feedback.robotJoints.velocity.get.valuesSize = 0 := by
    rw [show feedback.robotJoints.velocity.get.valuesSize = n from hvelocity]
    exact hn
  have hzero : HasSize n (JointSpace.zeroVelocity feedback.robotJoints.velocity.get.valuesSize
      (o.robotJoints.setPosition feedback.robotJoints.position.get)).velocity := by
    unfold JointSpace.zeroVelocity
    rw [if_neg hvelocity']
    exact ⟨rfl, (List.length_replicate).trans hvelocity⟩
  exact ⟨⟨⟨rfl, hposition⟩, hzero⟩, ⟨rfl, rfl⟩⟩

end first

/-! ### Runs -/

namespace OutputContainer

theorem constructReply_current [Field α] (o : OutputContainer α)
    (configuration : BaseConfiguration α) :
    (o.constructReply configuration).current = o.current := by
  unfold constructReply
  simp only
  split_ifs <;> rfl

variable [Field α] [LinearOrder α] [Cmath α] [FloorRing α]

/-- Demo outputs have the shape of the outputs before. -/
theorem generateDemoOutputs_shaped {n : ℕ} {o : OutputContainer α} (h : o.current.Shaped n)
    (inputs : InputContainer α) : (o.generateDemoOutputs inputs).current.Shaped n :=
  ⟨⟨h.joints.position.modify fun j => j.valuesSize_update _ _,
    h.joints.velocity.modify fun j => j.valuesSize_update _ _⟩, ⟨rfl, h.cartesian.velocity⟩⟩

end OutputContainer

namespace EGMInterface

variable [Field α] [LinearOrder α] [Cmath α] [FloorRing α]
  (h : Handler κ μ υ α) (ParseFromArray : β → Bool × EgmRobot α)

/-- The number of joints of the robot. -/
def numberOfJoints (s : EGMInterface κ μ α) : ℕ :=
  (h.base s.configuration.active).axes.numberOfJoints

/-- Once a session has started, the outputs have their shape. -/
structure Ready (s : EGMInterface κ μ α) : Prop where
  shape : s.inputs.firstCall = true ∨ s.outputs.current.Shaped (s.numberOfJoints h)
  time : s.outputs.WithoutTime

/-- The reply to an accepted message is there and well formed. -/
def AnswersWell (s : EGMInterface κ μ α) : Event κ υ β → Prop
  | .datagram data mid => s.accepts h ParseFromArray data = true →
      ∃ reply, (s.callback h ParseFromArray data mid).outputs.reply = some reply ∧
        reply.WellFormed (h.base (s.callback h ParseFromArray data mid).configuration.active)
  | _ => True

theorem initializeCallback_shaped {s : EGMInterface κ μ α} (hs : Ready h s) {data : Option β}
    (haccepted : s.accepts h ParseFromArray data = true) :
    (s.initializeCallback h ParseFromArray data).2.outputs.current.Shaped
        ((s.initializeCallback h ParseFromArray data).2.numberOfJoints h) ∧
      (s.initializeCallback h ParseFromArray data).2.outputs.WithoutTime := by
  rw [accepts_eq, Bool.and_eq_true] at haccepted
  obtain ⟨hparsed, hextract⟩ := haccepted
  rw [initializeCallback_parsed h ParseFromArray hparsed]
  simp only [hextract, if_true]
  have hinputs : ((s.parsed ParseFromArray data).updateConfiguration h).inputs =
      (s.inputs.parseFromArray ParseFromArray data).2 :=
    (updateConfiguration_frame h (s.parsed ParseFromArray data)).1
  have hmessage : ((s.parsed ParseFromArray data).extract h).2.inputs.firstMessage =
      (s.inputs.parseFromArray ParseFromArray data).2.firstMessage :=
    (InputContainer.extractParsedInformation_firstMessage _ _).trans
      (congrArg InputContainer.firstMessage hinputs)
  cases hfirst : (s.inputs.parseFromArray ParseFromArray data).2.firstMessage with
  | true =>
      obtain ⟨hposition, hvelocity⟩ := InputContainer.extractParsedInformation_size
        (i := ((s.parsed ParseFromArray data).updateConfiguration h).inputs) hextract
        (by rw [hinputs]; exact hfirst)
      unfold OutputContainer.prepareOutputs
      simp only [hmessage, hfirst, if_true]
      exact ⟨Output.prepare_shaped _ (RobotAxes.numberOfJoints_ne_zero _) hposition hvelocity,
        hs.time⟩
  | false =>
      unfold OutputContainer.prepareOutputs
      simp only [hmessage, hfirst, Bool.false_eq_true, if_false]
      have hcall := firstCall_of_not_first ParseFromArray hparsed hfirst
      have hkept := updateConfiguration_of_not_first h (s := s.parsed ParseFromArray data) hfirst
      refine ⟨?_, hs.time⟩
      unfold numberOfJoints extract
      simp only [hkept]
      exact hs.shape.resolve_left (by simp [hcall])

theorem execute_shaped (hh : h.KeepsShape) {s : EGMInterface κ μ α} (mid : List υ)
    (hs : s.outputs.current.Shaped (s.numberOfJoints h)) (htime : s.outputs.WithoutTime) :
    (s.execute h mid).outputs.current.Shaped ((s.execute h mid).numberOfJoints h) ∧
      (s.execute h mid).outputs.WithoutTime := by
  unfold execute
  simp only
  split
  · exact ⟨OutputContainer.generateDemoOutputs_shaped hs _, htime⟩
  · exact ⟨hh _ _ _ _ hs, htime⟩

omit [LinearOrder α] [Cmath α] [FloorRing α] in
theorem finish_shaped {s : EGMInterface κ μ α}
    (hs : s.outputs.current.Shaped (s.numberOfJoints h)) (htime : s.outputs.WithoutTime) :
    Ready h (s.finish h) ∧ ∃ reply, (s.finish h).outputs.reply = some reply ∧
      reply.WellFormed (h.base (s.finish h).configuration.active) := by
  obtain ⟨htime', hreply⟩ := OutputContainer.constructReply_shaped hs htime
  refine ⟨⟨.inr ?_, htime'⟩, hreply⟩
  change (s.outputs.constructReply (h.base s.configuration.active)).current.Shaped
    (s.numberOfJoints h)
  rw [OutputContainer.constructReply_current]
  exact hs

variable [IsStrictOrderedRing α]

theorem Ready.step (hh : h.KeepsShape) {s : EGMInterface κ μ α} (hs : Ready h s)
    (e : Event κ υ β) (he : s.RejectsLate h ParseFromArray e) :
    Ready h (s.step h ParseFromArray e) ∧ s.AnswersWell h ParseFromArray e := by
  cases e with
  | user call => exact ⟨⟨hs.shape, hs.time⟩, trivial⟩
  | setConfiguration configuration => exact ⟨⟨hs.shape, hs.time⟩, trivial⟩
  | datagram data mid =>
      cases haccepted : s.accepts h ParseFromArray data with
      | true =>
          have hfst : (s.initializeCallback h ParseFromArray data).1 = true := haccepted
          obtain ⟨hshape, htime⟩ := initializeCallback_shaped h ParseFromArray hs haccepted
          obtain ⟨hshape, htime⟩ := execute_shaped h hh mid hshape htime
          obtain ⟨hready, hreply⟩ := finish_shaped h hshape htime
          have hcallback : s.callback h ParseFromArray data mid =
              (((s.initializeCallback h ParseFromArray data).2.execute h mid).finish h) := by
            unfold callback
            simp only [hfst, if_true]
          rw [← hcallback] at hready hreply
          exact ⟨hready, fun _ => hreply⟩
      | false =>
          have hsame := (Agree.refl s).rejected h ParseFromArray mid haccepted he
          refine ⟨?_, fun h => absurd (h.symm.trans haccepted) (by simp)⟩
          have hcurrent : (s.callback h ParseFromArray data mid).outputs.current =
            s.outputs.current := (congrArg OutputContainer.current hsame.outputs :)
          have hsensor : (s.callback h ParseFromArray data mid).outputs.egmSensor =
            s.outputs.egmSensor := (congrArg OutputContainer.egmSensor hsame.outputs :)
          have hconfiguration : (s.callback h ParseFromArray data mid).configuration =
            s.configuration := hsame.configuration
          change Ready h (s.callback h ParseFromArray data mid)
          refine ⟨?_, ?_⟩
          · rw [numberOfJoints, hcurrent, hconfiguration]
            exact hs.shape.imp hsame.firstCall.trans id
          · rw [OutputContainer.WithoutTime, hsensor]
            exact hs.time

/-- Every accepted message gets a well-formed reply, for an interface whose motion component keeps
the shape of the outputs. -/
theorem answers_well (hh : h.KeepsShape) (configuration : κ) (motion : μ)
    (es : List (Event κ υ β))
    (hes : Along (step h ParseFromArray) (RejectsLate h ParseFromArray)
      (init configuration motion) es) :
    Along (step h ParseFromArray) (AnswersWell h ParseFromArray) (init configuration motion) es :=
  hes.of_inv (I := Ready h) (fun _ e hs he => hs.step h ParseFromArray hh e he) ⟨.inl rfl, rfl⟩

end EGMInterface

/-- **Every accepted message gets a well-formed reply** in every run of the controller interface and
of the trajectory interface in which the first message of each session is accepted. -/
theorem replies_well_formed [Field α] [LinearOrder α] [IsStrictOrderedRing α] [Cmath α]
    [FloorRing α] (ParseFromArray : β → Bool × EgmRobot α) :
    (∀ (configuration : BaseConfiguration α) es,
      Along (EGMInterface.step controllerHandler ParseFromArray)
        (EGMInterface.RejectsLate controllerHandler ParseFromArray)
        (EGMInterface.init configuration .init) es →
      Along (EGMInterface.step controllerHandler ParseFromArray)
        (EGMInterface.AnswersWell controllerHandler ParseFromArray)
        (EGMInterface.init configuration .init) es) ∧
    ∀ (configuration : TrajectoryConfiguration α) es,
      Along (EGMInterface.step trajectoryHandler ParseFromArray)
        (EGMInterface.RejectsLate trajectoryHandler ParseFromArray)
        (EGMInterface.init configuration (.init configuration)) es →
      Along (EGMInterface.step trajectoryHandler ParseFromArray)
        (EGMInterface.AnswersWell trajectoryHandler ParseFromArray)
        (EGMInterface.init configuration (.init configuration)) es :=
  ⟨fun configuration es => EGMInterface.answers_well controllerHandler ParseFromArray
      controllerHandler_keepsShape configuration .init es,
    fun configuration es => EGMInterface.answers_well trajectoryHandler ParseFromArray
      trajectoryHandler_keepsShape configuration (.init configuration) es⟩

/-- Outputs of the user with three joint values, and no pose. -/
def illSized : Output ℚ where
  robot := .present { joints := .present { position := .present ⟨[1, 2, 3]⟩ } }

/-- Two messages, between which the external side supplies something; neither is rejected. -/
def supplied (call : υ) : List (Event κ υ (EgmRobot ℚ)) :=
  [.datagram (some (Evaluation.message 0 0 Evaluation.home true)) [], .user call,
    .datagram (some (Evaluation.message 1 1 Evaluation.home true)) []]

theorem replies_well_formed_supplied :
    Along (EGMInterface.step controllerHandler Evaluation.parse)
      (EGMInterface.AnswersWell controllerHandler Evaluation.parse)
      (EGMInterface.init Evaluation.configurations.base .init) (supplied (.write illSized)) ∧
    Along (EGMInterface.step trajectoryHandler Evaluation.parse)
      (EGMInterface.AnswersWell trajectoryHandler Evaluation.parse)
      (EGMInterface.init Evaluation.configurations (.init Evaluation.configurations))
      (supplied (.addTrajectory ⟨[Evaluation.point 1 [1, 2, 3]]⟩ false)) := by
  obtain ⟨hcontroller, htrajectory⟩ := replies_well_formed Evaluation.parse
  have hwrite : Along (EGMInterface.step controllerHandler Evaluation.parse)
      (EGMInterface.RejectsLate controllerHandler Evaluation.parse)
      (EGMInterface.init Evaluation.configurations.base .init) (supplied (.write illSized)) := by
    decide +kernel
  have hadd : Along (EGMInterface.step trajectoryHandler Evaluation.parse)
      (EGMInterface.RejectsLate trajectoryHandler Evaluation.parse)
      (EGMInterface.init Evaluation.configurations (.init Evaluation.configurations))
      (supplied (.addTrajectory ⟨[Evaluation.point 1 [1, 2, 3]]⟩ false)) := by
    decide +kernel
  exact ⟨hcontroller _ _ hwrite, htrajectory _ _ hadd⟩

end AbbWrapper
