import AbbWrapper.Accesses
import AbbWrapper.Divisors
import AbbWrapper.StopHolds

/-! # Accesses in range

The interpolator ends its loops with the joint positions of the references, whereas the velocities
and accelerations, those of the external joints as well, are as many as the robot joints of a
feedback, and the polynomials of the external joints stand behind those of the robot joints.

* `Covers` says how many values the vectors of a goal have at least, and `HasSplines` that there is a
  polynomial for every joint of the references.
* `MotionStep.Sized` and `TrajectoryMotion.Sized` are the invariants: the references and the goals have as
  many values as are accessed.  All preparations of a goal keep them (`sized_preserved`).
* `KeepsJoints` and `HasRoom` are the conditions on a callback: the message has all robot joints of the
  references, and there are polynomials for all joints together.
* `MessageFits` is the condition on a message of the whole interface, which has the demo outputs as well;
  these need the joints of the session's first message.

In a run in which every accepted message fits, no access is out of range (`accesses_inRange`).  A seventh
external joint leads to an access to a thirteenth polynomial (`accesses_outOfRange`). -/

namespace AbbWrapper

open ArrayAccess Protobuf Runs

variable {α β : Type}

/-! ### Goals -/

/-- At least `n` positions, and `k` velocities and accelerations. -/
structure JointGoal.Covers (n k : ℕ) (j : JointGoal α) : Prop where
  position : n ≤ j.position.get.valuesSize
  velocity : k ≤ j.velocity.get.valuesSize
  acceleration : k ≤ j.acceleration.get.valuesSize

/-- Vectors for so many robot and external joints; the velocities and accelerations of the external
joints are as many as those of the robot joints. -/
structure PointGoal.Covers (sizes : ℕ × ℕ) (p : PointGoal α) : Prop where
  robot : p.robotJoints.Covers sizes.1 sizes.1
  external : p.externalJoints.Covers sizes.2 sizes.1

theorem JointGoal.Covers.le_of_mem {n : ℕ} {j : JointGoal α} (h : j.Covers n n) {size : ℕ}
    (hsize : size ∈ j.vectorSizes) : n ≤ size := by
  simp only [vectorSizes, List.mem_cons, List.not_mem_nil, or_false] at hsize
  rcases hsize with rfl | rfl | rfl
  · exact h.position
  · exact h.velocity
  · exact h.acceleration

theorem JointGoal.Covers.of_vectorSizes {n k : ℕ} {j j' : JointGoal α} (h : j.Covers n k)
    (hsizes : j'.vectorSizes = j.vectorSizes) : j'.Covers n k := by
  simp only [vectorSizes, List.cons.injEq, and_true] at hsizes
  obtain ⟨hposition, hvelocity, hacceleration⟩ := hsizes
  exact ⟨hposition ▸ h.position, hvelocity ▸ h.velocity, hacceleration ▸ h.acceleration⟩

theorem PointGoal.Covers.of_shape {sizes : ℕ × ℕ} {p q : PointGoal α} (h : p.Covers sizes)
    (hshape : q.shape = p.shape) : q.Covers sizes :=
  ⟨h.robot.of_vectorSizes (Prod.mk.inj hshape).1, h.external.of_vectorSizes (Prod.mk.inj hshape).2⟩

/-- Velocities and accelerations reset for `n` robot joints. -/
theorem PointGoal.covers_resetVelocities [Field α] {sizes : ℕ × ℕ} {p : PointGoal α} {n : ℕ}
    (hsizes : sizes ≤ p.sizes) (hn : sizes.1 ≤ n) : (p.resetVelocities n).Covers sizes := by
  have hshape := p.shape_resetVelocities n
  simp only [shape, JointGoal.vectorSizes, Prod.mk.injEq, List.cons.injEq, and_true] at hshape
  obtain ⟨⟨hposition, hvelocity, hacceleration⟩, hposition', hvelocity', hacceleration'⟩ := hshape
  exact ⟨⟨hsizes.1.trans hposition.ge, hn.trans hvelocity.ge, hn.trans hacceleration.ge⟩,
    ⟨hsizes.2.trans hposition'.ge, hn.trans hvelocity'.ge, hn.trans hacceleration'.ge⟩⟩

/-! ### The interpolator -/

namespace EGMInterpolator

/-- The loops end with the positions, so that they are in range if the other vectors are as long and
if there is a polynomial for every position. -/
theorem inRange_evaluateJoints (offset : ℕ) {output : JointGoal α} {n : ℕ}
    (hn : output.position.get.valuesSize = n) (houtput : output.Covers n n)
    (hoffset : n + offset ≤ maxNumberOfSplines) :
    InRange (evaluateJointsAccesses offset output) := by
  have hbound : splineBound output ≤ n := hn ▸ Nat.min_le_left _ _
  unfold evaluateJointsAccesses
  rw [inRange_append]
  refine ⟨inRange_loop.mpr (.inr ?_), inRange_loop.mpr (.inr ?_)⟩
  · intro size hsize
    rw [List.mem_singleton] at hsize
    omega
  · intro size hsize
    have hle := houtput.le_of_mem hsize
    omega

theorem inRange_updateJoints (offset : ℕ) {start goal : JointGoal α} {n : ℕ}
    (hn : start.position.get.valuesSize = n) (hstart : start.Covers n n) (hgoal : goal.Covers n n)
    (hoffset : n + offset ≤ maxNumberOfSplines) :
    InRange (updateJointsAccesses offset start goal) := by
  have hbound : splineBound start ≤ n := hn ▸ Nat.min_le_left _ _
  unfold updateJointsAccesses
  rw [inRange_append]
  refine ⟨inRange_loop.mpr (.inr ?_), inRange_loop.mpr (.inr ?_)⟩
  · intro size hsize
    have hle : n ≤ size := (List.mem_append.mp hsize).elim hstart.le_of_mem hgoal.le_of_mem
    omega
  · intro size hsize
    rw [List.mem_singleton] at hsize
    omega

theorem inRange_axes : InRange axesAccesses := by
  decide

end EGMInterpolator

/-! ### Motion steps -/

namespace MotionStep

/-- The invariant of a motion step: the references and the internal goal have vectors for the joints
of the references, which are those of a robot, or none before the first reset. -/
structure Sized (m : MotionStep α) : Prop where
  joints : m.interpolation.sizes = (0, 0) ∨
    Constants.defaultNumberOfRobotJoints ≤ m.interpolation.sizes.1
  interpolation : m.interpolation.Covers m.interpolation.sizes
  internalGoal : m.internalGoal.Covers m.interpolation.sizes

/-- There is a polynomial for every joint of the references. -/
def HasSplines (m : MotionStep α) : Prop :=
  m.interpolation.sizes.1 + m.interpolation.sizes.2 ≤ maxNumberOfSplines

/-- The feedback has all robot joints of the references. -/
def KeepsJoints (m : MotionStep α) : Prop := m.interpolation.sizes.1 ≤ m.robotJoints

theorem HasSplines.robot {m : MotionStep α} (h : m.HasSplines) :
    m.interpolation.sizes.1 + 0 ≤ maxNumberOfSplines :=
  (Nat.le_add_right _ _).trans h

theorem HasSplines.external {m : MotionStep α} (h : m.HasSplines) :
    m.interpolation.sizes.2 + m.interpolation.sizes.1 ≤ maxNumberOfSplines :=
  (Nat.add_comm _ _).trans_le h

theorem Sized.external_le {m : MotionStep α} (h : m.Sized) (hsplines : m.HasSplines) :
    m.interpolation.sizes.2 ≤ m.interpolation.sizes.1 := by
  unfold HasSplines maxNumberOfSplines at hsplines
  rcases h.joints with hnone | hsix
  · rw [hnone]
  · unfold Constants.defaultNumberOfRobotJoints at hsix
    omega

/-- With polynomials for all joints, the vectors of the external joints are long enough as well. -/
theorem Sized.covers {m : MotionStep α} (h : m.Sized) (hsplines : m.HasSplines) {p : PointGoal α}
    (hp : p.Covers m.interpolation.sizes) :
    p.externalJoints.Covers m.interpolation.sizes.2 m.interpolation.sizes.2 := by
  have hle := h.external_le hsplines
  exact ⟨hp.external.position, hle.trans hp.external.velocity, hle.trans hp.external.acceleration⟩

theorem Sized.of_shape {m m' : MotionStep α} (h : m.Sized)
    (hinterpolation : m'.interpolation.shape = m.interpolation.shape)
    (hgoal : m'.internalGoal.Covers m.interpolation.sizes) : m'.Sized := by
  have hsizes := PointGoal.sizes_of_shape hinterpolation
  refine ⟨?_, ?_, ?_⟩
  · rw [hsizes]
    exact h.joints
  · rw [hsizes]
    exact h.interpolation.of_shape hinterpolation
  · rw [hsizes]
    exact hgoal

/-- The polynomials of the external joints stand behind those of the robot joints. -/
def HasOffset (m : MotionStep α) : Prop :=
  m.interpolator.conditions.operation = .normal ∨ m.interpolator.conditions.operation = .rampDown →
    m.interpolator.offset = m.interpolation.sizes.1

theorem HasOffset.congr {m m' : MotionStep α} (hinterpolator : m'.interpolator = m.interpolator)
    (hinterpolation : m'.interpolation = m.interpolation) (h : m.HasOffset) : m'.HasOffset := by
  unfold HasOffset
  rw [hinterpolator, hinterpolation]
  exact h

theorem Sized.inRange_update {m : MotionStep α} (h : m.Sized) (hsplines : m.HasSplines) :
    InRange (EGMInterpolator.updateAccesses m.interpolation m.internalGoal
      m.interpolatorConditions) := by
  have hrobot := EGMInterpolator.inRange_updateJoints 0 rfl h.interpolation.robot
    h.internalGoal.robot hsplines.robot
  have hexternal := EGMInterpolator.inRange_updateJoints m.interpolation.sizes.1 rfl
    (h.covers hsplines h.interpolation) (h.covers hsplines h.internalGoal) hsplines.external
  unfold EGMInterpolator.updateAccesses
  cases m.interpolatorConditions.operation with
  | normal =>
      cases m.interpolatorConditions.mode
      · exact inRange_append.mpr ⟨hrobot, hexternal⟩
      · exact inRange_append.mpr ⟨EGMInterpolator.inRange_axes, hexternal⟩
  | rampDown =>
      cases m.interpolatorConditions.mode
      · exact inRange_append.mpr ⟨hrobot, hexternal⟩
      · exact inRange_append.mpr ⟨EGMInterpolator.inRange_axes, hexternal⟩
  | rampInPosition => exact inRange_nil
  | rampInVelocity => exact inRange_nil

theorem Sized.inRange_evaluate {m : MotionStep α} (h : m.Sized) (hsplines : m.HasSplines)
    (hoffset : m.HasOffset) : InRange (m.interpolator.evaluateAccesses m.interpolation) := by
  have hrobot := EGMInterpolator.inRange_evaluateJoints 0 rfl h.interpolation.robot hsplines.robot
  have hexternal (hoperation : m.interpolator.conditions.operation = .normal ∨
      m.interpolator.conditions.operation = .rampDown) :=
    EGMInterpolator.inRange_evaluateJoints m.interpolator.offset rfl
      (h.covers hsplines h.interpolation) (by rw [hoffset hoperation]; exact hsplines.external)
  unfold EGMInterpolator.evaluateAccesses
  cases hoperation : m.interpolator.conditions.operation with
  | normal =>
      cases m.interpolator.conditions.mode
      · exact inRange_append.mpr ⟨hrobot, hexternal (.inl hoperation)⟩
      · exact inRange_append.mpr ⟨EGMInterpolator.inRange_axes, hexternal (.inl hoperation)⟩
  | rampDown =>
      cases m.interpolator.conditions.mode
      · exact inRange_append.mpr ⟨hrobot, hexternal (.inr hoperation)⟩
      · exact inRange_append.mpr ⟨EGMInterpolator.inRange_axes, hexternal (.inr hoperation)⟩
  | rampInPosition => cases m.interpolator.conditions.mode <;> simp
  | rampInVelocity => cases m.interpolator.conditions.mode <;> simp

variable [Field α]

theorem resetMotionStep_sized (m : MotionStep α)
    (h : Constants.defaultNumberOfRobotJoints ≤ m.robotJoints) : m.resetMotionStep.Sized := by
  have hcovers (p : PointGoal α) (hp : p.sizes.1 = m.robotJoints) :
      (p.resetVelocities m.robotJoints).Covers p.sizes :=
    PointGoal.covers_resetVelocities le_rfl hp.le
  exact ⟨.inr h, hcovers _ rfl, hcovers _ rfl⟩

variable [LinearOrder α] [Cmath α]

/-- All preparations keep the sizes, if the feedback has all robot joints of the references. -/
theorem sized_preserved :
    Preserved fun m : MotionStep α => m.Sized ∧ m.KeepsJoints where
  externalGoal := by
    rintro m goal ⟨h, hkeeps⟩
    exact ⟨h.of_shape rfl h.internalGoal, hkeeps⟩
  durationFactor := by
    rintro m factor ⟨h, hkeeps⟩
    exact ⟨h.of_shape rfl h.internalGoal, hkeeps⟩
  normal := by
    rintro m lastPoint ⟨h, hkeeps⟩
    have hsizes : m.interpolation.sizes ≤ m.internalGoal.sizes :=
      ⟨h.internalGoal.robot.position, h.internalGoal.external.position⟩
    refine ⟨h.of_shape rfl ?_, hkeeps⟩
    exact (PointGoal.covers_resetVelocities hsizes hkeeps).of_shape
      (m.shape_prepareNormalGoal lastPoint)
  rampDown := by
    rintro m doStop ⟨h, hkeeps⟩
    exact ⟨h.of_shape rfl h.internalGoal, hkeeps⟩
  staticPosition := by
    rintro m goal fast ⟨h, hkeeps⟩
    refine ⟨h.of_shape rfl ?_, hkeeps⟩
    exact h.interpolation.of_shape (shape_transferStaticPositionGoal goal m.interpolation)
  staticVelocity := by
    rintro m goal fast ⟨h, hkeeps⟩
    refine ⟨h.of_shape rfl ?_, hkeeps⟩
    exact h.interpolation.of_shape (shape_transferStaticVelocityGoal goal m.interpolation)

theorem updateInterpolator_hasOffset (m : MotionStep α) : m.updateInterpolator.HasOffset := by
  have hconditions := (m.interpolator.update_frame m.updateInterpolator.interpolation m.internalGoal
    m.interpolatorConditions).1
  have hkept : m.updateInterpolator.interpolator.conditions.operation =
      m.interpolatorConditions.operation := (congrArg Conditions.operation hconditions :)
  intro hoperation
  rw [hkept] at hoperation
  exact EGMInterpolator.offset_update _ _ _ hoperation

end MotionStep

/-! ### Callbacks -/

namespace TrajectoryMotion

/-- The invariant of a trajectory motion. -/
structure Sized (t : TrajectoryMotion α) : Prop where
  motionStep : t.motionStep.Sized
  offset : t.data.hasActiveGoal = true → t.motionStep.HasOffset

variable [Field α] [LinearOrder α] [Cmath α]

theorem sizes_startGoal (t : TrajectoryMotion α) :
    t.startGoal.motionStep.interpolation.sizes = t.motionStep.interpolation.sizes := by
  unfold startGoal
  split <;> rfl

theorem sized_startGoal {t : TrajectoryMotion α} (h : t.motionStep.Sized) :
    t.startGoal.motionStep.Sized := by
  unfold startGoal
  split
  · exact h.of_shape rfl h.internalGoal
  · exact h

theorem Sized.executeGoal {t : TrajectoryMotion α} (h : t.startGoal.Sized) (outputs : Output α) :
    (t.executeGoal outputs).1.Sized := by
  rw [executeGoal_eq]
  split
  next hactive =>
    have hrewrites := (Controller.calculate_frame t.startGoal.controller outputs
      t.startGoal.motionStep.evaluateInterpolator).2.eq
    have hinterpolator := congrArg MotionStep.interpolator hrewrites
    have hgoal := congrArg MotionStep.internalGoal hrewrites
    have hshape := (Controller.calculate_keepsShape t.startGoal.controller outputs
      t.startGoal.motionStep.evaluateInterpolator).references.trans
        (EGMInterpolator.shape_evaluate _ _ _ _)
    refine ⟨h.motionStep.of_shape hshape ?_, fun _ hoperation => ?_⟩
    · simp only [hgoal]
      exact h.motionStep.internalGoal
    · simp only [hinterpolator] at hoperation ⊢
      exact (h.offset hactive hoperation).trans
        (congrArg Prod.fst (PointGoal.sizes_of_shape hshape)).symm
  next => exact h

theorem Sized.inRange_executeGoal {t : TrajectoryMotion α} (h : t.startGoal.Sized)
    (hactive : t.data.hasNewGoal = true → t.data.hasActiveGoal = true)
    (hsplines : t.data.hasActiveGoal = true → t.motionStep.HasSplines) (outputs : Output α) :
    InRange (t.executeGoalAccesses outputs) := by
  have hsplines' (hgoal : t.data.hasActiveGoal = true) : t.startGoal.motionStep.HasSplines := by
    unfold MotionStep.HasSplines
    rw [t.sizes_startGoal]
    exact hsplines hgoal
  unfold executeGoalAccesses
  rw [inRange_append]
  refine ⟨InRange.ite (fun hnew => ?_) fun _ => inRange_nil,
    InRange.ite (fun hgoal => ?_) fun _ => inRange_nil⟩
  · exact h.motionStep.inRange_update (hsplines' (hactive hnew))
  · rw [inRange_append]
    have hoffset := h.offset (t.hasActiveGoal_startGoal.trans hgoal)
    exact ⟨h.motionStep.inRange_evaluate (hsplines' hgoal) hoffset,
      Controller.inRange_calculate _ _ _⟩

section runs
variable [FloorRing α]

/-- The condition of a callback with ok states: the message has all robot joints of the references,
and if a goal is executed then there are polynomials for all joints of the references. -/
def HasRoom (t : TrajectoryMotion α) (inputs : InputContainer α) : Prop :=
  inputs.statesOk = true → (t.prepared inputs).motionStep.KeepsJoints ∧
    ((t.prepared inputs).process.data.hasActiveGoal = true →
      (t.prepared inputs).motionStep.HasSplines)

omit [Cmath α] in
theorem Sized.prepared {t : TrajectoryMotion α} (h : t.Sized) {inputs : InputContainer α}
    (hrobot : Constants.defaultNumberOfRobotJoints ≤ inputs.current.feedback.get.sizes.1) :
    (t.prepared inputs).Sized := by
  obtain ⟨hmotion, hactive⟩ := t.prepared_goal inputs
  cases hresets : inputs.firstMessage ||
      !inputs.statesOk && !t.stateManager.verifyState .normal .none with
  | true =>
      rw [hresets, if_pos rfl] at hmotion
      rw [hresets, Bool.not_true, Bool.false_and] at hactive
      refine ⟨?_, fun hgoal => absurd (hactive.symm.trans hgoal) Bool.false_ne_true⟩
      rw [hmotion]
      exact MotionStep.resetMotionStep_sized _ hrobot
  | false =>
      rw [hresets, if_neg Bool.false_ne_true] at hmotion
      rw [hresets, Bool.not_false, Bool.true_and] at hactive
      refine ⟨?_, fun hgoal => ?_⟩
      · rw [hmotion]
        exact h.motionStep.of_shape rfl h.motionStep.internalGoal
      · rw [hmotion]
        exact h.offset (hactive.symm.trans hgoal)

theorem Sized.generateOutputs {t : TrajectoryMotion α} (h : t.Sized) {inputs : InputContainer α}
    (hrobot : Constants.defaultNumberOfRobotJoints ≤ inputs.current.feedback.get.sizes.1)
    (hroom : t.HasRoom inputs) (outputs : Output α) :
    (t.generateOutputs outputs inputs).1.Sized ∧
      InRange (t.generateOutputsAccesses outputs inputs) := by
  have hprepared := h.prepared hrobot
  unfold TrajectoryMotion.generateOutputs generateOutputsAccesses
  cases hok : inputs.statesOk with
  | false => exact ⟨⟨hprepared.motionStep, hprepared.offset⟩, inRange_nil⟩
  | true =>
      obtain ⟨hkeeps, hsplines⟩ := hroom hok
      have hturn := (t.prepared inputs).process_turn
      have hkept := (t.prepared inputs).process_keeps.motionStep
      have hprocessed := process_preserved MotionStep.sized_preserved ⟨hprepared.motionStep, hkeeps⟩
      have hstart : (t.prepared inputs).process.startGoal.Sized := by
        refine ⟨sized_startGoal hprocessed.1, ?_⟩
        exact startGoal_active MotionStep.HasOffset.congr hprepared.offset fun _ =>
          MotionStep.updateInterpolator_hasOffset _
      have hsplines' (hgoal : (t.prepared inputs).process.data.hasActiveGoal = true) :
          (t.prepared inputs).process.motionStep.HasSplines := by
        unfold MotionStep.HasSplines
        rw [hkept.interpolation]
        exact hsplines hgoal
      have hexecuted := Sized.executeGoal hstart outputs
      refine ⟨⟨hexecuted.motionStep, hexecuted.offset⟩, ?_⟩
      rw [if_pos rfl, inRange_append]
      exact ⟨inRange_process _, Sized.inRange_executeGoal hstart (hturn.active rfl) hsplines' outputs⟩

end runs

omit [Cmath α] in
theorem Sized.call {t : TrajectoryMotion α} (h : t.Sized) (call : TrajectoryCall α) :
    (t.call call).2.Sized := by
  have hactive : (t.call call).2.data.hasActiveGoal = t.data.hasActiveGoal :=
    (congrArg Control.hasActiveGoal (t.control_call call)).trans
      (Control.call_frame t.control call).2.2.2.2
  refine ⟨?_, fun hgoal => ?_⟩
  · rw [t.call_motionStep call]
    exact h.motionStep
  · rw [t.call_motionStep call]
    exact h.offset (hactive.symm.trans hgoal)

omit [Cmath α] in
theorem Sized.calls {t : TrajectoryMotion α} (h : t.Sized) (calls : List (TrajectoryCall α)) :
    (calls.foldl (fun t call => (t.call call).2) t).Sized := by
  induction calls generalizing t with
  | nil => exact h
  | cons call calls ih => exact ih (h.call call)

end TrajectoryMotion

/-! ### Demo outputs -/

namespace OutputContainer

theorem inRange_follow {initial current j : JointSpace α} {n : ℕ} (hj : j.vectorSizes = [n, n])
    (hinitial : initial.position.get.valuesSize = n)
    (hposition : current.position.get.valuesSize ≤ n)
    (hvelocity : current.velocity.get.valuesSize ≤ n) :
    InRange (followAccesses initial current j) := by
  simp only [JointSpace.vectorSizes, List.cons.injEq, and_true] at hj
  unfold followAccesses
  rw [inRange_append]
  refine ⟨inRange_loop.mpr (.inr ?_), inRange_loop.mpr (.inr ?_)⟩
  · intro size hsize
    simp only [List.mem_cons, List.not_mem_nil, or_false] at hsize
    omega
  · intro size hsize
    rw [List.mem_singleton] at hsize
    omega

/-- The demo outputs go through the joints of the message, in vectors that have those of the first
message. -/
theorem inRange_generateDemoOutputs {o : OutputContainer α} {inputs : InputContainer α}
    (houtputs : o.current.Matches inputs.initial.feedback.get.sizes)
    (hvelocities : inputs.current.feedback.get.velocitySizes ≤ inputs.current.feedback.get.sizes)
    (hsizes : inputs.current.feedback.get.sizes ≤ inputs.initial.feedback.get.sizes) :
    InRange (o.generateDemoOutputsAccesses inputs) := by
  obtain ⟨hrobot, hexternal⟩ := Prod.mk.inj houtputs
  have hbound := hvelocities.trans hsizes
  unfold generateDemoOutputsAccesses
  rw [inRange_append]
  exact ⟨inRange_follow hrobot rfl hsizes.1 hbound.1, inRange_follow hexternal rfl hsizes.2 hbound.2⟩

end OutputContainer

/-! ### Runs -/

theorem InputContainer.initial_parseFromArray (ParseFromArray : β → Bool × EgmRobot α)
    (i : InputContainer α) (data : Option β) :
    (i.parseFromArray ParseFromArray data).2.initial = i.initial := by
  unfold InputContainer.parseFromArray
  cases data <;> simp only <;> split <;> rfl

namespace EGMInterface

/-- The invariant of a run: the outputs have the joints of the initial feedback. -/
structure Sized (s : EGMInterface (TrajectoryConfiguration α) (TrajectoryMotion α) α) : Prop where
  motion : s.motion.Sized
  outputs : s.outputs.current.Matches s.inputs.initial.feedback.get.sizes

section runs
variable [Field α] [LinearOrder α] [Cmath α] [FloorRing α]
  (ParseFromArray : β → Bool × EgmRobot α)

/-- The condition of a callback. -/
def MessageFits (s : EGMInterface (TrajectoryConfiguration α) (TrajectoryMotion α) α) :
    Event (TrajectoryConfiguration α) (TrajectoryCall α) β → Prop
  | .datagram data mid =>
      let r := s.initializeCallback trajectoryHandler ParseFromArray data
      r.1 = true →
        if r.2.configuration.active.base.useDemoOutputs then
          r.2.inputs.current.feedback.get.sizes ≤ r.2.inputs.initial.feedback.get.sizes
        else (mid.foldl trajectoryHandler.user r.2.motion).HasRoom r.2.inputs
  | _ => True

variable {s : EGMInterface (TrajectoryConfiguration α) (TrajectoryMotion α) α}

theorem Sized.execute (hs : s.Sized)
    (hmeasured : s.inputs.Measured s.configuration.active.base.axes) (mid : List (TrajectoryCall α))
    (hfits : if s.configuration.active.base.useDemoOutputs then
        s.inputs.current.feedback.get.sizes ≤ s.inputs.initial.feedback.get.sizes
      else (mid.foldl trajectoryHandler.user s.motion).HasRoom s.inputs) :
    (s.execute trajectoryHandler mid).Sized ∧ InRange (s.executeAccesses mid) := by
  have hmotion := hs.motion.calls mid
  have hrobot : Constants.defaultNumberOfRobotJoints ≤
      s.inputs.current.feedback.get.sizes.1 := by
    rw [hmeasured.robot]
    cases s.configuration.active.base.axes <;> decide
  unfold executeAccesses
  simp only [inRange_append]
  have hothers := And.intro s.inputs.inRange_estimateAllVelocities
    ((s.execute trajectoryHandler mid).outputs.inRange_constructJointBody
      s.configuration.active.base)
  cases hdemo : s.configuration.active.base.useDemoOutputs with
  | true =>
      rw [hdemo, if_pos rfl] at hfits
      have hexecuted : s.execute trajectoryHandler mid = { s with
          outputs := s.outputs.generateDemoOutputs s.inputs
          motion := mid.foldl trajectoryHandler.user s.motion } := if_pos hdemo
      refine ⟨?_, ⟨hothers.1, ?_⟩, hothers.2⟩
      · rw [hexecuted]
        exact ⟨hmotion, (s.outputs.shape_generateDemoOutputs s.inputs).trans hs.outputs⟩
      · rw [if_pos rfl]
        exact OutputContainer.inRange_generateDemoOutputs hs.outputs hmeasured.velocities hfits
  | false =>
      rw [hdemo, if_neg Bool.false_ne_true] at hfits
      obtain ⟨hgenerated, hinRange⟩ := hmotion.generateOutputs hrobot hfits s.outputs.current
      have hexecuted : s.execute trajectoryHandler mid = { s with
          outputs := { s.outputs with current := ((mid.foldl trajectoryHandler.user
            s.motion).generateOutputs s.outputs.current s.inputs).2 }
          motion := ((mid.foldl trajectoryHandler.user s.motion).generateOutputs s.outputs.current
            s.inputs).1 } := if_neg (by simp [trajectoryHandler, hdemo])
      refine ⟨?_, ⟨hothers.1, ?_⟩, hothers.2⟩
      · rw [hexecuted]
        exact ⟨hgenerated, (TrajectoryMotion.shape_generateOutputs _ _ _).trans hs.outputs⟩
      · rw [if_neg Bool.false_ne_true]
        exact hinRange

omit [LinearOrder α] [Cmath α] [FloorRing α] in
/-- The outputs are prepared at the first message of a session. -/
theorem prepareOutputs_matches {o : OutputContainer α} {inputs : InputContainer α}
    {axes : RobotAxes} (hmeasured : inputs.Measured axes)
    (hkept : inputs.firstMessage = false →
      o.current.Matches inputs.initial.feedback.get.sizes) :
    (o.prepareOutputs inputs).current.Matches inputs.initial.feedback.get.sizes := by
  unfold OutputContainer.prepareOutputs
  simp only
  split
  next hfirst =>
    obtain ⟨hinitial, hvelocities⟩ := hmeasured.first hfirst
    rw [hinitial]
    exact Output.prepare_matches _ hvelocities
  next hfirst => exact hkept (Bool.eq_false_iff.mpr hfirst)

theorem Sized.updateConfiguration (hs : s.Sized) :
    (s.updateConfiguration trajectoryHandler).Sized := by
  unfold EGMInterface.updateConfiguration
  split
  · have hmotion := hs.motion.motionStep
    exact ⟨⟨hmotion.of_shape rfl hmotion.internalGoal, hs.motion.offset⟩, hs.outputs⟩
  · exact hs

variable [IsStrictOrderedRing α]

theorem Sized.initializeCallback (hs : s.Sized) (data : Option β) :
    (s.initializeCallback trajectoryHandler ParseFromArray data).2.Sized ∧
      (s.accepts trajectoryHandler ParseFromArray data = true →
        (s.initializeCallback trajectoryHandler ParseFromArray data).2.inputs.Measured
          (s.initializeCallback trajectoryHandler ParseFromArray
            data).2.configuration.active.base.axes) := by
  have hinitial := s.inputs.initial_parseFromArray ParseFromArray data
  cases hparsed : (s.inputs.parseFromArray ParseFromArray data).1 with
  | false =>
      have hrejected : s.accepts trajectoryHandler ParseFromArray data = false := by
        rw [accepts_eq, hparsed, Bool.false_and]
      refine ⟨?_, fun haccepted => absurd (hrejected.symm.trans haccepted) Bool.false_ne_true⟩
      unfold EGMInterface.initializeCallback
      cases data with
      | none => exact ⟨hs.motion, hs.outputs⟩
      | some bytes =>
          simp only [hparsed, Bool.false_eq_true, if_false]
          exact ⟨hs.motion, hinitial ▸ hs.outputs⟩
  | true =>
      have hparsedSized : (s.parsed ParseFromArray data).Sized :=
        ⟨hs.motion, hinitial.symm ▸ hs.outputs⟩
      obtain ⟨hmotion, houtputs⟩ := hparsedSized.updateConfiguration
      have hcurrent := congrArg OutputContainer.current
        (updateConfiguration_frame trajectoryHandler (s.parsed ParseFromArray data)).2
      rw [hcurrent] at houtputs
      -- the initial inputs are kept, unless a session starts
      have hkept (h : ((s.parsed ParseFromArray data).updateConfiguration
            trajectoryHandler).inputs.firstMessage = false ∨
          ((s.parsed ParseFromArray data).extract trajectoryHandler).1 = false) :
          s.outputs.current.Matches ((s.parsed ParseFromArray data).extract
            trajectoryHandler).2.inputs.initial.feedback.get.sizes := by
        have hinitial : ((s.parsed ParseFromArray data).extract trajectoryHandler).2.inputs.initial =
            ((s.parsed ParseFromArray data).updateConfiguration trajectoryHandler).inputs.initial :=
          InputContainer.initial_extractParsedInformation h
        rw [hinitial]
        exact houtputs
      unfold accepts
      rw [initializeCallback_parsed trajectoryHandler ParseFromArray hparsed]
      simp only
      cases hextract : ((s.parsed ParseFromArray data).extract trajectoryHandler).1 with
      | true =>
          have hmeasured : ((s.parsed ParseFromArray data).extract
              trajectoryHandler).2.inputs.Measured ((s.parsed ParseFromArray data).extract
                trajectoryHandler).2.configuration.active.base.axes :=
            InputContainer.extractParsedInformation_measured hextract
          refine ⟨⟨hmotion, prepareOutputs_matches hmeasured fun hfirst => hkept (.inl ?_)⟩,
            fun _ => hmeasured⟩
          exact (InputContainer.extractParsedInformation_firstMessage _ _).symm.trans hfirst
      | false =>
          exact ⟨⟨hmotion, hkept (.inr hextract)⟩, fun h => absurd h Bool.false_ne_true⟩

/-- A callback that meets the condition keeps the invariant, and its accesses are in range. -/
theorem Sized.step (hs : s.Sized) (e : Event (TrajectoryConfiguration α) (TrajectoryCall α) β)
    (hfits : s.MessageFits ParseFromArray e) :
    (s.step trajectoryHandler ParseFromArray e).Sized ∧ s.AccessesInRange ParseFromArray e := by
  cases e with
  | user call => exact ⟨⟨hs.motion.call call, hs.outputs⟩, trivial⟩
  | setConfiguration configuration => exact ⟨⟨hs.motion, hs.outputs⟩, trivial⟩
  | datagram data mid =>
      obtain ⟨hinitialized, hmeasured⟩ := hs.initializeCallback ParseFromArray data
      unfold EGMInterface.step callback
      simp only
      cases haccepted : (s.initializeCallback trajectoryHandler ParseFromArray data).1 with
      | false =>
          refine ⟨⟨hinitialized.motion.calls mid, hinitialized.outputs⟩, fun h => ?_⟩
          exact absurd (haccepted.symm.trans h) Bool.false_ne_true
      | true =>
          obtain ⟨hexecuted, hinRange⟩ :=
            hinitialized.execute (hmeasured haccepted) mid (hfits haccepted)
          refine ⟨⟨hexecuted.motion, ?_⟩, fun _ => hinRange⟩
          have hcurrent := OutputContainer.constructReply_current
            ((s.initializeCallback trajectoryHandler ParseFromArray data).2.execute
              trajectoryHandler mid).outputs ((s.initializeCallback trajectoryHandler ParseFromArray
                data).2.execute trajectoryHandler mid).configuration.active.base
          exact hcurrent.symm ▸ hexecuted.outputs

/-- **No access is out of range** in a run of the trajectory interface in which every accepted
message fits: for the demo outputs, it has at most the joints of the session's first message;
otherwise it has all robot joints of the references, and there are polynomials for all joints of the
references whenever a goal is executed. -/
theorem accesses_inRange (configuration : TrajectoryConfiguration α)
    (es : List (Event (TrajectoryConfiguration α) (TrajectoryCall α) β))
    (hes : Along (step trajectoryHandler ParseFromArray) (MessageFits ParseFromArray)
      (init configuration (.init configuration)) es) :
    Along (step trajectoryHandler ParseFromArray) (AccessesInRange ParseFromArray)
      (init configuration (.init configuration)) es := by
  refine hes.of_inv (fun _ e hs he => Sized.step ParseFromArray hs e he) ⟨⟨⟨.inl rfl, ?_, ?_⟩, ?_⟩, rfl⟩
  · exact ⟨⟨le_rfl, le_rfl, le_rfl⟩, ⟨le_rfl, le_rfl, le_rfl⟩⟩
  · exact ⟨⟨le_rfl, le_rfl, le_rfl⟩, ⟨le_rfl, le_rfl, le_rfl⟩⟩
  · exact fun hactive => absurd hactive Bool.false_ne_true

end runs

section decidable
variable [Field α] [LinearOrder α] [Cmath α] [FloorRing α]
  (ParseFromArray : β → Bool × EgmRobot α)
  (s : EGMInterface (TrajectoryConfiguration α) (TrajectoryMotion α) α)

instance (t : TrajectoryMotion α) (inputs : InputContainer α) : Decidable (t.HasRoom inputs) :=
  inferInstanceAs (Decidable (inputs.statesOk = true →
    _ ≤ (t.prepared inputs).motionStep.robotJoints ∧
      ((t.prepared inputs).process.data.hasActiveGoal = true → _ + _ ≤ maxNumberOfSplines)))

instance (e : Event (TrajectoryConfiguration α) (TrajectoryCall α) β) :
    Decidable (s.MessageFits ParseFromArray e) :=
  match e with
  | .datagram data _ => inferInstanceAs (Decidable
      ((s.initializeCallback trajectoryHandler ParseFromArray data).1 = true → ite _ _ _))
  | .user _ | .setConfiguration _ => inferInstanceAs (Decidable True)

instance (e : Event (TrajectoryConfiguration α) (TrajectoryCall α) β) :
    Decidable (s.AccessesInRange ParseFromArray e) :=
  match e with
  | .datagram data _ => inferInstanceAs (Decidable
      ((s.initializeCallback trajectoryHandler ParseFromArray data).1 = true → InRange _))
  | .user _ | .setConfiguration _ => inferInstanceAs (Decidable True)

end decidable

/-- A robot with these external joints: a goal is added after the first message, and activated at the
second one. -/
def moved (external : List ℚ) :
    List (Event (TrajectoryConfiguration ℚ) (TrajectoryCall ℚ) (EgmRobot ℚ)) :=
  [.datagram (some (TrajectoryMotion.withAxis 0 0 external)) [],
    .user (.addTrajectory ⟨[Evaluation.point 2 [6, 0, 0, 0, 0, 0]]⟩ false),
    .datagram (some (TrajectoryMotion.withAxis 1 1 external)) []]

/-- Six external joints fit. -/
theorem accesses_inRange_six : Along (step trajectoryHandler Evaluation.parse)
    (AccessesInRange Evaluation.parse)
    (init Evaluation.configurations (.init Evaluation.configurations)) (moved [0, 0, 0, 0, 0, 0]) :=
  accesses_inRange Evaluation.parse Evaluation.configurations _ (by decide +kernel)

/-- The polynomial of a seventh one would be the thirteenth: both messages are accepted and answered,
and the second one leads to accesses out of range. -/
theorem accesses_outOfRange :
    (collect (step trajectoryHandler Evaluation.parse) (replies trajectoryHandler Evaluation.parse)
      (init Evaluation.configurations (.init Evaluation.configurations))
        (moved [0, 0, 0, 0, 0, 0, 0])).length = 2 ∧
    ¬Along (step trajectoryHandler Evaluation.parse) (AccessesInRange Evaluation.parse)
      (init Evaluation.configurations (.init Evaluation.configurations))
        (moved [0, 0, 0, 0, 0, 0, 0]) := by
  decide +kernel

end EGMInterface

end AbbWrapper
