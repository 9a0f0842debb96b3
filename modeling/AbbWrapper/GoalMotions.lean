import AbbWrapper.ControllerMode
import AbbWrapper.IndexRange
import AbbWrapper.SplineMotions

/-! # A goal is approached straight

What is sent while a goal is executed: with the gain one, the positions of the references that the
interpolator evaluates.  A goal is under way from the callback that activates it until another update of
the goal, or the end of its activity; commands may come in between.

* `Way` is what a goal is executed with, and `course` the sample of a coordinate on it after some time.
* `UnderWay` is the invariant of a machine that executes a goal, and `UnderWay.callback` says what a
  callback does that goes on with it.
* `Passes` lists the values of a function at times that do not go back: what a run sends is such a list of
  the positions of the course (`ActivatesNormalGoal.passes`).
* `Fits` is the condition on the messages before, and `Supplies` and `GoesOn` those on the callbacks
  after the activation: outputs and feedback have the joints of the motion, and states are ok.

Of a coordinate whose boundary values are `Direct` (see `SplineMotions.lean`), each position that is sent
lies between every earlier one and the goal, and the goal is sent from the end of its duration on
(`goal_approached`). -/

namespace AbbWrapper

open Protobuf Runs

variable {α β : Type}

/-- Values of `f` at times that pass. -/
inductive Passes [LE α] (f : α → β) : α → List β → α → Prop where
  | nil (t : α) : Passes f t [] t
  | cons {t t' t'' : α} {values : List β} (htime : t ≤ t') (hrest : Passes f t' values t'') :
      Passes f t (f t' :: values) t''

namespace Passes
variable [Preorder α] {f : α → β} {t t' : α} {values : List β}

theorem exists_of_mem (h : Passes f t values t') {value : β} (hvalue : value ∈ values) :
    ∃ time, t ≤ time ∧ value = f time := by
  induction h with
  | nil t => cases hvalue
  | cons htime hrest ih =>
      rcases List.mem_cons.mp hvalue with rfl | hvalue
      · exact ⟨_, htime, rfl⟩
      · obtain ⟨time, hle, rfl⟩ := ih hvalue
        exact ⟨time, htime.trans hle, rfl⟩

theorem pairwise (h : Passes f t values t') {R : β → β → Prop}
    (hR : ∀ time time', time ≤ time' → R (f time) (f time')) : values.Pairwise R := by
  induction h with
  | nil t => exact .nil
  | cons htime hrest ih =>
      refine .cons (fun value hvalue => ?_) ih
      obtain ⟨time, hle, rfl⟩ := hrest.exists_of_mem hvalue
      exact hR _ _ hle

theorem getLast?_eq (h : Passes f t values t') (hvalues : values ≠ []) :
    values.getLast? = some (f t') := by
  induction h with
  | nil t => exact absurd rfl hvalues
  | cons htime hrest ih =>
      cases hrest with
      | nil => rfl
      | cons htime' hrest' => exact ih (List.cons_ne_nil _ _)

end Passes

variable [Field α]

/-! ### What is sent -/

namespace Coordinate

/-- The position in the outputs. -/
def sent (output : Output α) : Coordinate → α
  | robot i => output.robotJoints.position.get.value i
  | axis a => output.robotCartesian.pose.get.position.get.component a
  | external i => output.externalJoints.position.get.value i

end Coordinate

/-- Positions for at least `r` robot joints and `x` external joints. -/
def Spans (r x : ℕ) (robot external : Joints α) : Prop :=
  r ≤ robot.valuesSize ∧ x ≤ external.valuesSize

def Output.Spans (r x : ℕ) (o : Output α) : Prop :=
  AbbWrapper.Spans r x o.robotJoints.position.get o.externalJoints.position.get

def Feedback.Spans (r x : ℕ) (f : Feedback α) : Prop :=
  AbbWrapper.Spans r x f.robotJoints.position.get f.externalJoints.position.get

def PointGoal.Spans (r x : ℕ) (p : PointGoal α) : Prop :=
  AbbWrapper.Spans r x p.robotJoints.position.get p.externalJoints.position.get

omit [Field α] in
theorem PointGoal.Holds.spans {r x : ℕ} {p : PointGoal α} (h : p.Holds r x) : p.Spans r x :=
  ⟨h.robotPosition, h.externalPosition⟩

namespace Controller
variable {c : Controller α}

theorem follow_of_gain (hk : c.k = 1) (ref fdb : α) : c.follow ref fdb = ref := by
  rw [follow, hk]
  ring

theorem value_calculateJoints (hk : c.k = 1) (htransition : c.doVelocityTransition = false)
    {out ref fdb start : Joints α} {i : ℕ} (hout : i < out.valuesSize) (href : i < ref.valuesSize)
    (hfdb : i < fdb.valuesSize) (hstart : i < start.valuesSize) :
    (c.calculateJoints out ref fdb start).1.value i = ref.value i := by
  unfold calculateJoints
  simp only [htransition, Bool.false_eq_true, if_false]
  rw [Joints.value_update _ _ _ hout, if_pos (by omega), follow_of_gain hk]

variable [LinearOrder α] [Cmath α]

/-- Positions are sent before it is decided whether velocities make a transition. -/
theorem sent_calculate (hk : c.k = 1) {output : Output α} {m : MotionStep α} {r x : ℕ}
    (houtput : output.Spans r x) (hreferences : m.interpolation.Spans r x)
    (hfeedback : m.data.feedback.Spans r x) (hstart : c.initialReferences.Spans r x)
    {k : Coordinate} (hin : k.In c.egmMode r x) :
    k.sent (c.calculate output m).2.1 = (k.sample m.interpolation).position := by
  have hk' : (c.scaleFactors m).k = 1 := hk
  have htransition : (c.scaleFactors m).doVelocityTransition = false := rfl
  have hmode : (c.scaleFactors m).egmMode = c.egmMode := rfl
  have hinitial : (c.scaleFactors m).initialReferences = c.initialReferences := rfl
  unfold calculate
  simp only [hmode]
  generalize c.scaleFactors m = d at hk' htransition hmode hinitial ⊢
  rw [← hinitial] at hstart
  cases hcase : c.egmMode with
  | egmJoint =>
      rw [hcase] at hin
      cases k with
      | robot i =>
          obtain ⟨-, hi⟩ := hin
          exact value_calculateJoints hk' htransition (hi.trans_le houtput.1)
            (hi.trans_le hreferences.1) (hi.trans_le hfeedback.1) (hi.trans_le hstart.1)
      | axis a => cases hin
      | external i =>
          have hi : i < x := hin
          exact value_calculateJoints hk' htransition (hi.trans_le houtput.2)
            (hi.trans_le hreferences.2) (hi.trans_le hfeedback.2) (hi.trans_le hstart.2)
  | egmPose =>
      rw [hcase] at hin
      cases k with
      | robot i => cases hin.1
      | axis a =>
          have hpassed (ref fdb start : Cartesian α) : (d.calculateCartesian ref fdb start).1 =
              .of ref.x.val ref.y.val ref.z.val := by
            unfold calculateCartesian
            simp only [htransition, Bool.false_eq_true, if_false, follow_of_gain hk']
          have hsent : (d.calculateCartesian m.interpolation.robotCartesian.pose.get.position.get
              m.data.feedback.robotCartesian.pose.get.position.get
              d.initialReferences.robotCartesian.pose.get.position.get).1.component a =
                m.interpolation.robotCartesian.pose.get.position.get.component a := by
            rw [hpassed]
            cases a <;> rfl
          exact hsent
      | external i =>
          have hi : i < x := hin
          exact value_calculateJoints hk' htransition (hi.trans_le houtput.2)
            (hi.trans_le hreferences.2) (hi.trans_le hfeedback.2) (hi.trans_le hstart.2)

/-- What was noted at the update of the goal stays. -/
theorem calculate_noted (c : Controller α) (output : Output α) (m : MotionStep α) :
    (c.calculate output m).1.egmMode = c.egmMode ∧
      (c.calculate output m).1.initialReferences = c.initialReferences := by
  have hcheck (d : Controller α) (references : PointGoal α) :
      (d.checkForVelocityTransition references).1.egmMode = d.egmMode ∧
        (d.checkForVelocityTransition references).1.initialReferences = d.initialReferences := by
    unfold checkForVelocityTransition
    simp only
    split <;> exact ⟨rfl, rfl⟩
  unfold calculate
  simp only
  split
  · exact hcheck _ _
  · exact hcheck _ _

end Controller

omit [Field α] in
theorem PointGoal.Holds.of_shape {r x : ℕ} {p q : PointGoal α} (h : p.Holds r x)
    (hshape : q.shape = p.shape) : q.Holds r x := by
  simp only [PointGoal.shape, JointGoal.vectorSizes, Prod.mk.injEq, List.cons.injEq,
    and_true] at hshape
  obtain ⟨⟨hposition, hvelocity, hacceleration⟩, hposition', hvelocity', hacceleration'⟩ := hshape
  exact ⟨hposition ▸ h.robotPosition, hvelocity ▸ h.robotVelocity,
    hacceleration ▸ h.robotAcceleration, hposition' ▸ h.externalPosition,
    hvelocity' ▸ h.externalVelocity, hacceleration' ▸ h.externalAcceleration⟩

/-! ### A goal under way -/

/-- What a goal is executed with: an interpolator that is updated for the way from the references to the
goal, under the conditions, for `r` robot joints and `x` external joints. -/
structure Way (α : Type) where
  interpolator : EGMInterpolator α
  start : PointGoal α
  goal : PointGoal α
  conditions : Conditions α
  r : ℕ
  x : ℕ
  splines : interpolator.splinePolynomials.length = maxNumberOfSplines
  operation : conditions.operation = .normal
  robot : start.robotJoints.position.get.valuesSize = r
  external : start.externalJoints.position.get.valuesSize = x
  three : 3 ≤ r
  room : r + x ≤ maxNumberOfSplines
  holds : start.Holds r x

namespace Way
variable [LinearOrder α] [Cmath α] (w : Way α)

def updated : EGMInterpolator α := w.interpolator.update w.start w.goal w.conditions

/-- The sample of a coordinate after some time. -/
def course (k : Coordinate) (time : α) : Sample α :=
  k.sample (w.updated.evaluate w.start 0 time)

/-- The references that are written before do not matter, nor does the sample time. -/
theorem sample_evaluate {output : PointGoal α} (houtput : output.Holds w.r w.x) (sampleTime time : α)
    {k : Coordinate} (hk : k.In w.conditions.mode w.r w.x) :
    k.sample (w.updated.evaluate output sampleTime time) = w.course k time := by
  unfold course updated
  rw [EGMInterpolator.sample_update w.splines (.inl w.operation) w.robot w.external w.three w.room
      houtput sampleTime time hk,
    EGMInterpolator.sample_update w.splines (.inl w.operation) w.robot w.external w.three w.room
      w.holds 0 time hk]

theorem straight [IsStrictOrderedRing α] {k : Coordinate} (hk : k.In w.conditions.mode w.r w.x)
    (hdirect : (k.conditions (EGMInterpolator.clamped w.conditions) w.start w.goal).Direct) :
    Straight (k.sample w.start).position (k.sample w.goal).position
      (EGMInterpolator.clamped w.conditions).duration (w.course k) :=
  EGMInterpolator.straight_update w.splines w.operation w.robot w.external w.three w.room
    (fun _ => w.holds) (fun _ => 0) hk hdirect

end Way

namespace TrajectoryMotion
variable [LinearOrder α] [Cmath α]

/-- The active goal is executed on the way `w`. -/
structure UnderWay (t : TrajectoryMotion α) (w : Way α) : Prop where
  active : t.data.hasActiveGoal = true
  gain : t.controller.k = 1
  mode : t.controller.egmMode = w.conditions.mode
  interpolator : t.motionStep.interpolator = w.updated
  references : t.motionStep.interpolation.Holds w.r w.x
  initial : t.controller.initialReferences.Spans w.r w.x

theorem executeGoal_outputs (t : TrajectoryMotion α) (outputs : Output α)
    (hactive : t.startGoal.data.hasActiveGoal = true) : (t.executeGoal outputs).2 =
      (t.startGoal.controller.calculate outputs t.startGoal.motionStep.evaluateInterpolator).2.1 := by
  unfold executeGoal
  change (if t.startGoal.data.hasActiveGoal = true then _ else _ :
    TrajectoryMotion α × Output α).2 = _
  rw [if_pos hactive]
  rfl

/-- One evaluation: time passes, and the positions at the new time are sent. -/
theorem UnderWay.executeGoal {t : TrajectoryMotion α} {w : Way α} (ht : t.startGoal.UnderWay w)
    {outputs : Output α} (houtputs : outputs.Spans w.r w.x)
    (hfeedback : t.startGoal.motionStep.data.feedback.Spans w.r w.x) :
    (t.executeGoal outputs).1.UnderWay w ∧
      (t.executeGoal outputs).1.motionStep.data.timePassed =
        t.startGoal.motionStep.data.timePassed + t.startGoal.motionStep.data.estimatedSampleTime ∧
      ∀ k : Coordinate, k.In w.conditions.mode w.r w.x → k.sent (t.executeGoal outputs).2 =
        (w.course k (t.executeGoal outputs).1.motionStep.data.timePassed).position := by
  have houtput := t.executeGoal_outputs outputs ht.active
  have hstate := executeGoal_eq t outputs
  rw [if_pos ht.active] at hstate
  generalize t.startGoal = u at ht hfeedback houtput hstate
  obtain ⟨hk, hrewrites⟩ := Controller.calculate_frame u.controller outputs
    u.motionStep.evaluateInterpolator
  have hshape := (Controller.calculate_keepsShape u.controller outputs
    u.motionStep.evaluateInterpolator).references
  obtain ⟨hmode, hinitial⟩ := Controller.calculate_noted u.controller outputs
    u.motionStep.evaluateInterpolator
  have hreferences : u.motionStep.evaluateInterpolator.interpolation.Holds w.r w.x :=
    ht.references.of_shape (EGMInterpolator.shape_evaluate _ _ _ _)
  have htime : (t.executeGoal outputs).1.motionStep.data.timePassed =
      u.motionStep.data.timePassed + u.motionStep.data.estimatedSampleTime := by
    rw [hstate]
    exact congrArg (·.data.timePassed) hrewrites.eq
  refine ⟨?_, htime, fun k hin => ?_⟩
  · rw [hstate]
    refine ⟨ht.active, hk.trans ht.gain, hmode.trans ht.mode, ?_, hreferences.of_shape hshape, ?_⟩
    · exact (congrArg MotionStep.interpolator hrewrites.eq).trans ht.interpolator
    · simp only [hinitial]
      exact ht.initial
  · rw [houtput, htime]
    rw [Controller.sent_calculate ht.gain houtputs hreferences.spans hfeedback ht.initial
      (by rw [ht.mode]; exact hin)]
    have hsample := w.sample_evaluate ht.references u.motionStep.data.estimatedSampleTime
      (u.motionStep.data.timePassed + u.motionStep.data.estimatedSampleTime) hin
    rw [← hsample, ← ht.interpolator]
    rfl

section runs
variable [FloorRing α]

/-- The numbers of a callback: outputs and feedback have `r` robot joints and `x` external joints, and time
passes. -/
structure Supplies (r x : ℕ) (outputs : Output α) (inputs : InputContainer α) : Prop where
  statesOk : inputs.statesOk = true
  outputs : outputs.Spans r x
  feedback : inputs.current.feedback.get.Spans r x
  sampleTime : 0 ≤ inputs.estimatedSampleTime

/-- A step that goes on with the active goal. -/
def GoesOn (r x : ℕ) (t : TrajectoryMotion α) : Action α → Prop
  | .generateOutputs outputs inputs => Supplies r x outputs inputs ∧
      (t.step (.generateOutputs outputs inputs)).data.hasNewGoal = false ∧
      (t.step (.generateOutputs outputs inputs)).data.hasActiveGoal = true
  | _ => True

/-- The position of a coordinate that a step sends. -/
def sends (k : Coordinate) (t : TrajectoryMotion α) : Action α → List α
  | .generateOutputs outputs inputs => [k.sent (t.generateOutputs outputs inputs).2]
  | _ => []

/-- Of a callback, as far as the processed state decides. -/
theorem callback_underWay {t : TrajectoryMotion α} {w : Way α} {outputs : Output α}
    {inputs : InputContainer α} (hok : inputs.statesOk = true)
    (hu : ((t.prepared inputs).process.executeGoal outputs).1.UnderWay w) :
    (t.step (.generateOutputs outputs inputs)).UnderWay w ∧
      (t.step (.generateOutputs outputs inputs)).motionStep.data.timePassed =
        ((t.prepared inputs).process.executeGoal outputs).1.motionStep.data.timePassed ∧
      (t.generateOutputs outputs inputs).2 =
        ((t.prepared inputs).process.executeGoal outputs).2 := by
  have heq : t.generateOutputs outputs inputs =
      (((t.prepared inputs).process.executeGoal outputs).1.updateExecutionProgress
        ((t.prepared inputs).process.executeGoal outputs).2 inputs,
        ((t.prepared inputs).process.executeGoal outputs).2) := by
    unfold generateOutputs
    rw [hok]
    rfl
  rw [step, heq]
  exact ⟨⟨hu.active, hu.gain, hu.mode, hu.interpolator, hu.references, hu.initial⟩, rfl, rfl⟩

omit [FloorRing α] in
theorem process_data (t : TrajectoryMotion α) :
    t.process.motionStep.data.timePassed = t.motionStep.data.timePassed ∧
      t.process.motionStep.data.feedback = t.motionStep.data.feedback ∧
      t.process.motionStep.data.estimatedSampleTime = t.motionStep.data.estimatedSampleTime := by
  have hpreserved : MotionStep.Preserved fun m : MotionStep α =>
      m.data.timePassed = t.motionStep.data.timePassed ∧
        m.data.feedback = t.motionStep.data.feedback ∧
        m.data.estimatedSampleTime = t.motionStep.data.estimatedSampleTime := by
    constructor
    · intro m goal h
      exact h
    · intro m factor h
      exact h
    · intro m lastPoint h
      exact h
    · intro m doStop h
      exact h
    · intro m goal fast h
      exact h
    · intro m goal fast h
      exact h
  exact process_preserved hpreserved ⟨rfl, rfl, rfl⟩

/-- The step that a callback executes a goal with. -/
def executed (t : TrajectoryMotion α) (inputs : InputContainer α) : MotionStep α :=
  (t.prepared inputs).process.motionStep

/-- Feedback and sample time are those of the callback. -/
theorem executed_data (t : TrajectoryMotion α) (inputs : InputContainer α) :
    (t.executed inputs).data.feedback = inputs.current.feedback.get ∧
      (t.executed inputs).data.estimatedSampleTime = inputs.estimatedSampleTime := by
  obtain ⟨-, hfeedback, hsample⟩ := (t.prepared inputs).process_data
  rw [executed, hfeedback, hsample, (t.prepared_goal inputs).1]
  split <;> exact ⟨rfl, rfl⟩

/-- A callback that goes on with the goal. -/
theorem UnderWay.callback {t : TrajectoryMotion α} {w : Way α} (ht : t.UnderWay w)
    {outputs : Output α} {inputs : InputContainer α}
    (hgoes : t.GoesOn w.r w.x (.generateOutputs outputs inputs)) :
    (t.step (.generateOutputs outputs inputs)).UnderWay w ∧
      (t.step (.generateOutputs outputs inputs)).motionStep.data.timePassed =
        t.motionStep.data.timePassed + inputs.estimatedSampleTime ∧
      ∀ k : Coordinate, k.In w.conditions.mode w.r w.x → k.sent (t.generateOutputs outputs inputs).2 =
        (w.course k (t.step (.generateOutputs outputs inputs)).motionStep.data.timePassed).position := by
  obtain ⟨hsupplies, hnew, hactive⟩ := hgoes
  have hcontrol : (t.step (.generateOutputs outputs inputs)).control =
      (t.prepared inputs).process.control := by
    change (t.generateOutputs outputs inputs).1.control = _
    unfold generateOutputs
    simp only [hsupplies.statesOk, if_true, control_updateExecutionProgress, control_executeGoal]
    rfl
  have hnew' : (t.prepared inputs).process.data.hasNewGoal = false :=
    (congrArg Control.hasNewGoal hcontrol).symm.trans hnew
  have hactive' : (t.prepared inputs).process.data.hasActiveGoal = true :=
    (congrArg Control.hasActiveGoal hcontrol).symm.trans hactive
  -- the goal was active before, so that nothing was reset
  have hwas := (t.prepared inputs).process_turn.kept hnew' hactive'
  obtain ⟨hmotion, hprepared⟩ := t.prepared_goal inputs
  have hresets : (inputs.firstMessage ||
      !inputs.statesOk && !t.stateManager.verifyState .normal .none) = false := by
    have h := hprepared.symm.trans hwas
    rw [Bool.and_eq_true, Bool.not_eq_true'] at h
    exact h.1
  rw [hresets, if_neg Bool.false_ne_true] at hmotion
  have hkept := (t.prepared inputs).process_keeps
  have hstart : (t.prepared inputs).process.startGoal = (t.prepared inputs).process := by
    unfold startGoal
    rw [hnew', if_neg Bool.false_ne_true]
  have hcontroller : (t.prepared inputs).process.controller = t.controller :=
    hkept.controller.trans (prepare_controller _ inputs)
  have hinterpolation : (t.prepared inputs).process.motionStep.interpolation =
      t.motionStep.interpolation := by
    rw [hkept.motionStep.interpolation, hmotion]
    rfl
  have hu : (t.prepared inputs).process.startGoal.UnderWay w := by
    rw [hstart]
    refine ⟨hactive', ?_, ?_, ?_, ?_, ?_⟩
    · rw [hcontroller]
      exact ht.gain
    · rw [hcontroller]
      exact ht.mode
    · rw [hkept.motionStep.interpolator, hmotion]
      exact ht.interpolator
    · rw [hinterpolation]
      exact ht.references
    · rw [hcontroller]
      exact ht.initial
  have htime := (t.prepared inputs).process_data.1
  rw [hmotion] at htime
  obtain ⟨hfeedback, hsample⟩ := t.executed_data inputs
  have hspans : (t.prepared inputs).process.startGoal.motionStep.data.feedback.Spans w.r w.x := by
    rw [hstart]
    exact hfeedback ▸ hsupplies.feedback
  obtain ⟨hunder, htime', hsent⟩ := hu.executeGoal hsupplies.outputs hspans
  obtain ⟨hstep, hstepTime, houtputs⟩ := callback_underWay hsupplies.statesOk hunder
  refine ⟨hstep, ?_, fun k hin => ?_⟩
  · rw [hstepTime, htime', hstart, htime]
    exact congrArg (t.motionStep.data.timePassed + ·) hsample
  · rw [houtputs, hstepTime]
    exact hsent k hin

/-- Commands and configurations come in between. -/
theorem UnderWay.goesOn [IsStrictOrderedRing α] {t : TrajectoryMotion α} {w : Way α}
    (ht : t.UnderWay w) {a : Action α} (hgoes : t.GoesOn w.r w.x a) {k : Coordinate}
    (hk : k.In w.conditions.mode w.r w.x) {later : List α} {time : α}
    (hlater : Passes (fun time => (w.course k time).position)
      (t.step a).motionStep.data.timePassed later time) : (t.step a).UnderWay w ∧
      Passes (fun time => (w.course k time).position) t.motionStep.data.timePassed
        (t.sends k a ++ later) time := by
  cases a with
  | call call =>
      have hcontroller := (t.call_keeps call).controller
      have hmotion := t.call_motionStep call
      have hactive : (t.call call).2.data.hasActiveGoal = t.data.hasActiveGoal :=
        (congrArg Control.hasActiveGoal (t.control_call call)).trans
          (Control.call_frame t.control call).2.2.2.2
      change Passes _ (t.call call).2.motionStep.data.timePassed later time at hlater
      rw [hmotion] at hlater
      refine ⟨⟨hactive.trans ht.active, ?_, ?_, ?_, ?_, ?_⟩, hlater⟩
      · exact (congrArg Controller.k hcontroller).trans ht.gain
      · exact (congrArg Controller.egmMode hcontroller).trans ht.mode
      · exact (congrArg MotionStep.interpolator hmotion).trans ht.interpolator
      · exact (congrArg MotionStep.interpolation hmotion) ▸ ht.references
      · exact (congrArg Controller.initialReferences hcontroller) ▸ ht.initial
  | updateConfigurations configurations =>
      exact ⟨⟨ht.active, ht.gain, ht.mode, ht.interpolator, ht.references, ht.initial⟩, hlater⟩
  | generateOutputs outputs inputs =>
      obtain ⟨hunder, htime, hsent⟩ := ht.callback hgoes
      refine ⟨hunder, ?_⟩
      rw [sends, hsent k hk]
      refine .cons ?_ hlater
      rw [htime]
      exact le_add_of_nonneg_right hgoes.1.sampleTime

theorem UnderWay.passes [IsStrictOrderedRing α] {t : TrajectoryMotion α} {w : Way α}
    (ht : t.UnderWay w) {later : List (Action α)} (hlater : Along step (GoesOn w.r w.x) t later)
    {k : Coordinate} (hk : k.In w.conditions.mode w.r w.x) : Passes (fun time => (w.course k time).position)
      t.motionStep.data.timePassed (collect step (sends k) t later)
      (run step t later).motionStep.data.timePassed := by
  induction later generalizing t with
  | nil => exact .nil _
  | cons a later ih =>
      obtain ⟨hgoes, hrest⟩ := hlater
      have hunder := (ht.goesOn hgoes hk (.nil _)).1
      exact (ht.goesOn hgoes hk (ih hunder hrest)).2

/-! ### Activations -/

/-- The messages have the joints of a robot, and there are polynomials for all of them. -/
def Fits (t : TrajectoryMotion α) : Action α → Prop
  | .generateOutputs _ inputs =>
      Constants.defaultNumberOfRobotJoints ≤ inputs.current.feedback.get.sizes.1 ∧ t.HasRoom inputs
  | _ => True

omit [FloorRing α] [LinearOrder α] [Cmath α] in
theorem sized_init (configurations : TrajectoryConfiguration α) : (init configurations).Sized := by
  refine ⟨⟨.inl rfl, ?_, ?_⟩, fun hactive => absurd hactive Bool.false_ne_true⟩
  · exact ⟨⟨le_rfl, le_rfl, le_rfl⟩, ⟨le_rfl, le_rfl, le_rfl⟩⟩
  · exact ⟨⟨le_rfl, le_rfl, le_rfl⟩, ⟨le_rfl, le_rfl, le_rfl⟩⟩

theorem Sized.step {t : TrajectoryMotion α} (ht : t.Sized) {a : Action α} (hfits : t.Fits a) :
    (t.step a).Sized := by
  cases a with
  | call call => exact ht.call call
  | updateConfigurations configurations => exact ⟨ht.motionStep.of_shape rfl ht.motionStep.internalGoal,
      ht.offset⟩
  | generateOutputs outputs inputs => exact (ht.generateOutputs hfits.1 hfits.2 outputs).1

/-- The way of a goal that is activated. -/
theorem ActivatesNormalGoal.exists_way {t : TrajectoryMotion α} {inputs : InputContainer α}
    (h : t.ActivatesNormalGoal inputs) (ht : t.Sized) (hwired : Wired t) {outputs : Output α}
    (hfits : t.Fits (.generateOutputs outputs inputs)) {r x : ℕ}
    (hsizes : (t.executed inputs).interpolation.sizes = (r, x)) (hr : 0 < r) :
    ∃ w : Way α, w.start = (t.executed inputs).updateInterpolator.interpolation ∧
      w.goal = (t.executed inputs).internalGoal ∧
      w.conditions = (t.executed inputs).interpolatorConditions ∧ w.r = r ∧ w.x = x ∧
      (t.prepared inputs).process.startGoal.UnderWay w ∧
      (t.prepared inputs).process.startGoal.motionStep.data =
        { (t.executed inputs).data with timePassed := 0 } := by
  have hprepared := h.prepared
  have hactive := (t.prepared inputs).process_turn.active rfl h.hasNewGoal
  obtain ⟨hkeeps, hroom⟩ := hfits.2 h.statesOk
  have hsized := process_preserved MotionStep.sized_preserved
    ⟨(ht.prepared hfits.1).motionStep, hkeeps⟩
  have hkept := (t.prepared inputs).process_keeps
  have hsplines : (t.executed inputs).HasSplines := by
    unfold MotionStep.HasSplines executed
    rw [hkept.motionStep.interpolation]
    exact hroom hactive
  have hcleared : Wired { t with trace := [] } := hwired.of_eq rfl rfl rfl rfl
  obtain ⟨-, hgain, hlength⟩ := (hcleared.prepare inputs).of_keeps hkept
  change (t.executed inputs).interpolator.splinePolynomials.length = maxNumberOfSplines at hlength
  have hsized' : (t.executed inputs).Sized := hsized.1
  have hexternal := hsized'.covers hsplines hsized'.interpolation
  have hstart : (t.prepared inputs).process.startGoal = { (t.prepared inputs).process with
      motionStep := (t.executed inputs).updateInterpolator
      controller := (t.prepared inputs).process.controller.update
        (t.prepared inputs).process.stateManager.currentState (t.executed inputs).updateInterpolator
        (t.prepared inputs).process.configurations } := if_pos h.hasNewGoal
  rw [hstart]
  change PreparedNormal (t.executed inputs) at hprepared
  generalize t.executed inputs = m at *
  have hjoints := hsized'.joints
  have hinterpolation := hsized'.interpolation
  unfold MotionStep.HasSplines at hsplines
  rw [hsizes] at hjoints hinterpolation hexternal hsplines
  have hsix : 6 ≤ r := by
    rcases hjoints with hnone | hsix
    · cases hnone
      cases hr
    · exact hsix
  have hholds : m.updateInterpolator.interpolation.Holds r x :=
    ⟨hinterpolation.robot.position, hinterpolation.robot.velocity, hinterpolation.robot.acceleration,
      hexternal.position, hexternal.velocity, hexternal.acceleration⟩
  exact ⟨⟨m.interpolator, m.updateInterpolator.interpolation, m.internalGoal,
    m.interpolatorConditions, r, x, hlength, hprepared.operation, congrArg Prod.fst hsizes,
    congrArg Prod.snd hsizes, by omega, hsplines, hholds⟩, rfl, rfl, rfl, rfl, rfl,
    ⟨hactive, hgain, hprepared.mode.symm, rfl, hholds, hholds.spans⟩, rfl⟩

/-- The callback that activates a goal is the first to send positions of its way. -/
theorem ActivatesNormalGoal.passes [IsStrictOrderedRing α] {t : TrajectoryMotion α}
    {inputs : InputContainer α} (h : t.ActivatesNormalGoal inputs) (ht : t.Sized) (hwired : Wired t)
    {outputs : Output α} (hfits : t.Fits (.generateOutputs outputs inputs)) {r x : ℕ}
    (hsizes : (t.executed inputs).interpolation.sizes = (r, x)) (hr : 0 < r)
    (hsupplies : Supplies r x outputs inputs) {later : List (Action α)}
    (hlater : Along step (GoesOn r x) (t.step (.generateOutputs outputs inputs)) later)
    {k : Coordinate} (hk : k.In (t.executed inputs).data.mode r x) :
    ∃ w : Way α, w.start = (t.executed inputs).updateInterpolator.interpolation ∧
      w.goal = (t.executed inputs).internalGoal ∧
      w.conditions = (t.executed inputs).interpolatorConditions ∧ k.In w.conditions.mode w.r w.x ∧
      Passes (fun time => (w.course k time).position) 0
        (collect step (sends k) t (.generateOutputs outputs inputs :: later))
        (run step t (.generateOutputs outputs inputs :: later)).motionStep.data.timePassed := by
  obtain ⟨w, hstart, hgoal, hconditions, rfl, rfl, hunder, hdata⟩ :=
    h.exists_way ht hwired hfits hsizes hr
  have hmode : w.conditions.mode = (t.executed inputs).data.mode := by
    rw [hconditions]
    exact h.prepared.mode
  rw [← hmode] at hk
  obtain ⟨hfeedback, hsample⟩ := t.executed_data inputs
  have hspans : (t.prepared inputs).process.startGoal.motionStep.data.feedback.Spans w.r w.x := by
    rw [hdata]
    exact hfeedback ▸ hsupplies.feedback
  obtain ⟨hunder', htime, hsent⟩ := hunder.executeGoal hsupplies.outputs hspans
  obtain ⟨hstep, hstepTime, houtputs⟩ := callback_underWay hsupplies.statesOk hunder'
  have hpositive : (0 : α) ≤ (t.step (.generateOutputs outputs inputs)).motionStep.data.timePassed := by
    rw [hstepTime, htime, hdata]
    exact add_nonneg le_rfl (hsample.symm ▸ hsupplies.sampleTime)
  refine ⟨w, hstart, hgoal, hconditions, hk, ?_⟩
  rw [collect_cons, run_cons, sends, houtputs, hsent k hk, ← hstepTime]
  exact .cons hpositive (hstep.passes hlater hk)

/-- **A goal is approached straight.**  Of a coordinate whose velocities allow it, every position that is
sent lies between the start of the goal and the goal, and between each position sent before and the goal;
once the duration has passed the goal is sent. -/
theorem goal_approached [IsStrictOrderedRing α] (configurations : TrajectoryConfiguration α)
    (es : List (Action α)) {outputs : Output α} {inputs : InputContainer α}
    (hes : Along step Fits (init configurations) (es ++ [.generateOutputs outputs inputs]))
    (h : (run step (init configurations) es).ActivatesNormalGoal inputs) :
    let t := run step (init configurations) es
    let m := t.executed inputs
    ∀ r x, m.interpolation.sizes = (r, x) → 0 < r → Supplies r x outputs inputs →
      ∀ later, Along step (GoesOn r x) (t.step (.generateOutputs outputs inputs)) later →
        ∀ k : Coordinate, k.In m.data.mode r x → (k.conditions
          (EGMInterpolator.clamped m.interpolatorConditions) m.interpolation m.internalGoal).Direct →
          let goal := (k.sample m.internalGoal).position
          let positions := collect step (sends k) t (.generateOutputs outputs inputs :: later)
          ((k.sample m.interpolation).position :: positions).Pairwise
              (fun earlier later => later ∈ Set.uIcc earlier goal) ∧
            ((EGMInterpolator.clamped m.interpolatorConditions).duration ≤ (run step t
              (.generateOutputs outputs inputs :: later)).motionStep.data.timePassed →
                positions.getLast? = some goal) := by
  intro t m r x hsizes hr hsupplies later hlater k hk hdirect goal positions
  obtain ⟨hbefore, hfits⟩ := (along_append _ _ _).mp hes
  have hsized : t.Sized := hbefore.run_inv (fun _ _ ht hfits => ht.step hfits)
    (sized_init configurations)
  obtain ⟨w, hstart, hgoal, hconditions, hk', hpasses⟩ := h.passes hsized (wired_run configurations es)
    hfits.1 hsizes hr hsupplies hlater hk
  have hsame : k.conditions (EGMInterpolator.clamped m.interpolatorConditions)
      m.updateInterpolator.interpolation m.internalGoal = k.conditions
        (EGMInterpolator.clamped m.interpolatorConditions) m.interpolation m.internalGoal := by
    cases k <;> rfl
  have hposition : (k.sample m.updateInterpolator.interpolation).position =
      (k.sample m.interpolation).position := by
    cases k <;> rfl
  have hstraight : Straight (k.sample m.interpolation).position goal
      (EGMInterpolator.clamped m.interpolatorConditions).duration (w.course k) := by
    have hw := w.straight hk' (by rw [hstart, hgoal, hconditions]; exact hsame ▸ hdirect)
    rw [hstart, hgoal, hconditions] at hw
    exact hposition ▸ hw
  refine ⟨.cons (fun position hmem => ?_) (hpasses.pairwise fun _ _ => hstraight.mem_uIcc),
    fun htime => ?_⟩
  · obtain ⟨time, -, rfl⟩ := hpasses.exists_of_mem hmem
    exact hstraight.between time
  · rw [hpasses.getLast?_eq (List.cons_ne_nil _ _)]
    exact congrArg some (hstraight.arrives _ htime)

/-! ### An evaluated goal -/

instance (r x : ℕ) (robot external : Joints α) : Decidable (AbbWrapper.Spans r x robot external) :=
  inferInstanceAs (Decidable (_ ≤ _ ∧ _ ≤ _))

instance (r x : ℕ) (outputs : Output α) (inputs : InputContainer α) :
    Decidable (Supplies r x outputs inputs) :=
  decidable_of_iff (inputs.statesOk = true ∧ AbbWrapper.Spans r x _ _ ∧ AbbWrapper.Spans r x _ _ ∧
      0 ≤ inputs.estimatedSampleTime)
    ⟨fun ⟨hok, houtputs, hfeedback, htime⟩ => ⟨hok, houtputs, hfeedback, htime⟩,
      fun h => ⟨h.statesOk, h.outputs, h.feedback, h.sampleTime⟩⟩

instance (r x : ℕ) (t : TrajectoryMotion α) (a : Action α) : Decidable (t.GoesOn r x a) :=
  match a with
  | .generateOutputs _ _ => inferInstanceAs (Decidable (_ ∧ _ = false ∧ _ = true))
  | .call _ | .updateConfigurations _ => inferInstanceAs (Decidable True)

instance (t : TrajectoryMotion α) (a : Action α) : Decidable (t.Fits a) :=
  match a with
  | .generateOutputs _ inputs => inferInstanceAs (Decidable (_ ≤ _ ∧ t.HasRoom inputs))
  | .call _ | .updateConfigurations _ => inferInstanceAs (Decidable True)

end runs

/-- Outputs for the feedback of the first message. -/
def atHome : Output ℚ := ({} : Output ℚ).prepare Evaluation.first.current.feedback.get

/-- The callbacks until the end of a goal of ten seconds. -/
def untilEnd : List (Action ℚ) := .replicate 9 (.generateOutputs atHome Evaluation.next)

theorem goal_approached_ten :
    let t := run step (init Evaluation.configurations) Resumed.added
    let positions := collect step (sends (.robot 0)) t
      (.generateOutputs atHome Evaluation.next :: untilEnd)
    ((0 : ℚ) :: positions).Pairwise (fun earlier later => later ∈ Set.uIcc earlier 10) ∧
      positions.getLast? = some 10 := by
  intro t positions
  have hplace : t.processed Evaluation.next = (.normal, .running) := by decide +kernel
  have hnew : (t.prepared Evaluation.next).process.data.hasNewGoal = true := by decide +kernel
  have hfits : Along step Fits (init Evaluation.configurations)
      (Resumed.added ++ [.generateOutputs atHome Evaluation.next]) := by decide +kernel
  have hgoal : ((Coordinate.robot 0).sample (t.executed Evaluation.next).internalGoal).position = 10 := by
    decide +kernel
  have hstart : ((Coordinate.robot 0).sample (t.executed Evaluation.next).interpolation).position = 0 := by
    decide +kernel
  obtain ⟨hbetween, hlast⟩ := goal_approached Evaluation.configurations Resumed.added hfits
    ⟨by decide +kernel, .inl hplace, hnew⟩ 6 0 (by decide +kernel) (by decide +kernel)
    (by decide +kernel) untilEnd (by decide +kernel) (.robot 0) ⟨by decide +kernel, by decide⟩
    (SplineConditions.direct_of_rest (by decide +kernel) (by decide +kernel) (by decide +kernel)
      (by decide +kernel) (by decide +kernel))
  rw [hgoal, hstart] at hbetween
  rw [hgoal] at hlast
  exact ⟨hbetween, hlast (by decide +kernel)⟩

end TrajectoryMotion

end AbbWrapper
