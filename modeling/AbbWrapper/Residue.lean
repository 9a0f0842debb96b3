import AbbWrapper.TrajectoryMotion

/-! # What a new goal overwrites

The reset of a session does not reach the interpolator and the output controller.  They are updated
when a goal is started, and what an update leaves of the past (the polynomials of other joints, the
quaternions of another kind of goal, an unused ramp factor) has no influence on what is evaluated
afterwards.

* `Alike` says that two things do the same: conditions ask for the same interpolation, interpolators
  evaluate to the same on goals of given sizes, output controllers follow the references in the same way.
* `sizes`, `vectorSizes` and `shape` are the numbers of joints of a goal: those of its positions, and those
  of all its vectors.
* `Rewrites` says of two motion steps that they differ in the references only, which have the same sizes.

`EGMInterpolator.update_alike` and `Controller.calculate_alike` are the results: an update makes
interpolators alike whatever they were before, and alike controllers calculate the same. -/

namespace AbbWrapper

open Protobuf

variable {α : Type}

theorem Joints.update_congr {p : Joints α} {n : ℕ} {f g : ℕ → α → α}
    (h : ∀ i < n, ∀ v, f i v = g i v) : p.update n f = p.update n g := by
  unfold Joints.update
  congr 1
  refine List.ext_getElem (by simp) fun i hi hi' => ?_
  simp only [List.getElem_mapIdx]
  split
  next hlt => exact h i hlt _
  next => rfl

variable [Field α]

/-- The conditions ask for the same interpolation. -/
structure Conditions.Alike (c c' : Conditions α) : Prop where
  duration : c.duration = c'.duration
  mode : c.mode = c'.mode
  operation : c.operation = c'.operation
  rampDownFactor : c.operation = .rampDown → c.rampDownFactor = c'.rampDownFactor
  splineMethod : c.operation = .normal → c.splineMethod = c'.splineMethod

/-- The number of robot and of external joints. -/
def PointGoal.sizes (p : PointGoal α) : ℕ × ℕ :=
  (p.robotJoints.position.get.valuesSize, p.externalJoints.position.get.valuesSize)

section modify
omit [Field α]

theorem PointGoal.modifyRobotJoints_congr {f g : JointGoal α → JointGoal α} {p : PointGoal α}
    (h : f p.robotJoints = g p.robotJoints) : p.modifyRobotJoints f = p.modifyRobotJoints g := by
  have h : f p.robot.get.joints.get = g p.robot.get.joints.get := h
  simp only [modifyRobotJoints, Optional.modify, h]

theorem PointGoal.modifyExternalJoints_congr {f g : JointGoal α → JointGoal α} {p : PointGoal α}
    (h : f p.externalJoints = g p.externalJoints) :
    p.modifyExternalJoints f = p.modifyExternalJoints g := by
  have h : f p.external.get.joints.get = g p.external.get.joints.get := h
  simp only [modifyExternalJoints, Optional.modify, h]

end modify

/-! ### Polynomials -/

theorem JointGoal.evaluate_congr {output : JointGoal α} {n : ℕ}
    {splines splines' : ℕ → SplinePolynomial α} (h : ∀ i < n, splines i = splines' i) (t : α) :
    output.evaluate n splines t = output.evaluate n splines' t := by
  have hposition (p : Joints α) : (p.update n fun i _ => (splines i).calculatePosition t) =
      p.update n fun i _ => (splines' i).calculatePosition t :=
    Joints.update_congr fun i hi _ => by rw [h i hi]
  have hvelocity (p : Joints α) : (p.update n fun i _ => (splines i).calculateVelocity t) =
      p.update n fun i _ => (splines' i).calculateVelocity t :=
    Joints.update_congr fun i hi _ => by rw [h i hi]
  have hacceleration (p : Joints α) :
      (p.update n fun i _ => (splines i).calculateAcceleration t) =
        p.update n fun i _ => (splines' i).calculateAcceleration t :=
    Joints.update_congr fun i hi _ => by rw [h i hi]
  simp only [JointGoal.evaluate, Optional.modify, hposition, hvelocity, hacceleration]

namespace EGMInterpolator

omit [Field α] in
@[simp] theorem setSplines_frame (e : EGMInterpolator α) (offset n : ℕ)
    (f : ℕ → SplinePolynomial α) :
    (e.setSplines offset n f).splinePolynomials.length = e.splinePolynomials.length ∧
      (e.setSplines offset n f).offset = e.offset ∧
      (e.setSplines offset n f).conditions = e.conditions ∧
      (e.setSplines offset n f).slerp = e.slerp ∧
      (e.setSplines offset n f).softRamp = e.softRamp := by
  simp [setSplines]

theorem spline_setSplines (e : EGMInterpolator α) (offset n : ℕ) (f : ℕ → SplinePolynomial α)
    (j : ℕ) : (e.setSplines offset n f).spline j =
      if offset ≤ j ∧ j < offset + n ∧ j < e.splinePolynomials.length then f (j - offset)
      else e.spline j := by
  unfold setSplines spline
  by_cases hj : j < e.splinePolynomials.length
  · simp [List.getD_eq_getElem?_getD, hj]
  · simp [List.getD_eq_getElem?_getD, hj]

section update
variable [LinearOrder α]

/-- The polynomials that alike conditions lead to, when the rest of the spline conditions does not
depend on them. -/
theorem spline_update_alike {c c' : Conditions α} (hc : c.Alike c')
    (hoperation : c.operation = .normal ∨ c.operation = .rampDown) (alfa dAlfa ddAlfa beta dBeta
    ddBeta : α) :
    SplinePolynomial.update ⟨c.duration, alfa, dAlfa, ddAlfa, beta, dBeta, ddBeta, c.splineMethod,
        c.operation = .rampDown, c.rampDownFactor⟩ =
      SplinePolynomial.update ⟨c'.duration, alfa, dAlfa, ddAlfa, beta, dBeta, ddBeta,
        c'.splineMethod, c'.operation = .rampDown, c'.rampDownFactor⟩ := by
  unfold SplinePolynomial.update
  simp only [hc.duration, ← hc.operation]
  rcases hoperation with hnormal | hrampDown
  · simp only [hnormal, hc.splineMethod hnormal, reduceCtorEq, decide_false, Bool.false_eq_true,
      if_false]
  · simp only [hrampDown, hc.rampDownFactor hrampDown, decide_true, if_true]

/-- Polynomials in the range of an update are alike, the others as before. -/
theorem spline_updateJoints (e e' : EGMInterpolator α)
    (hlength : e.splinePolynomials.length = e'.splinePolynomials.length)
    (hc : e.conditions.Alike e'.conditions)
    (hoperation : e.conditions.operation = .normal ∨ e.conditions.operation = .rampDown)
    (offset : ℕ) (start goal : JointGoal α) {j : ℕ}
    (h : j < offset ∨ offset + splineBound start ≤ j → e.spline j = e'.spline j) :
    (e.updateJoints offset start goal).spline j = (e'.updateJoints offset start goal).spline j := by
  unfold updateJoints
  rw [spline_setSplines, spline_setSplines, ← hlength]
  by_cases hupdated : offset ≤ j ∧ j < offset + splineBound start
  · by_cases hrange : j < e.splinePolynomials.length
    · rw [if_pos ⟨hupdated.1, hupdated.2, hrange⟩, if_pos ⟨hupdated.1, hupdated.2, hrange⟩]
      exact spline_update_alike hc hoperation _ _ _ _ _ _
    · rw [if_neg (by omega), if_neg (by omega)]
      have hrange' : ¬j < e'.splinePolynomials.length := by omega
      simp [spline, List.getD_eq_getElem?_getD, hrange, hrange']
  · rw [if_neg (by omega), if_neg (by omega), h (by omega)]

theorem spline_updateAxes (e e' : EGMInterpolator α)
    (hlength : e.splinePolynomials.length = e'.splinePolynomials.length)
    (hc : e.conditions.Alike e'.conditions)
    (hoperation : e.conditions.operation = .normal ∨ e.conditions.operation = .rampDown)
    (start goal : CartesianGoal α) {j : ℕ} (hj : j < 3) :
    (e.updateAxes start goal).spline j = (e'.updateAxes start goal).spline j := by
  unfold updateAxes
  rw [spline_setSplines, spline_setSplines, ← hlength]
  by_cases hrange : j < e.splinePolynomials.length
  · rw [if_pos (by omega), if_pos (by omega)]
    exact spline_update_alike hc hoperation _ _ _ _ _ _
  · rw [if_neg (by omega), if_neg (by omega)]
    have hrange' : ¬j < e'.splinePolynomials.length := by omega
    simp [spline, List.getD_eq_getElem?_getD, hrange, hrange']

end update

end EGMInterpolator

/-! ### Orientations and soft ramps -/

section orientation
variable [LinearOrder α] [Cmath α]

/-- In the linear case the angle of an earlier goal is kept, and not used. -/
theorem Slerp.update_alike (s s' : Slerp α) (start goal : Quaternion α) {c c' : Conditions α}
    (hduration : c.duration = c'.duration) (output : CartesianGoal α) (t : α) :
    (s.update start goal c).evaluate output t = (s'.update start goal c').evaluate output t := by
  unfold Slerp.update
  simp only [hduration]
  by_cases hlinear : dotProductThreshold < |dotProduct (normalize start) (normalize goal)|
  · simp only [hlinear, decide_true, if_true, Slerp.evaluate]
  · simp only [hlinear, decide_false, Bool.false_eq_true, if_false]

/-- A soft ramp has no memory of another operation. -/
theorem SoftRamp.update_alike (s s' : SoftRamp α) (start goal : PointGoal α)
    {c c' : Conditions α} (hduration : c.duration = c'.duration)
    (hoperation : c.operation = c'.operation) :
    (∀ (output : JointGoal α) (joints : PointGoal α → JointGoal α) (sampleTime t : α),
      (s.update start goal c).evaluateJoints output joints sampleTime t =
        (s'.update start goal c').evaluateJoints output joints sampleTime t) ∧
    ∀ (output : CartesianGoal α) (sampleTime t : α),
      (s.update start goal c).evaluateCartesian output sampleTime t =
        (s'.update start goal c').evaluateCartesian output sampleTime t := by
  unfold SoftRamp.update
  simp only [hduration, hoperation]
  cases c'.operation <;> exact ⟨fun _ _ _ _ => rfl, fun _ _ _ => rfl⟩

end orientation

/-! ### The interpolator -/

namespace EGMInterpolator

theorem evaluateExternal_congr {e e' : EGMInterpolator α} {output : PointGoal α}
    (h : ∀ i < splineBound output.externalJoints,
      e.spline (i + e.offset) = e'.spline (i + e'.offset)) (t : α) :
    e.evaluateExternal output t = e'.evaluateExternal output t := by
  exact PointGoal.modifyExternalJoints_congr (JointGoal.evaluate_congr h t)

variable [LinearOrder α] [Cmath α]

/-- The interpolators evaluate to the same on goals with these numbers of joints. -/
structure Alike (sizes : ℕ × ℕ) (e e' : EGMInterpolator α) : Prop where
  duration : e.getDuration = e'.getDuration
  evaluate : ∀ output : PointGoal α, output.sizes = sizes → ∀ sampleTime t,
    e.evaluate output sampleTime t = e'.evaluate output sampleTime t

/-- The conditions an update stores. -/
def clamped (c : Conditions α) : Conditions α :=
  { c with duration := max (Constants.lowestSampleTime α) c.duration }

omit [Cmath α] in
theorem clamped_alike {c c' : Conditions α} (hc : c.Alike c') : (clamped c).Alike (clamped c') :=
  ⟨by simp only [clamped, hc.duration], hc.mode, hc.operation, hc.rampDownFactor, hc.splineMethod⟩

/-- An update of polynomials, up to those of the external joints. -/
def updateRobot (e : EGMInterpolator α) (start goal : PointGoal α) (c : Conditions α) :
    EGMInterpolator α :=
  let e := { e with
    conditions := clamped c
    offset := start.robotJoints.position.get.valuesSize }
  match c.mode with
  | .egmJoint => e.updateJoints 0 start.robotJoints goal.robotJoints
  | .egmPose =>
      let e := e.updateAxes start.robotCartesian goal.robotCartesian
      let startQ := start.robotCartesian.pose.get.quaternion.get
      let goalQ := goal.robotCartesian.pose.get.quaternion.get
      if c.operation = .normal then { e with slerp := e.slerp.update startQ goalQ c }
      else { e with softRamp := e.softRamp.update start goal c }

theorem update_eq (e : EGMInterpolator α) (start goal : PointGoal α) {c : Conditions α}
    (hoperation : c.operation = .normal ∨ c.operation = .rampDown) :
    e.update start goal c = (e.updateRobot start goal c).updateJoints
      start.robotJoints.position.get.valuesSize start.externalJoints goal.externalJoints := by
  obtain ⟨duration, mode, operation, rampDownFactor, splineMethod⟩ := c
  rcases hoperation with h | h <;> cases h <;> cases mode <;> rfl

@[simp] theorem updateRobot_frame (e : EGMInterpolator α) (start goal : PointGoal α)
    (c : Conditions α) : (e.updateRobot start goal c).conditions = clamped c ∧
      (e.updateRobot start goal c).offset = start.robotJoints.position.get.valuesSize ∧
      (e.updateRobot start goal c).splinePolynomials.length = e.splinePolynomials.length := by
  unfold updateRobot updateJoints updateAxes
  simp only
  split
  · simp
  · split <;> simp

@[simp] theorem update_frame (e : EGMInterpolator α) (start goal : PointGoal α)
    (c : Conditions α) : (e.update start goal c).conditions = clamped c ∧
      (e.update start goal c).splinePolynomials.length = e.splinePolynomials.length := by
  by_cases h : c.operation = .normal ∨ c.operation = .rampDown
  · rw [update_eq e start goal h]
    simp [updateJoints]
  · obtain ⟨duration, mode, operation, rampDownFactor, splineMethod⟩ := c
    cases operation with
    | normal => exact absurd (.inl rfl) h
    | rampDown => exact absurd (.inr rfl) h
    | rampInPosition => exact ⟨rfl, rfl⟩
    | rampInVelocity => exact ⟨rfl, rfl⟩

theorem offset_update (e : EGMInterpolator α) (start goal : PointGoal α) {c : Conditions α}
    (hoperation : c.operation = .normal ∨ c.operation = .rampDown) :
    (e.update start goal c).offset = start.robotJoints.position.get.valuesSize := by
  rw [update_eq e start goal hoperation]
  simp [updateJoints]

section polynomials
variable {e e' : EGMInterpolator α}
  (hlength : e.splinePolynomials.length = e'.splinePolynomials.length) {c c' : Conditions α}
  (hc : c.Alike c') (hoperation : c.operation = .normal ∨ c.operation = .rampDown)
  (start goal : PointGoal α)

include hlength hc hoperation

/-- The polynomials that have been updated are alike. -/
theorem spline_update {j : ℕ}
    (h : j < start.robotJoints.position.get.valuesSize ∨
        start.robotJoints.position.get.valuesSize + splineBound start.externalJoints ≤ j →
      (e.updateRobot start goal c).spline j = (e'.updateRobot start goal c').spline j) :
    (e.update start goal c).spline j = (e'.update start goal c').spline j := by
  rw [update_eq e start goal hoperation, update_eq e' start goal (hc.operation ▸ hoperation)]
  refine spline_updateJoints _ _ (by simpa using hlength) ?_ ?_ _ _ _ h
  · simpa using clamped_alike hc
  · simpa [clamped] using hoperation

theorem spline_update_external {i : ℕ} (hi : i < splineBound start.externalJoints) :
    (e.update start goal c).spline (i + (e.update start goal c).offset) =
      (e'.update start goal c').spline (i + (e'.update start goal c').offset) := by
  rw [e.offset_update start goal hoperation,
    e'.offset_update start goal (hc.operation ▸ hoperation)]
  exact spline_update hlength hc hoperation start goal fun h => by omega

theorem spline_update_joint (hmode : c.mode = .egmJoint) {i : ℕ}
    (hi : i < splineBound start.robotJoints) :
    (e.update start goal c).spline i = (e'.update start goal c').spline i := by
  refine spline_update hlength hc hoperation start goal fun _ => ?_
  have hjoints := spline_updateJoints
    { e with conditions := clamped c, offset := start.robotJoints.position.get.valuesSize }
    { e' with conditions := clamped c', offset := start.robotJoints.position.get.valuesSize }
    hlength (clamped_alike hc) hoperation 0 start.robotJoints goal.robotJoints (j := i)
    (fun h => by omega)
  unfold updateRobot
  simp only [hmode, ← hc.mode]
  exact hjoints

theorem spline_update_axis (hmode : c.mode = .egmPose) (axis : Axis) :
    (e.update start goal c).spline (axisIndex axis) =
      (e'.update start goal c').spline (axisIndex axis) := by
  refine spline_update hlength hc hoperation start goal fun _ => ?_
  have haxes := spline_updateAxes
    { e with conditions := clamped c, offset := start.robotJoints.position.get.valuesSize }
    { e' with conditions := clamped c', offset := start.robotJoints.position.get.valuesSize }
    hlength (clamped_alike hc) hoperation start.robotCartesian goal.robotCartesian
    (j := axisIndex axis) (by cases axis <;> decide)
  unfold updateRobot
  simp only [hmode, ← hc.mode, ← hc.operation]
  split <;> exact haxes

end polynomials

/-- The parts of an update that are not polynomials. -/
theorem update_parts (e : EGMInterpolator α) (start goal : PointGoal α) (c : Conditions α) :
    (c.operation = .normal → c.mode = .egmPose → (e.update start goal c).slerp =
        e.slerp.update start.robotCartesian.pose.get.quaternion.get
          goal.robotCartesian.pose.get.quaternion.get c) ∧
      (c.operation = .rampDown → c.mode = .egmPose → (e.update start goal c).softRamp =
        e.softRamp.update start goal c) ∧
      (c.operation = .rampInPosition ∨ c.operation = .rampInVelocity →
        (e.update start goal c).softRamp = e.softRamp.update start goal c) := by
  obtain ⟨duration, mode, operation, rampDownFactor, splineMethod⟩ := c
  refine ⟨?_, ?_, ?_⟩
  · rintro h h'
    cases h
    cases h'
    rfl
  · rintro h h'
    cases h
    cases h'
    rfl
  · rintro (h | h) <;> cases h <;> rfl

/-- **An update overwrites the past** of an interpolator. -/
theorem update_alike {e e' : EGMInterpolator α}
    (hlength : e.splinePolynomials.length = e'.splinePolynomials.length) {c c' : Conditions α}
    (hc : c.Alike c') (start goal : PointGoal α) :
    (e.update start goal c).Alike start.sizes (e'.update start goal c') := by
  have hduration : (clamped c).duration = (clamped c').duration := (clamped_alike hc).duration
  refine ⟨by simp [getDuration, hduration], fun output hsizes sampleTime t => ?_⟩
  have hrobot : splineBound output.robotJoints = splineBound start.robotJoints :=
    congrArg (min · maxNumberOfSplines) (congrArg Prod.fst hsizes)
  have hexternal : splineBound output.externalJoints = splineBound start.externalJoints :=
    congrArg (min · maxNumberOfSplines) (congrArg Prod.snd hsizes)
  obtain ⟨hslerp, hsoft, hsoft'⟩ := e.update_parts start goal c
  obtain ⟨hslerp', hsoft₂, hsoft₂'⟩ := e'.update_parts start goal c'
  have hoperation : (clamped c).operation = c.operation := rfl
  have hoperation' : (clamped c').operation = c.operation := hc.operation.symm
  have hmode : (clamped c).mode = c.mode := rfl
  have hmode' : (clamped c').mode = c.mode := hc.mode.symm
  have hramps := SoftRamp.update_alike e.softRamp e'.softRamp start goal hc.duration hc.operation
  unfold evaluate
  simp only [(update_frame _ _ _ _).1, hduration, hoperation, hoperation', hmode, hmode']
  generalize saturate t 0 (clamped c').duration = t
  have hexternals (hop : c.operation = .normal ∨ c.operation = .rampDown) (output' : PointGoal α)
      (h : output'.externalJoints = output.externalJoints) :
      (e.update start goal c).evaluateExternal output' t =
        (e'.update start goal c').evaluateExternal output' t :=
    evaluateExternal_congr (fun i hi => spline_update_external hlength hc hop start goal
      (by rw [← hexternal, ← h]; exact hi)) t
  have hjoints (hop : c.operation = .normal ∨ c.operation = .rampDown)
      (hm : c.mode = .egmJoint) : output.modifyRobotJoints (fun joints =>
          joints.evaluate (splineBound joints) (e.update start goal c).spline t) =
        output.modifyRobotJoints fun joints =>
          joints.evaluate (splineBound joints) (e'.update start goal c').spline t :=
    PointGoal.modifyRobotJoints_congr (JointGoal.evaluate_congr (fun i hi =>
      spline_update_joint hlength hc hop start goal hm (by rw [← hrobot]; exact hi)) t)
  have haxes (hop : c.operation = .normal ∨ c.operation = .rampDown) (hm : c.mode = .egmPose) :=
    funext fun axis => spline_update_axis hlength hc hop start goal hm axis
  cases hop : c.operation with
  | normal =>
      cases hm : c.mode with
      | egmJoint =>
          simp only [hjoints (.inl hop) hm]
          exact hexternals (.inl hop) _ rfl
      | egmPose =>
          simp only [haxes (.inl hop) hm, hslerp hop hm,
            hslerp' (hc.operation ▸ hop) (hc.mode ▸ hm),
            Slerp.update_alike e.slerp e'.slerp _ _ hc.duration]
          exact hexternals (.inl hop) _ rfl
  | rampDown =>
      cases hm : c.mode with
      | egmJoint =>
          simp only [hjoints (.inr hop) hm]
          exact hexternals (.inr hop) _ rfl
      | egmPose =>
          simp only [haxes (.inr hop) hm, hsoft hop hm, hsoft₂ (hc.operation ▸ hop) (hc.mode ▸ hm),
            hramps.2]
          exact hexternals (.inr hop) _ rfl
  | rampInPosition =>
      rw [hsoft' (.inl hop), hsoft₂' (.inl (hc.operation ▸ hop))]
      cases c.mode <;> simp only [hramps.1, hramps.2]
  | rampInVelocity =>
      rw [hsoft' (.inr hop), hsoft₂' (.inr (hc.operation ▸ hop))]
      cases c.mode <;> simp only [hramps.1, hramps.2]

end EGMInterpolator

/-! ### Evaluations keep the sizes of vectors -/

section shape
omit [Field α]

/-- The three vectors of a goal. -/
def JointGoal.vectorSizes (j : JointGoal α) : List ℕ :=
  [j.position.get.valuesSize, j.velocity.get.valuesSize, j.acceleration.get.valuesSize]

/-- The sizes of the vectors of robot joints, and of external joints. -/
def PointGoal.shape (p : PointGoal α) : List ℕ × List ℕ :=
  (p.robotJoints.vectorSizes, p.externalJoints.vectorSizes)

theorem PointGoal.sizes_of_shape {p q : PointGoal α} (h : p.shape = q.shape) : p.sizes = q.sizes := by
  obtain ⟨hrobot, hexternal⟩ := Prod.mk.inj h
  exact Prod.ext (List.cons.inj hrobot).1 (List.cons.inj hexternal).1

theorem PointGoal.shape_modifyRobotJoints (p : PointGoal α) {f : JointGoal α → JointGoal α}
    (hf : (f p.robotJoints).vectorSizes = p.robotJoints.vectorSizes) :
    (p.modifyRobotJoints f).shape = p.shape :=
  congrArg (·, p.externalJoints.vectorSizes) hf

theorem PointGoal.shape_modifyExternalJoints (p : PointGoal α) {f : JointGoal α → JointGoal α}
    (hf : (f p.externalJoints).vectorSizes = p.externalJoints.vectorSizes) :
    (p.modifyExternalJoints f).shape = p.shape :=
  congrArg (p.robotJoints.vectorSizes, ·) hf

@[simp] theorem PointGoal.shape_modifyRobotCartesian (p : PointGoal α)
    (f : CartesianGoal α → CartesianGoal α) : (p.modifyRobotCartesian f).shape = p.shape := rfl

end shape

/-- A reset of the velocities keeps the positions. -/
@[simp] theorem PointGoal.shape_resetVelocities (p : PointGoal α) (n : ℕ) :
    (p.resetVelocities n).shape = ([p.sizes.1, n, n], [p.sizes.2, n, n]) := by
  have hreset : (Joints.reset n : Joints α).valuesSize = n := List.length_replicate
  change ([_, (Joints.reset n : Joints α).valuesSize, (Joints.reset n : Joints α).valuesSize],
    [_, (Joints.reset n : Joints α).valuesSize, (Joints.reset n : Joints α).valuesSize]) = _
  rw [hreset]
  rfl

theorem JointGoal.vectorSizes_evaluate (output : JointGoal α) (n : ℕ)
    (splines : ℕ → SplinePolynomial α) (t : α) :
    (output.evaluate n splines t).vectorSizes = output.vectorSizes := by
  simp [JointGoal.evaluate, vectorSizes]

section evaluate
variable [LinearOrder α] [Cmath α]

theorem SoftRamp.vectorSizes_evaluateJoints (s : SoftRamp α) (output : JointGoal α)
    (joints : PointGoal α → JointGoal α) (sampleTime t : α) :
    (s.evaluateJoints output joints sampleTime t).vectorSizes = output.vectorSizes := by
  unfold SoftRamp.evaluateJoints
  simp only
  split <;> simp [SoftRamp.rampInPosition, SoftRamp.rampInVelocity, JointGoal.vectorSizes]

theorem EGMInterpolator.shape_evaluate (e : EGMInterpolator α) (output : PointGoal α)
    (sampleTime t : α) : (e.evaluate output sampleTime t).shape = output.shape := by
  have hexternal (output : PointGoal α) (t : α) :
      (e.evaluateExternal output t).shape = output.shape :=
    output.shape_modifyExternalJoints (JointGoal.vectorSizes_evaluate _ _ _ _)
  have hjoints (output : PointGoal α) (t : α) : (output.modifyRobotJoints fun joints =>
      joints.evaluate (splineBound joints) e.spline t).shape = output.shape :=
    output.shape_modifyRobotJoints (JointGoal.vectorSizes_evaluate _ _ _ _)
  have hsoft (output : PointGoal α) (t : α) : (output.modifyRobotJoints fun joints =>
      e.softRamp.evaluateJoints joints PointGoal.robotJoints sampleTime t).shape = output.shape :=
    output.shape_modifyRobotJoints (e.softRamp.vectorSizes_evaluateJoints _ _ _ _)
  have hsoft' (output : PointGoal α) (t : α) : (output.modifyExternalJoints fun joints =>
      e.softRamp.evaluateJoints joints PointGoal.externalJoints sampleTime t).shape =
        output.shape :=
    output.shape_modifyExternalJoints (e.softRamp.vectorSizes_evaluateJoints _ _ _ _)
  unfold EGMInterpolator.evaluate
  simp only
  split <;> simp [hexternal, hjoints, hsoft, hsoft']

theorem EGMInterpolator.evaluate_sizes (e : EGMInterpolator α) (output : PointGoal α)
    (sampleTime t : α) : (e.evaluate output sampleTime t).sizes = output.sizes :=
  PointGoal.sizes_of_shape (e.shape_evaluate output sampleTime t)

end evaluate

/-! ### The output controller -/

namespace Controller

/-- The controllers follow the references in the same way. -/
structure Alike (c c' : Controller α) : Prop where
  egmMode : c.egmMode = c'.egmMode
  initialReferences : c.initialReferences = c'.initialReferences
  isNormalState : c.isNormalState = c'.isNormalState
  isLinear : c.isLinear = c'.isLinear

omit [Field α] in
theorem update_alike (c c' : Controller α) (state : States) {m m' : MotionStep α}
    (hmode : m.data.mode = m'.data.mode) (hinterpolation : m.interpolation = m'.interpolation)
    (configurations : TrajectoryConfiguration α) :
    (c.update state m configurations).Alike (c'.update state m' configurations) :=
  ⟨hmode, hinterpolation, rfl, rfl⟩

/-- A motion step with other references for the same joints. -/
structure Rewrites (m m' : MotionStep α) : Prop where
  eq : m' = { m with interpolation := m'.interpolation }
  sizes : m'.interpolation.sizes = m.interpolation.sizes

omit [Field α] in
theorem Rewrites.trans {m m' m'' : MotionStep α} (h : Rewrites m m') (h' : Rewrites m' m'') :
    Rewrites m m'' :=
  ⟨by rw [h'.eq, h.eq], h'.sizes.trans h.sizes⟩

section rewrites

theorem valuesSize_reference (c : Controller α) (out ref fdb start : Joints α) :
    (c.calculateJoints out ref fdb start).2.valuesSize = ref.valuesSize := by
  unfold calculateJoints
  simp only
  split
  · exact Joints.valuesSize_update _ _ _
  · rfl

variable (c : Controller α) (output : Output α) (m : MotionStep α)

theorem calculateRobotPosition_rewrites : Rewrites m (c.calculateRobotPosition output m).2 :=
  ⟨rfl, congrArg (·, m.interpolation.externalJoints.position.get.valuesSize)
    (c.valuesSize_reference _ _ _ _)⟩

theorem calculateExternalPosition_rewrites :
    Rewrites m (c.calculateExternalPosition output m).2 :=
  ⟨rfl, congrArg (m.interpolation.robotJoints.position.get.valuesSize, ·)
    (c.valuesSize_reference _ _ _ _)⟩

theorem checkForVelocityTransition_frame (references : PointGoal α) :
    (c.checkForVelocityTransition references).1.k = c.k ∧
      (c.checkForVelocityTransition references).2.sizes = references.sizes := by
  unfold checkForVelocityTransition
  simp only
  constructor
  · split <;> rfl
  · generalize (if c.isNormalState = true then _ else c : Controller α) = d
    split <;> rfl

variable [LinearOrder α] [Cmath α]

theorem calculatePose_rewrites : Rewrites m (c.calculatePose output m).2 := ⟨rfl, rfl⟩

theorem calculate_frame : (c.calculate output m).1.k = c.k ∧
    Rewrites m (c.calculate output m).2.2 := by
  have hcheck (c : Controller α) (m : MotionStep α) :
      Rewrites m { m with interpolation := (c.checkForVelocityTransition m.interpolation).2 } :=
    ⟨rfl, (c.checkForVelocityTransition_frame m.interpolation).2⟩
  have hk : (c.scaleFactors m).k = c.k := rfl
  unfold calculate
  simp only
  split
  · refine ⟨(checkForVelocityTransition_frame _ _).1, ?_⟩
    refine Rewrites.trans ?_ ⟨rfl, rfl⟩
    refine Rewrites.trans ?_ ⟨rfl, rfl⟩
    refine Rewrites.trans ?_ (hcheck _ _)
    exact (calculateRobotPosition_rewrites _ _ _).trans (calculateExternalPosition_rewrites _ _ _)
  · refine ⟨(checkForVelocityTransition_frame _ _).1, ?_⟩
    refine Rewrites.trans ?_ ⟨rfl, rfl⟩
    refine Rewrites.trans ?_ ⟨rfl, rfl⟩
    refine Rewrites.trans ?_ ⟨rfl, rfl⟩
    refine Rewrites.trans ?_ (hcheck _ _)
    exact (calculatePose_rewrites _ _ _).trans (calculateExternalPosition_rewrites _ _ _)

/-- What is calculated depends on the references, and on the gain. -/
theorem calculate_alike {c c' : Controller α} (h : c.Alike c') (hk : c.k = c'.k)
    (output : Output α) (m : MotionStep α) : c.calculate output m = c'.calculate output m := by
  have hscaled : c.scaleFactors m = c'.scaleFactors m := by
    obtain ⟨hmode, hreferences, hnormal, hlinear⟩ := h
    simp only [scaleFactors, hmode, hreferences, hnormal, hlinear, hk]
  unfold calculate
  simp only [hscaled]

end rewrites

end Controller

end AbbWrapper
