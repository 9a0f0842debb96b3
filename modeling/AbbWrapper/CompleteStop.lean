import Mathlib.Algebra.Order.Field.Basic
import Mathlib.Analysis.SpecialFunctions.Complex.Arg
import Mathlib.Tactic.FieldSimp
import Mathlib.Tactic.Linarith
import Mathlib.Tactic.Ring
import AbbWrapper.Residue

/-! # The end of a ramp down to a stop

Once its time is over, a ramp down with factor zero evaluates to references that do not depend on
the time any more: the polynomials stand at their ends, where their velocities are zero, the angular
velocity is zero, and the orientation is integrated over nothing.  Outside of Normal the output
controller writes these references to the outputs, whatever the feedback is.

* `ExactCmath` are the laws of `<cmath>` in exact arithmetic that are used.  The real numbers, with the
  functions of analysis, have them.
* `References` are the parts of a goal that are passed on to the outputs, and
  `References.HaveSplines` says that there is a polynomial for each of their velocities.
* `Stops` is a ramp down to a stop, and `rampedDown` what it makes of the references when its time is
  over (`evaluate_rampedDown`).  A second evaluation changes nothing (`rampedDown_rampedDown`).
* `Passes` is the state in which the controller passes references on as they are, and `HeldAt` what the
  outputs are then (`Passes.calculate`, `Passes.heldAt`).

`StopInRampDown.lean` and `StopHolds.lean` add the state machine and the runs. -/

namespace AbbWrapper

open Protobuf

/-- The laws of `<cmath>` in exact arithmetic. -/
class ExactCmath (α : Type) [Field α] [LinearOrder α] [Cmath α] : Prop where
  cos_pi : Cmath.cos (Cmath.pi : α) = -1
  sqrt_nonneg : ∀ x : α, 0 ≤ Cmath.sqrt x
  mul_self_sqrt : ∀ {x : α}, 0 ≤ x → Cmath.sqrt x * Cmath.sqrt x = x

noncomputable instance : Cmath ℝ where
  pi := Real.pi
  sqrt := Real.sqrt
  sin := Real.sin
  cos := Real.cos
  asin := Real.arcsin
  acos := Real.arccos
  atan2 y x := Complex.arg ⟨x, y⟩

instance : ExactCmath ℝ where
  cos_pi := Real.cos_pi
  sqrt_nonneg := Real.sqrt_nonneg
  mul_self_sqrt := Real.mul_self_sqrt

variable {α : Type} [Field α]

/-! ### The references of a goal -/

/-- The references that are passed on to the outputs. -/
@[ext]
structure References (α : Type) where
  robotPosition : Joints α
  robotVelocity : Joints α
  externalPosition : Joints α
  externalVelocity : Joints α
  position : Cartesian α
  orientation : Quaternion α
  linearVelocity : Cartesian α
  angularVelocity : Euler α

omit [Field α] in
/-- The Euler field of the pose holds the angular velocity. -/
def PointGoal.references (p : PointGoal α) : References α where
  robotPosition := p.robotJoints.position.get
  robotVelocity := p.robotJoints.velocity.get
  externalPosition := p.externalJoints.position.get
  externalVelocity := p.externalJoints.velocity.get
  position := p.robotCartesian.pose.get.position.get
  orientation := p.robotCartesian.pose.get.quaternion.get
  linearVelocity := p.robotCartesian.velocity.get
  angularVelocity := p.robotCartesian.pose.get.euler.get

omit [Field α] in
theorem Joints.update_update (p : Joints α) (n : ℕ) (f : ℕ → α) :
    (p.update n fun i _ => f i).update n (fun i _ => f i) = p.update n fun i _ => f i := by
  unfold Joints.update
  congr 1
  rw [List.mapIdx_mapIdx]
  congr 1
  funext i v
  simp only [Function.comp]
  split <;> rfl

section exact
variable [LinearOrder α] [IsStrictOrderedRing α] [Cmath α] [ExactCmath α]

omit [Cmath α] [ExactCmath α] in
theorem dotProduct_self_nonneg (q : Quaternion α) : 0 ≤ dotProduct q q := by
  unfold dotProduct
  exact add_nonneg (add_nonneg (add_nonneg (mul_self_nonneg _) (mul_self_nonneg _))
    (mul_self_nonneg _)) (mul_self_nonneg _)

/-- A quaternion that has been normalized stays as it is. -/
theorem normalize_normalize (u0 u1 u2 u3 : α) :
    let r := normalize (.of u0 u1 u2 u3)
    normalize (.of r.u0.val r.u1.val r.u2.val r.u3.val) = r := by
  intro r
  have hnorm := ExactCmath.mul_self_sqrt (dotProduct_self_nonneg (Quaternion.of u0 u1 u2 u3))
  by_cases hzero : euclideanNorm (Quaternion.of u0 u1 u2 u3) = 0
  · have hr : r = .of u0 u1 u2 u3 := by
      change (if _ then _ else _) = _
      rw [if_neg (not_not.mpr hzero)]
    rw [hr]
    exact hr
  · have hr : r = .of (u0 / euclideanNorm (Quaternion.of u0 u1 u2 u3))
        (u1 / euclideanNorm (Quaternion.of u0 u1 u2 u3))
        (u2 / euclideanNorm (Quaternion.of u0 u1 u2 u3))
        (u3 / euclideanNorm (Quaternion.of u0 u1 u2 u3)) := by
      change (if _ then _ else _) = _
      rw [if_pos hzero]
      rfl
    change euclideanNorm (Quaternion.of u0 u1 u2 u3) *
      euclideanNorm (Quaternion.of u0 u1 u2 u3) = _ at hnorm
    generalize euclideanNorm (Quaternion.of u0 u1 u2 u3) = n at *
    have hdot : dotProduct r r = 1 := by
      rw [hr]
      simp only [dotProduct, Quaternion.of, Optional.val_present] at hnorm ⊢
      field_simp
      linarith
    have hone : euclideanNorm r = 1 := by
      have hsquare := ExactCmath.mul_self_sqrt (dotProduct_self_nonneg r)
      have hnonneg := ExactCmath.sqrt_nonneg (dotProduct r r)
      unfold euclideanNorm
      rw [hdot] at hsquare hnonneg ⊢
      rcases mul_self_eq_one_iff.mp hsquare with h | h
      · exact h
      · rw [h] at hnonneg
        exact absurd hnonneg (by norm_num)
    have hsame : Quaternion.of r.u0.val r.u1.val r.u2.val r.u3.val = r := by
      rw [hr]
      rfl
    rw [hsame, normalize]
    simp only [hone, div_one, hsame, ne_eq, one_ne_zero, not_false_eq_true, if_true]

end exact

/-! ### The end of the interpolation -/

namespace EGMInterpolator

section rampedDown
variable [LinearOrder α] [Cmath α]

/-- What a ramp down to a stop makes of the references once its time is over. -/
def rampedDown (e : EGMInterpolator α) (r : References α) : References α :=
  let T := e.conditions.duration
  let n := min r.externalPosition.valuesSize maxNumberOfSplines
  let r := { r with
    externalPosition := r.externalPosition.update n
      fun i _ => (e.spline (i + e.offset)).calculatePosition T
    externalVelocity := r.externalVelocity.update n
      fun i _ => (e.spline (i + e.offset)).calculateVelocity T }
  match e.conditions.mode with
  | .egmJoint =>
      let n := min r.robotPosition.valuesSize maxNumberOfSplines
      { r with
        robotPosition := r.robotPosition.update n fun i _ => (e.spline i).calculatePosition T
        robotVelocity := r.robotVelocity.update n fun i _ => (e.spline i).calculateVelocity T }
  | .egmPose =>
      { r with
        position := .of ((e.spline 0).calculatePosition T) ((e.spline 1).calculatePosition T)
          ((e.spline 2).calculatePosition T)
        linearVelocity := .of ((e.spline 0).calculateVelocity T)
          ((e.spline 1).calculateVelocity T) ((e.spline 2).calculateVelocity T)
        angularVelocity := .of 0 0 0
        orientation := normalize (.of r.orientation.u0.val r.orientation.u1.val
          r.orientation.u2.val r.orientation.u3.val) }

/-- A ramp down to a stop. -/
structure Stops (e : EGMInterpolator α) : Prop where
  operation : e.conditions.operation = .rampDown
  positive : 0 < e.conditions.duration
  softRamp : e.conditions.mode = .egmPose →
    e.softRamp.operation = .rampDown ∧ e.softRamp.duration = e.conditions.duration

variable [IsStrictOrderedRing α]

omit [Cmath α] [IsStrictOrderedRing α] in
theorem saturate_of_le {t T : α} (hT : 0 < T) (h : T ≤ t) : saturate t 0 T = T := by
  unfold saturate
  rw [if_neg (not_lt.mpr (hT.le.trans h))]
  split
  · rfl
  · exact le_antisymm (not_lt.mp ‹_›) h

variable [ExactCmath α]

/-- The angular velocity has been ramped out: the orientation is only normalized. -/
theorem evaluateCartesian_rampedDown {s : SoftRamp α} (hoperation : s.operation = .rampDown)
    (hpositive : 0 < s.duration) (output : CartesianGoal α) (sampleTime : α) :
    let r := s.evaluateCartesian output sampleTime s.duration
    r.pose.get.position.get = output.pose.get.position.get ∧ r.velocity.get = output.velocity.get ∧
      r.pose.get.euler.get = .of 0 0 0 ∧
      r.pose.get.quaternion.get = normalize (.of output.pose.get.quaternion.get.u0.val
        output.pose.get.quaternion.get.u1.val output.pose.get.quaternion.get.u2.val
        output.pose.get.quaternion.get.u3.val) := by
  have hone : saturate (s.duration / s.duration) 0 1 = (1 : α) := by
    rw [div_self hpositive.ne']
    exact saturate_of_le zero_lt_one le_rfl
  have hramp : (1 : α) / 2 * Cmath.cos (Cmath.pi * 1) + 1 / 2 = 0 := by
    rw [mul_one, ExactCmath.cos_pi]
    norm_num
  intro r
  have hr : r = s.evaluateCartesian output sampleTime s.duration := rfl
  unfold SoftRamp.evaluateCartesian at hr
  simp only [hoperation, hone, hramp, zero_mul] at hr
  rw [hr]
  refine ⟨rfl, rfl, rfl, ?_⟩
  simp [CartesianGoal.modifyPose, SoftRamp.integrate, Euler.derivative, Euler.of, Quaternion.of,
    Quaternion.multiply, Quaternion.multiplyFactor]

/-- **A ramp down to a stop ends** in references that do not depend on the time. -/
theorem evaluate_rampedDown {e : EGMInterpolator α} (he : e.Stops) (output : PointGoal α)
    (sampleTime : α) {t : α} (ht : e.conditions.duration ≤ t) :
    (e.evaluate output sampleTime t).references = e.rampedDown output.references := by
  have hsaturated := saturate_of_le he.positive ht
  unfold evaluate rampedDown
  simp only [hsaturated, he.operation]
  cases hmode : e.conditions.mode with
  | egmJoint => rfl
  | egmPose =>
      obtain ⟨hoperation, hduration⟩ := he.softRamp hmode
      have hsoft := evaluateCartesian_rampedDown hoperation (hduration ▸ he.positive)
        (output.robotCartesian.evaluate (fun axis => e.spline (axisIndex axis))
          e.conditions.duration) sampleTime
      rw [hduration] at hsoft
      obtain ⟨hposition, hvelocity, heuler, hquaternion⟩ := hsoft
      apply References.ext
      · rfl
      · rfl
      · rfl
      · rfl
      · exact hposition
      · exact hquaternion
      · exact hvelocity
      · exact heuler

/-- At its end a ramp down stays where it is. -/
theorem rampedDown_rampedDown (e : EGMInterpolator α) (r : References α) :
    e.rampedDown (e.rampedDown r) = e.rampedDown r := by
  unfold rampedDown
  cases hmode : e.conditions.mode with
  | egmJoint => simp only [Joints.valuesSize_update, Joints.update_update]
  | egmPose =>
      simp only [Joints.valuesSize_update, Joints.update_update]
      congr 1
      exact normalize_normalize _ _ _ _

end rampedDown

/-! ### Velocities -/

section velocities
variable [LinearOrder α]

/-- The polynomials that are evaluated for the references end at rest. -/
structure EndsAtRest (e : EGMInterpolator α) (r : References α) : Prop where
  joints : e.conditions.mode = .egmJoint →
    ∀ i < min r.robotPosition.valuesSize maxNumberOfSplines,
      (e.spline i).calculateVelocity e.conditions.duration = 0
  axes : e.conditions.mode = .egmPose →
    ∀ i < 3, (e.spline i).calculateVelocity e.conditions.duration = 0
  external : ∀ i < min r.externalPosition.valuesSize maxNumberOfSplines,
    (e.spline (i + e.offset)).calculateVelocity e.conditions.duration = 0

omit [LinearOrder α] in
/-- Replaced by polynomials that end at rest, those that are written end at rest, and those that
did before still do. -/
theorem setSplines_rest {e : EGMInterpolator α} {offset n : ℕ} {f : ℕ → SplinePolynomial α} {T : α}
    (hf : ∀ i, (f i).calculateVelocity T = 0) {j : ℕ}
    (h : offset ≤ j ∧ j < offset + n ∨ (e.spline j).calculateVelocity T = 0) :
    ((e.setSplines offset n f).spline j).calculateVelocity T = 0 := by
  rw [spline_setSplines]
  by_cases hwritten : offset ≤ j ∧ j < offset + n ∧ j < e.splinePolynomials.length
  · rw [if_pos hwritten]
    exact hf _
  · rw [if_neg hwritten]
    rcases h with ⟨hlower, hupper⟩ | h
    · -- there is no such polynomial
      have hj : e.splinePolynomials.length ≤ j := not_lt.mp fun hj => hwritten ⟨hlower, hupper, hj⟩
      rw [spline, List.getD_eq_default _ _ hj]
      simp [SplinePolynomial.calculateVelocity, SplinePolynomial.init]
    · exact h

variable [IsStrictOrderedRing α]

/-- A polynomial that ramps down to zero ends at rest. -/
theorem calculateVelocity_rampDown {s : SplineConditions α} (hramp : s.doRampDown = true)
    (hfactor : s.rampDownFactor = 0) (hT : s.duration ≠ 0) :
    (SplinePolynomial.update s).calculateVelocity s.duration = 0 := by
  have hzero : saturate (0 : α) 0 1 = 0 := by
    unfold saturate
    simp
  unfold SplinePolynomial.update SplinePolynomial.calculateVelocity
  simp only [hramp, hfactor, hzero, if_true]
  field_simp
  ring

/-- The conditions of a ramp down to zero. -/
structure RampsToZero (c : Conditions α) : Prop where
  operation : c.operation = .rampDown
  factor : c.rampDownFactor = 0
  duration : Constants.lowestSampleTime α ≤ c.duration

theorem RampsToZero.rest {c : Conditions α} (hc : RampsToZero c) {s : SplineConditions α}
    (hramp : s.doRampDown = decide (c.operation = .rampDown))
    (hfactor : s.rampDownFactor = c.rampDownFactor) (hduration : s.duration = c.duration) :
    (SplinePolynomial.update s).calculateVelocity c.duration = 0 := by
  have hpositive := lt_of_lt_of_le Constants.lowestSampleTime_pos hc.duration
  rw [← hduration]
  apply calculateVelocity_rampDown
  · rw [hramp, hc.operation]
    rfl
  · rw [hfactor, hc.factor]
  · rw [hduration]
    exact hpositive.ne'

theorem updateJoints_rest {e : EGMInterpolator α} (hc : RampsToZero e.conditions) (offset : ℕ)
    (start goal : JointGoal α) {j : ℕ}
    (h : offset ≤ j ∧ j < offset + splineBound start ∨
      (e.spline j).calculateVelocity e.conditions.duration = 0) :
    ((e.updateJoints offset start goal).spline j).calculateVelocity e.conditions.duration = 0 :=
  setSplines_rest (fun _ => hc.rest rfl rfl rfl) h

theorem updateAxes_rest {e : EGMInterpolator α} (hc : RampsToZero e.conditions)
    (start goal : CartesianGoal α) {j : ℕ} (h : j < 3) :
    ((e.updateAxes start goal).spline j).calculateVelocity e.conditions.duration = 0 :=
  setSplines_rest (fun _ => hc.rest rfl rfl rfl) (.inl ⟨j.zero_le, by omega⟩)

variable [Cmath α]

section robot
variable (e : EGMInterpolator α) (start goal : PointGoal α) {c : Conditions α} (hc : RampsToZero c)
include hc

omit [IsStrictOrderedRing α] [Cmath α] in
theorem RampsToZero.clamped_eq : clamped c = c := by
  unfold clamped
  rw [max_eq_right hc.duration]

/-- In joint mode the robot joints are at rest at the end. -/
theorem updateRobot_rest_joint (hmode : c.mode = .egmJoint) {i : ℕ}
    (hi : i < splineBound start.robotJoints) :
    ((e.updateRobot start goal c).spline i).calculateVelocity c.duration = 0 := by
  have hclamped := hc.clamped_eq
  have hjoints := updateJoints_rest (e := { e with
    conditions := clamped c
    offset := start.robotJoints.position.get.valuesSize }) (hclamped.symm ▸ hc)
    0 start.robotJoints goal.robotJoints (j := i) (.inl ⟨i.zero_le, by omega⟩)
  unfold updateRobot
  simp only [hmode]
  rwa [hclamped] at hjoints ⊢

/-- In pose mode the position is. -/
theorem updateRobot_rest_axis (hmode : c.mode = .egmPose) {i : ℕ} (hi : i < 3) :
    ((e.updateRobot start goal c).spline i).calculateVelocity c.duration = 0 := by
  have hclamped := hc.clamped_eq
  have haxes := updateAxes_rest (e := { e with
    conditions := clamped c
    offset := start.robotJoints.position.get.valuesSize }) (hclamped.symm ▸ hc)
    start.robotCartesian goal.robotCartesian hi
  unfold updateRobot
  simp only [hmode, hc.operation, reduceCtorEq, if_false]
  rwa [hclamped] at haxes ⊢

end robot

/-- **The update for a ramp down to a stop.** -/
theorem update_stops (e : EGMInterpolator α) (start goal : PointGoal α) {c : Conditions α}
    (hc : RampsToZero c) : (e.update start goal c).conditions = c ∧
      (e.update start goal c).Stops ∧ (e.update start goal c).EndsAtRest start.references := by
  have hclamped := hc.clamped_eq
  have hconditions : (e.update start goal c).conditions = c :=
    (update_frame e start goal c).1.trans hclamped
  have hrobot : (e.updateRobot start goal c).conditions = c :=
    (updateRobot_frame e start goal c).1.trans hclamped
  have hzero : RampsToZero (e.updateRobot start goal c).conditions := hrobot.symm ▸ hc
  have hupdate := update_eq e start goal (.inr hc.operation)
  have hoffset : (e.update start goal c).offset = start.robotJoints.position.get.valuesSize := by
    rw [hupdate]
    simp [updateJoints]
  -- the external joints come last
  have hlast (j : ℕ) (h : start.robotJoints.position.get.valuesSize ≤ j ∧
      j < start.robotJoints.position.get.valuesSize + splineBound start.externalJoints ∨
      ((e.updateRobot start goal c).spline j).calculateVelocity c.duration = 0) :
      ((e.update start goal c).spline j).calculateVelocity c.duration = 0 := by
    have hrest := updateJoints_rest hzero start.robotJoints.position.get.valuesSize
      start.externalJoints goal.externalJoints (j := j)
    rw [hrobot] at hrest
    rw [hupdate]
    exact hrest h
  refine ⟨hconditions, ⟨?_, ?_, ?_⟩, ⟨?_, ?_, ?_⟩⟩
  · rw [hconditions, hc.operation]
  · rw [hconditions]
    exact lt_of_lt_of_le Constants.lowestSampleTime_pos hc.duration
  · intro hmode
    rw [hconditions] at hmode ⊢
    rw [(update_parts e start goal c).2.1 hc.operation hmode]
    unfold SoftRamp.update
    simp [hc.operation]
  · intro hmode i hi
    rw [hconditions] at hmode ⊢
    exact hlast i (.inr (updateRobot_rest_joint e start goal hc hmode hi))
  · intro hmode i hi
    rw [hconditions] at hmode ⊢
    exact hlast i (.inr (updateRobot_rest_axis e start goal hc hmode hi))
  · intro i hi
    rw [hconditions, hoffset]
    apply hlast
    left
    change i < splineBound start.externalJoints at hi
    omega

end velocities

end EGMInterpolator

/-! ### At rest -/

section rest
variable [LinearOrder α]

/-- The velocity references of a mode are zero, for the joints a polynomial is evaluated for. -/
structure References.AtRest (mode : EGMModes) (r : References α) : Prop where
  robot : mode = .egmJoint → ∀ i < min r.robotPosition.valuesSize maxNumberOfSplines,
    i < r.robotVelocity.valuesSize → r.robotVelocity.value i = 0
  external : ∀ i < min r.externalPosition.valuesSize maxNumberOfSplines,
    i < r.externalVelocity.valuesSize → r.externalVelocity.value i = 0
  linear : mode = .egmPose → r.linearVelocity = .of 0 0 0
  angular : mode = .egmPose → r.angularVelocity = .of 0 0 0

/-- The references have as many joints. -/
structure References.SameSizes (r s : References α) : Prop where
  robotPosition : r.robotPosition.valuesSize = s.robotPosition.valuesSize
  robotVelocity : r.robotVelocity.valuesSize = s.robotVelocity.valuesSize
  externalPosition : r.externalPosition.valuesSize = s.externalPosition.valuesSize
  externalVelocity : r.externalVelocity.valuesSize = s.externalVelocity.valuesSize

omit [Field α] [LinearOrder α] in
theorem References.SameSizes.trans {r s u : References α} (h : r.SameSizes s) (h' : s.SameSizes u) :
    r.SameSizes u :=
  ⟨h.robotPosition.trans h'.robotPosition, h.robotVelocity.trans h'.robotVelocity,
    h.externalPosition.trans h'.externalPosition, h.externalVelocity.trans h'.externalVelocity⟩

/-- There is a polynomial for every velocity of the references. -/
structure References.HaveSplines (r : References α) : Prop where
  robot : r.robotVelocity.valuesSize ≤ maxNumberOfSplines
  external : r.externalVelocity.valuesSize ≤ maxNumberOfSplines

omit [Field α] [LinearOrder α] in
theorem References.HaveSplines.congr {r s : References α} (hr : r.HaveSplines) (h : s.SameSizes r) :
    s.HaveSplines :=
  ⟨h.robotVelocity.trans_le hr.robot, h.externalVelocity.trans_le hr.external⟩

variable [Cmath α]

theorem EGMInterpolator.rampedDown_sizes (e : EGMInterpolator α) (r : References α) :
    (e.rampedDown r).SameSizes r := by
  unfold rampedDown
  cases e.conditions.mode <;> constructor <;> simp

theorem EGMInterpolator.EndsAtRest.atRest {e : EGMInterpolator α} {r : References α}
    (he : e.EndsAtRest r) : (e.rampedDown r).AtRest e.conditions.mode := by
  have hsizes := e.rampedDown_sizes r
  refine ⟨?_, ?_, ?_, ?_⟩
  · intro hmode i hi hvelocity
    rw [hsizes.robotPosition] at hi
    rw [hsizes.robotVelocity] at hvelocity
    unfold rampedDown
    simp only [hmode]
    rw [Joints.value_update _ _ _ hvelocity, if_pos hi, he.joints hmode i hi]
  · intro i hi hvelocity
    rw [hsizes.externalPosition] at hi
    rw [hsizes.externalVelocity] at hvelocity
    have hvalue : (e.rampedDown r).externalVelocity.value i =
        (e.spline (i + e.offset)).calculateVelocity e.conditions.duration := by
      unfold rampedDown
      cases e.conditions.mode <;> simp only <;> rw [Joints.value_update _ _ _ hvelocity, if_pos hi]
    rw [hvalue, he.external i hi]
  · intro hmode
    unfold rampedDown
    simp only [hmode]
    rw [he.axes hmode 0 (by omega), he.axes hmode 1 (by omega), he.axes hmode 2 (by omega)]
  · intro hmode
    unfold rampedDown
    simp only [hmode]

/-! ### The output controller outside of Normal -/

/-- The joints stand still at their references: those that the outputs, the feedback and the
references have. -/
structure JointSpace.HeldAt (joints outputs feedback : JointSpace α) (reference speed : Joints α) :
    Prop where
  position : ∀ i < reference.valuesSize, i < outputs.position.get.valuesSize →
    i < feedback.position.get.valuesSize → joints.position.get.value i = reference.value i
  velocity : ∀ i < reference.valuesSize, i < speed.valuesSize →
    i < outputs.velocity.get.valuesSize → i < feedback.velocity.get.valuesSize →
      joints.velocity.get.value i = 0

/-- What a callback makes of the outputs while the machine stands still. -/
structure Output.HeldAt (mode : EGMModes) (output outputs : Output α) (feedback : Feedback α)
    (r : References α) : Prop where
  robot : mode = .egmJoint → output.robotJoints.HeldAt outputs.robotJoints feedback.robotJoints
    r.robotPosition r.robotVelocity
  external : output.externalJoints.HeldAt outputs.externalJoints feedback.externalJoints
    r.externalPosition r.externalVelocity
  position : mode = .egmPose → output.robotCartesian.pose.get.position.get = r.position
  orientation : mode = .egmPose → output.robotCartesian.pose.get.quaternion.get = r.orientation
  linear : mode = .egmPose → output.robotCartesian.velocity.get.linear.get = .of 0 0 0
  angular : mode = .egmPose → output.robotCartesian.velocity.get.angular.get = .of 0 0 0

namespace Controller

/-- Outside of Normal no velocity is ramped out, and with the gain one the feedback cancels. -/
structure Passes (c : Controller α) : Prop where
  isNormalState : c.isNormalState = false
  gain : c.k = 1

omit [LinearOrder α] [Cmath α] in
theorem Passes.follow {c : Controller α} (hc : c.Passes) (ref fdb : α) : c.follow ref fdb = ref := by
  rw [Controller.follow, hc.gain]
  ring

omit [LinearOrder α] [Cmath α] in
theorem Passes.calculateJoints {c : Controller α} (hc : c.Passes)
    (htransition : c.doVelocityTransition = false) (out ref fdb start : Joints α) :
    (c.calculateJoints out ref fdb start).2 = ref ∧
      ∀ i < out.valuesSize, i < ref.valuesSize → i < fdb.valuesSize → i < start.valuesSize →
        (c.calculateJoints out ref fdb start).1.value i = ref.value i := by
  unfold Controller.calculateJoints
  simp only [htransition, Bool.false_eq_true, if_false, true_and]
  intro i hout href hfdb hstart
  rw [Joints.value_update _ _ _ hout, if_pos (by omega), hc.follow]

omit [LinearOrder α] [Cmath α] in
/-- Joints that are at rest in the references are passed on. -/
theorem Passes.heldAtJoints {c : Controller α} (hc : c.Passes)
    (htransition : c.doVelocityTransition = false) {joints outputs feedback : JointSpace α}
    {reference speed start startSpeed : Joints α}
    (hposition : joints.position.get =
      (c.calculateJoints outputs.position.get reference feedback.position.get start).1)
    (hvelocity : joints.velocity.get =
      (c.calculateJoints outputs.velocity.get speed feedback.velocity.get startSpeed).1)
    (hstart : reference.valuesSize = start.valuesSize)
    (hstartSpeed : speed.valuesSize = startSpeed.valuesSize)
    (hsplines : speed.valuesSize ≤ maxNumberOfSplines)
    (hrest : ∀ i < min reference.valuesSize maxNumberOfSplines, i < speed.valuesSize →
      speed.value i = 0) : joints.HeldAt outputs feedback reference speed := by
  constructor
  · intro i hi hout hfdb
    rw [hposition]
    exact (hc.calculateJoints htransition _ _ _ _).2 i hout hi hfdb (hi.trans_eq hstart)
  · intro i hi hspeed hout hfdb
    have hpassed := (hc.calculateJoints htransition outputs.velocity.get speed
      feedback.velocity.get startSpeed).2 i hout hspeed hfdb (hspeed.trans_eq hstartSpeed)
    rw [hvelocity, hpassed]
    exact hrest i (lt_min hi (hspeed.trans_le hsplines)) hspeed

omit [LinearOrder α] [Cmath α] in
theorem Passes.calculateCartesian {c : Controller α} (hc : c.Passes)
    (htransition : c.doVelocityTransition = false) (ref fdb start : Cartesian α) :
    (c.calculateCartesian ref fdb start).1 = .of ref.x.val ref.y.val ref.z.val ∧
      (c.calculateCartesian ref fdb start).2 = ref := by
  unfold Controller.calculateCartesian
  simp only [htransition, Bool.false_eq_true, if_false, hc.follow, and_self]

omit [LinearOrder α] [Cmath α] in
theorem Passes.calculateEuler {c : Controller α} (hc : c.Passes) (ref fdb start : Euler α) :
    (c.calculateEuler ref fdb start).1 = .of ref.x.val ref.y.val ref.z.val ∧
      (c.calculateEuler ref fdb start).2 = ref := by
  unfold Controller.calculateEuler
  simp only [hc.isNormalState, Bool.false_eq_true, if_false, hc.follow, and_self]

theorem Passes.calculateQuaternion {c : Controller α} (hc : c.Passes) (ref fdb : Quaternion α) :
    c.calculateQuaternion ref fdb =
      normalize (.of ref.u0.val ref.u1.val ref.u2.val ref.u3.val) := by
  unfold Controller.calculateQuaternion
  simp only [hc.follow]

omit [LinearOrder α] [Cmath α] in
theorem Passes.checkForVelocityTransition {c : Controller α} (hc : c.Passes)
    (htransition : c.doVelocityTransition = false) (references : PointGoal α) :
    c.checkForVelocityTransition references = (c, references) := by
  unfold Controller.checkForVelocityTransition
  simp only [hc.isNormalState, htransition, Bool.false_eq_true, if_false]

/-- **The references stay as they are.** -/
theorem Passes.calculate {c : Controller α} (hc : c.Passes) (output : Output α) (m : MotionStep α) :
    (c.calculate output m).1.Passes ∧
      (c.calculate output m).1.egmMode = c.egmMode ∧
      (c.calculate output m).1.initialReferences = c.initialReferences ∧
      (c.calculate output m).2.2.interpolation.references = m.interpolation.references := by
  have hc' : (c.scaleFactors m).Passes := ⟨hc.isNormalState, hc.gain⟩
  have htransition : (c.scaleFactors m).doVelocityTransition = false := rfl
  have hmode : (c.scaleFactors m).egmMode = c.egmMode := rfl
  have hinitial : (c.scaleFactors m).initialReferences = c.initialReferences := rfl
  unfold Controller.calculate
  simp only [hmode]
  generalize c.scaleFactors m = d at hc' htransition hmode hinitial ⊢
  cases hmode' : c.egmMode with
  | egmJoint =>
      simp only [hc'.checkForVelocityTransition htransition]
      refine ⟨hc', hmode.trans hmode', hinitial, ?_⟩
      apply References.ext
      · exact (hc'.calculateJoints htransition _ _ _ _).1
      · exact (hc'.calculateJoints htransition _ _ _ _).1
      · exact (hc'.calculateJoints htransition _ _ _ _).1
      · exact (hc'.calculateJoints htransition _ _ _ _).1
      · rfl
      · rfl
      · rfl
      · rfl
  | egmPose =>
      simp only [hc'.checkForVelocityTransition htransition]
      refine ⟨hc', hmode.trans hmode', hinitial, ?_⟩
      apply References.ext
      · rfl
      · rfl
      · exact (hc'.calculateJoints htransition _ _ _ _).1
      · exact (hc'.calculateJoints htransition _ _ _ _).1
      · exact (hc'.calculateCartesian htransition _
          m.data.feedback.robotCartesian.pose.get.position.get _).2
      · rfl
      · exact (hc'.calculateCartesian htransition _
          m.data.feedback.robotCartesian.velocity.get.linear.get _).2
      · exact (hc'.calculateEuler _ m.data.feedback.robotCartesian.velocity.get.angular.get _).2

/-- **The references are passed on** to the outputs. -/
theorem Passes.heldAt {c : Controller α} (hc : c.Passes) (output : Output α) {m : MotionStep α}
    (hsizes : m.interpolation.references.SameSizes c.initialReferences.references)
    (hsplines : m.interpolation.references.HaveSplines)
    (hrest : m.interpolation.references.AtRest c.egmMode)
    (hposition : c.egmMode = .egmPose → Cartesian.of m.interpolation.references.position.x.val
      m.interpolation.references.position.y.val m.interpolation.references.position.z.val =
        m.interpolation.references.position)
    (horientation : c.egmMode = .egmPose →
      normalize (.of m.interpolation.references.orientation.u0.val
        m.interpolation.references.orientation.u1.val m.interpolation.references.orientation.u2.val
        m.interpolation.references.orientation.u3.val) = m.interpolation.references.orientation) :
    (c.calculate output m).2.1.HeldAt c.egmMode output m.data.feedback
      m.interpolation.references := by
  have hc' : (c.scaleFactors m).Passes := ⟨hc.isNormalState, hc.gain⟩
  have htransition : (c.scaleFactors m).doVelocityTransition = false := rfl
  have hmode : (c.scaleFactors m).egmMode = c.egmMode := rfl
  have hinitial : (c.scaleFactors m).initialReferences = c.initialReferences := rfl
  unfold Controller.calculate
  simp only [hmode]
  generalize c.scaleFactors m = d at hc' htransition hmode hinitial ⊢
  rw [← hinitial] at hsizes
  cases hmode' : c.egmMode with
  | egmJoint =>
      simp only [hc'.checkForVelocityTransition htransition]
      refine ⟨?_, ?_, nofun, nofun, nofun, nofun⟩
      · intro _
        exact hc'.heldAtJoints htransition rfl rfl hsizes.robotPosition hsizes.robotVelocity
          hsplines.robot (hrest.robot hmode')
      · exact hc'.heldAtJoints htransition rfl rfl hsizes.externalPosition hsizes.externalVelocity
          hsplines.external hrest.external
  | egmPose =>
      simp only [hc'.checkForVelocityTransition htransition]
      refine ⟨nofun, ?_, ?_, ?_, ?_, ?_⟩
      · exact hc'.heldAtJoints htransition rfl rfl hsizes.externalPosition hsizes.externalVelocity
          hsplines.external hrest.external
      · intro _
        exact (hc'.calculateCartesian htransition _ _ _).1.trans (hposition hmode')
      · intro _
        exact (hc'.calculateQuaternion _ _).trans (horientation hmode')
      · intro _
        have hlinear : m.interpolation.robotCartesian.velocity.get = .of 0 0 0 :=
          hrest.linear hmode'
        have hpassed := (hc'.calculateCartesian htransition
          m.interpolation.robotCartesian.velocity.get
          m.data.feedback.robotCartesian.velocity.get.linear.get
          d.initialReferences.robotCartesian.velocity.get).1
        exact hpassed.trans (by rw [hlinear]; rfl)
      · intro _
        have hangular : m.interpolation.robotCartesian.pose.get.euler.get = .of 0 0 0 :=
          hrest.angular hmode'
        have hpassed := (hc'.calculateEuler m.interpolation.robotCartesian.pose.get.euler.get
          m.data.feedback.robotCartesian.velocity.get.angular.get
          d.initialReferences.robotCartesian.pose.get.euler.get).1
        exact hpassed.trans (by rw [hangular]; rfl)

end Controller

end rest

end AbbWrapper
