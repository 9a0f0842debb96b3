import Mathlib.Tactic.FieldSimp
import Mathlib.Tactic.Ring
import AbbWrapper.CompleteStop
import AbbWrapper.Evaluation

/-! # The boundary conditions of an interpolation

The polynomials of the interpolator meet the conditions that stand beside their formulas in the
source, and every coordinate is evaluated with the polynomial of its own boundary values: robot joints,
positions and external joints share one array of polynomials, with the external joints after those
of the robot.

* `Sample` is what a polynomial is evaluated to: position, velocity and acceleration.
* `SplineConditions.Met` are the conditions that `SplinePolynomial::update` lists for each of its four
  methods, and for the ramp down; the coefficients meet them (`SplinePolynomial.update_met`).
* `Coordinate` is a joint or an axis, `Coordinate.In` says which of them a mode interpolates, and
  `Coordinate.place` is the place of its polynomial in the array.
* `Coordinate.conditions` are the boundary values of a coordinate in the start and the goal.

After an update each place has the polynomial of its coordinate (`spline_update_place`), so that every
coordinate meets its boundary conditions and depends on no others (`boundary_conditions`). -/

namespace AbbWrapper

open Protobuf

variable {α : Type} [Field α]

/-! ### Polynomials -/

/-- What is evaluated for an axis. -/
structure Sample (α : Type) where
  position : α
  velocity : α
  acceleration : α

def SplinePolynomial.sample (p : SplinePolynomial α) (t : α) : Sample α :=
  ⟨p.calculatePosition t, p.calculateVelocity t, p.calculateAcceleration t⟩

section polynomials
variable [LinearOrder α]

/-- The conditions `SplinePolynomial::update` lists for its methods. -/
def SplineConditions.Met (s : SplineConditions α) (atStart atEnd : Sample α) : Prop :=
  if s.doRampDown then
    atStart.position = s.alfa ∧ atStart.velocity = s.dAlfa ∧
      atEnd.velocity = saturate s.rampDownFactor 0 1 * s.dAlfa ∧ atEnd.acceleration = 0
  else
    match s.splineMethod with
    | .linear => atStart.position = s.alfa ∧ atEnd.position = s.beta
    | .square =>
        atStart.position = s.alfa ∧ atStart.velocity = s.dAlfa ∧ atEnd.position = s.beta
    | .cubic =>
        atStart.position = s.alfa ∧ atStart.velocity = s.dAlfa ∧ atEnd.position = s.beta ∧
          atEnd.velocity = s.dBeta
    | .quintic =>
        atStart.position = s.alfa ∧ atStart.velocity = s.dAlfa ∧ atStart.acceleration = s.ddAlfa ∧
          atEnd.position = s.beta ∧ atEnd.velocity = s.dBeta ∧ atEnd.acceleration = s.ddBeta

variable [IsStrictOrderedRing α]

/-- **The coefficients meet their conditions.** -/
theorem SplinePolynomial.update_met (s : SplineConditions α) (hT : s.duration ≠ 0) :
    s.Met ((update s).sample 0) ((update s).sample s.duration) := by
  unfold SplineConditions.Met update sample calculatePosition calculateVelocity
    calculateAcceleration
  by_cases hramp : s.doRampDown = true
  · simp only [hramp, if_true]
    generalize saturate s.rampDownFactor 0 1 = K
    refine ⟨by ring, by ring, ?_, ?_⟩
    · field_simp
      ring
    · field_simp
      ring
  · simp only [hramp, if_false, Bool.false_eq_true]
    cases s.splineMethod with
    | linear =>
        refine ⟨by ring, ?_⟩
        field_simp
        ring
    | square =>
        refine ⟨by ring, by ring, ?_⟩
        field_simp
        ring
    | cubic =>
        refine ⟨by ring, by ring, ?_, ?_⟩
        · field_simp
          ring
        · field_simp
          ring
    | quintic =>
        refine ⟨by ring, by ring, by ring, ?_, ?_, ?_⟩
        · field_simp
          ring
        · field_simp
          ring
        · field_simp
          ring

end polynomials

/-! ### Coordinates -/

/-- What is interpolated by a polynomial of its own. -/
inductive Coordinate where
  | robot (i : ℕ) | axis (axis : Axis) | external (i : ℕ)
deriving DecidableEq, Repr

def JointGoal.sample (j : JointGoal α) (i : ℕ) : Sample α :=
  ⟨j.position.get.value i, j.velocity.get.value i, j.acceleration.get.value i⟩

def CartesianGoal.sample (c : CartesianGoal α) (axis : Axis) : Sample α :=
  ⟨c.pose.get.position.get.component axis, c.velocity.get.component axis,
    c.acceleration.get.component axis⟩

namespace Coordinate

def sample (p : PointGoal α) : Coordinate → Sample α
  | robot i => p.robotJoints.sample i
  | axis a => p.robotCartesian.sample a
  | external i => p.externalJoints.sample i

/-- The boundary values of a coordinate, with the method and the duration. -/
def conditions (c : Conditions α) (start goal : PointGoal α) : Coordinate → SplineConditions α
  | robot i => (SplineConditions.init c).setJointConditions i start.robotJoints goal.robotJoints
  | axis a =>
      (SplineConditions.init c).setCartesianConditions a start.robotCartesian goal.robotCartesian
  | external i =>
      (SplineConditions.init c).setJointConditions i start.externalJoints goal.externalJoints

/-- The coordinates a mode interpolates, for `r` robot joints and `x` external joints. -/
def In (mode : EGMModes) (r x : ℕ) : Coordinate → Prop
  | robot i => mode = .egmJoint ∧ i < r
  | axis _ => mode = .egmPose
  | external i => i < x

end Coordinate

/-- Positions, velocities and accelerations for at least `r` robot joints and `x` external joints. -/
structure PointGoal.Holds (p : PointGoal α) (r x : ℕ) : Prop where
  robotPosition : r ≤ p.robotJoints.position.get.valuesSize
  robotVelocity : r ≤ p.robotJoints.velocity.get.valuesSize
  robotAcceleration : r ≤ p.robotJoints.acceleration.get.valuesSize
  externalPosition : x ≤ p.externalJoints.position.get.valuesSize
  externalVelocity : x ≤ p.externalJoints.velocity.get.valuesSize
  externalAcceleration : x ≤ p.externalJoints.acceleration.get.valuesSize

/-- A goal for six robot joints and one external joint, to be reached with the given speed. -/
def sevenJoints (position velocity external : α) : PointGoal α :=
  let six (v : α) : Optional (Joints α) := .present ⟨[v, v, v, v, v, v]⟩
  let one (v : α) : Optional (Joints α) := .present ⟨[v]⟩
  { robot := .present { joints := .present ⟨six position, six velocity, six 0⟩ }
    external := .present { joints := .present ⟨one external, one 0, one 0⟩ } }

theorem JointGoal.sample_evaluate {output : JointGoal α} {n i : ℕ} (hi : i < n)
    (hposition : i < output.position.get.valuesSize)
    (hvelocity : i < output.velocity.get.valuesSize)
    (hacceleration : i < output.acceleration.get.valuesSize)
    (splines : ℕ → SplinePolynomial α) (t : α) :
    (output.evaluate n splines t).sample i = (splines i).sample t := by
  unfold JointGoal.sample JointGoal.evaluate SplinePolynomial.sample
  simp only [Optional.get_modify]
  rw [Joints.value_update _ _ _ hposition, Joints.value_update _ _ _ hvelocity,
    Joints.value_update _ _ _ hacceleration, if_pos hi, if_pos hi, if_pos hi]

theorem CartesianGoal.sample_evaluate (output : CartesianGoal α)
    (splines : Axis → SplinePolynomial α) (t : α) (axis : Axis) :
    (output.evaluate splines t).sample axis = (splines axis).sample t := by
  cases axis <;> rfl

namespace EGMInterpolator
variable [LinearOrder α]

/-! ### The polynomials after an update -/

theorem spline_updateJoints_eq (e : EGMInterpolator α) (offset : ℕ) (start goal : JointGoal α)
    {i : ℕ} (hi : i < splineBound start) (hlength : offset + i < e.splinePolynomials.length) :
    (e.updateJoints offset start goal).spline (i + offset) =
      .update ((SplineConditions.init e.conditions).setJointConditions i start goal) := by
  unfold updateJoints
  rw [spline_setSplines, if_pos (by omega), Nat.add_sub_cancel]

theorem spline_updateJoints_before (e : EGMInterpolator α) {offset : ℕ} (start goal : JointGoal α)
    {i : ℕ} (hi : i < offset) : (e.updateJoints offset start goal).spline i = e.spline i := by
  unfold updateJoints
  rw [spline_setSplines, if_neg (by omega)]

theorem spline_updateAxes_eq (e : EGMInterpolator α) (start goal : CartesianGoal α) (axis : Axis)
    (hlength : 3 ≤ e.splinePolynomials.length) :
    (e.updateAxes start goal).spline (axisIndex axis) =
      .update ((SplineConditions.init e.conditions).setCartesianConditions axis start goal) := by
  have hthree : axisIndex axis < 3 := by cases axis <;> decide
  unfold updateAxes
  rw [spline_setSplines, if_pos (by omega)]
  cases axis <;> rfl

/-- The place of a coordinate's polynomial. -/
def place (r : ℕ) : Coordinate → ℕ
  | .robot i => i
  | .axis a => axisIndex a
  | .external i => i + r

variable [Cmath α]

/-- **Every coordinate has the polynomial of its own conditions.** -/
theorem spline_update_place {e : EGMInterpolator α}
    (hlength : e.splinePolynomials.length = maxNumberOfSplines) {start goal : PointGoal α}
    {c : Conditions α} (hoperation : c.operation = .normal ∨ c.operation = .rampDown) {r x : ℕ}
    (hr : start.robotJoints.position.get.valuesSize = r)
    (hx : start.externalJoints.position.get.valuesSize = x) (hthree : 3 ≤ r)
    (hrx : r + x ≤ maxNumberOfSplines) {k : Coordinate} (hk : k.In c.mode r x) :
    (e.update start goal c).spline (place r k) = .update (k.conditions (clamped c) start goal) := by
  have hrobot := updateRobot_frame e start goal c
  rw [update_eq e start goal hoperation, hr]
  cases k with
  | robot i =>
      obtain ⟨hmode, hi⟩ := hk
      change (updateJoints _ r _ _).spline i = _
      rw [spline_updateJoints_before _ _ _ hi]
      unfold updateRobot
      simp only [hmode]
      refine spline_updateJoints_eq _ 0 _ _ ?_ ?_
      · unfold splineBound
        omega
      · change 0 + i < e.splinePolynomials.length
        omega
  | axis a =>
      have hmode : c.mode = .egmPose := hk
      have ha : axisIndex a < r := by cases a <;> simp only [axisIndex] <;> omega
      have haxes := spline_updateAxes_eq { e with
        conditions := clamped c
        offset := start.robotJoints.position.get.valuesSize } start.robotCartesian
        goal.robotCartesian a (by change 3 ≤ e.splinePolynomials.length; omega)
      change (updateJoints _ r _ _).spline (axisIndex a) = _
      rw [spline_updateJoints_before _ _ _ ha]
      unfold updateRobot
      simp only [hmode]
      split <;> exact haxes
  | external i =>
      have hi : i < x := hk
      change (updateJoints _ r _ _).spline (i + r) = _
      rw [spline_updateJoints_eq, hrobot.1]
      · rfl
      · unfold splineBound
        omega
      · rw [hrobot.2.2]
        omega

/-! ### Evaluation -/

section evaluate
variable {e : EGMInterpolator α} (output : PointGoal α) (sampleTime t : α)

/-- A coordinate is evaluated with the polynomial at its place. -/
theorem sample_evaluate
    (hoperation : e.conditions.operation = .normal ∨ e.conditions.operation = .rampDown)
    (hsoft : e.conditions.operation = .rampDown → e.conditions.mode = .egmPose →
      e.softRamp.operation = .rampDown)
    {r x : ℕ} (hoffset : e.offset = r) (hrx : r + x ≤ maxNumberOfSplines)
    (houtput : output.Holds r x) {k : Coordinate} (hk : k.In e.conditions.mode r x) :
    k.sample (e.evaluate output sampleTime t) =
      (e.spline (place r k)).sample (saturate t 0 e.conditions.duration) := by
  cases k with
  | robot i =>
      obtain ⟨hmode, hi⟩ := hk
      have hjoints : (e.evaluate output sampleTime t).robotJoints =
          output.robotJoints.evaluate (splineBound output.robotJoints) e.spline
            (saturate t 0 e.conditions.duration) := by
        unfold evaluate
        rcases hoperation with h | h <;> simp only [h, hmode] <;> rfl
      have hposition := houtput.robotPosition
      have hvelocity := houtput.robotVelocity
      have hacceleration := houtput.robotAcceleration
      change JointGoal.sample _ i = _
      rw [hjoints]
      apply JointGoal.sample_evaluate
      · unfold splineBound
        omega
      · omega
      · omega
      · omega
  | axis a =>
      have hmode : e.conditions.mode = .egmPose := hk
      have haxis : (e.evaluate output sampleTime t).robotCartesian.sample a =
          (output.robotCartesian.evaluate (fun axis => e.spline (axisIndex axis))
            (saturate t 0 e.conditions.duration)).sample a := by
        unfold evaluate
        rcases hoperation with h | h
        · simp only [h, hmode]
          cases a <;> rfl
        · -- the soft ramp only writes the orientation
          simp only [h, hmode]
          unfold SoftRamp.evaluateCartesian
          simp only [hsoft h hmode]
          cases a <;> rfl
      exact haxis.trans (CartesianGoal.sample_evaluate _ _ _ a)
  | external i =>
      have hi : i < x := hk
      have hjoints : (e.evaluate output sampleTime t).externalJoints =
          output.externalJoints.evaluate (splineBound output.externalJoints)
            (fun i => e.spline (i + e.offset)) (saturate t 0 e.conditions.duration) := by
        unfold evaluate
        cases hmode : e.conditions.mode <;> rcases hoperation with h | h <;> simp only [h] <;> rfl
      have hposition := houtput.externalPosition
      have hvelocity := houtput.externalVelocity
      have hacceleration := houtput.externalAcceleration
      change JointGoal.sample _ i = _
      rw [hjoints, hoffset]
      apply JointGoal.sample_evaluate
      · unfold splineBound
        omega
      · omega
      · omega
      · omega

end evaluate

/-- What is evaluated after an update: nothing but the coordinate's own conditions matters. -/
theorem sample_update {e : EGMInterpolator α}
    (hlength : e.splinePolynomials.length = maxNumberOfSplines) {start goal : PointGoal α}
    {c : Conditions α} (hoperation : c.operation = .normal ∨ c.operation = .rampDown) {r x : ℕ}
    (hr : start.robotJoints.position.get.valuesSize = r)
    (hx : start.externalJoints.position.get.valuesSize = x) (hthree : 3 ≤ r)
    (hrx : r + x ≤ maxNumberOfSplines) {output : PointGoal α} (houtput : output.Holds r x)
    (sampleTime t : α) {k : Coordinate} (hk : k.In c.mode r x) :
    k.sample ((e.update start goal c).evaluate output sampleTime t) =
      (SplinePolynomial.update (k.conditions (clamped c) start goal)).sample
        (saturate t 0 (clamped c).duration) := by
  have hconditions := (update_frame e start goal c).1
  have hoffset : (e.update start goal c).offset = r := by
    rw [update_eq e start goal hoperation, ← hr]
    simp [updateJoints]
  have hsoft : (e.update start goal c).conditions.operation = .rampDown →
      (e.update start goal c).conditions.mode = .egmPose →
        (e.update start goal c).softRamp.operation = .rampDown := by
    rw [hconditions]
    intro hop hmode
    rw [(update_parts e start goal c).2.1 hop hmode]
    unfold SoftRamp.update
    simp only [show c.operation = .rampDown from hop]
  have hsample := sample_evaluate output sampleTime t
    (hconditions.symm ▸ hoperation : (e.update start goal c).conditions.operation = .normal ∨ _)
    hsoft hoffset hrx houtput (k := k) (by rw [hconditions]; exact hk)
  rw [hsample, spline_update_place hlength hoperation hr hx hthree hrx hk, hconditions]

omit [Cmath α] in
theorem saturate_zero [IsStrictOrderedRing α] {T : α} (hT : 0 < T) : saturate 0 0 T = 0 := by
  unfold saturate
  rw [if_neg (lt_irrefl _), if_neg (not_lt.mpr hT.le)]

/-- **Every coordinate meets its boundary conditions**, and depends on no boundary values but its
own. -/
theorem boundary_conditions [IsStrictOrderedRing α] {e : EGMInterpolator α}
    (hlength : e.splinePolynomials.length = maxNumberOfSplines) {start goal : PointGoal α}
    {c : Conditions α} (hoperation : c.operation = .normal ∨ c.operation = .rampDown)
    (hduration : Constants.lowestSampleTime α ≤ c.duration) {r x : ℕ}
    (hr : start.robotJoints.position.get.valuesSize = r)
    (hx : start.externalJoints.position.get.valuesSize = x) (hparser : r = 6 ∨ r = 7)
    (hrx : r + x ≤ 12) {output output' : PointGoal α} (houtput : output.Holds r x)
    (houtput' : output'.Holds r x) (sampleTime sampleTime' : α) {k : Coordinate}
    (hk : k.In c.mode r x) :
    (∀ t, c.duration ≤ t → (k.conditions c start goal).Met
      (k.sample ((e.update start goal c).evaluate output sampleTime 0))
      (k.sample ((e.update start goal c).evaluate output' sampleTime' t))) ∧
    ∀ (e' : EGMInterpolator α) (start' goal' : PointGoal α),
      e'.splinePolynomials.length = maxNumberOfSplines →
      start'.robotJoints.position.get.valuesSize = r →
      start'.externalJoints.position.get.valuesSize = x →
      k.conditions c start' goal' = k.conditions c start goal →
      ∀ t, k.sample ((e'.update start' goal' c).evaluate output' sampleTime' t) =
        k.sample ((e.update start goal c).evaluate output sampleTime t) := by
  have hclamped : clamped c = c := by
    unfold clamped
    rw [max_eq_right hduration]
  have hpositive : 0 < c.duration := lt_of_lt_of_le Constants.lowestSampleTime_pos hduration
  have hthree : 3 ≤ r := by omega
  refine ⟨?_, ?_⟩
  · intro t ht
    have hT : (k.conditions c start goal).duration = c.duration := by cases k <;> rfl
    have hmet := SplinePolynomial.update_met (k.conditions c start goal)
      (by rw [hT]; exact hpositive.ne')
    rw [sample_update hlength hoperation hr hx hthree hrx houtput sampleTime 0 hk,
      sample_update hlength hoperation hr hx hthree hrx houtput' sampleTime' t hk, hclamped,
      saturate_zero hpositive, saturate_of_le hpositive ht]
    rwa [hT] at hmet
  · intro e' start' goal' hlength' hr' hx' hsame t
    rw [sample_update hlength' hoperation hr' hx' hthree hrx houtput' sampleTime' t hk,
      sample_update hlength hoperation hr hx hthree hrx houtput sampleTime t hk, hclamped, hsame]

/-- The external joint of a cubic motion, between joints with other goals. -/
theorem boundary_conditions_cubic :
    ((Coordinate.external 0).conditions ⟨2, .egmJoint, .normal, 0, .cubic⟩ (sevenJoints (0 : ℚ) 1 5)
      (sevenJoints 10 1 8)).Met
      ((Coordinate.external 0).sample ((init.update (sevenJoints 0 1 5) (sevenJoints 10 1 8)
        ⟨2, .egmJoint, .normal, 0, .cubic⟩).evaluate (sevenJoints 0 0 0) (4 / 1000) 0))
      ((Coordinate.external 0).sample ((init.update (sevenJoints 0 1 5) (sevenJoints 10 1 8)
        ⟨2, .egmJoint, .normal, 0, .cubic⟩).evaluate (sevenJoints 0 0 0) (4 / 1000) 3)) := by
  have houtput : (sevenJoints (0 : ℚ) 0 0).Holds 6 1 :=
    ⟨by decide, by decide, by decide, by decide, by decide, by decide⟩
  have hexternal : (Coordinate.external 0).In .egmJoint 6 1 := Nat.one_pos
  refine (boundary_conditions (e := init) (by decide) (.inl rfl) ?_ rfl rfl (.inl rfl) (by decide)
    houtput houtput (4 / 1000) (4 / 1000) hexternal).1 3 ?_
  · unfold Constants.lowestSampleTime
    norm_num
  · norm_num

end EGMInterpolator

end AbbWrapper
