import AbbWrapper.ExactReals

/-! # Reach conditions

A point counts as reached when the feedback is within `CONDITION` of it.  The checks of joints and
positions have this tolerance (`MotionStep.checkJoints_close`, `MotionStep.checkCartesian_close`).
That of the orientation has none: the dot product of two unit quaternions is at most one, and the
check asks for no less (`MotionStep.conditionMet_iff`).

* `Close` says of joints and of positions that those that both sides have are within the tolerance.
* `rotationAngle` is the angle of the rotation from one unit quaternion to another, in degrees.
* `Within` is what the documentation asks for: every coordinate that is controlled is within the
  tolerance, the orientation by its angle.

Everything about quaternions is about real numbers, where a unit quaternion has exactly the length one.
The test is a turn by two thousandths of a degree (`conditionMet_turned`). -/

namespace AbbWrapper

open Protobuf

/-- The joints both vectors have are within the tolerance. -/
def Joints.Close (p q : Joints ℝ) : Prop :=
  ∀ i, i < p.valuesSize → i < q.valuesSize → |p.value i - q.value i| < MotionStep.CONDITION

def Cartesian.Close (p q : Cartesian ℝ) : Prop :=
  ∀ axis, |p.component axis - q.component axis| < MotionStep.CONDITION

/-- The angle of the rotation from one unit quaternion to another, in degrees. -/
noncomputable def Quaternion.rotationAngle (p q : Quaternion ℝ) : ℝ :=
  2 * Real.arccos |dotProduct p q| * Constants.radToDeg ℝ

/-- Unit quaternions have a dot product of length one only when they are the same orientation. -/
theorem one_le_abs_dotProduct_iff {p q : Quaternion ℝ} (hp : dotProduct p p = 1)
    (hq : dotProduct q q = 1) : 1 ≤ |dotProduct p q| ↔ p.SameOrientation q := by
  have hpnorm := (Quaternion.norm_vec_eq_one_iff p).mpr hp
  have hqnorm := (Quaternion.norm_vec_eq_one_iff q).mpr hq
  have hcauchy : |dotProduct p q| ≤ 1 := by
    have h := abs_real_inner_le_norm p.vec q.vec
    rwa [Quaternion.inner_vec, hpnorm, hqnorm, one_mul] at h
  have hone : 1 ≤ |dotProduct p q| ↔ |dotProduct p q| = 1 :=
    ⟨fun h => le_antisymm hcauchy h, fun h => h.ge⟩
  unfold Quaternion.SameOrientation
  rw [hone, abs_eq zero_le_one, ← Quaternion.inner_vec,
    inner_eq_one_iff_of_norm_eq_one hpnorm hqnorm, inner_eq_neg_one_iff_of_norm_eq_one hpnorm hqnorm]

namespace MotionStep

/-- Every controlled coordinate is within the tolerance. -/
structure Within (m : MotionStep ℝ) : Prop where
  robot : m.data.mode = .egmJoint →
    m.internalGoal.robotJoints.position.get.Close m.data.feedback.robotJoints.position.get
  position : m.data.mode = .egmPose → m.internalGoal.robotCartesian.pose.get.position.get.Close
    m.data.feedback.robotCartesian.pose.get.position.get
  orientation : m.data.mode = .egmPose →
    m.internalGoal.robotCartesian.pose.get.quaternion.get.rotationAngle
      m.data.feedback.robotCartesian.pose.get.quaternion.get < CONDITION
  external :
    m.internalGoal.externalJoints.position.get.Close m.data.feedback.externalJoints.position.get

/-! ### The checks -/

theorem checkJoints_close {p q : Joints ℝ} (h : p.Close q) (conditionMet : Bool) :
    checkJoints conditionMet p q = conditionMet := by
  have hall : (List.zipWith (fun g f => decide (|g - f| < CONDITION)) p.values q.values).all id =
      true := by
    rw [List.all_eq_true]
    intro b hb
    obtain ⟨i, hi, rfl⟩ := List.getElem_of_mem hb
    rw [List.length_zipWith, lt_min_iff] at hi
    have hclose := h i hi.1 hi.2
    unfold Joints.value at hclose
    rw [List.getD_eq_getElem _ _ hi.1, List.getD_eq_getElem _ _ hi.2] at hclose
    simpa using hclose
  unfold checkJoints
  rw [hall, Bool.and_true]

theorem checkCartesian_close {p q : Cartesian ℝ} (h : p.Close q) : checkCartesian p q = true := by
  unfold checkCartesian
  rw [Bool.and_eq_true, Bool.and_eq_true, decide_eq_true_iff, decide_eq_true_iff,
    decide_eq_true_iff]
  exact ⟨⟨h .x, h .y⟩, h .z⟩

/-- **A point the feedback is close to counts as reached only** in joint mode, or with exactly the
orientation of the goal. -/
theorem conditionMet_iff (m : MotionStep ℝ)
    (hgoal : m.data.mode = .egmPose → dotProduct m.internalGoal.robotCartesian.pose.get.quaternion.get
      m.internalGoal.robotCartesian.pose.get.quaternion.get = 1)
    (hfeedback : m.data.mode = .egmPose →
      dotProduct m.data.feedback.robotCartesian.pose.get.quaternion.get
        m.data.feedback.robotCartesian.pose.get.quaternion.get = 1)
    (hwithin : m.Within) :
    m.conditionMet = true ↔ m.data.mode = .egmJoint ∨
      m.internalGoal.robotCartesian.pose.get.quaternion.get.SameOrientation
        m.data.feedback.robotCartesian.pose.get.quaternion.get := by
  obtain ⟨hrobot, hposition, -, hexternal⟩ := hwithin
  unfold conditionMet
  simp only
  cases hmode : m.data.mode with
  | egmJoint =>
      simp only
      rw [checkJoints_close hexternal, checkJoints_close (hrobot hmode)]
      simp
  | egmPose =>
      simp only
      rw [checkJoints_close hexternal, checkCartesian_close (hposition hmode), checkQuaternion,
        Bool.true_and, decide_eq_true_iff,
        one_le_abs_dotProduct_iff (hgoal hmode) (hfeedback hmode)]
      simp

/-! ### Turned by a small angle -/

/-- The feedback is turned by `2 * ε` about the x axis of the goal. -/
noncomputable def turned (ε : ℝ) : MotionStep ℝ :=
  let m := MotionStep.init ⟨⟨.six, false, true, false, 60⟩, .quintic⟩
  let pose (q : Quaternion ℝ) : CartesianPose ℝ := { quaternion := .present q }
  let goal : CartesianGoal ℝ := { pose := .present (pose (.of 1 0 0 0)) }
  let space : CartesianSpace ℝ := { pose := .present (pose (.of (Real.cos ε) (Real.sin ε) 0 0)) }
  { m with
    internalGoal := { robot := .present { cartesian := .present goal } }
    data := { m.data with
      mode := .egmPose
      feedback := { robot := .present { cartesian := .present space } } } }

theorem turned_unit (ε : ℝ) :
    dotProduct (.of 1 0 0 0 : Quaternion ℝ) (.of 1 0 0 0) = 1 ∧
      dotProduct (.of (Real.cos ε) (Real.sin ε) 0 0 : Quaternion ℝ)
        (.of (Real.cos ε) (Real.sin ε) 0 0) = 1 := by
  have hsquares := Real.sin_sq_add_cos_sq ε
  simp only [dotProduct, Quaternion.of, Optional.val_present]
  refine ⟨by norm_num, ?_⟩
  linear_combination hsquares

/-- The angle is that of the turn. -/
theorem turned_within {ε : ℝ} (h0 : 0 ≤ ε) (h1 : ε ≤ Real.pi / 180000) : (turned ε).Within := by
  have hpi := Real.pi_pos
  have hnone : Joints.Close {} {} := fun i hi => absurd hi i.not_lt_zero
  refine ⟨nofun, ?_, ?_, hnone⟩
  · intro _ axis
    have hzero : Cartesian.component ({} : Cartesian ℝ) axis = 0 := by cases axis <;> rfl
    change |Cartesian.component ({} : Cartesian ℝ) axis - Cartesian.component {} axis| < _
    rw [hzero, sub_zero, abs_zero, CONDITION]
    norm_num
  · intro _
    have hdot : dotProduct (.of 1 0 0 0 : Quaternion ℝ) (.of (Real.cos ε) (Real.sin ε) 0 0) =
        Real.cos ε := by
      simp only [dotProduct, Quaternion.of, Optional.val_present]
      ring
    have hcos : 0 ≤ Real.cos ε := Real.cos_nonneg_of_mem_Icc ⟨by linarith, by linarith⟩
    change Quaternion.rotationAngle (.of 1 0 0 0) (.of (Real.cos ε) (Real.sin ε) 0 0) < _
    rw [Quaternion.rotationAngle, hdot, abs_of_nonneg hcos, Real.arccos_cos h0 (by linarith),
      Constants.radToDeg, CONDITION, cmath_pi, ← mul_div_assoc, div_lt_iff₀ hpi]
    linarith

theorem conditionMet_exact : (turned 0).conditionMet = true := by
  have hunit := turned_unit 0
  refine (conditionMet_iff (turned 0) (fun _ => hunit.1) (fun _ => hunit.2)
    (turned_within le_rfl (by positivity))).mpr (.inr (.inl ?_))
  change Quaternion.vec (.of 1 0 0 0) = Quaternion.vec (.of (Real.cos 0) (Real.sin 0) 0 0)
  rw [Real.cos_zero, Real.sin_zero]

/-- Two thousandths of a degree away from the goal, the point is not reached. -/
theorem conditionMet_turned : (turned (Real.pi / 180000)).Within ∧
    (turned (Real.pi / 180000)).conditionMet = false := by
  have hpi := Real.pi_pos
  refine ⟨turned_within (by positivity) le_rfl, ?_⟩
  have hdot : dotProduct (.of 1 0 0 0 : Quaternion ℝ)
      (.of (Real.cos (Real.pi / 180000)) (Real.sin (Real.pi / 180000)) 0 0) =
        Real.cos (Real.pi / 180000) := by
    simp only [dotProduct, Quaternion.of, Optional.val_present]
    ring
  have hlt : Real.cos (Real.pi / 180000) < 1 := by
    rw [← Real.cos_zero]
    exact Real.cos_lt_cos_of_nonneg_of_le_pi le_rfl (by linarith) (by positivity)
  have hnonneg : 0 ≤ Real.cos (Real.pi / 180000) :=
    Real.cos_nonneg_of_mem_Icc ⟨by linarith, by linarith⟩
  have hquaternion (b : Bool) : checkQuaternion b (.of 1 0 0 0 : Quaternion ℝ)
      (.of (Real.cos (Real.pi / 180000)) (Real.sin (Real.pi / 180000)) 0 0) = false := by
    unfold checkQuaternion
    rw [hdot, abs_of_nonneg hnonneg, decide_eq_false (not_le.mpr hlt), Bool.and_false]
  change checkJoints (checkQuaternion (checkCartesian ({} : Cartesian ℝ) {}) (.of 1 0 0 0)
    (.of (Real.cos (Real.pi / 180000)) (Real.sin (Real.pi / 180000)) 0 0)) {} {} = false
  rw [hquaternion]
  rfl

end MotionStep

end AbbWrapper
