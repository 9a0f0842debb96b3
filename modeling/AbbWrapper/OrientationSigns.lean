import AbbWrapper.SlerpDerivative
import AbbWrapper.SphericalInterpolation
import AbbWrapper.StaticPositionRamp

/-! # Interpolated orientations and the sign of the goal

A quaternion and its negative are the same orientation.  `Slerp` evaluates to the spherical
interpolation of the vectors (`Slerp.vec_orientation`), which turns the goal round in the
trigonometric branch but not in the linear one; `SoftRamp` evaluates to a blend, which is then moved
by the derivative of the angular velocities stored in start and goal
(`SoftRamp.vec_orientation`).

* `SignSafe` says of an interpolation that the orientation is a unit quaternion, and the same
  orientation for the opposite goal.  By `signSafe_iff` this is what the library says of interpolations
  between vectors.
* `SoftRamp.blendOrientation` is what `case RampInPosition` blends, and `SoftRamp.move` by how much
  `case RampInVelocity` moves it, the `break` being missing.

`sign_safe_iff` says when the two are sign safe, over the real numbers.  Half way to the opposite
quaternion both come to the zero quaternion (`sign_unsafe_opposite`). -/

namespace AbbWrapper

open Protobuf Spherical

namespace Quaternion

/-- An interpolated orientation is a unit quaternion, and the same orientation for the opposite
goal. -/
def SignSafe (f : Quaternion ℝ → Quaternion ℝ) (goal : Quaternion ℝ) : Prop :=
  dotProduct (f goal) (f goal) = 1 ∧ (f (goal.multiplyFactor (-1))).SameOrientation (f goal)

theorem vec_normalize_direction (q : Quaternion ℝ) : (normalize q).vec = direction q.vec :=
  q.vec_normalize

theorem vec_multiplyFactor (q : Quaternion ℝ) (factor : ℝ) :
    (q.multiplyFactor factor).vec = factor • q.vec := by
  ext i
  fin_cases i <;> simp [vec, multiplyFactor, Quaternion.of, mul_comm]

theorem vec_combine (a b : ℝ) (q0 q1 : Quaternion ℝ) :
    (Slerp.combine a b q0 q1).vec = a • q0.vec + b • q1.vec := by
  ext i
  fin_cases i <;> simp [vec, Slerp.combine, Quaternion.of]

theorem norm_vec_unit {q : Quaternion ℝ} (hq : dotProduct q q = 1) : ‖q.vec‖ = 1 :=
  (norm_vec_eq_one_iff q).mpr hq

theorem vec_normalize_unit {q : Quaternion ℝ} (hq : dotProduct q q = 1) :
    (normalize q).vec = q.vec := by
  rw [vec_normalize_direction, direction_of_norm (norm_vec_unit hq)]

/-- What is interpolated on the vectors is sign safe there. -/
theorem signSafe_iff {f : Quaternion ℝ → Quaternion ℝ} {F : EuclideanSpace ℝ (Fin 4) →
    EuclideanSpace ℝ (Fin 4)} (hf : ∀ q, dotProduct q q = 1 → (f q).vec = F q.vec)
    {goal : Quaternion ℝ} (hgoal : dotProduct goal goal = 1) :
    SignSafe f goal ↔ Spherical.SignSafe F goal.vec := by
  have hopposite : dotProduct (goal.multiplyFactor (-1)) (goal.multiplyFactor (-1)) = 1 := by
    rw [← norm_vec_eq_one_iff, vec_multiplyFactor, neg_one_smul, norm_neg]
    exact norm_vec_unit hgoal
  unfold SignSafe Spherical.SignSafe
  rw [← norm_vec_eq_one_iff, SameOrientation, hf goal hgoal, hf _ hopposite, vec_multiplyFactor,
    neg_one_smul]
  exact Iff.rfl

end Quaternion

/-! ### Slerp -/

namespace Slerp

/-- The orientation after an update. -/
noncomputable def orientation (s : Slerp ℝ) (start goal : Quaternion ℝ) (c : Conditions ℝ)
    (output : CartesianGoal ℝ) (t : ℝ) : Quaternion ℝ :=
  ((s.update start goal c).evaluate output t).pose.get.quaternion.get

theorem vec_orientation (s : Slerp ℝ) {start goal : Quaternion ℝ} (hstart : dotProduct start start = 1)
    (hgoal : dotProduct goal goal = 1) (c : Conditions ℝ) (output : CartesianGoal ℝ) (t : ℝ) :
    (s.orientation start goal c output t).vec =
      slerp dotProductThreshold (progress c.duration t) start.vec goal.vec := by
  have hq0 := Quaternion.vec_normalize_unit hstart
  have hq1 := Quaternion.vec_normalize_unit hgoal
  have hdot : dotProduct (normalize start) (normalize goal) = inner ℝ start.vec goal.vec := by
    rw [← Quaternion.inner_vec, hq0, hq1]
  have habs := abs_inner_le_one (Quaternion.norm_vec_unit hstart) (Quaternion.norm_vec_unit hgoal)
  have hsaturate {x : ℝ} (hx : |x| ≤ 1) : saturate x (-1) 1 = x := by
    obtain ⟨hlower, hupper⟩ := abs_le.mp hx
    rw [saturate_eq (by norm_num), min_eq_left hupper, max_eq_right hlower]
  have horientation : (s.orientation start goal c output t).vec =
      direction (((s.update start goal c).coefficients t).a • (s.update start goal c).q0.vec +
        ((s.update start goal c).coefficients t).b • (s.update start goal c).q1.vec) := by
    unfold orientation
    rw [evaluate_eq, ← Quaternion.vec_combine, ← Quaternion.vec_normalize_direction]
    rfl
  rw [horientation]
  unfold update coefficients slerp
  simp only [hdot]
  by_cases hlinear : dotProductThreshold < |inner ℝ start.vec goal.vec|
  · simp only [hlinear, decide_true, if_true, hq0, hq1]
    rfl
  · simp only [hlinear, decide_false, Bool.false_eq_true, if_false]
    rcases lt_or_ge (inner ℝ start.vec goal.vec) 0 with hneg | hpos
    · simp only [hneg, if_true, Bool.false_eq_true, if_false, hq0, Quaternion.vec_multiplyFactor, hq1,
        neg_one_smul, hsaturate (by rwa [abs_neg]), abs_of_neg hneg, arc, cmath_sin, cmath_acos,
        one_div, inv_mul_eq_div]
      rfl
    · simp only [not_lt.mpr hpos, if_false, Bool.false_eq_true, hq0, hq1, hsaturate habs,
        abs_of_nonneg hpos, arc, cmath_sin, cmath_acos, one_div, inv_mul_eq_div]
      rfl

end Slerp

/-! ### Soft ramps -/

namespace SoftRamp

theorem ramp_progress (d t : ℝ) : (ramp d t = 0 ↔ progress d t = 0) ∧
    (ramp d t = 1 ↔ progress d t = 1) ∧ (ramp d t = 1 / 2 ↔ progress d t = 1 / 2) := by
  obtain ⟨h0, h1⟩ := progress_mem d t
  have hpi := Real.pi_pos
  have hmem {p : ℝ} (h0 : 0 ≤ p) (h1 : p ≤ 1) : Real.pi * p ∈ Set.Icc 0 Real.pi :=
    ⟨by positivity, by nlinarith⟩
  -- the cosine takes every value once on half a turn
  have hvalue {p c : ℝ} (hp0 : 0 ≤ p) (hp1 : p ≤ 1) (hc : Real.cos (Real.pi * p) = 1 - 2 * c) :
      ramp d t = c ↔ progress d t = p := by
    have hcos : Real.cos (Real.pi * progress d t) = Real.cos (Real.pi * p) ↔
        progress d t = p := by
      rw [Real.injOn_cos.eq_iff (hmem h0 h1) (hmem hp0 hp1), mul_right_inj' hpi.ne']
    rw [← hcos, hc, ramp, rampInFactor_eq]
    constructor
    · intro h
      linarith
    · intro h
      linarith
  refine ⟨hvalue le_rfl zero_le_one ?_, hvalue zero_le_one le_rfl ?_, hvalue ?_ ?_ ?_⟩
  · simp
  · rw [mul_one, Real.cos_pi]
    norm_num
  · norm_num
  · norm_num
  · rw [mul_one_div, Real.cos_pi_div_two]
    norm_num

/-- The goal with another orientation. -/
def withOrientation {α : Type} (s : SoftRamp α) (goal : Quaternion α) : SoftRamp α :=
  let turn (c : CartesianGoal α) : CartesianGoal α :=
    c.modifyPose fun pose => { pose with quaternion := .present goal }
  { s with goal := s.goal.modifyRobotCartesian turn }

noncomputable def orientation (s : SoftRamp ℝ) (output : CartesianGoal ℝ) (sampleTime t : ℝ) :
    Quaternion ℝ :=
  (s.evaluateCartesian output sampleTime t).pose.get.quaternion.get

/-- The angular velocity that `case RampInVelocity` blends from those stored in start and goal. -/
noncomputable def storedAngularVelocity (s : SoftRamp ℝ) (t : ℝ) : Euler ℝ :=
  let start := s.start.robotCartesian.pose.get.euler.get
  let goal := s.goal.robotCartesian.pose.get.euler.get
  let r := ramp s.duration t
  .of (start.x.val + r * (goal.x.val - start.x.val)) (start.y.val + r * (goal.y.val - start.y.val))
    (start.z.val + r * (goal.z.val - start.z.val))

/-- By how much `case RampInVelocity` moves the orientation of `case RampInPosition`. -/
noncomputable def move (s : SoftRamp ℝ) (output : CartesianGoal ℝ) (sampleTime t : ℝ) :
    EuclideanSpace ℝ (Fin 4) :=
  sampleTime • ((s.storedAngularVelocity t).derivative output.pose.get.quaternion.get).vec

theorem vec_integrate (q dQ : Quaternion ℝ) (sampleTime : ℝ) :
    (integrate q dQ sampleTime).vec = direction (q.vec + sampleTime • dQ.vec) := by
  unfold integrate
  rw [Quaternion.vec_normalize_direction]
  congr 1
  ext i
  fin_cases i <;> simp [Quaternion.vec, Quaternion.of]

/-- What `case RampInPosition` blends and normalizes. -/
noncomputable def blendOrientation (start goal : Quaternion ℝ) (ramp : ℝ) : Quaternion ℝ :=
  normalize (.of (start.u0.val + ramp * (goal.u0.val - start.u0.val))
    (start.u1.val + ramp * (goal.u1.val - start.u1.val))
    (start.u2.val + ramp * (goal.u2.val - start.u2.val))
    (start.u3.val + ramp * (goal.u3.val - start.u3.val)))

theorem vec_blendOrientation (start goal : Quaternion ℝ) (ramp : ℝ) :
    (blendOrientation start goal ramp).vec = direction (lerp ramp start.vec goal.vec) := by
  unfold blendOrientation lerp
  rw [Quaternion.vec_normalize_direction]
  congr 1
  ext i
  fin_cases i <;> simp [Quaternion.vec, Quaternion.of] <;> ring

/-- `case RampInPosition` writes an orientation, and `case RampInVelocity` moves it. -/
theorem orientation_rampInPosition {s : SoftRamp ℝ} (hoperation : s.operation = .rampInPosition)
    (output : CartesianGoal ℝ) (sampleTime t : ℝ) :
    s.orientation output sampleTime t =
      integrate (blendOrientation s.start.robotCartesian.pose.get.quaternion.get
          s.goal.robotCartesian.pose.get.quaternion.get (ramp s.duration t))
        ((s.storedAngularVelocity t).derivative output.pose.get.quaternion.get) sampleTime := by
  unfold orientation evaluateCartesian
  simp only [hoperation]
  rfl

theorem vec_orientation {s : SoftRamp ℝ} (hoperation : s.operation = .rampInPosition)
    (goal : Quaternion ℝ) (output : CartesianGoal ℝ) (sampleTime t : ℝ) :
    ((s.withOrientation goal).orientation output sampleTime t).vec =
      direction (direction (lerp (ramp s.duration t)
        s.start.robotCartesian.pose.get.quaternion.get.vec goal.vec) +
          s.move output sampleTime t) := by
  have hoperation' : (s.withOrientation goal).operation = .rampInPosition := hoperation
  rw [orientation_rampInPosition hoperation', vec_integrate, vec_blendOrientation]
  rfl

end SoftRamp

/-! ### Both interpolations -/

section both
variable {start goal : Quaternion ℝ} (hstart : dotProduct start start = 1)
  (hgoal : dotProduct goal goal = 1)

include hstart hgoal

theorem Slerp.signSafe_iff (s : Slerp ℝ) (c : Conditions ℝ) (output : CartesianGoal ℝ) (t : ℝ) :
    Quaternion.SignSafe (fun goal => s.orientation start goal c output t) goal ↔
      progress c.duration t = 0 ∨ progress c.duration t = 1 ∨
        goal.SameOrientation start ∧ progress c.duration t ≠ 1 / 2 ∨
        |dotProduct start goal| ≤ dotProductThreshold ∧ dotProduct start goal ≠ 0 := by
  obtain ⟨h0, h1⟩ := progress_mem c.duration t
  rw [Quaternion.signSafe_iff (fun q hq => s.vec_orientation hstart hq c output t) hgoal,
    slerp_signSafe_iff (Quaternion.norm_vec_unit hstart) (Quaternion.norm_vec_unit hgoal) ?_ ?_ h0 h1,
    Quaternion.inner_vec]
  · exact Iff.rfl
  · unfold dotProductThreshold
    norm_num
  · unfold dotProductThreshold
    norm_num

theorem SoftRamp.signSafe_iff {s : SoftRamp ℝ} (hoperation : s.operation = .rampInPosition)
    (hsoft : s.start.robotCartesian.pose.get.quaternion.get = start) (output : CartesianGoal ℝ)
    (sampleTime t : ℝ) :
    Quaternion.SignSafe (fun goal => (s.withOrientation goal).orientation output sampleTime t) goal ↔
      (s.move output sampleTime t = 0 → progress s.duration t = 0 ∨ progress s.duration t = 1 ∨
        goal.SameOrientation start ∧ progress s.duration t ≠ 1 / 2) ∧
      (s.move output sampleTime t ≠ 0 →
        Aligned (direction (lerp (ramp s.duration t) start.vec goal.vec))
          (direction (lerp (ramp s.duration t) start.vec (-goal.vec))) (s.move output sampleTime t)) := by
  obtain ⟨hzero, hone, hhalf⟩ := ramp_progress s.duration t
  have hsafe := Quaternion.signSafe_iff
    (F := fun y => direction (direction (lerp (ramp s.duration t) start.vec y) +
      s.move output sampleTime t))
    (fun q _ => (vec_orientation hoperation q output sampleTime t).trans (by rw [hsoft])) hgoal
  rw [hsafe]
  by_cases hmove : s.move output sampleTime t = 0
  · have hblend := lerp_signSafe_iff (r := ramp s.duration t) (Quaternion.norm_vec_unit hstart)
      (Quaternion.norm_vec_unit hgoal)
    simp only [hmove, add_zero, direction_direction, forall_const, ne_eq, not_true_eq_false,
      false_imp_iff, and_true]
    rw [hblend, hzero, hone, ne_eq, hhalf]
    exact Iff.rfl
  · simp only [hmove, false_imp_iff, true_and, ne_eq, not_false_eq_true, forall_const]
    exact moved_signSafe_iff

/-- **When both interpolations are sign safe.**  `Slerp`: at the ends, where the trigonometric branch
is taken and the dot product is not zero, and for `± start` off the middle.  `SoftRamp`: at the ends,
and for `± start` off the middle; where stored angular velocities move the orientation, when the
blends to the goal and to its opposite stay on one line. -/
theorem sign_safe_iff (slerp : Slerp ℝ) (c : Conditions ℝ) {soft : SoftRamp ℝ}
    (hoperation : soft.operation = .rampInPosition)
    (hsoft : soft.start.robotCartesian.pose.get.quaternion.get = start)
    (output output' : CartesianGoal ℝ) (sampleTime t : ℝ) :
    Quaternion.SignSafe (fun goal => slerp.orientation start goal c output t) goal ∧
        Quaternion.SignSafe
          (fun goal => (soft.withOrientation goal).orientation output' sampleTime t) goal ↔
      (progress c.duration t = 0 ∨ progress c.duration t = 1 ∨
        goal.SameOrientation start ∧ progress c.duration t ≠ 1 / 2 ∨
        |dotProduct start goal| ≤ Slerp.dotProductThreshold ∧ dotProduct start goal ≠ 0) ∧
      (soft.move output' sampleTime t = 0 →
        progress soft.duration t = 0 ∨ progress soft.duration t = 1 ∨
          goal.SameOrientation start ∧ progress soft.duration t ≠ 1 / 2) ∧
      (soft.move output' sampleTime t ≠ 0 →
        Aligned (direction (lerp (SoftRamp.ramp soft.duration t) start.vec goal.vec))
          (direction (lerp (SoftRamp.ramp soft.duration t) start.vec (-goal.vec)))
          (soft.move output' sampleTime t)) := by
  rw [Slerp.signSafe_iff hstart hgoal, SoftRamp.signSafe_iff hstart hgoal hoperation hsoft]

end both

/-! ### A goal opposite to the start -/

/-- A static position goal for an orientation, from the identity, in 2 s. -/
noncomputable def turning : SoftRamp ℝ :=
  let pose : CartesianPose ℝ := { quaternion := .present (.of 1 0 0 0) }
  let start : CartesianGoal ℝ := { pose := .present pose }
  { SoftRamp.init with
    duration := 2
    operation := .rampInPosition
    start := { robot := .present { cartesian := .present start } } }

theorem turning_move (t : ℝ) : turning.move {} (4 / 1000) t = 0 := by
  have hangular : turning.storedAngularVelocity t = .of 0 0 0 := by
    change Euler.of ((0 : ℝ) + _ * (0 - 0)) (0 + _ * (0 - 0)) (0 + _ * (0 - 0)) = _
    rw [sub_self, mul_zero, add_zero]
  unfold SoftRamp.move
  rw [hangular]
  ext i
  fin_cases i <;> simp [Quaternion.vec, Euler.derivative, Euler.of, Quaternion.of,
    Quaternion.multiply, Quaternion.multiplyFactor]

theorem sign_safe_end :
    Quaternion.SignSafe
        (fun goal => (Slerp.init : Slerp ℝ).orientation (.of 1 0 0 0) goal Slerp.halfTurn {} 2)
        (.of (3 / 5) (4 / 5) 0 0) ∧
      Quaternion.SignSafe (fun goal => (turning.withOrientation goal).orientation {} (4 / 1000) 2)
        (.of (3 / 5) (4 / 5) 0 0) := by
  have hend : progress 2 2 = 1 := (progress_eq_one_iff two_pos).mpr le_rfl
  have hstart : dotProduct (.of 1 0 0 0 : Quaternion ℝ) (.of 1 0 0 0) = 1 := by
    norm_num [dotProduct, Quaternion.of]
  have hgoal : dotProduct (.of (3 / 5) (4 / 5) 0 0 : Quaternion ℝ) (.of (3 / 5) (4 / 5) 0 0) = 1 := by
    norm_num [dotProduct, Quaternion.of]
  have hoperation : turning.operation = .rampInPosition := rfl
  have hturning : turning.start.robotCartesian.pose.get.quaternion.get = .of 1 0 0 0 := rfl
  exact (sign_safe_iff hstart hgoal Slerp.init Slerp.halfTurn hoperation hturning {} {} (4 / 1000)
    2).mpr ⟨.inr (.inl hend), fun _ => .inr (.inl hend), fun h => absurd (turning_move 2) h⟩

/-- Half way to the opposite quaternion, where the orientation is the same, both interpolations come
to the zero quaternion. -/
theorem sign_unsafe_opposite :
    ¬Quaternion.SignSafe
        (fun goal => (Slerp.init : Slerp ℝ).orientation (.of 1 0 0 0) goal Slerp.halfTurn {} 1)
        (.of (-1) 0 0 0) ∧
      ¬Quaternion.SignSafe (fun goal => (turning.withOrientation goal).orientation {} (4 / 1000) 1)
        (.of (-1) 0 0 0) := by
  have hmiddle : progress 2 1 = 1 / 2 := progress_of_mem two_pos zero_le_one one_le_two
  have hstart : dotProduct (.of 1 0 0 0 : Quaternion ℝ) (.of 1 0 0 0) = 1 := by
    norm_num [dotProduct, Quaternion.of]
  have hgoal : dotProduct (.of (-1) 0 0 0 : Quaternion ℝ) (.of (-1) 0 0 0) = 1 := by
    norm_num [dotProduct, Quaternion.of]
  have hdot : ¬|dotProduct (.of 1 0 0 0 : Quaternion ℝ) (.of (-1) 0 0 0)| ≤
      Slerp.dotProductThreshold := by
    norm_num [dotProduct, Quaternion.of, Slerp.dotProductThreshold]
  refine ⟨?_, ?_⟩
  · rw [Slerp.signSafe_iff hstart hgoal]
    change ¬(progress 2 1 = 0 ∨ progress 2 1 = 1 ∨ _ ∧ progress 2 1 ≠ 1 / 2 ∨ _)
    rw [hmiddle]
    norm_num [hdot]
  · rw [SoftRamp.signSafe_iff hstart hgoal (s := turning) rfl rfl]
    intro h
    have hcondition := h.1 (turning_move 1)
    change progress 2 1 = 0 ∨ progress 2 1 = 1 ∨ _ ∧ progress 2 1 ≠ 1 / 2 at hcondition
    rw [hmiddle] at hcondition
    norm_num at hcondition

end AbbWrapper
