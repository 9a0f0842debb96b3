import Mathlib.Analysis.SpecialFunctions.Trigonometric.Basic
import AbbWrapper.BoundaryConditions
import AbbWrapper.ExactReals

/-! # The ramp to a static position goal

`case RampInPosition` writes positions and velocities that belong together: the ramp factor and its
derivative (`SoftRamp.hasDerivAt_ramp`).  It has no `break`, so that `case RampInVelocity` replaces
the velocities and moves the positions once more.

* `ramp` is the factor of the positions, from `0` to `1`.
* `ramped` is what `SoftRamp::evaluate` makes of a coordinate, and `staticSample` what both cases of the
  switch make of it.
* `Reached` says that the loop over the velocities comes to the coordinate, and `storedVelocity` is what it
  blends from those stored in start and goal.

What is left of the ramp in position is in `SoftRamp.static_position_iff`, coordinate by coordinate.
With a stored velocity the joint is past its goal at the end, and moves on
(`static_position_overrun`). -/

namespace AbbWrapper

open Protobuf

namespace SoftRamp

/-! ### The ramp factor -/

/-- From 0 at the start to 1 after the duration `d`. -/
noncomputable def ramp (d t : ℝ) : ℝ := rampInFactor (progress d t)

theorem rampInFactor_eq (x : ℝ) : rampInFactor x = (1 - Real.cos (Real.pi * x)) / 2 := by
  unfold rampInFactor
  rw [cmath_cos, cmath_pi, Real.cos_add_pi]
  ring

theorem dRampInFactor_eq (s : SoftRamp ℝ) (x : ℝ) :
    s.dRampInFactor x = Real.pi / (2 * s.duration) * Real.sin (Real.pi * x) := by
  unfold dRampInFactor
  rw [cmath_sin, cmath_pi, Real.sin_add_pi]
  ring

theorem hasDerivAt_rampInFactor (x : ℝ) :
    HasDerivAt rampInFactor (Real.pi / 2 * Real.sin (Real.pi * x)) x := by
  have hcos : HasDerivAt (fun x : ℝ => Real.cos (Real.pi * x))
      (-Real.sin (Real.pi * x) * (Real.pi * 1)) x := ((hasDerivAt_id x).const_mul Real.pi).cos
  rw [show (rampInFactor : ℝ → ℝ) = fun x => (1 - Real.cos (Real.pi * x)) / 2 from
    funext rampInFactor_eq]
  refine ((hcos.const_sub 1).div_const 2).congr_deriv ?_
  ring

/-- **The factor for the velocities is the derivative of the factor for the positions.** -/
theorem hasDerivAt_ramp (s : SoftRamp ℝ) (t : ℝ) :
    HasDerivAt (ramp s.duration) (s.dRampInFactor (progress s.duration t)) t := by
  have hends : Real.pi / 2 * Real.sin (Real.pi * 0) = 0 ∧
      Real.pi / 2 * Real.sin (Real.pi * 1) = 0 := by simp
  have hsaturated := hasDerivAt_saturate hasDerivAt_rampInFactor hends.1 hends.2 (t / s.duration)
  have hscaled := hsaturated.comp t ((hasDerivAt_id t).div_const s.duration)
  refine hscaled.congr_deriv ?_
  rw [dRampInFactor_eq, progress]
  ring

theorem deriv_ramp (s : SoftRamp ℝ) (t : ℝ) :
    deriv (ramp s.duration) t = s.dRampInFactor (progress s.duration t) :=
  (s.hasDerivAt_ramp t).deriv

section duration
variable {d t : ℝ} (hd : 0 < d)

include hd

theorem ramp_end (ht : d ≤ t) : ramp d t = 1 := by
  rw [ramp, (progress_eq_one_iff hd).mpr ht, rampInFactor_eq, mul_one, Real.cos_pi]
  norm_num

/-- The ramp is at rest outside of its duration only. -/
theorem deriv_ramp_eq_zero_iff : deriv (ramp d) t = 0 ↔ t ≤ 0 ∨ d ≤ t := by
  have hderiv := deriv_ramp { (init : SoftRamp ℝ) with duration := d } t
  rw [dRampInFactor_eq] at hderiv
  change deriv (ramp d) t = Real.pi / (2 * d) * Real.sin (Real.pi * progress d t) at hderiv
  have hfactor : Real.pi / (2 * d) ≠ 0 := (div_pos Real.pi_pos (by linarith)).ne'
  rw [hderiv, mul_eq_zero_iff_left hfactor, ← progress_eq_zero_iff hd, ← progress_eq_one_iff hd]
  obtain ⟨h0, h1⟩ := progress_mem d t
  constructor
  · intro hsin
    by_contra hneither
    rw [not_or] at hneither
    have hpos : 0 < progress d t := lt_of_le_of_ne h0 (Ne.symm hneither.1)
    have hlt : progress d t < 1 := lt_of_le_of_ne h1 hneither.2
    have hsinpos := Real.sin_pos_of_pos_of_lt_pi (mul_pos Real.pi_pos hpos)
      (by nlinarith [Real.pi_pos])
    exact hsinpos.ne' hsin
  · rintro (h | h) <;> rw [h] <;> simp

end duration

/-! ### The two cases of the switch -/

section cases
variable {α : Type}

theorem loopBound_lt {output : JointGoal α} {start goal : Joints α} {i : ℕ}
    (hi : i < loopBound output start goal) : i < output.position.get.valuesSize ∧
      i < output.velocity.get.valuesSize ∧ i < output.acceleration.get.valuesSize := by
  unfold loopBound at hi
  omega

variable [Field α] (output : JointGoal α) (start goal : Joints α) (i : ℕ)

theorem sample_rampInPosition (ramp dRamp : α) (hi : i < loopBound output start goal) :
    (rampInPosition output start goal ramp dRamp).sample i =
      ⟨start.value i + ramp * (goal.value i - start.value i),
        dRamp * (goal.value i - start.value i), 0⟩ := by
  obtain ⟨hposition, hvelocity, hacceleration⟩ := loopBound_lt hi
  unfold JointGoal.sample rampInPosition
  simp only [Optional.get_modify]
  rw [Joints.value_update _ _ _ hposition, Joints.value_update _ _ _ hvelocity,
    Joints.value_update _ _ _ hacceleration, if_pos hi, if_pos hi, if_pos hi]

theorem sample_rampInVelocity (sampleTime ramp : α) :
    (rampInVelocity output start goal sampleTime ramp).sample i =
      if i < loopBound output start goal then
        let v := start.value i + ramp * (goal.value i - start.value i)
        ⟨(output.sample i).position + sampleTime * v, v, 0⟩
      else output.sample i := by
  unfold JointGoal.sample rampInVelocity
  simp only [Optional.get_modify]
  by_cases hi : i < loopBound output start goal
  · obtain ⟨hposition, hvelocity, hacceleration⟩ := loopBound_lt hi
    rw [if_pos hi, Joints.value_update _ _ _ hposition, Joints.value_update _ _ _ hvelocity,
      Joints.value_update _ _ _ hacceleration, if_pos hi, if_pos hi, if_pos hi]
  · have hle := not_lt.mp hi
    rw [if_neg hi, Joints.value_update_of_le _ _ hle, Joints.value_update_of_le _ _ hle,
      Joints.value_update_of_le _ _ hle]

theorem loopBound_rampInPosition (start' goal' : Joints α) (ramp dRamp : α) :
    loopBound (rampInPosition output start goal ramp dRamp) start' goal' =
      loopBound output start' goal' := by
  unfold loopBound rampInPosition
  simp only [Optional.get_modify, Joints.valuesSize_update]

end cases

end SoftRamp

/-! ### Static position goals -/

namespace Coordinate

/-- What `SoftRamp::evaluate` makes of a coordinate. -/
def ramped {α : Type} [Field α] [LinearOrder α] [Cmath α] (s : SoftRamp α) (output : PointGoal α)
    (sampleTime t : α) : Coordinate → Sample α
  | robot i => (s.evaluateJoints output.robotJoints PointGoal.robotJoints sampleTime t).sample i
  | axis a => (s.evaluateCartesian output.robotCartesian sampleTime t).sample a
  | external i =>
      (s.evaluateJoints output.externalJoints PointGoal.externalJoints sampleTime t).sample i

/-- The loop over the joints reaches the coordinate; `values` are those of the case. -/
def Reached {α : Type} (s : SoftRamp α) (output : PointGoal α) (values : JointGoal α → Joints α) :
    Coordinate → Prop
  | robot i => i < SoftRamp.loopBound output.robotJoints (values s.start.robotJoints)
      (values s.goal.robotJoints)
  | axis _ => True
  | external i => i < SoftRamp.loopBound output.externalJoints (values s.start.externalJoints)
      (values s.goal.externalJoints)

end Coordinate

namespace SoftRamp
variable {s : SoftRamp ℝ} (output : PointGoal ℝ) (sampleTime t : ℝ)

/-- The velocity that `case RampInVelocity` blends from those stored in start and goal. -/
noncomputable def storedVelocity (s : SoftRamp ℝ) (k : Coordinate) (t : ℝ) : ℝ :=
  (k.sample s.start).velocity +
    ramp s.duration t * ((k.sample s.goal).velocity - (k.sample s.start).velocity)

/-- The position and the velocity of the ramp to a static position goal. -/
noncomputable def staticSample (s : SoftRamp ℝ) (k : Coordinate) (t : ℝ) : Sample ℝ where
  position := (k.sample s.start).position +
    ramp s.duration t * ((k.sample s.goal).position - (k.sample s.start).position)
  velocity := deriv (ramp s.duration) t *
    ((k.sample s.goal).position - (k.sample s.start).position)
  acceleration := 0

/-- Both cases of the switch on a joint. -/
theorem sample_evaluateJoints (hoperation : s.operation = .rampInPosition) (output : JointGoal ℝ)
    (joints : PointGoal ℝ → JointGoal ℝ) {i : ℕ}
    (hi : i < loopBound output (joints s.start).position.get (joints s.goal).position.get) :
    let position := ((joints s.start).sample i).position + ramp s.duration t *
      (((joints s.goal).sample i).position - ((joints s.start).sample i).position)
    let stored := ((joints s.start).sample i).velocity + ramp s.duration t *
      (((joints s.goal).sample i).velocity - ((joints s.start).sample i).velocity)
    (s.evaluateJoints output joints sampleTime t).sample i =
      if i < loopBound output (joints s.start).velocity.get (joints s.goal).velocity.get then
        ⟨position + sampleTime * stored, stored, 0⟩
      else ⟨position, deriv (ramp s.duration) t *
        (((joints s.goal).sample i).position - ((joints s.start).sample i).position), 0⟩ := by
  intro position stored
  have hevaluate : s.evaluateJoints output joints sampleTime t =
      rampInVelocity (rampInPosition output (joints s.start).position.get
        (joints s.goal).position.get (ramp s.duration t)
        (s.dRampInFactor (progress s.duration t))) (joints s.start).velocity.get
        (joints s.goal).velocity.get sampleTime (ramp s.duration t) := by
    unfold evaluateJoints
    simp only [hoperation]
    rfl
  rw [hevaluate, sample_rampInVelocity, loopBound_rampInPosition, sample_rampInPosition _ _ _ _ _ _ hi,
    deriv_ramp]
  rfl

/-- Both cases of the switch on a coordinate. -/
theorem ramped_eq (hoperation : s.operation = .rampInPosition) {k : Coordinate}
    (hk : k.Reached s output fun joints => joints.position.get) :
    (k.Reached s output (fun joints => joints.velocity.get) → k.ramped s output sampleTime t =
      ⟨(s.staticSample k t).position + sampleTime * s.storedVelocity k t, s.storedVelocity k t, 0⟩) ∧
    (¬k.Reached s output (fun joints => joints.velocity.get) →
      k.ramped s output sampleTime t = s.staticSample k t) := by
  cases k with
  | robot i =>
      have h := sample_evaluateJoints sampleTime t hoperation output.robotJoints
        PointGoal.robotJoints hk
      refine ⟨fun hv => h.trans (if_pos hv), fun hv => h.trans (if_neg hv)⟩
  | axis a =>
      refine ⟨fun _ => ?_, fun hv => absurd trivial hv⟩
      have hevaluate : s.evaluateCartesian output.robotCartesian sampleTime t =
          s.rampInVelocityCartesian (s.rampInPositionCartesian (output.robotCartesian.modifyPose id)
            output.robotCartesian.pose.get.quaternion.get sampleTime (ramp s.duration t)
            (s.dRampInFactor (progress s.duration t)))
            output.robotCartesian.pose.get.quaternion.get sampleTime (ramp s.duration t) := by
        unfold evaluateCartesian
        simp only [hoperation]
        rfl
      change CartesianGoal.sample _ a = _
      rw [hevaluate]
      cases a <;> rfl
  | external i =>
      have h := sample_evaluateJoints sampleTime t hoperation output.externalJoints
        PointGoal.externalJoints hk
      refine ⟨fun hv => h.trans (if_pos hv), fun hv => h.trans (if_neg hv)⟩

/-- **A static position goal ramps position only if** the loop over the velocities leaves the
coordinate out, or the velocities stored in start and goal blend to zero while the ramp is at rest;
without time between two samples, they may also blend to the velocity of the ramp. -/
theorem static_position_iff (hoperation : s.operation = .rampInPosition) (hd : 0 < s.duration)
    {k : Coordinate} (hk : k.Reached s output fun joints => joints.position.get) :
    (k.ramped s output sampleTime t).position = (s.staticSample k t).position ∧
        (k.ramped s output sampleTime t).velocity = (s.staticSample k t).velocity ↔
      ¬k.Reached s output (fun joints => joints.velocity.get) ∨
        s.storedVelocity k t = 0 ∧
          (t ≤ 0 ∨ s.duration ≤ t ∨ (k.sample s.start).position = (k.sample s.goal).position) ∨
        sampleTime = 0 ∧ s.storedVelocity k t = (s.staticSample k t).velocity := by
  obtain ⟨hreached, hleft⟩ := ramped_eq output sampleTime t hoperation hk
  have hrest : (s.staticSample k t).velocity = 0 ↔
      t ≤ 0 ∨ s.duration ≤ t ∨ (k.sample s.start).position = (k.sample s.goal).position := by
    unfold staticSample
    rw [mul_eq_zero, deriv_ramp_eq_zero_iff hd, sub_eq_zero, or_assoc, eq_comm (a := _)]
  by_cases hv : k.Reached s output fun joints => joints.velocity.get
  · rw [hreached hv]
    simp only [add_eq_left, mul_eq_zero, hv, not_true_eq_false, false_or]
    constructor
    · rintro ⟨hsampleTime | hstored, hvelocity⟩
      · exact .inr ⟨hsampleTime, hvelocity⟩
      · exact .inl ⟨hstored, hrest.mp (hvelocity.symm.trans hstored)⟩
    · rintro (⟨hstored, h⟩ | ⟨hsampleTime, hvelocity⟩)
      · exact ⟨.inr hstored, hstored.trans (hrest.mpr h).symm⟩
      · exact ⟨.inl hsampleTime, hvelocity⟩
  · rw [hleft hv]
    exact ⟨fun _ => .inl hv, fun _ => ⟨rfl, rfl⟩⟩

/-- From 0 to 10 degrees in 2 s, with a velocity stored in start and goal. -/
noncomputable def staticRamp (velocity : ℝ) : SoftRamp ℝ :=
  ⟨2, .rampInPosition, sevenJoints 0 velocity 0, {}, sevenJoints 10 velocity 0⟩

theorem staticRamp_end (velocity : ℝ) :
    (staticRamp velocity).staticSample (.robot 0) 2 = ⟨10, 0, 0⟩ ∧
      (staticRamp velocity).storedVelocity (.robot 0) 2 = velocity := by
  have hramp : ramp 2 2 = 1 := ramp_end (by norm_num) le_rfl
  have hrest : deriv (ramp 2) 2 = 0 := (deriv_ramp_eq_zero_iff (by norm_num)).mpr (.inr le_rfl)
  refine ⟨?_, ?_⟩
  · change Sample.mk ((0 : ℝ) + ramp 2 2 * (10 - 0)) (deriv (ramp 2) 2 * (10 - 0)) 0 = _
    rw [hramp, hrest]
    norm_num
  · change velocity + ramp 2 2 * (velocity - velocity) = velocity
    ring

/-- Without stored velocities the joint stops at its goal. -/
theorem static_position_stops :
    ((Coordinate.robot 0).ramped (staticRamp 0) (sevenJoints 0 0 0) (4 / 1000) 2).position = 10 ∧
      ((Coordinate.robot 0).ramped (staticRamp 0) (sevenJoints 0 0 0) (4 / 1000) 2).velocity = 0 := by
  have hreached : (Coordinate.robot 0).Reached (staticRamp 0) (sevenJoints 0 0 0)
      fun joints => joints.position.get := Nat.succ_pos 5
  have h := (static_position_iff (s := staticRamp 0) (sevenJoints 0 0 0) (4 / 1000) 2 rfl
    (by norm_num [staticRamp]) hreached).mpr (.inr (.inl ⟨(staticRamp_end 0).2, .inr (.inl le_rfl)⟩))
  rwa [(staticRamp_end 0).1] at h

/-- With 5 degrees per second stored in start and goal, the joint is past its goal at the end of the
ramp, and moves on. -/
theorem static_position_overrun :
    ((Coordinate.robot 0).ramped (staticRamp 5) (sevenJoints 0 5 0) (4 / 1000) 2).position =
        10 + 2 / 100 ∧
      ((Coordinate.robot 0).ramped (staticRamp 5) (sevenJoints 0 5 0) (4 / 1000) 2).velocity = 5 ∧
      (staticRamp 5).staticSample (.robot 0) 2 = ⟨10, 0, 0⟩ := by
  have hreached : (Coordinate.robot 0).Reached (staticRamp 5) (sevenJoints 0 5 0)
      fun joints => joints.position.get := Nat.succ_pos 5
  have h := (ramped_eq (s := staticRamp 5) (sevenJoints 0 5 0) (4 / 1000) 2 rfl hreached).1
    (Nat.succ_pos 5)
  rw [(staticRamp_end 5).1, (staticRamp_end 5).2] at h
  rw [h]
  refine ⟨?_, rfl, (staticRamp_end 5).1⟩
  norm_num

end SoftRamp

end AbbWrapper
