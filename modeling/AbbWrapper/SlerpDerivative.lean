import AbbWrapper.ExactReals

/-! # The angular velocity of a spherical interpolation

`Slerp::evaluate` combines the two quaternions with the coefficients `a` and `b`, and takes the
derivative of the quaternion with `c` and `d` (`Slerp.evaluate_eq`).

* `Coefficients` are these four numbers, and `coefficients` those of a time.
* Inside of the interval nothing is saturated, so that the derivatives can be taken of the formulas
  (`progress_eventuallyEq`).

In the trigonometric branch `c` and `d` are the derivatives with respect to the time, in the linear
branch those with respect to the progress: the division by the duration is missing
(`Slerp.derivative_iff`).  For a goal at the start, over 2 s, they are twice too large
(`derivative_doubled`). -/

namespace AbbWrapper

open Protobuf

namespace Slerp

/-- The coefficients of the quaternion, `a` and `b`, and of its derivative, `c` and `d`. -/
structure Coefficients (α : Type) where
  a : α
  b : α
  c : α
  d : α

section coefficients
variable {α : Type} [Field α] [LinearOrder α] [Cmath α]

def coefficients (s : Slerp α) (t : α) : Coefficients α :=
  let k := 1 / Cmath.sin s.omega
  let t := saturate (t / s.duration) 0 1
  if s.useLinear then ⟨1 - t, t, -1, 1⟩
  else
    { a := k * Cmath.sin ((1 - t) * s.omega)
      b := k * Cmath.sin (t * s.omega)
      c := -s.omega * k * Cmath.cos ((1 - t) * s.omega) / s.duration
      d := s.omega * k * Cmath.cos (t * s.omega) / s.duration }

omit [LinearOrder α] [Cmath α] in
/-- A combination of two quaternions. -/
def combine (a b : α) (q0 q1 : Quaternion α) : Quaternion α :=
  .of (a * q0.u0.val + b * q1.u0.val) (a * q0.u1.val + b * q1.u1.val)
    (a * q0.u2.val + b * q1.u2.val) (a * q0.u3.val + b * q1.u3.val)

/-- The evaluation is by these coefficients. -/
theorem evaluate_eq (s : Slerp α) (output : CartesianGoal α) (t : α) :
    s.evaluate output t =
      (let k := s.coefficients t
      let q := normalize (combine k.a k.b s.q0 s.q1)
      let dQ := combine k.c k.d s.q0 s.q1
      let multQ := dQ.multiply (.of q.u0.val (-q.u1.val) (-q.u2.val) (-q.u3.val))
      output.modifyPose fun pose => { pose with
        quaternion := .present q
        euler := .present (.of (2 * multQ.u1.val * Constants.radToDeg α)
          (2 * multQ.u2.val * Constants.radToDeg α) (2 * multQ.u3.val * Constants.radToDeg α)) }) := by
  unfold evaluate coefficients
  cases s.useLinear <;> rfl

end coefficients

/-! ### The derivatives of the coefficients -/

section derivative
variable {s : Slerp ℝ} {t : ℝ} (ht0 : 0 < t) (ht : t < s.duration)

include ht0 ht

/-- Nothing is saturated inside of the interval. -/
theorem progress_eventuallyEq :
    (fun u => saturate (u / s.duration) 0 1) =ᶠ[nhds t] fun u => u / s.duration := by
  filter_upwards [Ioo_mem_nhds ht0 ht] with u hu
  exact progress_of_mem (ht0.trans ht) hu.1.le hu.2.le

theorem hasDerivAt_progress :
    HasDerivAt (fun u => saturate (u / s.duration) 0 1) (1 / s.duration) t :=
  ((hasDerivAt_id t).div_const s.duration).congr_of_eventuallyEq (progress_eventuallyEq ht0 ht)

theorem hasDerivAt_linear (hlinear : s.useLinear = true) :
    HasDerivAt (fun u => (s.coefficients u).a) (-(1 / s.duration)) t ∧
      HasDerivAt (fun u => (s.coefficients u).b) (1 / s.duration) t := by
  have hprogress := hasDerivAt_progress ht0 ht
  unfold coefficients
  simp only [hlinear, if_true]
  refine ⟨?_, hprogress⟩
  exact hprogress.const_sub 1

theorem hasDerivAt_trigonometric (hlinear : s.useLinear = false) :
    HasDerivAt (fun u => (s.coefficients u).a) (s.coefficients t).c t ∧
      HasDerivAt (fun u => (s.coefficients u).b) (s.coefficients t).d t := by
  have hprogress := hasDerivAt_progress ht0 ht
  unfold coefficients
  simp only [hlinear, Bool.false_eq_true, if_false, cmath_sin, cmath_cos]
  refine ⟨?_, ?_⟩
  · have hangle := (hprogress.const_sub 1).mul_const s.omega
    refine (hangle.sin.const_mul (1 / Real.sin s.omega)).congr_deriv ?_
    ring
  · have hangle := hprogress.mul_const s.omega
    refine (hangle.sin.const_mul (1 / Real.sin s.omega)).congr_deriv ?_
    ring

end derivative

theorem update_useLinear {α : Type} [Field α] [LinearOrder α] [Cmath α] (s : Slerp α)
    (start goal : Quaternion α) (c : Conditions α) : (s.update start goal c).useLinear =
      decide (dotProductThreshold < |dotProduct (normalize start) (normalize goal)|) ∧
    (s.update start goal c).duration = c.duration := by
  unfold update
  simp only
  split
  · exact ⟨rfl, rfl⟩
  · split <;> exact ⟨rfl, rfl⟩

/-- **The coefficients belong together only if** the trigonometric branch is taken, or the duration
is one second. -/
theorem derivative_iff (s : Slerp ℝ) (start goal : Quaternion ℝ) {c : Conditions ℝ} {t : ℝ}
    (hduration : 0 < c.duration) (ht0 : 0 < t) (ht : t < c.duration) :
    HasDerivAt (fun u => ((s.update start goal c).coefficients u).a)
          ((s.update start goal c).coefficients t).c t ∧
        HasDerivAt (fun u => ((s.update start goal c).coefficients u).b)
          ((s.update start goal c).coefficients t).d t ↔
      |dotProduct (normalize start) (normalize goal)| ≤ dotProductThreshold ∨ c.duration = 1 := by
  obtain ⟨huse, hd⟩ := s.update_useLinear start goal c
  rw [← hd] at ht hduration ⊢
  generalize s.update start goal c = r at *
  by_cases hlinear : dotProductThreshold < |dotProduct (normalize start) (normalize goal)|
  · have hbranch : r.useLinear = true := by rw [huse, decide_eq_true hlinear]
    obtain ⟨ha, hb⟩ := hasDerivAt_linear ht0 ht hbranch
    have hc : (r.coefficients t).c = -1 ∧ (r.coefficients t).d = 1 := by
      unfold coefficients
      simp only [hbranch, if_true, and_self]
    rw [hc.1, hc.2, or_iff_right (not_le.mpr hlinear)]
    constructor
    · rintro ⟨-, h⟩
      have hone := hb.unique h
      rwa [div_eq_one_iff_eq hduration.ne', eq_comm] at hone
    · intro hone
      rw [hone] at ha hb
      rw [div_one] at ha hb
      exact ⟨ha, hb⟩
  · have hbranch : r.useLinear = false := by rw [huse, decide_eq_false hlinear]
    refine ⟨fun _ => .inl (not_lt.mp hlinear), fun _ => ?_⟩
    exact hasDerivAt_trigonometric ht0 ht hbranch

/-- A half turn about the x axis, in 2 s. -/
def halfTurn : Conditions ℝ := ⟨2, .egmPose, .normal, 0, .quintic⟩

theorem derivative_halfTurn :
    HasDerivAt (fun u => (((init : Slerp ℝ).update (.of 1 0 0 0) (.of 0 1 0 0)
        halfTurn).coefficients u).a)
      (((init : Slerp ℝ).update (.of 1 0 0 0) (.of 0 1 0 0) halfTurn).coefficients 1).c 1 := by
  have hdot : dotProduct (normalize (.of 1 0 0 0 : Quaternion ℝ)) (normalize (.of 0 1 0 0)) = 0 := by
    rw [normalize_unit (by simp [dotProduct, Quaternion.of]),
      normalize_unit (by simp [dotProduct, Quaternion.of])]
    simp [dotProduct, Quaternion.of]
  refine ((derivative_iff init (.of 1 0 0 0) (.of 0 1 0 0) (c := halfTurn) (t := 1)
    (by norm_num [halfTurn]) one_pos (by norm_num [halfTurn])).mpr (.inl ?_)).1
  rw [hdot, abs_zero, dotProductThreshold]
  norm_num

/-- For a goal at the start, over 2 s, the derivatives are twice too large. -/
theorem derivative_doubled :
    HasDerivAt (fun u => (((init : Slerp ℝ).update (.of 1 0 0 0) (.of 1 0 0 0)
        halfTurn).coefficients u).b) (1 / 2) 1 ∧
      (((init : Slerp ℝ).update (.of 1 0 0 0) (.of 1 0 0 0) halfTurn).coefficients 1).d = 1 ∧
      ¬HasDerivAt (fun u => (((init : Slerp ℝ).update (.of 1 0 0 0) (.of 1 0 0 0)
        halfTurn).coefficients u).b) 1 1 := by
  obtain ⟨huse, hd⟩ := (init : Slerp ℝ).update_useLinear (.of 1 0 0 0) (.of 1 0 0 0) halfTurn
  have hlinear : dotProductThreshold < |dotProduct (normalize (.of 1 0 0 0 : Quaternion ℝ))
      (normalize (.of 1 0 0 0))| := by
    rw [normalize_unit (by simp [dotProduct, Quaternion.of])]
    norm_num [dotProduct, Quaternion.of, dotProductThreshold]
  rw [decide_eq_true hlinear] at huse
  generalize (init : Slerp ℝ).update (.of 1 0 0 0) (.of 1 0 0 0) halfTurn = r at *
  have htwo : r.duration = 2 := hd
  obtain ⟨-, hb⟩ := hasDerivAt_linear (s := r) (t := 1) one_pos (by rw [htwo]; norm_num) huse
  rw [htwo] at hb
  refine ⟨hb, ?_, ?_⟩
  · unfold coefficients
    simp only [huse, if_true]
  · intro hone
    have h := hb.unique hone
    norm_num at h

end Slerp

end AbbWrapper
