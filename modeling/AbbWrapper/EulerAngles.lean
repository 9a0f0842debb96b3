import AbbWrapper.ExactReals

/-! # Euler angles and quaternions

A quaternion is read as two complex numbers, `plus` and `minus`, of which the rotations about the
three axes change the arguments and the lengths.  Up to a common sign the two are known from their
lengths, their product and the product with a conjugate (`sameOrientation_of_products`), and these are
what `convert` takes its angles from.

* `ofAngles` is the quaternion of three angles in radians; `plus_ofAngles` and `minus_ofAngles` are its
  complex numbers.  Every conversion of Euler angles is such a quaternion, of length one
  (`Euler.convert_eq`).
* `singularity` is half of the sine of the second angle.  Where it is near one half, `convert` takes
  another branch, which puts the whole turn about one axis into one of the angles.
* `SameOrientation` says that two quaternions are equal or opposite.

Over the real numbers, the Euler angles of a unit quaternion convert back to the same orientation, in all
three branches (`euler_quaternion_faithful`). -/

namespace AbbWrapper

open Protobuf ComplexConjugate

namespace Quaternion

/-! ### Two complex numbers -/

noncomputable def plus (q : Quaternion ℝ) : ℂ := ⟨q.u0.val + q.u2.val, q.u1.val - q.u3.val⟩

noncomputable def minus (q : Quaternion ℝ) : ℂ := ⟨q.u0.val - q.u2.val, q.u1.val + q.u3.val⟩

/-- `u0 * u2 - u1 * u3`, half of the sine of the second angle. -/
def singularity (q : Quaternion ℝ) : ℝ := q.u0.val * q.u2.val - q.u1.val * q.u3.val

theorem vec_eq {q r : Quaternion ℝ} {c : ℝ} (hplus : plus q = c * plus r)
    (hminus : minus q = c * minus r) : q.vec = c • r.vec := by
  have hplusRe := congrArg Complex.re hplus
  have hplusIm := congrArg Complex.im hplus
  have hminusRe := congrArg Complex.re hminus
  have hminusIm := congrArg Complex.im hminus
  simp only [plus, minus, Complex.re_ofReal_mul, Complex.im_ofReal_mul] at *
  ext i
  fin_cases i <;> simp [vec] <;> linarith

theorem sameOrientation_of_products {q r : Quaternion ℝ} (hplus : plus r ≠ 0)
    (hminus : minus r ≠ 0) (hproduct : plus q * minus q = plus r * minus r)
    (hconj : conj (plus q) * minus q = conj (plus r) * minus r)
    (hnorm : Complex.normSq (minus q) = Complex.normSq (minus r)) : q.SameOrientation r := by
  have hsquare : plus q ^ 2 = plus r ^ 2 := by
    have hcancel : (Complex.normSq (minus r) : ℂ) ≠ 0 := by
      exact_mod_cast Complex.normSq_eq_zero.not.mpr hminus
    apply mul_right_cancel₀ hcancel
    calc plus q ^ 2 * (Complex.normSq (minus r) : ℂ)
        = plus q * minus q * conj (conj (plus q) * minus q) := by
          rw [← hnorm, Complex.normSq_eq_conj_mul_self, map_mul, Complex.conj_conj]
          ring
      _ = plus r * minus r * conj (conj (plus r) * minus r) := by rw [hproduct, hconj]
      _ = plus r ^ 2 * (Complex.normSq (minus r) : ℂ) := by
          rw [Complex.normSq_eq_conj_mul_self, map_mul, Complex.conj_conj]
          ring
  rcases sq_eq_sq_iff_eq_or_eq_neg.mp hsquare with h | h
  · left
    have hm : minus q = minus r := mul_left_cancel₀ hplus (by rw [← h, hproduct, h])
    have hvec : q.vec = (1 : ℝ) • r.vec := vec_eq (by rw [h, Complex.ofReal_one, one_mul])
      (by rw [hm, Complex.ofReal_one, one_mul])
    rwa [one_smul] at hvec
  · right
    have hm : minus q = -minus r := by
      apply mul_left_cancel₀ (neg_ne_zero.mpr hplus)
      rw [← h, hproduct, h]
      ring
    have hvec : q.vec = (-1 : ℝ) • r.vec := vec_eq (by rw [h]; push_cast; ring)
      (by rw [hm]; push_cast; ring)
    rwa [neg_one_smul] at hvec

section unit
variable {q : Quaternion ℝ} (hq : dotProduct q q = 1)

include hq

theorem normSq_plus : Complex.normSq (plus q) = 1 + 2 * q.singularity := by
  rw [← hq]
  simp only [Complex.normSq_apply, plus, singularity, dotProduct]
  ring

theorem normSq_minus : Complex.normSq (minus q) = 1 - 2 * q.singularity := by
  rw [← hq]
  simp only [Complex.normSq_apply, minus, singularity, dotProduct]
  ring

/-- The arguments of the first arctangent. -/
theorem plus_mul_minus : plus q * minus q =
    ⟨1 - 2 * (q.u1.val * q.u1.val + q.u2.val * q.u2.val),
      2 * (q.u0.val * q.u1.val + q.u2.val * q.u3.val)⟩ := by
  unfold dotProduct at hq
  apply Complex.ext
  · simp only [plus, minus, Complex.mul_re]
    linear_combination hq
  · simp only [plus, minus, Complex.mul_im]
    ring

/-- The arguments of the second arctangent. -/
theorem conj_plus_mul_minus : conj (plus q) * minus q =
    ⟨1 - 2 * (q.u2.val * q.u2.val + q.u3.val * q.u3.val),
      2 * (q.u0.val * q.u3.val + q.u1.val * q.u2.val)⟩ := by
  unfold dotProduct at hq
  apply Complex.ext
  · simp only [plus, minus, Complex.mul_re, Complex.conj_re, Complex.conj_im]
    linear_combination hq
  · simp only [plus, minus, Complex.mul_im, Complex.conj_re, Complex.conj_im]
    ring

end unit

/-! ### Half angles -/

/-- The quaternion of three angles in radians. -/
noncomputable def ofAngles (x y z : ℝ) : Quaternion ℝ :=
  .of (Real.sin (x / 2) * Real.sin (y / 2) * Real.sin (z / 2) +
      Real.cos (x / 2) * Real.cos (y / 2) * Real.cos (z / 2))
    (-Real.cos (x / 2) * Real.sin (y / 2) * Real.sin (z / 2) +
      Real.sin (x / 2) * Real.cos (y / 2) * Real.cos (z / 2))
    (Real.sin (x / 2) * Real.cos (y / 2) * Real.sin (z / 2) +
      Real.cos (x / 2) * Real.sin (y / 2) * Real.cos (z / 2))
    (Real.cos (x / 2) * Real.cos (y / 2) * Real.sin (z / 2) -
      Real.sin (x / 2) * Real.sin (y / 2) * Real.cos (z / 2))

theorem ofAngles_unit (x y z : ℝ) : dotProduct (ofAngles x y z) (ofAngles x y z) = 1 := by
  have hx := Real.sin_sq_add_cos_sq (x / 2)
  have hy := Real.sin_sq_add_cos_sq (y / 2)
  have hz := Real.sin_sq_add_cos_sq (z / 2)
  have hproduct : dotProduct (ofAngles x y z) (ofAngles x y z) =
      (Real.sin (x / 2) ^ 2 + Real.cos (x / 2) ^ 2) *
        (Real.sin (y / 2) ^ 2 + Real.cos (y / 2) ^ 2) *
        (Real.sin (z / 2) ^ 2 + Real.cos (z / 2) ^ 2) := by
    simp only [dotProduct, ofAngles, Quaternion.of, Optional.val_present]
    ring
  rw [hproduct, hx, hy, hz]
  norm_num

theorem polar (ρ a : ℝ) : (ρ : ℂ) * Complex.exp (a * Complex.I) =
    ⟨ρ * Real.cos a, ρ * Real.sin a⟩ := by
  apply Complex.ext
  · rw [Complex.re_ofReal_mul, Complex.exp_ofReal_mul_I_re]
  · rw [Complex.im_ofReal_mul, Complex.exp_ofReal_mul_I_im]

theorem plus_ofAngles (x y z : ℝ) : plus (ofAngles x y z) =
    (Real.cos (y / 2) + Real.sin (y / 2) : ℝ) * Complex.exp ((x / 2 - z / 2 : ℝ) * Complex.I) := by
  rw [polar, Real.cos_sub, Real.sin_sub]
  apply Complex.ext
  · simp only [plus, ofAngles, Quaternion.of, Optional.val_present]
    ring
  · simp only [plus, ofAngles, Quaternion.of, Optional.val_present]
    ring

theorem minus_ofAngles (x y z : ℝ) : minus (ofAngles x y z) =
    (Real.cos (y / 2) - Real.sin (y / 2) : ℝ) * Complex.exp ((x / 2 + z / 2 : ℝ) * Complex.I) := by
  rw [polar, Real.cos_add, Real.sin_add]
  apply Complex.ext
  · simp only [minus, ofAngles, Quaternion.of, Optional.val_present]
    ring
  · simp only [minus, ofAngles, Quaternion.of, Optional.val_present]
    ring

theorem singularity_ofAngles (x y z : ℝ) :
    (ofAngles x y z).singularity = Real.sin y / 2 := by
  have hplus := normSq_plus (ofAngles_unit x y z)
  have hdouble : Real.sin y = 2 * Real.sin (y / 2) * Real.cos (y / 2) := by
    rw [← Real.sin_two_mul]
    congr 1
    ring
  have hsquares := Real.sin_sq_add_cos_sq (y / 2)
  rw [plus_ofAngles, Complex.normSq_mul, Complex.normSq_ofReal, Complex.normSq_eq_norm_sq,
    Complex.norm_exp_ofReal_mul_I] at hplus
  linear_combination hsquares / 2 - hdouble / 2 - hplus / 2

/-- The product has the first angle as its argument. -/
theorem plus_mul_minus_ofAngles (x y z : ℝ) : plus (ofAngles x y z) * minus (ofAngles x y z) =
    (Real.cos y : ℝ) * Complex.exp (x * Complex.I) := by
  have hcos : (Real.cos (y / 2) + Real.sin (y / 2)) * (Real.cos (y / 2) - Real.sin (y / 2)) =
      Real.cos y := by
    have hdouble := Real.cos_sq' (y / 2)
    have htwo := Real.cos_two_mul (y / 2)
    have hsquares := Real.sin_sq_add_cos_sq (y / 2)
    rw [mul_div_cancel₀ y two_ne_zero] at htwo
    linear_combination -htwo - hsquares
  rw [plus_ofAngles, minus_ofAngles, mul_mul_mul_comm, ← Complex.ofReal_mul, hcos, ← Complex.exp_add]
  congr 2
  push_cast
  ring

/-- The product with the conjugate has the last angle as its argument. -/
theorem conj_plus_mul_minus_ofAngles (x y z : ℝ) :
    conj (plus (ofAngles x y z)) * minus (ofAngles x y z) =
      (Real.cos y : ℝ) * Complex.exp (z * Complex.I) := by
  have hmul := plus_mul_minus_ofAngles z y x
  have hminus : minus (ofAngles z y x) = minus (ofAngles x y z) := by
    rw [minus_ofAngles, minus_ofAngles, add_comm]
  have hplus : plus (ofAngles z y x) = conj (plus (ofAngles x y z)) := by
    rw [plus_ofAngles, plus_ofAngles, map_mul, Complex.conj_ofReal, ← Complex.exp_conj, map_mul,
      Complex.conj_ofReal, Complex.conj_I, mul_neg, ← neg_mul, ← Complex.ofReal_neg, neg_sub]
  rw [← hplus, ← hminus, hmul]

end Quaternion

/-! ### The conversions -/

/-- **Every conversion of Euler angles is a unit quaternion.** -/
theorem Euler.convert_eq (e : Euler ℝ) : e.convert =
    Quaternion.ofAngles (e.x.val * Constants.degToRad ℝ) (e.y.val * Constants.degToRad ℝ)
      (e.z.val * Constants.degToRad ℝ) := by
  have hunit := Quaternion.ofAngles_unit (e.x.val * Constants.degToRad ℝ)
    (e.y.val * Constants.degToRad ℝ) (e.z.val * Constants.degToRad ℝ)
  have hnormalized := normalize_unit hunit
  unfold Euler.convert
  simp only [cmath_cos, cmath_sin, one_div, inv_mul_eq_div]
  exact hnormalized

/-- Degrees and radians cancel. -/
theorem Euler.convert_degrees (x y z : ℝ) :
    (Euler.of (x * Constants.radToDeg ℝ) (y * Constants.radToDeg ℝ)
      (z * Constants.radToDeg ℝ)).convert = Quaternion.ofAngles x y z := by
  have hcancel (a : ℝ) : a * Constants.radToDeg ℝ * Constants.degToRad ℝ = a := by
    have hpi := Real.pi_ne_zero
    unfold Constants.radToDeg Constants.degToRad
    rw [cmath_pi]
    field_simp
  rw [Euler.convert_eq]
  simp only [Euler.of, Optional.val_present, hcancel]

namespace Quaternion
variable {q : Quaternion ℝ} (hq : dotProduct q q = 1) (target : Euler ℝ)

include hq

theorem euclideanNorm_unit : euclideanNorm q ≠ 0 := by
  unfold euclideanNorm
  rw [hq, cmath_sqrt, Real.sqrt_one]
  exact one_ne_zero

/-- The three branches. -/
theorem convert_convert : (q.convert target).convert =
    if |q.singularity - 1 / 2| ≤ 1 / 1000000 then
      ofAngles (2 * Complex.arg ⟨q.u0.val, q.u1.val⟩) (Real.pi / 2) 0
    else if |q.singularity + 1 / 2| ≤ 1 / 1000000 then
      ofAngles (2 * Complex.arg ⟨q.u0.val, q.u1.val⟩) (-(Real.pi / 2)) 0
    else ofAngles (Complex.arg (plus q * minus q)) (Real.arcsin (2 * q.singularity))
      (Complex.arg (conj (plus q) * minus q)) := by
  rw [plus_mul_minus hq, conj_plus_mul_minus hq]
  unfold Quaternion.convert
  simp only [euclideanNorm_unit hq, ne_eq, not_false_eq_true, if_true]
  change (if |q.singularity - 1 / 2| ≤ _ then _ else
    if |q.singularity + 1 / 2| ≤ _ then _ else _ : Euler ℝ).convert = _
  split
  · exact Euler.convert_degrees _ _ _
  · split
    · exact Euler.convert_degrees _ _ _
    · exact Euler.convert_degrees _ _ _

/-! ### Back to the quaternion -/

omit hq in
/-- A complex number of length `√2`, from the argument of its half. -/
theorem sqrt_two_mul_exp {z : ℂ} {a b : ℝ} (hz : z = ⟨2 * a, 2 * b⟩) (hnorm : Complex.normSq z = 2) :
    (√2 : ℝ) * Complex.exp (Complex.arg ⟨a, b⟩ * Complex.I) = z := by
  have hdouble : z = (2 : ℝ) * ⟨a, b⟩ := by
    rw [hz]
    apply Complex.ext
    · rw [Complex.re_ofReal_mul]
    · rw [Complex.im_ofReal_mul]
  have harg : Complex.arg z = Complex.arg ⟨a, b⟩ := by
    rw [hdouble, Complex.arg_real_mul _ two_pos]
  have hlength : ‖z‖ = √2 := by rw [Complex.norm_def, hnorm]
  rw [← harg, ← hlength, Complex.norm_mul_exp_arg_mul_I]

theorem back_upper (h : q.singularity = 1 / 2) :
    (ofAngles (2 * Complex.arg ⟨q.u0.val, q.u1.val⟩) (Real.pi / 2) 0).SameOrientation q := by
  have hzero : minus q = 0 := by
    rw [← Complex.normSq_eq_zero, normSq_minus hq, h]
    norm_num
  have hu0 : q.u0.val - q.u2.val = 0 := congrArg Complex.re hzero
  have hu1 : q.u1.val + q.u3.val = 0 := congrArg Complex.im hzero
  have hplus : plus q = ⟨2 * q.u0.val, 2 * q.u1.val⟩ := by
    apply Complex.ext
    · simp only [plus]
      linarith
    · simp only [plus]
      linarith
  have hlength : Complex.normSq (plus q) = 2 := by
    rw [normSq_plus hq, h]
    norm_num
  have hquarter : Real.pi / 2 / 2 = Real.pi / 4 := by ring
  left
  have hvec := vec_eq (q := ofAngles (2 * Complex.arg ⟨q.u0.val, q.u1.val⟩) (Real.pi / 2) 0)
    (r := q) (c := 1) ?_ ?_
  · rwa [one_smul] at hvec
  · rw [plus_ofAngles, hquarter, Real.cos_pi_div_four, Real.sin_pi_div_four, add_halves, zero_div,
      sub_zero, mul_div_cancel_left₀ _ two_ne_zero, sqrt_two_mul_exp hplus hlength,
      Complex.ofReal_one, one_mul]
  · rw [minus_ofAngles, hquarter, Real.cos_pi_div_four, Real.sin_pi_div_four, sub_self, hzero,
      Complex.ofReal_zero, zero_mul, mul_zero]

theorem back_lower (h : q.singularity = -(1 / 2)) :
    (ofAngles (2 * Complex.arg ⟨q.u0.val, q.u1.val⟩) (-(Real.pi / 2)) 0).SameOrientation q := by
  have hzero : plus q = 0 := by
    rw [← Complex.normSq_eq_zero, normSq_plus hq, h]
    norm_num
  have hu0 : q.u0.val + q.u2.val = 0 := congrArg Complex.re hzero
  have hu1 : q.u1.val - q.u3.val = 0 := congrArg Complex.im hzero
  have hminus : minus q = ⟨2 * q.u0.val, 2 * q.u1.val⟩ := by
    apply Complex.ext
    · simp only [minus]
      linarith
    · simp only [minus]
      linarith
  have hlength : Complex.normSq (minus q) = 2 := by
    rw [normSq_minus hq, h]
    norm_num
  have hquarter : -(Real.pi / 2) / 2 = -(Real.pi / 4) := by ring
  left
  have hvec := vec_eq (q := ofAngles (2 * Complex.arg ⟨q.u0.val, q.u1.val⟩) (-(Real.pi / 2)) 0)
    (r := q) (c := 1) ?_ ?_
  · rwa [one_smul] at hvec
  · rw [plus_ofAngles, hquarter, Real.cos_neg, Real.sin_neg, Real.cos_pi_div_four,
      Real.sin_pi_div_four, add_neg_cancel, hzero, Complex.ofReal_zero, zero_mul, mul_zero]
  · rw [minus_ofAngles, hquarter, Real.cos_neg, Real.sin_neg, Real.cos_pi_div_four,
      Real.sin_pi_div_four, sub_neg_eq_add, add_halves, zero_div, add_zero,
      mul_div_cancel_left₀ _ two_ne_zero, sqrt_two_mul_exp hminus hlength, Complex.ofReal_one,
      one_mul]

theorem abs_singularity_le : |2 * q.singularity| ≤ 1 := by
  have hplus := Complex.normSq_nonneg (plus q)
  have hminus := Complex.normSq_nonneg (minus q)
  rw [normSq_plus hq] at hplus
  rw [normSq_minus hq] at hminus
  rw [abs_le]
  exact ⟨by linarith, by linarith⟩

theorem back_regular (hplus : q.singularity ≠ 1 / 2) (hminus : q.singularity ≠ -(1 / 2)) :
    (ofAngles (Complex.arg (plus q * minus q)) (Real.arcsin (2 * q.singularity))
      (Complex.arg (conj (plus q) * minus q))).SameOrientation q := by
  obtain ⟨hlower, hupper⟩ := abs_le.mp (abs_singularity_le hq)
  have hcos (z : ℂ) (hz : Complex.normSq z = Complex.normSq (plus q) * Complex.normSq (minus q)) :
      (Real.cos (Real.arcsin (2 * q.singularity)) : ℂ) * Complex.exp (Complex.arg z * Complex.I) =
        z := by
    have hlength : ‖z‖ = Real.cos (Real.arcsin (2 * q.singularity)) := by
      rw [Complex.norm_def, hz, normSq_plus hq, normSq_minus hq, Real.cos_arcsin]
      congr 1
      ring
    rw [← hlength, Complex.norm_mul_exp_arg_mul_I]
  apply sameOrientation_of_products
  · rw [ne_eq, ← Complex.normSq_eq_zero, normSq_plus hq]
    intro h
    exact hminus (by linarith)
  · rw [ne_eq, ← Complex.normSq_eq_zero, normSq_minus hq]
    intro h
    exact hplus (by linarith)
  · rw [plus_mul_minus_ofAngles]
    exact hcos _ (Complex.normSq_mul _ _)
  · rw [conj_plus_mul_minus_ofAngles]
    refine hcos _ ?_
    rw [Complex.normSq_mul, Complex.normSq_conj]
  · rw [normSq_minus (ofAngles_unit _ _ _), singularity_ofAngles, Real.sin_arcsin hlower hupper,
      normSq_minus hq]
    ring

end Quaternion

/-- **Euler angles and quaternions convert faithfully.** -/
theorem euler_quaternion_faithful : (∀ e : Euler ℝ, dotProduct e.convert e.convert = 1) ∧
    ∀ (q : Quaternion ℝ) (target : Euler ℝ), dotProduct q q = 1 →
      (1 / 1000000 < |q.singularity - 1 / 2| ∧ 1 / 1000000 < |q.singularity + 1 / 2| ∨
        q.singularity = 1 / 2 ∨ q.singularity = -(1 / 2)) →
      (q.convert target).convert.SameOrientation q := by
  refine ⟨?_, ?_⟩
  · intro e
    rw [Euler.convert_eq]
    exact Quaternion.ofAngles_unit _ _ _
  · rintro q target hq (⟨hplus, hminus⟩ | h | h)
    · rw [Quaternion.convert_convert hq, if_neg (not_le.mpr hplus), if_neg (not_le.mpr hminus)]
      apply Quaternion.back_regular hq
      · intro h
        rw [h] at hplus
        norm_num at hplus
      · intro h
        rw [h] at hminus
        norm_num at hminus
    · rw [Quaternion.convert_convert hq, if_pos (by rw [h]; norm_num)]
      exact Quaternion.back_upper hq h
    · rw [Quaternion.convert_convert hq, if_neg (by rw [h]; norm_num), if_pos (by rw [h]; norm_num)]
      exact Quaternion.back_lower hq h

/-- A quarter turn about the y axis, where the singular branch is taken. -/
theorem euler_quaternion_quarterTurn :
    ((Quaternion.of (√2 / 2) 0 (√2 / 2) 0 : Quaternion ℝ).convert {}).convert.SameOrientation
      (.of (√2 / 2) 0 (√2 / 2) 0) := by
  have hhalf : √2 / 2 * (√2 / 2) = 1 / (2 : ℝ) := by
    have hsquare : √2 * √2 = (2 : ℝ) := Real.mul_self_sqrt zero_le_two
    linear_combination hsquare / 4
  refine euler_quaternion_faithful.2 _ {} ?_ (.inr (.inl ?_))
  · simp only [dotProduct, Quaternion.of, Optional.val_present, hhalf]
    norm_num
  · simp only [Quaternion.singularity, Quaternion.of, Optional.val_present, hhalf]
    norm_num

end AbbWrapper
