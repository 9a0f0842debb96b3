import Mathlib.Analysis.Quaternion

/-! # The error between two orientations

A unit quaternion and its negative stand for one orientation.  The error between the orientations `q`
and `d` is the vector part of `d * star q`, with the one of `d` and `-d` that lies in the hemisphere
of `q`: it vanishes only where the orientations coincide (`error_eq_zero_iff`), and unless `d` is at
a right angle to `q` it does not depend on the signs of the two (`error_congr`).

* `Hamilton` are Mathlib's quaternions over the real numbers.
* `SameRotation` says that one is the other, up to the sign, and `hemisphere` is the sign that brings a
  quaternion into the hemisphere of another.

A step along the derivative of a quaternion under an angular velocity is at a right angle to it, so
that it never makes the quaternion shorter (`normSq_step`). -/

namespace UnitQuaternions

open scoped Quaternion

/-- Hamilton's quaternions over the reals. -/
abbrev Hamilton : Type := ℍ[ℝ]

variable {q q' d d' : Hamilton}

/-- One is the other, up to the sign. -/
def SameRotation (q q' : Hamilton) : Prop := q' = q ∨ q' = -q

theorem SameRotation.refl (q : Hamilton) : SameRotation q q := .inl rfl

theorem SameRotation.neg (q : Hamilton) : SameRotation q (-q) := .inr rfl

theorem SameRotation.trans {q'' : Hamilton} (h : SameRotation q q') (h' : SameRotation q' q'') :
    SameRotation q q'' := by
  rcases h with rfl | rfl
  · exact h'
  · rcases h' with rfl | rfl
    · exact .inr rfl
    · exact .inl (neg_neg q)

theorem SameRotation.symm (h : SameRotation q q') : SameRotation q' q := by
  rcases h with rfl | rfl
  · exact .inl rfl
  · exact .inr (neg_neg q).symm

theorem SameRotation.smul (h : SameRotation q q') (c : ℝ) : SameRotation (c • q) (c • q') := by
  rcases h with rfl | rfl
  · exact .inl rfl
  · exact .inr (smul_neg c q)

theorem SameRotation.normSq_eq (h : SameRotation q q') :
    Quaternion.normSq q' = Quaternion.normSq q := by
  rcases h with rfl | rfl
  · rfl
  · exact Quaternion.normSq_neg q

/-- `1`, or `-1` if `d` is in the other hemisphere. -/
noncomputable def hemisphere (q d : Hamilton) : ℤ := if inner ℝ q d < 0 then -1 else 1

noncomputable def error (q d : Hamilton) : Hamilton := (((hemisphere q d : ℤ) : ℝ) • d * star q).im

theorem sameRotation_hemisphere (q d : Hamilton) :
    SameRotation d (((hemisphere q d : ℤ) : ℝ) • d) := by
  unfold hemisphere
  split
  · right
    rw [Int.cast_neg, Int.cast_one, neg_one_smul]
  · left
    rw [Int.cast_one, one_smul]

/-- A quaternion without vector part is its real part. -/
theorem eq_coe_of_im_eq_zero (h : q.im = 0) : q = ((q.re : ℝ) : Hamilton) := by
  conv_lhs => rw [← Quaternion.re_add_im q, h, add_zero]

theorem im_mul_star_eq_zero_iff (hq : Quaternion.normSq q = 1) (hd : Quaternion.normSq d = 1) :
    (d * star q).im = 0 ↔ SameRotation q d := by
  constructor
  · intro h
    have hstar : star q * q = 1 := by rw [Quaternion.star_mul_self, hq, Quaternion.coe_one]
    have hd' : d = (((d * star q).re : ℝ) : Hamilton) * q := by
      rw [← eq_coe_of_im_eq_zero h, mul_assoc, hstar, mul_one]
    have hsquare : (d * star q).re ^ 2 = 1 := by
      have hnorm := congrArg Quaternion.normSq hd'
      rw [map_mul, hq, mul_one, hd, Quaternion.normSq_coe] at hnorm
      exact hnorm.symm
    rcases sq_eq_one_iff.mp hsquare with hone | hone
    · left
      rw [hd', hone, Quaternion.coe_one, one_mul]
    · right
      rw [hd', hone, Quaternion.coe_neg, Quaternion.coe_one, neg_one_mul]
  · have hself : (q * star q).im = 0 := by rw [Quaternion.self_mul_star, Quaternion.im_coe]
    rintro (rfl | rfl)
    · exact hself
    · rw [neg_mul, Quaternion.im_neg, hself, neg_zero]

/-- **No error exactly for the same orientation.** -/
theorem error_eq_zero_iff (hq : Quaternion.normSq q = 1) (hd : Quaternion.normSq d = 1) :
    error q d = 0 ↔ SameRotation q d := by
  have hrotation := sameRotation_hemisphere q d
  have hunit : Quaternion.normSq (((hemisphere q d : ℤ) : ℝ) • d) = 1 := by
    rw [hrotation.normSq_eq, hd]
  rw [error, im_mul_star_eq_zero_iff hq hunit]
  exact ⟨fun h => h.trans hrotation.symm, fun h => h.trans hrotation⟩

theorem hemisphere_neg_right (h : inner ℝ q d ≠ 0) : hemisphere q (-d) = -hemisphere q d := by
  unfold hemisphere
  simp only [inner_neg_right, neg_lt_zero]
  rcases lt_or_gt_of_ne h with hlt | hgt
  · rw [if_pos hlt, if_neg hlt.not_gt, neg_neg]
  · rw [if_pos hgt, if_neg hgt.not_gt]

theorem hemisphere_neg_left (h : inner ℝ q d ≠ 0) : hemisphere (-q) d = -hemisphere q d := by
  rw [← hemisphere_neg_right h]
  unfold hemisphere
  rw [inner_neg_left, inner_neg_right]

theorem error_neg_right (h : inner ℝ q d ≠ 0) : error q (-d) = error q d := by
  rw [error, hemisphere_neg_right h, Int.cast_neg, smul_neg, neg_smul, neg_neg]
  rfl

theorem error_neg_left (h : inner ℝ q d ≠ 0) : error (-q) d = error q d := by
  rw [error, hemisphere_neg_left h, Int.cast_neg, neg_smul, star_neg, mul_neg, neg_mul, neg_neg]
  rfl

/-- **Away from the right angle the signs do not matter.** -/
theorem error_congr (h : inner ℝ q d ≠ 0) (hq : SameRotation q q') (hd : SameRotation d d') :
    error q' d' = error q d := by
  rcases hq with rfl | rfl
  · rcases hd with rfl | rfl
    · rfl
    · exact error_neg_right h
  · have hneg : inner ℝ (-q) d ≠ 0 := by rwa [inner_neg_left, neg_ne_zero]
    rcases hd with rfl | rfl
    · exact error_neg_left h
    · rw [error_neg_right hneg, error_neg_left h]

/-! ### Steps under an angular velocity -/

/-- **A step along the derivative** multiplies the quaternion by one without an angular velocity, and
by more with it. -/
theorem normSq_step {ω : Hamilton} (hω : ω.re = 0) (q : Hamilton) (h : ℝ) :
    Quaternion.normSq (q + h • ((1 / 2 : ℝ) • (ω * q))) =
      Quaternion.normSq q * (1 + h ^ 2 * Quaternion.normSq ω / 4) := by
  have hfactor : q + h • ((1 / 2 : ℝ) • (ω * q)) = (1 + (h / 2) • ω) * q := by
    rw [add_mul, one_mul, smul_mul_assoc, smul_smul, mul_one_div]
  have hnorm : Quaternion.normSq (1 + (h / 2) • ω) = 1 + h ^ 2 * Quaternion.normSq ω / 4 := by
    simp only [Quaternion.normSq_def', Quaternion.re_add, Quaternion.imI_add, Quaternion.imJ_add,
      Quaternion.imK_add, Quaternion.re_smul, Quaternion.imI_smul, Quaternion.imJ_smul,
      Quaternion.imK_smul, Quaternion.re_one, Quaternion.imI_one, Quaternion.imJ_one,
      Quaternion.imK_one, smul_eq_mul, hω]
    ring
  rw [hfactor, map_mul, hnorm, mul_comm]

theorem normSq_step_ne_zero {ω q : Hamilton} (hω : ω.re = 0) (hq : q ≠ 0) (h : ℝ) :
    q + h • ((1 / 2 : ℝ) • (ω * q)) ≠ 0 := by
  rw [← Quaternion.normSq_ne_zero, normSq_step hω]
  have hnonneg : 0 ≤ Quaternion.normSq ω := Quaternion.normSq_nonneg
  exact mul_ne_zero (Quaternion.normSq_ne_zero.mpr hq) (by positivity)

end UnitQuaternions
