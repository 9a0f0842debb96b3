import Mathlib.Analysis.Calculus.Deriv.Comp
import Mathlib.Analysis.InnerProductSpace.PiL2
import Mathlib.Analysis.SpecialFunctions.Trigonometric.Deriv
import AbbWrapper.CompleteStop

/-! # Over the real numbers

What holds over the real numbers, where the functions of `<cmath>` are those of analysis.

* `progress` is `saturate (t / duration) 0 1`, the progress of an interpolation.  A function that is at
  rest at both ends of the unit interval goes on with its end values, so that it may be differentiated
  along with the progress (`hasDerivAt_saturate`).
* `Quaternion.vec` is a quaternion as a vector of the Euclidean space, with the dot product of the source
  as its inner product and `euclideanNorm` as its norm.
* `SameOrientation` says that two quaternions are equal or opposite.
* Quaternions that have been normalized are of length one, unless they are zero.
* The laws `ExactCmath`, which proofs over an ordered field presuppose, hold here. -/

namespace AbbWrapper

open Protobuf

section cmath
variable (x y : ℝ)

@[simp] theorem cmath_pi : (Cmath.pi : ℝ) = Real.pi := rfl
@[simp] theorem cmath_sqrt : Cmath.sqrt x = √x := rfl
@[simp] theorem cmath_sin : Cmath.sin x = Real.sin x := rfl
@[simp] theorem cmath_cos : Cmath.cos x = Real.cos x := rfl
@[simp] theorem cmath_asin : Cmath.asin x = Real.arcsin x := rfl
@[simp] theorem cmath_acos : Cmath.acos x = Real.arccos x := rfl
@[simp] theorem cmath_atan2 : Cmath.atan2 y x = Complex.arg ⟨x, y⟩ := rfl

end cmath

/-! ### Saturation to the unit interval -/

section saturate
variable {α : Type} [LinearOrder α]

theorem saturate_eq {lower upper : α} (h : lower ≤ upper) (x : α) :
    saturate x lower upper = max lower (min x upper) := by
  unfold saturate
  by_cases hlower : x < lower
  · rw [if_pos hlower, min_eq_left (hlower.le.trans h), max_eq_left hlower.le]
  · rw [if_neg hlower]
    by_cases hupper : upper < x
    · rw [if_pos hupper, min_eq_right hupper.le, max_eq_right h]
    · rw [if_neg hupper, min_eq_left (not_lt.mp hupper), max_eq_right (not_lt.mp hlower)]

end saturate

/-- The progress of an interpolation. -/
noncomputable def progress (d t : ℝ) : ℝ := saturate (t / d) 0 1

theorem progress_eq (d t : ℝ) : progress d t = max 0 (min (t / d) 1) := saturate_eq zero_le_one _

theorem progress_mem (d t : ℝ) : 0 ≤ progress d t ∧ progress d t ≤ 1 := by
  rw [progress_eq]
  exact ⟨le_max_left _ _, max_le zero_le_one (min_le_right _ _)⟩

section duration
variable {d t : ℝ} (hd : 0 < d)

include hd

theorem progress_eq_zero_iff : progress d t = 0 ↔ t ≤ 0 := by
  rw [progress_eq, max_eq_left_iff, min_le_iff, div_le_iff₀ hd, zero_mul]
  exact or_iff_left (by norm_num)

theorem progress_eq_one_iff : progress d t = 1 ↔ d ≤ t := by
  have hmax : max 0 (min (t / d) 1) = 1 ↔ 1 ≤ t / d := by
    constructor
    · intro h
      by_contra hlt
      rw [not_le] at hlt
      rw [min_eq_left hlt.le] at h
      rcases max_choice 0 (t / d) with hmax | hmax <;> rw [hmax] at h <;> linarith
    · intro h
      rw [min_eq_right h, max_eq_right zero_le_one]
  rw [progress_eq, hmax, one_le_div hd]

theorem progress_of_mem (h0 : 0 ≤ t) (h1 : t ≤ d) : progress d t = t / d := by
  rw [progress_eq, min_eq_left ((div_le_one hd).mpr h1), max_eq_right (div_nonneg h0 hd.le)]

end duration

theorem abs_saturate_sub_le (x y : ℝ) : |saturate x 0 1 - saturate y 0 1| ≤ |x - y| := by
  rw [saturate_eq zero_le_one, saturate_eq zero_le_one]
  refine (abs_max_sub_max_le_max _ _ _ _).trans (max_le (by simp) ?_)
  exact (abs_min_sub_min_le_max _ _ _ _).trans (max_le le_rfl (by simp))

theorem continuous_saturate : Continuous fun x : ℝ => saturate x 0 1 := by
  simp only [saturate_eq (zero_le_one' ℝ)]
  fun_prop

/-- A function that is at rest at both ends of the unit interval goes on with its end values. -/
theorem hasDerivAt_saturate {g g' : ℝ → ℝ} (hg : ∀ x, HasDerivAt g (g' x) x) (h0 : g' 0 = 0)
    (h1 : g' 1 = 0) (x : ℝ) :
    HasDerivAt (fun x => g (saturate x 0 1)) (g' (saturate x 0 1)) x := by
  by_cases hinside : 0 < x ∧ x < 1
  · -- nothing is saturated close to `x`
    have hmem {y : ℝ} (hy : y ∈ Set.Ioo (0 : ℝ) 1) : saturate y 0 1 = y := by
      rw [saturate_eq zero_le_one, min_eq_left hy.2.le, max_eq_right hy.1.le]
    rw [hmem hinside]
    refine (hg x).congr_of_eventuallyEq ?_
    filter_upwards [Ioo_mem_nhds hinside.1 hinside.2] with y hy
    rw [hmem hy]
  · -- the derivative is zero, and the saturated argument moves less than `x`
    have hzero : g' (saturate x 0 1) = 0 := by
      rw [saturate_eq zero_le_one]
      rcases le_or_gt x 0 with hx | hx
      · rw [min_eq_left (hx.trans zero_le_one), max_eq_left hx, h0]
      · have hx1 : 1 ≤ x := not_lt.mp fun h => hinside ⟨hx, h⟩
        rw [min_eq_right hx1, max_eq_right zero_le_one, h1]
    have hlittle := (hg (saturate x 0 1)).isLittleO
    rw [hzero] at hlittle
    rw [hzero, hasDerivAt_iff_isLittleO]
    simp only [smul_zero, sub_zero] at hlittle ⊢
    have htendsto : Filter.Tendsto (fun y : ℝ => saturate y 0 1) (nhds x)
        (nhds (saturate x 0 1)) := continuous_saturate.tendsto x
    refine (hlittle.comp_tendsto htendsto).trans_isBigO ?_
    refine Asymptotics.IsBigO.of_bound 1 (Filter.Eventually.of_forall fun y => ?_)
    rw [one_mul]
    exact abs_saturate_sub_le y x

/-! ### Quaternions as vectors -/

namespace Quaternion

noncomputable def vec (q : Quaternion ℝ) : EuclideanSpace ℝ (Fin 4) :=
  !₂[q.u0.val, q.u1.val, q.u2.val, q.u3.val]

/-- `q` and `-q` are the same rotation. -/
def SameOrientation (q r : Quaternion ℝ) : Prop := q.vec = r.vec ∨ q.vec = -r.vec

theorem inner_vec (q r : Quaternion ℝ) : inner ℝ q.vec r.vec = dotProduct q r := by
  simp [vec, dotProduct, PiLp.inner_apply, Fin.sum_univ_four]
  ring

theorem norm_vec (q : Quaternion ℝ) : ‖q.vec‖ = euclideanNorm q := by
  rw [norm_eq_sqrt_real_inner, inner_vec]
  rfl

theorem norm_vec_eq_one_iff (q : Quaternion ℝ) : ‖q.vec‖ = 1 ↔ dotProduct q q = 1 := by
  rw [norm_vec, euclideanNorm, cmath_sqrt, Real.sqrt_eq_one]

theorem vec_normalize (q : Quaternion ℝ) : (normalize q).vec = ‖q.vec‖⁻¹ • q.vec := by
  rw [norm_vec]
  unfold normalize
  by_cases hnorm : euclideanNorm q = 0
  · have hzero : q.vec = 0 := by rwa [← norm_eq_zero, norm_vec]
    rw [if_neg (not_not.mpr hnorm), hzero, smul_zero]
  · rw [if_pos hnorm]
    ext i
    fin_cases i <;> simp [vec, Quaternion.of, div_eq_inv_mul]

end Quaternion

theorem normalize_unit {q : Quaternion ℝ} (hq : dotProduct q q = 1) :
    normalize q = .of q.u0.val q.u1.val q.u2.val q.u3.val := by
  have hnorm : euclideanNorm q = 1 := by
    unfold euclideanNorm
    rw [hq, cmath_sqrt, Real.sqrt_one]
  unfold normalize
  simp only [hnorm, div_one, ne_eq, one_ne_zero, not_false_eq_true, if_true]

end AbbWrapper
