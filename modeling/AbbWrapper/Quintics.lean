import Mathlib

/-! # Polynomials of degree five

Over a field, the way that such a polynomial goes between two points is a mean of five of its slopes with
positive weights (`value_sub_value`).  So it goes in the direction of its slopes, and no farther than they
allow, in any ordered field (`value_sub_value_mul_nonneg`, `abs_value_sub_le`).

* `Coefficients` are the six coefficients, from the constant on; `value`, `slope` and `curvature` are
  the polynomial and its derivatives, written out.
* `mean` is Boole's rule, which is exact up to degree five: no integral is needed, and nothing here is
  about real numbers in particular. -/

namespace Quintic

variable {𝕜 : Type*} [Field 𝕜]

/-- The coefficients, from the constant on. -/
structure Coefficients (𝕜 : Type*) where
  a : 𝕜
  b : 𝕜
  c : 𝕜
  d : 𝕜
  e : 𝕜
  f : 𝕜

variable (p : Coefficients 𝕜) (s t : 𝕜)

def value : 𝕜 := p.a + p.b * t + p.c * t ^ 2 + p.d * t ^ 3 + p.e * t ^ 4 + p.f * t ^ 5

def slope : 𝕜 := p.b + 2 * p.c * t + 3 * p.d * t ^ 2 + 4 * p.e * t ^ 3 + 5 * p.f * t ^ 4

def curvature : 𝕜 := 2 * p.c + 6 * p.d * t + 12 * p.e * t ^ 2 + 20 * p.f * t ^ 3

/-- The mean of a function at five points of an interval (Boole's rule). -/
def mean (g : 𝕜 → 𝕜) : 𝕜 :=
  (7 * g s + 32 * g (s + (t - s) / 4) + 12 * g (s + (t - s) / 2) + 32 * g (t - (t - s) / 4) +
    7 * g t) / 90

/-- **The way between two points is the mean of the slopes.** -/
theorem value_sub_value [CharZero 𝕜] : value p t - value p s = (t - s) * mean s t (slope p) := by
  unfold value mean slope
  field_simp
  ring

section order
variable [LinearOrder 𝕜] [IsStrictOrderedRing 𝕜] {p s t} {g : 𝕜 → 𝕜} {lower upper : 𝕜}

theorem le_mean (hst : s ≤ t) (h : ∀ u, s ≤ u → u ≤ t → lower ≤ g u) : lower ≤ mean s t g := by
  have hs := h s le_rfl hst
  have ht := h t hst le_rfl
  have hquarter := h (s + (t - s) / 4) (by linarith) (by linarith)
  have hhalf := h (s + (t - s) / 2) (by linarith) (by linarith)
  have hrest := h (t - (t - s) / 4) (by linarith) (by linarith)
  unfold mean
  linarith

theorem mean_le (hst : s ≤ t) (h : ∀ u, s ≤ u → u ≤ t → g u ≤ upper) : mean s t g ≤ upper := by
  have hs := h s le_rfl hst
  have ht := h t hst le_rfl
  have hquarter := h (s + (t - s) / 4) (by linarith) (by linarith)
  have hhalf := h (s + (t - s) / 2) (by linarith) (by linarith)
  have hrest := h (t - (t - s) / 4) (by linarith) (by linarith)
  unfold mean
  linarith

theorem value_sub_value_mul_nonneg {k : 𝕜} (hst : s ≤ t)
    (h : ∀ u, s ≤ u → u ≤ t → 0 ≤ slope p u * k) : 0 ≤ (value p t - value p s) * k := by
  have hmean : mean s t (slope p) * k = mean s t fun u => slope p u * k := by
    unfold mean
    ring
  rw [value_sub_value, mul_assoc, hmean]
  exact mul_nonneg (sub_nonneg.mpr hst) (le_mean hst h)

theorem abs_value_sub_le (hst : s ≤ t) (h : ∀ u, s ≤ u → u ≤ t → |slope p u| ≤ upper) :
    |value p t - value p s| ≤ upper * (t - s) := by
  have hmean : |mean s t (slope p)| ≤ upper := by
    rw [abs_le]
    exact ⟨le_mean hst fun u hu hu' => (abs_le.mp (h u hu hu')).1,
      mean_le hst fun u hu hu' => (abs_le.mp (h u hu hu')).2⟩
  rw [value_sub_value, abs_mul, abs_of_nonneg (sub_nonneg.mpr hst), mul_comm]
  exact mul_le_mul_of_nonneg_right hmean (sub_nonneg.mpr hst)

end order

end Quintic

namespace Quintic

variable (p : Coefficients ℝ) (t : ℝ)

theorem hasDerivAt_value : HasDerivAt (value p) (slope p t) t := by
  have hpow (n : ℕ) : HasDerivAt (fun x : ℝ => x ^ n) (n * t ^ (n - 1)) t := hasDerivAt_pow n t
  have h := (((((hasDerivAt_const t p.a).add ((hasDerivAt_id t).const_mul p.b)).add
    ((hpow 2).const_mul p.c)).add ((hpow 3).const_mul p.d)).add ((hpow 4).const_mul p.e)).add
    ((hpow 5).const_mul p.f)
  refine h.congr_deriv ?_
  unfold slope
  norm_num
  ring

theorem hasDerivAt_slope : HasDerivAt (slope p) (curvature p t) t := by
  have hpow (n : ℕ) : HasDerivAt (fun x : ℝ => x ^ n) (n * t ^ (n - 1)) t := hasDerivAt_pow n t
  have h := ((((hasDerivAt_const t p.b).add ((hasDerivAt_id t).const_mul (2 * p.c))).add
    ((hpow 2).const_mul (3 * p.d))).add ((hpow 3).const_mul (4 * p.e))).add
    ((hpow 4).const_mul (5 * p.f))
  refine h.congr_deriv ?_
  unfold curvature
  norm_num
  ring

end Quintic
