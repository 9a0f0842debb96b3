import Mathlib.Analysis.InnerProductSpace.Basic
import Mathlib.Analysis.SpecialFunctions.Trigonometric.Inverse

/-! # Interpolation between directions

Unit vectors of a real inner product space, up to the sign: two vectors with the same line stand for
one orientation.  An interpolation from `x` is sign safe at `y` when it yields a unit vector, and one
on the same line for `-y`.

* `direction` is the unit vector along a vector, and `SameLine` says that two are equal up to the sign.
* `lerp` is on the straight line between two vectors, `arc` on the great circle, and `slerp` chooses one of
  them by a threshold, as implementations do.
* `Aligned` is about a blend that is moved by another vector afterwards: the blends to the goal and to its
  opposite stay on one line.

Blends between the vectors themselves are sign safe at their ends only (`lerp_signSafe_iff`, and
`moved_signSafe_iff` for one that is moved); the spherical interpolation that turns the goal round first,
so that the inner product is not negative, is sign safe wherever there is a shorter way
(`slerp_signSafe_iff`). -/

namespace Spherical

variable {V : Type*} [NormedAddCommGroup V] [InnerProductSpace ℝ V]

/-! ### Directions -/

/-- The unit vector along `v`; the zero vector is left as it is. -/
noncomputable def direction (v : V) : V := ‖v‖⁻¹ • v

@[simp] theorem direction_zero : direction (0 : V) = 0 := smul_zero _

@[simp] theorem direction_neg (v : V) : direction (-v) = -direction v := by
  unfold direction
  rw [norm_neg, smul_neg]

theorem direction_of_norm {v : V} (hv : ‖v‖ = 1) : direction v = v := by
  unfold direction
  rw [hv, inv_one, one_smul]

theorem norm_direction {v : V} (hv : v ≠ 0) : ‖direction v‖ = 1 := by
  unfold direction
  rw [norm_smul, norm_inv, norm_norm, inv_mul_cancel₀ (norm_ne_zero_iff.mpr hv)]

theorem norm_direction_eq_one_iff {v : V} : ‖direction v‖ = 1 ↔ v ≠ 0 := by
  refine ⟨?_, norm_direction⟩
  rintro h rfl
  rw [direction_zero, norm_zero] at h
  exact zero_ne_one h

theorem direction_ne_zero {v : V} (hv : v ≠ 0) : direction v ≠ 0 := by
  intro h
  have hone := norm_direction hv
  rw [h, norm_zero] at hone
  exact zero_ne_one hone

theorem direction_smul_of_pos {c : ℝ} (hc : 0 < c) (v : V) : direction (c • v) = direction v := by
  unfold direction
  rw [norm_smul, Real.norm_of_nonneg hc.le, mul_inv, smul_smul, mul_assoc, mul_comm (‖v‖⁻¹),
    ← mul_assoc, inv_mul_cancel₀ hc.ne', one_mul]

/-- The same line through the origin. -/
def SameLine (u v : V) : Prop := u = v ∨ u = -v

theorem sameLine_direction_smul {c : ℝ} (hc : c ≠ 0) (v : V) :
    SameLine (direction (c • v)) (direction v) := by
  rcases hc.lt_or_gt with hneg | hpos
  · right
    rw [show c • v = -(-c • v) by rw [neg_smul, neg_neg], direction_neg,
      direction_smul_of_pos (neg_pos.mpr hneg)]
  · exact .inl (direction_smul_of_pos hpos v)

theorem sameLine_direction_iff {u v : V} (hu : u ≠ 0) :
    SameLine (direction v) (direction u) ↔ v ≠ 0 ∧ ∃ c : ℝ, v = c • u := by
  constructor
  · intro h
    have hunit : ‖direction v‖ = 1 := by
      rcases h with h | h
      · rw [h, norm_direction hu]
      · rw [h, norm_neg, norm_direction hu]
    have hv : v ≠ 0 := norm_direction_eq_one_iff.mp hunit
    refine ⟨hv, ?_⟩
    have hback : v = ‖v‖ • direction v := by
      unfold direction
      rw [smul_smul, mul_inv_cancel₀ (norm_ne_zero_iff.mpr hv), one_smul]
    rcases h with h | h
    · refine ⟨‖v‖ * ‖u‖⁻¹, hback.trans ?_⟩
      rw [h, direction, smul_smul]
    · refine ⟨-(‖v‖ * ‖u‖⁻¹), hback.trans ?_⟩
      rw [h, direction, smul_neg, smul_smul, neg_smul]
  · rintro ⟨hv, c, rfl⟩
    exact sameLine_direction_smul (fun hc => hv (by rw [hc, zero_smul])) u

/-- An interpolation `f` to `y` yields a unit vector, and the same line for the opposite goal. -/
def SignSafe (f : V → V) (y : V) : Prop := ‖f y‖ = 1 ∧ SameLine (f (-y)) (f y)

theorem signSafe_direction_iff {g : V → V} {y : V} :
    SignSafe (fun y => direction (g y)) y ↔ g y ≠ 0 ∧ g (-y) ≠ 0 ∧ ∃ c : ℝ, g (-y) = c • g y := by
  unfold SignSafe
  rw [norm_direction_eq_one_iff]
  constructor
  · rintro ⟨hy, h⟩
    exact ⟨hy, (sameLine_direction_iff hy).mp h⟩
  · rintro ⟨hy, h⟩
    exact ⟨hy, (sameLine_direction_iff hy).mpr h⟩

section unit
variable {x y : V} (hx : ‖x‖ = 1) (hy : ‖y‖ = 1)

include hx hy

/-- Unit vectors on different lines are independent. -/
theorem combination_eq_zero (hne : ¬SameLine y x) {a b : ℝ} (h : a • x + b • y = 0) :
    a = 0 ∧ b = 0 := by
  have hab : a • x = -(b • y) := eq_neg_of_add_eq_zero_left h
  have habs : |a| = |b| := by
    have hnorm := congrArg norm hab
    rwa [norm_neg, norm_smul, norm_smul, hx, hy, mul_one, mul_one] at hnorm
  by_cases hb : b = 0
  · rw [hb, abs_zero, abs_eq_zero] at habs
    exact ⟨habs, hb⟩
  · exfalso
    have hyx : y = (-(a / b)) • x := by
      rw [neg_smul, div_eq_inv_mul, mul_smul, hab, smul_neg, neg_neg, smul_smul,
        inv_mul_cancel₀ hb, one_smul]
    rcases abs_eq_abs.mp habs with hab | hab
    · rw [hab, div_self hb, neg_one_smul] at hyx
      exact hne (.inr hyx)
    · rw [hab, neg_div, div_self hb, neg_neg, one_smul] at hyx
      exact hne (.inl hyx)

end unit

/-! ### Blends -/

/-- On the straight line from `x` to `y`. -/
def lerp (r : ℝ) (x y : V) : V := (1 - r) • x + r • y

section lerp
variable {r : ℝ} {x y : V} (hx : ‖x‖ = 1) (hy : ‖y‖ = 1)

include hx hy

/-- **A blend is sign safe only** at its ends, and between `x` and `± x` off the middle. -/
theorem lerp_signSafe_iff : SignSafe (fun y => direction (lerp r x y)) y ↔
    r = 0 ∨ r = 1 ∨ SameLine y x ∧ r ≠ 1 / 2 := by
  have hx0 : x ≠ 0 := norm_ne_zero_iff.mp (by rw [hx]; exact one_ne_zero)
  have hy0 : y ≠ 0 := norm_ne_zero_iff.mp (by rw [hy]; exact one_ne_zero)
  have hself : lerp r x x = x := by
    unfold lerp
    module
  have hback : lerp r x (-x) = (1 - 2 * r) • x := by
    unfold lerp
    module
  rw [signSafe_direction_iff]
  constructor
  · rintro ⟨hblend, hopposite, c, hc⟩
    by_cases hline : SameLine y x
    · refine .inr (.inr ⟨hline, ?_⟩)
      rintro rfl
      have hzero : lerp (1 / 2) x (-x) = 0 := by
        rw [hback]
        norm_num
      rcases hline with rfl | rfl
      · exact hopposite hzero
      · exact hblend hzero
    · have hcombination : ((1 - r) * (1 - c)) • x + (-(r * (1 + c))) • y = 0 := by
        rw [← sub_eq_zero] at hc
        rw [← hc]
        unfold lerp
        module
      obtain ⟨hfirst, hsecond⟩ := combination_eq_zero hx hy hline hcombination
      rcases mul_eq_zero.mp hfirst with h | h
      · exact .inr (.inl (by linarith))
      · left
        rw [show c = 1 by linarith] at hsecond
        linarith
  · rintro (rfl | rfl | ⟨hline, hr⟩)
    · have hstart (y : V) : lerp 0 x y = x := by
        unfold lerp
        module
      rw [hstart, hstart]
      exact ⟨hx0, hx0, 1, (one_smul _ _).symm⟩
    · have hend (y : V) : lerp 1 x y = y := by
        unfold lerp
        module
      rw [hend, hend]
      exact ⟨hy0, neg_ne_zero.mpr hy0, -1, (neg_one_smul _ _).symm⟩
    · have hfactor : 1 - 2 * r ≠ 0 := fun h => hr (by linarith)
      rcases hline with rfl | rfl
      · rw [hself, hback]
        exact ⟨hx0, smul_ne_zero hfactor hx0, 1 - 2 * r, rfl⟩
      · rw [neg_neg, hself, hback]
        refine ⟨smul_ne_zero hfactor hx0, hx0, (1 - 2 * r)⁻¹, ?_⟩
        rw [smul_smul, inv_mul_cancel₀ hfactor, one_smul]

end lerp

/-! ### A blend that is moved -/

/-- The line through `u` and `u'` passes through `-k`, off the two points. -/
def Aligned (u u' k : V) : Prop :=
  u' = u ∧ -k ≠ u ∨ u' ≠ u ∧ ∃ a : ℝ, a ≠ 0 ∧ a ≠ 1 ∧ -k = a • u + (1 - a) • u'

/-- Two points stay on one line through the origin when both are moved by `k`. -/
theorem aligned_iff {u u' k : V} :
    Aligned u u' k ↔ u + k ≠ 0 ∧ u' + k ≠ 0 ∧ ∃ c : ℝ, u' + k = c • (u + k) := by
  constructor
  · rintro (⟨rfl, hk⟩ | ⟨hne, a, ha0, ha1, hk⟩)
    · have hsum : u' + k ≠ 0 := fun h => hk (neg_eq_of_add_eq_zero_left h)
      exact ⟨hsum, hsum, 1, (one_smul _ _).symm⟩
    · have hk' : k = -(a • u + (1 - a) • u') := by rw [← hk, neg_neg]
      have hfirst : u + k = (1 - a) • (u - u') := by
        rw [hk']
        module
      have hsecond : u' + k = (-a) • (u - u') := by
        rw [hk']
        module
      have hdifference : u - u' ≠ 0 := sub_ne_zero.mpr hne.symm
      have ha : 1 - a ≠ 0 := sub_ne_zero.mpr ha1.symm
      rw [hfirst, hsecond]
      refine ⟨smul_ne_zero ha hdifference, smul_ne_zero (neg_ne_zero.mpr ha0) hdifference,
        -a / (1 - a), ?_⟩
      rw [smul_smul, div_mul_cancel₀ _ ha]
  · rintro ⟨hfirst, hsecond, c, hc⟩
    by_cases hne : u' = u
    · refine .inl ⟨hne, fun hk => hfirst ?_⟩
      rw [← hk, neg_add_cancel]
    · have hc1 : 1 - c ≠ 0 := by
        intro h
        rw [show c = 1 by linarith, one_smul] at hc
        exact hne (add_right_cancel hc)
      have hc0 : c ≠ 0 := by
        rintro rfl
        exact hsecond (by rw [hc, zero_smul])
      refine .inr ⟨hne, -c / (1 - c), div_ne_zero (neg_ne_zero.mpr hc0) hc1, ?_, ?_⟩
      · intro h
        rw [div_eq_one_iff_eq hc1] at h
        linarith
      · have hscaled : (1 - c) • -k = (-c) • u + u' := by
          have hmoved : u' = c • (u + k) - k := eq_sub_of_add_eq hc
          rw [hmoved]
          module
        have hrest : 1 - -c / (1 - c) = (1 - c)⁻¹ := by
          field_simp
          ring
        calc -k = (1 - c)⁻¹ • (1 - c) • -k := by rw [smul_smul, inv_mul_cancel₀ hc1, one_smul]
          _ = (-c / (1 - c)) • u + (1 - -c / (1 - c)) • u' := by
              rw [hscaled, hrest, smul_add, smul_smul, div_eq_inv_mul]

/-- **A moved blend is sign safe** when the two blends stay on one line. -/
theorem moved_signSafe_iff {r : ℝ} {x y k : V} :
    SignSafe (fun y => direction (direction (lerp r x y) + k)) y ↔
      Aligned (direction (lerp r x y)) (direction (lerp r x (-y))) k := by
  rw [signSafe_direction_iff, aligned_iff]

theorem direction_direction (v : V) : direction (direction v) = direction v := by
  by_cases hv : v = 0
  · rw [hv, direction_zero, direction_zero]
  · exact direction_of_norm (norm_direction hv)

/-- Scaling one of two orthogonal parts by the inverse length keeps the direction in trivial cases
only. -/
theorem direction_add_smul_iff {w k : V} (horth : inner ℝ w k = 0) :
    direction (w + ‖w + k‖⁻¹ • k) = direction (w + k) ↔ ‖w + k‖ = 1 ∨ w = 0 ∨ k = 0 := by
  constructor
  · intro h
    by_contra hnot
    obtain ⟨hlength, hw, hk⟩ : ‖w + k‖ ≠ 1 ∧ w ≠ 0 ∧ k ≠ 0 := by simpa only [not_or] using hnot
    have horth' : inner ℝ k w = 0 := (real_inner_comm w k).trans horth
    have hww : inner ℝ w w ≠ 0 := inner_self_ne_zero.mpr hw
    have hkk : inner ℝ k k ≠ 0 := inner_self_ne_zero.mpr hk
    have hsum : ‖w + k‖ ≠ 0 := by
      intro hzero
      have hinner : inner ℝ w (w + k) = 0 := by rw [norm_eq_zero.mp hzero, inner_zero_right]
      rw [inner_add_right, horth, add_zero] at hinner
      exact hww hinner
    unfold direction at h
    have hinner := congrArg (inner ℝ w) h
    have hinner' := congrArg (inner ℝ k) h
    simp only [inner_smul_right, inner_add_right, horth, horth', mul_zero, add_zero,
      zero_add] at hinner hinner'
    have hfactor := mul_right_cancel₀ hww hinner
    rw [hfactor] at hinner'
    have hone : ‖w + k‖⁻¹ = 1 :=
      mul_right_cancel₀ hkk ((mul_left_cancel₀ (inv_ne_zero hsum) hinner').trans (one_mul _).symm)
    exact hlength (inv_eq_one.mp hone)
  · rintro (h | rfl | rfl)
    · rw [h, inv_one, one_smul]
    · rw [zero_add, zero_add]
      exact direction_direction k
    · rw [smul_zero]

/-! ### Spherical interpolation -/

/-- On the arc from `x` to `y`, which are `ω` apart. -/
noncomputable def arc (ω τ : ℝ) (x y : V) : V :=
  (Real.sin ((1 - τ) * ω) / Real.sin ω) • x + (Real.sin (τ * ω) / Real.sin ω) • y

/-- Above the threshold `θ` the arc is replaced by the blend; the arc leads to the nearer one of `y`
and `-y`. -/
noncomputable def slerp (θ τ : ℝ) (x y : V) : V :=
  if θ < |inner ℝ x y| then direction (lerp τ x y)
  else direction (arc (Real.arccos |inner ℝ x y|) τ x (if inner ℝ x y < 0 then -y else y))

section slerp
variable {θ τ ω : ℝ} {x y : V} (hx : ‖x‖ = 1) (hy : ‖y‖ = 1)

include hx hy

theorem norm_arc (hω : inner ℝ x y = Real.cos ω) (hsin : Real.sin ω ≠ 0) : ‖arc ω τ x y‖ = 1 := by
  have hexpand : ‖arc ω τ x y‖ ^ 2 = (Real.sin ((1 - τ) * ω) / Real.sin ω) ^ 2 +
      2 * ((Real.sin ((1 - τ) * ω) / Real.sin ω) * (Real.sin (τ * ω) / Real.sin ω) * Real.cos ω) +
      (Real.sin (τ * ω) / Real.sin ω) ^ 2 := by
    unfold arc
    rw [norm_add_sq_real, norm_smul, norm_smul, hx, hy, real_inner_smul_left, real_inner_smul_right,
      hω, mul_one, mul_one, Real.norm_eq_abs, Real.norm_eq_abs, sq_abs, sq_abs]
    ring
  have hangles : ω = (1 - τ) * ω + τ * ω := by ring
  have hsinω := congrArg Real.sin hangles
  have hcosω := congrArg Real.cos hangles
  rw [Real.sin_add] at hsinω
  rw [Real.cos_add] at hcosω
  have hfirst := Real.sin_sq_add_cos_sq ((1 - τ) * ω)
  have hsecond := Real.sin_sq_add_cos_sq (τ * ω)
  generalize Real.sin ((1 - τ) * ω) = a at *
  generalize Real.cos ((1 - τ) * ω) = a' at *
  generalize Real.sin (τ * ω) = b at *
  generalize Real.cos (τ * ω) = b' at *
  have hone : ‖arc ω τ x y‖ ^ 2 = 1 := by
    rw [hexpand]
    field_simp
    rw [hcosω, hsinω]
    linear_combination -(b ^ 2) * hfirst - a ^ 2 * hsecond
  exact (pow_eq_one_iff_of_nonneg (norm_nonneg _) two_ne_zero).mp hone

theorem abs_inner_le_one : |inner ℝ x y| ≤ 1 := by
  have h := abs_real_inner_le_norm x y
  rwa [hx, hy, one_mul] at h

/-- The goal has been turned round where the inner product was negative. -/
theorem norm_slerp (hθ : θ < 1) (h : |inner ℝ x y| ≤ θ) :
    slerp θ τ x y = arc (Real.arccos |inner ℝ x y|) τ x (if inner ℝ x y < 0 then -y else y) ∧
      ‖slerp θ τ x y‖ = 1 := by
  have hnear : inner ℝ x (if inner ℝ x y < 0 then -y else y) = |inner ℝ x y| := by
    split
    next hneg => rw [inner_neg_right, abs_of_neg hneg]
    next hpos => rw [abs_of_nonneg (not_lt.mp hpos)]
  have hnorm : ‖if inner ℝ x y < 0 then -y else y‖ = 1 := by
    split
    · rw [norm_neg, hy]
    · exact hy
  have habs := abs_nonneg (inner ℝ x y)
  have hcos : Real.cos (Real.arccos |inner ℝ x y|) = |inner ℝ x y| :=
    Real.cos_arccos (by linarith) (abs_inner_le_one hx hy)
  have hsin : Real.sin (Real.arccos |inner ℝ x y|) ≠ 0 := by
    rw [Real.sin_arccos]
    exact (Real.sqrt_pos.mpr (by nlinarith)).ne'
  have harc := norm_arc (τ := τ) hx hnorm (hnear.trans hcos.symm) hsin
  have hslerp : slerp θ τ x y =
      arc (Real.arccos |inner ℝ x y|) τ x (if inner ℝ x y < 0 then -y else y) := by
    unfold slerp
    rw [if_neg (not_lt.mpr h), direction_of_norm harc]
  exact ⟨hslerp, hslerp ▸ harc⟩

omit hx hy in
/-- Only with a right angle between them there is no nearer one of `y` and `-y`. -/
theorem slerp_neg (hne : inner ℝ x y ≠ 0) (h : |inner ℝ x y| ≤ θ) :
    slerp θ τ x (-y) = slerp θ τ x y := by
  unfold slerp
  rw [inner_neg_right, abs_neg, if_neg (not_lt.mpr h), if_neg (not_lt.mpr h), neg_neg]
  rcases hne.lt_or_gt with hneg | hpos
  · rw [if_neg (by linarith), if_pos hneg]
  · rw [if_pos (by linarith), if_neg (by linarith)]

/-- Two ways of a right angle, to `y` and to `-y`, are on one line at their ends only. -/
theorem sameLine_arc_iff (hτ0 : 0 ≤ τ) (hτ1 : τ ≤ 1) :
    SameLine (arc (Real.pi / 2) τ x (-y)) (arc (Real.pi / 2) τ x y) ↔ τ = 0 ∨ τ = 1 := by
  have hx0 : x ≠ 0 := norm_ne_zero_iff.mp (by rw [hx]; exact one_ne_zero)
  have hy0 : y ≠ 0 := norm_ne_zero_iff.mp (by rw [hy]; exact one_ne_zero)
  have hzero {σ : ℝ} (h0 : 0 ≤ σ) (h1 : σ ≤ 1) : Real.sin (σ * (Real.pi / 2)) = 0 ↔ σ = 0 := by
    have hpi := Real.pi_pos
    rw [Real.sin_eq_zero_iff_of_lt_of_lt (by nlinarith) (by nlinarith)]
    exact ⟨fun h => (mul_eq_zero.mp h).resolve_right (by linarith), fun h => by rw [h, zero_mul]⟩
  unfold arc SameLine
  rw [Real.sin_pi_div_two, div_one, div_one]
  constructor
  · rintro (h | h)
    · left
      have hdouble : (2 * Real.sin (τ * (Real.pi / 2))) • y = 0 := by
        rw [← sub_eq_zero.mpr h.symm]
        module
      have hsin := (smul_eq_zero.mp hdouble).resolve_right hy0
      exact (hzero hτ0 hτ1).mp (by linarith)
    · right
      have hdouble : (2 * Real.sin ((1 - τ) * (Real.pi / 2))) • x = 0 := by
        rw [eq_neg_iff_add_eq_zero] at h
        rw [← h]
        module
      have hsin := (smul_eq_zero.mp hdouble).resolve_right hx0
      have hone := (hzero (sub_nonneg.mpr hτ1) (by linarith)).mp (by linarith)
      linarith
  · rintro (rfl | rfl)
    · left
      rw [zero_mul, Real.sin_zero, zero_smul, zero_smul]
    · right
      rw [sub_self, zero_mul, Real.sin_zero, zero_smul, zero_add, zero_add, smul_neg]

/-- **The spherical interpolation is sign safe only** at its ends, where the arc is taken and one of
`y` and `-y` is nearer, and between `x` and `± x` off the middle. -/
theorem slerp_signSafe_iff (hθ0 : 0 ≤ θ) (hθ : θ < 1) (hτ0 : 0 ≤ τ) (hτ1 : τ ≤ 1) :
    SignSafe (slerp θ τ x) y ↔ τ = 0 ∨ τ = 1 ∨ SameLine y x ∧ τ ≠ 1 / 2 ∨
      |inner ℝ x y| ≤ θ ∧ inner ℝ x y ≠ 0 := by
  by_cases hfar : |inner ℝ x y| ≤ θ
  · have hnorm := (norm_slerp (τ := τ) hx hy hθ hfar).2
    by_cases hne : inner ℝ x y = 0
    · -- neither of `y` and `-y` is nearer
      have hone : slerp θ τ x y = arc (Real.pi / 2) τ x y := by
        rw [(norm_slerp hx hy hθ hfar).1, hne, abs_zero, Real.arccos_zero, if_neg (lt_irrefl _)]
      have htwo : slerp θ τ x (-y) = arc (Real.pi / 2) τ x (-y) := by
        have hzero : inner ℝ x (-y) = 0 := by rw [inner_neg_right, hne, neg_zero]
        rw [(norm_slerp hx (by rw [norm_neg, hy]) hθ (by rw [hzero, abs_zero]; exact hθ0)).1,
          hzero, abs_zero, Real.arccos_zero, if_neg (lt_irrefl _)]
      have hline : ¬SameLine y x := by
        have hself : inner ℝ x x = 1 := by rw [real_inner_self_eq_norm_sq, hx, one_pow]
        rintro (rfl | rfl)
        · exact one_ne_zero (hself.symm.trans hne)
        · rw [inner_neg_right, hself] at hne
          exact one_ne_zero (neg_eq_zero.mp hne)
      unfold SignSafe
      rw [htwo, and_iff_right hnorm, hone, sameLine_arc_iff hx hy hτ0 hτ1]
      simp only [hline, hne, ne_eq, not_true_eq_false, false_and, and_false, or_false]
    · refine ⟨fun _ => .inr (.inr (.inr ⟨hfar, hne⟩)), fun _ => ⟨hnorm, .inl ?_⟩⟩
      exact slerp_neg hne hfar
  · have hblend (y' : V) (h : |inner ℝ x y'| = |inner ℝ x y|) :
        slerp θ τ x y' = direction (lerp τ x y') := by
      unfold slerp
      rw [h, if_pos (not_le.mp hfar)]
    have hsafe : SignSafe (slerp θ τ x) y ↔ SignSafe (fun y => direction (lerp τ x y)) y := by
      unfold SignSafe
      rw [hblend y rfl, hblend (-y) (by rw [inner_neg_right, abs_neg])]
    rw [hsafe, lerp_signSafe_iff hx hy]
    simp only [hfar, false_and, or_false]

end slerp

end Spherical
