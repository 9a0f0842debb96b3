import AbbWrapper.BoundaryConditions
import AbbWrapper.ExactReals
import AbbWrapper.Quintics

/-! # The motions of the splines

A polynomial whose velocities at the ends point to the goal, and are small enough for its method, goes
straight to the goal: it never turns back or overshoots, and its speed is at most three times the mean
speed (`Direct.straight`, `direct_motion`).  A motion from rest to rest is of this kind for every method.

* `way` is the way to the goal, and `Along` says of a velocity that it points to the goal and is at most a
  multiple of the mean speed.
* `Direct` is what the method asks of the velocities at the ends; the quintic splines also ask for
  accelerations of zero there.
* `Straight` is the conclusion, for any function of the time.

The slope is an affine function of the two velocities, so that it is enough to look at the corners of a
square (`affine_mem_Icc_of_corners`).  The velocity and the acceleration that are evaluated are the
derivatives of the position (`sample_hasDerivAt`). -/

namespace AbbWrapper

open Protobuf

variable {α : Type} [Field α]

def SplinePolynomial.coefficients (p : SplinePolynomial α) : Quintic.Coefficients α :=
  ⟨p.a, p.b, p.c, p.d, p.e, p.f⟩

/-! ### An affine function of two velocities -/

section affine
variable [LinearOrder α] [IsStrictOrderedRing α]

theorem affine_mem_Icc {lower upper m x base k : α} (hx0 : 0 ≤ x) (hx : x ≤ m)
    (h0 : base ∈ Set.Icc lower upper) (h1 : base + k * m ∈ Set.Icc lower upper) :
    base + k * x ∈ Set.Icc lower upper := by
  obtain ⟨hlower, hupper⟩ := h0
  obtain ⟨hlower', hupper'⟩ := h1
  rcases le_total 0 k with hk | hk
  · have hle := mul_le_mul_of_nonneg_left hx hk
    have hnonneg := mul_nonneg hk hx0
    exact ⟨by linarith, by linarith⟩
  · have hle := mul_le_mul_of_nonpos_left hx hk
    have hnonpos := mul_nonpos_of_nonpos_of_nonneg hk hx0
    exact ⟨by linarith, by linarith⟩

/-- The corners of a square bound an affine function on it. -/
theorem affine_mem_Icc_of_corners {lower upper m x y base k l : α} (hx0 : 0 ≤ x) (hx : x ≤ m)
    (hy0 : 0 ≤ y) (hy : y ≤ m) (h00 : base ∈ Set.Icc lower upper)
    (h10 : base + k * m ∈ Set.Icc lower upper) (h01 : base + l * m ∈ Set.Icc lower upper)
    (h11 : base + k * m + l * m ∈ Set.Icc lower upper) :
    base + k * x + l * y ∈ Set.Icc lower upper := by
  refine affine_mem_Icc hy0 hy (affine_mem_Icc hx0 hx h00 h10) ?_
  have h := @affine_mem_Icc _ _ _ _ _ _ m x (base + l * m) k hx0 hx h01 (by rwa [add_right_comm])
  rwa [add_right_comm] at h

end affine

/-! ### Motions straight to the goal -/

namespace SplineConditions

/-- The way to the goal. -/
def way (s : SplineConditions α) : α := s.beta - s.alfa

variable [LinearOrder α]

/-- A velocity in the direction of the goal, not faster than a multiple of the mean speed. -/
structure Along (s : SplineConditions α) (bound velocity : α) : Prop where
  direction : 0 ≤ velocity * s.way
  bounded : |velocity * s.duration| ≤ bound * |s.way|

/-- What the method asks of the velocities and accelerations at the ends. -/
def Direct (s : SplineConditions α) : Prop :=
  s.doRampDown = false ∧
    match s.splineMethod with
    | .linear => True
    | .square => s.Along 2 s.dAlfa
    | .cubic => s.Along 3 s.dAlfa ∧ s.Along 3 s.dBeta
    | .quintic => s.Along 2 s.dAlfa ∧ s.Along 2 s.dBeta ∧ s.ddAlfa = 0 ∧ s.ddBeta = 0

variable [IsStrictOrderedRing α]

/-- From rest to rest. -/
theorem direct_of_rest {s : SplineConditions α} (hramp : s.doRampDown = false) (halfa : s.dAlfa = 0)
    (hbeta : s.dBeta = 0) (halfa' : s.ddAlfa = 0) (hbeta' : s.ddBeta = 0) : s.Direct := by
  have hrest (bound : α) (hbound : 0 ≤ bound) : s.Along bound 0 := by
    refine ⟨by rw [zero_mul], ?_⟩
    rw [zero_mul, abs_zero]
    exact mul_nonneg hbound (abs_nonneg _)
  unfold Direct
  rw [halfa, hbeta]
  refine ⟨hramp, ?_⟩
  cases s.splineMethod with
  | linear => trivial
  | square => exact hrest 2 zero_le_two
  | cubic => exact ⟨hrest 3 zero_le_three, hrest 3 zero_le_three⟩
  | quintic => exact ⟨hrest 2 zero_le_two, hrest 2 zero_le_two, halfa', hbeta'⟩

theorem Along.mul_mem {s : SplineConditions α} {bound velocity : α} (h : s.Along bound velocity)
    (hT : 0 ≤ s.duration) :
    0 ≤ velocity * s.duration * s.way ∧ velocity * s.duration * s.way ≤ bound * (s.way * s.way) := by
  constructor
  · rw [mul_right_comm]
    exact mul_nonneg h.direction hT
  · calc
      velocity * s.duration * s.way ≤ |velocity * s.duration * s.way| := le_abs_self _
      _ = |velocity * s.duration| * |s.way| := abs_mul _ _
      _ ≤ bound * |s.way| * |s.way| := mul_le_mul_of_nonneg_right h.bounded (abs_nonneg _)
      _ = bound * (s.way * s.way) := by rw [mul_assoc, abs_mul_abs_self]

theorem Along.eq_zero {s : SplineConditions α} {bound velocity : α} (h : s.Along bound velocity)
    (hT : 0 < s.duration) (hway : s.way = 0) : velocity = 0 := by
  have hbounded := h.bounded
  rw [hway, abs_zero, mul_zero] at hbounded
  have hzero : velocity * s.duration = 0 := abs_eq_zero.mp (le_antisymm hbounded (abs_nonneg _))
  exact (mul_eq_zero.mp hzero).resolve_right hT.ne'

/-! ### The slope -/

/-- On the unit interval, of the mean speed. -/
theorem slope_cubic_mem {u M X Y : α} (hu0 : 0 ≤ u) (hu : u ≤ 1) (hM : 0 ≤ M) (hX0 : 0 ≤ X)
    (hX : X ≤ 3 * M) (hY0 : 0 ≤ Y) (hY : Y ≤ 3 * M) :
    6 * u * (1 - u) * M + (1 - 4 * u + 3 * u ^ 2) * X + (3 * u ^ 2 - 2 * u) * Y ∈
      Set.Icc 0 (3 * M) := by
  have hcorner {v : α} (h0 : 0 ≤ v) (h3 : v ≤ 3) : v * M ∈ Set.Icc 0 (3 * M) :=
    ⟨mul_nonneg h0 hM, mul_le_mul_of_nonneg_right h3 hM⟩
  have hw := sub_nonneg.mpr hu
  have huw := mul_nonneg hu0 hw
  refine affine_mem_Icc_of_corners hX0 hX hY0 hY ?_ ?_ ?_ ?_
  · refine hcorner ?_ ?_
    · nlinarith
    · nlinarith [sq_nonneg (1 - 2 * u)]
  · rw [show 6 * u * (1 - u) * M + (1 - 4 * u + 3 * u ^ 2) * (3 * M) = 3 * (1 - u) ^ 2 * M by ring]
    refine hcorner (by positivity) ?_
    nlinarith
  · rw [show 6 * u * (1 - u) * M + (3 * u ^ 2 - 2 * u) * (3 * M) = 3 * u ^ 2 * M by ring]
    refine hcorner (by positivity) ?_
    nlinarith
  · rw [show 6 * u * (1 - u) * M + (1 - 4 * u + 3 * u ^ 2) * (3 * M) +
      (3 * u ^ 2 - 2 * u) * (3 * M) = 3 * (1 - 2 * u) ^ 2 * M by ring]
    refine hcorner (by positivity) ?_
    nlinarith

theorem slope_quintic_mem {u M X Y : α} (hu0 : 0 ≤ u) (hu : u ≤ 1) (hM : 0 ≤ M) (hX0 : 0 ≤ X)
    (hX : X ≤ 2 * M) (hY0 : 0 ≤ Y) (hY : Y ≤ 2 * M) :
    30 * u ^ 2 * (1 - u) ^ 2 * M + (1 - 18 * u ^ 2 + 32 * u ^ 3 - 15 * u ^ 4) * X +
      (28 * u ^ 3 - 12 * u ^ 2 - 15 * u ^ 4) * Y ∈ Set.Icc 0 (3 * M) := by
  have hcorner {v : α} (h0 : 0 ≤ v) (h3 : v ≤ 3) : v * M ∈ Set.Icc 0 (3 * M) :=
    ⟨mul_nonneg h0 hM, mul_le_mul_of_nonneg_right h3 hM⟩
  have hw := sub_nonneg.mpr hu
  have huw : 0 ≤ u * (1 - u) := mul_nonneg hu0 hw
  have hquarter : u * (1 - u) ≤ 1 / 4 := by nlinarith [sq_nonneg (1 - 2 * u)]
  refine affine_mem_Icc_of_corners hX0 hX hY0 hY ?_ ?_ ?_ ?_
  · rw [show 30 * u ^ 2 * (1 - u) ^ 2 * M = 30 * (u * (1 - u)) ^ 2 * M by ring]
    refine hcorner (by positivity) ?_
    nlinarith
  · rw [show 30 * u ^ 2 * (1 - u) ^ 2 * M + (1 - 18 * u ^ 2 + 32 * u ^ 3 - 15 * u ^ 4) * (2 * M) =
      2 * ((1 - u) ^ 2 * (1 + 2 * u)) * M by ring]
    refine hcorner (by positivity) ?_
    nlinarith
  · rw [show 30 * u ^ 2 * (1 - u) ^ 2 * M + (28 * u ^ 3 - 12 * u ^ 2 - 15 * u ^ 4) * (2 * M) =
      2 * (u ^ 2 * (1 + 2 * (1 - u))) * M by ring]
    refine hcorner (by positivity) ?_
    nlinarith
  · rw [show 30 * u ^ 2 * (1 - u) ^ 2 * M + (1 - 18 * u ^ 2 + 32 * u ^ 3 - 15 * u ^ 4) * (2 * M) +
      (28 * u ^ 3 - 12 * u ^ 2 - 15 * u ^ 4) * (2 * M) = (2 - 30 * (u * (1 - u)) ^ 2) * M by ring]
    refine hcorner ?_ ?_
    · nlinarith
    · nlinarith

end SplineConditions

namespace SplinePolynomial
variable [LinearOrder α]

omit [LinearOrder α] in
theorem calculatePosition_eq (p : SplinePolynomial α) :
    p.calculatePosition = Quintic.value p.coefficients := rfl

omit [LinearOrder α] in
theorem calculateVelocity_eq (p : SplinePolynomial α) :
    p.calculateVelocity = Quintic.slope p.coefficients := rfl

variable [IsStrictOrderedRing α] {s : SplineConditions α} {t : α}

/-- **The slope points to the goal**, and is at most three times the mean slope. -/
theorem calculateVelocity_mem (h : s.Direct) (hT : 0 < s.duration) (ht0 : 0 ≤ t)
    (ht : t ≤ s.duration) :
    (update s).calculateVelocity t * s.duration * s.way ∈ Set.Icc 0 (3 * (s.way * s.way)) := by
  obtain ⟨hramp, hmethod⟩ := h
  have hu0 : 0 ≤ t / s.duration := div_nonneg ht0 hT.le
  have hu : t / s.duration ≤ 1 := (div_le_one hT).mpr ht
  have hM : 0 ≤ s.way * s.way := mul_self_nonneg _
  have hT' := hT.ne'
  cases hspline : s.splineMethod with
  | linear =>
      have heq : (update s).calculateVelocity t * s.duration * s.way = s.way * s.way := by
        simp only [update, calculateVelocity, hramp, hspline, Bool.false_eq_true, if_false,
          SplineConditions.way]
        field_simp
        ring
      rw [heq]
      exact ⟨hM, by linarith⟩
  | square =>
      rw [hspline] at hmethod
      obtain ⟨hX0, hX⟩ := SplineConditions.Along.mul_mem hmethod hT.le
      have heq : (update s).calculateVelocity t * s.duration * s.way =
          2 * (t / s.duration) * (s.way * s.way) +
            (1 - 2 * (t / s.duration)) * (s.dAlfa * s.duration * s.way) := by
        simp only [update, calculateVelocity, hramp, hspline, Bool.false_eq_true, if_false,
          SplineConditions.way]
        field_simp
        ring
      rw [heq]
      refine affine_mem_Icc hX0 hX ⟨by positivity, ?_⟩ ⟨?_, ?_⟩
      · nlinarith
      · nlinarith
      · nlinarith
  | cubic =>
      rw [hspline] at hmethod
      obtain ⟨hX0, hX⟩ := hmethod.1.mul_mem hT.le
      obtain ⟨hY0, hY⟩ := hmethod.2.mul_mem hT.le
      have heq : (update s).calculateVelocity t * s.duration * s.way =
          6 * (t / s.duration) * (1 - t / s.duration) * (s.way * s.way) +
            (1 - 4 * (t / s.duration) + 3 * (t / s.duration) ^ 2) *
              (s.dAlfa * s.duration * s.way) +
            (3 * (t / s.duration) ^ 2 - 2 * (t / s.duration)) * (s.dBeta * s.duration * s.way) := by
        simp only [update, calculateVelocity, hramp, hspline, Bool.false_eq_true, if_false,
          SplineConditions.way]
        field_simp
        ring
      rw [heq]
      exact SplineConditions.slope_cubic_mem hu0 hu hM hX0 hX hY0 hY
  | quintic =>
      rw [hspline] at hmethod
      obtain ⟨hX0, hX⟩ := hmethod.1.mul_mem hT.le
      obtain ⟨hY0, hY⟩ := hmethod.2.1.mul_mem hT.le
      have heq : (update s).calculateVelocity t * s.duration * s.way =
          30 * (t / s.duration) ^ 2 * (1 - t / s.duration) ^ 2 * (s.way * s.way) +
            (1 - 18 * (t / s.duration) ^ 2 + 32 * (t / s.duration) ^ 3 -
              15 * (t / s.duration) ^ 4) * (s.dAlfa * s.duration * s.way) +
            (28 * (t / s.duration) ^ 3 - 12 * (t / s.duration) ^ 2 - 15 * (t / s.duration) ^ 4) *
              (s.dBeta * s.duration * s.way) := by
        simp only [update, calculateVelocity, hramp, hspline, Bool.false_eq_true, if_false,
          SplineConditions.way, hmethod.2.2.1, hmethod.2.2.2]
        field_simp
        ring
      rw [heq]
      exact SplineConditions.slope_quintic_mem hu0 hu hM hX0 hX hY0 hY

/-- Where there is no way to go, nothing moves. -/
theorem calculateVelocity_eq_zero (h : s.Direct) (hT : 0 < s.duration) (hway : s.way = 0) (t : α) :
    (update s).calculateVelocity t = 0 := by
  obtain ⟨hramp, hmethod⟩ := h
  have hbeta : s.beta = s.alfa := sub_eq_zero.mp hway
  cases hspline : s.splineMethod with
  | linear => simp [update, calculateVelocity, hramp, hspline, hbeta]
  | square =>
      rw [hspline] at hmethod
      have hzero : s.dAlfa = 0 := SplineConditions.Along.eq_zero hmethod hT hway
      simp [update, calculateVelocity, hramp, hspline, hbeta, hzero]
  | cubic =>
      rw [hspline] at hmethod
      simp [update, calculateVelocity, hramp, hspline, hbeta, hmethod.1.eq_zero hT hway,
        hmethod.2.eq_zero hT hway]
  | quintic =>
      rw [hspline] at hmethod
      simp [update, calculateVelocity, hramp, hspline, hbeta, hmethod.1.eq_zero hT hway,
        hmethod.2.1.eq_zero hT hway, hmethod.2.2.1, hmethod.2.2.2]

theorem abs_calculateVelocity_le (h : s.Direct) (hT : 0 < s.duration) (ht0 : 0 ≤ t)
    (ht : t ≤ s.duration) : |(update s).calculateVelocity t| * s.duration ≤ 3 * |s.way| := by
  rcases eq_or_ne s.way 0 with hway | hway
  · rw [calculateVelocity_eq_zero h hT hway, abs_zero, zero_mul]
    positivity
  · obtain ⟨hlower, hupper⟩ := calculateVelocity_mem h hT ht0 ht
    have hpos : 0 < |s.way| := abs_pos.mpr hway
    refine le_of_mul_le_mul_right ?_ hpos
    calc
      |(update s).calculateVelocity t| * s.duration * |s.way| =
          |(update s).calculateVelocity t * s.duration * s.way| := by
        rw [abs_mul, abs_mul, abs_of_pos hT]
      _ = (update s).calculateVelocity t * s.duration * s.way := abs_of_nonneg hlower
      _ ≤ 3 * (s.way * s.way) := hupper
      _ = 3 * |s.way| * |s.way| := by rw [mul_assoc, abs_mul_abs_self]

end SplinePolynomial

/-- A motion that goes straight from one position to another. -/
structure Straight [LinearOrder α] (start goal duration : α) (sample : α → Sample α) : Prop where
  between : ∀ t, (sample t).position ∈ Set.uIcc start goal
  forward : ∀ t t', t ≤ t' → 0 ≤ ((sample t').position - (sample t).position) * (goal - start)
  direction : ∀ t, 0 ≤ (sample t).velocity * (goal - start)
  speed : ∀ t, |(sample t).velocity| * duration ≤ 3 * |goal - start|
  arrives : ∀ t, duration ≤ t → (sample t).position = goal

/-- Every later position lies between an earlier one and the goal. -/
theorem Straight.mem_uIcc [LinearOrder α] [IsStrictOrderedRing α] {start goal duration : α}
    {sample : α → Sample α} (h : Straight start goal duration sample) {t t' : α} (ht : t ≤ t') :
    (sample t').position ∈ Set.uIcc (sample t).position goal := by
  have hforward := h.forward t t' ht
  have hbetween := h.between t'
  rcases lt_trichotomy start goal with hlt | heq | hgt
  · rw [Set.uIcc_of_le hlt.le] at hbetween
    have hle := nonneg_of_mul_nonneg_left hforward (sub_pos.mpr hlt)
    exact Set.mem_uIcc.mpr (.inl ⟨sub_nonneg.mp hle, hbetween.2⟩)
  · rw [← heq, Set.uIcc_self, Set.mem_singleton_iff] at hbetween
    rw [hbetween, heq]
    exact Set.right_mem_uIcc
  · rw [Set.uIcc_of_ge hgt.le] at hbetween
    have hle := nonpos_of_mul_nonneg_left hforward (sub_neg.mpr hgt)
    exact Set.mem_uIcc.mpr (.inr ⟨hbetween.1, sub_nonpos.mp hle⟩)

section saturate
variable [LinearOrder α] {T t t' : α}

theorem saturate_mem (hT : 0 ≤ T) : 0 ≤ saturate t 0 T ∧ saturate t 0 T ≤ T := by
  rw [saturate_eq hT]
  exact ⟨le_max_left _ _, max_le hT (min_le_right _ _)⟩

theorem saturate_le_saturate (hT : 0 ≤ T) (h : t ≤ t') : saturate t 0 T ≤ saturate t' 0 T := by
  rw [saturate_eq hT, saturate_eq hT]
  exact max_le_max le_rfl (min_le_min h le_rfl)

end saturate

namespace SplineConditions.Direct
variable [LinearOrder α] [IsStrictOrderedRing α] {s : SplineConditions α}

/-- The way between two times has the direction of the goal. -/
theorem forward (h : s.Direct) (hT : 0 < s.duration) {t t' : α} (ht0 : 0 ≤ t) (htt : t ≤ t')
    (ht : t' ≤ s.duration) : 0 ≤ ((SplinePolynomial.update s).calculatePosition t' -
      (SplinePolynomial.update s).calculatePosition t) * s.way := by
  refine Quintic.value_sub_value_mul_nonneg (p := (SplinePolynomial.update s).coefficients) htt
    fun u hu hu' => ?_
  have hmem := (SplinePolynomial.calculateVelocity_mem h hT (ht0.trans hu) (hu'.trans ht)).1
  rw [mul_right_comm] at hmem
  exact nonneg_of_mul_nonneg_left hmem hT

omit [IsStrictOrderedRing α] in
theorem calculatePosition_zero (s : SplineConditions α) (hramp : s.doRampDown = false) :
    (SplinePolynomial.update s).calculatePosition 0 = s.alfa := by
  unfold SplinePolynomial.update SplinePolynomial.calculatePosition
  cases s.splineMethod <;> simp [hramp]

theorem calculatePosition_duration (hramp : s.doRampDown = false) (hT : s.duration ≠ 0) :
    (SplinePolynomial.update s).calculatePosition s.duration = s.beta := by
  have hmet := SplinePolynomial.update_met s hT
  unfold SplineConditions.Met at hmet
  rw [if_neg (by rw [hramp]; exact Bool.false_ne_true)] at hmet
  cases hspline : s.splineMethod with
  | linear => rw [hspline] at hmet; exact hmet.2
  | square => rw [hspline] at hmet; exact hmet.2.2
  | cubic => rw [hspline] at hmet; exact hmet.2.2.1
  | quintic => rw [hspline] at hmet; exact hmet.2.2.2.1

/-- From the direction of the way until now and of the way that is left. -/
theorem between (h : s.Direct) (hT : 0 < s.duration) {t : α} (ht0 : 0 ≤ t) (ht : t ≤ s.duration) :
    (SplinePolynomial.update s).calculatePosition t ∈ Set.uIcc s.alfa s.beta := by
  have hbefore := h.forward hT le_rfl ht0 ht
  have hafter := h.forward hT ht0 ht le_rfl
  rw [calculatePosition_zero s h.1] at hbefore
  rw [calculatePosition_duration h.1 hT.ne'] at hafter
  have hway : s.way = s.beta - s.alfa := rfl
  rcases lt_trichotomy s.way 0 with hneg | hzero | hpos
  · refine Set.mem_uIcc.mpr (.inr ⟨?_, ?_⟩)
    · linarith [nonpos_of_mul_nonneg_left hafter hneg]
    · linarith [nonpos_of_mul_nonneg_left hbefore hneg]
  · let p := (SplinePolynomial.update s).coefficients
    have hdistance : |Quintic.value p t - Quintic.value p 0| ≤ 0 * (t - 0) :=
      Quintic.abs_value_sub_le ht0 fun u _ _ => by
        rw [← SplinePolynomial.calculateVelocity_eq,
          SplinePolynomial.calculateVelocity_eq_zero h hT hzero, abs_zero]
    rw [zero_mul, ← SplinePolynomial.calculatePosition_eq, calculatePosition_zero s h.1] at hdistance
    have heq := sub_eq_zero.mp (abs_eq_zero.mp (le_antisymm hdistance (abs_nonneg _)))
    rw [heq]
    exact Set.left_mem_uIcc
  · refine Set.mem_uIcc.mpr (.inl ⟨?_, ?_⟩)
    · linarith [nonneg_of_mul_nonneg_left hbefore hpos]
    · linarith [nonneg_of_mul_nonneg_left hafter hpos]

/-- **A direct polynomial goes straight to its goal.** -/
theorem straight (h : s.Direct) (hT : 0 < s.duration) : Straight s.alfa s.beta s.duration
    fun t => (SplinePolynomial.update s).sample (saturate t 0 s.duration) := by
  have hmem (t : α) := saturate_mem (t := t) hT.le
  refine ⟨fun t => ?_, fun t t' htt => ?_, fun t => ?_, fun t => ?_, fun t ht => ?_⟩
  · exact h.between hT (hmem t).1 (hmem t).2
  · exact h.forward hT (hmem t).1 (saturate_le_saturate hT.le htt) (hmem t').2
  · have hdirection := (SplinePolynomial.calculateVelocity_mem h hT (hmem t).1 (hmem t).2).1
    rw [mul_right_comm] at hdirection
    exact nonneg_of_mul_nonneg_left hdirection hT
  · exact SplinePolynomial.abs_calculateVelocity_le h hT (hmem t).1 (hmem t).2
  · rw [EGMInterpolator.saturate_of_le hT ht]
    exact calculatePosition_duration h.1 hT.ne'

end SplineConditions.Direct

/-! ### The interpolator -/

namespace EGMInterpolator
variable [LinearOrder α] [IsStrictOrderedRing α] [Cmath α]

theorem straight_update {e : EGMInterpolator α}
    (hlength : e.splinePolynomials.length = maxNumberOfSplines) {start goal : PointGoal α}
    {c : Conditions α} (hoperation : c.operation = .normal) {r x : ℕ}
    (hr : start.robotJoints.position.get.valuesSize = r)
    (hx : start.externalJoints.position.get.valuesSize = x) (hthree : 3 ≤ r)
    (hrx : r + x ≤ maxNumberOfSplines) {output : α → PointGoal α}
    (houtput : ∀ t, (output t).Holds r x) (sampleTime : α → α) {k : Coordinate}
    (hk : k.In c.mode r x) (hdirect : (k.conditions (clamped c) start goal).Direct) :
    Straight (k.sample start).position (k.sample goal).position (clamped c).duration
      fun t => k.sample ((e.update start goal c).evaluate (output t) (sampleTime t) t) := by
  have hsample (t : α) :
      k.sample ((e.update start goal c).evaluate (output t) (sampleTime t) t) =
        (SplinePolynomial.update (k.conditions (clamped c) start goal)).sample
          (saturate t 0 (clamped c).duration) :=
    sample_update hlength (.inl hoperation) hr hx hthree hrx (houtput t) (sampleTime t) t hk
  have hpositive : 0 < (clamped c).duration :=
    lt_of_lt_of_le Constants.lowestSampleTime_pos (le_max_left _ _)
  have hT : (k.conditions (clamped c) start goal).duration = (clamped c).duration := by cases k <;> rfl
  have halfa : (k.conditions (clamped c) start goal).alfa = (k.sample start).position := by
    cases k <;> rfl
  have hbeta : (k.conditions (clamped c) start goal).beta = (k.sample goal).position := by
    cases k <;> rfl
  have hstraight := hdirect.straight (by rw [hT]; exact hpositive)
  rw [hT, halfa, hbeta] at hstraight
  simp only [hsample]
  exact hstraight

/-- **Every coordinate whose velocities allow it goes straight to its goal**, whatever the outputs and the
sample times of the callbacks are. -/
theorem direct_motion {e : EGMInterpolator α}
    (hlength : e.splinePolynomials.length = maxNumberOfSplines) {start goal : PointGoal α}
    {c : Conditions α} (hoperation : c.operation = .normal) {r x : ℕ}
    (hr : start.robotJoints.position.get.valuesSize = r)
    (hx : start.externalJoints.position.get.valuesSize = x) (hparser : r = 6 ∨ r = 7)
    (hrx : r + x ≤ 12) {output : α → PointGoal α} (houtput : ∀ t, (output t).Holds r x)
    (sampleTime : α → α) {k : Coordinate} (hk : k.In c.mode r x)
    (hdirect : (k.conditions (clamped c) start goal).Direct) :
    Straight (k.sample start).position (k.sample goal).position (clamped c).duration
      fun t => k.sample ((e.update start goal c).evaluate (output t) (sampleTime t) t) :=
  straight_update hlength hoperation hr hx (by omega) hrx houtput sampleTime hk hdirect

/-- The external joint of a cubic motion, between robot joints that start with a speed. -/
theorem direct_motion_cubic :
    Straight (5 : ℚ) 8 (clamped ⟨2, .egmJoint, .normal, 0, .cubic⟩).duration fun t =>
      (Coordinate.external 0).sample ((init.update (sevenJoints 0 1 5) (sevenJoints 10 1 8)
        ⟨2, .egmJoint, .normal, 0, .cubic⟩).evaluate (sevenJoints 0 0 0) (4 / 1000) t) := by
  have houtput : (sevenJoints (0 : ℚ) 0 0).Holds 6 1 :=
    ⟨by decide, by decide, by decide, by decide, by decide, by decide⟩
  have hexternal : (Coordinate.external 0).In .egmJoint 6 1 := Nat.one_pos
  have hdirect : ((Coordinate.external 0).conditions (clamped ⟨2, .egmJoint, .normal, 0, .cubic⟩)
      (sevenJoints (0 : ℚ) 1 5) (sevenJoints 10 1 8)).Direct :=
    SplineConditions.direct_of_rest rfl rfl rfl rfl rfl
  exact direct_motion (e := init) (by decide) rfl rfl rfl (.inl rfl) (by decide) (fun _ => houtput)
    (fun _ => 4 / 1000) hexternal hdirect

end EGMInterpolator

/-! ### Derivatives -/

namespace EGMInterpolator

/-- **What is evaluated as velocity and acceleration are the derivatives**, inside of the interval, for
goals and for ramping down. -/
theorem sample_hasDerivAt {e : EGMInterpolator ℝ}
    (hlength : e.splinePolynomials.length = maxNumberOfSplines) {start goal : PointGoal ℝ}
    {c : Conditions ℝ} (hoperation : c.operation = .normal ∨ c.operation = .rampDown) {r x : ℕ}
    (hr : start.robotJoints.position.get.valuesSize = r)
    (hx : start.externalJoints.position.get.valuesSize = x) (hparser : r = 6 ∨ r = 7)
    (hrx : r + x ≤ 12) {output : ℝ → PointGoal ℝ} (houtput : ∀ t, (output t).Holds r x)
    (sampleTime : ℝ → ℝ) {k : Coordinate} (hk : k.In c.mode r x) {t : ℝ} (ht0 : 0 < t)
    (ht : t < (clamped c).duration) :
    HasDerivAt
        (fun u => (k.sample ((e.update start goal c).evaluate (output u) (sampleTime u) u)).position)
        (k.sample ((e.update start goal c).evaluate (output t) (sampleTime t) t)).velocity t ∧
      HasDerivAt
        (fun u => (k.sample ((e.update start goal c).evaluate (output u) (sampleTime u) u)).velocity)
        (k.sample ((e.update start goal c).evaluate (output t) (sampleTime t) t)).acceleration t := by
  have hsample (u : ℝ) :
      k.sample ((e.update start goal c).evaluate (output u) (sampleTime u) u) =
        (SplinePolynomial.update (k.conditions (clamped c) start goal)).sample
          (saturate u 0 (clamped c).duration) :=
    sample_update hlength hoperation hr hx (by omega) hrx (houtput u) (sampleTime u) u hk
  have hsaturate {u : ℝ} (hu0 : 0 < u) (hu : u < (clamped c).duration) :
      saturate u 0 (clamped c).duration = u := by
    rw [saturate_eq (hu0.trans hu).le, min_eq_left hu.le, max_eq_right hu0.le]
  -- close to `t` nothing is saturated
  have hnear : (fun u => saturate u 0 (clamped c).duration) =ᶠ[nhds t] fun u => u := by
    filter_upwards [Ioo_mem_nhds ht0 ht] with u hu
    exact hsaturate hu.1 hu.2
  simp only [hsample, hsaturate ht0 ht]
  generalize SplinePolynomial.update (k.conditions (clamped c) start goal) = p
  constructor
  · refine (Quintic.hasDerivAt_value p.coefficients t).congr_of_eventuallyEq ?_
    filter_upwards [hnear] with u hu
    rw [hu]
    rfl
  · refine (Quintic.hasDerivAt_slope p.coefficients t).congr_of_eventuallyEq ?_
    filter_upwards [hnear] with u hu
    rw [hu]
    rfl

/-- In the middle of a ramp down. -/
theorem sample_hasDerivAt_rampDown :
    HasDerivAt
        (fun u => ((Coordinate.robot 0).sample ((init.update (sevenJoints (0 : ℝ) 1 5)
          (sevenJoints 10 1 8) ⟨2, .egmJoint, .rampDown, 0, .quintic⟩).evaluate (sevenJoints 0 0 0)
            (4 / 1000) u)).position)
        ((Coordinate.robot 0).sample ((init.update (sevenJoints (0 : ℝ) 1 5) (sevenJoints 10 1 8)
          ⟨2, .egmJoint, .rampDown, 0, .quintic⟩).evaluate (sevenJoints 0 0 0) (4 / 1000) 1)).velocity
        1 := by
  have houtput : (sevenJoints (0 : ℝ) 0 0).Holds 6 1 := ⟨le_rfl, le_rfl, le_rfl, le_rfl, le_rfl, le_rfl⟩
  have hrobot : (Coordinate.robot 0).In .egmJoint 6 1 := ⟨rfl, by decide⟩
  have hinside : (1 : ℝ) < (clamped ⟨2, .egmJoint, .rampDown, 0, .quintic⟩).duration :=
    lt_max_of_lt_right one_lt_two
  exact (sample_hasDerivAt (e := init) (List.length_replicate ..) (.inr rfl) rfl rfl (.inl rfl)
    (by decide) (fun _ => houtput) (fun _ => 4 / 1000) hrobot one_pos hinside).1

end EGMInterpolator

end AbbWrapper
