import Mathlib.Data.Sign.Defs
import AbbWrapper.BoundaryConditions

/-! # Ramping down

The velocity of a ramp down is `v * rampSpeed K (t / T)` and the way since its start
`v * T * rampWay K (t / T)` (`calculateVelocity_rampDown_eq`, `calculatePosition_rampDown_eq`): all
that changes on the way from the speed `1` to the speed `K` is said about these two functions on the
unit interval.

* `v` is the start velocity, `T` the duration, and `K` what is left of the velocity at the end: the ramp
  down factor, saturated between `0` and `1`.
* `rampSpeed` falls from `1` to `K` (`rampSpeed_antitone`), and `rampWay` is its integral from zero.
* `RampsDown` says what a ramp down is meant to do, between any two times of its duration: the velocity
  keeps its direction and does not grow, the position moves in this direction only, and the whole way is
  `v * T * (1 + 2 * K) / 3`.

Every polynomial that an update for a ramp down leaves is one (`update_rampsDown`). -/

namespace AbbWrapper

variable {α : Type} [Field α]

/-! ### On the unit interval -/

def rampSpeed (K u : α) : α := K + (1 - K) * (1 - u) ^ 2

/-- The integral of `rampSpeed K` from zero. -/
def rampWay (K u : α) : α := K * u + (1 - K) * ((1 - (1 - u) ^ 3) / 3)

section order
variable [LinearOrder α] [IsStrictOrderedRing α] {K u w : α}

theorem le_rampSpeed (hK : K ≤ 1) : K ≤ rampSpeed K u := by
  unfold rampSpeed
  have hrest : 0 ≤ (1 - K) * (1 - u) ^ 2 := mul_nonneg (sub_nonneg.mpr hK) (sq_nonneg _)
  linarith

theorem rampSpeed_antitone (hK : K ≤ 1) (huw : u ≤ w) (hw : w ≤ 1) :
    rampSpeed K w ≤ rampSpeed K u := by
  unfold rampSpeed
  have hw0 : 0 ≤ 1 - w := sub_nonneg.mpr hw
  have hK0 : 0 ≤ 1 - K := sub_nonneg.mpr hK
  gcongr

theorem rampSpeed_le_one (hK : K ≤ 1) (hu : 0 ≤ u) (hu1 : u ≤ 1) : rampSpeed K u ≤ 1 := by
  have h := rampSpeed_antitone hK hu hu1
  have hzero : rampSpeed K 0 = 1 := by
    unfold rampSpeed
    ring
  rwa [hzero] at h

theorem rampWay_monotone (hK0 : 0 ≤ K) (hK : K ≤ 1) (huw : u ≤ w) (hw : w ≤ 1) :
    rampWay K u ≤ rampWay K w := by
  unfold rampWay
  have hw0 : 0 ≤ 1 - w := sub_nonneg.mpr hw
  have hK1 : 0 ≤ 1 - K := sub_nonneg.mpr hK
  gcongr

end order

@[simp] theorem rampWay_zero (K : α) : rampWay K 0 = 0 := by
  unfold rampWay
  ring

theorem rampWay_one [CharZero α] (K : α) : rampWay K 1 = (1 + 2 * K) / 3 := by
  unfold rampWay
  field_simp
  ring

/-! ### The polynomial of a ramp down -/

namespace SplinePolynomial
variable [LinearOrder α] {s : SplineConditions α}

section formulas
variable [CharZero α] (hramp : s.doRampDown = true) (hT : s.duration ≠ 0) (t : α)

include hramp hT

theorem calculateVelocity_rampDown_eq : (update s).calculateVelocity t =
    s.dAlfa * rampSpeed (saturate s.rampDownFactor 0 1) (t / s.duration) := by
  unfold update calculateVelocity rampSpeed
  simp only [hramp, if_true]
  generalize saturate s.rampDownFactor 0 1 = K
  field_simp
  ring

theorem calculatePosition_rampDown_eq : (update s).calculatePosition t = s.alfa +
    s.dAlfa * s.duration * rampWay (saturate s.rampDownFactor 0 1) (t / s.duration) := by
  unfold update calculatePosition rampWay
  simp only [hramp, if_true]
  generalize saturate s.rampDownFactor 0 1 = K
  field_simp
  ring

end formulas

/-- A ramp down with the start velocity `v` from `alfa` over `T`, to the factor `K`: `position` and
`velocity` are those evaluated. -/
structure RampsDown (alfa v T K : α) (position velocity : α → α) : Prop where
  direction : ∀ t, 0 ≤ t → t ≤ T →
    SignType.sign (velocity t) = SignType.sign v ∨ velocity t = 0
  slows : ∀ t u, 0 ≤ t → t ≤ u → u ≤ T →
    |K * v| ≤ |velocity u| ∧ |velocity u| ≤ |velocity t| ∧ |velocity t| ≤ |v|
  forth : 0 ≤ v → ∀ t u, 0 ≤ t → t ≤ u → u ≤ T → position t ≤ position u
  back : v ≤ 0 → ∀ t u, 0 ≤ t → t ≤ u → u ≤ T → position u ≤ position t
  start : position 0 = alfa
  total : position T - alfa = v * T * (1 + 2 * K) / 3

variable [IsStrictOrderedRing α]

theorem saturate_unit (x : α) : 0 ≤ saturate x 0 1 ∧ saturate x 0 1 ≤ 1 := by
  unfold saturate
  split
  · exact ⟨le_rfl, zero_le_one⟩
  · split
    · exact ⟨zero_le_one, le_rfl⟩
    · exact ⟨not_lt.mp ‹_›, not_lt.mp ‹_›⟩

/-- **Ramping down never speeds up or overshoots.** -/
theorem update_rampsDown (hramp : s.doRampDown = true) (hT : 0 < s.duration) :
    RampsDown s.alfa s.dAlfa s.duration (saturate s.rampDownFactor 0 1)
      (update s).calculatePosition (update s).calculateVelocity := by
  have hvelocity := calculateVelocity_rampDown_eq hramp hT.ne'
  have hposition := calculatePosition_rampDown_eq hramp hT.ne'
  obtain ⟨hK0, hK⟩ := saturate_unit s.rampDownFactor
  generalize saturate s.rampDownFactor 0 1 = K at *
  have hspeed (u : α) : 0 ≤ rampSpeed K u := hK0.trans (le_rampSpeed hK)
  have hunit {t : α} (ht : t ≤ s.duration) : t / s.duration ≤ 1 := (div_le_one hT).mpr ht
  have hmono {t u : α} (htu : t ≤ u) : t / s.duration ≤ u / s.duration :=
    div_le_div_of_nonneg_right htu hT.le
  have hway {t u : α} (htu : t ≤ u) (hu : u ≤ s.duration) :
      s.duration * rampWay K (t / s.duration) ≤ s.duration * rampWay K (u / s.duration) :=
    mul_le_mul_of_nonneg_left (rampWay_monotone hK0 hK (hmono htu) (hunit hu)) hT.le
  have habs (t : α) : |(update s).calculateVelocity t| =
      |s.dAlfa| * rampSpeed K (t / s.duration) := by
    rw [hvelocity, abs_mul, abs_of_nonneg (hspeed _)]
  refine ⟨?_, ?_, ?_, ?_, ?_, ?_⟩
  · intro t _ _
    rw [hvelocity, sign_mul]
    rcases (hspeed (t / s.duration)).eq_or_lt with hzero | hpos
    · right
      rw [← hzero, mul_zero]
    · left
      rw [sign_pos hpos, mul_one]
  · intro t u ht htu hu
    rw [habs, habs, abs_mul, abs_of_nonneg hK0, mul_comm K]
    refine ⟨?_, ?_, ?_⟩
    · exact mul_le_mul_of_nonneg_left (le_rampSpeed hK) (abs_nonneg _)
    · exact mul_le_mul_of_nonneg_left (rampSpeed_antitone hK (hmono htu) (hunit hu)) (abs_nonneg _)
    · exact mul_le_of_le_one_right (abs_nonneg _)
        (rampSpeed_le_one hK (div_nonneg ht hT.le) (hunit (htu.trans hu)))
  · intro hv t u _ htu hu
    rw [hposition, hposition, mul_assoc, mul_assoc]
    exact add_le_add_right (mul_le_mul_of_nonneg_left (hway htu hu) hv) _
  · intro hv t u _ htu hu
    rw [hposition, hposition, mul_assoc, mul_assoc]
    exact add_le_add_right (mul_le_mul_of_nonpos_left (hway htu hu) hv) _
  · rw [hposition, zero_div, rampWay_zero, mul_zero, add_zero]
  · rw [hposition, div_self hT.ne', rampWay_one]
    ring

/-- From 9 per second to a third of it, in 2 s. -/
theorem rampsDown_third : RampsDown (5 : ℚ) 9 2 (1 / 3)
    (update ⟨2, 5, 9, 0, 0, 0, 0, .quintic, true, 1 / 3⟩).calculatePosition
    (update ⟨2, 5, 9, 0, 0, 0, 0, .quintic, true, 1 / 3⟩).calculateVelocity := by
  have h := update_rampsDown (s := (⟨2, 5, 9, 0, 0, 0, 0, .quintic, true, 1 / 3⟩ :
    SplineConditions ℚ)) rfl (by norm_num)
  have hfactor : saturate (1 / 3 : ℚ) 0 1 = 1 / 3 := by
    unfold saturate
    norm_num
  rwa [hfactor] at h

end SplinePolynomial

end AbbWrapper
