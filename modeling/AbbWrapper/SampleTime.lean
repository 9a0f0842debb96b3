import Mathlib.Tactic.FieldSimp
import Mathlib.Data.Rat.Floor
import AbbWrapper.Containers

/-! # The estimated sample time

`estimateSampleTime` subtracts the seconds and the microseconds of two clocks in unsigned 64-bit
arithmetic.  The result is the difference of the clocks modulo `2 ^ 64` (`estimateSampleTime_eq`), so
that a clock before the previous one counts as one far after it.

* The fields of a clock are `UInt64`; `microseconds` is the time they stand for, an integer.
* `clockDifference` is the difference as the code takes it, and `difference_emod` the fact of arithmetic
  behind it: two subtractions modulo `N`, scaled by a factor, are one.
* `sampleTimeOf` is the sample time for a difference, in whole milliseconds and not below the lowest one.

`sample_time_iff` says when the estimate is that of the true difference: the clock has not gone back, or so
far that the wrapped difference is below the lowest sample time again. -/

namespace AbbWrapper

open Protobuf

/-- The time of a clock in microseconds. -/
def microseconds (sec usec : UInt64) : ℤ := sec.toNat * 1000000 + usec.toNat

/-- The difference as the code takes it. -/
def clockDifference (sec usec sec' usec' : UInt64) : UInt64 :=
  if 0 < sec - sec' then usec - usec' + (sec - sec') * 1000000 else usec - usec'

/-- Two subtractions modulo `N`, scaled by `M`, are one. -/
theorem difference_emod {N a b c d : ℕ} (M : ℕ) (hc : c ≤ N) (hd : d ≤ N) :
    (((N - d + b) % N + (N - c + a) % N * M % N) % N : ℕ) =
      ((a * M + b : ℤ) - (c * M + d)) % N := by
  have hwrapped : ((N - d + b) % N + (N - c + a) % N * M % N) % N =
      (N - d + b + (N - c + a) * M) % N := by
    rw [Nat.mod_mul_mod, ← Nat.add_mod]
  have hdifference : ((N - d + b + (N - c + a) * M : ℕ) : ℤ) =
      (a * M + b : ℤ) - (c * M + d) + N * (1 + M) := by
    push_cast [hc, hd]
    ring
  rw [hwrapped, Int.natCast_mod, hdifference, Int.add_mul_emod_self_left]

theorem clockDifference_toNat (sec usec sec' usec' : UInt64) :
    ((clockDifference sec usec sec' usec').toNat : ℤ) =
      (microseconds sec usec - microseconds sec' usec') % 2 ^ 64 := by
  have hsec := sec.toNat_lt
  have hsec' := sec'.toNat_lt
  have husec := usec.toNat_lt
  have husec' := usec'.toNat_lt
  unfold clockDifference microseconds
  by_cases hpos : 0 < sec - sec'
  · have hmillion : (1000000 : UInt64).toNat = 1000000 :=
      UInt64.toNat_ofNat_of_lt (by norm_num [UInt64.size])
    rw [if_pos hpos, UInt64.toNat_add, UInt64.toNat_mul, UInt64.toNat_sub, UInt64.toNat_sub,
      hmillion]
    exact_mod_cast difference_emod 1000000 hsec'.le husec'.le
  · have hzero : (sec - sec').toNat = 0 := by
      rw [UInt64.lt_iff_toNat_lt] at hpos
      have h0 : (0 : UInt64).toNat = 0 := rfl
      omega
    rw [UInt64.toNat_sub] at hzero
    rw [if_neg hpos, UInt64.toNat_sub]
    omega

variable {α : Type} [Field α]

/-- The message holds feedback with the clock. -/
def Input.HasClock (i : Input α) (sec usec : UInt64) : Prop :=
  i.feedback.has = true ∧ i.feedback.get.time = .present ⟨.present sec, .present usec⟩

variable [LinearOrder α] [IsStrictOrderedRing α] [FloorRing α]

/-- The sample time for a difference in microseconds, in whole milliseconds. -/
def sampleTimeOf (α : Type) [Field α] [LinearOrder α] [FloorRing α] (difference : ℤ) : α :=
  max (Constants.lowestSampleTime α) ((⌊(difference : α) / 1000⌋ : α) / 1000)

theorem floor_div_thousand (difference : ℤ) : ⌊(difference : α) / 1000⌋ = difference / 1000 := by
  have h := Int.floor_div_natCast (difference : α) 1000
  rw [Int.floor_intCast] at h
  exact_mod_cast h

theorem sampleTimeOf_eq (difference : ℤ) :
    sampleTimeOf α difference = ((max 4 (difference / 1000) : ℤ) : α) / 1000 := by
  unfold sampleTimeOf Constants.lowestSampleTime
  rw [floor_div_thousand, Int.cast_max, max_div_div_right (by norm_num)]
  norm_num

omit [IsStrictOrderedRing α] in
/-- What the code computes from two clocks. -/
theorem InputContainer.estimateSampleTime_eq {i : InputContainer α} {sec usec sec' usec' : UInt64}
    (hcurrent : i.current.HasClock sec usec) (hprevious : i.previous.HasClock sec' usec') :
    i.estimateSampleTime =
      sampleTimeOf α ((microseconds sec usec - microseconds sec' usec') % 2 ^ 64) := by
  obtain ⟨hfeedback, htime⟩ := hcurrent
  obtain ⟨hfeedback', htime'⟩ := hprevious
  have hestimate : i.estimateSampleTime =
      (let estimate : α := (⌊((clockDifference sec usec sec' usec').toNat : α) * Constants.msToS α⌋ : α) *
        Constants.msToS α
      if estimate < Constants.lowestSampleTime α then Constants.lowestSampleTime α else estimate) := by
    unfold InputContainer.estimateSampleTime clockDifference
    simp only [hfeedback, hfeedback', htime, htime', Optional.get_present, Optional.has_present,
      Bool.and_self, if_true]
  rw [hestimate, ← clockDifference_toNat, sampleTimeOf]
  simp only [Constants.msToS, mul_one_div, Int.cast_natCast]
  rw [max_comm, max_def_lt]

theorem sampleTimeOf_eq_lowest_iff (difference : ℤ) :
    sampleTimeOf α difference = Constants.lowestSampleTime α ↔ difference < 5000 := by
  rw [sampleTimeOf_eq, Constants.lowestSampleTime, div_left_inj' (by norm_num)]
  have hfour : ((max 4 (difference / 1000) : ℤ) : α) = 4 ↔ max 4 (difference / 1000) = 4 := by
    exact_mod_cast Iff.rfl
  rw [hfour]
  omega

theorem sampleTimeOf_inj_iff (difference difference' : ℤ) :
    sampleTimeOf α difference = sampleTimeOf α difference' ↔
      max 4 (difference / 1000) = max 4 (difference' / 1000) := by
  rw [sampleTimeOf_eq, sampleTimeOf_eq, div_left_inj' (by norm_num), Int.cast_inj]

/-- **The sample time follows the clocks exactly if** the clock has not gone back, and the difference
fits in 64 bits; or it has gone back so far that the wrapped difference is below five milliseconds. -/
theorem InputContainer.sample_time_iff (i : InputContainer α) {sec usec sec' usec' : UInt64}
    (hcurrent : i.current.HasClock sec usec) (hprevious : i.previous.HasClock sec' usec')
    (hsec : sec.toNat * 1000000 < 2 ^ 64) (hsec' : sec'.toNat * 1000000 < 2 ^ 64)
    (husec : usec.toNat < 1000000) (husec' : usec'.toNat < 1000000) :
    i.estimateSampleTime =
        (if 0 ≤ microseconds sec usec - microseconds sec' usec' then
          max (Constants.lowestSampleTime α)
            ((⌊((microseconds sec usec - microseconds sec' usec' : ℤ) : α) / 1000⌋ : α) / 1000)
        else Constants.lowestSampleTime α) ↔
      0 ≤ microseconds sec usec - microseconds sec' usec' ∧
          microseconds sec usec - microseconds sec' usec' < 2 ^ 64 ∨
        microseconds sec usec - microseconds sec' usec' < 0 ∧
          (microseconds sec usec - microseconds sec' usec') % 2 ^ 64 < 5000 := by
  rw [estimateSampleTime_eq hcurrent hprevious]
  have hupper : microseconds sec usec - microseconds sec' usec' < 2 ^ 64 + 1000000 := by
    unfold microseconds
    omega
  generalize microseconds sec usec - microseconds sec' usec' = difference at hupper
  by_cases hsign : 0 ≤ difference
  · rw [if_pos hsign]
    change sampleTimeOf α (difference % 2 ^ 64) = sampleTimeOf α difference ↔ _
    rw [sampleTimeOf_inj_iff]
    omega
  · rw [if_neg hsign, sampleTimeOf_eq_lowest_iff]
    omega

/-- Inputs with the two clocks. -/
def clocked (sec usec sec' usec' : UInt64) : InputContainer ℚ :=
  { InputContainer.init with
    current := { feedback := .present { time := .present ⟨.present sec, .present usec⟩ } }
    previous := { feedback := .present { time := .present ⟨.present sec', .present usec'⟩ } } }

theorem clocked_hasClock (sec usec sec' usec' : UInt64) :
    (clocked sec usec sec' usec').current.HasClock sec usec ∧
      (clocked sec usec sec' usec').previous.HasClock sec' usec' := ⟨⟨rfl, rfl⟩, ⟨rfl, rfl⟩⟩

/-- From 7.990 s to 8.002 s. -/
theorem InputContainer.sample_time_borrows :
    (clocked 8 2000 7 990000).estimateSampleTime = 12 / 1000 := by
  have hdifference : microseconds 8 2000 - microseconds 7 990000 = 12000 := by
    simp [microseconds]
  obtain ⟨hcurrent, hprevious⟩ := clocked_hasClock 8 2000 7 990000
  have h := (sample_time_iff _ hcurrent hprevious (by simp) (by simp) (by simp) (by simp)).mpr
    (.inl (by rw [hdifference]; norm_num))
  rw [h, hdifference, if_pos (by norm_num)]
  change sampleTimeOf ℚ 12000 = _
  rw [sampleTimeOf_eq]
  norm_num

/-- From 8.002 s back to 8.001 s: the estimate is of more than half a million years. -/
theorem InputContainer.sample_time_wrapped :
    (clocked 8 1000 8 2000).estimateSampleTime = 18446744073709550 / 1000 ∧
      (clocked 8 1000 8 2000).estimateSampleTime ≠ Constants.lowestSampleTime ℚ := by
  have hdifference : microseconds 8 1000 - microseconds 8 2000 = -1000 := by
    simp [microseconds]
  obtain ⟨hcurrent, hprevious⟩ := clocked_hasClock 8 1000 8 2000
  have h : (clocked 8 1000 8 2000).estimateSampleTime = 18446744073709550 / 1000 := by
    rw [estimateSampleTime_eq hcurrent hprevious, hdifference, sampleTimeOf_eq]
    norm_num
  refine ⟨h, ?_⟩
  rw [h, Constants.lowestSampleTime]
  norm_num

end AbbWrapper
