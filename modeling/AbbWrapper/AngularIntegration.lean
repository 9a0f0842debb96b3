import AbbWrapper.EulerScale
import AbbWrapper.Runs
import AbbWrapper.UnitQuaternions

/-! # Orientations under an angular velocity

`SoftRamp` integrates an angular velocity with one step along the derivative of the quaternion and
normalizes what it gets.  Over the real numbers the step never gets to the zero quaternion, so that
every orientation that is integrated is a unit quaternion, however long the run.

* `Quaternion.toHamilton` takes the quaternions of the interface to those of Mathlib; `multiply` is
  Hamilton's product (`toHamilton_multiply`), and `Euler.toHamilton` is an angular velocity in radians.
* `moved` is what `integrate` normalizes: its squared norm is that of the orientation, times one plus the
  square of half the angle (`dotProduct_moved`), so that it is zero only where the orientation is.
* `Integrates` are the two operations of `SoftRamp` that integrate, and `Evaluation` a call of
  `evaluateCartesian`, which reads and writes the output.

`angular_integration_unit` is about lists of such calls of any length, with any sample times and angular
velocities: after every one of them the orientation is a unit quaternion. -/

namespace AbbWrapper

open Protobuf Runs UnitQuaternions

/-! ### The quaternions of the interface -/

namespace Quaternion

def toHamilton (q : Quaternion ℝ) : Hamilton := ⟨q.u0.val, q.u1.val, q.u2.val, q.u3.val⟩

@[simp] theorem re_toHamilton (q : Quaternion ℝ) : q.toHamilton.re = q.u0.val := rfl
@[simp] theorem imI_toHamilton (q : Quaternion ℝ) : q.toHamilton.imI = q.u1.val := rfl
@[simp] theorem imJ_toHamilton (q : Quaternion ℝ) : q.toHamilton.imJ = q.u2.val := rfl
@[simp] theorem imK_toHamilton (q : Quaternion ℝ) : q.toHamilton.imK = q.u3.val := rfl

theorem normSq_toHamilton (q : Quaternion ℝ) : Quaternion.normSq q.toHamilton = dotProduct q q := by
  rw [Quaternion.normSq_def']
  simp only [re_toHamilton, imI_toHamilton, imJ_toHamilton, imK_toHamilton, dotProduct]
  ring

/-- The component formulas of `multiply` are those of Hamilton's product. -/
theorem toHamilton_multiply (q q' : Quaternion ℝ) :
    (q.multiply q').toHamilton = q.toHamilton * q'.toHamilton := by
  ext
  · simp [multiply, of]
  · simp [multiply, of]
  · simp [multiply, of]
    ring
  · simp [multiply, of]
    ring

theorem toHamilton_multiplyFactor (q : Quaternion ℝ) (factor : ℝ) :
    (q.multiplyFactor factor).toHamilton = factor • q.toHamilton := by
  ext <;> simp [multiplyFactor, of, mul_comm]

end Quaternion

/-- The angular velocity in radians per second. -/
noncomputable def Euler.toHamilton (av : Euler ℝ) : Hamilton :=
  ⟨0, av.x.val * Constants.degToRad ℝ, av.y.val * Constants.degToRad ℝ,
    av.z.val * Constants.degToRad ℝ⟩

theorem Euler.toHamilton_derivative (av : Euler ℝ) (previousQ : Quaternion ℝ) :
    (av.derivative previousQ).toHamilton =
      (1 / 2 : ℝ) • (av.toHamilton * previousQ.toHamilton) := by
  unfold Euler.derivative
  rw [Quaternion.toHamilton_multiplyFactor, Quaternion.toHamilton_multiply]
  rfl

namespace SoftRamp

/-! ### One step -/

/-- What `integrate` normalizes. -/
def moved (q dQ : Quaternion ℝ) (sampleTime : ℝ) : Quaternion ℝ :=
  .of (q.u0.val + sampleTime * dQ.u0.val) (q.u1.val + sampleTime * dQ.u1.val)
    (q.u2.val + sampleTime * dQ.u2.val) (q.u3.val + sampleTime * dQ.u3.val)

theorem integrate_eq (q dQ : Quaternion ℝ) (sampleTime : ℝ) :
    integrate q dQ sampleTime = normalize (moved q dQ sampleTime) := rfl

theorem toHamilton_moved (q dQ : Quaternion ℝ) (sampleTime : ℝ) :
    (moved q dQ sampleTime).toHamilton = q.toHamilton + sampleTime • dQ.toHamilton := by
  ext <;> simp [moved, Quaternion.of]

section step
variable (av : Euler ℝ) (q : Quaternion ℝ) (sampleTime : ℝ)

/-- **The squared norm before the normalization.** -/
theorem dotProduct_moved :
    dotProduct (moved q (av.derivative q) sampleTime) (moved q (av.derivative q) sampleTime) =
      dotProduct q q * (1 + sampleTime ^ 2 * Quaternion.normSq av.toHamilton / 4) := by
  have hpure : av.toHamilton.re = 0 := rfl
  rw [← Quaternion.normSq_toHamilton, ← Quaternion.normSq_toHamilton, toHamilton_moved,
    av.toHamilton_derivative, normSq_step hpure]

theorem moved_ne_zero (hq : q.toHamilton ≠ 0) :
    (moved q (av.derivative q) sampleTime).toHamilton ≠ 0 := by
  have hpure : av.toHamilton.re = 0 := rfl
  rw [toHamilton_moved, av.toHamilton_derivative]
  exact normSq_step_ne_zero hpure hq sampleTime

end step

theorem dotProduct_normalize_of_ne_zero {q : Quaternion ℝ} (hq : q.toHamilton ≠ 0) :
    dotProduct (normalize q) (normalize q) = 1 := by
  apply Quaternion.dotProduct_normalize
  rw [euclideanNorm, cmath_sqrt, Real.sqrt_ne_zero', ← Quaternion.normSq_toHamilton]
  exact lt_of_le_of_ne Quaternion.normSq_nonneg (Quaternion.normSq_ne_zero.mpr hq).symm

theorem ne_zero_of_unit {q : Quaternion ℝ} (hq : dotProduct q q = 1) : q.toHamilton ≠ 0 := by
  rw [← Quaternion.normSq_ne_zero, Quaternion.normSq_toHamilton, hq]
  exact one_ne_zero

/-- The result is a unit quaternion, unless the zero quaternion is left as it is. -/
theorem integrate_unit_iff (av : Euler ℝ) (q : Quaternion ℝ) (sampleTime : ℝ) :
    dotProduct (integrate q (av.derivative q) sampleTime)
      (integrate q (av.derivative q) sampleTime) = 1 ↔ q.toHamilton ≠ 0 := by
  rw [integrate_eq]
  constructor
  · intro hunit hzero
    have hmoved : dotProduct (moved q (av.derivative q) sampleTime)
        (moved q (av.derivative q) sampleTime) = 0 := by
      rw [dotProduct_moved, ← Quaternion.normSq_toHamilton, hzero, map_zero, zero_mul]
    unfold normalize at hunit
    rw [euclideanNorm, hmoved, cmath_sqrt, Real.sqrt_zero] at hunit
    simp [hmoved] at hunit
  · intro hq
    exact dotProduct_normalize_of_ne_zero (moved_ne_zero av q sampleTime hq)

/-! ### Runs -/

/-- Whether the orientation is the one before, moved by the angular velocity. -/
def Integrates (s : SoftRamp ℝ) : Prop := s.operation = .rampDown ∨ s.operation = .rampInVelocity

/-- Both operations integrate the angular velocity that they write to the Euler field. -/
theorem Integrates.evaluateCartesian {s : SoftRamp ℝ} (hs : s.Integrates) (output : CartesianGoal ℝ)
    (sampleTime t : ℝ) :
    let pose := (s.evaluateCartesian output sampleTime t).pose.get
    let q := output.pose.get.quaternion.get
    pose.quaternion.get = integrate q (pose.euler.get.derivative q) sampleTime := by
  unfold SoftRamp.evaluateCartesian
  rcases hs with hs | hs
  · simp only [hs]
    rfl
  · simp only [hs]
    rfl

/-- A call of `evaluate`, which reads and writes the output. -/
structure Evaluation where
  softRamp : SoftRamp ℝ
  sampleTime : ℝ
  t : ℝ

noncomputable def step (output : CartesianGoal ℝ) (e : Evaluation) : CartesianGoal ℝ :=
  e.softRamp.evaluateCartesian output e.sampleTime e.t

/-- What a call does to the orientation: with the angular velocity that it writes, what it normalizes
is not zero, since its squared norm is at least the one before. -/
def KeepsUnit (output : CartesianGoal ℝ) (e : Evaluation) : Prop :=
  let q := output.pose.get.quaternion.get
  let pose := (step output e).pose.get
  let unscaled := moved q (pose.euler.get.derivative q) e.sampleTime
  pose.quaternion.get = normalize unscaled ∧
    dotProduct unscaled unscaled =
      dotProduct q q * (1 + e.sampleTime ^ 2 * Quaternion.normSq pose.euler.get.toHamilton / 4) ∧
    unscaled.toHamilton ≠ 0 ∧ dotProduct pose.quaternion.get pose.quaternion.get = 1

theorem keepsUnit_step {output : CartesianGoal ℝ} (hq : output.pose.get.quaternion.get.toHamilton ≠ 0)
    {e : Evaluation} (he : e.softRamp.Integrates) : KeepsUnit output e := by
  have hpose := he.evaluateCartesian output e.sampleTime e.t
  refine ⟨hpose, dotProduct_moved _ _ _, moved_ne_zero _ _ _ hq, ?_⟩
  unfold step
  rw [hpose]
  exact (integrate_unit_iff _ _ _).mpr hq

/-- **Integrating an angular velocity keeps the orientation valid**, over runs of any length. -/
theorem angular_integration_unit (es : List Evaluation) (hes : ∀ e ∈ es, e.softRamp.Integrates)
    (output : CartesianGoal ℝ) (hq : output.pose.get.quaternion.get.toHamilton ≠ 0) :
    Along step KeepsUnit output es := by
  refine Along.of_inv (I := fun output => output.pose.get.quaternion.get.toHamilton ≠ 0) ?_
    (along_forall.mpr hes) hq
  intro output e hq he
  have hkeeps := keepsUnit_step hq he
  exact ⟨ne_zero_of_unit hkeeps.2.2.2, hkeeps⟩

/-- A turn about the first axis that is ramped down, and ramped in again. -/
noncomputable def turns : List Evaluation :=
  let rampDown : SoftRamp ℝ := { SoftRamp.init with duration := 1, startAngularVelocity := .of 90 0 0 }
  let rampIn : SoftRamp ℝ := { SoftRamp.init with duration := 1, operation := .rampInVelocity }
  [⟨rampDown, 4 / 1000, 0⟩, ⟨rampDown, 4 / 1000, 1 / 2⟩, ⟨rampIn, 4 / 1000, 1 / 2⟩]

/-- An output whose quaternion is not of length one. -/
noncomputable def doubled : CartesianGoal ℝ :=
  { pose := .present { quaternion := .present (.of 2 0 0 0) } }

theorem angular_integration_unit_turns : Along step KeepsUnit doubled turns := by
  apply angular_integration_unit
  · simp [turns, Integrates, SoftRamp.init]
  · intro h
    have hre : (2 : ℝ) = 0 := congrArg QuaternionAlgebra.re h
    norm_num at hre

end SoftRamp

end AbbWrapper
