import AbbWrapper.ExactReals
import AbbWrapper.InverseKinematics
import AbbWrapper.UnitQuaternions

/-! # The orientation error of the inverse kinematics

Over the real numbers `e_quat` is the error between two orientations (`eQuat_eq`), and a run of the
node in which the signs of the quaternions are chosen otherwise publishes the same.

* `toHamilton` takes the quaternions of the Eigen library to those of Mathlib, and `Same` says of two
  that their rotations are the same; signs are chosen otherwise in `Kinematics.Same` and
  `InvKinEvent.Same`.
* `DrivenBy` says of an update that it publishes an orientation error, and commands the joint velocities
  and keeps the joints that belong to it: every update is driven by the error between the current
  orientation and the desired one (`update_drivenBy`).
* `NotPerpendicular` says of a run that wherever an error is computed, the two quaternions are not
  at a right angle: there the signs do matter.

Along such runs nothing that is published depends on the signs (`published_congr`);
`orientation_error_sound` has all of it together. -/

namespace AbbWrapper

open Matrix Runs UnitQuaternions

/-! ### Quaternions of the Eigen library -/

namespace Quaterniond

def toHamilton (quat : Quaterniond ℝ) : Hamilton := ⟨quat.w, quat.x, quat.y, quat.z⟩

@[simp] theorem re_toHamilton (quat : Quaterniond ℝ) : quat.toHamilton.re = quat.w := rfl
@[simp] theorem imI_toHamilton (quat : Quaterniond ℝ) : quat.toHamilton.imI = quat.x := rfl
@[simp] theorem imJ_toHamilton (quat : Quaterniond ℝ) : quat.toHamilton.imJ = quat.y := rfl
@[simp] theorem imK_toHamilton (quat : Quaterniond ℝ) : quat.toHamilton.imK = quat.z := rfl

def IsUnit (quat : Quaterniond ℝ) : Prop := quat.signCheck quat = 1

theorem toHamilton_injective : Function.Injective toHamilton := by
  rintro ⟨w, x, y, z⟩ ⟨w', x', y', z'⟩ h
  cases h
  rfl

theorem toHamilton_scale (quat : Quaterniond ℝ) (factor : ℝ) :
    (quat.scale factor).toHamilton = factor • quat.toHamilton := by
  ext <;> simp [scale, mul_comm]

theorem inner_toHamilton (quat quat' : Quaterniond ℝ) :
    inner ℝ quat.toHamilton quat'.toHamilton = quat.signCheck quat' := by
  rw [Quaternion.inner_def]
  simp [signCheck]

theorem normSq_toHamilton (quat : Quaterniond ℝ) :
    Quaternion.normSq quat.toHamilton = quat.signCheck quat := by
  rw [← Quaternion.inner_self, inner_toHamilton]

theorem signCurrDes_eq (quat quatD : Quaterniond ℝ) :
    signCurrDes quat quatD = hemisphere quat.toHamilton quatD.toHamilton := by
  unfold signCurrDes hemisphere
  simp only [inner_toHamilton]

/-- The rotations are the same. -/
def Same (quat quat' : Quaterniond ℝ) : Prop := SameRotation quat.toHamilton quat'.toHamilton

theorem Same.refl (quat : Quaterniond ℝ) : quat.Same quat := SameRotation.refl _

theorem Same.symm {quat quat' : Quaterniond ℝ} (h : quat.Same quat') : quat'.Same quat :=
  SameRotation.symm h

theorem Same.trans {quat quat' quat'' : Quaterniond ℝ} (h : quat.Same quat')
    (h' : quat'.Same quat'') : quat.Same quat'' :=
  SameRotation.trans h h'

theorem same_scale_neg (quat : Quaterniond ℝ) : quat.Same (quat.scale (-1)) := by
  rw [Same, toHamilton_scale, neg_one_smul]
  exact SameRotation.neg _

theorem same_iff {quat quat' : Quaterniond ℝ} :
    quat.Same quat' ↔ quat' = quat ∨ quat' = quat.scale (-1) := by
  unfold Same SameRotation
  rw [toHamilton_injective.eq_iff, ← neg_one_smul ℝ quat.toHamilton, ← toHamilton_scale,
    toHamilton_injective.eq_iff]

theorem Same.signCheck_eq {quat quat' : Quaterniond ℝ} (h : quat.Same quat') :
    quat'.signCheck quat' = quat.signCheck quat := by
  rw [← normSq_toHamilton, ← normSq_toHamilton, SameRotation.normSq_eq h]

theorem toHamilton_normalize (quat : Quaterniond ℝ) : quat.normalize.toHamilton =
    (if 0 < quat.signCheck quat then (√(quat.signCheck quat))⁻¹ else 1) • quat.toHamilton := by
  unfold normalize
  split
  · ext <;> simp [div_eq_inv_mul]
  · rw [one_smul]

theorem Same.normalize {quat quat' : Quaterniond ℝ} (h : quat.Same quat') :
    quat.normalize.Same quat'.normalize := by
  rw [Same, toHamilton_normalize, toHamilton_normalize, h.signCheck_eq]
  exact SameRotation.smul h _

theorem same_continued (quat quatOld : Quaterniond ℝ) : quat.Same (quat.continued quatOld) := by
  unfold continued
  split
  · exact same_scale_neg quat
  · exact Same.refl quat

theorem same_corrected (quat quatD : Quaterniond ℝ) : quatD.Same (quat.corrected quatD) := by
  rw [Same, corrected, toHamilton_scale, signCurrDes_eq]
  exact sameRotation_hemisphere _ _

end Quaterniond

open Quaterniond

/-! ### The error -/

/-- The vector part. -/
def vectorPart (h : Hamilton) : Fin 3 → ℝ := ![h.imI, h.imJ, h.imK]

theorem vectorPart_im (h : Hamilton) : vectorPart h.im = vectorPart h := rfl

theorem vectorPart_eq_zero_iff (h : Hamilton) : vectorPart h = 0 ↔ h.im = 0 := by
  constructor
  · intro hzero
    ext
    · rfl
    · exact congrFun hzero 0
    · exact congrFun hzero 1
    · exact congrFun hzero 2
  · intro hzero
    rw [← vectorPart_im, hzero]
    ext i
    fin_cases i <;> rfl

theorem orientationError_eq (quat quatD : Quaterniond ℝ) :
    orientationError quat quatD = vectorPart (quatD.toHamilton * star quat.toHamilton) := by
  ext i
  fin_cases i <;>
    simp [orientationError, vectorPart, skewSymmetric, Quaterniond.vec] <;> ring

theorem eQuat_eq (quat quatD : Quaterniond ℝ) :
    eQuat quat quatD = vectorPart (error quat.toHamilton quatD.toHamilton) := by
  rw [eQuat, orientationError_eq, corrected, toHamilton_scale, signCurrDes_eq, error, vectorPart_im]

theorem eQuat_eq_zero_iff {quat quatD : Quaterniond ℝ} (hquat : quat.IsUnit) (hquatD : quatD.IsUnit) :
    eQuat quat quatD = 0 ↔ quatD = quat ∨ quatD = quat.scale (-1) := by
  have hunit : Quaternion.normSq quat.toHamilton = 1 := (normSq_toHamilton quat).trans hquat
  have hunitD : Quaternion.normSq quatD.toHamilton = 1 := (normSq_toHamilton quatD).trans hquatD
  rw [eQuat_eq, vectorPart_eq_zero_iff, ← same_iff, Same, ← error_eq_zero_iff hunit hunitD]
  rfl

/-- Unless the two are at a right angle the signs do not matter. -/
theorem eQuat_congr {quat quat' quatD quatD' : Quaterniond ℝ} (h : quat.signCheck quatD ≠ 0)
    (hquat : quat.Same quat') (hquatD : quatD.Same quatD') : eQuat quat' quatD' = eQuat quat quatD := by
  rw [eQuat_eq, eQuat_eq, error_congr (by rwa [inner_toHamilton]) hquat hquatD]

/-! ### Runs with other signs -/

section runs
variable {n : ℕ}

/-- The same functions but for the signs of the quaternions of rotation matrices. -/
structure Kinematics.Same (kinematics kinematics' : Kinematics n ℝ) : Prop where
  jntToCart : kinematics'.jntToCart = kinematics.jntToCart
  jntToJac : kinematics'.jntToJac = kinematics.jntToJac
  pseudoInverse : kinematics'.pseudoInverse = kinematics.pseudoInverse
  ofMatrix : ∀ M, (kinematics.ofMatrix M).Same (kinematics'.ofMatrix M)

/-- The same but for the sign of the orientation. -/
inductive InvKinEvent.Same : InvKinEvent n ℝ → InvKinEvent n ℝ → Prop where
  | run : InvKinEvent.Same .run .run
  | jointStates (position : Fin n → ℝ) :
      InvKinEvent.Same (.jointStates position) (.jointStates position)
  | desPose (position : Fin 3 → ℝ) {orientation orientation' : Quaterniond ℝ}
      (h : orientation.Same orientation') :
      InvKinEvent.Same (.desPose position orientation) (.desPose position orientation')
  | invKin : InvKinEvent.Same .invKin .invKin

namespace OneTaskInvKin

/-- The same but for the signs of the two quaternions. -/
structure Same (s s' : OneTaskInvKin n ℝ) : Prop where
  qMsr : s'.qMsr = s.qMsr
  q : s'.q = s.q
  posD : s'.posD = s.posD
  stepNumber : s'.stepNumber = s.stepNumber
  flagJointMsr : s'.flagJointMsr = s.flagJointMsr
  firstQuat : s'.firstQuat = s.firstQuat
  dt : s'.dt = s.dt
  quatD : s.quatD.Same s'.quatD
  quatOld : s.quatOld.Same s'.quatOld

variable {kinematics kinematics' : Kinematics n ℝ} {s s' : OneTaskInvKin n ℝ}

theorem Same.measured (hkinematics : kinematics.Same kinematics') (h : s.Same s') :
    (s.measured kinematics).Same (s'.measured kinematics') := by
  rw [OneTaskInvKin.measured, OneTaskInvKin.measured, h.q, hkinematics.jntToCart]
  exact (hkinematics.ofMatrix _).normalize

/-- The continuity flip chooses one of the two signs. -/
theorem same_current (kinematics : Kinematics n ℝ) (s : OneTaskInvKin n ℝ) :
    (s.measured kinematics).Same (s.current kinematics) := same_continued _ _

theorem Same.current (hkinematics : kinematics.Same kinematics') (h : s.Same s') :
    (s.current kinematics).Same (s'.current kinematics') :=
  ((same_current kinematics s).symm.trans (h.measured hkinematics)).trans
    (same_current kinematics' s')

theorem Same.init (hkinematics : kinematics.Same kinematics') (h : s.Same s') :
    (s.init kinematics).Same (s'.init kinematics') where
  qMsr := h.qMsr
  q := h.qMsr
  posD := by
    unfold OneTaskInvKin.init
    dsimp only
    rw [h.qMsr, hkinematics.jntToCart]
  stepNumber := h.stepNumber
  flagJointMsr := h.flagJointMsr
  firstQuat := h.firstQuat
  dt := h.dt
  quatD := by
    unfold OneTaskInvKin.init
    dsimp only
    rw [h.qMsr, hkinematics.jntToCart]
    exact hkinematics.ofMatrix _
  quatOld := h.quatOld

section update
variable (hkinematics : kinematics.Same kinematics') (h : s.Same s')
  (hdot : (s.current kinematics).signCheck s.quatD ≠ 0)
include hkinematics h hdot

theorem Same.eQuat_eq :
    eQuat (s'.current kinematics') s'.quatD = eQuat (s.current kinematics) s.quatD :=
  eQuat_congr hdot (h.current hkinematics) h.quatD

theorem Same.nextJoints_eq : s'.nextJoints kinematics' = s.nextJoints kinematics := by
  unfold nextJoints taskError
  rw [h.eQuat_eq hkinematics hdot, h.q, h.posD, h.dt, hkinematics.jntToCart, hkinematics.jntToJac,
    hkinematics.pseudoInverse]

theorem Same.update : (s.update kinematics).1.Same (s'.update kinematics').1 where
  qMsr := h.qMsr
  q := h.nextJoints_eq hkinematics hdot
  posD := h.posD
  stepNumber := h.stepNumber
  flagJointMsr := h.flagJointMsr
  firstQuat := rfl
  dt := h.dt
  quatD := ((same_corrected _ _).symm.trans h.quatD).trans (same_corrected _ _)
  quatOld := h.current hkinematics

theorem Same.update_published : (s.update kinematics).2 = (s'.update kinematics').2 := by
  have herror := h.eQuat_eq hkinematics hdot
  have hjoints := h.nextJoints_eq hkinematics hdot
  exact congrArg₂ JointCommand.mk herror.symm hjoints.symm

end update

/-- Where the orientation error drives the joints, the desired quaternion is not at a right angle to the
current one. -/
def NotPerpendicular (kinematics : Kinematics n ℝ) (s : OneTaskInvKin n ℝ) (e : InvKinEvent n ℝ) :
    Prop :=
  e = .run → s.stepNumber = 1 → (s.current kinematics).signCheck s.quatD ≠ 0

theorem Same.run (hkinematics : kinematics.Same kinematics') (h : s.Same s')
    (hdot : s.stepNumber = 1 → (s.current kinematics).signCheck s.quatD ≠ 0) :
    (s.run kinematics).1.Same (s'.run kinematics').1 ∧
      (s.run kinematics).2 = (s'.run kinematics').2 := by
  unfold OneTaskInvKin.run
  rw [h.stepNumber]
  split
  · exact ⟨{ h.init hkinematics with stepNumber := rfl }, rfl⟩
  · rename_i hone
    refine ⟨h.update hkinematics (hdot hone), ?_⟩
    rw [h.update_published hkinematics (hdot hone)]
  · exact ⟨h, rfl⟩

theorem Same.callbackJointStates (h : s.Same s') (position : Fin n → ℝ) :
    (s.callbackJointStates position).Same (s'.callbackJointStates position) := by
  unfold OneTaskInvKin.callbackJointStates
  rw [h.flagJointMsr]
  split
  · exact { h with qMsr := rfl, flagJointMsr := rfl }
  · exact { h with qMsr := rfl, stepNumber := rfl, flagJointMsr := rfl }

theorem Same.step (hkinematics : kinematics.Same kinematics') (h : s.Same s') {e e' : InvKinEvent n ℝ}
    (he : e.Same e') (hdot : NotPerpendicular kinematics s e) :
    (s.step kinematics e).Same (s'.step kinematics' e') ∧
      s.published kinematics e = s'.published kinematics' e' := by
  cases he with
  | run => exact h.run hkinematics (hdot rfl)
  | jointStates position => exact ⟨h.callbackJointStates position, rfl⟩
  | desPose position horientation => exact ⟨{ h with posD := rfl, quatD := horientation }, rfl⟩
  | invKin =>
      exact ⟨{ h with stepNumber := rfl, flagJointMsr := rfl, firstQuat := rfl }, rfl⟩

/-- **What a run publishes does not depend on the signs of the quaternions.** -/
theorem published_congr (hkinematics : kinematics.Same kinematics') (h : s.Same s')
    {events events' : List (InvKinEvent n ℝ)}
    (hevents : List.Forall₂ InvKinEvent.Same events events')
    (hdot : Along (OneTaskInvKin.step kinematics) (NotPerpendicular kinematics) s events) :
    collect (OneTaskInvKin.step kinematics) (published kinematics) s events =
      collect (OneTaskInvKin.step kinematics') (published kinematics') s' events' :=
  collect_forall₂ (fun _ _ _ _ hs he hH => hs.step hkinematics he hH) hdot hevents h

end OneTaskInvKin

end runs

/-! ### Soundness -/

theorem eQuat_eq_signed (quat quatD : Quaterniond ℝ) :
    eQuat quat quatD = vectorPart
      ((signCurrDes quat quatD : ℝ) • quatD.toHamilton * star quat.toHamilton) := by
  rw [eQuat, orientationError_eq, corrected, toHamilton_scale]

/-- An update publishes this orientation error, and commands and keeps the joint positions that it and
the error of the position lead to. -/
structure OneTaskInvKin.DrivenBy {n : ℕ} (kinematics : Kinematics n ℝ) (s : OneTaskInvKin n ℝ)
    (errorOrient : Fin 3 → ℝ) : Prop where
  orientError : (s.update kinematics).2.orientError = errorOrient
  jointCmd : (s.update kinematics).2.jointCmd = s.q +
    s.dt • (((20 : ℝ) • kinematics.pseudoInverse (kinematics.jntToJac s.q)) *ᵥ
      (Fin.append (s.posD - (kinematics.jntToCart s.q).p) errorOrient : Fin 6 → ℝ))
  q : (s.update kinematics).1.q = (s.update kinematics).2.jointCmd

theorem OneTaskInvKin.update_drivenBy {n : ℕ} (kinematics : Kinematics n ℝ) (s : OneTaskInvKin n ℝ) :
    s.DrivenBy kinematics (eQuat (s.current kinematics) s.quatD) :=
  ⟨rfl, rfl, rfl⟩

/-- **The orientation error is sound**: what it is, where it vanishes, that it is the one an update
publishes and drives the joints by, and what it does not depend on, of a single cycle and of whole
runs. -/
theorem orientation_error_sound :
    (∀ quat quatD : Quaterniond ℝ, quat.IsUnit → quatD.IsUnit →
      eQuat quat quatD = vectorPart
        ((signCurrDes quat quatD : ℝ) • quatD.toHamilton * star quat.toHamilton) ∧
      (eQuat quat quatD = 0 ↔ quatD = quat ∨ quatD = quat.scale (-1))) ∧
    (∀ (n : ℕ) (kinematics : Kinematics n ℝ) (s : OneTaskInvKin n ℝ),
      s.DrivenBy kinematics (eQuat (s.current kinematics) s.quatD) ∧
      ((s.current kinematics).IsUnit → s.quatD.IsUnit →
        (s.update kinematics).2.orientError = vectorPart
          ((signCurrDes (s.current kinematics) s.quatD : ℝ) • s.quatD.toHamilton *
            star (s.current kinematics).toHamilton) ∧
        ((s.update kinematics).2.orientError = 0 ↔
          s.quatD = s.current kinematics ∨ s.quatD = (s.current kinematics).scale (-1)))) ∧
    (∀ quat quatD : Quaterniond ℝ, quat.signCheck quatD ≠ 0 →
      eQuat quat (quatD.scale (-1)) = eQuat quat quatD) ∧
    (∀ measured quatOld quatD : Quaterniond ℝ, (measured.continued quatOld).signCheck quatD ≠ 0 →
      eQuat ((measured.scale (-1)).continued (quatOld.scale (-1))) quatD =
        eQuat (measured.continued quatOld) quatD) ∧
    ∀ (n : ℕ) (kinematics kinematics' : Kinematics n ℝ) (s s' : OneTaskInvKin n ℝ)
      (events events' : List (InvKinEvent n ℝ)), kinematics.Same kinematics' → s.Same s' →
      List.Forall₂ InvKinEvent.Same events events' →
      Along (OneTaskInvKin.step kinematics) (OneTaskInvKin.NotPerpendicular kinematics) s events →
      collect (OneTaskInvKin.step kinematics) (OneTaskInvKin.published kinematics) s events =
        collect (OneTaskInvKin.step kinematics') (OneTaskInvKin.published kinematics') s' events' := by
  refine ⟨?_, ?_, ?_, ?_, ?_⟩
  · intro quat quatD hquat hquatD
    exact ⟨eQuat_eq_signed quat quatD, eQuat_eq_zero_iff hquat hquatD⟩
  · intro n kinematics s
    have hdriven := s.update_drivenBy kinematics
    refine ⟨hdriven, fun hcurrent hquatD => ?_⟩
    rw [hdriven.orientError]
    exact ⟨eQuat_eq_signed _ _, eQuat_eq_zero_iff hcurrent hquatD⟩
  · intro quat quatD h
    exact eQuat_congr h (Same.refl quat) (same_scale_neg quatD)
  · intro measured quatOld quatD h
    refine eQuat_congr h ?_ (Same.refl quatD)
    have hmeasured := (same_continued measured quatOld).symm.trans (same_scale_neg measured)
    exact hmeasured.trans (same_continued _ _)
  · intro n kinematics kinematics' s s' events events' hkinematics h hevents hdot
    exact OneTaskInvKin.published_congr hkinematics h hevents hdot

section prismatic

/-- A chain of one prismatic joint along the `z` axis, with one of the two quaternions of the rotation
that its tip always has. -/
noncomputable def prismatic (w : ℝ) : Kinematics 1 ℝ where
  jntToCart := fun q => ⟨![0, 0, q 0], 1⟩
  jntToJac := fun _ => !![0; 0; 1; 0; 0; 0]
  ofMatrix := fun _ => ⟨w, 0, 0, 0⟩
  pseudoInverse := fun J => J.transpose

noncomputable def prismaticState (w : ℝ) : OneTaskInvKin 1 ℝ :=
  { qMsr := 0, q := 0, posD := 0, quatD := ⟨w, 0, 0, 0⟩, quatOld := ⟨w, 0, 0, 0⟩, stepNumber := 1
    flagJointMsr := true, firstQuat := true, dt := 1 / 500 }

theorem prismatic_same : (prismatic 1).Same (prismatic (-1)) := by
  refine ⟨rfl, rfl, rfl, ?_⟩
  intro M
  rw [same_iff]
  right
  simp [prismatic, scale]

theorem prismaticState_same : (prismaticState 1).Same (prismaticState (-1)) := by
  have hquat : (⟨1, 0, 0, 0⟩ : Quaterniond ℝ).Same ⟨-1, 0, 0, 0⟩ := by
    rw [same_iff]
    right
    simp [scale]
  exact ⟨rfl, rfl, rfl, rfl, rfl, rfl, rfl, hquat, hquat⟩

theorem current_prismatic : (prismaticState 1).current (prismatic 1) = ⟨1, 0, 0, 0⟩ := by
  have hnormalize : (⟨1, 0, 0, 0⟩ : Quaterniond ℝ).normalize = ⟨1, 0, 0, 0⟩ := by
    unfold Quaterniond.normalize
    simp [signCheck]
  simp [OneTaskInvKin.current, OneTaskInvKin.measured, prismatic, prismaticState, continued, signCheck,
    hnormalize]

end prismatic

/-- Opposite quaternions, half a turn, an update of half a turn, and a round of the main loop in which
the quaternions of the measured, the previous and the desired orientation all have the other sign. -/
theorem orientation_error_sound_opposite :
    eQuat (⟨1, 0, 0, 0⟩ : Quaterniond ℝ) ⟨-1, 0, 0, 0⟩ = 0 ∧
    eQuat (⟨1, 0, 0, 0⟩ : Quaterniond ℝ) ⟨0, 1, 0, 0⟩ ≠ 0 ∧
    (((prismaticState 1).callbackDesPose 1 ⟨0, 1, 0, 0⟩).update (prismatic 1)).2.orientError ≠ 0 ∧
    collect (OneTaskInvKin.step (prismatic 1)) (OneTaskInvKin.published (prismatic 1))
        (prismaticState 1) [.desPose 1 ⟨3 / 5, 4 / 5, 0, 0⟩, .run] =
      collect (OneTaskInvKin.step (prismatic (-1))) (OneTaskInvKin.published (prismatic (-1)))
        (prismaticState (-1)) [.desPose 1 ⟨-3 / 5, -4 / 5, 0, 0⟩, .run] := by
  obtain ⟨hsound, hupdate, -, -, hruns⟩ := orientation_error_sound
  have hone : (⟨1, 0, 0, 0⟩ : Quaterniond ℝ).IsUnit := by simp [Quaterniond.IsUnit, signCheck]
  have hopposite : (⟨-1, 0, 0, 0⟩ : Quaterniond ℝ).IsUnit := by simp [Quaterniond.IsUnit, signCheck]
  have hturned : (⟨0, 1, 0, 0⟩ : Quaterniond ℝ).IsUnit := by simp [Quaterniond.IsUnit, signCheck]
  refine ⟨?_, ?_, ?_, ?_⟩
  · rw [(hsound _ _ hone hopposite).2]
    right
    simp [scale]
  · rw [ne_eq, (hsound _ _ hone hturned).2]
    simp [scale]
  · have hcurrent : ((prismaticState 1).callbackDesPose 1 ⟨0, 1, 0, 0⟩).current (prismatic 1) =
        ⟨1, 0, 0, 0⟩ := current_prismatic
    obtain ⟨-, hunit⟩ := hupdate 1 (prismatic 1)
      ((prismaticState 1).callbackDesPose 1 ⟨0, 1, 0, 0⟩)
    rw [ne_eq, (hunit (hcurrent ▸ hone) hturned).2, hcurrent]
    simp [OneTaskInvKin.callbackDesPose, scale]
  · refine hruns 1 _ _ _ _ _ _ prismatic_same prismaticState_same ?_ ?_
    · refine .cons (.desPose 1 ?_) (.cons .run .nil)
      rw [same_iff]
      right
      simp [scale, neg_div]
    · refine ⟨fun h => (nomatch h), fun _ _ => ?_, trivial⟩
      have hcurrent : ((prismaticState 1).callbackDesPose 1 ⟨3 / 5, 4 / 5, 0, 0⟩).current
          (prismatic 1) = ⟨1, 0, 0, 0⟩ := current_prismatic
      simp only [OneTaskInvKin.step]
      rw [hcurrent]
      simp [OneTaskInvKin.callbackDesPose, signCheck]

end AbbWrapper
