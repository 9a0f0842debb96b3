import AbbWrapper.OrientationSigns
import AbbWrapper.SessionLeak

/-! # Copying the same outputs again

The outputs that were written last are copied into the references by every callback.  A copy takes
over what is present, so copying again changes nothing, except for a quaternion of which some
components are present only: it is normalized after the others were kept (`Repeatable`).

* `copyField` is the merge of a sub-message, and `kept` and `overwrite` are the parts of a quaternion that
  are kept and written.
* `Repeatable` says of a target and a source when a second copy changes nothing.  Of quaternions: the
  merged one has the length one, or nothing but zeros is written, or nothing but zeros is kept; of the
  messages above them: their quaternions are so, unless Euler angles are written.
* `ReadsOutputs` says of a callback that it is accepted, reads the stored outputs and sees no write.

`repeated_copy_iff` is about messages, and about two callbacks one after the other.  The proof for
quaternions is that what is written and what is kept are orthogonal (`inner_vec_kept`). -/

namespace Protobuf.Optional

variable {β : Type} [Inhabited β]

/-- Merge into a field where the source has it. -/
def copyField (f : β → β → β) (target source : Optional β) : Optional β :=
  if source.has then target.modify (f · source.get) else target

theorem copyField_copyField_iff (f : β → β → β) (target source : Optional β) :
    (target.copyField f source).copyField f source = target.copyField f source ↔
      (source.has = true → f (f target.get source.get) source.get = f target.get source.get) := by
  unfold copyField
  cases source with
  | absent => simp
  | present v => simp [modify]

omit [Inhabited β] in
theorem copyIf_copyIf (target source : Optional β) :
    (target.copyIf source).copyIf source = target.copyIf source := by
  cases source with
  | absent => rfl
  | present v => rfl

end Protobuf.Optional

namespace AbbWrapper

open Protobuf Optional Runs Spherical

/-! ### Messages without quaternions -/

section generic
variable {α : Type} [Field α]

theorem Joints.copyPresent_copyPresent (target source : Joints α) :
    (target.copyPresent source).copyPresent source = target.copyPresent source := by
  unfold Joints.copyPresent
  rw [valuesSize_update]
  unfold Joints.update
  congr 1
  apply List.ext_getElem
  · simp
  · intro i hi hi'
    simp only [List.getElem_mapIdx]
    split
    · rfl
    · rfl

omit [Field α] in
theorem Cartesian.copyPresent_copyPresent (target source : Cartesian α) :
    (target.copyPresent source).copyPresent source = target.copyPresent source := by
  simp only [Cartesian.copyPresent, copyIf_copyIf]

omit [Field α] in
theorem Euler.copyPresent_copyPresent (target source : Euler α) :
    (target.copyPresent source).copyPresent source = target.copyPresent source := by
  simp only [Euler.copyPresent, copyIf_copyIf]

theorem JointSpace.copyPresent_eq (target source : JointSpace α) : target.copyPresent source =
    ⟨target.position.copyField Joints.copyPresent source.position,
      target.velocity.copyField Joints.copyPresent source.velocity⟩ := by
  unfold JointSpace.copyPresent copyField
  cases source.position.has <;> cases source.velocity.has <;> rfl

theorem JointSpace.copyPresent_copyPresent (target source : JointSpace α) :
    (target.copyPresent source).copyPresent source = target.copyPresent source := by
  simp only [JointSpace.copyPresent_eq, JointSpace.mk.injEq, copyField_copyField_iff,
    Joints.copyPresent_copyPresent, implies_true, and_self]

omit [Field α] in
theorem CartesianVelocity.copyPresent_eq (target source : CartesianVelocity α) :
    target.copyPresent source = ⟨target.linear.copyField Cartesian.copyPresent source.linear,
      target.angular.copyField Euler.copyPresent source.angular⟩ := by
  unfold CartesianVelocity.copyPresent copyField
  cases source.linear.has <;> cases source.angular.has <;> rfl

omit [Field α] in
theorem CartesianVelocity.copyPresent_copyPresent (target source : CartesianVelocity α) :
    (target.copyPresent source).copyPresent source = target.copyPresent source := by
  simp only [CartesianVelocity.copyPresent_eq, CartesianVelocity.mk.injEq, copyField_copyField_iff,
    Cartesian.copyPresent_copyPresent, Euler.copyPresent_copyPresent, implies_true, and_self]

theorem External.copyPresent_eq (target source : External α) : target.copyPresent source =
    ⟨target.joints.copyField JointSpace.copyPresent source.joints⟩ := by
  unfold External.copyPresent copyField External.modifyJoints
  cases source.joints.has <;> rfl

theorem External.copyPresent_copyPresent (target source : External α) :
    (target.copyPresent source).copyPresent source = target.copyPresent source := by
  simp only [External.copyPresent_eq, External.mk.injEq, copyField_copyField_iff,
    JointSpace.copyPresent_copyPresent, implies_true]

end generic

/-! ### Quaternions -/

namespace Quaternion
variable {q target source : Quaternion ℝ}

/-- What is left of the target. -/
def kept (target source : Quaternion ℝ) : Quaternion ℝ :=
  let keep (target source : Optional ℝ) : Optional ℝ := if source.has then .absent else target
  ⟨keep target.u0 source.u0, keep target.u1 source.u1, keep target.u2 source.u2,
    keep target.u3 source.u3⟩

/-- The components of the source where they are present. -/
def overwrite (target source : Quaternion ℝ) : Quaternion ℝ :=
  ⟨target.u0.copyIf source.u0, target.u1.copyIf source.u1, target.u2.copyIf source.u2,
    target.u3.copyIf source.u3⟩

/-- Nothing but zeros is written, nothing but zeros is kept, or the two make a unit quaternion. -/
def Repeatable (target source : Quaternion ℝ) : Prop :=
  dotProduct (overwrite target source) (overwrite target source) = 1 ∨
  (source.u0.val = 0 ∧ source.u1.val = 0 ∧ source.u2.val = 0 ∧ source.u3.val = 0) ∨
  ((source.u0.has = false → target.u0.val = 0) ∧ (source.u1.has = false → target.u1.val = 0) ∧
    (source.u2.has = false → target.u2.val = 0) ∧ (source.u3.has = false → target.u3.val = 0))

theorem copyPresent_eq (target source : Quaternion ℝ) :
    target.copyPresent source = normalize (overwrite target source) := rfl

theorem overwrite_overwrite (target source : Quaternion ℝ) :
    (target.overwrite source).overwrite source = target.overwrite source := by
  simp only [overwrite, copyIf_copyIf]

theorem val_copyIf (target source : Optional ℝ) : (target.copyIf source).val =
    source.val + (if source.has then .absent else target : Optional ℝ).val := by
  cases source with
  | absent => simp
  | present v => simp

theorem inner_val_eq_zero (target source : Optional ℝ) :
    source.val * (if source.has then .absent else target : Optional ℝ).val = 0 := by
  cases source with
  | absent => simp
  | present v => simp

theorem vec_overwrite (target source : Quaternion ℝ) :
    (target.overwrite source).vec = source.vec + (target.kept source).vec := by
  ext i
  fin_cases i <;> exact val_copyIf _ _

/-- What is written and what is kept are orthogonal. -/
theorem inner_vec_kept (target source : Quaternion ℝ) :
    inner ℝ source.vec (target.kept source).vec = 0 := by
  rw [inner_vec]
  unfold dotProduct kept
  simp only [inner_val_eq_zero, add_zero]

theorem vec_eq_zero_iff : q.vec = 0 ↔
    q.u0.val = 0 ∧ q.u1.val = 0 ∧ q.u2.val = 0 ∧ q.u3.val = 0 := by
  constructor
  · intro h
    exact ⟨congrArg (· 0) h, congrArg (· 1) h, congrArg (· 2) h, congrArg (· 3) h⟩
  · rintro ⟨h0, h1, h2, h3⟩
    ext i
    fin_cases i
    · exact h0
    · exact h1
    · exact h2
    · exact h3

theorem repeatable_iff : target.Repeatable source ↔
    ‖source.vec + (target.kept source).vec‖ = 1 ∨ source.vec = 0 ∨ (target.kept source).vec = 0 := by
  have hkept (t s : Optional ℝ) : (if s.has then .absent else t : Optional ℝ).val = 0 ↔
      (s.has = false → t.val = 0) := by
    cases s with
    | absent => simp
    | present v => simp
  rw [← vec_overwrite, norm_vec_eq_one_iff, vec_eq_zero_iff, vec_eq_zero_iff]
  unfold Repeatable
  simp only [kept, hkept]

/-- A quaternion of length zero is left as it is. -/
theorem normalize_of_vec_eq_zero (h : q.vec = 0) : normalize q = q := by
  have hnorm : euclideanNorm q = 0 := by rw [← norm_vec, h, norm_zero]
  unfold normalize
  simp [hnorm]

theorem normalize_of_vec_ne_zero (h : q.vec ≠ 0) : normalize q =
    .of ((normalize q).vec 0) ((normalize q).vec 1) ((normalize q).vec 2) ((normalize q).vec 3) := by
  have hnorm : euclideanNorm q ≠ 0 := by rwa [← norm_vec, norm_ne_zero_iff]
  unfold normalize
  simp only [if_pos hnorm]
  rfl

theorem normalize_inj {r : Quaternion ℝ} (hq : q.vec ≠ 0) (hr : r.vec ≠ 0) :
    normalize q = normalize r ↔ (normalize q).vec = (normalize r).vec := by
  constructor
  · intro h
    rw [h]
  · intro h
    rw [normalize_of_vec_ne_zero hq, normalize_of_vec_ne_zero hr, h]

theorem normalize_normalize (q : Quaternion ℝ) : normalize (normalize q) = normalize q := by
  by_cases hq : q.vec = 0
  · rw [normalize_of_vec_eq_zero hq, normalize_of_vec_eq_zero hq]
  · have hq' : (normalize q).vec ≠ 0 := by
      rw [vec_normalize_direction]
      exact direction_ne_zero hq
    rw [normalize_inj hq' hq, vec_normalize_direction, vec_normalize_direction, direction_direction]

theorem kept_overwrite (target source : Quaternion ℝ) :
    (target.overwrite source).kept source = target.kept source := by
  have hkeep (t s : Optional ℝ) : (if s.has then .absent else t.copyIf s : Optional ℝ) =
      if s.has then .absent else t := by
    cases s with
    | absent => rfl
    | present v => rfl
  simp only [kept, overwrite, hkeep]

theorem vec_kept_smul {r : Quaternion ℝ} {a : ℝ} (h : q.vec = a • r.vec) (source : Quaternion ℝ) :
    (q.kept source).vec = a • (r.kept source).vec := by
  have hkeep {x y : Optional ℝ} (hxy : x.val = a * y.val) (s : Optional ℝ) :
      (if s.has then .absent else x : Optional ℝ).val =
        a * (if s.has then .absent else y : Optional ℝ).val := by
    cases s with
    | absent => exact hxy
    | present v => exact (mul_zero a).symm
  ext i
  fin_cases i
  · exact hkeep (congrArg (· 0) h) source.u0
  · exact hkeep (congrArg (· 1) h) source.u1
  · exact hkeep (congrArg (· 2) h) source.u2
  · exact hkeep (congrArg (· 3) h) source.u3

/-- Both parts of a sum that vanishes are zero, also when one of them is scaled. -/
theorem written_and_kept_eq_zero {a : ℝ} (ha : a ≠ 0)
    (h : source.vec + a • (target.kept source).vec = 0) :
    source.vec = 0 ∧ (target.kept source).vec = 0 := by
  have horth := inner_vec_kept target source
  have hwritten : source.vec = 0 := by
    have hinner := congrArg (inner ℝ source.vec) h
    rw [inner_add_right, inner_smul_right, horth, mul_zero, add_zero, inner_zero_right] at hinner
    exact inner_self_eq_zero.mp hinner
  rw [hwritten, zero_add] at h
  exact ⟨hwritten, (smul_eq_zero.mp h).resolve_left ha⟩

theorem copyPresent_copyPresent_iff (target source : Quaternion ℝ) :
    (target.copyPresent source).copyPresent source = target.copyPresent source ↔
      target.Repeatable source := by
  have hvec := vec_overwrite target source
  rw [repeatable_iff, copyPresent_eq, copyPresent_eq]
  by_cases hzero : (target.overwrite source).vec = 0
  · rw [normalize_of_vec_eq_zero hzero, overwrite_overwrite, normalize_of_vec_eq_zero hzero]
    rw [hvec, ← one_smul ℝ (target.kept source).vec] at hzero
    exact iff_of_true rfl (.inr (.inl (written_and_kept_eq_zero one_ne_zero hzero).1))
  · have hscale : ((normalize (target.overwrite source)).kept source).vec =
        ‖(target.overwrite source).vec‖⁻¹ • (target.kept source).vec := by
      rw [vec_kept_smul (vec_normalize _), kept_overwrite]
    have hvec' : ((normalize (target.overwrite source)).overwrite source).vec =
        source.vec + ‖source.vec + (target.kept source).vec‖⁻¹ • (target.kept source).vec := by
      rw [vec_overwrite, hscale, hvec]
    have hlength : ‖source.vec + (target.kept source).vec‖⁻¹ ≠ 0 := by
      rw [← hvec]
      exact inv_ne_zero (norm_ne_zero_iff.mpr hzero)
    have hzero' : ((normalize (target.overwrite source)).overwrite source).vec ≠ 0 := by
      rw [hvec']
      intro h
      obtain ⟨hwritten, hkept⟩ := written_and_kept_eq_zero hlength h
      apply hzero
      rw [hvec, hwritten, hkept, add_zero]
    rw [normalize_inj hzero' hzero, vec_normalize_direction, vec_normalize_direction, hvec', hvec,
      direction_add_smul_iff (inner_vec_kept target source)]

theorem normalize_copyPresent (target source : Quaternion ℝ) :
    normalize (target.copyPresent source) = target.copyPresent source :=
  normalize_normalize _

/-- The target is either not read or not changed. -/
theorem convert_convert_self (q : Quaternion ℝ) (target : Euler ℝ) :
    q.convert (q.convert target) = q.convert target := by
  unfold Quaternion.convert
  split
  · rfl
  · rfl

end Quaternion

/-! ### Messages with quaternions -/

/-- Euler angles are written, or no quaternion, or the copy of the quaternion is repeatable. -/
def CartesianPose.Repeatable (target source : CartesianPose ℝ) : Prop :=
  source.euler.has = false → source.quaternion.has = true →
    target.quaternion.get.Repeatable source.quaternion.get

def CartesianSpace.Repeatable (target source : CartesianSpace ℝ) : Prop :=
  source.pose.has = true → target.pose.get.Repeatable source.pose.get

def Robot.Repeatable (target source : Robot ℝ) : Prop :=
  source.cartesian.has = true → target.cartesian.get.Repeatable source.cartesian.get

def Output.Repeatable (target source : Output ℝ) : Prop :=
  source.robot.has = true → target.robot.get.Repeatable source.robot.get

/-- The position is copied in any case; then the branch for the orientation. -/
theorem CartesianPose.copyPresent_eq (target source : CartesianPose ℝ) :
    target.copyPresent source =
      let position := target.position.copyField Cartesian.copyPresent source.position
      if source.euler.has then
        let euler := target.euler.get.copyPresent source.euler.get
        ⟨position, .present euler, .present euler.convert⟩
      else if source.quaternion.has then
        let quaternion := target.quaternion.get.copyPresent source.quaternion.get
        ⟨position, .present (quaternion.convert target.euler.get), .present quaternion⟩
      else ⟨position, target.euler, target.quaternion⟩ := by
  have hnormalize := target.quaternion.get.normalize_copyPresent source.quaternion.get
  unfold CartesianPose.copyPresent copyField
  cases source.position.has <;> cases source.euler.has <;> cases source.quaternion.has <;>
    simp [Optional.modify, hnormalize]

theorem CartesianPose.copyPresent_copyPresent_iff (target source : CartesianPose ℝ) :
    (target.copyPresent source).copyPresent source = target.copyPresent source ↔
      target.Repeatable source := by
  have hposition : (target.position.copyField Cartesian.copyPresent source.position).copyField
      Cartesian.copyPresent source.position =
        target.position.copyField Cartesian.copyPresent source.position := by
    rw [copyField_copyField_iff]
    exact fun _ => Cartesian.copyPresent_copyPresent _ _
  rw [copyPresent_eq, copyPresent_eq]
  unfold Repeatable
  cases heuler : source.euler.has with
  | true => simp [hposition, Euler.copyPresent_copyPresent]
  | false =>
      cases hquaternion : source.quaternion.has with
      | false => simp [hposition]
      | true =>
          simp only [Bool.false_eq_true, if_false, if_true, hposition, get_present, CartesianPose.mk.injEq,
            present.injEq, true_and, forall_const]
          rw [← Quaternion.copyPresent_copyPresent_iff]
          constructor
          · rintro ⟨-, h⟩
            exact h
          · intro h
            rw [h]
            exact ⟨Quaternion.convert_convert_self _ _, rfl⟩

theorem CartesianSpace.copyPresent_copyPresent_iff (target source : CartesianSpace ℝ) :
    (target.copyPresent source).copyPresent source = target.copyPresent source ↔
      target.Repeatable source := by
  have hcopy (target source : CartesianSpace ℝ) : target.copyPresent source =
      ⟨target.pose.copyField CartesianPose.copyPresent source.pose,
        target.velocity.copyField CartesianVelocity.copyPresent source.velocity⟩ := by
    unfold CartesianSpace.copyPresent copyField
    cases source.pose.has <;> cases source.velocity.has <;> rfl
  simp only [hcopy, CartesianSpace.mk.injEq, copyField_copyField_iff,
    CartesianVelocity.copyPresent_copyPresent, implies_true, and_true,
    CartesianPose.copyPresent_copyPresent_iff]
  exact Iff.rfl

theorem Robot.copyPresent_copyPresent_iff (target source : Robot ℝ) :
    (target.copyPresent source).copyPresent source = target.copyPresent source ↔
      target.Repeatable source := by
  have hcopy (target source : Robot ℝ) : target.copyPresent source =
      ⟨target.joints.copyField JointSpace.copyPresent source.joints,
        target.cartesian.copyField CartesianSpace.copyPresent source.cartesian⟩ := by
    unfold Robot.copyPresent copyField
    cases source.joints.has <;> cases source.cartesian.has <;> rfl
  simp only [hcopy, Robot.mk.injEq, copyField_copyField_iff, JointSpace.copyPresent_copyPresent,
    implies_true, true_and, CartesianSpace.copyPresent_copyPresent_iff]
  exact Iff.rfl

theorem Output.copyPresent_copyPresent_iff (target source : Output ℝ) :
    (target.copyPresent source).copyPresent source = target.copyPresent source ↔
      target.Repeatable source := by
  have hcopy (target source : Output ℝ) : target.copyPresent source =
      ⟨target.robot.copyField Robot.copyPresent source.robot,
        target.external.copyField External.copyPresent source.external⟩ := by
    unfold Output.copyPresent copyField
    cases source.robot.has <;> cases source.external.has <;> rfl
  simp only [hcopy, Output.mk.injEq, copyField_copyField_iff, External.copyPresent_copyPresent,
    implies_true, and_true, Robot.copyPresent_copyPresent_iff]
  exact Iff.rfl

/-! ### Two callbacks without a write between them -/

namespace EGMInterface

variable {β : Type} (ParseFromArray : β → Bool × EgmRobot ℝ)

/-- The datagram is accepted, the outputs are read for it, and nothing is written meanwhile. -/
structure ReadsOutputs (s : EGMInterface (BaseConfiguration ℝ) (ControllerMotion ℝ) ℝ)
    (data : Option β) (mid : List (ControllerCall ℝ)) : Prop where
  accepted : s.accepts controllerHandler ParseFromArray data = true
  reads : ((s.initializeCallback controllerHandler ParseFromArray data).2.inputs.firstMessage ||
    (s.initializeCallback controllerHandler ParseFromArray data).2.inputs.statesOk) = true
  noDemo : (s.initializeCallback controllerHandler ParseFromArray
    data).2.configuration.active.useDemoOutputs = false
  unwritten : mid.any ControllerCall.isWrite = false

variable {ParseFromArray} {s : EGMInterface (BaseConfiguration ℝ) (ControllerMotion ℝ) ℝ}
  {data data' : Option β} {mid mid' : List (ControllerCall ℝ)}

theorem ReadsOutputs.callback (h : s.ReadsOutputs ParseFromArray data mid) :
    (s.callback controllerHandler ParseFromArray data mid).motion.outputs = s.motion.outputs ∧
    (s.callback controllerHandler ParseFromArray data mid).outputs.current =
      (s.initializeCallback controllerHandler ParseFromArray data).2.outputs.current.copyPresent
        s.motion.outputs := by
  obtain ⟨-, -, hmotion, houtputs⟩ := execute_controller h.noDemo mid
  rw [callback_of_accepted controllerHandler ParseFromArray h.accepted mid]
  rw [initializeCallback_motion, lastWritten_of_not_write h.unwritten] at hmotion houtputs
  refine ⟨hmotion, ?_⟩
  unfold finish
  change (OutputContainer.constructReply _ _).current = _
  rw [OutputContainer.constructReply_current, houtputs]
  exact if_pos h.reads

theorem ReadsOutputs.again_iff (h : s.ReadsOutputs ParseFromArray data mid)
    (h' : (s.callback controllerHandler ParseFromArray data mid).ReadsOutputs ParseFromArray data' mid')
    (hlater : ((s.callback controllerHandler ParseFromArray data mid).inputs.parseFromArray
      ParseFromArray data').2.firstMessage = false) :
    ((s.callback controllerHandler ParseFromArray data mid).callback controllerHandler
        ParseFromArray data' mid').outputs.current =
      (s.callback controllerHandler ParseFromArray data mid).outputs.current ↔
    (s.initializeCallback controllerHandler ParseFromArray data).2.outputs.current.Repeatable
      s.motion.outputs := by
  obtain ⟨hmotion, hcurrent⟩ := h.callback
  rw [h'.callback.2, initializeCallback_later controllerHandler ParseFromArray data' fun _ => hlater,
    hmotion, hcurrent]
  exact Output.copyPresent_copyPresent_iff _ _

/-- **When copying again changes nothing**: of all messages, and of the references of two callbacks
without a write between them. -/
theorem repeated_copy_iff (target source : Output ℝ) :
    ((target.copyPresent source).copyPresent source = target.copyPresent source ↔
      target.Repeatable source) ∧
    ∀ (β : Type) (ParseFromArray : β → Bool × EgmRobot ℝ)
      (s : EGMInterface (BaseConfiguration ℝ) (ControllerMotion ℝ) ℝ) (data data' : Option β)
      (mid mid' : List (ControllerCall ℝ)), s.ReadsOutputs ParseFromArray data mid →
      (s.callback controllerHandler ParseFromArray data mid).ReadsOutputs ParseFromArray data' mid' →
      ((s.callback controllerHandler ParseFromArray data mid).inputs.parseFromArray
        ParseFromArray data').2.firstMessage = false →
      (((s.callback controllerHandler ParseFromArray data mid).callback controllerHandler
          ParseFromArray data' mid').outputs.current =
        (s.callback controllerHandler ParseFromArray data mid).outputs.current ↔
      (s.initializeCallback controllerHandler ParseFromArray data).2.outputs.current.Repeatable
        s.motion.outputs) := by
  refine ⟨Output.copyPresent_copyPresent_iff target source, ?_⟩
  intro β ParseFromArray s data data' mid mid' h h' hlater
  exact h.again_iff h' hlater

/-! ### A robot that stands still -/

/-- A running robot with all joints at zero. -/
noncomputable def stands (seqno : UInt32) : EgmRobot ℝ :=
  let planned : EgmPlanned ℝ :=
    { joints := .present ⟨[0, 0, 0, 0, 0, 0]⟩
      cartesian := .present
        { pos := .present ⟨.present 0, .present 0, .present 0⟩
          orient := .present ⟨.present 0, .present 1, .present 0, .present 0⟩ }
      time := .present ⟨.present 0, .present 0⟩ }
  { header := .present ⟨.present seqno, .present 0, .present .data⟩
    feedBack := .present planned
    planned := .present planned
    motorState := .present ⟨.present .on⟩
    mciState := .present ⟨.present .running⟩
    rapidExecState := .present ⟨.present .running⟩
    mciConvergenceMet := .present true }

/-- The bytes are the messages themselves. -/
def received (m : EgmRobot ℝ) : Bool × EgmRobot ℝ := (true, m)

theorem extractParsedInformation_status {i : InputContainer ℝ} {axes : RobotAxes}
    (h : (i.hasNewData && (i.parseParts axes).1) = true) :
    (i.extractParsedInformation axes).2.current.status = (i.parseParts axes).2.status := by
  rw [Bool.and_eq_true] at h
  have hstatus (j : InputContainer ℝ) :
      j.estimateAllVelocities.2.current.status = j.current.status := by
    unfold InputContainer.estimateAllVelocities
    dsimp only
    split
    · rfl
    · rfl
  unfold InputContainer.extractParsedInformation
  simp only [h.1, h.2, if_true]
  rw [hstatus]
  split
  · rfl
  · rfl

theorem readsOutputs_stands {s : EGMInterface (BaseConfiguration ℝ) (ControllerMotion ℝ) ℝ}
    (hconfiguration : s.configuration = ⟨⟨.six, false, true, false, 60⟩, ⟨.six, false, true, false, 60⟩,
      false⟩) (seqno : UInt32) : s.ReadsOutputs received (some (stands seqno)) [] := by
  have hactive : (s.initializeCallback controllerHandler received (some (stands seqno))).2.configuration =
      s.configuration := by
    rw [initializeCallback_configuration]
    unfold switches
    rw [hconfiguration, Bool.and_false, if_neg Bool.false_ne_true]
  have hparsed : (s.inputs.parseFromArray received (some (stands seqno))).1 = true := rfl
  obtain ⟨haccepts, hinputs, -⟩ :=
    initializeCallback_of_parsed controllerHandler received hparsed rfl
  rw [hactive, hconfiguration] at haccepts hinputs
  have hparts : ((s.inputs.parseFromArray received (some (stands seqno))).2.hasNewData &&
      ((s.inputs.parseFromArray received (some (stands seqno))).2.parseParts .six).1) = true := rfl
  refine ⟨?_, ?_, ?_, rfl⟩
  · rw [haccepts]
    exact (InputContainer.extractParsedInformation_fst _ _).trans hparts
  · rw [hinputs, Bool.or_eq_true]
    right
    unfold InputContainer.statesOk
    have hstatus := extractParsedInformation_status hparts
    simp only [controllerHandler] at hstatus ⊢
    rw [hstatus]
    rfl
  · rw [hactive, hconfiguration]

theorem extractParsedInformation_firstCall (i : InputContainer ℝ) (axes : RobotAxes) :
    (i.extractParsedInformation axes).2.firstCall = i.firstCall := by
  unfold InputContainer.extractParsedInformation
  dsimp only
  split_ifs
  · exact (InputContainer.estimateAllVelocities_frame _).2.2.2
  · exact (InputContainer.estimateAllVelocities_frame _).2.2.2
  · rfl
  · rfl

theorem ReadsOutputs.frame {β : Type} {ParseFromArray : β → Bool × EgmRobot ℝ}
    {s : EGMInterface (BaseConfiguration ℝ) (ControllerMotion ℝ) ℝ} {data : Option β}
    {mid : List (ControllerCall ℝ)} (h : s.ReadsOutputs ParseFromArray data mid) :
    (s.callback controllerHandler ParseFromArray data mid).inputs.firstCall = false ∧
      (s.callback controllerHandler ParseFromArray data mid).configuration =
        (s.initializeCallback controllerHandler ParseFromArray data).2.configuration := by
  have hparsed := parsed_of_accepts h.accepted
  have hcall : (s.inputs.parseFromArray ParseFromArray data).2.firstCall = false := by
    unfold InputContainer.parseFromArray at hparsed ⊢
    cases data with
    | none => simp at hparsed
    | some bytes =>
        cases hnew : (ParseFromArray bytes).1 with
        | false => simp [hnew] at hparsed
        | true => simp [hnew]
  obtain ⟨hinputs, hconfiguration, -, -⟩ := execute_controller h.noDemo mid
  rw [callback_of_accepted controllerHandler ParseFromArray h.accepted mid]
  refine ⟨?_, hconfiguration⟩
  change ((s.initializeCallback controllerHandler ParseFromArray data).2.execute
    controllerHandler mid).inputs.firstCall = false
  rw [hinputs, (initializeCallback_of_parsed controllerHandler ParseFromArray hparsed rfl).2.1,
    extractParsedInformation_firstCall, hcall]

/-- An orientation, as a message. -/
def orientation (quaternion : Quaternion ℝ) : Output ℝ :=
  { robot := .present
      { cartesian := .present { pose := .present { quaternion := .present quaternion } } } }

noncomputable def written (outputs : Output ℝ) :
    EGMInterface (BaseConfiguration ℝ) (ControllerMotion ℝ) ℝ :=
  init ⟨.six, false, true, false, 60⟩ { ControllerMotion.init with outputs := outputs }

/-- A whole quaternion was written. -/
theorem repeated_copy_whole :
    (((written (orientation (.of 0 0 1 0))).callback controllerHandler received
        (some (stands 0)) []).callback controllerHandler received (some (stands 1)) []).outputs.current =
      ((written (orientation (.of 0 0 1 0))).callback controllerHandler received
        (some (stands 0)) []).outputs.current := by
  have hfirst : (written (orientation (.of 0 0 1 0))).ReadsOutputs received (some (stands 0)) [] :=
    readsOutputs_stands rfl 0
  have hconfiguration : ((written (orientation (.of 0 0 1 0))).callback controllerHandler received
      (some (stands 0)) []).configuration =
        ⟨⟨.six, false, true, false, 60⟩, ⟨.six, false, true, false, 60⟩, false⟩ := by
    rw [hfirst.frame.2, initializeCallback_configuration]
    rfl
  have hlater : (((written (orientation (.of 0 0 1 0))).callback controllerHandler received
      (some (stands 0)) []).inputs.parseFromArray received (some (stands 1))).2.firstMessage =
        false := by
    change (((written (orientation (.of 0 0 1 0))).callback controllerHandler received
      (some (stands 0)) []).inputs.firstCall || (1 : UInt32) == 0) = false
    rw [hfirst.frame.1]
    rfl
  refine ((repeated_copy_iff {} (orientation (.of 0 0 1 0))).2 _ received _ (some (stands 0)) (some (stands 1)) [] [] hfirst
    (readsOutputs_stands hconfiguration 1) hlater).mpr ?_
  intro _ _ _ _ _
  refine .inr (.inr ⟨?_, ?_, ?_, ?_⟩) <;> exact fun h => nomatch h

/-- Only `u0` was written, and the robot is turned half around the `x` axis. -/
theorem repeated_copy_partial : ¬∀ target source : Output ℝ,
    (target.copyPresent source).copyPresent source = target.copyPresent source := by
  intro hall
  have hrepeatable := (Output.copyPresent_copyPresent_iff _ _).mp
    (hall (orientation (.of 0 1 0 0)) (orientation { u0 := .present 1 }))
  rcases hrepeatable rfl rfl rfl rfl rfl with hunit | ⟨hzero, -⟩ | ⟨-, hzero, -⟩
  · norm_num [orientation, Quaternion.overwrite, dotProduct, Quaternion.of] at hunit
  · norm_num [orientation] at hzero
  · norm_num [orientation, Quaternion.of] at hzero

end EGMInterface

end AbbWrapper
