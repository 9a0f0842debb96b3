import Mathlib.Algebra.Order.Field.Basic
import Mathlib.Tactic.Positivity
import AbbWrapper.SpeedReference

/-! # Rejected datagrams

A datagram that is rejected leaves traces: the message object, parts of the current inputs, and,
when it could be parsed, `first_call_` and a pending configuration.  The current inputs are
overwritten by the next accepted message, up to the velocities that are estimated last; so the
replies do not depend on a rejected datagram unless it was a first message.

* `Agree` says of two states of an interface that they differ at most in what the next accepted message
  overwrites; `SameValues` says of two inputs that they differ at most in the velocities.
* `RejectsLate` says of an event: if it is a datagram that is rejected and can be parsed, it is not a first
  message.
* `remaining` is a run without its rejected datagrams; the calls of the user stay.

A rejected datagram leads to a state that agrees with the one before (`Agree.rejected`), and an accepted
message leads agreeing states to the same one (`Agree.accepted`).  With both, `rejected_harmless` compares
the replies of the two runs.  A first message that is rejected is not made good for
(`rejected_first_message`). -/

namespace AbbWrapper

open Protobuf Runs

variable {α β κ μ υ : Type}

/-! ### The velocities survive a parse -/

/-- What `parse` does not write. -/
def Feedback.velocities (f : Feedback α) :
    Optional (Joints α) × Optional (CartesianVelocity α) × Optional (Joints α) :=
  (f.robotJoints.velocity, f.robotCartesian.velocity, f.externalJoints.velocity)

section parse
variable [Field α]

theorem EgmHeader.parse_congr (target target' : Header) (source : EgmHeader) :
    (source.parse target).1 = (source.parse target').1 ∧
      ((source.parse target).1 = true → source.parse target = source.parse target') := by
  unfold EgmHeader.parse
  split
  · split
    · exact ⟨rfl, fun _ => rfl⟩
    · exact ⟨rfl, fun h => absurd h (by simp)⟩
  · exact ⟨rfl, fun h => absurd h (by simp)⟩

omit [Field α] in
theorem EgmRobot.parseStatus_congr (target target' : Status) (source : EgmRobot α) :
    (source.parseStatus target).1 = (source.parseStatus target').1 ∧
      ((source.parseStatus target).1 = true →
        source.parseStatus target = source.parseStatus target') := by
  unfold EgmRobot.parseStatus
  split
  · exact ⟨rfl, fun _ => rfl⟩
  · exact ⟨rfl, fun h => absurd h (by simp)⟩

theorem EgmClock.parse_congr (target target' : Clock) (source : EgmClock) :
    (source.parse target).1 = (source.parse target').1 ∧
      ((source.parse target).1 = true → source.parse target = source.parse target') := by
  unfold EgmClock.parse
  split
  · exact ⟨rfl, fun _ => rfl⟩
  · exact ⟨rfl, fun h => absurd h (by simp)⟩

variable [LinearOrder α] [Cmath α]

theorem EgmPlanned.parse_velocities (target : Feedback α) (source : EgmPlanned α)
    (axes : RobotAxes) : (source.parse target axes).2.velocities = target.velocities := by
  unfold EgmPlanned.parse
  simp only
  split_ifs <;> rfl

/-- A successful parse depends on its target through the velocities only. -/
theorem EgmPlanned.parse_congr {target target' : Feedback α} (source : EgmPlanned α)
    (axes : RobotAxes) (h : target.velocities = target'.velocities) :
    (source.parse target axes).1 = (source.parse target' axes).1 ∧
      ((source.parse target axes).1 = true →
        source.parse target axes = source.parse target' axes) := by
  simp only [Feedback.velocities, Feedback.robotJoints, Feedback.robotCartesian,
    Feedback.externalJoints, Prod.mk.injEq] at h
  obtain ⟨hrobot, hcartesian, hexternal⟩ := h
  obtain ⟨htime, htime'⟩ := source.time.get.parse_congr target.time.get target'.time.get
  unfold EgmPlanned.parse
  simp only
  split
  · split
    · refine ⟨htime, fun hok => ?_⟩
      rw [htime' hok]
      simp only [Optional.modify, Robot.modifyJoints, Robot.modifyCartesian,
        External.modifyJoints, JointSpace.setPosition, CartesianSpace.setPose, Optional.get_present,
        hrobot, hcartesian, hexternal]
    · exact ⟨rfl, fun h => absurd h (by simp)⟩
  · exact ⟨rfl, fun h => absurd h (by simp)⟩

end parse

/-! ### The inputs -/

def Input.velocities (i : Input α) :=
  (i.feedback.get.velocities, i.planned.get.velocities)

/-- The same up to the velocities. -/
def Feedback.SameValues (f g : Feedback α) : Prop :=
  f.robotJoints.position = g.robotJoints.position ∧
    f.robotCartesian.pose = g.robotCartesian.pose ∧
    f.externalJoints.position = g.externalJoints.position ∧ f.time = g.time

def Input.SameValues (i j : Input α) : Prop :=
  i.header = j.header ∧ i.feedback.get.SameValues j.feedback.get ∧
    i.planned.get.SameValues j.planned.get ∧ i.status = j.status

namespace InputContainer

variable [Field α] [LinearOrder α] [Cmath α]

theorem parseParts_velocities (i : InputContainer α) (axes : RobotAxes) :
    (i.parseParts axes).2.velocities = i.current.velocities := by
  unfold parseParts Input.velocities
  simp only
  split_ifs <;> simp only [Optional.get_present, EgmPlanned.parse_velocities]

/-- Successfully parsed inputs depend on those before through the velocities only. -/
theorem parseParts_congr (i : InputContainer α) (current : Input α) (axes : RobotAxes)
    (h : i.current.velocities = current.velocities) :
    (i.parseParts axes).1 = ({ i with current := current }.parseParts axes).1 ∧
      ((i.parseParts axes).1 = true →
        i.parseParts axes = { i with current := current }.parseParts axes) := by
  obtain ⟨hfeedback, hplanned⟩ := Prod.mk.injEq _ _ _ _ ▸ h
  obtain ⟨hheader, hheader'⟩ :=
    i.egmRobot.header.get.parse_congr i.current.header.get current.header.get
  obtain ⟨hfeedback, hfeedback'⟩ := i.egmRobot.feedBack.get.parse_congr axes hfeedback
  obtain ⟨hplanned, hplanned'⟩ := i.egmRobot.planned.get.parse_congr axes hplanned
  obtain ⟨hstatus, hstatus'⟩ :=
    i.egmRobot.parseStatus_congr i.current.status.get current.status.get
  unfold parseParts
  simp only [← hheader]
  split
  next hok =>
    rw [← hheader' hok]
    simp only [← hfeedback]
    split
    next hok =>
      rw [← hfeedback' hok]
      simp only [← hplanned]
      split
      next hok =>
        rw [← hplanned' hok]
        refine ⟨hstatus, fun hok => ?_⟩
        rw [hstatus' hok]
      next => exact ⟨rfl, fun h => absurd h (by simp)⟩
    next => exact ⟨rfl, fun h => absurd h (by simp)⟩
  next => exact ⟨rfl, fun h => absurd h (by simp)⟩

section sampleTime
variable [IsStrictOrderedRing α]

omit [Cmath α] in
theorem estimateSampleTime_pos [FloorRing α] (i : InputContainer α) : 0 < i.estimateSampleTime := by
  have hbounded (estimate : α) : 0 < if estimate < Constants.lowestSampleTime α then
      Constants.lowestSampleTime α else estimate := by
    split
    next => exact Constants.lowestSampleTime_pos
    next h => exact Constants.lowestSampleTime_pos.trans_le (not_lt.mp h)
  exact hbounded _

omit [IsStrictOrderedRing α] in
theorem estimateVelocities_fst (current previous : Feedback α) {sampleTime : α}
    (h : 0 < sampleTime) : (current.estimateVelocities previous sampleTime).1 = true := by
  simp [Feedback.estimateVelocities, Joints.estimateVelocities, CartesianPose.estimateVelocities,
    Quaternion.estimateVelocities, h]

omit [IsStrictOrderedRing α] in
theorem estimateAllVelocities_fst {i : InputContainer α} (h : 0 < i.estimatedSampleTime) :
    i.estimateAllVelocities.1 = true := by
  unfold estimateAllVelocities
  simp only [estimateVelocities_fst _ _ h, if_true]

variable [FloorRing α]

/-- Velocities can always be estimated: a message is accepted when its parts can be parsed. -/
theorem extractParsedInformation_fst (i : InputContainer α) (axes : RobotAxes) :
    (i.extractParsedInformation axes).1 = (i.hasNewData && (i.parseParts axes).1) := by
  unfold extractParsedInformation
  cases hnew : i.hasNewData with
  | false => rfl
  | true =>
      cases hparts : (i.parseParts axes).1 with
      | false => simp [hparts]
      | true =>
          simp only [hparts, if_true, Bool.true_and]
          exact estimateAllVelocities_fst (estimateSampleTime_pos _)

theorem extractParsedInformation_rejected {i : InputContainer α} {axes : RobotAxes}
    (h : (i.extractParsedInformation axes).1 = false) :
    (i.extractParsedInformation axes).2 =
      if i.hasNewData then { i with current := (i.parseParts axes).2 } else i := by
  rw [extractParsedInformation_fst] at h
  unfold extractParsedInformation
  cases hnew : i.hasNewData with
  | false => rfl
  | true =>
      rw [hnew, Bool.true_and] at h
      simp [h]

theorem extractParsedInformation_congr (i : InputContainer α) (current : Input α)
    (axes : RobotAxes) (h : i.current.velocities = current.velocities) :
    (i.extractParsedInformation axes).1 =
        ({ i with current := current }.extractParsedInformation axes).1 ∧
      ((i.extractParsedInformation axes).1 = true → i.extractParsedInformation axes =
        { i with current := current }.extractParsedInformation axes) := by
  obtain ⟨hfst, hparts⟩ := i.parseParts_congr current axes h
  rw [extractParsedInformation_fst, extractParsedInformation_fst, ← hfst]
  refine ⟨rfl, fun hok => ?_⟩
  rw [Bool.and_eq_true] at hok
  unfold extractParsedInformation
  rw [← hparts hok.2]
  simp only [hok.1, hok.2, if_true]

omit [IsStrictOrderedRing α] [FloorRing α] in
theorem estimateVelocities_sameValues (current previous : Feedback α) (sampleTime : α) :
    current.SameValues (current.estimateVelocities previous sampleTime).2 := by
  unfold Feedback.estimateVelocities
  split
  · exact ⟨rfl, rfl, rfl, rfl⟩
  · simp only
    split
    · exact ⟨rfl, rfl, rfl, rfl⟩
    · split <;> exact ⟨rfl, rfl, rfl, rfl⟩

omit [IsStrictOrderedRing α] [FloorRing α] in
theorem estimateAllVelocities_sameValues (i : InputContainer α) :
    i.current.SameValues i.estimateAllVelocities.2.current := by
  unfold estimateAllVelocities
  simp only
  split
  · exact ⟨rfl, estimateVelocities_sameValues _ _ _, estimateVelocities_sameValues _ _ _, rfl⟩
  · exact ⟨rfl, estimateVelocities_sameValues _ _ _, ⟨rfl, rfl, rfl, rfl⟩, rfl⟩

omit [IsStrictOrderedRing α] [FloorRing α] in
theorem estimateAllVelocities_frame (i : InputContainer α) :
    i.estimateAllVelocities.2.initial = i.initial ∧
      i.estimateAllVelocities.2.previous = i.previous ∧
      i.estimateAllVelocities.2.firstMessage = i.firstMessage ∧
      i.estimateAllVelocities.2.firstCall = i.firstCall := by
  unfold estimateAllVelocities
  simp only
  split <;> exact ⟨rfl, rfl, rfl, rfl⟩

omit [IsStrictOrderedRing α] in
theorem extractParsedInformation_firstMessage (i : InputContainer α) (axes : RobotAxes) :
    (i.extractParsedInformation axes).2.firstMessage = i.firstMessage := by
  unfold extractParsedInformation
  simp only
  split_ifs
  · exact (estimateAllVelocities_frame _).2.2.1
  · exact (estimateAllVelocities_frame _).2.2.1
  · rfl
  · rfl

omit [IsStrictOrderedRing α] in
/-- The first message of a session sets the initial and the previous inputs. -/
theorem extractParsedInformation_first {i : InputContainer α} {axes : RobotAxes}
    (haccepted : (i.extractParsedInformation axes).1 = true) (hfirst : i.firstMessage = true) :
    (i.extractParsedInformation axes).2.firstMessage = true ∧
      (i.extractParsedInformation axes).2.initial.SameValues
        (i.extractParsedInformation axes).2.current ∧
      (i.extractParsedInformation axes).2.previous =
        (i.extractParsedInformation axes).2.initial := by
  have hvelocities (j : InputContainer α) (hfirst : j.firstMessage = true)
      (hinitial : j.initial = j.current) (hprevious : j.previous = j.current) :
      j.estimateAllVelocities.2.firstMessage = true ∧
        j.estimateAllVelocities.2.initial.SameValues j.estimateAllVelocities.2.current ∧
        j.estimateAllVelocities.2.previous = j.estimateAllVelocities.2.initial := by
    obtain ⟨hinitial', hprevious', hfirst', -⟩ := j.estimateAllVelocities_frame
    rw [hinitial', hprevious', hfirst', hinitial, hprevious]
    exact ⟨hfirst, j.estimateAllVelocities_sameValues, rfl⟩
  unfold extractParsedInformation at haccepted ⊢
  cases hnew : i.hasNewData with
  | false => simp [hnew] at haccepted
  | true =>
      cases hparts : (i.parseParts axes).1 with
      | false => simp [hnew, hparts] at haccepted
      | true =>
          simp only [hparts, hfirst, if_true]
          exact hvelocities _ rfl rfl rfl

end sampleTime

end InputContainer

/-! ### One datagram -/

namespace EGMInterface

variable [Field α] [LinearOrder α] [Cmath α] [FloorRing α]
  (h : Handler κ μ υ α) (ParseFromArray : β → Bool × EgmRobot α)

/-- The states differ at most in what the next accepted message overwrites. -/
structure Agree (s s' : EGMInterface κ μ α) : Prop where
  initial : s.inputs.initial = s'.inputs.initial
  previous : s.inputs.previous = s'.inputs.previous
  firstCall : s.inputs.firstCall = s'.inputs.firstCall
  sampleTime : s.inputs.estimatedSampleTime = s'.inputs.estimatedSampleTime
  velocities : s.inputs.current.velocities = s'.inputs.current.velocities
  outputs : s.outputs.clearReply = s'.outputs.clearReply
  configuration : s.configuration = s'.configuration
  motion : s.motion = s'.motion

omit [Field α] [LinearOrder α] [Cmath α] [FloorRing α] in
theorem Agree.refl (s : EGMInterface κ μ α) : Agree s s := ⟨rfl, rfl, rfl, rfl, rfl, rfl, rfl, rfl⟩

/-- The state in which a successfully parsed message is extracted. -/
def parsed (s : EGMInterface κ μ α) (data : Option β) : EGMInterface κ μ α :=
  { s with inputs := (s.inputs.parseFromArray ParseFromArray data).2 }

theorem accepts_eq (s : EGMInterface κ μ α) (data : Option β) :
    s.accepts h ParseFromArray data = ((s.inputs.parseFromArray ParseFromArray data).1 &&
      ((s.parsed ParseFromArray data).extract h).1) := by
  unfold accepts initializeCallback parsed
  cases data with
  | none => simp [InputContainer.parseFromArray]
  | some bytes => cases h : (s.inputs.parseFromArray ParseFromArray (some bytes)).1 <;> simp [h]

/-- An accepted message was parsed. -/
theorem parsed_of_accepts {h : Handler κ μ υ α} {ParseFromArray : β → Bool × EgmRobot α}
    {s : EGMInterface κ μ α} {data : Option β}
    (haccepted : s.accepts h ParseFromArray data = true) :
    (s.inputs.parseFromArray ParseFromArray data).1 = true := by
  rw [accepts_eq, Bool.and_eq_true] at haccepted
  exact haccepted.1

theorem initializeCallback_parsed {s : EGMInterface κ μ α} {data : Option β}
    (hparsed : (s.inputs.parseFromArray ParseFromArray data).1 = true) :
    s.initializeCallback h ParseFromArray data =
      let r := (s.parsed ParseFromArray data).extract h
      (r.1, { r.2 with outputs :=
        if r.1 then s.outputs.clearReply.prepareOutputs r.2.inputs else s.outputs.clearReply }) := by
  have houtputs : ((s.parsed ParseFromArray data).extract h).2.outputs = s.outputs :=
    (updateConfiguration_frame h (s.parsed ParseFromArray data)).2
  unfold initializeCallback
  cases data with
  | none => simp [InputContainer.parseFromArray] at hparsed
  | some bytes =>
      simp only [hparsed, if_true]
      rw [show ({ s with inputs := (s.inputs.parseFromArray ParseFromArray (some bytes)).2 } :
        EGMInterface κ μ α) = s.parsed ParseFromArray (some bytes) from rfl]
      generalize (s.parsed ParseFromArray (some bytes)).extract h = r at houtputs ⊢
      rw [houtputs]
      cases r.1 <;> rfl

omit [Field α] [LinearOrder α] [Cmath α] [FloorRing α] in
theorem parseFromArray_agree {s s' : EGMInterface κ μ α} (hs : Agree s s') (data : Option β) :
    (s.inputs.parseFromArray ParseFromArray data).1 =
        (s'.inputs.parseFromArray ParseFromArray data).1 ∧
      ((s.inputs.parseFromArray ParseFromArray data).1 = true →
        (s'.inputs.parseFromArray ParseFromArray data).2 =
          { (s.inputs.parseFromArray ParseFromArray data).2 with
            current := s'.inputs.current }) := by
  cases data with
  | none => exact ⟨rfl, fun h => absurd h (by simp [InputContainer.parseFromArray])⟩
  | some bytes =>
      simp only [InputContainer.parseFromArray]
      split
      next hok =>
        simp only [true_and, forall_const]
        rw [hs.initial, hs.previous, hs.firstCall, hs.sampleTime]
      next => exact ⟨rfl, fun h => absurd h (by simp)⟩

variable [IsStrictOrderedRing α]

omit [IsStrictOrderedRing α] [LinearOrder α] [Cmath α] [FloorRing α] [Field α] in
theorem updateConfiguration_congr {s s' : EGMInterface κ μ α}
    (hfirst : s'.inputs.firstMessage = s.inputs.firstMessage)
    (hconfiguration : s'.configuration = s.configuration) (hmotion : s'.motion = s.motion) :
    (s'.updateConfiguration h).configuration = (s.updateConfiguration h).configuration ∧
      (s'.updateConfiguration h).motion = (s.updateConfiguration h).motion := by
  unfold updateConfiguration
  rw [hfirst, hconfiguration, hmotion]
  split
  next => exact ⟨rfl, rfl⟩
  next => exact ⟨hconfiguration, hmotion⟩

/-- The outcome of a successful extraction does not depend on what has been in the current
inputs. -/
theorem extract_congr (s s' : EGMInterface κ μ α) {current : Input α}
    (hinputs : s'.inputs = { s.inputs with current := current })
    (hvelocities : s.inputs.current.velocities = current.velocities)
    (hconfiguration : s'.configuration = s.configuration) (hmotion : s'.motion = s.motion) :
    (s.extract h).1 = (s'.extract h).1 ∧ ((s.extract h).1 = true →
      (s'.extract h).2 = { (s.extract h).2 with outputs := s'.outputs }) := by
  obtain ⟨hconfiguration, hmotion⟩ :=
    updateConfiguration_congr h (by rw [hinputs]) hconfiguration hmotion
  obtain ⟨hinputs₁, -⟩ := s.updateConfiguration_frame h
  obtain ⟨hinputs₂, houtputs₂⟩ := s'.updateConfiguration_frame h
  obtain ⟨hfst, hextracted⟩ := s.inputs.extractParsedInformation_congr current
    (h.base (s.updateConfiguration h).configuration.active).axes hvelocities
  unfold extract
  simp only [hinputs₁, hinputs₂, houtputs₂, hconfiguration, hmotion, hinputs]
  refine ⟨hfst, fun hok => ?_⟩
  rw [← hextracted hok]

/-- An accepted message leads agreeing states to the same state. -/
theorem Agree.accepted {s s' : EGMInterface κ μ α} (hs : Agree s s') (data : Option β) :
    s.accepts h ParseFromArray data = s'.accepts h ParseFromArray data ∧
      (s.accepts h ParseFromArray data = true → ∀ mid,
        s.callback h ParseFromArray data mid = s'.callback h ParseFromArray data mid) := by
  obtain ⟨hfst, hparsed⟩ := parseFromArray_agree ParseFromArray hs data
  rw [accepts_eq, accepts_eq, ← hfst]
  cases hok : (s.inputs.parseFromArray ParseFromArray data).1 with
  | false => simp
  | true =>
      have hvelocities : (s.parsed ParseFromArray data).inputs.current.velocities =
          s'.inputs.current.velocities := by
        rw [← hs.velocities]
        cases data with
        | none => rfl
        | some bytes => simp only [parsed, InputContainer.parseFromArray]; split <;> rfl
      obtain ⟨hext, hextracted⟩ := extract_congr h (s.parsed ParseFromArray data)
        (s'.parsed ParseFromArray data) (hparsed hok) hvelocities hs.configuration.symm
        hs.motion.symm
      rw [Bool.true_and, Bool.true_and]
      refine ⟨hext, fun hacc mid => ?_⟩
      unfold callback
      rw [initializeCallback_parsed h ParseFromArray hok,
        initializeCallback_parsed h ParseFromArray (hfst ▸ hok)]
      simp only [← hext, hacc, if_true, hextracted hacc, hs.outputs]

omit [Field α] [LinearOrder α] [Cmath α] [FloorRing α] [IsStrictOrderedRing α] in
theorem updateConfiguration_of_not_first {s : EGMInterface κ μ α}
    (hfirst : s.inputs.firstMessage = false) : s.updateConfiguration h = s := by
  unfold updateConfiguration
  rw [if_neg (by rw [hfirst]; simp)]

omit [Field α] [LinearOrder α] [Cmath α] [FloorRing α] [IsStrictOrderedRing α] in
theorem firstCall_of_not_first {i : InputContainer α} {data : Option β}
    (hparsed : (i.parseFromArray ParseFromArray data).1 = true)
    (hfirst : (i.parseFromArray ParseFromArray data).2.firstMessage = false) :
    i.firstCall = false := by
  cases data with
  | none => simp [InputContainer.parseFromArray] at hparsed
  | some bytes =>
      cases hparse : (ParseFromArray bytes).1 with
      | false => simp [InputContainer.parseFromArray, hparse] at hparsed
      | true =>
          simp only [InputContainer.parseFromArray, hparse, if_true, Bool.or_eq_false_iff] at hfirst
          exact hfirst.1

/-! ### Runs -/

/-- A rejected datagram that can be parsed is not a first message. -/
def RejectsLate (s : EGMInterface κ μ α) : Event κ υ β → Prop
  | .datagram data _ => s.accepts h ParseFromArray data = false →
      (s.inputs.parseFromArray ParseFromArray data).1 = true →
        (s.inputs.parseFromArray ParseFromArray data).2.firstMessage = false
  | _ => True

omit [IsStrictOrderedRing α] in
instance (s : EGMInterface κ μ α) :
    ∀ e : Event κ υ β, Decidable (s.RejectsLate h ParseFromArray e)
  | .datagram _ _ => inferInstanceAs (Decidable (_ → _ → _))
  | .user _ => .isTrue trivial
  | .setConfiguration _ => .isTrue trivial

/-- The replies to the accepted messages. -/
def replies (s : EGMInterface κ μ α) : Event κ υ β → List (Option (EgmSensor α))
  | .datagram data mid => if s.accepts h ParseFromArray data then
      [(s.callback h ParseFromArray data mid).outputs.reply] else []
  | _ => []

/-- What is left of an event without the rejected datagrams: the calls of the user that arrive
while a datagram is rejected stay. -/
def remaining (s : EGMInterface κ μ α) : Event κ υ β → List (Event κ υ β)
  | .datagram data mid => if s.accepts h ParseFromArray data then [.datagram data mid]
      else mid.map .user
  | e => [e]

omit [IsStrictOrderedRing α] in
/-- Calls of the user reach the motion component only, and emit no replies. -/
theorem run_user (s : EGMInterface κ μ α) (mid : List υ) :
    run (step h ParseFromArray) s (mid.map .user) = { s with motion := mid.foldl h.user s.motion } ∧
      collect (step h ParseFromArray) (replies h ParseFromArray) s (mid.map .user) = [] := by
  induction mid generalizing s with
  | nil => exact ⟨rfl, rfl⟩
  | cons call mid ih => exact ih { s with motion := h.user s.motion call }

/-- What a datagram leaves behind that is rejected and is not a first message. -/
theorem Agree.rejected {s s' : EGMInterface κ μ α} (hs : Agree s s') {data : Option β}
    (mid : List υ) (hrejected : s.accepts h ParseFromArray data = false)
    (hlate : s.RejectsLate h ParseFromArray (.datagram data mid)) :
    Agree (s.callback h ParseFromArray data mid)
      { s' with motion := mid.foldl h.user s'.motion } := by
  have hcallback : s.callback h ParseFromArray data mid =
      { (s.initializeCallback h ParseFromArray data).2 with
        motion := mid.foldl h.user (s.initializeCallback h ParseFromArray data).2.motion } := by
    have hfst : (s.initializeCallback h ParseFromArray data).1 = false := hrejected
    unfold callback
    simp only [hfst, Bool.false_eq_true, if_false]
  rw [hcallback]
  have hmotion := congrArg (mid.foldl h.user) hs.motion
  cases data with
  | none =>
      exact ⟨hs.initial, hs.previous, hs.firstCall, hs.sampleTime, hs.velocities, hs.outputs,
        hs.configuration, hmotion⟩
  | some bytes =>
      rw [accepts_eq] at hrejected
      cases hok : (s.inputs.parseFromArray ParseFromArray (some bytes)).1 with
      | false =>
          have hfail : (ParseFromArray bytes).1 = false := by
            cases hfail : (ParseFromArray bytes).1 with
            | false => rfl
            | true => simp [InputContainer.parseFromArray, hfail] at hok
          simp only [initializeCallback, InputContainer.parseFromArray, hfail, Bool.false_eq_true,
            if_false]
          exact ⟨hs.initial, hs.previous, hs.firstCall, hs.sampleTime, hs.velocities, hs.outputs,
            hs.configuration, hmotion⟩
      | true =>
          have hparse : (ParseFromArray bytes).1 = true := by
            cases hparse : (ParseFromArray bytes).1 with
            | true => rfl
            | false => simp [InputContainer.parseFromArray, hparse] at hok
          have hfirst := hlate (by rw [accepts_eq]; exact hrejected) hok
          rw [initializeCallback_parsed h ParseFromArray hok]
          rw [hok, Bool.true_and] at hrejected
          simp only [hrejected, Bool.false_eq_true, if_false]
          have hupdate := updateConfiguration_of_not_first h
            (s := s.parsed ParseFromArray (some bytes)) hfirst
          have hextract := InputContainer.extractParsedInformation_rejected hrejected
          rw [hupdate, if_pos (by simp [parsed, InputContainer.parseFromArray, hparse])] at hextract
          unfold extract
          simp only [hupdate]
          rw [hextract]
          have hcurrent := InputContainer.parseParts_velocities
            (s.parsed ParseFromArray (some bytes)).inputs
            (h.base (s.parsed ParseFromArray (some bytes)).configuration.active).axes
          refine ⟨?_, ?_, ?_, ?_, hcurrent.trans ?_, hs.outputs, hs.configuration, hmotion⟩
          all_goals simp only [parsed, InputContainer.parseFromArray, hparse, if_true]
          · exact hs.initial
          · exact hs.previous
          · rw [← hs.firstCall, firstCall_of_not_first ParseFromArray hok hfirst]
          · exact hs.sampleTime
          · exact hs.velocities

theorem Agree.step {s s' : EGMInterface κ μ α} (hs : Agree s s') (e : Event κ υ β)
    (he : s.RejectsLate h ParseFromArray e) :
    Agree (s.step h ParseFromArray e)
        (run (step h ParseFromArray) s' (s.remaining h ParseFromArray e)) ∧
      collect (EGMInterface.step h ParseFromArray) (replies h ParseFromArray) s'
        (s.remaining h ParseFromArray e) = s.replies h ParseFromArray e := by
  cases e with
  | user call =>
      refine ⟨⟨hs.initial, hs.previous, hs.firstCall, hs.sampleTime, hs.velocities, hs.outputs,
        hs.configuration, congrArg (h.user · call) hs.motion⟩, rfl⟩
  | setConfiguration configuration =>
      refine ⟨⟨hs.initial, hs.previous, hs.firstCall, hs.sampleTime, hs.velocities, hs.outputs,
        ?_, hs.motion⟩, rfl⟩
      exact congrArg (fun c => { c with update := configuration, hasPendingUpdate := true })
        hs.configuration
  | datagram data mid =>
      obtain ⟨hacc, hsame⟩ := hs.accepted h ParseFromArray data
      cases haccepted : s.accepts h ParseFromArray data with
      | true =>
          have hcallback := hsame haccepted mid
          have hremaining : s.remaining h ParseFromArray (.datagram data mid) =
            [.datagram data mid] := if_pos haccepted
          have hreplies : s.replies h ParseFromArray (.datagram data mid) =
            [(s.callback h ParseFromArray data mid).outputs.reply] := if_pos haccepted
          have hreplies' : s'.replies h ParseFromArray (.datagram data mid) =
            [(s'.callback h ParseFromArray data mid).outputs.reply] :=
              if_pos (hacc.symm.trans haccepted)
          rw [hremaining, hreplies, collect_cons, hreplies', hcallback]
          refine ⟨?_, rfl⟩
          change Agree (s.callback h ParseFromArray data mid) (s'.callback h ParseFromArray data mid)
          rw [hcallback]
          exact .refl _
      | false =>
          obtain ⟨hrun, hcollect⟩ := run_user h ParseFromArray s' mid
          have hremaining : s.remaining h ParseFromArray (.datagram data mid) = mid.map .user :=
            if_neg (by simp [haccepted])
          have hreplies : s.replies h ParseFromArray (.datagram data mid) = [] :=
            if_neg (by simp [haccepted])
          rw [hremaining, hreplies, hrun]
          exact ⟨hs.rejected h ParseFromArray mid haccepted he, hcollect⟩

/-! ### First messages -/

/-- What the message of the state brings about when it is treated as the first of a session. -/
structure StartsSession (s s' : EGMInterface κ μ α) : Prop where
  firstMessage : s'.inputs.firstMessage = true
  initial : s'.inputs.initial.SameValues s'.inputs.current
  previous : s'.inputs.previous = s'.inputs.initial
  sequenceNumber : s'.outputs.sequenceNumber = 0
  outputs : s'.outputs.current = s.outputs.current.prepare s'.inputs.current.feedback.get
  previousOutputs : s'.outputs.previous = s'.outputs.current

omit [IsStrictOrderedRing α] in
theorem initializeCallback_first {s : EGMInterface κ μ α} {data : Option β}
    (haccepted : s.accepts h ParseFromArray data = true)
    (hfirst : (s.inputs.parseFromArray ParseFromArray data).2.firstMessage = true) :
    s.StartsSession (s.initializeCallback h ParseFromArray data).2 := by
  rw [accepts_eq, Bool.and_eq_true] at haccepted
  obtain ⟨hparsed, hextract⟩ := haccepted
  have hinputs : ((s.parsed ParseFromArray data).updateConfiguration h).inputs =
      (s.inputs.parseFromArray ParseFromArray data).2 :=
    (updateConfiguration_frame h (s.parsed ParseFromArray data)).1
  obtain ⟨hfirst, hinitial, hprevious⟩ := InputContainer.extractParsedInformation_first
    (i := ((s.parsed ParseFromArray data).updateConfiguration h).inputs) hextract
    (by rw [hinputs]; exact hfirst)
  rw [initializeCallback_parsed h ParseFromArray hparsed]
  simp only [hextract, if_true]
  unfold OutputContainer.prepareOutputs
  have hfirst' : ((s.parsed ParseFromArray data).extract h).2.inputs.firstMessage = true := hfirst
  simp only [hfirst', if_true]
  exact ⟨hfirst, hinitial, hprevious, rfl, rfl, rfl⟩

/-- Up to the first accepted message, `first_call_` stays set. -/
theorem firstCall_run {s : EGMInterface κ μ α} {es : List (Event κ υ β)}
    (hes : Along (step h ParseFromArray) (RejectsLate h ParseFromArray) s es)
    (hreplies : collect (step h ParseFromArray) (replies h ParseFromArray) s es = [])
    (hs : s.inputs.firstCall = true) :
    (run (step h ParseFromArray) s es).inputs.firstCall = true := by
  induction es generalizing s with
  | nil => exact hs
  | cons e es ih =>
      rw [collect_cons, List.append_eq_nil_iff] at hreplies
      refine ih hes.2 hreplies.2 ?_
      cases e with
      | user call => exact hs
      | setConfiguration configuration => exact hs
      | datagram data mid =>
          cases haccepted : s.accepts h ParseFromArray data with
          | true =>
              have hempty := hreplies.1
              simp only [replies, haccepted, if_true] at hempty
              exact absurd hempty (by simp)
          | false =>
              exact ((Agree.refl s).rejected h ParseFromArray mid haccepted hes.1).firstCall.trans hs

/-- **A rejected datagram has no influence on later replies** if it is not a first message or cannot
be parsed: without the rejected datagrams the replies to the accepted ones are the same, and the
first accepted message of every session starts it. -/
theorem rejected_harmless (configuration : κ) (motion : μ) (es : List (Event κ υ β))
    (hes : Along (step h ParseFromArray) (RejectsLate h ParseFromArray)
      (init configuration motion) es) :
    collect (step h ParseFromArray) (replies h ParseFromArray) (init configuration motion)
        (collect (step h ParseFromArray) (remaining h ParseFromArray) (init configuration motion)
          es) =
      collect (step h ParseFromArray) (replies h ParseFromArray) (init configuration motion) es ∧
    ∀ before after data mid, es = before ++ .datagram data mid :: after →
      (run (step h ParseFromArray) (init configuration motion) before).accepts h ParseFromArray
        data = true →
      (collect (step h ParseFromArray) (replies h ParseFromArray) (init configuration motion)
          before = [] ∨
        ∃ bytes, data = some bytes ∧ (ParseFromArray bytes).2.header.get.seqno.get = 0) →
      (run (step h ParseFromArray) (init configuration motion) before).StartsSession
        ((run (step h ParseFromArray) (init configuration motion) before).initializeCallback h
          ParseFromArray data).2 := by
  refine ⟨collect_skip (R := Agree) (fun s s' e hs he => Agree.step h ParseFromArray hs e he) hes
    (.refl _), ?_⟩
  rintro before after data mid rfl haccepted hfirst
  refine initializeCallback_first h ParseFromArray haccepted ?_
  rw [accepts_eq, Bool.and_eq_true] at haccepted
  cases data with
  | none => simp [InputContainer.parseFromArray] at haccepted
  | some bytes =>
      have hparse : (ParseFromArray bytes).1 = true := by
        cases hparse : (ParseFromArray bytes).1 with
        | true => rfl
        | false => simp [InputContainer.parseFromArray, hparse] at haccepted
      simp only [InputContainer.parseFromArray, hparse, if_true, Bool.or_eq_true, beq_iff_eq]
      rcases hfirst with hreplies | ⟨bytes', hbytes, hseqno⟩
      · exact .inl (firstCall_run h ParseFromArray ((along_append _ _ _).mp hes).1 hreplies rfl)
      · cases hbytes
        exact .inr hseqno

/-- A complete message. -/
def complete (seqno : UInt32) : Event (BaseConfiguration ℚ) Empty (EgmRobot ℚ) :=
  .datagram (some (Evaluation.message seqno 0 Evaluation.home true)) []

/-- A message without planned values. -/
def incomplete (seqno : UInt32) : Event (BaseConfiguration ℚ) Empty (EgmRobot ℚ) :=
  .datagram (some { Evaluation.message seqno 0 Evaluation.home true with planned := .absent }) []

/-- The second message of a session is rejected. -/
theorem rejected_harmless_second :
    collect (step baseHandler Evaluation.parse) (replies baseHandler Evaluation.parse)
        (init (configured true) ()) (collect (step baseHandler Evaluation.parse)
          (remaining baseHandler Evaluation.parse) (init (configured true) ())
            [complete 0, incomplete 1, complete 2]) =
      collect (step baseHandler Evaluation.parse) (replies baseHandler Evaluation.parse)
        (init (configured true) ()) [complete 0, incomplete 1, complete 2] :=
  (rejected_harmless baseHandler Evaluation.parse (configured true) ()
    [complete 0, incomplete 1, complete 2] (by decide +kernel)).1

/-- The first message of a session is rejected: the one after it is not treated as the first, the
outputs are never prepared, and no reply is sent where there would have been one. -/
theorem rejected_first_message :
    collect (step baseHandler Evaluation.parse) (replies baseHandler Evaluation.parse)
        (init (configured true) ()) (collect (step baseHandler Evaluation.parse)
          (remaining baseHandler Evaluation.parse) (init (configured true) ())
            [incomplete 0, complete 1]) ≠
      collect (step baseHandler Evaluation.parse) (replies baseHandler Evaluation.parse)
        (init (configured true) ()) [incomplete 0, complete 1] ∧
    collect (step baseHandler Evaluation.parse) (replies baseHandler Evaluation.parse)
        (init (configured true) ()) [incomplete 0, complete 1] = [none] := by
  decide +kernel

end EGMInterface

end AbbWrapper
