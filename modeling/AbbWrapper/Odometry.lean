import AbbWrapper.Sessions

/-! # Estimated velocities and the way that was covered

The velocities are estimated from the last accepted message.  The estimates of a session therefore add
up: each times the sample time it was estimated with, they are the way that was covered since the first
message of the session (`way_covered`), whatever has been rejected in between.

* A `MeasuredAxis` is anything that is measured on a line: a joint of the robot, an external joint, or
  `x`, `y` or `z` of the pose.  `MeasuredValues` are the values that are measured, or those that are
  planned.
* An `Odometer` adds up the estimates of a session.  It reads what an accepted message has left in the
  inputs (`odometerNext`), runs beside the interface (`MeasuredInterface`), and does not influence it.
* `Shows` is the invariant of the two: the last accepted message has come the way that the odometer
  shows from the first one.

A message that lacks the axis takes the anchor away.  The numbers are those of any ordered field, without
rounding. -/

namespace AbbWrapper

open Protobuf Runs

variable {α β κ μ υ : Type}

/-! ### Axes -/

/-- What is measured on a line: a joint of the robot, an external joint or a coordinate of the pose. -/
inductive MeasuredAxis where
  | robot (joint : ℕ)
  | external (joint : ℕ)
  | x
  | y
  | z
deriving DecidableEq, Repr

namespace MeasuredAxis

/-- Whether there is a value for the axis. -/
def within (axis : MeasuredAxis) (f : Feedback α) : Bool :=
  match axis with
  | robot joint => joint < f.robotJoints.position.get.valuesSize
  | external joint => joint < f.externalJoints.position.get.valuesSize
  | x | y | z => true

variable [Field α]

def position (axis : MeasuredAxis) (f : Feedback α) : α :=
  match axis with
  | robot joint => f.robotJoints.position.get.value joint
  | external joint => f.externalJoints.position.get.value joint
  | x => f.robotCartesian.pose.get.position.get.x.val
  | y => f.robotCartesian.pose.get.position.get.y.val
  | z => f.robotCartesian.pose.get.position.get.z.val

def velocity (axis : MeasuredAxis) (f : Feedback α) : α :=
  match axis with
  | robot joint => f.robotJoints.velocity.get.value joint
  | external joint => f.externalJoints.velocity.get.value joint
  | x => f.robotCartesian.velocity.get.linear.get.x.val
  | y => f.robotCartesian.velocity.get.linear.get.y.val
  | z => f.robotCartesian.velocity.get.linear.get.z.val

end MeasuredAxis

/-- The values that are measured, and those that are planned. -/
inductive MeasuredValues where
  | feedback
  | planned
deriving DecidableEq, Repr

def MeasuredValues.of (values : MeasuredValues) (i : Input α) : Feedback α :=
  match values with
  | feedback => i.feedback.get
  | planned => i.planned.get

section sameValues

theorem Input.SameValues.of {i j : Input α} (h : i.SameValues j) (values : MeasuredValues) :
    (values.of i).SameValues (values.of j) := by
  cases values with
  | feedback => exact h.2.1
  | planned => exact h.2.2.1

theorem Feedback.SameValues.within {f g : Feedback α} (h : f.SameValues g) (axis : MeasuredAxis) :
    axis.within f = axis.within g := by
  obtain ⟨hrobot, -, hexternal, -⟩ := h
  cases axis <;> simp only [MeasuredAxis.within, hrobot, hexternal]

theorem Feedback.SameValues.position [Field α] {f g : Feedback α} (h : f.SameValues g)
    (axis : MeasuredAxis) : axis.position f = axis.position g := by
  obtain ⟨hrobot, hpose, hexternal, -⟩ := h
  cases axis <;> simp only [MeasuredAxis.position, hrobot, hpose, hexternal]

end sameValues

/-! ### One estimate -/

section estimate
variable [Field α] [LinearOrder α]

theorem Joints.estimateVelocities_value {current previous velocity : Joints α} {sampleTime : α}
    (h : current.estimateVelocities previous sampleTime = some velocity) {i : ℕ}
    (hcurrent : i < current.valuesSize) (hprevious : i < previous.valuesSize) :
    velocity.value i * sampleTime = current.value i - previous.value i := by
  unfold Joints.estimateVelocities at h
  split at h
  next hpos =>
    obtain rfl := Option.some.inj h
    unfold Joints.valuesSize at hcurrent hprevious
    simp only [Joints.value, List.getD_eq_getElem?_getD, List.getElem?_zipWith,
      List.getElem?_eq_getElem hcurrent, List.getElem?_eq_getElem hprevious, Option.getD_some]
    exact div_mul_cancel₀ _ hpos.ne'
  next => cases h

variable [Cmath α]

theorem CartesianPose.estimateVelocities_linear {current previous : CartesianPose α}
    {velocity : CartesianVelocity α} {sampleTime : α}
    (h : current.estimateVelocities previous sampleTime = some velocity) :
    velocity.linear.get.x.val * sampleTime =
        current.position.get.x.val - previous.position.get.x.val ∧
      velocity.linear.get.y.val * sampleTime =
        current.position.get.y.val - previous.position.get.y.val ∧
      velocity.linear.get.z.val * sampleTime =
        current.position.get.z.val - previous.position.get.z.val := by
  unfold CartesianPose.estimateVelocities at h
  split at h
  next hpos =>
    obtain ⟨angular, -, rfl⟩ := Option.map_eq_some_iff.mp h
    exact ⟨div_mul_cancel₀ _ hpos.ne', div_mul_cancel₀ _ hpos.ne', div_mul_cancel₀ _ hpos.ne'⟩
  next => cases h

/-- An estimate is the way since the previous values, by the sample time. -/
theorem Feedback.estimateVelocities_way {current previous : Feedback α} {sampleTime : α}
    (h : (current.estimateVelocities previous sampleTime).1 = true) {axis : MeasuredAxis}
    (hcurrent : axis.within current = true) (hprevious : axis.within previous = true) :
    axis.velocity (current.estimateVelocities previous sampleTime).2 * sampleTime =
      axis.position current - axis.position previous := by
  unfold Feedback.estimateVelocities at h ⊢
  split at h
  next => cases h
  next robot hrobot =>
    simp only at h ⊢
    split at h
    next => cases h
    next cartesian hcartesian =>
      split at h
      next => cases h
      next external hexternal =>
        obtain ⟨hx, hy, hz⟩ := CartesianPose.estimateVelocities_linear hcartesian
        cases axis with
        | robot joint =>
            simp only [MeasuredAxis.within, decide_eq_true_eq] at hcurrent hprevious
            exact Joints.estimateVelocities_value hrobot hcurrent hprevious
        | external joint =>
            simp only [MeasuredAxis.within, decide_eq_true_eq] at hcurrent hprevious
            exact Joints.estimateVelocities_value hexternal hcurrent hprevious
        | x => exact hx
        | y => exact hy
        | z => exact hz

namespace InputContainer

theorem estimateAllVelocities_way {i : InputContainer α} (h : i.estimateAllVelocities.1 = true)
    (values : MeasuredValues) {axis : MeasuredAxis}
    (hcurrent : axis.within (values.of i.estimateAllVelocities.2.current) = true)
    (hprevious : axis.within (values.of i.previous) = true) :
    axis.velocity (values.of i.estimateAllVelocities.2.current) *
        i.estimateAllVelocities.2.estimatedSampleTime =
      axis.position (values.of i.estimateAllVelocities.2.current) -
        axis.position (values.of i.previous) := by
  have hsame := i.estimateAllVelocities_sameValues.of values
  rw [← hsame.within axis] at hcurrent
  rw [← hsame.position axis]
  unfold estimateAllVelocities at h ⊢
  simp only at h ⊢
  split at h
  next hfeedback =>
    rw [if_pos hfeedback]
    cases values with
    | feedback => exact Feedback.estimateVelocities_way hfeedback hcurrent hprevious
    | planned => exact Feedback.estimateVelocities_way h hcurrent hprevious
  next => cases h

variable [FloorRing α]

omit [Field α] [LinearOrder α] [Cmath α] [FloorRing α] in
theorem parseFromArray_kept (i : InputContainer α) (ParseFromArray : β → Bool × EgmRobot α)
    (data : Option β) : (i.parseFromArray ParseFromArray data).2.initial = i.initial ∧
      (i.parseFromArray ParseFromArray data).2.previous = i.previous := by
  unfold parseFromArray
  cases data with
  | none => exact ⟨rfl, rfl⟩
  | some bytes =>
      simp only
      split
      · exact ⟨rfl, rfl⟩
      · exact ⟨rfl, rfl⟩

/-- What an accepted message that does not begin a session is compared with. -/
theorem extractParsedInformation_way {i : InputContainer α} {axes : RobotAxes}
    (h : (i.extractParsedInformation axes).1 = true) (hfirst : i.firstMessage = false)
    (values : MeasuredValues) {axis : MeasuredAxis}
    (hcurrent : axis.within (values.of (i.extractParsedInformation axes).2.current) = true)
    (hprevious : axis.within (values.of i.previous) = true) :
    axis.velocity (values.of (i.extractParsedInformation axes).2.current) *
        (i.extractParsedInformation axes).2.estimatedSampleTime =
      axis.position (values.of (i.extractParsedInformation axes).2.current) -
        axis.position (values.of i.previous) := by
  unfold extractParsedInformation at h hcurrent ⊢
  simp only [hfirst, Bool.false_eq_true, if_false] at h hcurrent ⊢
  split at h
  next hnew =>
    split at h
    next hparts =>
      rw [if_pos hnew, if_pos hparts] at hcurrent ⊢
      simp only at h hcurrent ⊢
      exact estimateAllVelocities_way h values hcurrent hprevious
    next => cases h
  next => cases h

end InputContainer

end estimate

/-! ### The way of a session -/

/-- The way that the estimates of a session add up to; `anchored` once the session's first message has
been accepted, and as long as there has been a value for the axis. -/
structure Odometer (α : Type) where
  anchored : Bool
  way : α

/-- An interface beside an odometer. -/
structure MeasuredInterface (κ μ α : Type) where
  interface : EGMInterface κ μ α
  odometer : Odometer α

namespace MeasuredInterface

variable [Field α] [LinearOrder α] [Cmath α] [FloorRing α] (h : Handler κ μ υ α)
  (ParseFromArray : β → Bool × EgmRobot α) (values : MeasuredValues) (axis : MeasuredAxis)

/-- The odometer reads what an accepted message has left in the inputs. -/
def odometerNext (odometer : Odometer α) (i : InputContainer α) : Odometer α :=
  let current := values.of i.current
  if i.firstMessage then ⟨axis.within current, 0⟩
  else ⟨odometer.anchored && axis.within current,
    odometer.way + axis.velocity current * i.estimatedSampleTime⟩

def step (s : MeasuredInterface κ μ α) (e : Event κ υ β) : MeasuredInterface κ μ α where
  interface := s.interface.step h ParseFromArray e
  odometer := match e with
    | .datagram data _ =>
        if s.interface.accepts h ParseFromArray data then
          odometerNext values axis s.odometer (s.interface.step h ParseFromArray e).inputs
        else s.odometer
    | _ => s.odometer

def start (configuration : κ) (motion : μ) : MeasuredInterface κ μ α :=
  ⟨.init configuration motion, ⟨false, 0⟩⟩

/-- The last accepted message has come the way from the first one that the odometer shows. -/
structure Shows (initial previous : Input α) (odometer : Odometer α) : Prop where
  within : odometer.anchored = true → axis.within (values.of previous) = true
  way : odometer.anchored = true → axis.position (values.of previous) =
    axis.position (values.of initial) + odometer.way

variable {h ParseFromArray values axis} [IsStrictOrderedRing α]

theorem shows_accepted {s : MeasuredInterface κ μ α}
    (hs : Shows values axis s.interface.inputs.initial s.interface.inputs.previous s.odometer)
    {data : Option β}
    (haccepted : s.interface.accepts h ParseFromArray data = true) (mid : List υ) :
    Shows values axis (s.interface.callback h ParseFromArray data mid).inputs.initial
      (s.interface.callback h ParseFromArray data mid).inputs.previous (odometerNext values axis s.odometer
        (s.interface.callback h ParseFromArray data mid).inputs) := by
  have hparsed := EGMInterface.parsed_of_accepts haccepted
  obtain ⟨haccepts, hinputs, -⟩ :=
    EGMInterface.initializeCallback_of_parsed h ParseFromArray hparsed rfl
  rw [haccepted] at haccepts
  have hcallback : (s.interface.callback h ParseFromArray data mid).inputs =
      (s.interface.initializeCallback h ParseFromArray data).2.inputs.updatePrevious := by
    rw [EGMInterface.callback_of_accepted h ParseFromArray haccepted]
    exact congrArg InputContainer.updatePrevious (EGMInterface.execute_kept _ mid).1
  rw [hcallback, hinputs]
  obtain ⟨hinitial, hprevious⟩ :=
    InputContainer.parseFromArray_kept s.interface.inputs ParseFromArray data
  rw [← hprevious, ← hinitial] at hs
  generalize (s.interface.inputs.parseFromArray ParseFromArray data).2 = i at hs haccepts
  generalize (h.base (s.interface.initializeCallback h ParseFromArray
    data).2.configuration.active).axes = axes at haccepts
  have hmessage := i.extractParsedInformation_firstMessage axes
  unfold odometerNext
  cases hfirst : i.firstMessage with
  | true =>
      obtain ⟨hfirst', hsame, -⟩ := InputContainer.extractParsedInformation_first haccepts.symm hfirst
      have hposition := (hsame.of values).position axis
      simp only [InputContainer.updatePrevious, hfirst', if_true]
      exact ⟨id, fun _ => hposition.symm.trans (add_zero _).symm⟩
  | false =>
      rw [hfirst] at hmessage
      have hinitial' : (i.extractParsedInformation axes).2.initial = i.initial :=
        InputContainer.initial_extractParsedInformation (.inl hfirst)
      simp only [InputContainer.updatePrevious, hmessage, Bool.false_eq_true, if_false]
      refine ⟨fun hanchored => ?_, fun hanchored => ?_⟩
      · rw [Bool.and_eq_true] at hanchored
        exact hanchored.2
      · obtain ⟨hanchored, hwithin⟩ := (Bool.and_eq_true _ _).mp hanchored
        have hway := InputContainer.extractParsedInformation_way haccepts.symm hfirst values hwithin
          (hs.within hanchored)
        rw [hway, hinitial', hs.way hanchored]
        ring

theorem kept_rejected {s : MeasuredInterface κ μ α} {data : Option β}
    (hrejected : s.interface.accepts h ParseFromArray data = false) (mid : List υ) :
    (s.interface.callback h ParseFromArray data mid).inputs.initial = s.interface.inputs.initial ∧
      (s.interface.callback h ParseFromArray data mid).inputs.previous =
        s.interface.inputs.previous := by
  obtain ⟨hinitial, hprevious⟩ :=
    InputContainer.parseFromArray_kept s.interface.inputs ParseFromArray data
  rw [EGMInterface.callback_of_rejected h ParseFromArray hrejected]
  change (s.interface.initializeCallback h ParseFromArray data).2.inputs.initial = _ ∧
    (s.interface.initializeCallback h ParseFromArray data).2.inputs.previous = _
  cases hparsed : (s.interface.inputs.parseFromArray ParseFromArray data).1 with
  | false =>
      rw [(EGMInterface.initializeCallback_of_unparsed h ParseFromArray hparsed).2.1]
      split
      · exact ⟨hinitial, hprevious⟩
      · exact ⟨rfl, rfl⟩
  | true =>
      obtain ⟨haccepts, hinputs, -⟩ :=
        EGMInterface.initializeCallback_of_parsed h ParseFromArray hparsed rfl
      rw [hrejected] at haccepts
      rw [hinputs, InputContainer.extractParsedInformation_rejected haccepts.symm]
      split
      · exact ⟨hinitial, hprevious⟩
      · exact ⟨hinitial, hprevious⟩

theorem shows_step {s : MeasuredInterface κ μ α}
    (hs : Shows values axis s.interface.inputs.initial s.interface.inputs.previous s.odometer)
    (e : Event κ υ β) : Shows values axis (s.step h ParseFromArray values axis e).interface.inputs.initial
      (s.step h ParseFromArray values axis e).interface.inputs.previous
      (s.step h ParseFromArray values axis e).odometer := by
  cases e with
  | user call => exact hs
  | setConfiguration configuration => exact hs
  | datagram data mid =>
      unfold step
      cases haccepted : s.interface.accepts h ParseFromArray data with
      | true =>
          simp only [haccepted, if_true]
          exact shows_accepted hs haccepted mid
      | false =>
          simp only [haccepted, Bool.false_eq_true, if_false]
          obtain ⟨hinitial, hprevious⟩ := kept_rejected haccepted mid
          change Shows values axis (s.interface.callback h ParseFromArray data mid).inputs.initial
            (s.interface.callback h ParseFromArray data mid).inputs.previous s.odometer
          rw [hinitial, hprevious]
          exact hs

/-- **The estimated velocities add up to the way that was covered**: on every axis, the last accepted
message is as far from the first one of its session as the odometer shows. -/
theorem way_covered (h : Handler κ μ υ α) (ParseFromArray : β → Bool × EgmRobot α)
    (values : MeasuredValues) (axis : MeasuredAxis) (configuration : κ) (motion : μ)
    (es : List (Event κ υ β)) :
    let s := run (step h ParseFromArray values axis) (start configuration motion) es
    s.interface = run (EGMInterface.step h ParseFromArray) (.init configuration motion) es ∧
      (s.odometer.anchored = true →
        axis.position (values.of s.interface.inputs.previous) =
          axis.position (values.of s.interface.inputs.initial) + s.odometer.way) := by
  intro s
  have hshows : Shows values axis s.interface.inputs.initial s.interface.inputs.previous s.odometer :=
    run_inv (I := fun s : MeasuredInterface κ μ α =>
      Shows values axis s.interface.inputs.initial s.interface.inputs.previous s.odometer)
      (fun _ e hs => shows_step hs e) es
      ⟨fun hanchored => (by cases hanchored), fun hanchored => (by cases hanchored)⟩
  refine ⟨?_, hshows.way⟩
  exact run_rel (R := fun (s : MeasuredInterface κ μ α) s' => s.interface = s')
    (fun _ _ _ hs => by rw [← hs]; rfl) es rfl

/-- The first joint moves from one message to the next. -/
def moving : List (Event (BaseConfiguration ℚ) Empty (EgmRobot ℚ)) :=
  [.datagram (some (Evaluation.message 0 0 [1, 0, 0, 0, 0, 0] true)) [],
    .datagram (some (Evaluation.message 1 1 [3, 0, 0, 0, 0, 0] true)) [],
    .datagram (some (Evaluation.message 2 3 [6, 0, 0, 0, 0, 0] true)) []]

theorem way_covered_moving :
    (run (step baseHandler Evaluation.parse .feedback (.robot 0))
      (start Evaluation.configurations.base ()) moving).odometer.way = 5 := by
  obtain ⟨-, hway⟩ := way_covered baseHandler Evaluation.parse .feedback (.robot 0)
    Evaluation.configurations.base () moving
  have hanchored : (run (step baseHandler Evaluation.parse .feedback (.robot 0))
      (start Evaluation.configurations.base ()) moving).odometer.anchored = true := by
    decide +kernel
  have hprevious : (MeasuredAxis.robot 0).position (MeasuredValues.feedback.of
      (run (step baseHandler Evaluation.parse .feedback (.robot 0))
        (start Evaluation.configurations.base ()) moving).interface.inputs.previous) = 6 := by
    decide +kernel
  have hinitial : (MeasuredAxis.robot 0).position (MeasuredValues.feedback.of
      (run (step baseHandler Evaluation.parse .feedback (.robot 0))
        (start Evaluation.configurations.base ()) moving).interface.inputs.initial) = 1 := by
    decide +kernel
  have h := hway hanchored
  rw [hprevious, hinitial] at h
  linarith

end MeasuredInterface

end AbbWrapper
