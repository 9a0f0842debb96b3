import Mathlib.Logic.Equiv.Defs
import AbbWrapper.SessionStart

/-! # The mapping of the joints

A robot with seven axes is sent as one with six, whose first external joint is the third joint of
the robot.  On the joints that fit into a message this is a bijection.

* `EgmJoints.Fit` are the joints of a message that fit the axes, and `Joints.Fit` those of the wrapper;
  `MessageJoints` and `WrapperJoints` are the subtypes.
* `jointMapping` is the bijection: `parse` in one direction and the body of a reply in the other.  What is
  received is sent back element by element (`body_of_parse`), and what is sent would be received as it was
  (`parse_of_body`).
* `HoldsPositions` and `HoldsVelocities` say that the outputs hold these joints, and that they are to be
  sent.

Of a whole interface: positions and velocities of an accepted message come back in the reply if the
outputs hold them, and what a reply carries would be parsed as what the outputs hold, for both kinds of
axes (`joint_mapping_inverse`). -/

namespace AbbWrapper

open Protobuf

variable {α : Type}

/-- The number of external joints that can be sent beside the robot's own. -/
def RobotAxes.numberOfExternalJoints : RobotAxes → ℕ
  | .six => Constants.defaultNumberOfExternalJoints
  | .seven => Constants.defaultNumberOfExternalJoints - 1

/-- The joints of a message: a seventh axis needs an external joint. -/
structure EgmJoints.Fit (axes : RobotAxes) (robot external : EgmJoints α) : Prop where
  robotSize : robot.joints.length = Constants.defaultNumberOfRobotJoints
  externalSize : external.joints.length ≤ Constants.defaultNumberOfExternalJoints
  seventh : axes = .seven → 1 ≤ external.joints.length

/-- The joints of the wrapper. -/
structure Joints.Fit (axes : RobotAxes) (robot external : Joints α) : Prop where
  robotSize : robot.valuesSize = axes.numberOfJoints
  externalSize : external.valuesSize ≤ axes.numberOfExternalJoints

/-- The robot and the external joints of a message that fit the axes. -/
def MessageJoints (α : Type) (axes : RobotAxes) : Type :=
  { p : EgmJoints α × EgmJoints α // EgmJoints.Fit axes p.1 p.2 }

/-- The robot and the external joints of the wrapper that fit the axes. -/
def WrapperJoints (α : Type) (axes : RobotAxes) : Type :=
  { p : Joints α × Joints α // Joints.Fit axes p.1 p.2 }

variable [Field α]

theorem Joints.eq_of_seven : ∀ {l : List α}, l.length = Constants.defaultNumberOfRobotJoints + 1 →
    l = [l.getD 0 0, l.getD 1 0, l.getD 2 0, l.getD 3 0, l.getD 4 0, l.getD 5 0, l.getD 6 0]
  | [_, _, _, _, _, _, _], _ => rfl

/-- What fits is parsed, and fits the wrapper. -/
theorem EgmJoints.Fit.parse {axes : RobotAxes} {robot external : EgmJoints α}
    (h : EgmJoints.Fit axes robot external) : (robot.parse external axes).1 = true ∧
      Joints.Fit axes (robot.parse external axes).2.1 (robot.parse external axes).2.2 := by
  unfold EgmJoints.parse
  cases axes with
  | six =>
      simp only
      rw [if_pos h.robotSize]
      exact ⟨rfl, h.robotSize, h.externalSize⟩
  | seven =>
      simp only
      rw [if_pos ⟨h.robotSize, h.seventh rfl⟩]
      refine ⟨rfl, rfl, ?_⟩
      have hexternal := h.externalSize
      change (external.joints.drop 1).length ≤ Constants.defaultNumberOfExternalJoints - 1
      rw [List.length_drop]
      omega

/-- What fits can be sent, and fits the message. -/
theorem Joints.Fit.body {axes : RobotAxes} {robot external : Joints α}
    (h : Joints.Fit axes robot external) :
    ∃ body, jointBody axes robot external = some body ∧ EgmJoints.Fit axes body.1 body.2.get := by
  obtain ⟨body, hbody, hrobot, hexternal⟩ := jointBody_eq_some external h.robotSize
  refine ⟨body, hbody, hrobot, hexternal, ?_⟩
  rintro rfl
  have hsize : robot.valuesSize = Constants.defaultNumberOfRobotJoints + 1 := h.robotSize
  unfold jointBody at hbody
  simp only at hbody
  rw [if_pos hsize] at hbody
  cases hbody
  exact Nat.succ_le_succ (Nat.zero_le _)

/-- What has been received is sent back. -/
theorem body_of_parse {axes : RobotAxes} {robot external : EgmJoints α}
    (h : EgmJoints.Fit axes robot external) :
    ∃ body, jointBody axes (robot.parse external axes).2.1 (robot.parse external axes).2.2 =
      some body ∧ (body.1, body.2.get) = (robot, external) := by
  obtain ⟨hparsed, hfit⟩ := h.parse
  obtain ⟨body, hbody, -⟩ := hfit.body
  obtain ⟨hrobot, hexternal⟩ := jointBody_parse hparsed hbody
  refine ⟨body, hbody, Prod.ext ?_ ?_⟩
  · exact congrArg EgmJoints.mk hrobot
  · rw [List.take_of_length_le h.externalSize] at hexternal
    exact congrArg EgmJoints.mk hexternal

/-- The special case of seven axes. -/
theorem EgmJoints.parse_seven {robot external : EgmJoints α}
    (h : robot.joints.length = Constants.defaultNumberOfRobotJoints ∧ 1 ≤ external.joints.length) :
    robot.parse external .seven = (true,
      ⟨[robot.joints.getD 0 0, robot.joints.getD 1 0, external.joints.getD 0 0,
        robot.joints.getD 2 0, robot.joints.getD 3 0, robot.joints.getD 4 0,
        robot.joints.getD 5 0]⟩, ⟨external.joints.drop 1⟩) :=
  if_pos h

/-- What is sent would be received. -/
theorem parse_of_body {axes : RobotAxes} {robot external : Joints α}
    (h : Joints.Fit axes robot external) {body : EgmJoints α × Optional (EgmJoints α)}
    (hbody : jointBody axes robot external = some body) :
    body.1.parse body.2.get axes = (true, robot, external) := by
  unfold jointBody at hbody
  cases axes with
  | six =>
      have hsize : robot.valuesSize = Constants.defaultNumberOfRobotJoints := h.robotSize
      have hexternal : external.values.take Constants.defaultNumberOfExternalJoints =
          external.values := List.take_of_length_le h.externalSize
      simp only [hexternal] at hbody
      rw [if_pos hsize] at hbody
      cases hbody
      have hget : (if external.values = [] then Optional.absent
          else .present (⟨external.values⟩ : EgmJoints α)).get = ⟨external.values⟩ := by
        split
        next hempty =>
          rw [hempty]
          rfl
        next => rfl
      rw [hget]
      exact if_pos h.robotSize
  | seven =>
      have hsize : robot.valuesSize = Constants.defaultNumberOfRobotJoints + 1 := h.robotSize
      have hexternal : external.values.take (Constants.defaultNumberOfExternalJoints - 1) =
          external.values := List.take_of_length_le h.externalSize
      simp only [hexternal] at hbody
      rw [if_pos hsize] at hbody
      cases hbody
      have hrobot := Joints.eq_of_seven hsize
      refine Eq.trans (EgmJoints.parse_seven ?_) ?_
      · exact ⟨rfl, Nat.succ_le_succ (Nat.zero_le _)⟩
      · exact congrArg (fun l : List α => (true, (⟨l⟩ : Joints α), external)) hrobot.symm

/-- **The mapping of the joints**: receiving and sending are inverse. -/
def jointMapping (axes : RobotAxes) : MessageJoints α axes ≃ WrapperJoints α axes where
  toFun p := ⟨(p.1.1.parse p.1.2 axes).2, p.2.parse.2⟩
  invFun p :=
    ⟨(((jointBody axes p.1.1 p.1.2).getD default).1, ((jointBody axes p.1.1 p.1.2).getD default).2.get), by
      obtain ⟨body, hbody, hfit⟩ := p.2.body
      simpa [hbody] using hfit⟩
  left_inv p := by
    obtain ⟨body, hbody, heq⟩ := body_of_parse p.2
    apply Subtype.ext
    simpa [hbody] using heq
  right_inv p := by
    obtain ⟨body, hbody, -⟩ := p.2.body
    apply Subtype.ext
    have hparsed := parse_of_body p.2 hbody
    simpa [hbody] using congrArg Prod.snd hparsed

/-! ### Replies -/

namespace OutputContainer

/-- The robot and the external joints of the planned joint body. -/
def plannedJoints (o : OutputContainer α) (configuration : BaseConfiguration α) :
    EgmJoints α × EgmJoints α :=
  let planned := (o.constructJointBody configuration).2.egmSensor.planned.get
  (planned.joints.get, planned.externalJoints.get)

/-- The robot and the external joints of the joint speed reference. -/
def speedJoints (o : OutputContainer α) (configuration : BaseConfiguration α) :
    EgmJoints α × EgmJoints α :=
  let speedRef := (o.constructJointBody configuration).2.egmSensor.speedRef.get
  (speedRef.joints.get, speedRef.externalJoints.get)

/-- The outputs hold these joint positions. -/
structure HoldsPositions (o : OutputContainer α) (robot external : Joints α) : Prop where
  robot : o.current.robotJoints.position = .present robot
  external : o.current.externalJoints.position.get = external

/-- The outputs hold these joint velocities, and they are to be sent. -/
structure HoldsVelocities (o : OutputContainer α) (configuration : BaseConfiguration α)
    (robot external : Joints α) : Prop where
  wanted : configuration.useVelocityOutputs = true
  robot : o.current.robotJoints.velocity = .present robot
  external : o.current.externalJoints.velocity.get = external

theorem plannedJoints_eq {o : OutputContainer α} {configuration : BaseConfiguration α}
    {robot external : Joints α} (ho : o.HoldsPositions robot external)
    {body : EgmJoints α × Optional (EgmJoints α)}
    (hbody : jointBody configuration.axes robot external = some body) :
    o.plannedJoints configuration = (body.1, body.2.get) := by
  obtain ⟨hrobot, rfl⟩ := ho
  unfold plannedJoints constructJointBody
  simp only [hrobot, Optional.get_present, hbody, Optional.has_present, if_true]
  split <;> rfl

theorem speedJoints_eq {o : OutputContainer α} {configuration : BaseConfiguration α}
    {robot external : Joints α} (ho : o.HoldsVelocities configuration robot external)
    {body : EgmJoints α × Optional (EgmJoints α)}
    (hbody : jointBody configuration.axes robot external = some body) :
    o.speedJoints configuration = (body.1, body.2.get) := by
  obtain ⟨hwanted, hrobot, rfl⟩ := ho
  unfold speedJoints constructJointBody
  simp only [hwanted, hrobot, Optional.get_present, hbody, Optional.has_present, Bool.and_self,
    if_true]
  rfl

/-- **Receiving and sending joints are inverse**, for positions and for velocities: the joints of a
message come back element by element, and the joints of the wrapper would be parsed as they were. -/
theorem joint_mapping_inverse (o : OutputContainer α) (configuration : BaseConfiguration α) :
    (∀ robot external : EgmJoints α, EgmJoints.Fit configuration.axes robot external →
      let parsed := robot.parse external configuration.axes
      parsed.1 = true ∧
        (o.HoldsPositions parsed.2.1 parsed.2.2 →
          o.plannedJoints configuration = (robot, external)) ∧
        (o.HoldsVelocities configuration parsed.2.1 parsed.2.2 →
          o.speedJoints configuration = (robot, external))) ∧
    (∀ robot external : Joints α, Joints.Fit configuration.axes robot external →
      (o.HoldsPositions robot external →
        let sent := o.plannedJoints configuration
        sent.1.parse sent.2 configuration.axes = (true, robot, external)) ∧
      (o.HoldsVelocities configuration robot external →
        let sent := o.speedJoints configuration
        sent.1.parse sent.2 configuration.axes = (true, robot, external))) := by
  constructor
  · intro robot external hfit
    obtain ⟨body, hbody, heq⟩ := body_of_parse hfit
    refine ⟨hfit.parse.1, fun ho => ?_, fun ho => ?_⟩
    · rw [plannedJoints_eq ho hbody, heq]
    · rw [speedJoints_eq ho hbody, heq]
  · intro robot external hfit
    obtain ⟨body, hbody, -⟩ := hfit.body
    have hparsed := parse_of_body hfit hbody
    refine ⟨fun ho => ?_, fun ho => ?_⟩
    · rw [plannedJoints_eq ho hbody]
      exact hparsed
    · rw [speedJoints_eq ho hbody]
      exact hparsed

/-- The positions and velocities of a robot with seven axes and one external joint. -/
def sevenAxes : Output ℚ where
  robot := .present { joints := .present {
    position := .present ⟨[1, 2, 7, 3, 4, 5, 6]⟩
    velocity := .present ⟨[10, 20, 70, 30, 40, 50, 60]⟩ } }
  external := .present { joints := .present {
    position := .present ⟨[8]⟩
    velocity := .present ⟨[80]⟩ } }

def seven : OutputContainer ℚ := { OutputContainer.init with current := sevenAxes }

theorem joint_mapping_inverse_seven :
    seven.plannedJoints ⟨.seven, false, true, false, 60⟩ = (⟨[1, 2, 3, 4, 5, 6]⟩, ⟨[7, 8]⟩) ∧
      seven.speedJoints ⟨.seven, false, true, false, 60⟩ =
        (⟨[10, 20, 30, 40, 50, 60]⟩, ⟨[70, 80]⟩) ∧
      (⟨[1, 2, 3, 4, 5, 6]⟩ : EgmJoints ℚ).parse ⟨[7, 8]⟩ .seven =
        (true, ⟨[1, 2, 7, 3, 4, 5, 6]⟩, ⟨[8]⟩) := by
  obtain ⟨hreceived, hsent⟩ := joint_mapping_inverse seven ⟨.seven, false, true, false, 60⟩
  have hplanned : seven.plannedJoints ⟨.seven, false, true, false, 60⟩ =
      (⟨[1, 2, 3, 4, 5, 6]⟩, ⟨[7, 8]⟩) :=
    (hreceived ⟨[1, 2, 3, 4, 5, 6]⟩ ⟨[7, 8]⟩ ⟨rfl, by decide, by decide⟩).2.1 ⟨rfl, rfl⟩
  have hspeed : seven.speedJoints ⟨.seven, false, true, false, 60⟩ =
      (⟨[10, 20, 30, 40, 50, 60]⟩, ⟨[70, 80]⟩) :=
    (hreceived ⟨[10, 20, 30, 40, 50, 60]⟩ ⟨[70, 80]⟩ ⟨rfl, by decide, by decide⟩).2.2
      ⟨rfl, rfl, rfl⟩
  have hparsed := (hsent ⟨[1, 2, 7, 3, 4, 5, 6]⟩ ⟨[8]⟩ ⟨rfl, by decide⟩).1 ⟨rfl, rfl⟩
  rw [hplanned] at hparsed
  exact ⟨hplanned, hspeed, hparsed⟩

end OutputContainer

end AbbWrapper
