import AbbWrapper.ReplyShape

/-! # First messages

A session is started by an accepted first message.  The inputs and the outputs are set anew then:
neither what the inputs have been before nor what has been sent before reaches the replies, up to
the velocity references, and the outputs hold what the message reports.

* `EgmSensor.Reports` says that a reply carries the joint positions and the pose of a message; of the
  external joints those that a reply has room for.
* `Output.Holds` says the same of outputs, before a reply is constructed of them.

The inputs are determined by the message (`extractParsedInformation_opens`), the outputs hold what it
reports (`Output.prepare_holds`), and the reply is constructed from the outputs alone
(`constructReply_congr`). -/

namespace AbbWrapper

open Protobuf Runs

variable {α β : Type}

section inputs
variable [Field α] [LinearOrder α] [Cmath α]

/-! ### The inputs of a first message -/

theorem EgmPlanned.parse_sameValues (target target' : Feedback α) (source : EgmPlanned α)
    (axes : RobotAxes) :
    (source.parse target axes).1 = (source.parse target' axes).1 ∧
      ((source.parse target axes).1 = true →
        (source.parse target axes).2.SameValues (source.parse target' axes).2) := by
  obtain ⟨htime, htime'⟩ := source.time.get.parse_congr target.time.get target'.time.get
  unfold EgmPlanned.parse
  simp only
  split
  · split
    · exact ⟨htime, fun hok => ⟨rfl, rfl, rfl, by rw [htime' hok]⟩⟩
    · exact ⟨rfl, fun h => absurd h (by simp)⟩
  · exact ⟨rfl, fun h => absurd h (by simp)⟩

/-- The estimated velocities complete the values. -/
theorem Feedback.estimateVelocities_congr {current current' previous previous' : Feedback α}
    (hcurrent : current.SameValues current') (hprevious : previous.SameValues previous')
    (sampleTime : α) :
    (current.estimateVelocities previous sampleTime).1 =
        (current'.estimateVelocities previous' sampleTime).1 ∧
      ((current.estimateVelocities previous sampleTime).1 = true →
        (current.estimateVelocities previous sampleTime).2 =
          (current'.estimateVelocities previous' sampleTime).2) := by
  obtain ⟨hrobot, hpose, hexternal, htime⟩ := hcurrent
  obtain ⟨hrobot', hpose', hexternal', -⟩ := hprevious
  by_cases hpos : 0 < sampleTime
  · simp only [Feedback.robotJoints, Feedback.robotCartesian, Feedback.externalJoints] at *
    simp [Feedback.estimateVelocities, Joints.estimateVelocities, CartesianPose.estimateVelocities,
      Quaternion.estimateVelocities, hpos, Feedback.robotJoints, Feedback.robotCartesian,
      Feedback.externalJoints, Feedback.setRobotVelocity, Feedback.setCartesianVelocity,
      Feedback.setExternalVelocity, Robot.modifyJoints, Robot.modifyCartesian,
      External.modifyJoints, JointSpace.setVelocity, CartesianSpace.setVelocity, Optional.modify,
      hrobot, hrobot', hpose, hpose', hexternal, hexternal', htime]
  · simp [Feedback.estimateVelocities, Joints.estimateVelocities, hpos]

namespace InputContainer

/-- What the parts of a message determine does not depend on the inputs before. -/
theorem parseParts_sameValues {i i' : InputContainer α} (axes : RobotAxes)
    (hrobot : i'.egmRobot = i.egmRobot) :
    (i.parseParts axes).1 = (i'.parseParts axes).1 ∧ ((i.parseParts axes).1 = true →
      (i.parseParts axes).2.feedback.has = true ∧ (i'.parseParts axes).2.feedback.has = true ∧
        (i.parseParts axes).2.SameValues (i'.parseParts axes).2) := by
  obtain ⟨hheader, hheader'⟩ :=
    i.egmRobot.header.get.parse_congr i.current.header.get i'.current.header.get
  obtain ⟨hfeedback, hfeedback'⟩ := i.egmRobot.feedBack.get.parse_sameValues
    i.current.feedback.get i'.current.feedback.get axes
  obtain ⟨hplanned, hplanned'⟩ := i.egmRobot.planned.get.parse_sameValues
    i.current.planned.get i'.current.planned.get axes
  obtain ⟨hstatus, hstatus'⟩ :=
    i.egmRobot.parseStatus_congr i.current.status.get i'.current.status.get
  unfold parseParts
  simp only [hrobot, ← hheader]
  split
  next hok =>
    rw [← hheader' hok]
    simp only [← hfeedback]
    split
    next hfeedbackOk =>
      simp only [← hplanned]
      split
      next hplannedOk =>
        refine ⟨hstatus, fun hstatusOk => ⟨rfl, rfl, rfl, hfeedback' hfeedbackOk,
          hplanned' hplannedOk, ?_⟩⟩
        rw [hstatus' hstatusOk]
      next => exact ⟨rfl, fun h => absurd h (by simp)⟩
    next => exact ⟨rfl, fun h => absurd h (by simp)⟩
  next => exact ⟨rfl, fun h => absurd h (by simp)⟩

/-- Velocities are estimated from the values alone. -/
theorem estimateAllVelocities_congr (i i' : InputContainer α)
    (hcurrent : i.current.SameValues i'.current) (hprevious : i.previous.SameValues i'.previous)
    (htime : i'.estimatedSampleTime = i.estimatedSampleTime) :
    i.estimateAllVelocities.1 = i'.estimateAllVelocities.1 ∧
      (i.estimateAllVelocities.1 = true →
        i.estimateAllVelocities.2.current = i'.estimateAllVelocities.2.current) := by
  obtain ⟨hheader, hfeedback, hplanned, hstatus⟩ := hcurrent
  obtain ⟨-, hfeedback', hplanned', -⟩ := hprevious
  obtain ⟨hfst, hsnd⟩ := Feedback.estimateVelocities_congr hfeedback hfeedback' i.estimatedSampleTime
  obtain ⟨hfst', hsnd'⟩ := Feedback.estimateVelocities_congr hplanned hplanned' i.estimatedSampleTime
  unfold estimateAllVelocities
  simp only [htime, ← hfst]
  split
  next hok =>
    refine ⟨hfst', fun hok' => ?_⟩
    simp only [hsnd hok, hsnd' hok', hheader, hstatus]
  next => exact ⟨rfl, fun h => absurd h (by simp)⟩

theorem estimateAllVelocities_eq (i : InputContainer α) :
    i.estimateAllVelocities.2 = { i with current := i.estimateAllVelocities.2.current } := by
  unfold estimateAllVelocities
  simp only
  split <;> rfl

variable [FloorRing α]

/-- The inputs after a message has been parsed, before the velocities are estimated. -/
def received (i : InputContainer α) (message : Input α) : InputContainer α :=
  let i := { i with current := message }
  let i := if i.firstMessage then { i with initial := i.current, previous := i.current } else i
  { i with estimatedSampleTime := i.estimateSampleTime }

theorem extractParsedInformation_of_parsed {i : InputContainer α} {axes : RobotAxes}
    (hnew : i.hasNewData = true) (hparts : (i.parseParts axes).1 = true) :
    (i.extractParsedInformation axes).2 =
      { (i.received (i.parseParts axes).2).estimateAllVelocities.2 with hasNewData := false } := by
  unfold extractParsedInformation received
  simp only [hnew, hparts, if_true]

omit [Cmath α] in
theorem received_of_first {i : InputContainer α} (message : Input α)
    (hfirst : i.firstMessage = true) :
    i.received message =
      { { i with initial := message, current := message, previous := message } with
        estimatedSampleTime := { i with
          initial := message
          current := message
          previous := message }.estimateSampleTime } := by
  simp only [received, hfirst, if_true]

omit [Cmath α] in
theorem received_sampleTime (i i' : InputContainer α) {message message' : Input α}
    (hfirst : i.firstMessage = true) (hfirst' : i'.firstMessage = true)
    (hhas : message.feedback.has = true) (hhas' : message'.feedback.has = true)
    (hsame : message.SameValues message') :
    (i'.received message').estimatedSampleTime = (i.received message).estimatedSampleTime := by
  have htime : message.feedback.get.time = message'.feedback.get.time := hsame.2.1.2.2.2
  simp only [received_of_first, hfirst, hfirst', estimateSampleTime, hhas, hhas', htime]

variable [IsStrictOrderedRing α]

/-- **A first message determines the inputs**, whatever they have been before. -/
theorem extractParsedInformation_opens (i i' : InputContainer α) (axes : RobotAxes)
    (hi : i' = { i with
      initial := i'.initial
      current := i'.current
      previous := i'.previous
      estimatedSampleTime := i'.estimatedSampleTime })
    (hfirst : i.firstMessage = true) :
    (i.extractParsedInformation axes).1 = (i'.extractParsedInformation axes).1 ∧
      ((i.extractParsedInformation axes).1 = true →
        (i'.extractParsedInformation axes).2 = { (i.extractParsedInformation axes).2 with
          initial := (i'.extractParsedInformation axes).2.initial
          previous := (i'.extractParsedInformation axes).2.previous }) := by
  have hnew : i'.hasNewData = i.hasNewData := by rw [hi]
  have hfirst' : i'.firstMessage = i.firstMessage := by rw [hi]
  have hcall : i'.firstCall = i.firstCall := by rw [hi]
  have hrobot : i'.egmRobot = i.egmRobot := by rw [hi]
  obtain ⟨hfst, hparts⟩ := parseParts_sameValues axes hrobot
  rw [extractParsedInformation_fst, extractParsedInformation_fst, hnew, ← hfst]
  refine ⟨rfl, fun hok => ?_⟩
  obtain ⟨hnew', hok⟩ := Bool.and_eq_true _ _ ▸ hok
  obtain ⟨hhas, hhas', hsame⟩ := hparts hok
  have hfirst'' := hfirst'.trans hfirst
  have htime := received_sampleTime i i' hfirst hfirst'' hhas hhas' hsame
  have hreceived := i.received_of_first (i.parseParts axes).2 hfirst
  have hreceived' := i'.received_of_first (i'.parseParts axes).2 hfirst''
  obtain ⟨-, hcurrent⟩ := estimateAllVelocities_congr
    (i.received (i.parseParts axes).2) (i'.received (i'.parseParts axes).2)
    (by rw [hreceived, hreceived']; exact hsame) (by rw [hreceived, hreceived']; exact hsame) htime
  have hpos : 0 < (i.received (i.parseParts axes).2).estimatedSampleTime := estimateSampleTime_pos _
  have hcurrent := hcurrent (estimateAllVelocities_fst hpos)
  rw [extractParsedInformation_of_parsed hnew' hok,
    extractParsedInformation_of_parsed (hnew.trans hnew') (hfst ▸ hok),
    estimateAllVelocities_eq (i.received _), estimateAllVelocities_eq (i'.received _), ← hcurrent]
  simp only [htime]
  simp only [hreceived, hreceived', hrobot, hcall, hfirst']

omit [FloorRing α] [IsStrictOrderedRing α] in
theorem estimateAllVelocities_initial (i : InputContainer α) (initial : Input α) :
    { i with initial := initial }.estimateAllVelocities =
      (i.estimateAllVelocities.1, { i.estimateAllVelocities.2 with initial := initial }) := by
  unfold estimateAllVelocities
  simp only
  split <;> rfl

/-- After the first message, nothing is read from the initial inputs. -/
theorem extractParsedInformation_initial (i i' : InputContainer α) (axes : RobotAxes)
    (hi : i' = { i with initial := i'.initial })
    (h : (i.extractParsedInformation axes).1 = true → i.firstMessage = false) :
    (i'.extractParsedInformation axes).1 = (i.extractParsedInformation axes).1 ∧
      (i'.extractParsedInformation axes).2 =
        { (i.extractParsedInformation axes).2 with initial := i'.initial } := by
  have hnew : i'.hasNewData = i.hasNewData := by rw [hi]
  have hparts : i'.parseParts axes = i.parseParts axes := by rw [hi]; rfl
  have hfst : (i'.extractParsedInformation axes).1 = (i.extractParsedInformation axes).1 := by
    rw [extractParsedInformation_fst, extractParsedInformation_fst, hnew, hparts]
  refine ⟨hfst, ?_⟩
  cases hok : (i.extractParsedInformation axes).1 with
  | false =>
      rw [extractParsedInformation_rejected hok, extractParsedInformation_rejected (hfst.trans hok),
        hnew, hparts, hi]
      split <;> rfl
  | true =>
      have hfirst := h hok
      rw [extractParsedInformation_fst, Bool.and_eq_true] at hok
      rw [extractParsedInformation_of_parsed hok.1 hok.2,
        extractParsedInformation_of_parsed (hnew.trans hok.1) (hparts ▸ hok.2), hparts]
      have hreceived : i'.received (i.parseParts axes).2 =
          { i.received (i.parseParts axes).2 with initial := i'.initial } := by
        rw [hi]
        simp only [received, hfirst, Bool.false_eq_true, if_false]
        rfl
      rw [hreceived, estimateAllVelocities_initial]

end InputContainer

end inputs

/-! ### What a reply carries -/

/-- The reply carries the joint positions and the pose of a message; of the external joints, six
can be sent. -/
structure EgmSensor.Reports (reply : EgmSensor α) (message : EgmFeedBack α) : Prop where
  joints : reply.planned.get.joints.get.joints = message.joints.get.joints
  externalJoints : reply.planned.get.externalJoints.get.joints =
    message.externalJoints.get.joints.take Constants.defaultNumberOfExternalJoints
  position : reply.planned.get.cartesian.get.pos = message.cartesian.get.pos
  orientation : reply.planned.get.cartesian.get.orient = message.cartesian.get.orient

section reports
variable [Field α]

theorem eq_of_length : ∀ {l : List α}, l.length = Constants.defaultNumberOfRobotJoints →
    l = [l.getD 0 0, l.getD 1 0, l.getD 2 0, l.getD 3 0, l.getD 4 0, l.getD 5 0]
  | [_, _, _, _, _, _], _ => rfl

/-- The joints that are sent are those that have been received. -/
theorem jointBody_parse {robot external : EgmJoints α} {axes axes' : RobotAxes}
    (h : (robot.parse external axes).1 = true) {body : EgmJoints α × Optional (EgmJoints α)}
    (hbody : jointBody axes' (robot.parse external axes).2.1 (robot.parse external axes).2.2 =
      some body) :
    body.1.joints = robot.joints ∧
      body.2.get.joints = external.joints.take Constants.defaultNumberOfExternalJoints := by
  unfold EgmJoints.parse at h hbody
  cases axes with
  | six =>
      simp only at h hbody
      split at h
      next hsize =>
        rw [if_pos hsize] at hbody
        cases axes' with
        | six =>
            have hsize' : (⟨robot.joints⟩ : Joints α).valuesSize =
              Constants.defaultNumberOfRobotJoints := hsize
            simp only [jointBody, hsize', if_true, Option.some.injEq] at hbody
            subst hbody
            refine ⟨rfl, ?_⟩
            simp only
            split
            next hempty => exact hempty.symm
            next => rfl
        | seven =>
            have hsize' : (⟨robot.joints⟩ : Joints α).valuesSize ≠
                Constants.defaultNumberOfRobotJoints + 1 := by
              change robot.joints.length ≠ _
              omega
            simp [jointBody, hsize'] at hbody
      next => cases h
  | seven =>
      simp only at h hbody
      split at h
      next hsize =>
        rw [if_pos hsize] at hbody
        cases axes' with
        | six => exact absurd hbody (by simp [jointBody, Joints.valuesSize,
            Constants.defaultNumberOfRobotJoints])
        | seven =>
            simp only [jointBody, Joints.valuesSize, List.length_cons, List.length_nil,
              Constants.defaultNumberOfRobotJoints, if_true, Option.some.injEq] at hbody
            subst hbody
            refine ⟨(eq_of_length hsize.1).symm, ?_⟩
            cases hexternal : external.joints with
            | nil => simp [hexternal] at hsize
            | cons joint joints => rfl
      next => cases h

variable [LinearOrder α] [Cmath α]

/-- The pose that is sent is the one that has been received. -/
theorem egmPose_parse {source : EgmPose α} (h : source.parse.1 = true) :
    (OutputContainer.egmPose source.parse.2).get.pos = source.pos ∧
      (OutputContainer.egmPose source.parse.2).get.orient = source.orient := by
  unfold EgmPose.parse at h ⊢
  simp only at h ⊢
  split at h
  next hpos =>
    split at h
    next horient =>
      simp only [hpos, horient, if_true]
      simp only [Bool.and_eq_true] at hpos horient
      obtain ⟨⟨⟨hpos, hx⟩, hy⟩, hz⟩ := hpos
      obtain ⟨⟨⟨⟨horient, h0⟩, h1⟩, h2⟩, h3⟩ := horient
      have hpos' : Optional.present (⟨.present source.pos.get.x.val, .present source.pos.get.y.val,
          .present source.pos.get.z.val⟩ : EgmCartesian α) = source.pos := by
        rw [Optional.present_val hx, Optional.present_val hy, Optional.present_val hz]
        exact Optional.present_get hpos
      have horient' : Optional.present (⟨.present source.orient.get.u0.val,
          .present source.orient.get.u1.val, .present source.orient.get.u2.val,
          .present source.orient.get.u3.val⟩ : EgmQuaternion α) = source.orient := by
        rw [Optional.present_val h0, Optional.present_val h1, Optional.present_val h2, Optional.present_val h3]
        exact Optional.present_get horient
      split <;> exact ⟨hpos', horient'⟩
    next => cases h
  next => cases h

/-- The outputs hold the joint positions and the pose of a message. -/
structure Output.Holds (o : Output α) (message : EgmFeedBack α) (axes : RobotAxes) : Prop where
  accepted : (message.joints.get.parse message.externalJoints.get axes).1 = true
  joints : o.robotJoints.position.get =
    (message.joints.get.parse message.externalJoints.get axes).2.1
  externalJoints : o.externalJoints.position.get =
    (message.joints.get.parse message.externalJoints.get axes).2.2
  acceptedPose : message.cartesian.get.parse.1 = true
  pose : o.robotCartesian.pose.get = message.cartesian.get.parse.2

namespace OutputContainer
omit [LinearOrder α] [Cmath α]

theorem constructJointBody_planned {o : OutputContainer α} {configuration : BaseConfiguration α}
    (h : (o.constructJointBody configuration).1 = true) :
    ∃ body, jointBody configuration.axes o.current.robotJoints.position.get
        o.current.externalJoints.position.get = some body ∧
      (o.constructJointBody configuration).2.egmSensor.planned.get.joints = .present body.1 ∧
      (o.constructJointBody configuration).2.egmSensor.planned.get.externalJoints = body.2 := by
  unfold constructJointBody at h ⊢
  simp only [Bool.and_eq_true] at h ⊢
  obtain ⟨⟨hhas, hsome⟩, -⟩ := h
  obtain ⟨body, hbody⟩ := Option.isSome_iff_exists.mp hsome
  refine ⟨body, hbody, ?_⟩
  simp only [hhas, hbody, if_true]
  split <;> exact ⟨rfl, rfl⟩

theorem constructCartesianBody_planned {o : OutputContainer α}
    {configuration : BaseConfiguration α} (h : (o.constructCartesianBody configuration).1 = true) :
    (o.constructCartesianBody configuration).2.egmSensor.planned =
      o.egmSensor.planned.modify fun planned => { planned with
        cartesian := egmPose o.current.robotCartesian.pose.get } := by
  unfold constructCartesianBody at h ⊢
  simp only [Bool.and_eq_true] at h ⊢
  simp only [h.1, if_true]
  split <;> rfl

/-- The planned values of a reply are written from the outputs. -/
theorem constructReply_planned {o : OutputContainer α} {configuration : BaseConfiguration α}
    {reply : EgmSensor α} (h : (o.constructReply configuration).reply = some reply) :
    ∃ body, jointBody configuration.axes o.current.robotJoints.position.get
        o.current.externalJoints.position.get = some body ∧
      reply.planned.get.joints = .present body.1 ∧
      reply.planned.get.externalJoints = body.2 ∧
      reply.planned.get.cartesian = egmPose o.current.robotCartesian.pose.get := by
  have hreply := constructReply_reply h
  unfold constructReply at h hreply
  simp only at h hreply
  split at h
  next hjoints =>
    split at h
    next hcartesian =>
      rw [if_pos hjoints, if_pos hcartesian] at hreply
      obtain ⟨body, hbody, hplanned⟩ := constructJointBody_planned hjoints
      have hreply : reply.planned = _ :=
        (congrArg EgmSensor.planned hreply).trans (constructCartesianBody_planned hcartesian)
      refine ⟨body, hbody, ?_⟩
      rw [hreply]
      exact ⟨hplanned.1, hplanned.2, rfl⟩
    next => cases h
  next => cases h

end OutputContainer

theorem Output.Holds.reports {o : OutputContainer α} {configuration : BaseConfiguration α}
    {message : EgmFeedBack α} {axes : RobotAxes} (ho : o.current.Holds message axes)
    {reply : EgmSensor α} (h : (o.constructReply configuration).reply = some reply) :
    reply.Reports message := by
  obtain ⟨body, hbody, hjoints, hexternal, hcartesian⟩ := OutputContainer.constructReply_planned h
  rw [ho.joints, ho.externalJoints] at hbody
  obtain ⟨hbody, hbody'⟩ := jointBody_parse ho.accepted hbody
  obtain ⟨hposition, horientation⟩ := egmPose_parse ho.acceptedPose
  rw [ho.pose] at hcartesian
  refine ⟨?_, ?_, ?_, ?_⟩
  · rw [hjoints]
    exact hbody
  · rw [hexternal]
    exact hbody'
  · rw [hcartesian]
    exact hposition
  · rw [hcartesian]
    exact horientation

/-! ### The outputs at a first message -/

theorem EgmPlanned.parse_values {source : EgmPlanned α} {target : Feedback α} {axes : RobotAxes}
    (h : (source.parse target axes).1 = true) :
    (source.joints.get.parse source.externalJoints.get axes).1 = true ∧
      (source.parse target axes).2.robotJoints.position =
        .present (source.joints.get.parse source.externalJoints.get axes).2.1 ∧
      (source.parse target axes).2.externalJoints.position =
        .present (source.joints.get.parse source.externalJoints.get axes).2.2 ∧
      source.cartesian.get.parse.1 = true ∧
      (source.parse target axes).2.robotCartesian.pose =
        .present source.cartesian.get.parse.2 := by
  unfold EgmPlanned.parse at h ⊢
  simp only at h ⊢
  split at h
  next hjoints =>
    split at h
    next hpose =>
      rw [if_pos hjoints, if_pos hpose]
      exact ⟨hjoints, rfl, rfl, hpose, rfl⟩
    next => cases h
  next => cases h

namespace InputContainer

theorem parseParts_feedback {i : InputContainer α} {axes : RobotAxes}
    (h : (i.parseParts axes).1 = true) :
    (i.egmRobot.feedBack.get.parse i.current.feedback.get axes).1 = true ∧
      (i.parseParts axes).2.feedback.get =
        (i.egmRobot.feedBack.get.parse i.current.feedback.get axes).2 := by
  unfold parseParts at h ⊢
  simp only at h ⊢
  split at h
  next hheader =>
    split at h
    next hfeedback =>
      split at h
      next hplanned =>
        rw [if_pos hheader, if_pos hfeedback, if_pos hplanned]
        exact ⟨hfeedback, rfl⟩
      next => cases h
    next => cases h
  next => cases h

variable [IsStrictOrderedRing α] [FloorRing α]

omit [IsStrictOrderedRing α] [Cmath α] in
theorem received_current (i : InputContainer α) (message : Input α) :
    (i.received message).current = message := by
  unfold received
  simp only
  split <;> rfl

/-- The feedback of an accepted message is what it reports. -/
theorem extractParsedInformation_feedback {i : InputContainer α} {axes : RobotAxes}
    (h : (i.extractParsedInformation axes).1 = true) :
    (i.egmRobot.feedBack.get.parse i.current.feedback.get axes).1 = true ∧
      (i.egmRobot.feedBack.get.parse i.current.feedback.get axes).2.SameValues
        (i.extractParsedInformation axes).2.current.feedback.get := by
  rw [extractParsedInformation_fst, Bool.and_eq_true] at h
  obtain ⟨hok, hfeedback⟩ := parseParts_feedback h.2
  have hvalues := (i.received (i.parseParts axes).2).estimateAllVelocities_sameValues.2.1
  rw [received_current, hfeedback] at hvalues
  rw [extractParsedInformation_of_parsed h.1 h.2]
  exact ⟨hok, hvalues⟩

end InputContainer

/-- The outputs at the first message of a session hold what it reports. -/
theorem Output.prepare_holds (o : Output α) {message : EgmFeedBack α} {target : Feedback α}
    {axes : RobotAxes} (haccepted : (message.parse target axes).1 = true) {feedback : Feedback α}
    (hfeedback : (message.parse target axes).2.SameValues feedback) :
    (o.prepare feedback).Holds message axes := by
  obtain ⟨haccepted, hjoints, hexternal, hpose, hpose'⟩ := EgmPlanned.parse_values haccepted
  obtain ⟨hrobot, hcartesian, hexternal', -⟩ := hfeedback
  refine ⟨haccepted, ?_, ?_, hpose, ?_⟩
  · change feedback.robotJoints.position.get = _
    rw [← hrobot, hjoints]
    rfl
  · change feedback.externalJoints.position.get = _
    rw [← hexternal', hexternal]
    rfl
  · change feedback.robotCartesian.pose.get = _
    rw [← hcartesian, hpose']
    rfl

namespace OutputContainer
omit [LinearOrder α] [Cmath α]

/-- Velocity references apart, a reply does not depend on the replies before. -/
theorem constructReply_congr {o : OutputContainer α} {configuration : BaseConfiguration α}
    (h : o.current.Shaped configuration.axes.numberOfJoints) {sensor : EgmSensor α}
    (htime : sensor.planned.get.time = o.egmSensor.planned.get.time)
    (hspeed : configuration.useVelocityOutputs = true ∨ sensor.speedRef = o.egmSensor.speedRef) :
    { o with egmSensor := sensor }.constructReply configuration =
      o.constructReply configuration := by
  obtain ⟨position, hposition, -⟩ :=
    jointBody_eq_some o.current.externalJoints.position.get h.joints.position.2
  obtain ⟨velocity, hvelocity, -⟩ :=
    jointBody_eq_some o.current.externalJoints.velocity.get h.joints.velocity.2
  have hpositions := h.joints.position.1
  have hvelocities := h.joints.velocity.1
  have hpose := h.cartesian.pose
  have hcartesian := h.cartesian.velocity
  cases hon : configuration.useVelocityOutputs with
  | true =>
      simp [constructReply, constructHeader, constructJointBody, constructCartesianBody, hposition,
        hvelocity, hpositions, hvelocities, hpose, hcartesian, hon, htime, Optional.modify]
  | false =>
      have hspeed := hspeed.resolve_left (by simp [hon])
      simp [constructReply, constructHeader, constructJointBody, constructCartesianBody, hposition,
        hvelocity, hpositions, hvelocities, hpose, hcartesian, hon, htime, hspeed, Optional.modify]

theorem constructReply_time (o : OutputContainer α) (configuration : BaseConfiguration α) :
    (o.constructReply configuration).egmSensor.planned.get.time =
      o.egmSensor.planned.get.time := by
  obtain ⟨-, hjoints⟩ := o.constructHeader.constructJointBody_frame configuration
  have hcartesian (o : OutputContainer α) :
      (o.constructCartesianBody configuration).2.egmSensor.planned.get.time =
        o.egmSensor.planned.get.time := by
    unfold constructCartesianBody
    simp only
    split_ifs <;> rfl
  unfold constructReply
  simp only
  split_ifs
  · exact (hcartesian _).trans hjoints
  · exact (hcartesian _).trans hjoints
  · exact hjoints

end OutputContainer

end reports

end AbbWrapper
