import AbbWrapper.Logger
import AbbWrapper.SessionLeak
import AbbWrapper.VectorSizes

/-! # The rows of the log

Every group of joints has twelve columns in the header.  A row has twelve values for a group if there
are at least six robot joints and at most twelve joints, and more otherwise: the robot joints
that are missing are made up for twice, and no external joint is left out.

* `Fits` says of the sizes of a group that it has twelve values, and `fields` counts the values of a row.
  A row has 48 commas besides those of its six groups (`adds_addMessage`).
* `Sizes` are the sizes of positions and velocities in an accepted message, as its axes prescribe
  (`RobotAxes.sizes`).
* `LogReady` is the invariant of an interface that logs: what the sizes of its outputs are, before and
  after the first accepted message.  It presupposes of the motion component that it keeps the sizes of the
  outputs (`KeepsSizes`), which the three interfaces do.
* `RowMatches` says that a row has as many fields as the header, and `RowFits` is the condition on its
  message.

Along a run the rows match the header exactly if the messages fit (`along_rowMatches_iff`), for all three
interfaces (`rows_match_header`).  A seventh external joint makes one more value in each group. -/

namespace AbbWrapper

open Protobuf Runs

variable {α β κ μ υ : Type}

namespace LogToken

def isComma : LogToken α → Bool
  | .comma => true
  | _ => false

/-- The number of commas. -/
def commas (row : List (LogToken α)) : ℕ := row.countP isComma

/-- The number of fields of a row. -/
def fields (row : List (LogToken α)) : ℕ := commas row + 1

@[simp] theorem commas_append (row row' : List (LogToken α)) :
    commas (row ++ row') = commas row + commas row' :=
  List.countP_append

@[simp] theorem commas_values (values : List α) : commas (EGMLogger.values values) = values.length := by
  induction values with
  | nil => rfl
  | cons v values ih =>
      change commas ([.number v, .comma] ++ EGMLogger.values values) = _
      rw [commas_append, ih, List.length_cons, Nat.add_comm]
      rfl

end LogToken

open LogToken

/-! ### One row -/

/-- A group of joints that has twelve values in a row. -/
def Fits (sizes : ℕ × ℕ) : Prop := 6 ≤ sizes.1 ∧ sizes.1 + sizes.2 ≤ 12

instance (sizes : ℕ × ℕ) : Decidable (Fits sizes) := inferInstanceAs (Decidable (_ ∧ _))

/-- The number of values that are written for a group. -/
def jointFields (sizes : ℕ × ℕ) : ℕ :=
  sizes.1 + (Constants.defaultNumberOfRobotJoints - sizes.1) + sizes.2 +
    EGMLogger.missingExternalJoints sizes.1 sizes.2

theorem jointFields_eq {sizes : ℕ × ℕ} (h : sizes.1 ≤ 12) :
    jointFields sizes = sizes.1 + (6 - sizes.1) + sizes.2 + (12 - sizes.1 - sizes.2) := by
  have hbound : (12 + 2 ^ 64 - sizes.1) % 2 ^ 64 = 12 - sizes.1 := by omega
  unfold jointFields EGMLogger.missingExternalJoints
  change _ + _ + _ + ((12 + 2 ^ 64 - sizes.1) % 2 ^ 64 - sizes.2) = _
  rw [hbound]
  rfl

theorem le_jointFields {sizes : ℕ × ℕ} (h : sizes.1 ≤ 12) : 12 ≤ jointFields sizes := by
  rw [jointFields_eq h]
  omega

theorem jointFields_eq_iff {sizes : ℕ × ℕ} (h : sizes.1 ≤ 12) : jointFields sizes = 12 ↔ Fits sizes := by
  rw [jointFields_eq h]
  unfold Fits
  omega

/-- The numbers of robot and of external joints of the outputs. -/
def Output.sizes (o : Output α) : ℕ × ℕ :=
  (o.robotJoints.position.get.valuesSize, o.externalJoints.position.get.valuesSize)

def Output.velocitySizes (o : Output α) : ℕ × ℕ :=
  (o.robotJoints.velocity.get.valuesSize, o.externalJoints.velocity.get.valuesSize)

/-- The sizes of the six groups of a row. -/
def rowSizes (inputs : InputContainer α) (outputs : OutputContainer α) : List (ℕ × ℕ) :=
  [inputs.current.feedback.get.sizes, inputs.current.feedback.get.velocitySizes,
    inputs.current.planned.get.sizes, inputs.current.planned.get.velocitySizes,
    outputs.current.sizes, outputs.current.velocitySizes]

namespace EGMLogger

/-- `n` more commas in the row, and nothing else. -/
structure Adds (n : ℕ) (logger logger' : EGMLogger α) : Prop where
  commas : commas logger'.row = commas logger.row + n
  rows : logger'.rows = logger.rows
  header : logger'.header = logger.header

theorem Adds.trans {n m : ℕ} {logger logger' logger'' : EGMLogger α} (h : Adds n logger logger')
    (h' : Adds m logger' logger'') : Adds (n + m) logger logger'' := by
  refine ⟨?_, h'.rows.trans h.rows, h'.header.trans h.header⟩
  rw [h'.commas, h.commas]
  omega

theorem adds_write (logger : EGMLogger α) {tokens : List (LogToken α)} {n : ℕ}
    (h : LogToken.commas tokens = n) : Adds n logger (logger.write tokens) := by
  refine ⟨?_, rfl, rfl⟩
  rw [← h]
  exact commas_append _ _

variable [Field α] (logger : EGMLogger α)

theorem adds_addJoints (robot external : Joints α) :
    Adds (jointFields (robot.valuesSize, external.valuesSize)) logger
      (logger.addJoints robot external) := by
  unfold jointFields addJoints addMockJoints
  simp only [if_true, Bool.false_eq_true, if_false]
  refine ((Adds.trans (adds_write _ ?_) (adds_write _ ?_)).trans (adds_write _ ?_)).trans
    (adds_write _ ?_)
  · exact commas_values _
  · rw [commas_values, List.length_replicate]
  · exact commas_values _
  · rw [commas_values, List.length_replicate]

theorem adds_addPose (pose : CartesianPose α) : Adds 10 logger (logger.addPose pose) :=
  ((adds_write logger (n := 3) rfl).trans (adds_write _ (n := 3) rfl)).trans
    (adds_write _ (n := 4) rfl)

/-- One comma less at the end of a row. -/
theorem adds_addVelocity (velocity : CartesianVelocity α) (last : Bool) :
    Adds (if last then 5 else 6) logger (logger.addVelocity velocity last) := by
  cases last with
  | true => exact (adds_write logger (n := 3) rfl).trans (adds_write _ (n := 2) rfl)
  | false => exact (adds_write logger (n := 3) rfl).trans (adds_write _ (n := 3) rfl)

theorem adds_addFeedback (feedback : Feedback α) :
    Adds (jointFields feedback.sizes + jointFields feedback.velocitySizes + 16) logger
      (logger.addFeedback feedback) := by
  have hpositions := logger.adds_addJoints feedback.robotJoints.position.get
    feedback.externalJoints.position.get
  have hvelocities := hpositions.trans (adds_addJoints _ feedback.robotJoints.velocity.get
    feedback.externalJoints.velocity.get)
  have hpose := hvelocities.trans (adds_addPose _ feedback.robotCartesian.pose.get)
  exact hpose.trans (adds_addVelocity _ feedback.robotCartesian.velocity.get false)

theorem adds_addOutput (output : Output α) :
    Adds (jointFields output.sizes + jointFields output.velocitySizes + 15) logger
      (logger.addOutput output) := by
  have hpositions := logger.adds_addJoints output.robotJoints.position.get
    output.externalJoints.position.get
  have hvelocities := hpositions.trans (adds_addJoints _ output.robotJoints.velocity.get
    output.externalJoints.velocity.get)
  have hpose := hvelocities.trans (adds_addPose _ output.robotCartesian.pose.get)
  exact hpose.trans (adds_addVelocity _ output.robotCartesian.velocity.get true)

/-- **A row has 48 commas besides those of its six groups.** -/
theorem adds_addMessage (inputs : InputContainer α) (outputs : OutputContainer α) :
    Adds (((rowSizes inputs outputs).map jointFields).sum + 48) logger
      (logger.addMessage inputs outputs) := by
  have hheader : Adds 1 logger (logger.addHeader inputs.current.header.get) := adds_write _ rfl
  have hfeedback := hheader.trans (adds_addFeedback _ inputs.current.feedback.get)
  have hplanned := hfeedback.trans (adds_addFeedback _ inputs.current.planned.get)
  have houtput := hplanned.trans (adds_addOutput _ outputs.current)
  refine ⟨?_, houtput.rows, houtput.header⟩
  unfold rowSizes addMessage
  simp only [List.map_cons, List.map_nil, List.sum_cons, List.sum_nil]
  rw [houtput.commas]
  omega

/-- The row of a message. -/
def messageRow (inputs : InputContainer α) (outputs : OutputContainer α) : List (LogToken α) :=
  ((init : EGMLogger α).addMessage inputs outputs).row

/-- Six groups of twelve values, or more. -/
theorem fields_messageRow_iff {inputs : InputContainer α} {outputs : OutputContainer α}
    (h : ∀ sizes ∈ rowSizes inputs outputs, sizes.1 ≤ 12) :
    fields (messageRow inputs outputs) = 121 ↔ ∀ sizes ∈ rowSizes inputs outputs, Fits sizes := by
  have hcommas : LogToken.commas (messageRow inputs outputs) =
      LogToken.commas ([] : List (LogToken α)) +
        (((rowSizes inputs outputs).map jointFields).sum + 48) :=
    (init.adds_addMessage inputs outputs).commas
  have hgroups : ∀ groups : List (ℕ × ℕ), (∀ sizes ∈ groups, sizes.1 ≤ 12) →
      12 * groups.length ≤ (groups.map jointFields).sum ∧
        ((groups.map jointFields).sum = 12 * groups.length ↔ ∀ sizes ∈ groups, Fits sizes) := by
    intro groups hgroups
    induction groups with
    | nil => simp
    | cons sizes groups ih =>
        obtain ⟨hsizes, hrest⟩ := List.forall_mem_cons.mp hgroups
        obtain ⟨hle, hiff⟩ := ih hrest
        have htwelve := le_jointFields hsizes
        rw [List.map_cons, List.sum_cons, List.length_cons, List.forall_mem_cons,
          ← jointFields_eq_iff hsizes, ← hiff]
        omega
  have hsix : (rowSizes inputs outputs).length = 6 := rfl
  obtain ⟨-, hiff⟩ := hgroups _ h
  rw [← hiff, hsix, fields, hcommas]
  change 0 + _ + 1 = 121 ↔ _
  omega

end EGMLogger

/-! ### The sizes of an accepted message -/

section received
variable [Field α]

/-- The number of external joints: for seven axes the first value belongs to the robot. -/
def RobotAxes.externalSize (axes : RobotAxes) (message : EgmPlanned α) : ℕ :=
  match axes with
  | .six => message.externalJoints.get.joints.length
  | .seven => message.externalJoints.get.joints.length - 1

/-- The positions that a message brings. -/
def RobotAxes.sizes (axes : RobotAxes) (message : EgmPlanned α) : ℕ × ℕ :=
  (axes.numberOfJoints, axes.externalSize message)

theorem RobotAxes.numberOfJoints_bounds (axes : RobotAxes) :
    6 ≤ axes.numberOfJoints ∧ axes.numberOfJoints ≤ 7 := by
  cases axes <;> decide

variable [LinearOrder α] [Cmath α]

theorem EgmPlanned.parse_sizes {target : Feedback α} {source : EgmPlanned α} {axes : RobotAxes}
    (h : (source.parse target axes).1 = true) :
    (source.parse target axes).2.sizes = axes.sizes source ∧
      (Fits (axes.sizes source) ↔ source.externalJoints.get.joints.length ≤ 6) := by
  have hexternal : (source.joints.get.parse source.externalJoints.get axes).1 = true →
      (source.joints.get.parse source.externalJoints.get axes).2.2.valuesSize =
          axes.externalSize source ∧
        (Fits (axes.sizes source) ↔ source.externalJoints.get.joints.length ≤ 6) := by
    intro hjoints
    unfold EgmJoints.parse at hjoints ⊢
    unfold Fits RobotAxes.sizes RobotAxes.externalSize RobotAxes.numberOfJoints
    cases axes with
    | six =>
        simp only at hjoints ⊢
        split at hjoints
        next hsize =>
          rw [if_pos hsize]
          change _ ∧ (6 ≤ 6 ∧ 6 + _ ≤ 12 ↔ _)
          exact ⟨rfl, by omega⟩
        next => cases hjoints
    | seven =>
        simp only at hjoints ⊢
        split at hjoints
        next hsize =>
          rw [if_pos hsize]
          change _ ∧ (6 ≤ 6 + 1 ∧ 6 + 1 + (_ - 1) ≤ 12 ↔ _)
          exact ⟨List.length_drop, by omega⟩
        next => cases hjoints
  have hrobot := EgmPlanned.parse_size h
  unfold EgmPlanned.parse at h hrobot ⊢
  simp only at h hrobot ⊢
  split at h
  next hjoints =>
    split at h
    next hpose =>
      rw [if_pos hjoints, if_pos hpose] at hrobot ⊢
      obtain ⟨hsize, hfits⟩ := hexternal hjoints
      exact ⟨Prod.ext hrobot hsize, hfits⟩
    next => cases h
  next => cases h

namespace InputContainer

omit [Field α] [LinearOrder α] [Cmath α] in
theorem previous_parseFromArray (ParseFromArray : β → Bool × EgmRobot α) (i : InputContainer α)
    (data : Option β) : (i.parseFromArray ParseFromArray data).2.previous = i.previous := by
  unfold InputContainer.parseFromArray
  cases data <;> dsimp only <;> split <;> rfl

theorem parseParts_sizes {i : InputContainer α} {axes : RobotAxes} (h : (i.parseParts axes).1 = true) :
    ((i.parseParts axes).2.feedback.get.sizes = axes.sizes i.egmRobot.feedBack.get ∧
      (Fits (axes.sizes i.egmRobot.feedBack.get) ↔
        i.egmRobot.feedBack.get.externalJoints.get.joints.length ≤ 6)) ∧
    (i.parseParts axes).2.planned.get.sizes = axes.sizes i.egmRobot.planned.get ∧
      (Fits (axes.sizes i.egmRobot.planned.get) ↔
        i.egmRobot.planned.get.externalJoints.get.joints.length ≤ 6) := by
  unfold parseParts at h ⊢
  simp only at h ⊢
  split at h
  next hheader =>
    split at h
    next hfeedback =>
      split at h
      next hplanned =>
        rw [if_pos hheader, if_pos hfeedback, if_pos hplanned]
        exact ⟨EgmPlanned.parse_sizes hfeedback, EgmPlanned.parse_sizes hplanned⟩
      next => cases h
    next => cases h
  next => cases h

/-- The sizes of positions and of velocities, of which only those can be estimated that the positions
before have. -/
structure Sizes (f : Feedback α) (sizes previous : ℕ × ℕ) : Prop where
  position : f.sizes = sizes
  velocity : f.velocitySizes = (min sizes.1 previous.1, min sizes.2 previous.2)

theorem estimateAllVelocities_sizes {i : InputContainer α} (h : i.estimateAllVelocities.1 = true) :
    Sizes i.estimateAllVelocities.2.current.feedback.get i.current.feedback.get.sizes
        i.previous.feedback.get.sizes ∧
      Sizes i.estimateAllVelocities.2.current.planned.get i.current.planned.get.sizes
        i.previous.planned.get.sizes := by
  obtain ⟨-, hfeedback, hplanned, -⟩ := i.estimateAllVelocities_sameValues
  refine ⟨⟨hfeedback.sizes.symm, ?_⟩, ⟨hplanned.sizes.symm, ?_⟩⟩
  · unfold estimateAllVelocities at h ⊢
    simp only at h ⊢
    split at h
    next hok =>
      rw [if_pos hok]
      exact Feedback.velocitySizes_estimateVelocities hok
    next => cases h
  · unfold estimateAllVelocities at h ⊢
    simp only at h ⊢
    split at h
    next hok =>
      rw [if_pos hok]
      exact Feedback.velocitySizes_estimateVelocities h
    next => cases h

variable [FloorRing α] [IsStrictOrderedRing α]

/-- What the positions of a first message are compared with are these positions. -/
def comparedSizes (i : InputContainer α) (sizes previous : ℕ × ℕ) : ℕ × ℕ :=
  if i.firstMessage then sizes else previous

theorem extractParsedInformation_sizes {i : InputContainer α} {axes : RobotAxes}
    (h : (i.extractParsedInformation axes).1 = true) :
    Sizes (i.extractParsedInformation axes).2.current.feedback.get
        (axes.sizes i.egmRobot.feedBack.get)
        (i.comparedSizes (axes.sizes i.egmRobot.feedBack.get) i.previous.feedback.get.sizes) ∧
      Sizes (i.extractParsedInformation axes).2.current.planned.get
        (axes.sizes i.egmRobot.planned.get)
        (i.comparedSizes (axes.sizes i.egmRobot.planned.get) i.previous.planned.get.sizes) := by
  have hparts := h
  rw [extractParsedInformation_fst, Bool.and_eq_true] at hparts
  obtain ⟨⟨hfeedback, -⟩, hplanned, -⟩ := parseParts_sizes hparts.2
  unfold extractParsedInformation at h ⊢
  unfold comparedSizes
  rw [← hfeedback, ← hplanned]
  cases hfirst : i.firstMessage with
  | true =>
      simp only [hparts.1, hparts.2, hfirst, if_true] at h ⊢
      exact estimateAllVelocities_sizes h
  | false =>
      simp only [hparts.1, hparts.2, hfirst, if_true, Bool.false_eq_true, if_false] at h ⊢
      exact estimateAllVelocities_sizes h

end InputContainer

end received

/-! ### What keeps the sizes of the outputs -/

theorem Output.sizes_of_shape {o o' : Output α} (h : o.shape = o'.shape) :
    o.sizes = o'.sizes ∧ o.velocitySizes = o'.velocitySizes := by
  simp only [Output.shape, JointSpace.vectorSizes, Prod.mk.injEq, List.cons.injEq, and_true] at h
  obtain ⟨⟨hrobot, hrobotVelocity⟩, hexternal, hexternalVelocity⟩ := h
  exact ⟨Prod.ext hrobot hexternal, Prod.ext hrobotVelocity hexternalVelocity⟩

section keeps
variable [Field α]

theorem JointSpace.vectorSizes_copyPresent (target source : JointSpace α) :
    (target.copyPresent source).vectorSizes = target.vectorSizes := by
  unfold JointSpace.copyPresent
  cases source.position.has <;> cases source.velocity.has <;> simp [JointSpace.vectorSizes]

variable [LinearOrder α] [Cmath α]

theorem Output.shape_copyPresent (target source : Output α) :
    (target.copyPresent source).shape = target.shape := by
  have hrobot (target source : Robot α) :
      (target.copyPresent source).joints.get.vectorSizes = target.joints.get.vectorSizes := by
    unfold Robot.copyPresent
    cases source.joints.has <;> cases source.cartesian.has <;>
      simp [Robot.modifyJoints, Robot.modifyCartesian, JointSpace.vectorSizes_copyPresent]
  have hexternal (target source : External α) :
      (target.copyPresent source).joints.get.vectorSizes = target.joints.get.vectorSizes := by
    unfold External.copyPresent
    cases source.joints.has <;> simp [External.modifyJoints, JointSpace.vectorSizes_copyPresent]
  unfold Output.copyPresent Output.shape Output.robotJoints Output.externalJoints
  cases source.robot.has <;> cases source.external.has <;> simp [hrobot, hexternal]

/-- The motion component keeps the sizes of the outputs. -/
def Handler.KeepsSizes (h : Handler κ μ υ α) : Prop :=
  ∀ motion (outputs : Output α) inputs, (h.generateOutputs motion outputs inputs).2.shape = outputs.shape

theorem controllerHandler_keepsSizes : (controllerHandler (α := α)).KeepsSizes := by
  intro motion outputs inputs
  unfold controllerHandler
  dsimp only
  split
  · exact Output.shape_copyPresent _ _
  · rfl

variable [FloorRing α]

theorem EGMInterface.execute_sizes {h : Handler κ μ υ α} (hh : h.KeepsSizes) (s : EGMInterface κ μ α)
    (mid : List υ) : (s.execute h mid).inputs = s.inputs ∧
      (s.execute h mid).outputs.current.shape = s.outputs.current.shape := by
  unfold EGMInterface.execute
  dsimp only
  split
  · exact ⟨rfl, OutputContainer.shape_generateDemoOutputs _ _⟩
  · exact ⟨rfl, hh _ _ _⟩

end keeps

/-! ### Runs -/

namespace EGMInterface

variable [Field α] [LinearOrder α] [IsStrictOrderedRing α] [Cmath α] [FloorRing α]
  (h : Handler κ μ υ α) (ParseFromArray : β → Bool × EgmRobot α)

/-- The row of an accepted message has as many fields as the header. -/
def RowMatches (s : EGMInterface κ μ α) : Event κ υ β → Prop
  | .datagram data mid => s.accepts h ParseFromArray data = true →
      let executed := (s.initializeCallback h ParseFromArray data).2.execute h mid
      fields (EGMLogger.messageRow executed.inputs executed.outputs) = EGMLogger.defaultHeaders.length
  | _ => True

/-- An accepted message has at most six external joints, and it is the first one of a session unless
the first one of a session has been accepted before. -/
def RowFits (s : EGMInterface κ μ α) : Event κ υ β → Prop
  | .datagram data _ => s.accepts h ParseFromArray data = true →
      let inputs := (s.inputs.parseFromArray ParseFromArray data).2
      inputs.egmRobot.feedBack.get.externalJoints.get.joints.length ≤ 6 ∧
        inputs.egmRobot.planned.get.externalJoints.get.joints.length ≤ 6 ∧
        (inputs.firstMessage = true ∨ s.outputs.current.sizes.1 ≠ 0)
  | _ => True

/-- Before the first accepted message the outputs are empty; afterwards they fit, and there are robot
joints to compare with. -/
inductive LogReady (s : EGMInterface κ μ α) : Prop where
  | empty (sizes : s.outputs.current.sizes.1 = 0) (velocitySizes : s.outputs.current.velocitySizes.1 = 0)
  | started (sizes : Fits s.outputs.current.sizes) (velocitySizes : Fits s.outputs.current.velocitySizes)
      (feedback : 6 ≤ s.inputs.previous.feedback.get.sizes.1)
      (planned : 6 ≤ s.inputs.previous.planned.get.sizes.1)

variable {h ParseFromArray} {s : EGMInterface κ μ α} {data : Option β}

/-- The sizes after a message was accepted: of the positions in the message, and of the outputs. -/
theorem accepted_sizes (haccepted : s.accepts h ParseFromArray data = true) :
    let inputs := (s.inputs.parseFromArray ParseFromArray data).2
    let r := (s.initializeCallback h ParseFromArray data).2
    ∃ feedback planned : ℕ × ℕ,
      (6 ≤ feedback.1 ∧ feedback.1 ≤ 7 ∧ 6 ≤ planned.1 ∧ planned.1 ≤ 7) ∧
      (Fits feedback ↔ inputs.egmRobot.feedBack.get.externalJoints.get.joints.length ≤ 6) ∧
      (Fits planned ↔ inputs.egmRobot.planned.get.externalJoints.get.joints.length ≤ 6) ∧
      InputContainer.Sizes r.inputs.current.feedback.get feedback
        (inputs.comparedSizes feedback s.inputs.previous.feedback.get.sizes) ∧
      InputContainer.Sizes r.inputs.current.planned.get planned
        (inputs.comparedSizes planned s.inputs.previous.planned.get.sizes) ∧
      if inputs.firstMessage then r.outputs.current.Matches feedback
        else r.outputs.current = s.outputs.current := by
  intro inputs r
  have hparsed := parsed_of_accepts haccepted
  have hprevious : inputs.previous = s.inputs.previous :=
    InputContainer.previous_parseFromArray ParseFromArray s.inputs data
  obtain ⟨haccepts, hinputs, houtputs⟩ := initializeCallback_of_parsed h ParseFromArray hparsed rfl
  rw [haccepted] at haccepts houtputs
  rw [if_pos rfl] at houtputs
  obtain ⟨hfeedback, hplanned⟩ := InputContainer.extractParsedInformation_sizes haccepts.symm
  have hparts := haccepts.symm
  rw [InputContainer.extractParsedInformation_fst, Bool.and_eq_true] at hparts
  obtain ⟨⟨-, hfitsFeedback⟩, -, hfitsPlanned⟩ := InputContainer.parseParts_sizes hparts.2
  obtain ⟨hlower, hupper⟩ :=
    (h.base (s.initializeCallback h ParseFromArray data).2.configuration.active).axes.numberOfJoints_bounds
  rw [← hinputs] at hfeedback hplanned
  rw [hprevious] at hfeedback hplanned
  refine ⟨_, _, ⟨hlower, hupper, hlower, hupper⟩, hfitsFeedback, hfitsPlanned, hfeedback, hplanned, ?_⟩
  change if inputs.firstMessage then
    ((s.initializeCallback h ParseFromArray data).2.outputs.current).Matches _ else _
  split
  next hfirst =>
    have hmatches := s.outputs.clearReply.current.prepare_matches (hfeedback.velocity.trans ?_)
    · rw [hfeedback.position] at hmatches
      rw [houtputs]
      unfold OutputContainer.prepareOutputs
      rw [if_pos ((InputContainer.extractParsedInformation_firstMessage _ _).trans hfirst), ← hinputs]
      exact hmatches
    · rw [hfeedback.position, InputContainer.comparedSizes, if_pos hfirst, min_self, min_self]
  next hfirst =>
    exact initializeCallback_later h ParseFromArray data fun _ => Bool.eq_false_iff.mpr hfirst

omit [Field α] [LinearOrder α] [IsStrictOrderedRing α] [Cmath α] [FloorRing α] in
theorem sizes_of_matches {o : Output α} {sizes : ℕ × ℕ} (h : o.Matches sizes) :
    o.sizes = sizes ∧ o.velocitySizes = sizes := by
  simp only [Output.Matches, Output.shape, JointSpace.vectorSizes, Prod.mk.injEq, List.cons.injEq,
    and_true] at h
  obtain ⟨⟨hrobot, hrobotVelocity⟩, hexternal, hexternalVelocity⟩ := h
  exact ⟨Prod.ext hrobot hexternal, Prod.ext hrobotVelocity hexternalVelocity⟩

/-- Velocities for enough joints fit if the positions do. -/
theorem fits_min {sizes previous : ℕ × ℕ} (h : Fits sizes) (hprevious : 6 ≤ previous.1) :
    Fits (min sizes.1 previous.1, min sizes.2 previous.2) := by
  unfold Fits at h ⊢
  dsimp only
  omega

/-- The six groups of an accepted message, and the state that it leaves. -/
theorem LogReady.accepted (hs : s.LogReady) (haccepted : s.accepts h ParseFromArray data = true) :
    let inputs := (s.inputs.parseFromArray ParseFromArray data).2
    let r := (s.initializeCallback h ParseFromArray data).2
    (∀ sizes ∈ rowSizes r.inputs r.outputs, sizes.1 ≤ 12) ∧
    ((∀ sizes ∈ rowSizes r.inputs r.outputs, Fits sizes) ↔
      inputs.egmRobot.feedBack.get.externalJoints.get.joints.length ≤ 6 ∧
        inputs.egmRobot.planned.get.externalJoints.get.joints.length ≤ 6 ∧
        (inputs.firstMessage = true ∨ s.outputs.current.sizes.1 ≠ 0)) ∧
    6 ≤ r.inputs.current.feedback.get.sizes.1 ∧ 6 ≤ r.inputs.current.planned.get.sizes.1 := by
  intro inputs r
  obtain ⟨feedback, planned, hbounds, hfitsFeedback, hfitsPlanned, hfeedback, hplanned, houtputs⟩ :=
    accepted_sizes haccepted
  obtain ⟨hf6, hf7, hp6, hp7⟩ := hbounds
  rw [← hfitsFeedback, ← hfitsPlanned]
  unfold rowSizes
  simp only [List.forall_mem_cons, List.not_mem_nil, false_implies, implies_true, and_true]
  rw [hfeedback.position, hfeedback.velocity, hplanned.position, hplanned.velocity]
  dsimp only
  cases hfirst : inputs.firstMessage with
  | true =>
      rw [if_pos hfirst] at houtputs
      obtain ⟨hsizes, hvelocitySizes⟩ := sizes_of_matches houtputs
      rw [hsizes, hvelocitySizes]
      unfold InputContainer.comparedSizes
      rw [if_pos hfirst, if_pos hfirst, min_self, min_self, min_self, min_self]
      refine ⟨by omega, ?_, hf6, hp6⟩
      constructor
      · rintro ⟨hf, -, hp, -⟩
        exact ⟨hf, hp, .inl rfl⟩
      · rintro ⟨hf, hp, -⟩
        exact ⟨hf, hf, hp, hp, hf, hf⟩
  | false =>
      rw [if_neg (by rw [hfirst]; exact Bool.false_ne_true)] at houtputs
      rw [houtputs]
      unfold InputContainer.comparedSizes
      rw [if_neg (by rw [hfirst]; exact Bool.false_ne_true),
        if_neg (by rw [hfirst]; exact Bool.false_ne_true)]
      cases hs with
      | empty hsizes hvelocitySizes =>
          refine ⟨by omega, iff_of_false ?_ ?_, hf6, hp6⟩
          · rintro ⟨-, -, -, -, ho, -⟩
            have hsix := ho.1
            omega
          · rintro ⟨-, -, hnot | hnot⟩
            · exact absurd hnot Bool.false_ne_true
            · exact hnot hsizes
      | started hsizes hvelocitySizes hpreviousFeedback hpreviousPlanned =>
          have hsix := hsizes.1
          have htwelve := hsizes.2
          have htwelve' := hvelocitySizes.2
          refine ⟨by omega, ?_, hf6, hp6⟩
          constructor
          · rintro ⟨hf, -, hp, -⟩
            exact ⟨hf, hp, .inr (by omega)⟩
          · rintro ⟨hf, hp, -⟩
            exact ⟨hf, fits_min hf hpreviousFeedback, hp, fits_min hp hpreviousPlanned, hsizes,
              hvelocitySizes⟩

/-- A rejected datagram leaves the outputs and the inputs of the message before. -/
theorem LogReady.rejected (hs : s.LogReady) (hrejected : s.accepts h ParseFromArray data = false) :
    (s.initializeCallback h ParseFromArray data).2.LogReady := by
  have hprevious := InputContainer.previous_parseFromArray ParseFromArray s.inputs data
  have hkept : (s.initializeCallback h ParseFromArray data).2.outputs.current = s.outputs.current ∧
      (s.initializeCallback h ParseFromArray data).2.inputs.previous = s.inputs.previous := by
    refine ⟨initializeCallback_later h ParseFromArray data fun haccepted =>
      absurd (hrejected.symm.trans haccepted) Bool.false_ne_true, ?_⟩
    cases hparsed : (s.inputs.parseFromArray ParseFromArray data).1 with
    | false =>
        rw [(initializeCallback_of_unparsed h ParseFromArray hparsed).2.1]
        split
        · exact hprevious
        · rfl
    | true =>
        obtain ⟨haccepts, hinputs, -⟩ := initializeCallback_of_parsed h ParseFromArray hparsed rfl
        rw [hrejected] at haccepts
        rw [hinputs, InputContainer.extractParsedInformation_rejected haccepts.symm]
        split
        · exact hprevious
        · exact hprevious
  cases hs with
  | empty hsizes hvelocitySizes =>
      exact .empty (hkept.1 ▸ hsizes) (hkept.1 ▸ hvelocitySizes)
  | started hsizes hvelocitySizes hfeedback hplanned =>
      exact .started (hkept.1 ▸ hsizes) (hkept.1 ▸ hvelocitySizes) (hkept.2 ▸ hfeedback)
        (hkept.2 ▸ hplanned)

omit [IsStrictOrderedRing α] in
/-- The row of a message that is executed has the sizes of the outputs before. -/
theorem rowSizes_execute (hh : h.KeepsSizes) (s : EGMInterface κ μ α) (mid : List υ) :
    rowSizes (s.execute h mid).inputs (s.execute h mid).outputs = rowSizes s.inputs s.outputs := by
  obtain ⟨hinputs, hshape⟩ := execute_sizes hh s mid
  obtain ⟨hsizes, hvelocitySizes⟩ := Output.sizes_of_shape hshape
  unfold rowSizes
  rw [hinputs, hsizes, hvelocitySizes]

theorem LogReady.rowMatches_iff (hh : h.KeepsSizes) (hs : s.LogReady) (e : Event κ υ β) :
    s.RowMatches h ParseFromArray e ↔ s.RowFits h ParseFromArray e := by
  cases e with
  | user call => exact Iff.rfl
  | setConfiguration configuration => exact Iff.rfl
  | datagram data mid =>
      refine forall_congr' fun haccepted => ?_
      obtain ⟨hbounds, hfits, -, -⟩ := hs.accepted haccepted
      have hrow := rowSizes_execute hh (s.initializeCallback h ParseFromArray data).2 mid
      rw [← hrow] at hbounds hfits
      exact (EGMLogger.fields_messageRow_iff hbounds).trans hfits

omit [Field α] [LinearOrder α] [IsStrictOrderedRing α] [Cmath α] [FloorRing α] in
/-- Only the inputs and the outputs matter. -/
theorem LogReady.of_eq {s' : EGMInterface κ μ α} (hs : s.LogReady) (hinputs : s'.inputs = s.inputs)
    (houtputs : s'.outputs = s.outputs) : s'.LogReady := by
  cases hs with
  | empty hsizes hvelocitySizes =>
      rw [← houtputs] at hsizes hvelocitySizes
      exact .empty hsizes hvelocitySizes
  | started hsizes hvelocitySizes hfeedback hplanned =>
      rw [← houtputs] at hsizes hvelocitySizes
      rw [← hinputs] at hfeedback hplanned
      exact .started hsizes hvelocitySizes hfeedback hplanned

theorem LogReady.step (hh : h.KeepsSizes) (hs : s.LogReady) (e : Event κ υ β)
    (he : s.RowFits h ParseFromArray e) : (s.step h ParseFromArray e).LogReady := by
  cases e with
  | user call => exact hs.of_eq rfl rfl
  | setConfiguration configuration => exact hs.of_eq rfl rfl
  | datagram data mid =>
      change (s.callback h ParseFromArray data mid).LogReady
      cases haccepted : s.accepts h ParseFromArray data with
      | false =>
          rw [callback_of_rejected h ParseFromArray haccepted]
          exact (hs.rejected haccepted).of_eq rfl rfl
      | true =>
          rw [callback_of_accepted h ParseFromArray haccepted]
          obtain ⟨-, hfits, hfeedback, hplanned⟩ := hs.accepted haccepted
          obtain ⟨hinputs, hshape⟩ :=
            execute_sizes hh (s.initializeCallback h ParseFromArray data).2 mid
          obtain ⟨hsizes, hvelocitySizes⟩ := Output.sizes_of_shape hshape
          have hall := hfits.mpr (he haccepted)
          unfold rowSizes at hall
          simp only [List.forall_mem_cons] at hall
          obtain ⟨-, -, -, -, hout, houtVelocity, -⟩ := hall
          have hcurrent : (((s.initializeCallback h ParseFromArray data).2.execute h mid).finish
              h).outputs.current =
                ((s.initializeCallback h ParseFromArray data).2.execute h mid).outputs.current :=
            OutputContainer.constructReply_current _ _
          refine .started ?_ ?_ ?_ ?_
          · rw [hcurrent, hsizes]
            exact hout
          · rw [hcurrent, hvelocitySizes]
            exact houtVelocity
          · change 6 ≤ ((s.initializeCallback h ParseFromArray data).2.execute h
              mid).inputs.current.feedback.get.sizes.1
            rw [hinputs]
            exact hfeedback
          · change 6 ≤ (Feedback.sizes ((s.initializeCallback h ParseFromArray data).2.execute h
              mid).inputs.current.planned.get).1
            rw [hinputs]
            exact hplanned

/-- **Exactly the runs of messages that fit have rows that match.** -/
theorem along_rowMatches_iff (hh : h.KeepsSizes) (configuration : κ) (motion : μ)
    (es : List (Event κ υ β)) :
    Along (step h ParseFromArray) (RowMatches h ParseFromArray) (init configuration motion) es ↔
      Along (step h ParseFromArray) (RowFits h ParseFromArray) (init configuration motion) es :=
  along_iff (I := LogReady) (fun _ e hs => hs.rowMatches_iff hh e) (fun _ e hs => hs.step hh e)
    (.empty rfl rfl)

end EGMInterface

/-! ### The log -/

namespace LoggedInterface

variable [Field α] [LinearOrder α] [IsStrictOrderedRing α] [Cmath α] [FloorRing α]
  {h : Handler κ μ υ α} {ParseFromArray : β → Bool × EgmRobot α}

/-- A log under its header, with no row half written. -/
structure Matches (logger : EGMLogger α) : Prop where
  header : logger.header = EGMLogger.defaultHeaders
  row : logger.row = []
  rows : ∀ row ∈ logger.rows, fields row = EGMLogger.defaultHeaders.length

omit [LinearOrder α] [IsStrictOrderedRing α] [Cmath α] [FloorRing α] in
/-- The row is that of an empty log. -/
theorem Matches.rows_of_messageRow {logger : EGMLogger α} (hlogger : Matches logger)
    {inputs : InputContainer α} {outputs : OutputContainer α} :
    fields (EGMLogger.messageRow inputs outputs) = fields (logger.addMessage inputs outputs).row := by
  have hinit := (EGMLogger.init.adds_addMessage inputs outputs).commas
  have hlogger' := (logger.adds_addMessage inputs outputs).commas
  rw [hlogger.row] at hlogger'
  unfold fields
  rw [hlogger', EGMLogger.messageRow, hinit]
  rfl

omit [IsStrictOrderedRing α] [Cmath α] [FloorRing α] in
theorem Matches.logData {logger : EGMLogger α} (hlogger : Matches logger) {inputs : InputContainer α}
    {outputs : OutputContainer α} (maxTime : α)
    (hrow : fields (EGMLogger.messageRow inputs outputs) = EGMLogger.defaultHeaders.length) :
    Matches (logger.logData inputs outputs maxTime) := by
  have hadds := logger.adds_addMessage inputs outputs
  rw [hlogger.rows_of_messageRow] at hrow
  unfold EGMLogger.logData
  generalize logger.addMessage inputs outputs = logger' at hadds hrow ⊢
  split
  · refine ⟨hadds.header.trans hlogger.header, rfl, ?_⟩
    intro row hmem
    rcases List.mem_append.mp hmem with hold | hnew
    · rw [hadds.rows] at hold
      exact hlogger.rows row hold
    · obtain rfl := List.mem_singleton.mp hnew
      exact hrow
  · exact hlogger

/-- The next row can be written, and all rows so far match the header. -/
structure Ready (s : LoggedInterface κ μ α) : Prop where
  interface : s.interface.LogReady
  logger : ∀ logger, s.logger = some logger → Matches logger

theorem Ready.step (hh : h.KeepsSizes) {s : LoggedInterface κ μ α} (hs : s.Ready) (e : Event κ υ β)
    (he : s.interface.RowFits h ParseFromArray e) : (s.step h ParseFromArray e).Ready := by
  cases e with
  | user call => exact ⟨hs.interface.step hh (.user call) he, hs.logger⟩
  | setConfiguration configuration =>
      exact ⟨hs.interface.step hh (.setConfiguration configuration) he, hs.logger⟩
  | datagram data mid =>
      refine ⟨hs.interface.step hh (.datagram data mid) he, ?_⟩
      have hrow := (hs.interface.rowMatches_iff hh (.datagram data mid)).mpr he
      unfold LoggedInterface.step callback log
      dsimp only
      intro logger hlogger
      split at hlogger
      next haccepted =>
        split at hlogger
        · obtain ⟨before, hbefore, rfl⟩ := Option.map_eq_some_iff.mp hlogger
          exact (hs.logger before hbefore).logData _ (hrow haccepted)
        · exact hs.logger logger hlogger
      next => exact hs.logger logger hlogger

theorem Ready.run (hh : h.KeepsSizes) {s : LoggedInterface κ μ α} (hs : s.Ready)
    {es : List (Event κ υ β)} (hes : Along (EGMInterface.step h ParseFromArray)
      (EGMInterface.RowFits h ParseFromArray) s.interface es) :
    (run (LoggedInterface.step h ParseFromArray) s es).Ready := by
  induction es generalizing s with
  | nil => exact hs
  | cons e es ih =>
      have hinterface : (s.step h ParseFromArray e).interface =
          s.interface.step h ParseFromArray e := by
        cases e <;> rfl
      refine ih (hs.step hh e hes.1) ?_
      rw [hinterface]
      exact hes.2

/-- In runs of an interface, the rows of accepted messages match the header exactly if the messages
fit, and then every row of the log does. -/
def RowsMatch (h : Handler κ μ υ α) (ParseFromArray : β → Bool × EgmRobot α) (configuration : κ)
    (motion : μ) : Prop :=
  ∀ es : List (Event κ υ β),
    (Along (EGMInterface.step h ParseFromArray) (EGMInterface.RowMatches h ParseFromArray)
        (.init configuration motion) es ↔
      Along (EGMInterface.step h ParseFromArray) (EGMInterface.RowFits h ParseFromArray)
        (.init configuration motion) es) ∧
    (Along (EGMInterface.step h ParseFromArray) (EGMInterface.RowFits h ParseFromArray)
        (.init configuration motion) es →
      ∀ logger, (run (LoggedInterface.step h ParseFromArray)
        (LoggedInterface.init h configuration motion) es).logger = some logger →
        ∀ row ∈ logger.rows, fields row = logger.header.length ∧ logger.header.length = 121)

theorem rowsMatch (hh : h.KeepsSizes) (configuration : κ) (motion : μ) :
    RowsMatch h ParseFromArray configuration motion := by
  intro es
  refine ⟨EGMInterface.along_rowMatches_iff hh configuration motion es, ?_⟩
  intro hes logger hlogger row hmem
  have hinit : (LoggedInterface.init h configuration motion).Ready := by
    refine ⟨.empty rfl rfl, ?_⟩
    unfold LoggedInterface.init
    intro logger hlogger
    dsimp only at hlogger
    split at hlogger
    · obtain rfl := Option.some.inj hlogger
      exact ⟨rfl, rfl, List.forall_mem_nil _⟩
    · cases hlogger
  have hmatches := (hinit.run hh hes).logger logger hlogger
  rw [hmatches.header]
  exact ⟨hmatches.rows row hmem, rfl⟩

/-- **The rows of the log**, of all three interfaces. -/
theorem rows_match_header (ParseFromArray : β → Bool × EgmRobot α) :
    (∀ configuration, RowsMatch baseHandler ParseFromArray configuration ()) ∧
    (∀ configuration, RowsMatch controllerHandler ParseFromArray configuration .init) ∧
    ∀ configuration, RowsMatch trajectoryHandler ParseFromArray configuration (.init configuration) := by
  refine ⟨fun _ => rowsMatch ?_ _ _, fun _ => rowsMatch controllerHandler_keepsSizes _ _,
    fun _ => rowsMatch ?_ _ _⟩
  · exact fun _ _ _ => rfl
  · exact fun motion outputs inputs => motion.shape_generateOutputs outputs inputs

/-! ### A robot with external joints -/

/-- A first message with these external joints, in the feedback and in the planned values. -/
def withExternal (seqno : UInt32) (external : List ℚ) : Event (BaseConfiguration ℚ) Empty (EgmRobot ℚ) :=
  let planned := { Evaluation.planned Evaluation.home 0 with externalJoints := .present ⟨external⟩ }
  .datagram (some { Evaluation.message seqno 0 Evaluation.home true with
    feedBack := .present planned
    planned := .present planned }) []

/-- Log for a minute. -/
def logging : BaseConfiguration ℚ := ⟨.six, false, true, true, 60⟩

instance (s : EGMInterface κ μ ℚ) (h : Handler κ μ υ ℚ) (ParseFromArray : β → Bool × EgmRobot ℚ)
    (e : Event κ υ β) : Decidable (s.RowFits h ParseFromArray e) :=
  match e with
  | .datagram data _ => inferInstanceAs (Decidable (s.accepts h ParseFromArray data = true → _ ∧ _))
  | .user _ | .setConfiguration _ => inferInstanceAs (Decidable True)

/-- After two messages with six external joints. -/
def sixExternal : LoggedInterface (BaseConfiguration ℚ) Unit ℚ :=
  run (LoggedInterface.step baseHandler Evaluation.parse) (LoggedInterface.init baseHandler logging ())
    [withExternal 0 [0, 0, 0, 0, 0, 0], withExternal 1 [0, 0, 0, 0, 0, 0]]

theorem rows_match_header_six :
    sixExternal.logger.map (fun logger => logger.rows.length) = some 2 ∧
      ∀ logger, sixExternal.logger = some logger →
        ∀ row ∈ logger.rows, fields row = logger.header.length ∧ logger.header.length = 121 :=
  ⟨by decide +kernel, ((rows_match_header Evaluation.parse).1 logging _).2 (by decide +kernel)⟩

/-- A seventh external joint makes one more value in each of the six groups. -/
theorem rows_of_seven : (run (LoggedInterface.step baseHandler Evaluation.parse)
    (LoggedInterface.init baseHandler logging ()) [withExternal 0 [0, 0, 0, 0, 0, 0, 0]]).logger.map
      (fun logger => (logger.header.length, logger.rows.map fields)) = some (121, [127]) := by
  decide +kernel

end LoggedInterface

end AbbWrapper
