import AbbWrapper.CommandArrays
import AbbWrapper.JointMapping

/-! # The order of the joints in the bridge

The bridge numbers the joints as the kinematic chain does, in radians.  Of seven joints the third is the
first external joint of the messages, which count in degrees.

* `measuredJoints` reads the joints of a message in the order in which they are parsed for the axes of the
  chain (`measureLoop_parse`).
* A command is written into the references joint by joint, so that feedback which agrees with them is
  measured as the command was (`measure_command`).
* `FitsMessage` are references that fit a message, `Driving` is the invariant of a bridge whose joint
  controller runs, and `Drives` the condition on its events.
* `Carries` says of a message that the joints that are parsed of it are a command, in radians.

While the joint controller runs, every round after the first sends the message that carries the last
command, if that is complete and finite (`commands_carried`).  The first round writes out of range
(`CommandArrays.lean`), and these writes have no effect here. -/

namespace AbbWrapper

open Protobuf Runs

variable {α : Type} [Field α]

/-- `external().joints().position()`. -/
def Output.externalPosition (output : Output α) : Joints α :=
  output.external.get.joints.get.position.get

omit [Field α] in
@[simp] theorem Output.robotPosition_modifyRobotPosition (f : Joints α → Joints α) (output : Output α) :
    (output.modifyRobotPosition f).robotPosition = f output.robotPosition := rfl

omit [Field α] in
@[simp] theorem Output.externalPosition_modifyRobotPosition (f : Joints α → Joints α)
    (output : Output α) :
    (output.modifyRobotPosition f).externalPosition = output.externalPosition := rfl

omit [Field α] in
@[simp] theorem Output.robotPosition_modifyExternalPosition (f : Joints α → Joints α)
    (output : Output α) :
    (output.modifyExternalPosition f).robotPosition = output.robotPosition := rfl

omit [Field α] in
@[simp] theorem Output.externalPosition_modifyExternalPosition (f : Joints α → Joints α)
    (output : Output α) :
    (output.modifyExternalPosition f).externalPosition = f output.externalPosition := rfl

/-- The references of the bridge, as the message in which they are sent. -/
def Output.message (output : Output α) : Option (EgmJoints α × Optional (EgmJoints α)) :=
  jointBody .six output.robotPosition output.externalPosition

namespace ControllerBridge

theorem toRadians_toDegrees [CharZero α] (radians : α) : toRadians (toDegrees radians) = radians := by
  unfold toRadians toDegrees
  have hpi : (3.14159265358979323846 : α) ≠ 0 := by norm_num
  have hhalf : (180 : α) ≠ 0 := by norm_num
  field_simp

variable {isFinite : α → Bool} {nrOfJoints : ℕ} {jointArrayCmd : List α}

omit [Field α] in
theorem getD_set_self [Zero α] {values : List α} {j : ℕ} (v : α) (hj : j < values.length) :
    (values.set j v).getD j 0 = v := by
  rw [List.getD_eq_getElem?_getD, List.getElem?_set_self hj, Option.getD_some]

/-- The robot joints before the `j`-th keep their references. -/
theorem robotValue_commandLoop (rounds i : ℕ) {j k : ℕ} (hk : k < j) (output : Output α) :
    (commandLoop isFinite nrOfJoints jointArrayCmd rounds i j output).robotPosition.value k =
      output.robotPosition.value k := by
  induction rounds generalizing i j output with
  | zero => rfl
  | succ rounds ih =>
      rw [commandLoop]
      split
      · rw [ih _ hk]
        unfold writeFinite
        split <;> rfl
      · rw [ih _ (Nat.lt_succ_of_lt hk)]
        unfold writeFinite
        split
        · simp only [Output.robotPosition_modifyRobotPosition, Joints.value]
          rw [List.getD_eq_getElem?_getD, List.getElem?_set_ne (by omega),
            ← List.getD_eq_getElem?_getD]
        · rfl

theorem externalPosition_commandLoop (rounds : ℕ) {i : ℕ} (j : ℕ)
    (h : ¬(nrOfJoints = 7 ∧ i ≤ 2)) (output : Output α) :
    (commandLoop isFinite nrOfJoints jointArrayCmd rounds i j output).externalPosition =
      output.externalPosition := by
  induction rounds generalizing i j output with
  | zero => rfl
  | succ rounds ih =>
      rw [commandLoop, if_neg (by omega), ih _ (by omega)]
      unfold writeFinite
      split <;> rfl

/-- What is commanded is measured, from the `i`-th joint on. -/
theorem measure_commandLoop [CharZero α] (rounds i j : ℕ) (output : Output α)
    (hfinite : ∀ k, i ≤ k → k < i + rounds → isFinite (jointArrayCmd.getD k 0) = true)
    (hrobot : j + rounds ≤ output.robotPosition.valuesSize +
      if nrOfJoints = 7 ∧ i ≤ 2 ∧ 2 < i + rounds then 1 else 0)
    (hexternal : nrOfJoints = 7 → i ≤ 2 → 1 ≤ output.externalPosition.valuesSize) :
    measureLoop nrOfJoints
        (commandLoop isFinite nrOfJoints jointArrayCmd rounds i j output).robotPosition
        (commandLoop isFinite nrOfJoints jointArrayCmd rounds i j output).externalPosition rounds i j =
      (List.range rounds).map fun k => jointArrayCmd.getD (i + k) 0 := by
  induction rounds generalizing i j output with
  | zero => rfl
  | succ rounds ih =>
      have hnow := hfinite i le_rfl (by omega)
      have hlater (k : ℕ) (hk : i + 1 ≤ k) (hk' : k < i + 1 + rounds) :
          isFinite (jointArrayCmd.getD k 0) = true := hfinite k (by omega) (by omega)
      have hrange (v : α) (hv : v = jointArrayCmd.getD i 0) :
          v :: (List.range rounds).map (fun k => jointArrayCmd.getD (i + 1 + k) 0) =
            (List.range (rounds + 1)).map fun k => jointArrayCmd.getD (i + k) 0 := by
        rw [List.range_succ_eq_map, List.map_cons, List.map_map, hv]
        refine congrArg _ (List.map_congr_left fun k _ => ?_)
        rw [Function.comp_apply, Nat.succ_eq_add_one, Nat.add_assoc, Nat.add_comm 1 k]
      rw [commandLoop, measureLoop]
      by_cases hthird : nrOfJoints = 7 ∧ i = 2
      · obtain ⟨hseven, rfl⟩ := hthird
        rw [if_pos ⟨hseven, rfl⟩, if_pos ⟨hseven, rfl⟩, ih 3 j _ hlater ?_ (by omega)]
        · apply hrange
          rw [externalPosition_commandLoop rounds j (by omega), writeFinite, if_pos hnow,
            Output.externalPosition_modifyExternalPosition, Joints.value,
            getD_set_self _ (hexternal hseven le_rfl), toRadians_toDegrees]
        · rw [writeFinite, if_pos hnow, Output.robotPosition_modifyExternalPosition]
          split_ifs at hrobot ⊢ <;> omega
      · rw [if_neg hthird, if_neg hthird, ih (i + 1) (j + 1) _ hlater ?_ ?_]
        · apply hrange
          rw [robotValue_commandLoop rounds (i + 1) (Nat.lt_succ_self j), writeFinite, if_pos hnow,
            Output.robotPosition_modifyRobotPosition, Joints.value, getD_set_self, toRadians_toDegrees]
          change j < output.robotPosition.valuesSize
          split_ifs at hrobot <;> omega
        · rw [writeFinite, if_pos hnow, Output.robotPosition_modifyRobotPosition]
          have hlength (v : α) : (⟨output.robotPosition.values.set j v⟩ : Joints α).valuesSize =
              output.robotPosition.valuesSize := List.length_set
          rw [hlength]
          split_ifs at hrobot ⊢ <;> omega
        · intro hseven hi
          rw [writeFinite, if_pos hnow, Output.externalPosition_modifyRobotPosition]
          exact hexternal hseven (by omega)

/-! ### The order of a message -/

/-- The joints of a message, with the axes of the chain; the interface of the bridge counts six. -/
theorem measureLoop_parse {axes : RobotAxes} {robot external : EgmJoints α}
    (h : EgmJoints.Fit axes robot external) :
    measureLoop axes.numberOfJoints ⟨robot.joints⟩ ⟨external.joints⟩ axes.numberOfJoints 0 0 =
      (robot.parse external axes).2.1.values.map toRadians := by
  cases axes with
  | six =>
      obtain ⟨joints⟩ := robot
      have hsize : joints.length = Constants.defaultNumberOfRobotJoints := h.robotSize
      match joints, hsize with
      | [_, _, _, _, _, _], _ => rfl
  | seven =>
      rw [EgmJoints.parse_seven ⟨h.robotSize, h.seventh rfl⟩]
      rfl

/-- The messages that hold the commands: the joints that are parsed of them are the commands. -/
def Carries (axes : RobotAxes) (commands : List α)
    (body : EgmJoints α × Optional (EgmJoints α)) : Prop :=
  (body.1.parse body.2.get axes).1 = true ∧
    (body.1.parse body.2.get axes).2.1.values.map toRadians = commands

/-- References that fit a message of six joints, with an external joint for a seventh axis. -/
structure FitsMessage (axes : RobotAxes) (robot external : Joints α) : Prop where
  fit : Joints.Fit .six robot external
  seventh : axes = .seven → 1 ≤ external.valuesSize

theorem FitsMessage.body {axes : RobotAxes} {robot external : Joints α}
    (h : FitsMessage axes robot external) : ∃ body, jointBody .six robot external = some body ∧
      EgmJoints.Fit axes body.1 body.2.get ∧ robot = ⟨body.1.joints⟩ ∧
        external = ⟨body.2.get.joints⟩ := by
  obtain ⟨body, hbody, hfit⟩ := h.fit.body
  have hparse := parse_of_body h.fit hbody
  have hsix : body.1.parse body.2.get .six = (true, ⟨body.1.joints⟩, ⟨body.2.get.joints⟩) :=
    if_pos hfit.robotSize
  rw [hsix] at hparse
  obtain ⟨hrobot, hexternal⟩ := Prod.mk.inj (Prod.mk.inj hparse).2
  refine ⟨body, hbody, ⟨hfit.robotSize, hfit.externalSize, ?_⟩, hrobot.symm, hexternal.symm⟩
  intro hseven
  have hsize := h.seventh hseven
  rwa [← hexternal] at hsize

theorem FitsMessage.carries {axes : RobotAxes} {robot external : Joints α}
    (h : FitsMessage axes robot external) {commands : List α}
    (hmeasured : measureLoop axes.numberOfJoints robot external axes.numberOfJoints 0 0 = commands) :
    ∃ body, jointBody .six robot external = some body ∧ Carries axes commands body := by
  obtain ⟨body, hbody, hfit, hrobot, hexternal⟩ := h.body
  refine ⟨body, hbody, hfit.parse.1, ?_⟩
  rw [← measureLoop_parse hfit, ← hrobot, ← hexternal, hmeasured]

/-! ### Every round of a run -/

theorem size_commandLoop (rounds i j : ℕ) (output : Output α) :
    (commandLoop isFinite nrOfJoints jointArrayCmd rounds i j output).robotPosition.valuesSize =
        output.robotPosition.valuesSize ∧
      (commandLoop isFinite nrOfJoints jointArrayCmd rounds i j output).externalPosition.valuesSize =
        output.externalPosition.valuesSize := by
  induction rounds generalizing i j output with
  | zero => exact ⟨rfl, rfl⟩
  | succ rounds ih =>
      have hset (joints : Joints α) (k : ℕ) (v : α) :
          (⟨joints.values.set k v⟩ : Joints α).valuesSize = joints.valuesSize := List.length_set
      rw [commandLoop]
      split
      · rw [(ih _ _ _).1, (ih _ _ _).2]
        unfold writeFinite
        split
        · exact ⟨rfl, hset _ _ _⟩
        · exact ⟨rfl, rfl⟩
      · rw [(ih _ _ _).1, (ih _ _ _).2]
        unfold writeFinite
        split
        · exact ⟨hset _ _ _, rfl⟩
        · exact ⟨rfl, rfl⟩

theorem FitsMessage.commandLoop {axes : RobotAxes} {output : Output α}
    (h : FitsMessage axes output.robotPosition output.externalPosition) (rounds i j : ℕ) :
    FitsMessage axes
      (commandLoop isFinite nrOfJoints jointArrayCmd rounds i j output).robotPosition
      (commandLoop isFinite nrOfJoints jointArrayCmd rounds i j output).externalPosition := by
  refine ⟨⟨?_, ?_⟩, ?_⟩
  · rw [(size_commandLoop rounds i j output).1]
    exact h.fit.robotSize
  · rw [(size_commandLoop rounds i j output).2]
    exact h.fit.externalSize
  · rw [(size_commandLoop rounds i j output).2]
    exact h.seventh

/-- The feedback of a message. -/
def FitsFeedback (axes : RobotAxes) (input : Input α) : Prop :=
  FitsMessage axes input.feedback.get.robot.get.joints.get.position.get
    input.feedback.get.external.get.joints.get.position.get

/-- The joint controller runs, of a chain with the joints of the robot. -/
structure Driving (axes : RobotAxes) (b : ControllerBridge α) : Prop where
  state : b.state = 0
  chain : b.kdlChain.nrOfJoints = axes.numberOfJoints
  output : b.firstMsg = false → FitsMessage axes b.output.robotPosition b.output.externalPosition

/-- Messages fit, and no other controller is started. -/
def Drives (axes : RobotAxes) : BridgeEvent α → Prop
  | .run (some input) => FitsFeedback axes input
  | .bridgeCom controller start => controller = 0 ∧ start = true
  | _ => True

/-- The round sends the commands, each to its joint. -/
def Sends (isFinite : α → Bool) (axes : RobotAxes) (b : ControllerBridge α) (e : BridgeEvent α) : Prop :=
  ∀ input, e = .run (some input) → b.firstMsg = false →
    b.jointArrayCmd.length = axes.numberOfJoints → (∀ command ∈ b.jointArrayCmd, isFinite command = true) →
      ∃ output body, (b.run isFinite (some input)).2 = some output ∧ output.message = some body ∧
        Carries axes b.jointArrayCmd body

/-- All joints of a command. -/
theorem measure_command [CharZero α] {axes : RobotAxes} {output : Output α}
    (h : FitsMessage axes output.robotPosition output.externalPosition)
    (hlength : jointArrayCmd.length = axes.numberOfJoints)
    (hfinite : ∀ command ∈ jointArrayCmd, isFinite command = true) :
    measureLoop axes.numberOfJoints
      (ControllerBridge.commandLoop isFinite axes.numberOfJoints jointArrayCmd axes.numberOfJoints 0 0
        output).robotPosition
      (ControllerBridge.commandLoop isFinite axes.numberOfJoints jointArrayCmd axes.numberOfJoints 0 0
        output).externalPosition axes.numberOfJoints 0 0 = jointArrayCmd := by
  have hsize : output.robotPosition.valuesSize = 6 := h.fit.robotSize
  refine (measure_commandLoop axes.numberOfJoints 0 0 output ?_ ?_ ?_).trans ?_
  · intro k _ hk
    rw [List.getD_eq_getElem _ _ (by omega)]
    exact hfinite _ (List.getElem_mem _)
  · rw [hsize]
    cases axes with
    | six => simp [RobotAxes.numberOfJoints, Constants.defaultNumberOfRobotJoints]
    | seven => simp [RobotAxes.numberOfJoints, Constants.defaultNumberOfRobotJoints]
  · intro hseven _
    apply h.seventh
    cases axes with
    | six => simp [RobotAxes.numberOfJoints, Constants.defaultNumberOfRobotJoints] at hseven
    | seven => rfl
  · apply List.ext_getElem (by rw [List.length_map, List.length_range, hlength])
    intro k hk hk'
    rw [List.getElem_map, List.getElem_range, Nat.zero_add, List.getD_eq_getElem _ _ hk']

theorem Driving.runJoints_carries [CharZero α] {axes : RobotAxes} {b : ControllerBridge α}
    (h : b.Driving axes) (hfirst : b.firstMsg = false)
    (hlength : b.jointArrayCmd.length = axes.numberOfJoints)
    (hfinite : ∀ command ∈ b.jointArrayCmd, isFinite command = true) (input : Input α) :
    ∃ output body, (b.runJoints isFinite input).2 = some output ∧ output.message = some body ∧
      Carries axes b.jointArrayCmd body := by
  have hfits : FitsMessage axes (b.output.modifyRobotPosition id).robotPosition
      (b.output.modifyRobotPosition id).externalPosition := h.output hfirst
  have hsize : 1 < (b.output.modifyRobotPosition id).robotPosition.valuesSize :=
    lt_of_lt_of_eq (by decide) hfits.fit.robotSize.symm
  obtain ⟨body, hbody, hcarries⟩ :=
    FitsMessage.carries (hfits.commandLoop axes.numberOfJoints 0 0) (measure_command hfits hlength hfinite)
  refine ⟨_, body, ?_, hbody, hcarries⟩
  unfold runJoints
  simp only [hfirst, Bool.false_eq_true, if_false, hsize, if_true, h.chain]

theorem Driving.step {axes : RobotAxes} {b : ControllerBridge α} (h : b.Driving axes)
    {e : BridgeEvent α} (he : Drives axes e) : (b.step isFinite e).Driving axes := by
  cases e with
  | run input =>
      cases input with
      | none => exact h
      | some input =>
          simp only [ControllerBridge.step, ControllerBridge.run]
          rw [if_pos h.state]
          unfold runJoints
          simp only
          cases hfirst : b.firstMsg with
          | true => exact ⟨h.state, h.chain, fun _ => he⟩
          | false =>
              simp only [Bool.false_eq_true, if_false]
              split
              · refine ⟨h.state, h.chain, fun _ => ?_⟩
                have hfits : FitsMessage axes (b.output.modifyRobotPosition id).robotPosition
                    (b.output.modifyRobotPosition id).externalPosition := h.output hfirst
                exact hfits.commandLoop _ _ _
              · exact ⟨h.state, h.chain, fun _ => h.output hfirst⟩
  | jointCmd data => exact ⟨h.state, h.chain, h.output⟩
  | testJoint data => exact ⟨h.state, h.chain, h.output⟩
  | bridgeCom controller start =>
      obtain ⟨rfl, rfl⟩ := he
      exact ⟨rfl, h.chain, fun hfirst => by cases hfirst⟩

/-- **Commands reach their joints.**  While the joint controller runs, every round after the first sends
the message in which the joints of the last command are found in their order, in radians. -/
theorem commands_carried [CharZero α] {axes : RobotAxes} {chain : KDL.Chain}
    (hchain : chain.nrOfJoints = axes.numberOfJoints) {es : List (BridgeEvent α)}
    (hes : ∀ e ∈ es, Drives axes e) :
    Along (ControllerBridge.step isFinite) (Sends isFinite axes)
      ((init chain).callbackBridgeCom 0 true) es := by
  have hstart : ((init chain : ControllerBridge α).callbackBridgeCom 0 true).Driving axes :=
    ⟨rfl, hchain, fun hfirst => by cases hfirst⟩
  have hdrives : Along (ControllerBridge.step isFinite) (fun _ => Drives axes)
      ((init chain).callbackBridgeCom 0 true) es := Along.of_forall (fun e he _ => hes e he) _
  refine hdrives.of_inv (I := Driving axes) ?_ hstart
  intro b e hb he
  refine ⟨hb.step he, ?_⟩
  rintro input rfl hfirst hlength hfinite
  obtain ⟨output, body, houtput, hmessage, hcarries⟩ :=
    (show Driving axes { b with
      jointCurrPosition := measuredJoints b.kdlChain input
      qMsr := measuredJoints b.kdlChain input } from ⟨hb.state, hb.chain, hb.output⟩).runJoints_carries
        hfirst hlength hfinite input
  refine ⟨output, body, ?_, hmessage, hcarries⟩
  rw [← houtput]
  simp only [ControllerBridge.run]
  rw [if_pos hb.state]

/-- A message, a command, and a round that sends it. -/
theorem commands_carried_six : Along (ControllerBridge.step fun _ => true)
    (Sends (fun _ => true) .six)
    ((init (rotating 6)).callbackBridgeCom 0 true)
    [.run (some sixJoints), .jointCmd [1, 1, 1, 1, 1, 1], .run (some sixJoints)] :=
  have hfeedback : FitsFeedback .six sixJoints := ⟨⟨rfl, Nat.zero_le _⟩, fun h => by cases h⟩
  commands_carried (by decide) (by
    simp only [List.forall_mem_cons, Drives]
    exact ⟨hfeedback, trivial, hfeedback, List.forall_mem_nil _⟩)

end ControllerBridge

end AbbWrapper
