import AbbWrapper.ControllerBridge
import AbbWrapper.Runs

/-! # The command arrays of the bridge

The first message that a controller of the bridge handles is written into an array that `run` has just
cleared, so that every access of that round is out of range; and `callback_test_joint` accesses the
seventh command, which is there only if the chain, or the last message with commands, has that many.

* `Safe` is the condition on a step: no message is handled while a controller runs, and a test command
  comes only while there are seven commands.
* `Idle` is the state of a bridge whose controllers have not handled a message yet; in such a state the
  accesses of a step are in range exactly if the step is safe (`Idle.inRange_iff`).

Along a run from the constructed bridge all accesses are in range exactly if all steps are safe
(`accesses_inRange_iff`).  The joint controller and one message with six joints are enough to break it
(`accesses_outOfRange_joints`). -/

namespace AbbWrapper.ControllerBridge

open ArrayAccess KDL Runs

variable {α : Type} [Field α]

/-- Messages come while no controller runs, and a test command while there are seven commands. -/
def Safe (b : ControllerBridge α) : BridgeEvent α → Prop
  | .run (some _) => b.state ≠ 0 ∧ b.state ≠ 1
  | .testJoint _ => 6 < b.jointArrayCmd.length
  | _ => True

instance (b : ControllerBridge α) : DecidablePred b.Safe
  | .run none => .isTrue trivial
  | .run (some _) => inferInstanceAs (Decidable (_ ∧ _))
  | .jointCmd _ => .isTrue trivial
  | .testJoint _ => inferInstanceAs (Decidable (_ < _))
  | .bridgeCom _ _ => .isTrue trivial

/-- No controller has handled a message yet. -/
structure Idle (b : ControllerBridge α) : Prop where
  firstMsg : b.firstMsg = true
  joints : 1 ≤ b.kdlChain.nrOfJoints

omit [Field α] in
theorem not_inRange_assignAccesses {values : List α} (h : values ≠ []) :
    ¬InRange (assignAccesses [] values) := by
  intro hrange
  have hlength := List.length_pos_iff.mpr h
  rcases inRange_loop.mp hrange with hzero | hsize
  · omega
  · have hle := hsize 0 List.mem_cons_self
    omega

/-- The accesses of one step from an idle bridge. -/
theorem Idle.inRange_iff {b : ControllerBridge α} (hb : b.Idle) (e : BridgeEvent α) :
    InRange (b.accesses e) ↔ b.Safe e := by
  cases e with
  | run input =>
      cases input with
      | none => exact iff_of_true inRange_nil trivial
      | some input =>
          have hjoints : measuredJoints b.kdlChain input ≠ [] := by
            intro h
            have hlength := length_measuredJoints b.kdlChain input
            have hone := hb.joints
            rw [h, List.length_nil] at hlength
            omega
          simp only [accesses, Safe]
          by_cases h0 : b.state = 0
          · rw [if_pos h0, runJointsAccesses, if_pos hb.firstMsg]
            exact iff_of_false (not_inRange_assignAccesses hjoints) fun h => h.1 h0
          · by_cases h1 : b.state = 1
            · rw [if_neg h0, if_pos h1, runPoseAccesses, if_pos hb.firstMsg]
              exact iff_of_false (not_inRange_assignAccesses (List.cons_ne_nil _ _)) fun h => h.2 h1
            · rw [if_neg h0, if_neg h1]
              exact iff_of_true inRange_nil ⟨h0, h1⟩
  | jointCmd data => exact iff_of_true inRange_nil trivial
  | testJoint data => simp [accesses, Safe, InRange]
  | bridgeCom controller start => exact iff_of_true inRange_nil trivial

theorem Idle.step {b : ControllerBridge α} (hb : b.Idle) (isFinite : α → Bool) {e : BridgeEvent α}
    (he : b.Safe e) : (b.step isFinite e).Idle := by
  cases e with
  | run input =>
      cases input with
      | none => exact hb
      | some input =>
          unfold ControllerBridge.step ControllerBridge.run
          dsimp only
          rw [if_neg he.1, if_neg he.2]
          split
          · exact ⟨hb.firstMsg, hb.joints⟩
          · exact ⟨hb.firstMsg, hb.joints⟩
  | jointCmd data => exact ⟨hb.firstMsg, hb.joints⟩
  | testJoint data => exact ⟨hb.firstMsg, hb.joints⟩
  | bridgeCom controller start => exact ⟨rfl, hb.joints⟩

/-- **The command arrays are accessed in range exactly as long as no controller runs, and test commands
find seven.** -/
theorem accesses_inRange_iff (isFinite : α → Bool) {chain : Chain} (hchain : 1 ≤ chain.nrOfJoints)
    (events : List (BridgeEvent α)) :
    Along (step isFinite) (fun b e => InRange (b.accesses e)) (init chain) events ↔
      Along (step isFinite) Safe (init chain) events := by
  refine along_iff (I := Idle) ?_ ?_ ⟨rfl, hchain⟩
  · intro b e hb
    exact hb.inRange_iff e
  · intro b e hb he
    exact hb.step isFinite he

/-- A chain of `n` joints that move. -/
def rotating (n : ℕ) : Chain := .ofSegments (List.replicate n ⟨⟨[], .rotZ⟩⟩)

/-- Feedback of six joints. -/
def sixJoints : Input ℚ :=
  { feedback := .present
      { robot := .present { joints := .present { position := .present ⟨List.replicate 6 0⟩ } } } }

/-- Seven commands, and a test command. -/
theorem accesses_inRange_test : Along (step fun _ => true) (fun b e => InRange (b.accesses e))
    (init (rotating 6) : ControllerBridge ℚ)
    [.run (some {}), .jointCmd [0, 0, 0, 0, 0, 0, 0], .testJoint 1] :=
  (accesses_inRange_iff _ (by decide) _).mpr ⟨by decide, trivial, by decide, trivial⟩

/-- The joint controller is started, and a message with six joints comes. -/
theorem accesses_outOfRange_joints : ¬Along (step fun _ => true)
    (fun b e => InRange (b.accesses e)) (init (rotating 6) : ControllerBridge ℚ)
    [.bridgeCom 0 true, .run (some sixJoints)] := by
  intro h
  have hinit : (init (rotating 6) : ControllerBridge ℚ).Idle := ⟨rfl, by decide⟩
  have hidle := hinit.step (fun _ => true) (e := .bridgeCom 0 true) trivial
  have hsafe := (hidle.inRange_iff _).mp h.2.1
  exact hsafe.1 (by decide)

end AbbWrapper.ControllerBridge
