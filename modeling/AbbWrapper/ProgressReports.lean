import AbbWrapper.Refinement

/-! # Reports of the execution progress

A report is written at the end of every callback, and read by the user in between.  Whatever the order,
the user gets the report of the last callback that has come to its end, and is told that it is new exactly
once (`progress_reported`).

* The actions of a run are callbacks (`isCallback`), retrievals of the report (`retrieves`) and the other
  commands.
* `ExecutionProgress.Describes` says what a report tells of the machine: its inputs, outputs, states and
  goal at the end of a callback.

There is one lemma for each kind of step: commands do not touch the report, and only its retrieval
touches the flag (`call_report`); a callback writes both (`step_report`). -/

namespace AbbWrapper

open Protobuf Runs

variable {α : Type}

/-- Whether an action is a callback. -/
def Action.isCallback : Action α → Bool
  | .generateOutputs _ _ => true
  | _ => false

/-- Whether an action reads the report. -/
def Action.retrieves : Action α → Bool
  | .call .retrieveExecutionProgress => true
  | _ => false

/-- What a report says of the machine at the end of a callback with these inputs and outputs. -/
structure ExecutionProgress.Describes (p : ExecutionProgress α) (t : TrajectoryMotion α)
    (outputs : Output α) (inputs : InputContainer α) : Prop where
  state : p.state = .present t.stateManager.mapState ∧ p.subState = .present t.stateManager.mapSubState
  inputs : p.inputs = .present inputs.current
  outputs : p.outputs = .present outputs
  goal : p.goalActive = .present t.data.hasActiveGoal ∧ p.goal = .present t.motionStep.internalGoal ∧
    p.timePassed = .present t.motionStep.data.timePassed
  /-- The active point comes first, then what is left of the trajectory. -/
  points : p.activeTrajectory.get.points =
    t.motionStep.externalGoal :: t.trajectories.pCurrent.elim [] (·.points)
  /-- Once a trajectory overrides others, those that will take their place are counted. -/
  pending : p.pendingTrajectories.get = .ofNat (if t.trajectories.temporaryQueue = [] then
    t.trajectories.primaryQueue.length else t.trajectories.temporaryQueue.length)

namespace TrajectoryMotion

theorem updateExecutionProgress_describes (t : TrajectoryMotion α) (outputs : Output α)
    (inputs : InputContainer α) :
    (t.updateExecutionProgress outputs inputs).data.executionProgress.Describes
        (t.updateExecutionProgress outputs inputs) outputs inputs ∧
      (t.updateExecutionProgress outputs inputs).data.hasUpdatedExecutionProgress = true := by
  refine ⟨⟨⟨rfl, rfl⟩, rfl, rfl, ⟨rfl, rfl, rfl⟩, ?_, ?_⟩, rfl⟩
  · unfold updateExecutionProgress
    cases t.trajectories.pCurrent with
    | none => rfl
    | some current => rfl
  · unfold updateExecutionProgress
    cases t.trajectories.temporaryQueue with
    | nil => rfl
    | cons first queue => rfl

variable [Field α] [LinearOrder α]

/-- Commands do not touch the report, and only its retrieval the flag. -/
theorem call_report (t : TrajectoryMotion α) (call : TrajectoryCall α) :
    (t.call call).2.data.executionProgress = t.data.executionProgress ∧
      (t.call call).2.data.hasUpdatedExecutionProgress =
        (t.data.hasUpdatedExecutionProgress &&
          !(Action.retrieves (.call call) && t.data.executionProgress.inputs.has)) := by
  have hcommand (state : States) (subState : SubStates) (f : PendingEvents α → PendingEvents α) :
      (t.command state subState f).2.data.executionProgress = t.data.executionProgress ∧
        (t.command state subState f).2.data.hasUpdatedExecutionProgress =
          (t.data.hasUpdatedExecutionProgress && !(false && t.data.executionProgress.inputs.has)) := by
    rw [Bool.false_and, Bool.not_false, Bool.and_true]
    unfold command
    split <;> exact ⟨rfl, rfl⟩
  cases call with
  | addTrajectory trajectory override =>
      simp only [Action.retrieves, Bool.false_and, Bool.not_false, Bool.and_true]
      change (t.addTrajectory trajectory override).2.data.executionProgress = _ ∧
        (t.addTrajectory trajectory override).2.data.hasUpdatedExecutionProgress = _
      unfold addTrajectory
      simp only
      split_ifs <;> exact ⟨rfl, rfl⟩
  | retrieveExecutionProgress =>
      change t.retrieveExecutionProgress.2.2.data.executionProgress = _ ∧
        t.retrieveExecutionProgress.2.2.data.hasUpdatedExecutionProgress = _
      unfold retrieveExecutionProgress
      cases hinputs : t.data.executionProgress.inputs.has with
      | true => simp [Action.retrieves]
      | false => simp
  | stopTrajectory discard => exact hcommand _ _ _
  | resumeTrajectory => exact hcommand _ _ _
  | updateDurationFactor factor => exact hcommand _ _ _
  | startStaticGoal discard => exact hcommand _ _ _
  | setStaticPositionGoal goal fast => exact hcommand _ _ _
  | setStaticVelocityGoal goal fast => exact hcommand _ _ _
  | finishStaticGoal resume => exact hcommand _ _ _

variable [Cmath α] [FloorRing α]

/-- Between two callbacks the report stays, and it is new until it is read. -/
theorem step_report (t : TrajectoryMotion α) {a : Action α} (ha : a.isCallback = false) :
    (t.step a).data.executionProgress = t.data.executionProgress ∧
      (t.step a).data.hasUpdatedExecutionProgress = (t.data.hasUpdatedExecutionProgress &&
        !(a.retrieves && t.data.executionProgress.inputs.has)) := by
  cases a with
  | generateOutputs outputs inputs => cases ha
  | call call => exact t.call_report call
  | updateConfigurations configurations => exact ⟨rfl, (Bool.and_true _).symm⟩

theorem run_report {t : TrajectoryMotion α} {es : List (Action α)}
    (hes : ∀ a ∈ es, a.isCallback = false) (hinputs : t.data.executionProgress.inputs.has = true) :
    (run step t es).data.executionProgress = t.data.executionProgress ∧
      (run step t es).data.hasUpdatedExecutionProgress =
        (t.data.hasUpdatedExecutionProgress && !es.any Action.retrieves) := by
  induction es generalizing t with
  | nil => exact ⟨rfl, (Bool.and_true _).symm⟩
  | cons a es ih =>
      obtain ⟨hprogress, hflag⟩ := t.step_report (hes a List.mem_cons_self)
      obtain ⟨hprogress', hflag'⟩ := ih (t := t.step a)
        (fun a' ha' => hes a' (List.mem_cons_of_mem a ha')) (by rw [hprogress]; exact hinputs)
      refine ⟨hprogress'.trans hprogress, hflag'.trans ?_⟩
      rw [hflag, hinputs, Bool.and_true, List.any_cons, Bool.not_or, Bool.and_assoc]

/-- **The report is that of the last callback**, and is announced as new exactly once: as long as there
has been none, nothing is reported; and then it is new until it has been retrieved. -/
theorem progress_reported (configurations : TrajectoryConfiguration α) (es : List (Action α)) :
    let report := (run step (init configurations) es).retrieveExecutionProgress
    (∀ a ∈ es, a.isCallback = false) ∧ report.1 = false ∧ report.2.1 = none ∨
      ∃ before outputs inputs after progress,
        es = before ++ .generateOutputs outputs inputs :: after ∧
        (∀ a ∈ after, a.isCallback = false) ∧
        report.1 = !after.any Action.retrieves ∧ report.2.1 = some progress ∧
        let r := (run step (init configurations) before).generateOutputs outputs inputs
        progress.Describes r.1 r.2 inputs := by
  intro report
  rcases run_last (P := Action.isCallback) (f := fun t => t.data.executionProgress)
    (fun t a ha => (t.step_report ha).1) (init configurations) es with
    ⟨hes, hprogress⟩ | ⟨before, a, after, hes, ha, hafter, -⟩
  · left
    have hinputs : (run step (init configurations) es).data.executionProgress.inputs.has = false := by
      rw [hprogress]
      rfl
    refine ⟨hes, ?_, ?_⟩
    all_goals simp only [report, retrieveExecutionProgress, hinputs, Bool.false_eq_true, if_false]
  · right
    cases a with
    | call call => cases ha
    | updateConfigurations configurations => cases ha
    | generateOutputs outputs inputs =>
        let u := (run step (init configurations) before).step (.generateOutputs outputs inputs)
        have hu : u.data.executionProgress.Describes u
              ((run step (init configurations) before).generateOutputs outputs inputs).2 inputs ∧
            u.data.hasUpdatedExecutionProgress = true :=
          updateExecutionProgress_describes _ _ inputs
        have hinputs : u.data.executionProgress.inputs.has = true := by
          rw [hu.1.inputs]
          rfl
        obtain ⟨hprogress, hflag⟩ := run_report hafter hinputs
        have hrun : run step (init configurations) es = run step u after := by
          rw [hes, run_append]
          rfl
        refine ⟨before, outputs, inputs, after, u.data.executionProgress, hes, hafter, ?_, ?_, hu.1⟩
        · simp only [report, retrieveExecutionProgress, hrun, hprogress, hinputs, if_true]
          rw [hflag, hu.2, Bool.true_and]
        · simp only [report, retrieveExecutionProgress, hrun, hprogress, hinputs, if_true]

end TrajectoryMotion

end AbbWrapper
