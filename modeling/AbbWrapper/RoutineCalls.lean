import AbbWrapper.Monitors
import AbbWrapper.ToggleSignal

/-! # Routine calls

The methods of `Services::RAPID` and `Services::SG` that have a routine run on the robot controller:
they write its inputs into RAPID symbols and then toggle a signal.  Both arms of a dual-arm robot wait
for the same signal, `RUN_SG_ROUTINE`.

* All methods are one program, `runRoutine`, with the inputs and the signal of the call (`ServiceCall`).
  Those of `Services::SG` for one arm or both are an `SGRoutine` each, with the command and the position
  of every arm.
* `Written` and `Toggled` say what the two parts of a call exchange with the controller.
* `Store` is what the controller is known to have: of a writing that was refused it is not known whether
  it took effect, so that nothing is known of its symbol then (`keep`).
* `Has` says that the controller has the data of given inputs; `Runs` is what has to hold whenever a signal
  is set high.

Whenever one of the signals is set high, in any list of calls and whatever the controller answers, the
inputs that the controller has are those of one call, for both arms (`calls_inputs`).  A call is of one
piece: it writes its inputs in their order, does not touch the signal unless all of them were accepted,
and is successful only after a rising edge (`runRoutine_ensures`). -/

namespace AbbWrapper

open Exchanges Runs SystemConstants

namespace SystemConstants

/-- `RAPID::TASK_ROB_L`. -/
def taskRobL : Text := "T_ROB_L".toList
/-- `RAPID::TASK_ROB_R`. -/
def taskRobR : Text := "T_ROB_R".toList

end SystemConstants

namespace Resources

/-- `RW_RAPID_SYMBOL_DATA_RAPID`. -/
def rwRapidSymbolDataRapid : Text := "/rw/rapid/symbol/RAPID".toList

end Resources

namespace IOSignals

/-- `RUN_RAPID_ROUTINE`. -/
def runRapidRoutine : Text := "RUN_RAPID_ROUTINE".toList
/-- `RUN_SG_ROUTINE`. -/
def runSgRoutine : Text := "RUN_SG_ROUTINE".toList

end IOSignals

namespace Procedures

/-- `RUN_CALL_BY_VAR`. -/
def runCallByVar : Text := "runCallByVar".toList
/-- `RUN_MODULE_LOAD`. -/
def runModuleLoad : Text := "runModuleLoad".toList
/-- `RUN_MODULE_UNLOAD`. -/
def runModuleUnload : Text := "runModuleUnload".toList
/-- `RUN_MOVE_ABS_J`. -/
def runMoveAbsJ : Text := "runMoveAbsJ".toList
/-- `RUN_MOVE_J`. -/
def runMoveJ : Text := "runMoveJ".toList
/-- `RUN_MOVE_TO_CALIBRATION_POSITION`. -/
def runMoveToCalibrationPosition : Text := "runMoveToCalibrationPosition".toList

end Procedures

/-- `RAPIDSymbolResource`: a symbol, and the module it is declared in. -/
structure RAPIDSymbolResource where
  module : Text
  name : Text

/-- `RAPIDResource`: a symbol in the module of a task. -/
structure RAPIDResource extends RAPIDSymbolResource where
  task : Text

namespace Symbols

/-- A symbol of `Modules::T_ROB_RAPID`. -/
def tRobRapid (name : String) : RAPIDSymbolResource := ⟨"TRobRAPID".toList, name.toList⟩

/-- A symbol of `Modules::T_ROB_SG`. -/
def tRobSg (name : String) : RAPIDSymbolResource := ⟨"TRobSG".toList, name.toList⟩

def rapidCallByVarNameInput : RAPIDSymbolResource := tRobRapid "callbyvar_name_input"
def rapidCallByVarNumInput : RAPIDSymbolResource := tRobRapid "callbyvar_num_input"
def rapidModuleFilePathInput : RAPIDSymbolResource := tRobRapid "module_file_path_input"
def rapidMoveJointTargetInput : RAPIDSymbolResource := tRobRapid "move_jointtarget_input"
def rapidMoveRobTargetInput : RAPIDSymbolResource := tRobRapid "move_robtarget_input"
def rapidMoveSpeedInput : RAPIDSymbolResource := tRobRapid "move_speed_input"
def rapidRoutineNameInput : RAPIDSymbolResource := tRobRapid "routine_name_input"
def sgCommandInput : RAPIDSymbolResource := tRobSg "command_input"
def sgSettings : RAPIDSymbolResource := tRobSg "settings"
def sgTargetPostionInput : RAPIDSymbolResource := tRobSg "target_position_input"

end Symbols

/-! ### Writing a symbol -/

def generateRAPIDDataPath (resource : RAPIDResource) : Text :=
  Resources.rwRapidSymbolDataRapid ++ ['/'] ++ resource.task ++ ['/'] ++ resource.module ++ ['/'] ++
    resource.name ++ "/data".toList

/-- The request of `RWSClient::setRAPIDSymbolData`. -/
def setRAPIDSymbolDataRequest (resource : RAPIDResource) (data : Text) : RequestInfo :=
  { method := .post
    uri := generateRAPIDDataPath resource
    content := "value".toList ++ ['='] ++ data }

/-- A symbol, and the data that is written into it. -/
structure RAPIDInput (ν δ : Type) where
  resource : RAPIDResource
  data : RAPIDSymbolData ν δ

variable {ν δ : Type}

/-- Of a symbol in a task. -/
def RAPIDInput.of (task : Text) (symbol : RAPIDSymbolResource) (data : RAPIDSymbolData ν δ) :
    RAPIDInput ν δ :=
  { resource := { symbol with task := task }, data := data }

section client
variable [Streamed ν] [DecidableEq ν] [Streamed δ] [DecidableEq δ]
  (xmlParse : Text → Option XMLNode)

def RAPIDInput.request (input : RAPIDInput ν δ) : RequestInfo :=
  setRAPIDSymbolDataRequest input.resource input.data.constructString

def setRAPIDSymbolData (input : RAPIDInput ν δ) : RwsProgram Bool := do
  let pocoResult ← Program.request input.request
  pure (evaluateWriting xmlParse pocoResult).success

/-- The inputs one after the other, as long as they are accepted. -/
def setInputs : List (RAPIDInput ν δ) → RwsProgram Bool
  | [] => pure true
  | input :: inputs => do
      let result ← setRAPIDSymbolData xmlParse input
      if result then setInputs inputs else pure false

/-- The inputs, and then the signal. -/
def runRoutine (inputs : List (RAPIDInput ν δ)) (iosignal : Text) : RwsProgram Bool := do
  let result ← setInputs xmlParse inputs
  if result then toggleIOSignal xmlParse iosignal else pure false

end client

/-! ### `Services::RAPID` and `Services::SG` -/

/-- `SGCommands`: what the RAPID program is to do with a hand. -/
inductive SGCommands where
  | none
  /-- `SG_COMMAND_INITIALIZE`. -/
  | initializeSg
  | calibrate
  | moveTo
  | gripIn
  | gripOut
  | blowOn1
  | blowOn2
  | blowOff1
  | blowOff2
  | vacuumOn1
  | vacuumOn2
  | vacuumOff1
  | vacuumOff2
deriving DecidableEq, Repr

/-- The enumerators are numbered in their order. -/
def SGCommands.toNat (command : SGCommands) : ℕ := command.ctorIdx

/-- What one arm is to do. -/
structure ArmRoutine (ν : Type) where
  command : SGCommands
  position : Option ν := .none

/-- A call of a method of `Services::SG` that has both arms run a routine. -/
structure SGRoutine (ν : Type) where
  left : ArmRoutine ν
  right : ArmRoutine ν

namespace RAPIDInput
variable [NatCast ν]

def routineName (task routineName : Text) : RAPIDInput ν δ :=
  .of task Symbols.rapidRoutineNameInput (.string routineName)

def command (task : Text) (command : SGCommands) : RAPIDInput ν δ :=
  .of task Symbols.sgCommandInput (.num command.toNat)

def targetPosition (task : Text) (position : ν) : RAPIDInput ν δ :=
  .of task Symbols.sgTargetPostionInput (.num position)

end RAPIDInput

/-- The commands of both arms come first, then the positions. -/
def SGRoutine.inputs [NatCast ν] (routine : SGRoutine ν) : List (RAPIDInput ν δ) :=
  [.command taskRobL routine.left.command, .command taskRobR routine.right.command] ++
    routine.left.position.toList.map (.targetPosition taskRobL) ++
    routine.right.position.toList.map (.targetPosition taskRobR)

/-- A call of one of the services. -/
inductive ServiceCall (ν δ : Type) where
  | runCallByVar (task routineName : Text) (routineNumber : ℕ)
  | runModuleLoad (task filePath : Text)
  | runModuleUnload (task filePath : Text)
  | runMoveAbsJ (task : Text) (jointTarget : RAPIDSymbolData ν δ)
  | runMoveJ (task : Text) (robTarget : RAPIDSymbolData ν δ)
  | runMoveToCalibrationPosition (task : Text)
  | setMoveSpeed (task : Text) (speedData : RAPIDSymbolData ν δ)
  | runSGRoutine (routine : SGRoutine ν)
  /-- `Initialize`. -/
  | initializeSg (task : Text)
  | setSettings (task : Text) (settings : RAPIDSymbolData ν δ)

namespace ServiceCall
variable [NatCast ν]

/-- The inputs of a call, in the order in which they are written. -/
def inputs : ServiceCall ν δ → List (RAPIDInput ν δ)
  | runCallByVar task routineName routineNumber =>
      [.of task Symbols.rapidCallByVarNameInput (.string routineName),
        .of task Symbols.rapidCallByVarNumInput (.num routineNumber),
        .routineName task Procedures.runCallByVar]
  | runModuleLoad task filePath =>
      [.of task Symbols.rapidModuleFilePathInput (.string filePath),
        .routineName task Procedures.runModuleLoad]
  | runModuleUnload task filePath =>
      [.of task Symbols.rapidModuleFilePathInput (.string filePath),
        .routineName task Procedures.runModuleUnload]
  | runMoveAbsJ task jointTarget =>
      [.of task Symbols.rapidMoveJointTargetInput jointTarget,
        .routineName task Procedures.runMoveAbsJ]
  | runMoveJ task robTarget =>
      [.of task Symbols.rapidMoveRobTargetInput robTarget, .routineName task Procedures.runMoveJ]
  | runMoveToCalibrationPosition task => [.routineName task Procedures.runMoveToCalibrationPosition]
  | setMoveSpeed task speedData => [.of task Symbols.rapidMoveSpeedInput speedData]
  | runSGRoutine routine => routine.inputs
  -- the other arm keeps the command that it has
  | initializeSg task => [.command task .initializeSg]
  | setSettings task settings => [.of task Symbols.sgSettings settings]

/-- The signal that a call toggles. -/
def iosignal : ServiceCall ν δ → Option Text
  | setMoveSpeed .. | setSettings .. => none
  | runSGRoutine _ | initializeSg _ => some IOSignals.runSgRoutine
  | _ => some IOSignals.runRapidRoutine

variable [Streamed ν] [DecidableEq ν] [Streamed δ] [DecidableEq δ]
  (xmlParse : Text → Option XMLNode)

def exec (call : ServiceCall ν δ) : RwsProgram Bool :=
  match call.iosignal with
  | some iosignal => runRoutine xmlParse call.inputs iosignal
  | none => setInputs xmlParse call.inputs

/-- One more call. -/
def execNext (results : List Bool) (call : ServiceCall ν δ) : RwsProgram (List Bool) := do
  let result ← call.exec xmlParse
  pure (results ++ [result])

end ServiceCall

namespace SG

/-- Both arms. -/
def dual (command : SGCommands) : ServiceCall ν δ := .runSGRoutine ⟨⟨command, none⟩, ⟨command, none⟩⟩

/-- The left arm only. -/
def left (command : SGCommands) : ServiceCall ν δ := .runSGRoutine ⟨⟨command, none⟩, ⟨.none, none⟩⟩

/-- The right arm only. -/
def right (command : SGCommands) : ServiceCall ν δ := .runSGRoutine ⟨⟨.none, none⟩, ⟨command, none⟩⟩

def dualBlow1Off : ServiceCall ν δ := dual .blowOff1
def dualBlow1On : ServiceCall ν δ := dual .blowOn1
def dualBlow2Off : ServiceCall ν δ := dual .blowOff2
def dualBlow2On : ServiceCall ν δ := dual .blowOn2
def dualCalibrate : ServiceCall ν δ := dual .calibrate
def dualGripIn : ServiceCall ν δ := dual .gripIn
def dualGripOut : ServiceCall ν δ := dual .gripOut
def dualInitialize : ServiceCall ν δ := dual .initializeSg
def dualMoveTo (leftPosition rightPosition : ν) : ServiceCall ν δ :=
  .runSGRoutine ⟨⟨.moveTo, some leftPosition⟩, ⟨.moveTo, some rightPosition⟩⟩
def dualVacuum1Off : ServiceCall ν δ := dual .vacuumOff1
def dualVacuum1On : ServiceCall ν δ := dual .vacuumOn1
def dualVacuum2Off : ServiceCall ν δ := dual .vacuumOff2
def dualVacuum2On : ServiceCall ν δ := dual .vacuumOn2

def leftBlow1Off : ServiceCall ν δ := left .blowOff1
def leftBlow1On : ServiceCall ν δ := left .blowOn1
def leftBlow2Off : ServiceCall ν δ := left .blowOff2
def leftBlow2On : ServiceCall ν δ := left .blowOn2
def leftCalibrate : ServiceCall ν δ := left .calibrate
def leftGripIn : ServiceCall ν δ := left .gripIn
def leftGripOut : ServiceCall ν δ := left .gripOut
def leftInitialize : ServiceCall ν δ := left .initializeSg
def leftMoveTo (position : ν) : ServiceCall ν δ :=
  .runSGRoutine ⟨⟨.moveTo, some position⟩, ⟨.none, none⟩⟩
def leftVacuum1Off : ServiceCall ν δ := left .vacuumOff1
def leftVacuum1On : ServiceCall ν δ := left .vacuumOn1
def leftVacuum2Off : ServiceCall ν δ := left .vacuumOff2
def leftVacuum2On : ServiceCall ν δ := left .vacuumOn2

def rightBlow1Off : ServiceCall ν δ := right .blowOff1
def rightBlow1On : ServiceCall ν δ := right .blowOn1
def rightBlow2Off : ServiceCall ν δ := right .blowOff2
def rightBlow2On : ServiceCall ν δ := right .blowOn2
def rightCalibrate : ServiceCall ν δ := right .calibrate
def rightGripIn : ServiceCall ν δ := right .gripIn
def rightGripOut : ServiceCall ν δ := right .gripOut
def rightInitialize : ServiceCall ν δ := right .initializeSg
def rightMoveTo (position : ν) : ServiceCall ν δ :=
  .runSGRoutine ⟨⟨.none, none⟩, ⟨.moveTo, some position⟩⟩
def rightVacuum1Off : ServiceCall ν δ := right .vacuumOff1
def rightVacuum1On : ServiceCall ν δ := right .vacuumOn1
def rightVacuum2Off : ServiceCall ν δ := right .vacuumOff2
def rightVacuum2On : ServiceCall ν δ := right .vacuumOn2

end SG

/-! ### One call -/

section client
variable [Streamed ν] [DecidableEq ν] [Streamed δ] [DecidableEq δ]
  (xmlParse : Text → Option XMLNode)

/-- What the writing of inputs exchanges. -/
structure Written (inputs : List (RAPIDInput ν δ)) (result : Bool)
    (exchanged : History RequestInfo POCOResult) : Prop where
  order : exchanged.map Prod.fst <+: inputs.map RAPIDInput.request
  complete : result = true → exchanged.map Prod.fst = inputs.map RAPIDInput.request ∧
    ∀ e ∈ exchanged, e.2.Accepted HTTPResponse.noContent
  /-- The one that was refused is the last. -/
  refused : result = false → ∃ before e, exchanged = before ++ [e] ∧
    ¬e.2.Accepted HTTPResponse.noContent

theorem setRAPIDSymbolData_ensures (input : RAPIDInput ν δ) :
    Ensures (setRAPIDSymbolData xmlParse input) (fun result exchanged =>
      ∃ written, exchanged = [(input.request, written)] ∧
        (result = true ↔ written.Accepted HTTPResponse.noContent)) := by
  unfold setRAPIDSymbolData
  apply Ensures.request_bind
  intro written
  exact .pure ⟨written, rfl, evaluatePOCOResult_success xmlParse written _⟩

theorem setInputs_written (inputs : List (RAPIDInput ν δ)) :
    Ensures (setInputs xmlParse inputs) (Written inputs) := by
  induction inputs with
  | nil => exact .pure ⟨List.nil_prefix, fun _ => ⟨rfl, List.forall_mem_nil _⟩, nofun⟩
  | cons input inputs ih =>
      refine Ensures.bind (setRAPIDSymbolData_ensures xmlParse input) ?_
      rintro result _ ⟨written, rfl, haccepted⟩
      cases result with
      | false =>
          refine .pure ⟨?_, nofun, fun _ => ⟨[], _, rfl, ?_⟩⟩
          · exact List.prefix_append [input.request] _
          · intro h
            cases haccepted.mpr h
      | true =>
          refine ih.mono ?_
          rintro result exchanged ⟨horder, hcomplete, hrefused⟩
          refine ⟨?_, ?_, ?_⟩
          · exact List.cons_prefix_cons.mpr ⟨rfl, horder⟩
          · intro hresult
            obtain ⟨hrequests, hall⟩ := hcomplete hresult
            exact ⟨congrArg (input.request :: ·) hrequests,
              List.forall_mem_cons.mpr ⟨haccepted.mp rfl, hall⟩⟩
          · intro hresult
            obtain ⟨before, e, rfl, he⟩ := hrefused hresult
            exact ⟨(input.request, written) :: before, e, rfl, he⟩

/-- A reading, or a writing of the signal. -/
def Toggles (iosignal : Text) (request : RequestInfo) : Prop :=
  request.method = .get ∨ ∃ level, request = setIOSignalRequest iosignal level

/-- What the toggling of a signal exchanges: if it succeeds, a confirmed LOW and then a confirmed
HIGH. -/
structure Toggled (iosignal : Text) (result : Bool)
    (exchanged : History RequestInfo POCOResult) : Prop where
  requests : ∀ e ∈ exchanged, Toggles iosignal e.1
  edge : result = true → ∃ before between after rest,
    Writes xmlParse iosignal low before rest exchanged ∧
      Writes xmlParse iosignal high between after rest

variable {xmlParse} in
theorem Attempts.toggles {iosignal value : Text} {result : Bool}
    {exchanged : History RequestInfo POCOResult}
    (h : Attempts xmlParse iosignal value result exchanged) : ∀ e ∈ exchanged, Toggles iosignal e.1 := by
  intro e he
  rcases h.requests e he with hset | hget
  · exact .inr ⟨value, hset⟩
  · exact .inl (by rw [hget]; rfl)

theorem toggleIOSignal_toggled (iosignal : Text) :
    Ensures (toggleIOSignal xmlParse iosignal) (Toggled xmlParse iosignal) := by
  refine Ensures.bind (isAutoMode_ensures xmlParse) ?_
  rintro autoMode _ ⟨answer, rfl, -⟩
  have hmode : ∀ e ∈ [(getPanelOperationModeRequest, answer)], Toggles iosignal e.1 :=
    List.forall_mem_singleton.mpr (.inl rfl)
  apply Ensures.ite
  · intro _
    refine Ensures.bind (attempts_ensures xmlParse iosignal low maxNumberOfAttempts) ?_
    intro result lows hlows
    cases result with
    | false =>
        refine .pure ⟨List.forall_mem_append.mpr ⟨hmode, ?_⟩, nofun⟩
        exact List.forall_mem_append.mpr ⟨hlows.toggles, List.forall_mem_nil _⟩
    | true =>
        obtain ⟨before, written, read, hconfirms, hlow⟩ := hlows.confirmed rfl
        refine (attempts_ensures xmlParse iosignal high maxNumberOfAttempts).mono ?_
        intro result highs hhighs
        refine ⟨?_, ?_⟩
        · refine List.forall_mem_append.mpr ⟨hmode, ?_⟩
          exact List.forall_mem_append.mpr ⟨hlows.toggles, hhighs.toggles⟩
        · intro hresult
          obtain ⟨between, hhigh⟩ := hhighs.confirmed hresult
          refine ⟨(getPanelOperationModeRequest, answer) :: before, between, [], highs, ?_, hhigh⟩
          exact ⟨written, read, hconfirms, by rw [hlow]; simp⟩
  · intro _
    exact .pure ⟨hmode, nofun⟩

/-- **A call is of one piece.**  The inputs come first; if one is refused, nothing follows, and otherwise
all that follows is the toggling of the signal, whose result is that of the call. -/
theorem runRoutine_ensures (inputs : List (RAPIDInput ν δ)) (iosignal : Text) :
    Ensures (runRoutine xmlParse inputs iosignal) fun result exchanged =>
      ∃ accepted written toggled, exchanged = written ++ toggled ∧ Written inputs accepted written ∧
        (accepted = false → result = false ∧ toggled = []) ∧
        (accepted = true → Toggled xmlParse iosignal result toggled) := by
  refine Ensures.bind (setInputs_written xmlParse inputs) ?_
  intro accepted written hwritten
  cases accepted with
  | false => exact .pure ⟨false, written, [], rfl, hwritten, fun _ => ⟨rfl, rfl⟩, nofun⟩
  | true =>
      refine (toggleIOSignal_toggled xmlParse iosignal).mono ?_
      intro result toggled htoggled
      exact ⟨true, written, toggled, rfl, hwritten, nofun, fun _ => htoggled⟩

end client

/-! ### What the controller has -/

/-- What was written to each URI, as far as it is known. -/
abbrev Store := Text → Option Text

/-- Of a writing that is not accepted it is not known whether it took effect. -/
def keep (store : Store) (e : RequestInfo × POCOResult) : Store :=
  if e.1.method = .post then
    Function.update store e.1.uri
      (if e.2.Accepted HTTPResponse.noContent then some e.1.content else none)
  else store

theorem keep_of_ne {store : Store} {e : RequestInfo × POCOResult} {uri : Text} (h : e.1.uri ≠ uri) :
    keep store e uri = store uri := by
  unfold keep
  split
  · rw [Function.update_of_ne h.symm]
  · rfl

theorem keep_of_get {store : Store} {e : RequestInfo × POCOResult} (h : e.1.method = .get) :
    keep store e = store := by
  unfold keep
  rw [if_neg (by rw [h]; nofun)]

theorem keep_accepted {store : Store} {e : RequestInfo × POCOResult} (hpost : e.1.method = .post)
    (h : e.2.Accepted HTTPResponse.noContent) : keep store e e.1.uri = some e.1.content := by
  unfold keep
  rw [if_pos hpost, Function.update_self, if_pos h]

theorem run_keep_of_ne {store : Store} {exchanged : History RequestInfo POCOResult} {uri : Text}
    (h : ∀ e ∈ exchanged, e.1.uri ≠ uri) : run keep store exchanged uri = store uri := by
  induction exchanged generalizing store with
  | nil => rfl
  | cons e exchanged ih =>
      rw [List.forall_mem_cons] at h
      rw [run_cons, ih h.2, keep_of_ne h.1]

/-- Accepted writings to different URIs do not undo each other. -/
theorem run_keep_accepted {store : Store} {exchanged : History RequestInfo POCOResult}
    (hpost : ∀ e ∈ exchanged, e.1.method = .post)
    (haccepted : ∀ e ∈ exchanged, e.2.Accepted HTTPResponse.noContent)
    (hnodup : (exchanged.map (·.1.uri)).Nodup) :
    ∀ e ∈ exchanged, run keep store exchanged e.1.uri = some e.1.content := by
  induction exchanged generalizing store with
  | nil => exact List.forall_mem_nil _
  | cons e exchanged ih =>
      rw [List.forall_mem_cons] at hpost haccepted
      rw [List.map_cons, List.nodup_cons] at hnodup
      rw [List.forall_mem_cons]
      refine ⟨?_, ih hpost.2 haccepted.2 hnodup.2⟩
      have hlater : ∀ e' ∈ exchanged, e'.1.uri ≠ e.1.uri := by
        intro e' he' heq
        exact hnodup.1 (List.mem_map.mpr ⟨e', he', heq⟩)
      rw [run_cons, run_keep_of_ne hlater, keep_accepted hpost.1 haccepted.1]

section client
variable [Streamed ν] [DecidableEq ν] [Streamed δ] [DecidableEq δ]
  (xmlParse : Text → Option XMLNode)

/-- The controller has the data of the inputs. -/
def Has (store : Store) (inputs : List (RAPIDInput ν δ)) : Prop :=
  ∀ input ∈ inputs, store input.request.uri = some input.request.content

theorem Written.has {inputs : List (RAPIDInput ν δ)} {written : History RequestInfo POCOResult}
    (h : Written inputs true written) (hnodup : (inputs.map (·.request.uri)).Nodup) (store : Store) :
    Has (run keep store written) inputs := by
  obtain ⟨hrequests, haccepted⟩ := h.complete rfl
  have hmem : ∀ e ∈ written, ∃ input ∈ inputs, input.request = e.1 := by
    intro e he
    have hrequest := List.mem_map_of_mem (f := Prod.fst) he
    rwa [hrequests, List.mem_map] at hrequest
  have hpost : ∀ e ∈ written, e.1.method = .post := by
    intro e he
    obtain ⟨input, -, hinput⟩ := hmem e he
    rw [← hinput]
    rfl
  have huris : written.map (·.1.uri) = inputs.map (·.request.uri) := by
    have hmap := congrArg (List.map RequestInfo.uri) hrequests
    rwa [List.map_map, List.map_map] at hmap
  have hkept := @run_keep_accepted store _ hpost haccepted (huris ▸ hnodup)
  intro input hinput
  have hrequest := List.mem_map_of_mem (f := RAPIDInput.request) hinput
  rw [← hrequests, List.mem_map] at hrequest
  obtain ⟨e, he, heq⟩ := hrequest
  rw [← heq]
  exact hkept e he

/-! ### The URIs -/

theorem RAPIDInput.uri_ne_set (input : RAPIDInput ν δ) (iosignal value : Text) :
    input.request.uri ≠ (setIOSignalRequest iosignal value).uri := by
  intro h
  have hprefix := congrArg (List.take 5) h
  simp only [RAPIDInput.request, setRAPIDSymbolDataRequest, generateRAPIDDataPath,
    setIOSignalRequest, generateIOSignalPath, List.append_assoc] at hprefix
  rw [List.take_append_of_le_length (by decide), List.take_append_of_le_length (by decide)] at hprefix
  exact absurd hprefix (by decide)

/-- Of two symbols of a module. -/
theorem RAPIDInput.uri_ne_of_name {task : Text} {symbol symbol' : RAPIDSymbolResource}
    {data data' : RAPIDSymbolData ν δ} (hmodule : symbol.module = symbol'.module)
    (hname : symbol.name ≠ symbol'.name) :
    (RAPIDInput.of task symbol data).request.uri ≠ (RAPIDInput.of task symbol' data').request.uri := by
  intro h
  simp only [RAPIDInput.of, RAPIDInput.request, setRAPIDSymbolDataRequest, generateRAPIDDataPath,
    hmodule] at h
  exact hname (List.append_cancel_left (List.append_cancel_right h))

/-- Of two tasks whose names are of one length. -/
theorem RAPIDInput.uri_ne_of_task {task task' : Text} {symbol symbol' : RAPIDSymbolResource}
    {data data' : RAPIDSymbolData ν δ} (hlength : task.length = task'.length) (htask : task ≠ task') :
    (RAPIDInput.of task symbol data).request.uri ≠ (RAPIDInput.of task' symbol' data').request.uri := by
  intro h
  simp only [RAPIDInput.of, RAPIDInput.request, setRAPIDSymbolDataRequest, generateRAPIDDataPath,
    List.append_assoc] at h
  exact htask (List.append_inj_left (List.append_cancel_left (List.append_cancel_left h)) hlength)

theorem setIOSignalRequest_inj {iosignal iosignal' value value' : Text}
    (h : setIOSignalRequest iosignal value = setIOSignalRequest iosignal' value') :
    iosignal = iosignal' := by
  have huri := congrArg RequestInfo.uri h
  simp only [setIOSignalRequest, generateIOSignalPath] at huri
  exact List.append_cancel_left (List.append_cancel_right (List.append_cancel_right huri))

variable [NatCast ν]

theorem SGRoutine.nodup_inputs (routine : SGRoutine ν) :
    ((routine.inputs : List (RAPIDInput ν δ)).map (·.request.uri)).Nodup := by
  have htask : taskRobL ≠ taskRobR := by decide
  have hname : Symbols.sgCommandInput.name ≠ Symbols.sgTargetPostionInput.name := by decide
  obtain ⟨⟨left, leftPosition⟩, right, rightPosition⟩ := routine
  have harms (symbol symbol' : RAPIDSymbolResource) (data data' : RAPIDSymbolData ν δ) :
      (RAPIDInput.of taskRobL symbol data).request.uri ≠
        (RAPIDInput.of taskRobR symbol' data').request.uri := RAPIDInput.uri_ne_of_task rfl htask
  have harm (task : Text) (data data' : RAPIDSymbolData ν δ) :
      (RAPIDInput.of task Symbols.sgCommandInput data).request.uri ≠
        (RAPIDInput.of task Symbols.sgTargetPostionInput data').request.uri :=
    RAPIDInput.uri_ne_of_name rfl hname
  have harms' (symbol symbol' : RAPIDSymbolResource) (data data' : RAPIDSymbolData ν δ) :=
    (harms symbol symbol' data data').symm
  cases leftPosition <;> cases rightPosition <;>
    simp [SGRoutine.inputs, RAPIDInput.command, RAPIDInput.targetPosition, harms, harms', harm]

theorem ServiceCall.nodup_inputs (call : ServiceCall ν δ) :
    (call.inputs.map (·.request.uri)).Nodup := by
  have hname {symbol : RAPIDSymbolResource} (hmodule : symbol.module = "TRobRAPID".toList)
      (hname : symbol.name ≠ Symbols.rapidRoutineNameInput.name) (task : Text)
      (data : RAPIDSymbolData ν δ) (routineName : Text) :
      (RAPIDInput.of task symbol data).request.uri ≠
        (RAPIDInput.routineName task routineName : RAPIDInput ν δ).request.uri :=
    RAPIDInput.uri_ne_of_name hmodule hname
  have hpair {input input' : RAPIDInput ν δ} (h : input.request.uri ≠ input'.request.uri) :
      ([input, input'].map (·.request.uri)).Nodup :=
    List.nodup_cons.mpr ⟨by simpa using h, List.nodup_cons.mpr ⟨List.not_mem_nil, List.nodup_nil⟩⟩
  cases call with
  | runCallByVar task routineName routineNumber =>
      refine List.nodup_cons.mpr ⟨?_, hpair (hname rfl (by decide) _ _ _)⟩
      simp only [List.map_cons, List.map_nil, List.mem_cons, List.not_mem_nil, or_false, not_or]
      exact ⟨RAPIDInput.uri_ne_of_name rfl (by decide), hname rfl (by decide) _ _ _⟩
  | runModuleLoad task filePath => exact hpair (hname rfl (by decide) _ _ _)
  | runModuleUnload task filePath => exact hpair (hname rfl (by decide) _ _ _)
  | runMoveAbsJ task jointTarget => exact hpair (hname rfl (by decide) _ _ _)
  | runMoveJ task robTarget => exact hpair (hname rfl (by decide) _ _ _)
  | runMoveToCalibrationPosition task => exact List.nodup_cons.mpr ⟨List.not_mem_nil, List.nodup_nil⟩
  | setMoveSpeed task speedData => exact List.nodup_cons.mpr ⟨List.not_mem_nil, List.nodup_nil⟩
  | runSGRoutine routine => exact routine.nodup_inputs
  | initializeSg task => exact List.nodup_cons.mpr ⟨List.not_mem_nil, List.nodup_nil⟩
  | setSettings task settings => exact List.nodup_cons.mpr ⟨List.not_mem_nil, List.nodup_nil⟩

/-! ### Any list of calls -/

/-- A signal is set high only while the controller has the inputs of a call that toggles it. -/
def Runs (calls : List (ServiceCall ν δ)) (store : Store) (e : RequestInfo × POCOResult) : Prop :=
  ∀ iosignal, e.1 = setIOSignalRequest iosignal high →
    ∃ call ∈ calls, call.iosignal = some iosignal ∧ Has store call.inputs

theorem Written.along {inputs : List (RAPIDInput ν δ)} {result : Bool}
    {written : History RequestInfo POCOResult} (h : Written inputs result written)
    (calls : List (ServiceCall ν δ)) (store : Store) : Along keep (Runs calls) store written := by
  apply Along.of_forall
  intro e he store iosignal hhigh
  obtain ⟨input, -, hinput⟩ := List.mem_map.mp (h.order.subset (List.mem_map_of_mem he))
  refine absurd ?_ (input.uri_ne_set iosignal high)
  rw [hinput, hhigh]

theorem Toggled.along {iosignal : Text} {result : Bool} {toggled : History RequestInfo POCOResult}
    (h : Toggled xmlParse iosignal result toggled) {calls : List (ServiceCall ν δ)}
    {call : ServiceCall ν δ} (hcall : call ∈ calls) (hiosignal : call.iosignal = some iosignal)
    {store : Store} (hstore : Has store call.inputs) : Along keep (Runs calls) store toggled := by
  have htoggles : Along keep (fun _ e => Toggles iosignal e.1) store toggled :=
    Along.of_forall (fun e he _ => h.requests e he) store
  refine htoggles.of_inv (I := fun store => Has store call.inputs) ?_ hstore
  intro store e hstore he
  constructor
  · intro input hinput
    rcases he with hget | ⟨level, hset⟩
    · rw [keep_of_get hget]
      exact hstore input hinput
    · have hne := (input.uri_ne_set iosignal level).symm
      rw [keep_of_ne (by rw [hset]; exact hne)]
      exact hstore input hinput
  · intro iosignal' hhigh
    refine ⟨call, hcall, ?_, hstore⟩
    rcases he with hget | ⟨level, hset⟩
    · rw [hhigh] at hget
      cases hget
    · rw [hiosignal, setIOSignalRequest_inj (hset.symm.trans hhigh)]

theorem ServiceCall.exec_runs {calls : List (ServiceCall ν δ)} {call : ServiceCall ν δ}
    (hcall : call ∈ calls) (store : Store) :
    Monitored keep (Runs calls) store (call.exec xmlParse) (fun _ _ => True) := by
  unfold ServiceCall.exec
  cases hiosignal : call.iosignal with
  | none =>
      refine (setInputs_written xmlParse call.inputs).mono ?_
      intro result written hwritten
      exact ⟨hwritten.along calls store, trivial⟩
  | some iosignal =>
      refine (runRoutine_ensures xmlParse call.inputs iosignal).mono ?_
      rintro result _ ⟨accepted, written, toggled, rfl, hwritten, hrefused, htoggled⟩
      refine ⟨(along_append _ _ _).mpr ⟨hwritten.along calls store, ?_⟩, trivial⟩
      cases accepted with
      | false =>
          rw [(hrefused rfl).2]
          trivial
      | true =>
          exact (htoggled rfl).along xmlParse hcall hiosignal (hwritten.has call.nodup_inputs store)

/-- **The inputs belong to the call.**  Whenever a signal is set high, in any list of calls, the
controller has all the inputs of one of the calls that toggle this signal. -/
theorem calls_inputs (calls : List (ServiceCall ν δ)) :
    Ensures (calls.foldlM (ServiceCall.execNext xmlParse) []) fun _ exchanged =>
      ∀ before iosignal answer after,
        exchanged = before ++ (setIOSignalRequest iosignal high, answer) :: after →
          ∃ call ∈ calls, call.iosignal = some iosignal ∧
            Has (run keep (fun _ => none) before) call.inputs := by
  have hcalls : Monitored keep (Runs calls) (fun _ => none)
      (calls.foldlM (ServiceCall.execNext xmlParse) []) fun _ _ => True := by
    refine Monitored.foldlM calls ?_ trivial
    intro results call hcall store _
    exact Monitored.bind (call.exec_runs xmlParse hcall store) fun _ _ _ => .pure trivial
  refine Ensures.mono hcalls ?_
  rintro _ exchanged ⟨halong, -⟩ before iosignal answer after hexchanged
  exact along_iff_positions.mp halong before _ after hexchanged iosignal rfl

end client

end AbbWrapper
