import Mathlib.Data.List.Destutter
import AbbWrapper.RoutineCalls
import AbbWrapper.SmartGripper

/-! # Motions of the gripper

`GripIn`, `GripOut`, `JogIn`, `JogOut` and `Calibrate` of `Services::SG`, and the main loop of the
gripper node.  Each writes commands to the hand and reads its state over and over.

* `HandProgram` are programs that may stop: the source loops until the hand is in a state, which is a loop
  with as many readings as `fuel` here, and `std::stoi` throws for a text without a number.  What is
  proved is about the calls that return; of a program that stops nothing is said but that it has done
  nothing that is not allowed.
* A signal whose request failed is read as the empty text, as in the source.
* `HandWatch` sees what was written and read: the latest command, the state that was read since, and
  whether the hand is calibrated as it was read last.  `Permits` is what is allowed to be commanded then.

Whatever the hand answers, a motion is commanded only when READY was the state that was read since the
command to go there; a hand that was read as not calibrated does not grip, and no other is calibrated;
and the force and the speed are within their limits.  The node grips exactly at the changes of what it is
asked for (`gripperNode_run`). -/

namespace AbbWrapper

open Exchanges Runs SystemConstants

namespace IOSignals

/-- `SG_CMD_GRIPPER`. -/
def sgCmdGripper : Text := "EtherNetIP/Hand/hand_CmdGripper".toList
/-- `SG_SYS_STATE`. -/
def sgSysState : Text := "EtherNetIP/Hand/hand_SysState".toList
/-- `SG_ACTUAL_SPEED`. -/
def sgActualSpeed : Text := "EtherNetIP/Hand/hand_ActualSpeed".toList
/-- `SG_STATUS_CALIBRATED`. -/
def sgStatusCalibrated : Text := "EtherNetIP/Hand/hand_StatusCalibrated".toList
/-- `SG_HAND_HOLDFORCE`. -/
def sgHandHoldforce : Text := "EtherNetIP/Hand/hand_HoldForce".toList
/-- `SG_HAND_MAXSPEED`. -/
def sgHandMaxspeed : Text := "EtherNetIP/Hand/hand_MaxSpeed".toList

end IOSignals

open IOSignals

namespace SG

/-- `SG_CMD_CLOSE`. -/
def cmdClose : Text := ['1']
/-- `SG_CMD_OPEN`. -/
def cmdOpen : Text := ['2']
/-- `SG_CMD_GRIPINWARD`. -/
def cmdGripinward : Text := ['1', '5']
/-- `SG_CMD_GRIPOUTWARD`. -/
def cmdGripoutward : Text := ['1', '6']
/-- `SG_CMD_GO_TO_READY`. -/
def cmdGoToReady : Text := ['1', '0']
/-- `SG_CMD_GO_TO_CALIBRATION`. -/
def cmdGoToCalibration : Text := ['1', '1']
/-- `SG_STATE_READY`. -/
def stateReady : Text := ['0']
/-- `SG_STATE_KEEPOBJ`. -/
def stateKeepobj : Text := ['9']
/-- `SG_STATE_ACTION_COMPLETED`. -/
def stateActionCompleted : Text := ['6']

end SG

/-- `std::stoi`: the number at the beginning of a text, if there is one and it is an `int`. -/
def Text.stoi (t : Text) : Option ℤ :=
  let number := t.dropWhile isSpace
  let negative := number.head? == some '-'
  let digits := (if number.head? ∈ [some '-', some '+'] then number.tail else number).takeWhile
    Char.isDigit
  let magnitude : ℤ := Nat.ofDigitChars 10 digits 0
  let value := if negative then -magnitude else magnitude
  if digits ≠ [] ∧ Int32.minValue.toInt ≤ value ∧ value ≤ Int32.maxValue.toInt then some value else none

/-- Why a call does not return. -/
inductive Stopped where
  /-- It has used up its readings. -/
  | waiting
  /-- `std::stoi` has thrown. -/
  | invalidArgument
deriving DecidableEq, Repr

abbrev HandProgram (β : Type) := ExceptT Stopped (Program RequestInfo POCOResult) β

namespace SG

section client
variable (xmlParse : Text → Option XMLNode)

/-- `while(getIOSignal(SG_SYS_STATE) != state){}`. -/
def waitForState (state : Text) : ℕ → HandProgram Unit
  | 0 => throw .waiting
  | fuel + 1 => do
      let sysState ← getIOSignal xmlParse sgSysState
      if sysState = state then pure () else waitForState state fuel

/-- `while(std::stoi(getIOSignal(SG_ACTUAL_SPEED))/10 > 1){}`. -/
def waitForStop : ℕ → HandProgram Unit
  | 0 => throw .waiting
  | fuel + 1 => do
      let actualSpeed ← getIOSignal xmlParse sgActualSpeed
      match actualSpeed.stoi with
      | none => throw .invalidArgument
      | some speed => if speed.tdiv 10 ≤ 1 then pure () else waitForStop fuel

/-- The result of a writing is not looked at. -/
def setHandSignal (iosignal value : Text) : HandProgram Unit := do
  let _ ← setIOSignal xmlParse iosignal value
  pure ()

/-- `GripIn` and `GripOut`, with the command that they give. -/
def grip (command : Text) (fuel : ℕ) : HandProgram Bool := do
  let status ← getIOSignal xmlParse sgStatusCalibrated
  if status = low then pure false
  else do
    setHandSignal xmlParse sgCmdGripper cmdGoToReady
    waitForState xmlParse stateReady fuel
    setHandSignal xmlParse sgCmdGripper command
    waitForState xmlParse stateKeepobj fuel
    pure true

def gripIn (fuel : ℕ) : HandProgram Bool := grip xmlParse cmdGripinward fuel

def gripOut (fuel : ℕ) : HandProgram Bool := grip xmlParse cmdGripoutward fuel

/-- `JogIn` and `JogOut`, with the command that they give. -/
def jog (command : Text) (fuel : ℕ) : HandProgram Bool := do
  setHandSignal xmlParse sgCmdGripper cmdGoToReady
  waitForState xmlParse stateReady fuel
  setHandSignal xmlParse sgCmdGripper command
  waitForStop xmlParse fuel
  setHandSignal xmlParse sgCmdGripper cmdGoToReady
  waitForState xmlParse stateReady fuel
  setHandSignal xmlParse sgCmdGripper cmdGoToReady
  pure true

def jogIn (fuel : ℕ) : HandProgram Bool := jog xmlParse cmdClose fuel

def jogOut (fuel : ℕ) : HandProgram Bool := jog xmlParse cmdOpen fuel

def calibrate (maxForce maxSpeed fuel : ℕ) : HandProgram Bool := do
  let maxForce := if 200 < maxForce then 200 else maxForce
  let maxSpeed := if 250 < maxSpeed then 250 else maxSpeed
  setHandSignal xmlParse sgHandHoldforce (Text.ofNat maxForce)
  setHandSignal xmlParse sgHandMaxspeed (Text.ofNat maxSpeed)
  let status ← getIOSignal xmlParse sgStatusCalibrated
  if status ≠ low then pure false
  else do
    setHandSignal xmlParse sgCmdGripper cmdGoToReady
    waitForState xmlParse stateReady fuel
    setHandSignal xmlParse sgCmdGripper cmdGoToCalibration
    waitForState xmlParse stateActionCompleted fuel
    setHandSignal xmlParse sgCmdGripper cmdGoToReady
    pure true

/-- The calls that move the hand. -/
inductive HandCall where
  | gripIn
  | gripOut
  | jogIn
  | jogOut
  | calibrate (maxForce maxSpeed : ℕ)
deriving DecidableEq, Repr

def HandCall.exec (fuel : ℕ) : HandCall → HandProgram Bool
  | .gripIn => SG.gripIn xmlParse fuel
  | .gripOut => SG.gripOut xmlParse fuel
  | .jogIn => SG.jogIn xmlParse fuel
  | .jogOut => SG.jogOut xmlParse fuel
  | .calibrate maxForce maxSpeed => SG.calibrate xmlParse maxForce maxSpeed fuel

/-- Calls that were made, with their results. -/
abbrev Record := List (HandCall × Bool)

def record (fuel : ℕ) (call : HandCall) : HandProgram Record := do
  let result ← call.exec xmlParse fuel
  pure [(call, result)]

/-- One call after the other. -/
def recordAll (fuel : ℕ) : List HandCall → HandProgram Record
  | [] => pure []
  | call :: calls => do
      let first ← record xmlParse fuel call
      let later ← recordAll fuel calls
      pure (first ++ later)

end client

end SG

/-! ### The gripper node -/

/-- The hand as it is asked for, and as it was asked for in the round before. -/
structure GripperNode where
  gripperCmd : Bool := false
  oldGripperCmd : Bool := false
deriving DecidableEq, Repr

namespace GripperNode

open SG

def callbackGripper (node : GripperNode) (data : Bool) : GripperNode := { node with gripperCmd := data }

section client
variable (xmlParse : Text → Option XMLNode) (fuel : ℕ)

/-- A round of the main loop: the requests are those that `spinOnce` finds. -/
def round (node : GripperNode) (requests : List Bool) : HandProgram (GripperNode × Record) := do
  if node.gripperCmd ≠ node.oldGripperCmd then do
    let calls ← record xmlParse fuel (if node.gripperCmd then .gripIn else .gripOut)
    pure (requests.foldl callbackGripper { node with oldGripperCmd := node.gripperCmd }, calls)
  else pure (requests.foldl callbackGripper node, [])

def loop : GripperNode → List (List Bool) → HandProgram Record
  | _, [] => pure []
  | node, requests :: rounds => do
      let (node, calls) ← round xmlParse fuel node requests
      let later ← loop node rounds
      pure (calls ++ later)

/-- `main`, with the rounds of its loop. -/
def main (rounds : List (List Bool)) : HandProgram Record := do
  let calls ← recordAll xmlParse fuel [.jogOut, .jogIn, .calibrate 200 250]
  let later ← loop xmlParse fuel {} rounds
  pure (calls ++ later)

end client

end GripperNode

/-! ### What the hand was told and has answered -/

/-- The value that a request writes to a signal. -/
def writtenValue (iosignal : Text) (request : RequestInfo) : Option Text :=
  let value := request.content.drop 7
  if request = setIOSignalRequest iosignal value then some value else none

theorem writtenValue_set (iosignal iosignal' value : Text) :
    writtenValue iosignal (setIOSignalRequest iosignal' value) =
      if iosignal' = iosignal then some value else none := by
  have hvalue : (setIOSignalRequest iosignal' value).content.drop 7 = value := rfl
  unfold writtenValue
  rw [hvalue]
  by_cases h : iosignal' = iosignal
  · rw [if_pos h, if_pos (by rw [h])]
  · rw [if_neg h, if_neg fun hrequest => h (setIOSignalRequest_inj hrequest)]

theorem writtenValue_get (iosignal iosignal' : Text) :
    writtenValue iosignal (getIOSignalRequest iosignal') = none := by
  unfold writtenValue
  rw [if_neg]
  intro h
  cases congrArg RequestInfo.method h

/-- The latest command, the state that was read since, and whether the hand is calibrated as it was
read last. -/
structure HandWatch where
  command : Option Text := none
  sysState : Option Text := none
  calibrated : Option Text := none

namespace HandWatch

open SG

def commanded (w : HandWatch) (value : Text) : HandWatch :=
  { w with command := some value, sysState := none }

/-- What is allowed to be commanded.  A hand that was last read as "0" does not grip; any other reading
counts as calibrated, also the empty one of a request that failed. -/
structure Permits (w : HandWatch) (value : Text) : Prop where
  ready : value ≠ cmdGoToReady → w.command = some cmdGoToReady ∧ w.sysState = some stateReady
  calibrated : value = cmdGripinward ∨ value = cmdGripoutward → ∃ status ∈ w.calibrated, status ≠ low
  uncalibrated : value = cmdGoToCalibration → w.calibrated = some low

theorem Permits.goToReady (w : HandWatch) : w.Permits cmdGoToReady where
  ready h := absurd rfl h
  calibrated h := absurd h (by decide)
  uncalibrated h := absurd h (by decide)

/-- What an exchange may write: a command that is permitted, and a force and a speed within their
limits. -/
structure Allows (w : HandWatch) (e : RequestInfo × POCOResult) : Prop where
  command : ∀ value ∈ writtenValue sgCmdGripper e.1, w.Permits value
  holdForce : ∀ value ∈ writtenValue sgHandHoldforce e.1, ∃ force ≤ 200, value = Text.ofNat force
  maxSpeed : ∀ value ∈ writtenValue sgHandMaxspeed e.1, ∃ speed ≤ 250, value = Text.ofNat speed

variable (xmlParse : Text → Option XMLNode)

def step (w : HandWatch) (e : RequestInfo × POCOResult) : HandWatch :=
  match writtenValue sgCmdGripper e.1 with
  | some value => w.commanded value
  | none =>
      if e.1 = getIOSignalRequest sgSysState then
        { w with sysState := some (readIOSignal xmlParse e.2) }
      else if e.1 = getIOSignalRequest sgStatusCalibrated then
        { w with calibrated := some (readIOSignal xmlParse e.2) }
      else w

theorem step_command (w : HandWatch) (value : Text) (written : POCOResult) :
    w.step xmlParse (setIOSignalRequest sgCmdGripper value, written) = w.commanded value := by
  unfold step
  rw [writtenValue_set, if_pos rfl]

theorem step_set (w : HandWatch) {iosignal : Text} (h : iosignal ≠ sgCmdGripper) (value : Text)
    (written : POCOResult) : w.step xmlParse (setIOSignalRequest iosignal value, written) = w := by
  have hget (iosignal' : Text) : setIOSignalRequest iosignal value ≠ getIOSignalRequest iosignal' := by
    intro heq
    cases congrArg RequestInfo.method heq
  unfold step
  rw [writtenValue_set, if_neg h]
  simp only [if_neg (hget _)]

theorem getIOSignalRequest_inj {iosignal iosignal' : Text}
    (h : getIOSignalRequest iosignal = getIOSignalRequest iosignal') : iosignal = iosignal' :=
  List.append_cancel_left (congrArg RequestInfo.uri h)

theorem step_sysState (w : HandWatch) (read : POCOResult) :
    w.step xmlParse (getIOSignalRequest sgSysState, read) =
      { w with sysState := some (readIOSignal xmlParse read) } := by
  unfold step
  rw [writtenValue_get]
  exact if_pos rfl

theorem step_calibrated (w : HandWatch) (read : POCOResult) :
    w.step xmlParse (getIOSignalRequest sgStatusCalibrated, read) =
      { w with calibrated := some (readIOSignal xmlParse read) } := by
  have hne : getIOSignalRequest sgStatusCalibrated ≠ getIOSignalRequest sgSysState := by
    intro h
    exact absurd (getIOSignalRequest_inj h) (by decide)
  unfold step
  rw [writtenValue_get]
  exact (if_neg hne).trans (if_pos rfl)

theorem step_actualSpeed (w : HandWatch) (read : POCOResult) :
    w.step xmlParse (getIOSignalRequest sgActualSpeed, read) = w := by
  have hne : ∀ iosignal ∈ [sgSysState, sgStatusCalibrated],
      getIOSignalRequest sgActualSpeed ≠ getIOSignalRequest iosignal := by
    intro iosignal hmem h
    rw [← getIOSignalRequest_inj h] at hmem
    exact absurd hmem (by decide)
  unfold step
  rw [writtenValue_get]
  exact (if_neg (hne _ (by simp))).trans (if_neg (hne _ (by simp)))

theorem Allows.get (w : HandWatch) (iosignal : Text) (read : POCOResult) :
    w.Allows (getIOSignalRequest iosignal, read) := by
  refine ⟨?_, ?_, ?_⟩ <;>
  · intro value hvalue
    rw [writtenValue_get] at hvalue
    cases hvalue

theorem Permits.allows {w : HandWatch} {value : Text} (h : w.Permits value) (written : POCOResult) :
    w.Allows (setIOSignalRequest sgCmdGripper value, written) := by
  have hother : ∀ iosignal ∈ [sgHandHoldforce, sgHandMaxspeed],
      writtenValue iosignal (setIOSignalRequest sgCmdGripper value) = none := by
    intro iosignal hmem
    rw [writtenValue_set, if_neg]
    rintro rfl
    exact absurd hmem (by decide)
  refine ⟨fun value' hvalue => ?_, fun value' hvalue => ?_, fun value' hvalue => ?_⟩
  · rw [writtenValue_set, if_pos rfl] at hvalue
    rwa [← Option.some.inj hvalue]
  · rw [hother _ (by simp)] at hvalue
    cases hvalue
  · rw [hother _ (by simp)] at hvalue
    cases hvalue

theorem Allows.holdforce (w : HandWatch) {force : ℕ} (h : force ≤ 200) (written : POCOResult) :
    w.Allows (setIOSignalRequest sgHandHoldforce (Text.ofNat force), written) := by
  refine ⟨fun value hvalue => ?_, fun value hvalue => ?_, fun value hvalue => ?_⟩
  · rw [writtenValue_set, if_neg (by decide)] at hvalue
    cases hvalue
  · rw [writtenValue_set, if_pos rfl] at hvalue
    exact ⟨force, h, (Option.some.inj hvalue).symm⟩
  · rw [writtenValue_set, if_neg (by decide)] at hvalue
    cases hvalue

theorem Allows.maxspeed (w : HandWatch) {speed : ℕ} (h : speed ≤ 250) (written : POCOResult) :
    w.Allows (setIOSignalRequest sgHandMaxspeed (Text.ofNat speed), written) := by
  refine ⟨fun value hvalue => ?_, fun value hvalue => ?_, fun value hvalue => ?_⟩
  · rw [writtenValue_set, if_neg (by decide)] at hvalue
    cases hvalue
  · rw [writtenValue_set, if_neg (by decide)] at hvalue
    cases hvalue
  · rw [writtenValue_set, if_pos rfl] at hvalue
    exact ⟨speed, h, (Option.some.inj hvalue).symm⟩

/-! ### The calls -/

/-- A program is watched from `w`, and leaves the watch as `Q` says if it returns. -/
abbrev Watched {β : Type} (w : HandWatch) (p : HandProgram β) (Q : β → HandWatch → Prop) : Prop :=
  MonitoredOk (step xmlParse) Allows w p Q

section
variable {xmlParse}

theorem watched_setHandSignal {w w' : HandWatch} {iosignal value : Text}
    (hallows : ∀ written, w.Allows (setIOSignalRequest iosignal value, written))
    (hstep : ∀ written, w.step xmlParse (setIOSignalRequest iosignal value, written) = w') :
    Watched xmlParse w (setHandSignal xmlParse iosignal value) (fun _ w'' => w'' = w') := by
  refine MonitoredOk.bind (Q := fun _ w'' => w'' = w') (MonitoredOk.lift ?_) ?_
  · refine Monitored.request_bind fun written => ⟨hallows written, ?_⟩
    exact Monitored.pure (hstep written)
  · rintro result _ rfl
    exact MonitoredOk.pure rfl

theorem watched_command {w : HandWatch} {value : Text} (h : w.Permits value) :
    Watched xmlParse w (setHandSignal xmlParse sgCmdGripper value)
      (fun _ w' => w' = w.commanded value) :=
  watched_setHandSignal h.allows fun written => step_command xmlParse w value written

theorem watched_getIOSignal {w : HandWatch} {iosignal : Text} {f : Text → HandWatch}
    (hstep : ∀ read, w.step xmlParse (getIOSignalRequest iosignal, read) =
      f (readIOSignal xmlParse read)) :
    Watched xmlParse w (liftM (getIOSignal xmlParse iosignal)) (fun level w' => w' = f level) := by
  refine MonitoredOk.lift (Monitored.request_bind fun read => ⟨Allows.get w iosignal read, ?_⟩)
  exact Monitored.pure (hstep read)

theorem watched_calibrated (w : HandWatch) :
    Watched xmlParse w (liftM (getIOSignal xmlParse sgStatusCalibrated))
      (fun status w' => w' = { w with calibrated := some status }) :=
  watched_getIOSignal (f := fun status => { w with calibrated := some status })
    (step_calibrated xmlParse w)

theorem watched_waitForState (w : HandWatch) (state : Text) (fuel : ℕ) :
    Watched xmlParse w (waitForState xmlParse state fuel)
      (fun _ w' => w' = { w with sysState := some state }) := by
  induction fuel generalizing w with
  | zero => exact MonitoredOk.throw
  | succ fuel ih =>
      refine MonitoredOk.bind (watched_getIOSignal
        (f := fun sysState => { w with sysState := some sysState }) (step_sysState xmlParse w)) ?_
      rintro sysState _ rfl
      refine MonitoredOk.ite (fun hstate => ?_) fun _ => ih _
      rw [hstate]
      exact MonitoredOk.pure rfl

theorem watched_waitForStop (w : HandWatch) (fuel : ℕ) :
    Watched xmlParse w (waitForStop xmlParse fuel) (fun _ w' => w' = w) := by
  induction fuel with
  | zero => exact MonitoredOk.throw
  | succ fuel ih =>
      refine MonitoredOk.bind
        (watched_getIOSignal (f := fun _ => w) (step_actualSpeed xmlParse w)) ?_
      rintro actualSpeed _ rfl
      cases hspeed : actualSpeed.stoi with
      | none => exact MonitoredOk.throw
      | some speed => exact MonitoredOk.ite (fun _ => MonitoredOk.pure rfl) fun _ => ih

end

/-- In READY, whatever was commanded before. -/
def isReady (w : HandWatch) : HandWatch :=
  { w with command := some cmdGoToReady, sysState := some stateReady }

theorem watched_goToReady (w : HandWatch) (fuel : ℕ) {β : Type} {f : Unit → HandProgram β}
    {Q : β → HandWatch → Prop} (hf : Watched xmlParse w.isReady (f ()) Q) :
    Watched xmlParse w (setHandSignal xmlParse sgCmdGripper cmdGoToReady >>= fun _ =>
      waitForState xmlParse stateReady fuel >>= f) Q := by
  refine MonitoredOk.bind (watched_command (Permits.goToReady w)) ?_
  rintro _ _ rfl
  refine MonitoredOk.bind (watched_waitForState _ stateReady fuel) ?_
  rintro _ _ rfl
  exact hf

theorem watched_grip (w : HandWatch) {command : Text}
    (hcommand : command = cmdGripinward ∨ command = cmdGripoutward) (fuel : ℕ) :
    Watched xmlParse w (grip xmlParse command fuel) fun result w' =>
      if result then w'.command = some command ∧ w'.sysState = some stateKeepobj
      else w'.calibrated = some low := by
  refine MonitoredOk.bind (watched_calibrated w) ?_
  rintro status _ rfl
  refine MonitoredOk.ite (fun hlow => MonitoredOk.pure ?_) fun hstatus => ?_
  · rw [hlow]
    rfl
  · refine watched_goToReady xmlParse _ fuel ?_
    have hpermits : ({ w with calibrated := some status } : HandWatch).isReady.Permits command := by
      refine ⟨fun _ => ⟨rfl, rfl⟩, fun _ => ⟨status, rfl, hstatus⟩, fun hcalibration => ?_⟩
      rw [hcalibration] at hcommand
      exact absurd hcommand (by decide)
    refine MonitoredOk.bind (watched_command hpermits) ?_
    rintro _ _ rfl
    refine MonitoredOk.bind (watched_waitForState _ stateKeepobj fuel) ?_
    rintro _ _ rfl
    exact MonitoredOk.pure ⟨rfl, rfl⟩

theorem watched_jog (w : HandWatch) {command : Text}
    (hcommand : command = cmdClose ∨ command = cmdOpen) (fuel : ℕ) :
    Watched xmlParse w (jog xmlParse command fuel) fun result w' =>
      result = true ∧ w'.command = some cmdGoToReady := by
  refine watched_goToReady xmlParse _ fuel ?_
  have hpermits : w.isReady.Permits command := by
    refine ⟨fun _ => ⟨rfl, rfl⟩, fun hgrip => ?_, fun hcalibration => ?_⟩
    · rcases hcommand with rfl | rfl <;> exact absurd hgrip (by decide)
    · rcases hcommand with rfl | rfl <;> exact absurd hcalibration (by decide)
  refine MonitoredOk.bind (watched_command hpermits) ?_
  rintro _ _ rfl
  refine MonitoredOk.bind (watched_waitForStop _ fuel) ?_
  rintro _ _ rfl
  refine watched_goToReady xmlParse _ fuel ?_
  refine MonitoredOk.bind (watched_command (Permits.goToReady _)) ?_
  rintro _ _ rfl
  exact MonitoredOk.pure ⟨rfl, rfl⟩

theorem watched_calibrate (w : HandWatch) (maxForce maxSpeed fuel : ℕ) :
    Watched xmlParse w (calibrate xmlParse maxForce maxSpeed fuel) fun result w' =>
      if result then w'.command = some cmdGoToReady else ∃ status ∈ w'.calibrated, status ≠ low := by
  have hforce : (if 200 < maxForce then 200 else maxForce) ≤ 200 := by
    split <;> omega
  have hspeed : (if 250 < maxSpeed then 250 else maxSpeed) ≤ 250 := by
    split <;> omega
  refine MonitoredOk.bind (watched_setHandSignal (Allows.holdforce w hforce)
    fun written => step_set xmlParse w (by decide) _ written) ?_
  rintro _ _ rfl
  refine MonitoredOk.bind (watched_setHandSignal (Allows.maxspeed _ hspeed)
    fun written => step_set xmlParse _ (by decide) _ written) ?_
  rintro _ _ rfl
  refine MonitoredOk.bind (watched_calibrated _) ?_
  rintro status _ rfl
  refine MonitoredOk.ite (fun hstatus => MonitoredOk.pure ⟨status, rfl, hstatus⟩) fun hlow => ?_
  refine watched_goToReady xmlParse _ fuel ?_
  have hpermits (w : HandWatch) :
      ({ w with calibrated := some status } : HandWatch).isReady.Permits cmdGoToCalibration := by
    refine ⟨fun _ => ⟨rfl, rfl⟩, fun hgrip => absurd hgrip (by decide), fun _ => ?_⟩
    exact congrArg some (not_not.mp hlow)
  refine MonitoredOk.bind (watched_command (hpermits _)) ?_
  rintro _ _ rfl
  refine MonitoredOk.bind (watched_waitForState _ stateActionCompleted fuel) ?_
  rintro _ _ rfl
  refine MonitoredOk.bind (watched_command (Permits.goToReady _)) ?_
  rintro _ _ rfl
  exact MonitoredOk.pure rfl

/-- What is known of the hand when a call returns. -/
def Ended (w : HandWatch) : HandCall × Bool → Prop
  | (.gripIn, result) =>
      if result then w.command = some cmdGripinward ∧ w.sysState = some stateKeepobj
      else w.calibrated = some low
  | (.gripOut, result) =>
      if result then w.command = some cmdGripoutward ∧ w.sysState = some stateKeepobj
      else w.calibrated = some low
  | (.jogIn, result) | (.jogOut, result) => result = true ∧ w.command = some cmdGoToReady
  | (.calibrate _ _, result) =>
      if result then w.command = some cmdGoToReady else ∃ status ∈ w.calibrated, status ≠ low

theorem watched_exec (w : HandWatch) (call : HandCall) (fuel : ℕ) :
    Watched xmlParse w (call.exec xmlParse fuel) fun result w' => w'.Ended (call, result) := by
  cases call with
  | gripIn => exact watched_grip xmlParse w (.inl rfl) fuel
  | gripOut => exact watched_grip xmlParse w (.inr rfl) fuel
  | jogIn => exact watched_jog xmlParse w (.inl rfl) fuel
  | jogOut => exact watched_jog xmlParse w (.inr rfl) fuel
  | calibrate maxForce maxSpeed => exact watched_calibrate xmlParse w maxForce maxSpeed fuel

/-- The calls that were made from `w` on. -/
structure Made (w : HandWatch) (calls : List HandCall) (results : Record) (w' : HandWatch) : Prop where
  calls : results.map Prod.fst = calls
  ended : ∀ call ∈ results.getLast?, w'.Ended call
  unchanged : results = [] → w' = w

theorem Made.nil (w : HandWatch) : w.Made [] [] w where
  calls := rfl
  ended _ h := by cases h
  unchanged _ := rfl

theorem Made.append {w w' w'' : HandWatch} {calls calls' : List HandCall} {results results' : Record}
    (h : w.Made calls results w') (h' : w'.Made calls' results' w'') :
    w.Made (calls ++ calls') (results ++ results') w'' where
  calls := by rw [List.map_append, h.calls, h'.calls]
  ended call hcall := by
    cases hlast : results'.getLast? with
    | some last =>
        rw [List.getLast?_append, hlast] at hcall
        exact h'.ended call (hlast ▸ hcall)
    | none =>
        rw [List.getLast?_append, hlast] at hcall
        rw [h'.unchanged (List.getLast?_eq_none_iff.mp hlast)]
        exact h.ended call hcall
  unchanged hnil := by
    obtain ⟨hresults, hresults'⟩ := List.append_eq_nil_iff.mp hnil
    rw [h'.unchanged hresults', h.unchanged hresults]

theorem watched_record (w : HandWatch) (call : HandCall) (fuel : ℕ) :
    Watched xmlParse w (record xmlParse fuel call) (w.Made [call]) := by
  refine MonitoredOk.bind (watched_exec xmlParse w call fuel) fun result w' hended => ?_
  refine MonitoredOk.pure ⟨rfl, fun last hlast => ?_, fun hnil => by cases hnil⟩
  rw [← Option.some.inj hlast]
  exact hended

/-- **Whatever calls are made, only what is allowed is commanded.** -/
theorem watched_recordAll (w : HandWatch) (calls : List HandCall) (fuel : ℕ) :
    Watched xmlParse w (recordAll xmlParse fuel calls) (w.Made calls) := by
  induction calls generalizing w with
  | nil => exact MonitoredOk.pure (Made.nil w)
  | cons call calls ih =>
      refine MonitoredOk.bind (watched_record xmlParse w call fuel) fun results w' hmade => ?_
      refine MonitoredOk.bind (ih w') fun results' w'' hmade' => ?_
      exact MonitoredOk.pure (hmade.append hmade')

end HandWatch

namespace GripperNode

open SG HandWatch

/-- What is asked for at the beginning of each round. -/
def requested : Bool → List (List Bool) → List Bool
  | _, [] => []
  | data, requests :: rounds => data :: requested (requests.getLastD data) rounds

/-- A grip for each change, of which the first is one from `old`. -/
def grips (old : Bool) (data : List Bool) : List HandCall :=
  (data.destutter' (· ≠ ·) old).tail.map fun data => if data then .gripIn else .gripOut

theorem destutter'_eq_cons {β : Type} {R : β → β → Prop} [DecidableRel R] (b : β) (l : List β) :
    l.destutter' R b = b :: (l.destutter' R b).tail := by
  induction l with
  | nil => rfl
  | cons c l ih =>
      by_cases h : R b c
      · rw [List.destutter'_cons_pos _ h]
        rfl
      · rw [List.destutter'_cons_neg _ h]
        exact ih

theorem grips_cons (old cmd : Bool) (data : List Bool) :
    grips old (cmd :: data) =
      (if cmd ≠ old then [if cmd then .gripIn else .gripOut] else []) ++ grips cmd data := by
  unfold grips
  by_cases h : cmd = old
  · rw [if_neg (not_not.mpr h), List.destutter'_cons_neg _ (not_not.mpr h.symm), h]
    rfl
  · rw [if_pos h, List.destutter'_cons_pos _ (Ne.symm h), List.tail_cons, destutter'_eq_cons]
    rfl

theorem foldl_callbackGripper (node : GripperNode) (requests : List Bool) :
    requests.foldl callbackGripper node =
      { node with gripperCmd := requests.getLastD node.gripperCmd } := by
  induction requests generalizing node with
  | nil => rfl
  | cons data requests ih =>
      rw [List.foldl_cons, ih, List.getLastD_cons]
      rfl

variable (xmlParse : Text → Option XMLNode)

theorem watched_round (w : HandWatch) (node : GripperNode) (requests : List Bool) (fuel : ℕ) :
    Watched xmlParse w (round xmlParse fuel node requests) fun result w' =>
      result.1 = ⟨requests.getLastD node.gripperCmd, node.gripperCmd⟩ ∧
        w.Made (if node.gripperCmd ≠ node.oldGripperCmd then
          [if node.gripperCmd then .gripIn else .gripOut] else []) result.2 w' := by
  refine MonitoredOk.ite (fun hne => ?_) fun heq => ?_
  · refine MonitoredOk.bind (watched_record xmlParse w _ fuel) fun results w' hmade => ?_
    refine MonitoredOk.pure ⟨foldl_callbackGripper _ _, ?_⟩
    rw [if_pos hne]
    exact hmade
  · refine MonitoredOk.pure ⟨?_, ?_⟩
    · rw [foldl_callbackGripper, not_not.mp heq]
    · rw [if_neg heq]
      exact Made.nil w

theorem watched_loop (w : HandWatch) (node : GripperNode) (rounds : List (List Bool)) (fuel : ℕ) :
    Watched xmlParse w (loop xmlParse fuel node rounds)
      (w.Made (grips node.oldGripperCmd (requested node.gripperCmd rounds))) := by
  induction rounds generalizing w node with
  | nil => exact MonitoredOk.pure (Made.nil w)
  | cons requests rounds ih =>
      rw [requested, grips_cons]
      refine MonitoredOk.bind (watched_round xmlParse w node requests fuel) ?_
      rintro ⟨node', results⟩ w' ⟨rfl, hmade⟩
      refine MonitoredOk.bind (ih w' _) fun results' w'' hmade' => ?_
      exact MonitoredOk.pure (hmade.append hmade')

/-- **The node grips at the changes of what it is asked for**, after it has jogged and calibrated, and
only what is allowed is commanded. -/
theorem gripperNode_run (rounds : List (List Bool)) (fuel : ℕ) :
    Watched xmlParse {} (main xmlParse fuel rounds) (HandWatch.Made {}
      ([.jogOut, .jogIn, .calibrate 200 250] ++ grips false (requested false rounds))) := by
  refine MonitoredOk.bind (watched_recordAll xmlParse {} _ fuel) fun results w hmade => ?_
  refine MonitoredOk.bind (watched_loop xmlParse w {} rounds fuel) fun results' w' hmade' => ?_
  exact MonitoredOk.pure (hmade.append hmade')

end GripperNode

end AbbWrapper
