import AbbWrapper.CommandArrays
import AbbWrapper.Monitors

/-! # Switching between the controllers

`main` of the ABB interface: a loop that switches the robot between joint commands, pose commands and
lead-through, at the requests of a service, and a shutdown after it.  The node talks to the robot
controller over Robot Web Services, and to the controller bridge, another process, over a service of its
own.  It looks at the outcome of one of its calls only, that which reads the settings.

`Modes` has what the calls of the node switch.  It is used in two ways:

* `run Modes.step {} exchanged` is what was commanded, whether or not it came off;
* `CanLeave {} exchanged robot` says that the robot can be in the modes `robot` after that: a call that
  came off has its effect, one that did not has it or has none.

Over any requests, and whatever fails: an action is sent only after the commands that it presupposes,
mastership is asked for and given back, and an EGM session is stopped by its own signal before one of
another kind is started, a second at least before.  The robot is as commanded wherever all calls came
off, and the node leaves it at rest in all that the calls of the shutdown came off for
(`InterfaceNode.mode_sessions`).  If the bridge gets every request to stop that the loop sends it, then
it commands the robot only in a session that was started for it, however its rounds interleave with the
loop, and no session is switched under it; the shutdown stops the session, but not the bridge
(`mode_bridge`). -/

namespace AbbWrapper

open Exchanges Runs

/-! ### The interface node -/

/-- The sessions that signals start. -/
inductive EGMSession where
  | joint
  | pose
  | stream
deriving DecidableEq, Repr

/-- The signals that the loop pulses. -/
inductive EGMSignal where
  /-- `EGM_START_JOINT`, `EGM_START_POSE` and `EGM_START_STREAM`. -/
  | start (session : EGMSession)
  /-- `EGM_STOP`. -/
  | stop
  /-- `EGM_STOP_STREAM`. -/
  | stopStream
deriving DecidableEq, Repr

/-- What the interface does, apart from what it computes. -/
inductive InterfaceAction where
  | stopRAPIDExecution
  | startRAPIDExecution
  | resetRAPIDProgramPointer
  | requestMasterShip
  | releaseMasterShip
  | getSettings
  | setSettings
  | setLeadThroughOn (mechUnit : Text)
  | setLeadThroughOff (mechUnit : Text)
  /-- `length` is the time for which the signal is high. -/
  | pulseIOSignal (signal : EGMSignal) (length : ℕ)
  | usleep (microseconds : ℕ)
  | callInvKin
  | callBridgeCom (controller : ℤ) (start : Bool)
deriving DecidableEq, Repr

/-- The answer says whether the action came off; of a call to another node, whether it reached its
server. -/
abbrev InterfaceProgram (β : Type) := Program InterfaceAction Bool β

/-- The variables `state_` and `previous_state_`: the mode that is requested, and the last one that was
switched to. -/
structure InterfaceNode where
  state : ℤ
  previousState : ℤ
deriving DecidableEq, Repr

namespace InterfaceNode

/-- Actions whose results are not used. -/
def performAll : List InterfaceAction → InterfaceProgram Unit
  | [] => pure ()
  | action :: actions => do
      let _ ← Program.request action
      performAll actions

/-- Requests a controller.  The `int64` of the request is cut to an `int`. -/
def callbackController (node : InterfaceNode) (controller : ℤ) : InterfaceProgram InterfaceNode := do
  let state := controller.bmod (2 ^ 32)
  performAll (if state = 0 then [.callInvKin] else [])
  performAll [.callBridgeCom state false]
  pure { node with state := state }

variable (nameRobot : Text)

/-- What leaves the lead-through, before joint commands. -/
def leaveStreamToJoint : List InterfaceAction :=
  [.requestMasterShip, .usleep 250000, .startRAPIDExecution, .usleep 250000,
    .setLeadThroughOff nameRobot, .usleep 250000, .pulseIOSignal .stopStream 500000, .usleep 250000,
    .releaseMasterShip]

/-- The same before pose commands, without the pauses. -/
def leaveStreamToPose : List InterfaceAction :=
  [.requestMasterShip, .startRAPIDExecution, .setLeadThroughOff nameRobot,
    .pulseIOSignal .stopStream 500000, .releaseMasterShip]

/-- `case 0`. -/
def switchToJoint (previousState : ℤ) : List InterfaceAction :=
  (if previousState = 1 then [.pulseIOSignal .stop 500000]
    else if previousState = 2 then leaveStreamToJoint nameRobot
    else []) ++
  [.usleep 1000000, .pulseIOSignal (.start .joint) 500000, .callBridgeCom 0 true]

/-- `case 1`. -/
def switchToPose (previousState : ℤ) : List InterfaceAction :=
  (if previousState = 0 then [.pulseIOSignal .stop 500000]
    else if previousState = 2 then leaveStreamToPose nameRobot
    else []) ++
  [.usleep 1000000, .pulseIOSignal (.start .pose) 500000, .callBridgeCom 1 true]

/-- `case 2`. -/
def switchToLeadThrough : List InterfaceAction :=
  [.pulseIOSignal .stop 500000, .usleep 1000000, .pulseIOSignal (.start .stream) 500000,
    .usleep 1000000, .requestMasterShip, .setLeadThroughOn nameRobot, .stopRAPIDExecution,
    .releaseMasterShip]

/-- The `switch` of the loop: a mode that was switched to is the previous state afterwards, and the
state is one without a case. -/
def switchMode (node : InterfaceNode) : InterfaceProgram InterfaceNode :=
  let switched : InterfaceNode := { state := 100, previousState := node.state }
  if node.state = 0 then do
    performAll (switchToJoint nameRobot node.previousState)
    pure switched
  else if node.state = 1 then do
    performAll (switchToPose nameRobot node.previousState)
    pure switched
  else if node.state = 2 then do
    performAll (switchToLeadThrough nameRobot)
    pure switched
  else pure node

/-- A round of the loop: `spinOnce` serves the requests that have come. -/
def round (node : InterfaceNode) (controllers : List ℤ) : InterfaceProgram InterfaceNode := do
  let node ← switchMode nameRobot node
  controllers.foldlM callbackController node

def setup : InterfaceProgram InterfaceNode := do
  performAll [.stopRAPIDExecution, .usleep 250000, .requestMasterShip, .usleep 250000,
    .resetRAPIDProgramPointer, .usleep 250000, .releaseMasterShip, .usleep 250000,
    .startRAPIDExecution, .usleep 250000]
  let settings ← Program.request .getSettings
  performAll (if settings then [.requestMasterShip, .setSettings, .releaseMasterShip] else [])
  performAll [.usleep 250000]
  pure { state := 0, previousState := -1 }

/-- All rounds of the loop, after the preparations. -/
def loop (rounds : List (List ℤ)) : InterfaceProgram InterfaceNode := do
  let node ← setup
  rounds.foldlM (round nameRobot) node

def shutdown : List InterfaceAction :=
  [.requestMasterShip, .setLeadThroughOff nameRobot, .pulseIOSignal .stop 500000, .releaseMasterShip,
    .usleep 500000, .stopRAPIDExecution]

def main (rounds : List (List ℤ)) : InterfaceProgram Unit := do
  let _ ← loop nameRobot rounds
  performAll (shutdown nameRobot)

end InterfaceNode

/-! ### What the calls switch -/

/-- The modes of the robot and of the bridge, as the node finds them.  `idle` is the time in which the
node slept since a session was stopped, and `lost` says that a request to stop has not reached the
bridge. -/
structure Modes where
  mastership : Bool := false
  rapid : Bool := true
  leadThrough : Bool := false
  session : Option EGMSession := none
  idle : ℕ := 0
  bridge : ℤ := 2
  lost : Bool := false
deriving DecidableEq, Repr

namespace Modes

/-- A session that commands the robot is stopped by one signal, a stream by the other. -/
def pulse (c : Modes) : EGMSignal → Modes
  | .start session => { c with session := some session }
  | .stop => { c with session := c.session.filter (· = .stream), idle := 0 }
  | .stopStream => { c with session := c.session.filter (· ≠ .stream), idle := 0 }

/-- `callback_bridge_com`, of the mode of the bridge. -/
def bridgeCom (c : Modes) (controller : ℤ) (start reached : Bool) : Modes :=
  if reached then { c with bridge := if start then controller.bmod (2 ^ 32) else 2 }
  else if start then c else { c with lost := true }

/-- What the action brings about.  Only of a call to the bridge it depends on the outcome. -/
def step (c : Modes) : InterfaceAction × Bool → Modes
  | (.stopRAPIDExecution, _) => { c with rapid := false }
  | (.startRAPIDExecution, _) => { c with rapid := true }
  | (.requestMasterShip, _) => { c with mastership := true }
  | (.releaseMasterShip, _) => { c with mastership := false }
  | (.setLeadThroughOn _, _) => { c with leadThrough := true }
  | (.setLeadThroughOff _, _) => { c with leadThrough := false }
  | (.pulseIOSignal signal _, _) => c.pulse signal
  | (.usleep microseconds, _) => { c with idle := c.idle + microseconds }
  | (.callBridgeCom controller start, reached) => c.bridgeCom controller start reached
  | _ => c

/-- The controller for which the session was started, with the robot ready for its commands. -/
@[mk_iff] structure Serves (c : Modes) (controller : ℤ) : Prop where
  session : controller = 0 ∧ c.session = some .joint ∨ controller = 1 ∧ c.session = some .pose
  rapid : c.rapid = true
  leadThrough : c.leadThrough = false

/-- What `Serves` reads. -/
def motion (c : Modes) : Option EGMSession × Bool × Bool := (c.session, c.rapid, c.leadThrough)

theorem Serves.of_motion {c c' : Modes} {controller : ℤ} (h : c.Serves controller)
    (hmotion : c'.motion = c.motion) : c'.Serves controller := by
  obtain ⟨hsession, hrapid, hleadThrough⟩ := h
  simp only [motion, Prod.mk.injEq] at hmotion
  obtain ⟨hsession', hrapid', hleadThrough'⟩ := hmotion
  rw [← hsession'] at hsession
  exact ⟨hsession, hrapid'.trans hrapid, hleadThrough'.trans hleadThrough⟩

/-- What an action presupposes. -/
def Admits (c : Modes) : InterfaceAction → Prop
  | .requestMasterShip => c.mastership = false
  | .releaseMasterShip => c.mastership = true
  | .resetRAPIDProgramPointer => c.mastership = true
  | .setSettings => c.mastership = true
  | .setLeadThroughOn _ => c.mastership = true
  | .setLeadThroughOff _ => c.mastership = true
  | .pulseIOSignal (.start session) _ => (∀ s ∈ c.session, s = session) ∧ 1000000 ≤ c.idle
  | .callBridgeCom controller true => c.Serves controller ∧ c.mastership = false
  | _ => True

/-- The actions that switch a session, or whether the robot follows its commands. -/
def Switches : InterfaceAction → Prop
  | .pulseIOSignal .. => True
  | .setLeadThroughOn _ => True
  | .setLeadThroughOff _ => True
  | .stopRAPIDExecution => True
  | .startRAPIDExecution => True
  | _ => False

/-- The bridge commands the robot only in a session that was started for it, and no session is switched
under it, as long as no request to stop is lost. -/
def Coherent (c : Modes) (action : InterfaceAction) : Prop :=
  c.lost = false → (c.bridge ≠ 2 → c.Serves c.bridge) ∧ (Switches action → c.bridge = 2)

end Modes

/-! ### What the robot does of it -/

section robot

/-- Of an action that did not come off nothing is known. -/
def Failed (e : InterfaceAction × Bool) : Prop := e.2 = false

/-- The exchange can leave a robot in the modes `robot` that was in the modes `start` before. -/
def CanLeave (start : Modes) (exchanged : List (InterfaceAction × Bool)) (robot : Modes) : Prop :=
  Outcome Modes.step Failed start exchanged robot

/-- The actions that ask for mastership and give it back. -/
def Claims : InterfaceAction → Prop
  | .requestMasterShip => True
  | .releaseMasterShip => True
  | _ => False

/-- All of these actions came off. -/
def CameOff (actions : InterfaceAction → Prop) (exchanged : List (InterfaceAction × Bool)) : Prop :=
  ∀ e ∈ exchanged, actions e.1 → e.2 = true

/-- The robot is as commanded, in what was never commanded in vain. -/
structure AsCommanded (exchanged : List (InterfaceAction × Bool)) (robot : Modes) : Prop where
  mastership : CameOff Claims exchanged →
    robot.mastership = (run Modes.step {} exchanged).mastership
  motion : CameOff Modes.Switches exchanged → robot.motion = (run Modes.step {} exchanged).motion

namespace CanLeave

variable {start robot : Modes} {exchanged : List (InterfaceAction × Bool)}

/-- What only `actions` switch is as commanded, if these came off. -/
theorem agree {β : Type} {f : Modes → β} {actions : InterfaceAction → Prop}
    (h : CanLeave start exchanged robot)
    (hstep : ∀ c c' e, f c = f c' → f (c.step e) = f (c'.step e))
    (hkept : ∀ c e, ¬actions e.1 → f (c.step e) = f c) (hoff : CameOff actions exchanged) :
    f robot = f (run Modes.step start exchanged) := by
  refine Outcome.agree h hstep (fun c e he hfailed => hkept c e fun haction => ?_) rfl
  have hcame := hoff e he haction
  rw [hfailed] at hcame
  cases hcame

/-- What an action that came off brings about, and none after it undoes. -/
theorem brings (I : Modes → Prop) {before after : List (InterfaceAction × Bool)}
    {action : InterfaceAction} (h : CanLeave start (before ++ (action, true) :: after) robot)
    (hset : ∀ c : Modes, I (c.step (action, true)))
    (hkept : ∀ c : Modes, ∀ e ∈ after, I c → I (c.step e)) : I robot :=
  Outcome.last h nofun hset hkept

theorem asCommanded (h : CanLeave {} exchanged robot) : AsCommanded exchanged robot where
  mastership := by
    refine h.agree ?_ ?_
    · rintro c c' ⟨action, ok⟩ hmastership
      cases action with
      | requestMasterShip => rfl
      | releaseMasterShip => rfl
      | pulseIOSignal signal length => cases signal <;> exact hmastership
      | callBridgeCom controller start => cases ok <;> cases start <;> exact hmastership
      | _ => exact hmastership
    · rintro c ⟨action, ok⟩ hclaims
      cases action with
      | requestMasterShip => exact absurd trivial hclaims
      | releaseMasterShip => exact absurd trivial hclaims
      | pulseIOSignal signal length => cases signal <;> rfl
      | callBridgeCom controller start => cases ok <;> cases start <;> rfl
      | _ => rfl
  motion := by
    refine h.agree ?_ ?_
    · rintro ⟨⟩ ⟨⟩ ⟨action, ok⟩ hmotion
      cases hmotion
      cases action with
      | pulseIOSignal signal length => cases signal <;> rfl
      | callBridgeCom controller start => cases ok <;> cases start <;> rfl
      | _ => rfl
    · rintro c ⟨action, ok⟩ hswitches
      cases action with
      | callBridgeCom controller start => cases ok <;> cases start <;> rfl
      | requestMasterShip => rfl
      | releaseMasterShip => rfl
      | resetRAPIDProgramPointer => rfl
      | getSettings => rfl
      | setSettings => rfl
      | usleep microseconds => rfl
      | callInvKin => rfl
      | _ => exact absurd trivial hswitches

end CanLeave

end robot

/-! ### What every action finds -/

namespace InterfaceNode

/-- What is required of an action, in the state in which it is done. -/
def Sound (c : Modes) (e : InterfaceAction × Bool) : Prop := c.Admits e.1 ∧ c.Coherent e.1

/-- Each of the actions finds what is required of it, whatever comes off, and `Q` holds after them. -/
def Performs (P : Modes → InterfaceAction × Bool → Prop) (Q : Modes → Prop) :
    Modes → List InterfaceAction → Prop
  | c, [] => Q c
  | c, action :: actions => ∀ ok, P c (action, ok) ∧ Performs P Q (c.step (action, ok)) actions

theorem performAll_monitored {P : Modes → InterfaceAction × Bool → Prop} {Q : Modes → Prop}
    {c : Modes} {actions : List InterfaceAction} (h : Performs P Q c actions) :
    Monitored Modes.step P c (performAll actions) (fun _ => Q) := by
  induction actions generalizing c with
  | nil => exact .pure h
  | cons action actions ih =>
      unfold performAll
      apply Monitored.request_bind
      intro ok
      exact ⟨(h ok).1, ih (h ok).2⟩

/-- Between two actions of the loop that belong to different modes. -/
@[mk_iff] structure Settled (node : InterfaceNode) (c : Modes) : Prop where
  mastership : c.mastership = false
  mode : node.previousState = -1 ∧ c.session = none ∧ c.rapid = true ∧ c.leadThrough = false ∨
    node.previousState = 0 ∧ c.session = some .joint ∧ c.rapid = true ∧ c.leadThrough = false ∨
    node.previousState = 1 ∧ c.session = some .pose ∧ c.rapid = true ∧ c.leadThrough = false ∨
    node.previousState = 2 ∧ c.session = some .stream
  bridge : c.lost = false → c.bridge = 2 ∨ c.bridge = node.previousState ∧
    (c.bridge = 0 ∨ c.bridge = 1) ∧ node.state ≠ 0 ∧ node.state ≠ 1 ∧ node.state ≠ 2

variable {nameRobot : Text}

variable (nameRobot) in
/-- A session that runs is stopped first, while the bridge only reads. -/
theorem switch_performs {node : InterfaceNode} {c : Modes} (h : Settled node c)
    (hreads : c.lost = false → c.bridge = 2) :
    Performs Sound (Settled { state := 100, previousState := 0 }) c
        (switchToJoint nameRobot node.previousState) ∧
      Performs Sound (Settled { state := 100, previousState := 1 }) c
        (switchToPose nameRobot node.previousState) ∧
      Performs Sound (Settled { state := 100, previousState := 2 }) c (switchToLeadThrough nameRobot) := by
  obtain ⟨hmastership, hmode, -⟩ := h
  obtain ⟨mastership, rapid, leadThrough, session, idle, bridge, lost⟩ := c
  simp only at hmastership hmode hreads
  subst hmastership
  have hlost : lost = true ∨ lost = false ∧ bridge = 2 := by
    cases lost with
    | true => exact .inl rfl
    | false => exact .inr ⟨rfl, hreads rfl⟩
  rcases hlost with rfl | ⟨rfl, rfl⟩ <;>
    rcases hmode with ⟨hprev, rfl, rfl, rfl⟩ | ⟨hprev, rfl, rfl, rfl⟩ | ⟨hprev, rfl, rfl, rfl⟩ |
      ⟨hprev, rfl⟩ <;>
    simp [hprev, switchToJoint, switchToPose, switchToLeadThrough, leaveStreamToJoint,
      leaveStreamToPose, Performs, Sound, Modes.step, Modes.pulse, Modes.bridgeCom,
      Modes.Admits, Modes.Coherent, Modes.Switches, Modes.serves_iff, settled_iff]

theorem switchMode_settled {node : InterfaceNode} {c : Modes} (h : Settled node c) :
    Monitored Modes.step Sound c (switchMode nameRobot node) Settled := by
  have hreads (hcase : node.state = 0 ∨ node.state = 1 ∨ node.state = 2) :
      c.lost = false → c.bridge = 2 := by
    intro hlost
    rcases h.bridge hlost with hbridge | ⟨-, -, h0, h1, h2⟩
    · exact hbridge
    · rcases hcase with hcase | hcase | hcase <;> contradiction
  have hswitch {actions : List InterfaceAction} {node' : InterfaceNode}
      (hactions : Performs Sound (Settled node') c actions) :
      Monitored Modes.step Sound c (performAll actions >>= fun _ => pure node') Settled :=
    Monitored.bind (performAll_monitored hactions) fun _ _ h' => .pure h'
  unfold switchMode
  refine Monitored.ite (fun h0 => ?_) fun _ => Monitored.ite (fun h1 => ?_) fun _ =>
    Monitored.ite (fun h2 => ?_) fun _ => .pure h
  · have hjoint := (switch_performs nameRobot h (hreads (.inl h0))).1
    rw [h0]
    exact hswitch hjoint
  · have hpose := (switch_performs nameRobot h (hreads (.inr (.inl h1)))).2.1
    rw [h1]
    exact hswitch hpose
  · have hstream := (switch_performs nameRobot h (hreads (.inr (.inr h2)))).2.2
    rw [h2]
    exact hswitch hstream

theorem Settled.serves {node : InterfaceNode} {c : Modes} (h : Settled node c)
    (hlost : c.lost = false) (hbridge : c.bridge ≠ 2) : c.Serves c.bridge := by
  obtain ⟨-, hmode, hcoherent⟩ := h
  rcases hcoherent hlost with h2 | ⟨hprev, h01, -⟩
  · exact absurd h2 hbridge
  rw [← hprev] at hmode
  rcases hmode with ⟨h, -⟩ | ⟨h, hsession, hrapid, hleadThrough⟩ |
    ⟨h, hsession, hrapid, hleadThrough⟩ | ⟨h, -⟩
  · omega
  · exact ⟨.inl ⟨h, hsession⟩, hrapid, hleadThrough⟩
  · exact ⟨.inr ⟨h, hsession⟩, hrapid, hleadThrough⟩
  · omega

/-- A request stops the bridge, so that the next round may switch. -/
theorem callbackController_settled {node : InterfaceNode} {c : Modes} (h : Settled node c)
    (controller : ℤ) :
    Monitored Modes.step Sound c (callbackController node controller) Settled := by
  have hcoherent (action : InterfaceAction) (haction : ¬Modes.Switches action) :
      c.Coherent action :=
    fun hlost => ⟨h.serves hlost, fun hswitches => absurd hswitches haction⟩
  have hinvKin : Performs Sound (fun c' => c = c') c
      (if controller.bmod (2 ^ 32) = 0 then [.callInvKin] else []) := by
    split
    · exact fun ok => ⟨⟨trivial, hcoherent _ id⟩, rfl⟩
    · rfl
  unfold callbackController
  refine Monitored.bind (performAll_monitored hinvKin) ?_
  rintro _ _ rfl
  have hstop : Performs Sound (Settled { node with state := controller.bmod (2 ^ 32) }) c
      [.callBridgeCom (controller.bmod (2 ^ 32)) false] := by
    intro reached
    refine ⟨⟨trivial, hcoherent _ id⟩, ?_⟩
    cases reached with
    | true => exact ⟨h.mastership, h.mode, fun _ => .inl rfl⟩
    | false => exact ⟨h.mastership, h.mode, nofun⟩
  exact Monitored.bind (performAll_monitored hstop) fun _ _ h' => .pure h'

theorem round_settled {node : InterfaceNode} {c : Modes} (h : Settled node c)
    (controllers : List ℤ) :
    Monitored Modes.step Sound c (round nameRobot node controllers) Settled := by
  refine Monitored.bind (switchMode_settled h) fun node' c' h' => ?_
  exact Monitored.foldlM controllers
    (fun node controller _ c h => callbackController_settled h controller) h'

theorem setup_settled : Monitored Modes.step Sound {} setup Settled := by
  have hstart : Performs Sound (fun c => c.mastership = false ∧ c.rapid = true ∧ c.leadThrough = false ∧
      c.session = none ∧ c.bridge = 2) {}
      [.stopRAPIDExecution, .usleep 250000, .requestMasterShip, .usleep 250000,
        .resetRAPIDProgramPointer, .usleep 250000, .releaseMasterShip, .usleep 250000,
        .startRAPIDExecution, .usleep 250000] := by
    simp [Performs, Sound, Modes.step, Modes.Admits, Modes.Coherent]
  refine Monitored.bind (performAll_monitored hstart) ?_
  rintro _ ⟨mastership, rapid, leadThrough, session, idle, bridge, lost⟩ ⟨rfl, rfl, rfl, rfl, rfl⟩
  apply Monitored.request_bind
  intro settings
  refine ⟨⟨trivial, ?_⟩, ?_⟩
  · exact fun _ => ⟨fun h => absurd rfl h, fun _ => rfl⟩
  · have hsettings : Performs Sound (Settled { state := 0, previousState := -1 })
        { idle := idle, lost := lost }
        (if settings then [.requestMasterShip, .setSettings, .releaseMasterShip] else []) := by
      cases settings with
      | true => simp [Performs, Sound, Modes.step, Modes.Admits, Modes.Coherent,
          Modes.Switches, settled_iff]
      | false => simp [Performs, settled_iff]
    refine Monitored.bind (performAll_monitored hsettings) fun _ c hc => ?_
    have hsleep : Performs Sound (Settled { state := 0, previousState := -1 }) c [.usleep 250000] :=
      fun _ => ⟨⟨trivial, fun hlost => ⟨hc.serves hlost, False.elim⟩⟩, hc.mastership, hc.mode, hc.bridge⟩
    exact Monitored.bind (performAll_monitored hsleep) fun _ _ h => .pure h

theorem loop_settled (rounds : List (List ℤ)) :
    Monitored Modes.step Sound {} (loop nameRobot rounds) Settled := by
  refine Monitored.bind setup_settled fun node c h => ?_
  exact Monitored.foldlM rounds (fun node controllers _ c h => round_settled h controllers) h

/-- Of every state that the loop goes through. -/
theorem prefix_serves {node : InterfaceNode} {c : Modes}
    {before after : List (InterfaceAction × Bool)}
    (halong : Along Modes.step Sound c (before ++ after))
    (hsettled : Settled node (run Modes.step c (before ++ after)))
    (hlost : (run Modes.step c before).lost = false)
    (hbridge : (run Modes.step c before).bridge ≠ 2) :
    (run Modes.step c before).Serves (run Modes.step c before).bridge := by
  cases after with
  | nil =>
      rw [List.append_nil] at hsettled
      exact hsettled.serves hlost hbridge
  | cons e after =>
      exact ((along_iff_positions.mp halong before e after rfl).2 hlost).1 hbridge

/-! ### The shutdown -/

/-- How the node means to leave the robot. -/
@[mk_iff] structure AtRest (c : Modes) : Prop where
  mastership : c.mastership = false
  rapid : c.rapid = false
  leadThrough : c.leadThrough = false
  session : c.session ≠ some .joint ∧ c.session ≠ some .pose

variable (nameRobot) in
/-- How the shutdown leaves the robot: each of its calls that came off had its effect. -/
structure LeftAtRest (ended : List (InterfaceAction × Bool)) (robot : Modes) : Prop where
  mastership : (.releaseMasterShip, true) ∈ ended → robot.mastership = false
  rapid : (.stopRAPIDExecution, true) ∈ ended → robot.rapid = false
  leadThrough : (.setLeadThroughOff nameRobot, true) ∈ ended → robot.leadThrough = false
  session : (.pulseIOSignal .stop 500000, true) ∈ ended →
    robot.session ≠ some .joint ∧ robot.session ≠ some .pose

theorem performAll_ensures (actions : List InterfaceAction) :
    Ensures (performAll actions) fun _ exchanged => exchanged.map Prod.fst = actions := by
  induction actions with
  | nil => exact .pure rfl
  | cons action actions ih =>
      unfold performAll
      refine Ensures.request_bind fun ok => Ensures.mono ih fun _ exchanged h => ?_
      rw [List.map_cons, h]

/-- Whatever failed before, and whatever it was commanded. -/
theorem shutdown_leaves {start robot : Modes} {looped ended : List (InterfaceAction × Bool)}
    (hended : ended.map Prod.fst = shutdown nameRobot) (h : CanLeave start (looped ++ ended) robot) :
    LeftAtRest nameRobot ended robot := by
  have hexplicit : ∃ request off stop release sleep rapid : Bool, ended =
      [(.requestMasterShip, request), (.setLeadThroughOff nameRobot, off),
        (.pulseIOSignal .stop 500000, stop), (.releaseMasterShip, release), (.usleep 500000, sleep),
        (.stopRAPIDExecution, rapid)] := by
    simp only [shutdown, List.map_eq_cons_iff, List.map_eq_nil_iff] at hended
    obtain ⟨⟨_, request⟩, _, rfl, rfl, ⟨_, off⟩, _, rfl, rfl, ⟨_, stop⟩, _, rfl, rfl,
      ⟨_, release⟩, _, rfl, rfl, ⟨_, sleep⟩, _, rfl, rfl, ⟨_, rapid⟩, _, rfl, rfl, rfl⟩ := hended
    exact ⟨request, off, stop, release, sleep, rapid, rfl⟩
  obtain ⟨request, off, stop, release, sleep, rapid, rfl⟩ := hexplicit
  obtain ⟨before, -, hshutdown⟩ := Outcome.split h
  refine ⟨fun hmem => ?_, fun hmem => ?_, fun hmem => ?_, fun hmem => ?_⟩
  · obtain rfl : release = true := by simpa using hmem
    have h : CanLeave before ([_, _, _] ++ (.releaseMasterShip, true) :: [_, _]) robot := hshutdown
    exact h.brings (fun c => c.mastership = false) (fun _ => rfl) (by simp [Modes.step])
  · obtain rfl : rapid = true := by simpa using hmem
    have h : CanLeave before ([_, _, _, _, _] ++ (.stopRAPIDExecution, true) :: []) robot := hshutdown
    exact h.brings (fun c => c.rapid = false) (fun _ => rfl) (by simp)
  · obtain rfl : off = true := by simpa using hmem
    have h : CanLeave before ([_] ++ (.setLeadThroughOff nameRobot, true) :: [_, _, _, _]) robot :=
      hshutdown
    exact h.brings (fun c => c.leadThrough = false) (fun _ => rfl) (by simp [Modes.step, Modes.pulse])
  · obtain rfl : stop = true := by simpa using hmem
    have h : CanLeave before ([_, _] ++ (.pulseIOSignal .stop 500000, true) :: [_, _, _]) robot :=
      hshutdown
    exact h.brings (fun c => c.session ≠ some .joint ∧ c.session ≠ some .pose)
      (by simp [Modes.step, Modes.pulse, Option.filter_eq_some_iff]) (by simp +contextual [Modes.step])

variable (nameRobot) in
/-- What is known of all that `main` exchanges, in the loop and in the shutdown. -/
theorem main_ensures (rounds : List (List ℤ)) :
    Ensures (main nameRobot rounds) fun _ exchanged => ∃ node looped ended,
      exchanged = looped ++ ended ∧ ended.map Prod.fst = shutdown nameRobot ∧
      (Along Modes.step Sound {} looped ∧ Settled node (run Modes.step {} looped)) ∧
      Along Modes.step (fun c e => c.Admits e.1) (run Modes.step {} looped) ended ∧
      AtRest (run Modes.step {} exchanged) := by
  have hshutdown {node : InterfaceNode} {c : Modes} (h : Settled node c) :
      Monitored Modes.step (fun c e => c.Admits e.1) c (performAll (shutdown nameRobot))
        (fun _ => AtRest) := by
    apply performAll_monitored
    obtain ⟨mastership, rapid, leadThrough, session, idle, bridge, lost⟩ := c
    obtain rfl : mastership = false := h.mastership
    simp [shutdown, Performs, Modes.step, Modes.pulse, Modes.Admits, atRest_iff,
      Option.filter_eq_some_iff]
  refine Ensures.bind (loop_settled rounds) fun node looped hlooped => ?_
  refine Ensures.mono ((performAll_ensures _).and (hshutdown hlooped.2)) ?_
  rintro _ ended ⟨hended, halong, hrest⟩
  rw [← run_append] at hrest
  exact ⟨node, looped, ended, rfl, hended, hlooped, halong, hrest⟩

/-- **Sessions are switched in order**, and the robot is left at rest. -/
theorem mode_sessions (nameRobot : Text) (rounds : List (List ℤ)) :
    Ensures (main nameRobot rounds) fun _ exchanged =>
      (∀ before action ok after, exchanged = before ++ (action, ok) :: after →
        (run Modes.step {} before).Admits action ∧
        ∀ robot, CanLeave {} before robot → AsCommanded before robot) ∧
      ∃ looped ended, exchanged = looped ++ ended ∧ ended.map Prod.fst = shutdown nameRobot ∧
        AtRest (run Modes.step {} exchanged) ∧
        ∀ start robot, CanLeave start exchanged robot → LeftAtRest nameRobot ended robot := by
  refine Ensures.mono (main_ensures nameRobot rounds) ?_
  rintro _ exchanged ⟨node, looped, ended, rfl, hended, ⟨hlooped, -⟩, hshutdown, hrest⟩
  have halong : Along Modes.step (fun c e => c.Admits e.1) {} (looped ++ ended) :=
    (along_append _ _ _).mpr ⟨hlooped.mono fun _ _ h => h.1, hshutdown⟩
  refine ⟨fun before action ok after hexchanged => ?_, looped, ended, rfl, hended, hrest,
    fun start robot => shutdown_leaves hended⟩
  exact ⟨along_iff_positions.mp halong before _ after hexchanged, fun robot h => h.asCommanded⟩

end InterfaceNode

/-! ### The bridge, interleaved with the loop -/

section system
variable {α : Type} [Field α] (isFinite : α → Bool)

/-- An action of the interface, or what happens at the bridge apart from the calls of the interface. -/
inductive SystemEvent (α : Type) where
  | interface (e : InterfaceAction × Bool)
  | run (input : Option (Input α))
  | jointCmd (data : List α)
  | testJoint (data : α)

/-- Of an action of the interface. -/
def SystemEvent.action : SystemEvent α → Option (InterfaceAction × Bool)
  | .interface e => some e
  | _ => none

/-- The bridge, with all that the interface has exchanged. -/
structure ModeSystem (α : Type) where
  exchanged : List (InterfaceAction × Bool)
  bridge : ControllerBridge α

namespace ModeSystem

def commanded (s : ModeSystem α) : Modes := run Modes.step {} s.exchanged

/-- A call of the interface is served by the bridge if it reaches it. -/
def callBridge (bridge : ControllerBridge α) : InterfaceAction × Bool → ControllerBridge α
  | (.callBridgeCom controller start, true) => bridge.callbackBridgeCom controller start
  | _ => bridge

def step (s : ModeSystem α) : SystemEvent α → ModeSystem α
  | .interface e => { exchanged := s.exchanged ++ [e], bridge := callBridge s.bridge e }
  | .run input => { s with bridge := s.bridge.step isFinite (.run input) }
  | .jointCmd data => { s with bridge := s.bridge.step isFinite (.jointCmd data) }
  | .testJoint data => { s with bridge := s.bridge.step isFinite (.testJoint data) }

def init (chain : KDL.Chain) : ModeSystem α := { exchanged := [], bridge := .init chain }

end ModeSystem

theorem ControllerBridge.run_state (b : ControllerBridge α) (input : Option (Input α)) :
    (b.run isFinite input).1.state = b.state := by
  cases input with
  | none => rfl
  | some input =>
      simp only [ControllerBridge.run]
      split
      · simp only [ControllerBridge.runJoints]
        split
        · rfl
        · split <;> rfl
      · split
        · simp only [ControllerBridge.runPose]
          split <;> rfl
        · split <;> rfl

namespace ModeSystem

omit [Field α] in
theorem callBridge_state {b : ControllerBridge α} {c : Modes} (h : b.state = c.bridge)
    (e : InterfaceAction × Bool) : (callBridge b e).state = (c.step e).bridge := by
  obtain ⟨action, ok⟩ := e
  cases action with
  | callBridgeCom controller start =>
      cases ok with
      | true => rfl
      | false => cases start <;> exact h
  | pulseIOSignal signal length => cases signal <;> exact h
  | _ => exact h

/-- The mode that was commanded of the bridge is the mode that it is in. -/
theorem run_commanded {s : ModeSystem α} (h : s.bridge.state = s.commanded.bridge)
    (es : List (SystemEvent α)) :
    (run (step isFinite) s es).exchanged = s.exchanged ++ es.filterMap SystemEvent.action ∧
      (run (step isFinite) s es).bridge.state = (run (step isFinite) s es).commanded.bridge := by
  induction es generalizing s with
  | nil => exact ⟨(List.append_nil _).symm, h⟩
  | cons e es ih =>
      rw [run_cons]
      cases e with
      | interface e =>
          have hstep : (callBridge s.bridge e).state = (run Modes.step {} (s.exchanged ++ [e])).bridge := by
            rw [run_append]
            exact callBridge_state h e
          refine ⟨(ih hstep).1.trans ?_, (ih hstep).2⟩
          exact List.append_assoc s.exchanged [e] _
      | run input => exact ih ((s.bridge.run_state isFinite input).trans h)
      | jointCmd data => exact ih h
      | testJoint data => exact ih h

omit [Field α] in
theorem callBridge_kept {b : ControllerBridge α} {e : InterfaceAction × Bool}
    (he : ∀ controller start, e.1 ≠ .callBridgeCom controller start) : callBridge b e = b := by
  obtain ⟨action, ok⟩ := e
  cases action with
  | callBridgeCom controller start => exact absurd rfl (he controller start)
  | _ => rfl

/-- Only calls of the interface change the mode of the bridge. -/
theorem run_state_kept {s : ModeSystem α} {es : List (SystemEvent α)}
    (hes : ∀ e ∈ es.filterMap SystemEvent.action, ∀ controller start,
      e.1 ≠ .callBridgeCom controller start) :
    (run (step isFinite) s es).bridge.state = s.bridge.state := by
  induction es generalizing s with
  | nil => rfl
  | cons e es ih =>
      rw [run_cons]
      cases e with
      | interface e =>
          rw [ih fun e he => hes e (List.mem_cons_of_mem _ he)]
          simp only [step, callBridge_kept (hes e List.mem_cons_self)]
      | run input => exact (ih hes).trans (s.bridge.run_state isFinite input)
      | jointCmd data => exact ih hes
      | testJoint data => exact ih hes

end ModeSystem

/-- No request to stop is lost on its way to the bridge. -/
def StopsReach (exchanged : List (InterfaceAction × Bool)) : Prop :=
  ∀ controller reached, (.callBridgeCom controller false, reached) ∈ exchanged → reached = true

theorem run_lost {c : Modes} (hlost : c.lost = false) {exchanged : List (InterfaceAction × Bool)}
    (h : StopsReach exchanged) : (run Modes.step c exchanged).lost = false := by
  induction exchanged generalizing c with
  | nil => exact hlost
  | cons e exchanged ih =>
      refine ih ?_ fun controller reached hmem => h controller reached (List.mem_cons_of_mem _ hmem)
      obtain ⟨action, ok⟩ := e
      cases action with
      | callBridgeCom controller start =>
          cases start with
          | true => cases ok <;> exact hlost
          | false =>
              obtain rfl := h controller ok List.mem_cons_self
              exact hlost
      | pulseIOSignal signal length => cases signal <;> exact hlost
      | _ => exact hlost

theorem StopsReach.left {before after : List (InterfaceAction × Bool)}
    (h : StopsReach (before ++ after)) : StopsReach before :=
  fun controller reached hmem => h controller reached (List.mem_append_left _ hmem)

/-- What a round of the bridge may write, and when the interface may switch a session. -/
structure InOrder (s : ModeSystem α) (e : SystemEvent α) : Prop where
  commands : ∀ input output, e = .run input → (s.bridge.run isFinite input).2 = some output →
    output = {} ∨ s.commanded.Serves s.bridge.state ∧ (CameOff Modes.Switches s.exchanged →
      ∀ robot, CanLeave {} s.exchanged robot → robot.Serves s.bridge.state)
  switches : ∀ action ok, e = .interface (action, ok) → Modes.Switches action → s.bridge.state = 2

/-- A bridge that only reads writes empty references. -/
theorem ControllerBridge.run_reads {b : ControllerBridge α} (h : b.state = 2)
    {input : Option (Input α)} {output : Output α} (houtput : (b.run isFinite input).2 = some output) :
    output = {} := by
  cases input with
  | none => cases houtput
  | some input =>
      simp only [ControllerBridge.run, h] at houtput
      exact (Option.some.inj houtput).symm

/-- The loop, however the rounds of the bridge interleave with it. -/
theorem loop_inOrder {node : InterfaceNode} {chain : KDL.Chain} {es : List (SystemEvent α)}
    (halong : Along Modes.step InterfaceNode.Sound {} (es.filterMap SystemEvent.action))
    (hsettled : InterfaceNode.Settled node (run Modes.step {} (es.filterMap SystemEvent.action)))
    (hreach : StopsReach (es.filterMap SystemEvent.action)) :
    Along (ModeSystem.step isFinite) (InOrder isFinite) (ModeSystem.init chain) es := by
  rw [along_iff_positions]
  rintro before e after rfl
  obtain ⟨hexchanged, hstate⟩ :=
    ModeSystem.run_commanded isFinite (s := ModeSystem.init chain) rfl before
  rw [List.filterMap_append] at halong hsettled hreach
  have hlost := run_lost (c := {}) rfl hreach.left
  have hserves := InterfaceNode.prefix_serves halong hsettled hlost
  rw [show (ModeSystem.init (α := α) chain).exchanged = [] from rfl, List.nil_append] at hexchanged
  rw [← hexchanged] at hlost hserves
  constructor
  · rintro input output - houtput
    by_cases h2 : (run (ModeSystem.step isFinite) (ModeSystem.init chain) before).bridge.state = 2
    · exact .inl (ControllerBridge.run_reads isFinite h2 houtput)
    · rw [hstate] at h2 ⊢
      refine .inr ⟨hserves h2, fun hoff robot hrobot => ?_⟩
      exact (hserves h2).of_motion (hrobot.asCommanded.motion hoff)
  · rintro action ok rfl hswitches
    rw [hstate]
    have hcoherent := (along_iff_positions.mp halong _ _ _ rfl).2
    rw [← hexchanged] at hcoherent
    exact (hcoherent hlost).2 hswitches

/-- **The bridge commands the robot in its own sessions only.**  If no request to stop is lost, then,
however the rounds of the bridge interleave with the actions of the loop, the bridge writes nothing but
empty references unless the session of its controller was started, and it only reads while a session is
switched.  The shutdown leaves the bridge in the mode in which it finds it. -/
theorem mode_bridge (nameRobot : Text) (rounds : List (List ℤ)) (chain : KDL.Chain) :
    Ensures (InterfaceNode.main nameRobot rounds) fun _ exchanged => ∃ looped ended,
      exchanged = looped ++ ended ∧ ended.map Prod.fst = InterfaceNode.shutdown nameRobot ∧
      (StopsReach looped → ∀ es : List (SystemEvent α), es.filterMap SystemEvent.action = looped →
        Along (ModeSystem.step isFinite) (InOrder isFinite) (ModeSystem.init chain) es) ∧
      ∀ (s : ModeSystem α) (es : List (SystemEvent α)), es.filterMap SystemEvent.action <+: ended →
        (run (ModeSystem.step isFinite) s es).bridge.state = s.bridge.state := by
  refine Ensures.mono (InterfaceNode.main_ensures nameRobot rounds) ?_
  rintro _ exchanged ⟨node, looped, ended, rfl, hended, ⟨halong, hsettled⟩, -⟩
  refine ⟨looped, ended, rfl, hended, ?_, ?_⟩
  · rintro hreach es rfl
    exact loop_inOrder isFinite halong hsettled hreach
  · intro s es hes
    refine ModeSystem.run_state_kept isFinite fun e he controller start heq => ?_
    have haction := List.mem_map_of_mem (f := Prod.fst) (hes.subset he)
    rw [hended, heq] at haction
    simp [InterfaceNode.shutdown] at haction

end system

/-! ### From joint commands to pose commands -/

namespace ModeSystem

open ControllerBridge InterfaceNode

def rob1 : Text := "ROB_1".toList

/-- All calls come off. -/
def comingOff : Environment InterfaceAction Bool := fun _ _ => true

/-- A loop in which pose commands are requested in the first round. -/
def looped : List (InterfaceAction × Bool) := (loop rob1 [[1], []] comingOff []).2

/-- The joint controller is started, and gets a message and a command. -/
def commanding : List (SystemEvent ℚ) :=
  (looped.take 18).map .interface ++ [.run (some sixJoints), .jointCmd [1, 1, 1, 1, 1, 1]]

/-- A round, the request, and rounds of the pose controller. -/
def requesting : List (SystemEvent ℚ) :=
  [.run (some sixJoints)] ++ (looped.drop 18).map .interface ++
    [.run (some sixJoints), .run (some sixJoints)]

/-- In which the joint controller sends references, and the pose controller outlives the shutdown. -/
theorem mode_bridge_joint_pose :
    StopsReach looped ∧
    Along (ModeSystem.step fun _ => true) (InOrder fun _ => true) (ModeSystem.init (rotating 6))
      (commanding ++ requesting) ∧
    ((run (ModeSystem.step fun _ => true) (ModeSystem.init (rotating 6)) commanding).bridge.run
      (fun _ => true) (some sixJoints)).2.any (· ≠ {}) = true ∧
    (run (ModeSystem.step fun _ => true) (ModeSystem.init (rotating 6)) (commanding ++ requesting ++
      ((shutdown rob1).map fun action => (action, true)).map .interface)).bridge.state = 1 := by
  have hmain : (main rob1 [[1], []] comingOff []).2 =
      looped ++ (shutdown rob1).map fun action => (action, true) := rfl
  have hreach : StopsReach looped := by
    have hoff : ∀ e ∈ looped, e.2 = true := by decide +kernel
    exact fun controller reached hmem => hoff _ hmem
  obtain ⟨exchanged, hhistory, looped', ended, rfl, hended, horder, hkept⟩ :=
    mode_bridge (α := ℚ) (fun _ => true) rob1 [[1], []] (rotating 6) comingOff []
  rw [hmain, List.nil_append] at hhistory
  have hlength := congrArg List.length hended
  rw [List.length_map] at hlength
  obtain ⟨rfl, rfl⟩ := List.append_inj' hhistory (by rw [List.length_map, hlength])
  refine ⟨hreach, horder hreach _ (by decide +kernel), by decide +kernel, ?_⟩
  rw [run_append, hkept _ _ (by decide +kernel)]
  decide +kernel

end ModeSystem

end AbbWrapper
