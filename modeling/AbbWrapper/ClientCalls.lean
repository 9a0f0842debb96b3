import AbbWrapper.DocumentNodes
import AbbWrapper.RoutineCalls

/-! # Calls of the client

A service of `RWSClient` is a request with the outcomes that it accepts.  It leaves its URI, its content
and its conditions in members of the client, and an exception that nobody catches may end it before or
after these have been assigned.

* `Service` says what a service assigns to the members and how it sends its request; each service of the
  source has a definition under its own name, `RWSClient.serve` executes it, and `ClientCall` are the
  calls that can be made of a client.
* A program of the client exchanges a request for an answer or for an exception (`ClientProgram`).
* `execAll` makes a list of calls with one client, and `execEach` each of them with a new one.

No call reads what another one has left: whatever was called before, and however it ended, a call
exchanges and returns what it would with a new client, and the log holds the newest answers
(`calls_fresh`).  The answers are the same for both; what a `POCOClient` keeps from one request to the
next is the subject of `HttpSession.lean`. -/

namespace AbbWrapper

open Exchanges

namespace Resources

/-- `LOGOUT`. -/
def logout : Text := "/logout".toList
/-- `RW_MASTERSHIP`. -/
def rwMastership : Text := "/rw/mastership/edit".toList
/-- `RW_MASTERSHIP_MOTION`. -/
def rwMastershipMotion : Text := "/rw/mastership/motion".toList
/-- `RW_MOTIONSYSTEM_MECHUNITS`. -/
def rwMotionsystemMechunits : Text := "/rw/motionsystem/mechunits".toList
/-- `RW_PANEL_CTRLSTATE`. -/
def rwPanelCtrlstate : Text := "/rw/panel/ctrl-state".toList
/-- `RW_RAPID_EXECUTION`. -/
def rwRapidExecution : Text := "/rw/rapid/execution".toList

end Resources

namespace Services

/-- `FILESERVICE`. -/
def fileservice : Text := "/fileservice".toList
/-- `USERS`. -/
def users : Text := "/users".toList

end Services

/-- `RWSClient::FileResource`: a file, and the directory it is in. -/
structure FileResource where
  filename : Text
  directory : Text := "$home".toList

/-! ### Paths -/

def generateMechanicalUnitPath (mechunit : Text) : Text :=
  Resources.rwMotionsystemMechunits ++ ['/'] ++ mechunit

def generateRAPIDPropertiesPath (resource : RAPIDResource) : Text :=
  Resources.rwRapidSymbolDataRapid ++ ['/'] ++ resource.task ++ ['/'] ++ resource.module ++ ['/'] ++
    resource.name ++ "/properties".toList

def generateFilePath (resource : FileResource) : Text :=
  Services.fileservice ++ ['/'] ++ resource.directory ++ ['/'] ++ resource.filename

/-! ### Services -/

/-- What a service assigns to the members of the client, and how it sends its request. -/
structure Service where
  method : HTTPMethod
  uri : Text
  /-- Of a service that assigns it; otherwise the request has none. -/
  content : Option Text := none
  parseMessageIntoXml : Bool := false
  acceptedOutcomes : List ℕ

namespace Service

/-- The answer is parsed. -/
def get (uri : Text) : Service :=
  { method := .get
    uri := uri
    parseMessageIntoXml := true
    acceptedOutcomes := [HTTPResponse.ok] }

def post (uri : Text) (content : Option Text := none) : Service :=
  { method := .post, uri := uri, content := content, acceptedOutcomes := [HTTPResponse.noContent] }

/-- A request for something new. -/
def create (method : HTTPMethod) (uri : Text) (content : Option Text := none) : Service :=
  { method := method
    uri := uri
    content := content
    acceptedOutcomes := [HTTPResponse.ok, HTTPResponse.created] }

def getConfigurationInstances (topic type : Text) : Service :=
  .get (getConfigurationInstancesRequest topic type).uri
def getIOSignal (iosignal : Text) : Service := .get (generateIOSignalPath iosignal)
def getMechanicalUnitJointTarget (mechunit : Text) : Service :=
  .get (generateMechanicalUnitPath mechunit ++ "/jointtarget".toList)
def getMechanicalUnitRobTarget (mechunit : Text) : Service :=
  .get (generateMechanicalUnitPath mechunit ++ "/robtarget".toList)
def getRAPIDExecution : Service := .get Resources.rwRapidExecution
def getRAPIDModulesInfo (task : Text) : Service := .get (getRAPIDModulesInfoRequest task).uri
def getRAPIDTasks : Service := .get Resources.rwRapidTasks
def getRobotWareSystem : Service := .get Resources.rwSystem
def getPanelControllerState : Service := .get Resources.rwPanelCtrlstate
def getPanelOperationMode : Service := .get Resources.rwPanelOpmode
/-- The answer is parsed although nothing is read. -/
def setAutoMode : Service :=
  { Service.get Resources.rwPanelOpmode with
    method := .post
    content := some "opmode=auto".toList }
def setManualMode : Service :=
  { Service.get Resources.rwPanelOpmode with
    method := .post
    content := some "opmode=man".toList }
def getRAPIDSymbolData (resource : RAPIDResource) : Service := .get (generateRAPIDDataPath resource)
def getRAPIDSymbolProperties (resource : RAPIDResource) : Service :=
  .get (generateRAPIDPropertiesPath resource)
def setIOSignal (iosignal value : Text) : Service :=
  .post (generateIOSignalPath iosignal ++ ['/'] ++ "set-value".toList)
    (some ("lvalue".toList ++ ['='] ++ value))
def setRAPIDSymbolData (resource : RAPIDResource) (data : Text) : Service :=
  .post (generateRAPIDDataPath resource) (some ("value".toList ++ ['='] ++ data))
def startRAPIDExecution : Service :=
  .post (Resources.rwRapidExecution ++ ['/'] ++ "start".toList) (some
    ("regain=continue&execmode=continue&cycle=forever&condition=none&stopatbp=disabled" ++
      "&alltaskbytsp=false").toList)
def stopRAPIDExecution : Service :=
  .post (Resources.rwRapidExecution ++ ['/'] ++ "stop".toList) (some "stopmode=stop".toList)
def resetRAPIDProgramPointer : Service :=
  .post (Resources.rwRapidExecution ++ ['/'] ++ "resetpp".toList)
def setMotorsOn : Service := .post Resources.rwPanelCtrlstate (some "ctrl-state=motoron".toList)
def setMotorsOff : Service := .post Resources.rwPanelCtrlstate (some "ctrl-state=motoroff".toList)
def setLeadThroughOn (mechUnit : Text) : Service :=
  .post (generateMechanicalUnitPath mechUnit ++ "/lead-through".toList) (some "status=active".toList)
def setLeadThroughOff (mechUnit : Text) : Service :=
  .post (generateMechanicalUnitPath mechUnit ++ "/lead-through".toList)
    (some "status=inactive".toList)
def uploadFile (resource : FileResource) (fileContent : Text) : Service :=
  .create .put (generateFilePath resource) (some fileContent)
def deleteFile (resource : FileResource) : Service :=
  { method := .delete
    uri := generateFilePath resource
    acceptedOutcomes := [HTTPResponse.ok, HTTPResponse.noContent] }
def loadFileToRapid (resource : FileResource) : Service :=
  .create .post (Resources.rwRapidTasks ++ "/T_ROB1/program/load".toList) (some
    ("progpath=/".toList ++ resource.directory ++ ['/'] ++ resource.filename))
def unloadFileFromRapid : Service :=
  .create .post (Resources.rwRapidTasks ++ "/T_ROB1/program/unload".toList)
def logout : Service := .get Resources.logout
/-- `registerLocalUser` and `registerRemoteUser`. -/
def registerUser (ulocale username application location : Text) : Service :=
  .create .post Services.users (some ("username=".toList ++ username ++ "&application=".toList ++
    application ++ "&location=".toList ++ location ++ "&ulocale=".toList ++ ulocale))
def registerLocalUser : Text → Text → Text → Service := registerUser "local".toList
def registerRemoteUser : Text → Text → Text → Service := registerUser "remote".toList
def requestMasterShip : Service := .post (Resources.rwMastership ++ ['/'] ++ "request".toList)
def releaseMasterShip : Service := .post (Resources.rwMastership ++ ['/'] ++ "release".toList)
def requestMasterShipMotion : Service :=
  .post (Resources.rwMastershipMotion ++ ['/'] ++ "request".toList)
def releaseMasterShipMotion : Service :=
  .post (Resources.rwMastershipMotion ++ ['/'] ++ "release".toList)

end Service

/-! ### The client -/

/-- The members of `RWSClient` that its services use. -/
structure RWSClient where
  uri : Text := []
  content : Text := []
  evaluationConditions : EvaluationConditions := {}
  log : List POCOResult := []

/-- What is exchanged: an answer, or an exception that is not caught. -/
abbrev ClientProgram (β : Type) := Program RequestInfo (Option POCOResult) β

namespace RWSClient

/-- `LOG_SIZE`. -/
def logSize : ℕ := 20

/-- `evaluation_conditions_` after `reset`, with the conditions of a service. -/
def assignConditions (client : RWSClient) (parseMessageIntoXml : Bool) (acceptedOutcomes : List ℕ) :
    RWSClient :=
  { client with
    evaluationConditions :=
      { parseMessageIntoXml := parseMessageIntoXml, acceptedOutcomes := acceptedOutcomes } }

/-- The newest answer is in front. -/
def pushLog (client : RWSClient) (pocoResult : POCOResult) : RWSClient :=
  let log := if logSize ≤ client.log.length then client.log.dropLast else client.log
  { client with log := pocoResult :: log }

section exec
variable (xmlParse : Text → Option XMLNode)

/-- `evaluatePOCOResult` with the conditions of the client. -/
def evaluate (client : RWSClient) (pocoResult : POCOResult) : RWSResult × RWSClient :=
  (evaluatePOCOResult xmlParse pocoResult client.evaluationConditions, client.pushLog pocoResult)

/-- What a service assigns before it sends its request. -/
def assign (client : RWSClient) (service : Service) : RWSClient :=
  let client := { client with uri := service.uri, content := service.content.getD client.content }
  client.assignConditions service.parseMessageIntoXml service.acceptedOutcomes

/-- The request is made of the members. -/
def request (client : RWSClient) (service : Service) : RequestInfo :=
  { method := service.method
    uri := client.uri
    content := if service.content.isSome then client.content else [] }

/-- The result is missing if an exception ends the service. -/
def serve (client : RWSClient) (service : Service) : ClientProgram (Option RWSResult × RWSClient) := do
  let client := client.assign service
  match ← Program.request (client.request service) with
  | none => pure (none, client)
  | some pocoResult =>
      let (result, client) := client.evaluate xmlParse pocoResult
      pure (some result, client)

/-- The file is asked for before the conditions are assigned. -/
def getFile (client : RWSClient) (resource : FileResource) :
    ClientProgram (Option (RWSResult × Option Text) × RWSClient) := do
  let client := { client with uri := generateFilePath resource }
  match ← Program.request { method := .get, uri := client.uri } with
  | none => pure (none, client)
  | some pocoResult =>
      let client := client.assignConditions false [HTTPResponse.ok]
      let (result, client) := client.evaluate xmlParse pocoResult
      pure (some (result, if result.success then some pocoResult.response.content else none), client)

end exec

end RWSClient

/-- A call of the client. -/
inductive ClientCall (ν δ : Type) where
  | serve (service : Service)
  /-- Whether there is a place for the content. -/
  | getFile (resource : FileResource) (pFileContent : Bool)
  /-- `getRAPIDSymbolData(resource, p_data)`. -/
  | getRAPIDSymbolData (resource : RAPIDResource) (data : Option (RAPIDSymbolData ν δ))

/-- What a call gives back: nothing as a result if an exception ended it. -/
structure CallOutcome (ν δ : Type) where
  result : Option RWSResult
  fileContent : Option Text := none
  data : Option (RAPIDSymbolData ν δ) := none

section calls
variable {ν δ : Type} [Streamed ν] [Streamed δ] (xmlParse : Text → Option XMLNode)

/-- The value is asked for only if the type of the symbol is that of the data. -/
def RWSClient.getRAPIDSymbolData (client : RWSClient) (resource : RAPIDResource) :
    Option (RAPIDSymbolData ν δ) → ClientProgram (CallOutcome ν δ × RWSClient)
  | none => pure ({ result := some {} }, client)
  | some data => do
      match ← client.serve xmlParse (.getRAPIDSymbolProperties resource) with
      | (none, client) => pure ({ result := none, data := some data }, client)
      | (some properties, client) =>
          if properties.success ∧
              data.type.getType = properties.textContent XMLAttributes.classDattyp then
            match ← client.serve xmlParse (.getRAPIDSymbolData resource) with
            | (none, client) => pure ({ result := none, data := some data }, client)
            | (some value, client) =>
                let r := AbbWrapper.getRAPIDSymbolData properties value (some data)
                pure ({ result := r.1, data := r.2 }, client)
          else pure ({ result := some {}, data := some data }, client)

namespace ClientCall

def exec (client : RWSClient) : ClientCall ν δ → ClientProgram (CallOutcome ν δ × RWSClient)
  | .serve service => do
      let (result, client) ← client.serve xmlParse service
      pure ({ result := result }, client)
  | .getFile resource pFileContent =>
      if pFileContent then do
        let (result, client) ← client.getFile xmlParse resource
        pure ({ result := result.map Prod.fst, fileContent := result.bind Prod.snd }, client)
      else pure ({ result := some {} }, client)
  | .getRAPIDSymbolData resource data => client.getRAPIDSymbolData xmlParse resource data

/-- One call after the other, with one client. -/
def execAll (client : RWSClient) :
    List (ClientCall ν δ) → ClientProgram (List (CallOutcome ν δ) × RWSClient)
  | [] => pure ([], client)
  | call :: calls => do
      let (outcome, client) ← call.exec xmlParse client
      let (outcomes, client) ← execAll client calls
      pure (outcome :: outcomes, client)

/-- Every call with a client of its own. -/
def execEach : List (ClientCall ν δ) → ClientProgram (List (CallOutcome ν δ))
  | [] => pure []
  | call :: calls => do
      let (outcome, _) ← call.exec xmlParse {}
      let outcomes ← execEach calls
      pure (outcome :: outcomes)

end ClientCall

end calls

/-! ### What a call takes from the client -/

namespace RWSClient

/-- The newest answers, with those that are exchanged. -/
def logAfter (log : List POCOResult) (exchanged : History RequestInfo (Option POCOResult)) :
    List POCOResult :=
  ((exchanged.filterMap Prod.snd).reverse ++ log).take logSize

/-- From both clients the same is exchanged, with the same result, and the first client logs the
answers. -/
def Agree {β : Type} (client : RWSClient) (p p' : ClientProgram (β × RWSClient)) : Prop :=
  ∀ environment history, ∃ exchanged, (p environment history).2 = history ++ exchanged ∧
    (p' environment history).2 = history ++ exchanged ∧
    (p environment history).1.1 = (p' environment history).1.1 ∧
    (p environment history).1.2.log = logAfter client.log exchanged

theorem logAfter_nil {log : List POCOResult} (hlog : log.length ≤ logSize) : logAfter log [] = log :=
  List.take_of_length_le hlog

theorem logAfter_append (log : List POCOResult)
    (exchanged exchanged' : History RequestInfo (Option POCOResult)) :
    logAfter (logAfter log exchanged) exchanged' = logAfter log (exchanged ++ exchanged') := by
  have hfirst := @List.take_append _ (exchanged'.filterMap Prod.snd).reverse
    ((exchanged.filterMap Prod.snd).reverse ++ log) logSize
  unfold logAfter
  rw [List.filterMap_append, List.reverse_append, List.append_assoc, hfirst, List.take_append,
    List.take_take, min_eq_left (Nat.sub_le _ _)]

theorem length_logAfter (log : List POCOResult)
    (exchanged : History RequestInfo (Option POCOResult)) :
    (logAfter log exchanged).length ≤ logSize :=
  List.length_take_le _ _

theorem pushLog_log {client : RWSClient} (hlog : client.log.length ≤ logSize)
    (request : RequestInfo) (pocoResult : POCOResult) :
    (client.pushLog pocoResult).log = logAfter client.log [(request, some pocoResult)] := by
  change pocoResult :: (if logSize ≤ client.log.length then client.log.dropLast else client.log) =
    (pocoResult :: client.log).take (19 + 1)
  rw [List.take_succ_cons]
  congr 1
  split
  next hfull =>
    rw [List.dropLast_eq_take, show client.log.length = 20 from le_antisymm hlog hfull]
  next hfull =>
    have hshort : client.log.length < 20 := not_le.mp hfull
    rw [List.take_of_length_le (by omega)]

namespace Agree
variable {β γ : Type} {client : RWSClient}

theorem pure {client' : RWSClient} (b : β) (hlog : client.log.length ≤ logSize) :
    Agree client (Pure.pure (b, client)) (Pure.pure (b, client')) := by
  intro environment history
  exact ⟨[], (List.append_nil _).symm, (List.append_nil _).symm, rfl, (logAfter_nil hlog).symm⟩

theorem bind {p p' : ClientProgram (β × RWSClient)}
    {f f' : β × RWSClient → ClientProgram (γ × RWSClient)} (hp : Agree client p p')
    (hf : ∀ b client client', client.log.length ≤ logSize →
      Agree client (f (b, client)) (f' (b, client'))) :
    Agree client (p >>= f) (p' >>= f') := by
  intro environment history
  obtain ⟨first, hfirst, hfirst', hb, hlog⟩ := hp environment history
  obtain ⟨exchanged, h, h', hc, hlog'⟩ := hf (p environment history).1.1
    (p environment history).1.2 (p' environment history).1.2 (hlog ▸ length_logAfter _ _)
    environment (p environment history).2
  refine ⟨first ++ exchanged, ?_, ?_, ?_, ?_⟩
  · rw [← List.append_assoc, ← hfirst]
    exact h
  · rw [← List.append_assoc, ← hfirst, ← h']
    change (f' (p' environment history).1 environment (p' environment history).2).2 = _
    rw [hfirst', ← hfirst, hb]
  · refine Eq.trans hc ?_
    change _ = (f' (p' environment history).1 environment (p' environment history).2).1.1
    rw [hfirst', ← hfirst, hb]
  · rw [← logAfter_append, ← hlog]
    exact hlog'

end Agree

/-- A request, after whose answer nothing more is exchanged. -/
theorem Agree.request {β : Type} {client : RWSClient} {r : RequestInfo}
    {f f' : Option POCOResult → ClientProgram (β × RWSClient)}
    (hf : ∀ answer, ∃ b next next', f answer = Pure.pure (b, next) ∧
      f' answer = Pure.pure (b, next') ∧ next.log = logAfter client.log [(r, answer)]) :
    Agree client (Program.request r >>= f) (Program.request r >>= f') := by
  intro environment history
  obtain ⟨b, next, next', h, h', hlog⟩ := hf (environment history r)
  refine ⟨[(r, environment history r)], ?_⟩
  change (f (environment history r) environment _).2 = _ ∧
    (f' (environment history r) environment _).2 = _ ∧
    (f (environment history r) environment _).1.1 = (f' (environment history r) environment _).1.1 ∧
    (f (environment history r) environment _).1.2.log = _
  rw [h, h']
  exact ⟨rfl, rfl, rfl, hlog⟩

section calls
variable (xmlParse : Text → Option XMLNode) {client : RWSClient}

/-- Everything that a request is made of has just been assigned. -/
theorem request_assign (client : RWSClient) (service : Service) :
    (client.assign service).request service =
      { method := service.method, uri := service.uri, content := service.content.getD [] } := by
  obtain ⟨method, uri, content, parseMessageIntoXml, acceptedOutcomes⟩ := service
  cases content <;> rfl

example (client : RWSClient) (resource : RAPIDResource) (data : Text) :
    (client.assign (.setRAPIDSymbolData resource data)).request (.setRAPIDSymbolData resource data) =
      setRAPIDSymbolDataRequest resource data := rfl

theorem serve_agree (hlog : client.log.length ≤ logSize) (client' : RWSClient) (service : Service) :
    Agree client (client.serve xmlParse service) (client'.serve xmlParse service) := by
  unfold serve
  simp only
  rw [request_assign client, request_assign client']
  refine Agree.request fun answer => ?_
  cases answer with
  | none => exact ⟨_, _, _, rfl, rfl, (logAfter_nil hlog).symm⟩
  | some pocoResult => exact ⟨_, _, _, rfl, rfl, pushLog_log hlog _ pocoResult⟩

/-- The conditions are assigned after the exchange, and before they are used. -/
theorem getFile_agree (hlog : client.log.length ≤ logSize) (client' : RWSClient)
    (resource : FileResource) :
    Agree client (client.getFile xmlParse resource) (client'.getFile xmlParse resource) := by
  refine Agree.request fun answer => ?_
  cases answer with
  | none => exact ⟨_, _, _, rfl, rfl, (logAfter_nil hlog).symm⟩
  | some pocoResult => exact ⟨_, _, _, rfl, rfl, pushLog_log hlog _ pocoResult⟩

variable {ν δ : Type} [Streamed ν] [Streamed δ]

theorem getRAPIDSymbolData_agree (hlog : client.log.length ≤ logSize) (client' : RWSClient)
    (resource : RAPIDResource) (data : Option (RAPIDSymbolData ν δ)) :
    Agree client (client.getRAPIDSymbolData xmlParse resource data)
      (client'.getRAPIDSymbolData xmlParse resource data) := by
  cases data with
  | none => exact Agree.pure _ hlog
  | some data =>
      refine Agree.bind (serve_agree xmlParse hlog client' _) fun properties client client' hlog => ?_
      cases properties with
      | none => exact Agree.pure _ hlog
      | some properties =>
          simp only
          split
          · refine Agree.bind (serve_agree xmlParse hlog client' _) fun value client client' hlog => ?_
            cases value with
            | none => exact Agree.pure _ hlog
            | some value => exact Agree.pure _ hlog
          · exact Agree.pure _ hlog

theorem exec_agree (hlog : client.log.length ≤ logSize) (client' : RWSClient)
    (call : ClientCall ν δ) :
    Agree client (call.exec xmlParse client) (call.exec xmlParse client') := by
  cases call with
  | serve service =>
      exact Agree.bind (serve_agree xmlParse hlog client' service) fun result client client' hlog =>
        Agree.pure _ hlog
  | getFile resource pFileContent =>
      cases pFileContent with
      | false => exact Agree.pure _ hlog
      | true =>
          exact Agree.bind (getFile_agree xmlParse hlog client' resource)
            fun result client client' hlog => Agree.pure _ hlog
  | getRAPIDSymbolData resource data =>
      exact getRAPIDSymbolData_agree xmlParse hlog client' resource data

theorem execAll_execEach (hlog : client.log.length ≤ logSize) (calls : List (ClientCall ν δ))
    (environment : Environment RequestInfo (Option POCOResult))
    (history : History RequestInfo (Option POCOResult)) :
    ∃ exchanged,
      (ClientCall.execAll xmlParse client calls environment history).2 = history ++ exchanged ∧
      (ClientCall.execEach xmlParse calls environment history).2 = history ++ exchanged ∧
      (ClientCall.execAll xmlParse client calls environment history).1.1 =
        (ClientCall.execEach xmlParse calls environment history).1 ∧
      (ClientCall.execAll xmlParse client calls environment history).1.2.log =
        logAfter client.log exchanged := by
  induction calls generalizing client history with
  | nil => exact ⟨[], (List.append_nil _).symm, (List.append_nil _).symm, rfl, (logAfter_nil hlog).symm⟩
  | cons call calls ih =>
      obtain ⟨first, hfirst, hfirst', houtcome, hnext⟩ :=
        exec_agree xmlParse hlog {} call environment history
      have hbound : (call.exec xmlParse client environment history).1.2.log.length ≤ logSize :=
        hnext ▸ length_logAfter _ _
      obtain ⟨exchanged, h, h', houtcomes, hlog'⟩ :=
        ih hbound (call.exec xmlParse client environment history).2
      refine ⟨first ++ exchanged, ?_, ?_, ?_, ?_⟩
      · rw [← List.append_assoc, ← hfirst]
        exact h
      · rw [← List.append_assoc, ← hfirst, ← h', hfirst, ← hfirst']
        rfl
      · refine congrArg₂ List.cons houtcome (houtcomes.trans ?_)
        rw [hfirst, ← hfirst']
      · rw [← logAfter_append, ← hnext]
        exact hlog'

end calls

end RWSClient

/-- **A call is the same whatever was called before**: one client exchanges and returns in a list of
calls what a new client for each of them would, although exceptions may end calls anywhere.  Its log
holds the newest answers, twenty at most, the last one in front. -/
theorem calls_fresh {ν δ : Type} [Streamed ν] [Streamed δ] (xmlParse : Text → Option XMLNode)
    (calls : List (ClientCall ν δ)) (environment : Environment RequestInfo (Option POCOResult))
    (history : History RequestInfo (Option POCOResult)) :
    let shared := ClientCall.execAll xmlParse {} calls environment history
    let fresh := ClientCall.execEach xmlParse calls environment history
    shared.1.1 = fresh.1 ∧ ∃ exchanged, shared.2 = history ++ exchanged ∧
      fresh.2 = history ++ exchanged ∧
      shared.1.2.log = (exchanged.filterMap Prod.snd).reverse.take RWSClient.logSize := by
  intro shared fresh
  obtain ⟨exchanged, h, h', houtcomes, hlog⟩ := @RWSClient.execAll_execEach xmlParse {} ν δ _ _
    (Nat.zero_le _) calls environment history
  refine ⟨houtcomes, exchanged, h, h', hlog.trans ?_⟩
  rw [RWSClient.logAfter, List.append_nil]

end AbbWrapper
