import AbbWrapper.Exchanges
import AbbWrapper.PocoClient

/-! # I/O signals

The functions of `RWSInterface` that read and write I/O signals, as programs that exchange HTTP
requests with the robot controller, and `RWSStateMachineInterface::toggleIOSignal`.

* A `RwsProgram` sends requests of the type `RequestInfo` and gets a `POCOResult` for each; the controller
  is any environment (`Exchanges.lean`).
* `xmlParse` is a parameter: the document of a text, if it is one.
* A signal that cannot be read is the empty text (`readIOSignal`), and a mode that cannot be read is
  unknown (`TriBool`).
* `toggleIOSignal` writes and reads back, with a number of attempts for each level; what follows from
  that is the subject of `ToggleSignal.lean`. -/

namespace AbbWrapper

open Exchanges

/-- A program of the client: its requests, and the results of their exchange. -/
abbrev RwsProgram (β : Type) := Program RequestInfo POCOResult β

namespace SystemConstants

/-- `IOSignals::HIGH`. -/
def high : Text := ['1']
/-- `IOSignals::LOW`. -/
def low : Text := ['0']
/-- `ContollerStates::PANEL_OPERATION_MODE_AUTO`. -/
def panelOperationModeAuto : Text := ['A', 'U', 'T', 'O']

end SystemConstants

namespace Resources

/-- `RW_IOSYSTEM_SIGNALS`. -/
def rwIosystemSignals : Text := "/rw/iosystem/signals".toList
/-- `RW_PANEL_OPMODE`. -/
def rwPanelOpmode : Text := "/rw/panel/opmode".toList

end Resources

namespace XMLAttributes

/-- `CLASS_LVALUE`. -/
def classLvalue : XMLAttribute := ⟨"class".toList, "lvalue".toList⟩
/-- `CLASS_OPMODE`. -/
def classOpmode : XMLAttribute := ⟨"class".toList, "opmode".toList⟩

end XMLAttributes

/-- `TriBool::Values`. -/
inductive TriBool where
  | unknownValue
  | trueValue
  | falseValue
deriving DecidableEq, Repr

namespace TriBool

def ofBool (initialValue : Bool) : TriBool := if initialValue then trueValue else falseValue

def isTrue (value : TriBool) : Bool := value == trueValue

end TriBool

/-! ### Requests -/

def generateIOSignalPath (iosignal : Text) : Text :=
  Resources.rwIosystemSignals ++ ['/'] ++ iosignal

/-- The request of `RWSClient::getIOSignal`. -/
def getIOSignalRequest (iosignal : Text) : RequestInfo :=
  { method := .get, uri := generateIOSignalPath iosignal }

/-- The request of `RWSClient::setIOSignal`. -/
def setIOSignalRequest (iosignal value : Text) : RequestInfo :=
  { method := .post
    uri := generateIOSignalPath iosignal ++ ['/'] ++ "set-value".toList
    content := "lvalue".toList ++ ['='] ++ value }

/-- The request of `RWSClient::getPanelOperationMode`. -/
def getPanelOperationModeRequest : RequestInfo :=
  { method := .get, uri := Resources.rwPanelOpmode }

section client
variable (xmlParse : Text → Option XMLNode)

/-- Of a reading, which needs a document. -/
def evaluateReading (pocoResult : POCOResult) : RWSResult :=
  evaluatePOCOResult xmlParse pocoResult
    { parseMessageIntoXml := true, acceptedOutcomes := [HTTPResponse.ok] }

/-- Of a writing. -/
def evaluateWriting (pocoResult : POCOResult) : RWSResult :=
  evaluatePOCOResult xmlParse pocoResult { acceptedOutcomes := [HTTPResponse.noContent] }

/-! ### `RWSInterface` -/

def compareSingleContent (rwsResult : RWSResult) (xmlAttribute : XMLAttribute)
    (compareString : Text) : TriBool :=
  if rwsResult.success then .ofBool (rwsResult.textContent xmlAttribute == compareString)
  else .unknownValue

/-- What `getIOSignal` finds in a reply. -/
def readIOSignal (pocoResult : POCOResult) : Text :=
  let rwsResult := evaluateReading xmlParse pocoResult
  if rwsResult.success then rwsResult.textContent XMLAttributes.classLvalue else []

/-- What `isAutoMode` finds in a reply. -/
def readAutoMode (pocoResult : POCOResult) : TriBool :=
  compareSingleContent (evaluateReading xmlParse pocoResult) XMLAttributes.classOpmode
    SystemConstants.panelOperationModeAuto

def getIOSignal (iosignal : Text) : RwsProgram Text := do
  let pocoResult ← Program.request (getIOSignalRequest iosignal)
  pure (readIOSignal xmlParse pocoResult)

def setIOSignal (iosignal value : Text) : RwsProgram Bool := do
  let pocoResult ← Program.request (setIOSignalRequest iosignal value)
  pure (evaluateWriting xmlParse pocoResult).success

def isAutoMode : RwsProgram TriBool := do
  let pocoResult ← Program.request getPanelOperationModeRequest
  pure (readAutoMode xmlParse pocoResult)

/-! ### `RWSStateMachineInterface` -/

/-- The loops of `toggleIOSignal`, with the attempts that are left. -/
def attempts (iosignal value : Text) : ℕ → Bool → RwsProgram Bool
  | 0, result => pure result
  | n + 1, result =>
      if result then pure result
      else do
        let result ← setIOSignal xmlParse iosignal value
        if result then
          let level ← getIOSignal xmlParse iosignal
          attempts iosignal value n (level == value)
        else attempts iosignal value n result

def maxNumberOfAttempts : ℕ := 5

def toggleIOSignal (iosignal : Text) : RwsProgram Bool := do
  let autoMode ← isAutoMode xmlParse
  if autoMode.isTrue then
    let result ← attempts xmlParse iosignal SystemConstants.low maxNumberOfAttempts false
    if result then attempts xmlParse iosignal SystemConstants.high maxNumberOfAttempts false
    else pure result
  else pure false

end client

end AbbWrapper
