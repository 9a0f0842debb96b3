import AbbWrapper.RwsClient

/-! # HTTP communication

The results of `POCOClient` and how `RWSClient` evaluates them.  What the POCO library does is
given: an exchange over HTTP ends in any `POCOResult`, and the XML parser is any function from texts
to documents.

* A status of HTTP is a number; those that the client asks for have the names of the source
  (`ok`, `created`, `noContent`, `switchingProtocols`).
* `EvaluationConditions` are what the callers ask of an answer: the accepted outcomes, and whether there
  has to be a document.
* `POCOResult.Accepted` says that the exchange came to its end with one of the accepted outcomes.  Where
  no document is asked for, this is all that `evaluatePOCOResult` checks
  (`evaluatePOCOResult_success`). -/

namespace AbbWrapper

/-- `POCOResult::GeneralStatus`. -/
inductive GeneralStatus where
  | unknown
  | ok
  | websocketNotAllocated
  | exceptionPocoInvalidArgument
  | exceptionPocoTimeout
  | exceptionPocoNet
  | exceptionPocoWebsocket
deriving DecidableEq, Repr

namespace HTTPResponse

/-- `HTTP_SWITCHING_PROTOCOLS`. -/
def switchingProtocols : ℕ := 101
/-- `HTTP_OK`. -/
def ok : ℕ := 200
/-- `HTTP_CREATED`. -/
def created : ℕ := 201
/-- `HTTP_NO_CONTENT`. -/
def noContent : ℕ := 204

end HTTPResponse

/-- `POCOInfo::HTTPInfo::ResponseInfo`. -/
structure ResponseInfo where
  status : ℕ := HTTPResponse.ok
  headerInfo : Text := []
  content : Text := []
deriving DecidableEq, Repr

/-- `POCOInfo::WebSocketInfo`. -/
structure WebSocketInfo where
  flags : ℕ := 0
  frameContent : Text := []
deriving DecidableEq, Repr

/-- `POCOClient::POCOResult`: how an exchange has ended, and what was received. -/
structure POCOResult where
  status : GeneralStatus := .unknown
  exceptionMessage : Text := []
  response : ResponseInfo := {}
  websocket : WebSocketInfo := {}
deriving DecidableEq, Repr

/-- The methods of HTTP that the client uses. -/
inductive HTTPMethod where
  | get
  | post
  | put
  | delete
deriving DecidableEq, Repr

/-- `POCOInfo::HTTPInfo::RequestInfo`. -/
structure RequestInfo where
  method : HTTPMethod
  uri : Text
  content : Text := []
deriving DecidableEq, Repr

/-- `EvaluationConditions`: the outcomes that count as a success, and whether a document is wanted. -/
structure EvaluationConditions where
  parseMessageIntoXml : Bool := false
  acceptedOutcomes : List ℕ := []

/-- The request was answered, and the answer is one of the accepted outcomes. -/
def checkAcceptedOutcomes (pocoResult : POCOResult) (conditions : EvaluationConditions) :
    RWSResult :=
  if pocoResult.status = .ok ∧ pocoResult.exceptionMessage = [] then
    if pocoResult.response.status ∈ conditions.acceptedOutcomes then { success := true }
    else { errorMessage := "checkAcceptedOutcomes(...): RWS response status not accepted" }
  else {}

section parse
variable (xmlParse : Text → Option XMLNode)

/-- The document of the response or, if that is empty, of the WebSocket frame. -/
def parseMessage (result : RWSResult) (pocoResult : POCOResult) : RWSResult :=
  let message := if pocoResult.response.content ≠ [] then pocoResult.response.content
    else pocoResult.websocket.frameContent
  if message = [] then
    { result with success := false, errorMessage := "parseMessage(...): RWS response was empty" }
  else
    match xmlParse message with
    | some document => { result with xmlDocument := some document }
    | none =>
        { result with
          success := false
          errorMessage := "parseMessage(...): XML parser failed to parse RWS response" }

def evaluatePOCOResult (pocoResult : POCOResult) (conditions : EvaluationConditions) : RWSResult :=
  let result := checkAcceptedOutcomes pocoResult conditions
  if result.success && conditions.parseMessageIntoXml then parseMessage xmlParse result pocoResult
  else result

end parse

/-- The exchange came to its end, with the given outcome. -/
def POCOResult.Accepted (pocoResult : POCOResult) (outcome : ℕ) : Prop :=
  pocoResult.status = .ok ∧ pocoResult.exceptionMessage = [] ∧ pocoResult.response.status = outcome

instance (pocoResult : POCOResult) (outcome : ℕ) : Decidable (pocoResult.Accepted outcome) :=
  inferInstanceAs (Decidable (_ ∧ _ ∧ _))

/-- Without a document one accepted outcome is all there is to check. -/
theorem evaluatePOCOResult_success (xmlParse : Text → Option XMLNode) (pocoResult : POCOResult)
    (outcome : ℕ) :
    (evaluatePOCOResult xmlParse pocoResult { acceptedOutcomes := [outcome] }).success = true ↔
      pocoResult.Accepted outcome := by
  unfold evaluatePOCOResult checkAcceptedOutcomes POCOResult.Accepted
  by_cases hstatus : pocoResult.status = .ok ∧ pocoResult.exceptionMessage = []
  · by_cases houtcome : pocoResult.response.status = outcome
    · simp [hstatus, houtcome]
    · simp [hstatus, houtcome]
  · rw [if_neg hstatus, ← and_assoc]
    simp [hstatus]

end AbbWrapper
