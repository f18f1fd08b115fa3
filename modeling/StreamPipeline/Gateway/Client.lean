import StreamPipeline.Gateway.Message
import StreamPipeline.Pipeline.Settings

/-! # Requests to the gateway

All statements of a run go through one session. A request that fails, a reply that is refused and a
body of the wrong form end what is being done.
-/

namespace StreamPipeline.Gateway

open Http

abbrev Client (α : Type) := ExceptT RuntimeError Exchange α

/-- A session and the servers it belongs to; the locations do not end with a slash. -/
structure Session where
  gateway : String
  jobmanager : String
  id : String
deriving Repr, DecidableEq

def requestTo (method : Method) (location : String) (body : Option Json) :
    Except RuntimeError Request :=
  match Url.parse? location with
  | some url => .ok ⟨method, url, body⟩
  | none => .error (.transport "builder error")

namespace Client

def send (method : Method) (location : String) (body : Option Json) : Client (Request × Reply) := do
  let request ← requestTo method location body
  let reply ← ExceptT.lift (Exchange.send request)
  return (request, reply)

/-- Sends one request and reads the body of its reply. -/
def ask {α : Type} (read : Json → Option α) (method : Method) (location : String)
    (body : Option Json) : Client α := do
  let (request, reply) ← send method location body
  decoded read request.url reply

/-- Fetches one body after the other until a step stops. -/
def fetch {α β σ : Type} (read : Json → Option α) (location : σ → String)
    (step : σ → α → Except RuntimeError (Exchange.Step σ β)) (start : σ) : Client β :=
  Exchange.loop (fun s => requestTo .get (location s) none)
    (fun s request reply => do step s (← decoded read request.url reply)) start

end Client

namespace Session

def url (s : Session) : String := s.gateway ++ "/v1/sessions/" ++ s.id

def operationUrl (s : Session) (operation : String) : String :=
  s.url ++ "/operations/" ++ operation

/-- The first page of the results of an operation. -/
def firstPage (s : Session) (operation : String) : String :=
  s.operationUrl operation ++ "/result/0?rowFormat=JSON"

/-- Opens a session. -/
def connect (settings : Settings) : Client Session := do
  let gateway := Text.trimEndOf '/' settings.gatewayUrl
  let jobmanager := Text.trimEndOf '/' settings.jobmanagerUrl
  let request := Json.object [("sessionName", .string "manuscript")]
  let id ← Client.ask (textField? "sessionHandle") .post (gateway ++ "/v1/sessions") (some request)
  return ⟨gateway, jobmanager, id⟩

/-- Closes the session. Jobs that were accepted go on. -/
def close (s : Session) : Client Unit := do
  let (request, reply) ← Client.send .delete s.url none
  let _ ← body request.url reply

end Session

end StreamPipeline.Gateway
