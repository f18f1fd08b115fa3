import StreamPipeline.Draft.Document
import StreamPipeline.Http.Exchange
import StreamPipeline.Http.Status

/-! # Locations of documents

A document is a file or lies on a server. The file system is a function from paths to contents, so
loading depends on nothing but its arguments and the reply of the server.
-/

namespace StreamPipeline

inductive Location where
  | file (path : String)
  | remote (url : String)
deriving Repr, DecidableEq

namespace Location

def isRemote (location : String) : Bool :=
  Text.startsWith "http://" location || Text.startsWith "https://" location

def parse (location : String) : Except ConfigError Location :=
  if isRemote location then .ok (.remote location)
  else match Text.after? "file://" location with
    | some path => .ok (.file path)
    | none =>
      if Text.occursIn "://" location then .error (.unsupportedLocation location)
      else .ok (.file location)

end Location

/-- The contents of each path, or the reason why it cannot be read. -/
abbrev Files := String → Except String ByteArray

/-- A file is read as a whole and must be text. -/
def Files.read (files : Files) (path : String) : Except ConfigError String :=
  match files path with
  | .error reason => .error (.unreadableFile path reason)
  | .ok bytes =>
    match String.fromUTF8? bytes with
    | some text => .ok text
    | none => .error (.unreadableFile path "stream did not contain valid UTF-8")

namespace Http

/-- The body of a reply, unless its status is one of an error. -/
def Reply.text (url : Url) : Reply → Except String String
  | .dropped => .error ("error sending request for url (" ++ url.text ++ ")")
  | .response status body =>
    let failure (kind : String) : Except String String :=
      .error ("HTTP status " ++ kind ++ " error (" ++ statusText status ++ ") for url ("
        ++ url.text ++ ")")
    if isClientError status then failure "client"
    else if isServerError status then failure "server"
    else .ok body

/-- Fetches a text with a single request. -/
def fetchText (location : String) : Exchange (Except String String) :=
  match Url.parse? location with
  | none => return .error "builder error"
  | some url => do return (← Exchange.send ⟨.get, url, none⟩).text url

end Http

/-- The text of a document, wherever it is. -/
def documentText (files : Files) (location : String) :
    ExceptT PipelineError Http.Exchange String := do
  match ← ((Location.parse location).mapError .config : Except PipelineError Location) with
  | .file path => ((files.read path).mapError .config : Except PipelineError String)
  | .remote url =>
    match ← ExceptT.lift (Http.fetchText url) with
    | .ok text => return text
    | .error reason => throw (.config (.failedFetch url reason))

/-- The pipeline of a document, wherever it is. -/
def Pipeline.load (env : Environment) (files : Files) (location : String) :
    ExceptT PipelineError Http.Exchange Pipeline := do
  Pipeline.ofDocument env (← documentText files location)

end StreamPipeline
