import StreamPipeline.Gateway.Client
import StreamPipeline.Sql.Quote

/-! # Operations of a session

Every statement is an operation. It is polled until it has left its running states, and its result
is read page by page along the links.
-/

namespace StreamPipeline.Gateway

open Http.Exchange (Step)

/-- The state of an operation, as its status names it. -/
inductive OperationState where
  | finished
  | running
  | failed
  | ended (name : String)
deriving Repr, DecidableEq

def OperationState.ofName : String → OperationState
  | "FINISHED" => finished
  | "INITIALIZED" | "PENDING" | "RUNNING" => running
  | "ERROR" => failed
  | name => ended name

/-- What the pages of a result hold together. -/
structure Rows where
  job : Option String
  columns : List String
  rows : List (List Json)

namespace Rows

def empty : Rows := ⟨none, [], []⟩

/-- The first job that is reported and the first header with a column stay; rows are added. -/
def add (page : Page) (r : Rows) : Rows where
  job := r.job.or page.job
  columns := if r.columns.isEmpty then page.results.columns else r.columns
  rows := r.rows ++ page.results.rows

/-- The job of a result: the one that is reported, or else the text in its first cell. -/
def reportedJob? (r : Rows) : Option JobId :=
  (r.job.or (r.rows.head?.bind fun row => textAt? row 0)).map JobId.mk

end Rows

/-- Where to go on after a page, if anywhere. -/
def Page.following? (gateway here : String) (page : Page) : Option String :=
  match page.kind with
  | "EOS" => none
  | "NOT_READY" => some here
  | _ => page.next.map (gateway ++ ·)

namespace Session

/-- Sends a statement and gives the operation that carries it. -/
def start (s : Session) (sql : String) : Client String :=
  Client.ask (textField? "operationHandle") .post (s.url ++ "/statements")
    (some (.object [("statement", .string sql)]))

/-- Polls an operation until it has left its running states. -/
def lastState (s : Session) (operation : String) : Client OperationState :=
  Client.fetch (textField? "status") (fun _ => s.operationUrl operation ++ "/status")
    (fun _ name => match OperationState.ofName name with
      | .running => .ok (.again ())
      | state => .ok (.stop state))
    ()

/-- Waits until an operation has finished. A failed one is asked for its result, which carries the
cause. -/
def finish (s : Session) (operation : String) : Client Unit := do
  match ← s.lastState operation with
  | .finished | .running => return
  | .failed =>
    let _ ← Client.ask Page.read? .get (s.firstPage operation) none
    throw (.rejected ("operation " ++ operation ++ " failed"))
  | .ended name => throw (.rejected ("operation " ++ operation ++ " ended in state " ++ name))

/-- The whole result of a finished operation. -/
def rows (s : Session) (operation : String) : Client Rows :=
  Client.fetch Page.read? (fun place : String × Rows => place.1)
    (fun place page =>
      let sofar := place.2.add page
      match page.following? s.gateway place.1 with
      | some next => .ok (.again (next, sofar))
      | none => .ok (.stop sofar))
    (s.firstPage operation, .empty)

def execute (s : Session) (sql : String) : Client Unit := do
  s.finish (← s.start sql)

def describe (s : Session) (view : String) : Client (List Column) := do
  let operation ← s.start ("DESCRIBE " ++ Sql.quoteIdent view)
  s.finish operation
  let r ← s.rows operation
  columnsOf r.columns r.rows

def submit (s : Session) (sql : String) : Client JobHandle := do
  return ⟨← s.start sql, sql⟩

/-- Waits until an insert is accepted as a job. -/
def accepted (s : Session) (operation : String) : Client JobId := do
  s.finish operation
  match (← s.rows operation).reportedJob? with
  | some job => return job
  | none => throw (.protocol ("no job id returned for operation " ++ operation))

end Session

end StreamPipeline.Gateway
