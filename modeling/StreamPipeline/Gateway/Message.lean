import StreamPipeline.Dialogue.Call
import StreamPipeline.Http.Exchange
import StreamPipeline.Http.Status
import StreamPipeline.Json.Diagnostic
import StreamPipeline.Json.Reader
import StreamPipeline.Json.Record

/-! # Messages of the gateway

The bodies that the gateway and the job manager send, the errors in them, and the columns in the
rows of a description.
-/

namespace StreamPipeline.Gateway

open Json (required optional withDefault listOf? string? bool? read? diagnosticItems)

/-- A body with a single text field. -/
def textField? (name : String) (v : Json) : Option String := do
  let [s] ← v.record? [name] 1 | none
  required string? s

/-! ### Result pages -/

structure ResultSet where
  columns : List String
  rows : List (List Json)

def ResultSet.empty : ResultSet := ⟨[], []⟩

def ResultSet.read? (v : Json) : Option ResultSet := do
  let [columns, rows] ← v.record? ["columns", "data"] 0 | none
  let columns ← withDefault [] (listOf? (textField? "name")) columns
  let rows ← withDefault [] (listOf? fun row => do
    let [fields] ← row.record? ["fields"] 0 | none
    withDefault [] (listOf? fun cell => some cell.canonical) fields) rows
  return ⟨columns, rows⟩

structure Page where
  kind : String
  next : Option String
  job : Option String
  results : ResultSet

def Page.read? (v : Json) : Option Page := do
  let [kind, next, job, results] ←
    v.record? ["resultType", "nextResultUri", "jobID", "results"] 4 | none
  return ⟨← required string? kind, ← optional string? next, ← optional string? job,
    (← optional ResultSet.read? results).getD .empty⟩

/-- The cause of a failed job, if the body names one. -/
def rootException? (v : Json) : Option (Option String) := do
  let [cause] ← v.record? ["root-exception"] 1 | none
  optional string? cause

/-! ### Errors -/

/-- The errors that a body lists; a body of any other form lists none. -/
def listedErrors (body : String) : List String :=
  let listed := do
    let [errors] ← (← read? body).record? ["errors"] 0 | none
    withDefault [] (listOf? string?) errors
  listed.getD []

def refusal (status : Nat) (body : String) : RuntimeError :=
  match listedErrors body with
  | [] => .rejected (Http.statusText status ++ ": " ++ body)
  | errors => .rejected (Text.join "\n" errors)

/-- The body of a successful reply. -/
def body (url : Http.Url) : Http.Reply → Except RuntimeError String
  | .dropped => .error (.transport ("error sending request for url (" ++ url.text ++ ")"))
  | .response status text =>
    if Http.isSuccess status then .ok text else .error (refusal status text)

/-- A successful reply in the form that the reader expects. -/
def decoded {α : Type} (read : Json → Option α) (url : Http.Url) (reply : Http.Reply) :
    Except RuntimeError α := do
  let text ← body url reply
  match (Json.read? text).bind read with
  | some a => return a
  | none => throw (.undecodable text)

/-! ### Descriptions -/

/-- The place of the first column of that name, in any letter case. -/
def position? (wanted : String) (names : List String) : Option Nat :=
  names.findIdx? (Text.eqIgnoreCase wanted)

def textAt? (row : List Json) (i : Nat) : Option String := row[i]?.bind string?

def columnOfRow (name type : Nat) (nullable : Option Nat) (row : List Json) :
    Except RuntimeError Column :=
  match textAt? row name, textAt? row type with
  | some n, some t =>
    match Column.ofTypeText n t with
    | .error e => .error (.schema e)
    | .ok c =>
      match (nullable.bind fun i => row[i]?).bind bool? with
      | some b => .ok { c with nullable := b }
      | none => .ok c
  | _, _ =>
    .error (.protocol ("malformed DESCRIBE row: [" ++ diagnosticItems row ++ "]"))

/-- The columns of a description, by the names of its header. -/
def columnsOf (names : List String) (rows : List (List Json)) : Except RuntimeError (List Column) :=
  match position? "name" names, position? "type" names with
  | some name, some type => rows.mapM (columnOfRow name type (position? "null" names))
  | _, _ =>
    let shown := "[" ++ Text.join ", " (names.map Text.quoted) ++ "]"
    .error (.protocol ("DESCRIBE result lacks name/type columns: " ++ shown))

end StreamPipeline.Gateway
