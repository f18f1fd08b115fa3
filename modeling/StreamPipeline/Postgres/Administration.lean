import StreamPipeline.Pipeline.Basic
import StreamPipeline.Postgres.Message
import StreamPipeline.Sql.Destination

/-! # Administration of a Postgres server

Looks up and creates what a relational sink needs. To lose a race against another writer is as good
as to win it, because the object exists afterwards either way.
-/

namespace StreamPipeline.Postgres

open Conversation (send)

/-- The database in which other databases are looked up and created. -/
def maintenanceDatabase : String := "postgres"

def existsQuery : String := "SELECT 1 FROM pg_database WHERE datname = $1"

/-! ### Connections -/

def settle (c : Credentials) : Admission → Conversation Unit
  | .accepted => return
  | .refused r => throw (.refused r)
  | .passwordWanted =>
    if c.password.isEmpty then throw .noPassword
    else do
      let admission : Admission ← send (.password c.password)
      match admission with
      | .accepted => return
      | .refused r => throw (.refused r)
      | .passwordWanted => throw .unexpected

/-- Connects to a database, with a password only if the server wants one. -/
def connect (c : Credentials) (database : String) : Conversation Unit := do
  settle c (← send (.startup c.username database))

/-! ### Single statements -/

def succeed {α : Type} : Except Refusal α → Conversation α
  | .ok a => return a
  | .error r => throw (.refused r)

/-- A statement that creates something; a lost race is a success. -/
def create (sql : String) : Conversation Unit := do
  let reply : Except Refusal Unit ← send (.query sql)
  match reply with
  | .ok () => return
  | .error r => if r.isLostRace then return else throw (.refused r)

/-- Whether a query with one parameter finds a row. -/
def finds (sql value : String) : Conversation Bool := do
  succeed (← send (.parse sql))
  let rows : Nat ← succeed (← send (.bind value))
  return 0 < rows

/-! ### Operations -/

/-- An answer, or the text of what went wrong. -/
abbrev Report (α : Type) := ExceptT String (Dialogue Message Message.Answer) α

def report {α : Type} (context : String) (c : Conversation α) : Report α :=
  c.adapt fun failure => context ++ ": " ++ failure.text

def connected (sink : PostgresSink) (database : String) : Report Unit :=
  report ("Connection to " ++ sink.host ++ ":" ++ toString sink.port.toNat ++ "/" ++ database
    ++ " failed") (connect sink.credentials database)

def databaseExists (sink : PostgresSink) (database : String) : Report Bool := do
  connected sink maintenanceDatabase
  report "Database lookup failed" (finds existsQuery database)

def createDatabase (sink : PostgresSink) (database : String) : Report Unit := do
  connected sink maintenanceDatabase
  report ("Failed to create database '" ++ database ++ "'") (create (Sql.createDatabase database))

def executeIn (sink : PostgresSink) (database sql : String) : Report Unit := do
  connected sink database
  report "Statement failed" (create sql)

end StreamPipeline.Postgres
