import StreamPipeline.Dialogue.Basic
import StreamPipeline.Text.Basic

/-! # Messages of a Postgres server

What a client sends and how the server may answer it. Every connection is used for one purpose and
then given up.
-/

namespace StreamPipeline.Postgres

/-- An error with the fields that a server reports. -/
structure ServerError where
  severity : String
  code : String
  message : String
  detail : Option String
  hint : Option String
deriving Repr, DecidableEq

def ServerError.text (e : ServerError) : String :=
  e.message ++ " (sqlstate=" ++ e.code ++ " severity=" ++ e.severity ++ " detail="
    ++ e.detail.getD "n/a" ++ " hint=" ++ e.hint.getD "n/a" ++ ")"

/-- Another writer has created the same object first. -/
def ServerError.isLostRace (e : ServerError) : Bool :=
  match e.code with
  | "42P04" | "42P06" | "42P07" => true
  | "23505" =>
    Text.occursIn "pg_type_typname_nsp_index" e.message
      || Text.occursIn "pg_type_typname_nsp_index" (e.detail.getD "")
      || Text.occursIn "pg_namespace_nspname_index" e.message
  | _ => false

inductive Message where
  | startup (user database : String)
  | password (text : String)
  | query (sql : String)
  | parse (sql : String)
  | bind (value : String)
deriving Repr, DecidableEq

/-- Why a server did not do what it was sent. -/
inductive Refusal where
  | error (cause : ServerError)
  | closed
deriving Repr, DecidableEq

def Refusal.text : Refusal → String
  | error cause => cause.text
  | closed => "connection closed"

def Refusal.isLostRace : Refusal → Bool
  | error cause => cause.isLostRace
  | closed => false

/-- How a server answers somebody who wants to connect. -/
inductive Admission where
  | accepted
  | passwordWanted
  | refused (r : Refusal)
deriving Repr, DecidableEq

/-- A bound query answers with the number of its rows. -/
def Message.Answer : Message → Type
  | startup _ _ | password _ => Admission
  | query _ | parse _ => Except Refusal Unit
  | bind _ => Except Refusal Nat

/-- The answer of a server that closes the connection. -/
def Message.closed : (m : Message) → m.Answer
  | startup _ _ | password _ => Admission.refused .closed
  | query _ | parse _ | bind _ => Except.error Refusal.closed

/-- The texts of a message, which end with a null character on the wire. -/
def Message.texts : Message → List String
  | startup user database => [user, database]
  | password text | query text | parse text => [text]
  | bind _ => []

def Message.canBeSent (m : Message) : Bool := m.texts.all fun t => !t.toList.contains '\x00'

/-- Why a conversation ended. -/
inductive Failure where
  | refused (r : Refusal)
  | noPassword
  | unexpected
  | unsendable
deriving Repr, DecidableEq

def Failure.text : Failure → String
  | refused r => r.text
  | noPassword => "invalid configuration"
  | unexpected => "unexpected message from server"
  | unsendable => "error encoding message to server"

abbrev Conversation (α : Type) := ExceptT Failure (Dialogue Message Message.Answer) α

namespace Conversation

def send (m : Message) : Conversation m.Answer :=
  if m.canBeSent then ExceptT.lift (Dialogue.call m) else throw .unsendable

end Conversation

end StreamPipeline.Postgres
