import StreamPipeline.Pipeline.Basic
import StreamPipeline.Schema.Column

/-! # Collaborators

What a run asks of the streaming runtime and of the servers of relational sinks. Statements are
executed one at a time; inserts are submitted first and accepted later, in any order.
-/

namespace StreamPipeline

/-- Why the runtime did not do what it was asked. -/
inductive RuntimeError where
  | transport (text : String)
  | rejected (message : String)
  | protocol (message : String)
  | undecodable (body : String)
  | schema (cause : MalformedType)
deriving Repr, DecidableEq

def RuntimeError.message : RuntimeError → String
  | transport text => "HTTP error: " ++ text
  | rejected message => message
  | protocol message => "unexpected runtime response: " ++ message
  | undecodable body => "unexpected runtime response: " ++ body
  | schema cause => cause.message

/-- An insert on its way: the operation that carries it, and its text. -/
structure JobHandle where
  operation : String
  statement : String
deriving Repr, DecidableEq

structure JobId where
  text : String
deriving Repr, DecidableEq

/-- How the jobs of a pipeline ended. -/
inductive JobState where
  | finished
  | canceled
  | failed (job : JobId) (reason : String)
deriving Repr, DecidableEq

/-- A submitted insert that is not accepted yet, with its place among the inserts. -/
structure PendingJob where
  index : Nat
  handle : JobHandle
deriving Repr, DecidableEq

inductive Call where
  | execute (sql : String)
  | describe (view : String)
  | submit (sql : String)
  | nextAccepted (first : PendingJob) (rest : List PendingJob)
  | wait (pipeline : String) (jobs : List JobId)
  | databaseExists (sink : PostgresSink) (database : String)
  | createDatabase (sink : PostgresSink) (database : String)
  | executeIn (sink : PostgresSink) (database sql : String)
deriving Repr, DecidableEq

/-- Which of the pending jobs is decided next, and how. -/
structure Decision (pending : List PendingJob) where
  place : Fin pending.length
  result : Except RuntimeError JobId

def Call.Answer : Call → Type
  | execute _ => Except RuntimeError Unit
  | describe _ => Except RuntimeError (List Column)
  | submit _ => Except RuntimeError JobHandle
  | nextAccepted first rest => Decision (first :: rest)
  | wait _ _ => Except RuntimeError JobState
  | databaseExists _ _ => Except String Bool
  | createDatabase _ _ => Except String Unit
  | executeIn _ _ _ => Except String Unit

end StreamPipeline
