import StreamPipeline.Command.Check
import StreamPipeline.Compile.Plan
import StreamPipeline.Compile.Run
import StreamPipeline.Gateway.Jobs
import StreamPipeline.Gateway.Turns
import StreamPipeline.Json.Printer
import StreamPipeline.Postgres.Administration

/-! # The run command

A run goes through one session of the gateway, to which the command, the run and its waits share
handles. However the run ended, the session is closed once nobody else has a handle to it, and the
result of the command is that of the run.
-/

namespace StreamPipeline.Command

open Http (Exchange)

/-- The ways to the gateway and to the servers of relational sinks; the turns of the waits for
inserts; and how many of the waits that were aborted have not given back their handles yet when a
run returns. -/
structure Network (m : Type → Type) where
  http : {α : Type} → Exchange α → m α
  postgres : PostgresSink → (message : Postgres.Message) → m message.Answer
  turns : List Nat
  lingering : (aborted : Nat) → m (Fin (aborted + 1))

namespace Network

variable {σ : Type}

/-- A network whose gateway follows a script, and whose servers answer in view of what they were
sent before. -/
def scheduled (servers : PostgresSink → (message : Postgres.Message) → σ → message.Answer × σ)
    (turns : List Nat) (lingering : (aborted : Nat) → σ → Fin (aborted + 1)) :
    Network (StateT σ Exchange) where
  http x := StateT.lift x
  postgres sink message := fun s => return servers sink message s
  turns := turns
  lingering aborted := fun s => return (lingering aborted s, s)

/-- The same where inserts are awaited one after the other, and no aborted wait lingers. -/
def scripted (servers : PostgresSink → (message : Postgres.Message) → σ → message.Answer × σ) :
    Network (StateT σ Exchange) :=
  scheduled servers [] fun aborted _ => ⟨0, aborted.succ_pos⟩

/-- The network for a computation that keeps a state of its own. -/
def lift {m : Type → Type} [Monad m] (net : Network m) : Network (StateT σ m) where
  http x := StateT.lift (net.http x)
  postgres sink message := StateT.lift (net.postgres sink message)
  turns := net.turns
  lingering aborted := StateT.lift (net.lingering aborted)

end Network

variable {m : Type → Type} [Monad m]

/-- Does what a run asks for. How it waits for the next insert is given. -/
def perform (net : Network m) (session : Gateway.Session)
    (next : (first : PendingJob) → (rest : List PendingJob) → m (Decision (first :: rest))) :
    (call : Call) → m call.Answer
  | .execute sql => net.http (session.execute sql).run
  | .describe view => net.http (session.describe view).run
  | .submit sql => net.http (session.submit sql).run
  | .nextAccepted first rest => next first rest
  | .wait _ jobs => net.http (session.wait jobs).run
  | .databaseExists sink database =>
    (Postgres.databaseExists sink database).run.interpret (net.postgres sink)
  | .createDatabase sink database =>
    (Postgres.createDatabase sink database).run.interpret (net.postgres sink)
  | .executeIn sink database sql =>
    (Postgres.executeIn sink database sql).run.interpret (net.postgres sink)

/-- Does what a run asks for while its waits go on in turns. -/
def performInTurns (net : Network m) (session : Gateway.Session) :
    (call : Call) → StateT Gateway.Waits m call.Answer :=
  perform net.lift session fun first rest waits =>
    net.http (session.next first rest waits.turns waits.progress)

/-- A run within a session, with the handles that are still out when it returns. The context of the
run is gone by then, and so is its handle. -/
def runIn (net : Network m) (session : Gateway.Session) (ctx : Context) (dryRun : Bool)
    (p : Pipeline) : m (Except PipelineError Outcome × Handles) := do
  let program := (ExceptT.run (Build.run ctx dryRun p)).run .start
  let ((outcome, left), _) ← (program.interpret (performInTurns net session)).run (.start net.turns)
  return (outcome, left.handles.giveBack)

/-- What is run and in what surroundings. -/
structure Task where
  location : String
  dryRun : Bool
  environment : Environment
  files : Files
  context : Context

/-- The name of the pipeline and what its run left behind. -/
def runTask (net : Network m) (t : Task) : ExceptT Complaint m (String × Outcome) := do
  let through {ε α : Type} (complain : ε → Complaint) (x : ExceptT ε Exchange α) :
      ExceptT Complaint m α :=
    (ExceptT.mk (net.http x.run)).adapt complain
  let p ← through (loadFailed t.location) (Pipeline.load t.environment t.files t.location)
  let settings := t.context.settings
  let refused (e : RuntimeError) : Complaint :=
    ⟨some ("Failed to open a session on " ++ settings.gatewayUrl), e.message⟩
  let session ← through refused (Gateway.Session.connect settings)
  let (outcome, handles) ← ExceptT.lift (runIn net session t.context t.dryRun p)
  let lingering ← ExceptT.lift (net.lingering handles.waits)
  if handles.held + lingering = 0 then
    let _ ← ExceptT.lift (net.http session.close.run)
  match outcome with
  | .ok o => return (p.name, o)
  | .error e => throw ⟨none, e.message⟩

/-! ### Printing -/

/-- How long compiling and the whole run took, in milliseconds. -/
structure Durations where
  compile : Nat
  total : Nat
deriving Repr, DecidableEq

/-- Seconds with two places. -/
def seconds (milliseconds : Nat) : String :=
  let hundredths := (milliseconds + 5) / 10
  toString (hundredths / 100) ++ "." ++ toString (hundredths / 10 % 10)
    ++ toString (hundredths % 10) ++ "s"

def stateWord : JobState → String
  | .finished => "Finished"
  | .canceled => "Canceled"
  | .failed _ _ => "Failed"

def outcomeTexts (d : Durations) (pipeline : String) : Outcome → List String
  | .dryRun plan =>
    [(Json.object [
      ("pipeline", .string pipeline),
      ("statements", planToJson plan),
      ("duration_secs", .float (Float.ofScientific d.total true 3))]).pretty]
  | .run plan jobs state =>
    ["Pipeline '" ++ pipeline ++ "' completed (" ++ stateWord state ++ ").",
      "  Statements:      " ++ toString plan.length,
      "  Jobs:            " ++ toString jobs.length]
    ++ (jobs.map fun job => "    " ++ job.text)
    ++ ["  Compile:         " ++ seconds d.compile, "  Duration:        " ++ seconds d.total]

def runPrintout (d : Durations) : Except Complaint (String × Outcome) → Printout
  | .ok (pipeline, outcome) => ⟨outcomeTexts d pipeline outcome, none⟩
  | .error c => ⟨[], some c⟩

end StreamPipeline.Command
