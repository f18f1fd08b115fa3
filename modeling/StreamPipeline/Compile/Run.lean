import StreamPipeline.Compile.Sinks
import StreamPipeline.Compile.Views
import StreamPipeline.Pipeline.Prepared

/-! # Runs

A run compiles every view and sink, submits one insert for each sink, waits until all of them are
accepted, and then until the jobs have ended. A dry run stops before anything is submitted.
-/

namespace StreamPipeline

/-- An insert that is ready to be submitted. -/
structure PendingInsert where
  sink : String
  sql : String
deriving Repr, DecidableEq

/-- What a run leaves behind. -/
inductive Outcome where
  | dryRun (plan : List Statement)
  | run (plan : List Statement) (jobs : List JobId) (state : JobState)

namespace Build

/-- One view of the compile order; sinks come later. -/
def view (ctx : Context) (p : Prepared) : Entity → Build Unit
  | .source i => (p.pipeline.sources[i]?).forM (source ctx)
  | .transform i =>
    match p.pipeline.transforms[i]?, p.queries[i]? with
    | some t, some sql => transform t.name sql
    | _, _ => pure ()
  | .sink _ => pure ()

/-- The sinks of a compile order. -/
def sinksOf (p : Pipeline) (order : List Entity) : List Sink :=
  order.filterMap fun e => match e with
    | .sink i => p.sinks[i]?
    | _ => none

/-- Provisions a sink and records the insert that fills it. -/
def sink (ctx : Context) (dryRun : Bool) (s : Sink) (l : SinkLayout) : Build PendingInsert := do
  provision ctx dryRun s l
  let sql := insertStatement s.name s.input (← schema s.name)
  record .submit .insert s.name sql
  return ⟨s.name, sql⟩

/-- Compiles everything. All sinks are mapped before the first one is provisioned. -/
def compile (ctx : Context) (dryRun : Bool) (p : Prepared) : Build (List PendingInsert) := do
  session ctx p.pipeline
  let order := p.graph.compileOrder
  order.forM (view ctx p)
  let sinks := sinksOf p.pipeline order
  let layouts ← sinks.mapM layout
  (sinks.zip layouts).mapM fun (s, l) => sink ctx dryRun s l

/-! ### Submission -/

def submitFailed (statement : Option String) (e : RuntimeError) : PipelineError :=
  .execution .submit statement e.message

def submitAll : Nat → List PendingInsert → Build (List PendingJob)
  | _, [] => return []
  | index, i :: rest => do
    let handle ← orThrow (submitFailed (some i.sql)) (← ask (.submit i.sql))
    return ⟨index, handle⟩ :: (← submitAll (index + 1) rest)

/-- Puts an accepted job behind those of earlier inserts. -/
def insertJob (index : Nat) (job : JobId) : List (Nat × JobId) → List (Nat × JobId)
  | [] => [(index, job)]
  | (i, j) :: rest =>
    if index < i then (index, job) :: (i, j) :: rest else (i, j) :: insertJob index job rest

/-- Waits until each of `n` pending jobs is accepted, in whatever order that happens. A wait ends
with a job or with an error of the runtime; that it breaks off on its own is left out. When one has
failed, the others are aborted, and their handles are still out. -/
def acceptAll : Nat → List PendingJob → List (Nat × JobId) → Build (List JobId)
  | n + 1, first :: rest, accepted => do
    let decision ← ask (.nextAccepted first rest)
    count .ended
    let decided := (first :: rest)[decision.place]
    let job ← orThrow (submitFailed (some decided.handle.statement)) decision.result
    acceptAll n ((first :: rest).eraseIdx decision.place) (insertJob decided.index job accepted)
  | _, _, accepted => return accepted.map (·.2)

/-- Submits the inserts and waits for their jobs, each in a wait with a handle of its own. A failed
job fails the run. -/
def submit (pipeline : String) (inserts : List PendingInsert) :
    Build (List JobId × JobState) := holding do
  issue .submit .sessionConfig pipeline (nameStatement pipeline)
  let pending ← submitAll 0 inserts
  count (.spawn pending.length)
  let jobs ← acceptAll pending.length pending []
  let failed (message : String) : PipelineError := .execution .execute none message
  match ← orThrow (fun e => failed e.message) (← ask (.wait pipeline jobs)) with
  | .failed job reason => throw (failed ("job " ++ job.text ++ " failed: " ++ reason))
  | state => return (jobs, state)

/-- A whole run of a pipeline. -/
def run (ctx : Context) (dryRun : Bool) (p : Pipeline) : Build Outcome := do
  let prepared ← orThrow id p.prepare
  let inserts ← compile ctx dryRun prepared
  if dryRun then
    record .submit .sessionConfig p.name (nameStatement p.name)
    return .dryRun (← get).plan
  else
    let (jobs, state) ← submit p.name inserts
    return .run (← get).plan jobs state

end Build

end StreamPipeline
