import StreamPipeline.Pipeline.Dependencies
import StreamPipeline.Template.Render

/-! # Prepared pipelines

A pipeline with its templates rendered and its dependencies known. Preparing sends nothing to
anyone, so it is also the static check of a pipeline.
-/

namespace StreamPipeline

/-- The query of a transform. -/
def Transform.query (t : Transform) : Except PipelineError String :=
  match t.params with
  | none => .ok t.sql
  | some params =>
    match Template.render t.sql params with
    | .ok sql => .ok sql
    | .error e => .error (.template t.name e.message)

/-- The queries of all transforms, or the first error. -/
def renderTransforms (transforms : List Transform) : Except PipelineError (List String) :=
  transforms.mapM Transform.query

structure Prepared where
  pipeline : Pipeline
  queries : List String
  graph : DependencyGraph

def Pipeline.prepare (p : Pipeline) : Except PipelineError Prepared := do
  let queries ← renderTransforms p.transforms
  match DependencyGraph.build p queries with
  | .ok graph => return ⟨p, queries, graph⟩
  | .error e => throw (.config e)

/-- What the static check reports. -/
structure CheckReport where
  pipeline : String
  sources : Nat
  transforms : Nat
  sinks : Nat
  compileOrder : List String
  dependencies : List (String × List String)
deriving Repr, DecidableEq

def Pipeline.entityName? (p : Pipeline) : Entity → Option String
  | .source i => p.sourceNames[i]?
  | .transform i => p.transformNames[i]?
  | .sink i => p.sinkNames[i]?

/-- Renders the templates and resolves the references, and nothing else. -/
def Pipeline.check (p : Pipeline) : Except PipelineError CheckReport := do
  let prepared ← p.prepare
  let graph := prepared.graph
  return {
    pipeline := p.name
    sources := p.sources.length
    transforms := p.transforms.length
    sinks := p.sinks.length
    compileOrder := graph.compileOrder.filterMap p.entityName?
    dependencies := (p.transformNames ++ p.sinkNames).map fun n => (n, graph.dependencies n) }

end StreamPipeline
