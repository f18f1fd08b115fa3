import StreamPipeline.Pipeline.Basic
import StreamPipeline.Pipeline.Error
import StreamPipeline.Sql.Relations

/-! # Dependencies between views

A transform depends on the declared views that its query reads, a sink on its input. Every reference
points backwards, so compiling in the order of the declarations meets each view before its readers.
-/

namespace StreamPipeline

/-- A declared entity, by its place in its own list. -/
inductive Entity where
  | source (index : Nat)
  | transform (index : Nat)
  | sink (index : Nat)
deriving Repr, DecidableEq

/-- The declared entities with their names, in the order of declaration, and the edges between them
from what is read to its reader. -/
structure DependencyGraph where
  entities : List Entity
  names : List String
  edges : List (Nat × Nat)
deriving Repr, DecidableEq

namespace Pipeline

def sourceNames (p : Pipeline) : List String := p.sources.map (·.name)

def transformNames (p : Pipeline) : List String := p.transforms.map (·.name)

def sinkNames (p : Pipeline) : List String := p.sinks.map (·.name)

def viewNames (p : Pipeline) : List String := p.sourceNames ++ p.transformNames

def entities (p : Pipeline) : List Entity :=
  (List.range p.sources.length).map .source ++ (List.range p.transforms.length).map .transform
    ++ (List.range p.sinks.length).map .sink

end Pipeline

namespace DependencyGraph

/-- The place of the last view of that name, counted from `start`. -/
def lastIndex? (name : String) (start : Nat) : List String → Option Nat
  | [] => none
  | n :: rest => (lastIndex? name (start + 1) rest).or (if n = name then some start else none)

/-- The edges into the transform at `node`, one for each declared view that it reads. -/
def transformEdges (views : List String) (transform : String) (node : Nat) :
    List String → Except ConfigError (List (Nat × Nat))
  | [] => .ok []
  | relation :: rest =>
    match lastIndex? relation 0 views with
    | none => transformEdges views transform node rest
    | some dep =>
      if dep = node then .error (.selfReference transform)
      else if node < dep then .error (.forwardReference transform relation)
      else (transformEdges views transform node rest).map fun edges => (dep, node) :: edges

def allTransformEdges (views : List String) (node : Nat) :
    List Transform → List String → Except ConfigError (List (Nat × Nat))
  | t :: transforms, sql :: rendered => do
    let edges ← transformEdges views t.name node (Sql.referencedRelations sql)
    let more ← allTransformEdges views (node + 1) transforms rendered
    return edges.eraseDups ++ more
  | _, _ => .ok []

def sinkEdges (views : List String) (node : Nat) :
    List Sink → Except ConfigError (List (Nat × Nat))
  | [] => .ok []
  | s :: rest =>
    match lastIndex? s.input 0 views with
    | none => .error (.undeclaredInput s.name s.input)
    | some dep => (sinkEdges views (node + 1) rest).map fun edges => (dep, node) :: edges

/-- The graph of a pipeline and the queries of its transforms. Transforms without a query add no
edges. -/
def build (p : Pipeline) (rendered : List String) : Except ConfigError DependencyGraph := do
  let views := p.viewNames
  let edges ← allTransformEdges views p.sources.length p.transforms rendered
  let inputs ← sinkEdges views views.length p.sinks
  return ⟨p.entities, views ++ p.sinkNames, edges ++ inputs⟩

/-- How many edges lead to each entity. -/
def inDegrees (g : DependencyGraph) : List Nat :=
  (List.range g.entities.length).map fun node => (g.edges.filter fun e => e.2 == node).length

/-- Puts an index into an ascending list. -/
def insertIndex (i : Nat) : List Nat → List Nat
  | [] => [i]
  | j :: rest => if i ≤ j then i :: j :: rest else j :: insertIndex i rest

/-- One edge less into an entity, which is ready when none is left. -/
def release (state : List Nat × List Nat) (node : Nat) : List Nat × List Nat :=
  let left := state.1[node]?.getD 0 - 1
  (state.1.set node left, if left = 0 then insertIndex node state.2 else state.2)

/-- Takes the first of the ready entities until none is left. -/
def orderFrom (g : DependencyGraph) : Nat → List Nat → List Nat → List Nat
  | 0, _, _ => []
  | _ + 1, _, [] => []
  | fuel + 1, degrees, node :: ready =>
    let readers := (g.edges.filter fun e => e.1 == node).map (·.2)
    let state := readers.foldl release (degrees, ready)
    node :: orderFrom g fuel state.1 state.2

/-- A topological order; among the entities that are ready the first declared one comes first. -/
def compileOrder (g : DependencyGraph) : List Entity :=
  let degrees := g.inDegrees
  let ready := (List.range g.entities.length).filter fun node => degrees[node]? == some 0
  (orderFrom g g.entities.length degrees ready).filterMap fun node => g.entities[node]?

/-- The names that a declared entity reads, in the order of declaration. -/
def dependencies (g : DependencyGraph) (name : String) : List String :=
  match g.names.idxOf? name with
  | none => []
  | some node =>
    let readBy := (List.range g.names.length).filter fun i => g.edges.contains (i, node)
    readBy.filterMap fun i => g.names[i]?

end DependencyGraph

end StreamPipeline
