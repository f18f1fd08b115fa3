import StreamPipeline.Dialogue.Basic
import StreamPipeline.Dialogue.Call
import StreamPipeline.Pipeline.Settings
import StreamPipeline.Schema.Mapping
import StreamPipeline.Sql.Redact

/-! # Building

The state of one run: the views registered so far, the plan of statements and the handles to the
runtime that are out. The plan and the errors show statements with their secret options masked.
-/

namespace StreamPipeline

/-- What a statement creates or changes. -/
inductive StatementKind where
  | sessionConfig
  | catalog
  | function
  | sourceView
  | intermediateView
  | transformView
  | sinkTable
  | insert
deriving Repr, DecidableEq

def StatementKind.name : StatementKind → String
  | sessionConfig => "session_config"
  | catalog => "catalog"
  | function => "function"
  | sourceView => "source_view"
  | intermediateView => "intermediate_view"
  | transformView => "transform_view"
  | sinkTable => "sink_table"
  | insert => "insert"

/-- A statement of the plan, with the entity that it belongs to. -/
structure Statement where
  stage : Stage
  kind : StatementKind
  target : String
  sql : String
deriving Repr, DecidableEq

/-- The registered views: their names in the order of registration, and the columns of each. -/
structure ViewRegistry where
  order : List String
  schemas : String → Option (List Column)

namespace ViewRegistry

def empty : ViewRegistry := ⟨[], fun _ => none⟩

def get? (r : ViewRegistry) (name : String) : Option (List Column) := r.schemas name

def names (r : ViewRegistry) : List String := r.order

def views (r : ViewRegistry) : List (String × List Column) :=
  r.names.map fun name => (name, (r.get? name).getD [])

/-- Puts a name behind the others and sets its columns, whatever it had before. -/
def add (name : String) (columns : List Column) (r : ViewRegistry) : ViewRegistry where
  order := r.order ++ [name]
  schemas other := if other = name then some columns else r.schemas other

/-- A name is registered once and for all. -/
def register (name : String) (columns : List Column) (r : ViewRegistry) :
    Except ConfigError ViewRegistry :=
  if (r.get? name).isSome then .error (.alreadyRegistered name) else .ok (r.add name columns)

end ViewRegistry

/-- The handles to the runtime that are out, besides that of whoever has opened it: those that a run
holds itself, and those of the waits for its inserts, each of which has its own. -/
structure Handles where
  held : Nat
  waits : Nat
deriving Repr, DecidableEq

namespace Handles

def take (h : Handles) : Handles := { h with held := h.held + 1 }

def giveBack (h : Handles) : Handles := { h with held := h.held - 1 }

/-- Each of `n` waits gets a handle. -/
def spawn (n : Nat) (h : Handles) : Handles := { h with waits := h.waits + n }

/-- A wait that has ended gives its handle back. -/
def ended (h : Handles) : Handles := { h with waits := h.waits - 1 }

end Handles

/-- What is known when a run starts: the settings and the time in milliseconds. -/
structure Context where
  settings : Settings
  now : Int

structure BuildState where
  registry : ViewRegistry
  plan : List Statement
  handles : Handles

/-- Only the context of the run has a handle when it starts. -/
def BuildState.start : BuildState := ⟨.empty, [], ⟨1, 0⟩⟩

/-- A step of a run. After an error the state still shows what was done. -/
abbrev Build (α : Type) :=
  ExceptT PipelineError (StateT BuildState (Dialogue Call Call.Answer)) α

namespace Build

def ask (call : Call) : Build call.Answer :=
  ExceptT.lift (StateT.lift (Dialogue.call call))

/-- Goes on with what is there, or ends the run. -/
def orThrow {ε α : Type} (wrap : ε → PipelineError) : Except ε α → Build α
  | .ok a => pure a
  | .error e => throw (wrap e)

def count (f : Handles → Handles) : Build Unit :=
  modify fun s => { s with handles := f s.handles }

/-- A step with a handle of its own, which it gives back however it ends. -/
def holding {α : Type} (b : Build α) : Build α := ExceptT.mk do
  modify fun s => { s with handles := s.handles.take }
  let r ← b.run
  modify fun s => { s with handles := s.handles.giveBack }
  return r

/-- A statement that the runtime refused. -/
def refused (stage : Stage) (target statement : String) (e : RuntimeError) : PipelineError :=
  match stage with
  | .sink => .provisioning target (some statement) e.message
  | stage => .compile stage target statement e.message

/-- Adds a statement to the plan as it is given. -/
def record (stage : Stage) (kind : StatementKind) (target sql : String) : Build Unit :=
  modify fun s => { s with plan := s.plan ++ [⟨stage, kind, target, sql⟩] }

/-- Executes a statement, and adds it to the plan once the runtime has accepted it. -/
def issue (stage : Stage) (kind : StatementKind) (target sql : String) : Build Unit := do
  let shown := Sql.redact sql
  orThrow (refused stage target shown) (← ask (.execute sql))
  record stage kind target shown

/-- The columns of a view that the runtime knows. -/
def describe (stage : Stage) (target view : String) : Build (List Column) := do
  orThrow (refused stage target ("DESCRIBE " ++ Sql.quoteIdent view)) (← ask (.describe view))

def register (name : String) (columns : List Column) : Build Unit := do
  let s ← get
  let registry ← orThrow .config (s.registry.register name columns)
  set { s with registry := registry }

/-- The columns of a registered view. -/
def schema (name : String) : Build (List Column) := do
  match (← get).registry.get? name with
  | some columns => return columns
  | none => throw (.config (.unknownView name))

end Build

end StreamPipeline
