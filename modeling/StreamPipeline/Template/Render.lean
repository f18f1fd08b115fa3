import StreamPipeline.Template.Helper
import StreamPipeline.Template.Output
import StreamPipeline.Template.Reader

/-! # Rendering templates

Rendering is strict: a value that the parameters do not hold is an error. Helpers are a closed list,
and nothing is escaped.
-/

namespace StreamPipeline.Template

/-- The innermost scope comes first. `blocks` holds, for each insertion that is being rendered, the
body it was given, the innermost first. -/
structure State where
  scopes : List Scope
  blocks : List (Option (List Element))
  output : Output

namespace State

def start : State := ⟨[.empty], [], .empty⟩

def write (s : String) (st : State) : State := { st with output := st.output.write s }

def enter (scope : Scope) (st : State) : State := { st with scopes := scope :: st.scopes }

/-- Moves the innermost scope on; the insertions defined in it stay. -/
def move (scope : Scope) (st : State) : State :=
  match st.scopes with
  | [] => st.enter scope
  | s :: outer => { st with scopes := { scope with insertions := s.insertions } :: outer }

/-- Defines an insertion in the innermost scope. -/
def define (name : String) (body : List Element) (st : State) : State :=
  match st.scopes with
  | [] => st.enter { Scope.empty with insertions := [(name, body)] }
  | s :: outer =>
    { st with scopes := { s with insertions := (name, body) :: s.insertions } :: outer }

/-- What stands for a name: what was defined under it, or else the body of the insertion itself.
The name of the inserted block stands for the body that the enclosing insertion was given, which is
rendered with the bodies that were known where it was written. -/
def find (name : String) (body : Option (List Element)) (st : State) :
    Result (List Element × List (Option (List Element))) :=
  if name = "@partial-block" then
    match st.blocks, body with
    | some given :: outer, _ => .ok (given, outer)
    | _, some own => .ok (own, st.blocks)
    | _, none => .error .noInsertedBlock
  else
    match (findInsertion name st.scopes).or body with
    | some found => .ok (found, body :: st.blocks)
    | none => .error (.unknownInsertion name)

end State

/-- The helpers that render their body. -/
def blockHelpers : List String := ["if", "unless", "each", "with", "raw", "log"]

def isHelper (name : String) : Bool := (Helper.ofName? name).isSome || blockHelpers.contains name

def logLevels : List String := ["off", "error", "warn", "info", "debug", "trace"]

def named? (name : String) (hash : List (String × Arg)) : Option Json :=
  (hash.find? (·.1 == name)).map fun h => h.2.get

def logLevel? (hash : List (String × Arg)) : Option String :=
  match named? "level" hash with
  | some (.string level) => some level
  | _ => none

mutual

/-- The value of a parameter. -/
def evalParam (data : Json) : Nat → Param → State → Result Arg
  | 0, _, _ => .error .endlessInsertion
  | fuel + 1, p, st =>
    match p with
    | .literal v => .ok ⟨none, some v, none⟩
    | .path path =>
      match resolve data st.scopes path.segments with
      | .ok (v, place) => .ok ⟨some path.raw, v, place⟩
      | .error e => .error e
    | .call name params hash => do
      let args ← params.mapM fun p => evalParam data fuel p st
      let named ← hash.mapM fun h => (evalParam data fuel h.2 st).map fun a => (h.1, a)
      match Helper.ofName? name with
      | some h => (h.apply args).map fun v => ⟨none, some v, none⟩
      | none =>
        if blockHelpers.contains name then do
          let after ← runBlock data fuel name args named [] none none
            { st with output := .empty }
          .ok ⟨none, some (.string after.output.toString), none⟩
        else .error (.unknownHelper name)

/-- A helper that renders its body, if it has one. -/
def runBlock (data : Json) : Nat → String → List Arg → List (String × Arg) → List String →
    Option (List Element) → Option (List Element) → State → Result State
  | 0, _, _, _, _, _, _, _ => .error .endlessInsertion
  | fuel + 1, name, args, hash, params, body, inverse, st =>
    let part (es : Option (List Element)) (st : State) : Result State :=
      match es with
      | some es => renderAll data fuel es st
      | none => .ok st
    let otherwise (a : Arg) : Result State :=
      match inverse with
      | some es => renderAll data fuel es st
      | none => .error (.missingVariable a.path)
    if name = "if" || name = "unless" then
      match args.head? with
      | none => .error (.missingParam "if" 0)
      | some a =>
        let includeZero := match named? "includeZero" hash with
          | some (.bool b) => b
          | _ => false
        let holds := isTruthy includeZero a.get
        part (if holds == (name == "if") then body else inverse) st
    else if name = "with" then
      match args.head? with
      | none => .error (.missingParam "with" 0)
      | some a =>
        if isTruthy false a.get then do
          let bindings := match params with
            | [n] => [(n, if a.place.isSome then Binding.here else .value a.get)]
            | _ => []
          let after ← part body (st.enter { Scope.on a with bindings := bindings })
          .ok { after with scopes := st.scopes }
        else otherwise a
    else if name = "each" then
      match args.head? with
      | none => .error (.missingParam "each" 0)
      | some a =>
        match body with
        | none => .ok st
        | some es =>
          let loop (items : List Item) : Result State :=
            if items.isEmpty && inverse.isSome then otherwise a
            else do
              let count := items.length
              let after ← items.zipIdx.foldlM (fun st (item, i) =>
                renderAll data fuel es
                  (st.move (.ofItem a params (i == 0) (i + 1 == count) item))) (st.enter (.on a))
              .ok { after with scopes := st.scopes }
          match a.get with
          | .array items => loop (listItems 0 items)
          | .object fields => loop (objectItems 0 fields)
          | _ => otherwise a
    else if name = "log" then
      match logLevel? hash with
      | some level =>
        if (logLevels.drop 1).contains (Text.lowerAscii level) then .ok st
        else .error (.unknownLogLevel level)
      | none => .ok st
    else part body st

/-- A call of a helper: its value is written, or decides which part of a block is rendered. -/
def callHelper (data : Json) : Nat → Head → Option (List Element) → Option (List Element) →
    State → Result State
  | 0, _, _, _, _ => .error .endlessInsertion
  | fuel + 1, head, body, inverse, st => do
    let args ← head.params.mapM fun p => evalParam data fuel p st
    let named ← head.hash.mapM fun h => (evalParam data fuel h.2 st).map fun a => (h.1, a)
    let inner := { st with output := st.output.startCall head.ownLine }
    let after ← match Helper.ofName? head.name with
      | some h => do
        let v ← h.apply args
        if h.decides && body.isSome then
          match if isTruthy false v then body else inverse with
          | some es => renderAll data fuel es inner
          | none => .ok inner
        else .ok (inner.write (showValue v))
      | none =>
        if blockHelpers.contains head.name then
          runBlock data fuel head.name args named head.blockParams body inverse inner
        else .error (.unknownHelper head.name)
    .ok { after with output := after.output.finish st.output }

/-- An insertion opens a scope. Its own body is rendered in that scope first, for what it defines
there, and what this writes is dropped. -/
def insert (data : Json) : Nat → String → List Param → List (String × Param) →
    Margin → Option (List Element) → State → Result State
  | 0, _, _, _, _, _, _ => .error .endlessInsertion
  | fuel + 1, name, params, hash, margin, body, st => do
    let args ← params.mapM fun p => evalParam data fuel p st
    let named ← hash.mapM fun h => (evalParam data fuel h.2 st).map fun a => (h.1, a)
    let scope ← Scope.ofInsertion data st.scopes args named
    let inner := { st with scopes := scope :: st.scopes, output := st.output.startInsertion margin }
    let prepared ← match body with
      | some es => (renderAll data fuel es inner).map fun after =>
        { after with output := inner.output }
      | none => .ok inner
    let (found, blocks) ← prepared.find name body
    let after ← renderAll data fuel found { prepared with blocks := blocks }
    .ok { st with output := after.output.finish st.output }

/-- A decorator defines a part that insertions can name. -/
def define (data : Json) : Nat → Head → Option (List Element) → State → Result State
  | 0, _, _, _ => .error .endlessInsertion
  | fuel + 1, head, body, st => do
    let args ← head.params.mapM fun p => evalParam data fuel p st
    let _ ← head.hash.mapM fun h => evalParam data fuel h.2 st
    if head.name = "inline" then
      match args.head? with
      | none => .error (.missingParam "inline" 0)
      | some a =>
        match a.get, body with
        | .string name, some es => .ok (st.define name es)
        | .string _, none => .error .noBlockContent
        | _, _ => .error .nameNotText
    else .error (.unknownDecorator head.name)

def renderOne (data : Json) : Nat → Element → State → Result State
  | 0, _, _ => .error .endlessInsertion
  | fuel + 1, e, st =>
    match e with
    | .text s => .ok (st.write s)
    | .comment => .ok st
    | .value p => do
      let name ← match p with
        | .path path => .ok path.raw
        | p => (evalParam data fuel p st).map fun a => showValue a.get
      if isHelper name then callHelper data fuel ⟨name, [], [], [], false⟩ none none st
      else do
        let a ← evalParam data fuel p st
        match a.value with
        | some v => .ok (st.write (showValue v))
        | none => .error (.missingVariable a.path)
    | .call head => callHelper data fuel head none none st
    | .block head body inverse => callHelper data fuel head (some body) inverse st
    | .decorator head body => define data fuel head body st
    | .insertion (.plain name) params hash margin body =>
      insert data fuel name params hash margin body st
    | .insertion (.computed p) params hash margin body => do
      let a ← evalParam data fuel p st
      insert data fuel (showValue a.get) params hash margin body st

def renderAll (data : Json) : Nat → List Element → State → Result State
  | 0, _, _ => .error .endlessInsertion
  | fuel + 1, es, st => es.foldlM (fun st e => renderOne data fuel e st) st

end

/-- Renders a template text with its parameters. Every level of nesting and of insertion costs a
few steps; only insertions that nest without end use up all of them. -/
def render (source : String) (params : List (String × Json)) : Result String :=
  match read? source with
  | none => .error .malformed
  | some es => do
    let fuel := 8 * (source.length + 2) * (source.length + 2)
    let st ← renderAll (.object params) fuel es .start
    .ok st.output.toString

end StreamPipeline.Template
