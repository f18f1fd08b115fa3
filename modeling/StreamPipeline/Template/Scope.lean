import StreamPipeline.Json.Value
import StreamPipeline.Template.Basic
import StreamPipeline.Text.Basic

/-! # Scopes

Where the names of a template are looked up. Blocks and insertions open scopes one inside the
other; block parameters, variables and insertions are sought from the inside out.
-/

namespace StreamPipeline.Template

/-- What a block parameter stands for: the place of the current item, or a value of its own. -/
inductive Binding where
  | here
  | value (v : Json)

/-- One level of context: the place or the value that paths start from, and the block parameters,
variables and insertions that were set in it. -/
structure Scope where
  base : List String
  baseValue : Option Json
  bindings : List (String × Binding)
  locals : List (String × Json)
  insertions : List (String × List Element)

def Scope.empty : Scope := ⟨[], none, [], [], []⟩

/-- A parameter after evaluation. A missing value has none; `place` is known for values that stand
in the parameters themselves. -/
structure Arg where
  path : Option String
  value : Option Json
  place : Option (List String)

def Arg.get (a : Arg) : Json := a.value.getD .null

abbrev Result (α : Type) := Except Error α

/-! ### Looking up values -/

/-- One step into a value. A list takes an index and nothing else. -/
def child (v : Option Json) (key : String) : Result (Option Json) :=
  match v with
  | some (.array items) =>
    match Text.unsignedUpTo? 18446744073709551615 key.toList with
    | some i => .ok items[i]?
    | none => .error (.noArrayIndex key)
  | some (.object fields) => .ok (Json.fieldOf? key fields)
  | _ => .ok none

def descend (v : Option Json) : List String → Result (Option Json)
  | [] => .ok v
  | key :: rest =>
    match child v key with
    | .ok next => descend next rest
    | .error e => .error e

def names : List Segment → List String
  | [] => []
  | .named n :: rest => n :: names rest
  | _ :: rest => names rest

/-- Steps up before the first name, that name, and what follows it. -/
def leading : List Segment → Nat × Bool × Option (String × List Segment)
  | .up :: rest =>
    let (n, fromRoot, name) := leading rest
    (n + 1, fromRoot, name)
  | .root :: _ => (0, true, none)
  | .named n :: rest => (0, false, some (n, rest))
  | _ => (0, false, none)

def findBinding (name : String) : List Scope → Option (Binding × List String)
  | [] => none
  | s :: rest =>
    match s.bindings.find? (·.1 == name) with
    | some (_, b) => some (b, s.base)
    | none => findBinding name rest

/-- A variable of the scope that lies `level` levels out, or else of the next one that has it. -/
def variableAt? (scopes : List Scope) (level : Nat) (name : String) : Option Json :=
  (scopes.drop level).findSome? fun s => (s.locals.find? (·.1 == name)).map Prod.snd

def findInsertion (name : String) (scopes : List Scope) : Option (List Element) :=
  scopes.findSome? fun s => (s.insertions.find? (·.1 == name)).map Prod.snd

def variableOf : List Segment → Option (Nat × String)
  | .up :: rest => (variableOf rest).map fun (n, name) => (n + 1, name)
  | .named name :: _ => some (0, name)
  | _ => none

def located (data : Json) (place : List String) : Result (Option Json × Option (List String)) :=
  match descend (some data) place with
  | .ok (some v) => .ok (some v, some place)
  | .ok none => .ok (none, none)
  | .error e => .error e

def inside (v : Json) (keys : List String) : Result (Option Json × Option (List String)) :=
  match descend (some v) keys with
  | .ok r => .ok (r, none)
  | .error e => .error e

/-- The value of a path, and its place if it stands in the parameters. -/
def resolve (data : Json) (scopes : List Scope) (segments : List Segment) :
    Result (Option Json × Option (List String)) :=
  let relative (s : Option Scope) :=
    match s with
    | none => located data (names segments)
    | some s =>
      match s.baseValue with
      | some v => inside v (names segments)
      | none => located data (s.base ++ names segments)
  let free : Unit → Result (Option Json × Option (List String)) := fun _ =>
    match segments with
    | .variable :: rest =>
      match variableOf rest with
      | some (level, name) => .ok (variableAt? scopes level name, none)
      | none => relative scopes.head?
    | _ =>
      match leading segments with
      | (0, true, _) => located data (names segments)
      | (0, false, _) => relative scopes.head?
      | (n, _, _) => relative ((scopes[n]?).or scopes.head?)
  match segments with
  | .variable :: _ => free ()
  | _ =>
    match leading segments with
    | (_, _, some (name, rest)) =>
      match findBinding name scopes with
      | some (.value v, _) => inside v (names rest)
      | some (.here, base) => located data (base ++ names rest)
      | none => free ()
    | _ => free ()

/-! ### Opening scopes -/

/-- The scope that a block helper opens on its parameter. -/
def Scope.on (a : Arg) : Scope :=
  match a.place with
  | some place => { Scope.empty with base := place }
  | none => { Scope.empty with baseValue := some a.get }

/-- The fields that a value has when fields are added to it: a list has its items by index, and a
text its characters. -/
def fieldsOf : Json → List (String × Json)
  | .object fields => fields
  | .array items => items.zipIdx.map fun (v, i) => (toString i, v)
  | .string s => s.toList.zipIdx.map fun (c, i) => (toString i, .string (String.ofList [c]))
  | _ => []

def withFields (v : Json) (extra : List (String × Json)) : Json :=
  .object (extra.foldl (fun fs (k, v) => Json.insertField k v fs) (Json.sortFields (fieldsOf v)))

/-- The scope of an insertion: on its parameter, or where it stands. Named parameters become fields
of its value, and block parameters besides. -/
def Scope.ofInsertion (data : Json) (scopes : List Scope) (args : List Arg)
    (named : List (String × Arg)) : Result Scope := do
  let scope := match args.head?, scopes.head? with
    | some a, _ => Scope.on a
    | none, some s => { Scope.empty with base := s.base, baseValue := s.baseValue }
    | none, none => .empty
  if named.isEmpty then .ok scope
  else do
    let current ← match args.head? with
      | some a => .ok a.get
      | none => (resolve data scopes []).map fun r => r.1.getD .null
    let extra := named.map fun (k, a) => (k, a.get)
    .ok { scope with
      baseValue := some (withFields current extra)
      bindings := extra.map fun (k, v) => (k, .value v) }

/-- An item of a list or an object, with its key in the parameters. -/
structure Item where
  key : String
  keyValue : Json
  value : Json
  extra : List (String × Json)

def listItems (i : Nat) : List Json → List Item
  | [] => []
  | v :: rest => ⟨toString i, .int i, v, [("index", .int i)]⟩ :: listItems (i + 1) rest

def objectItems (i : Nat) : List (String × Json) → List Item
  | [] => []
  | (k, v) :: rest =>
    ⟨k, .string k, v, [("key", .string k), ("index", .int i)]⟩ :: objectItems (i + 1) rest

def Scope.bind (a : Arg) (params : List String) (key value : Json) : List (String × Binding) :=
  let item := if a.place.isSome then Binding.here else .value value
  match params with
  | [name] => [(name, item)]
  | name :: keyName :: _ => if keyName = name then [(name, .value key)]
    else [(name, item), (keyName, .value key)]
  | [] => []

def Scope.ofItem (a : Arg) (params : List String) (first last : Bool) (i : Item) : Scope :=
  { base := match a.place with
      | some place => place ++ [i.key]
      | none => []
    baseValue := if a.place.isSome then none else some i.value
    bindings := Scope.bind a params i.keyValue i.value
    locals := [("first", .bool first), ("last", .bool last)] ++ i.extra
    insertions := [] }

end StreamPipeline.Template
