import StreamPipeline.Json.Value
import StreamPipeline.Yaml.Node
import StreamPipeline.Yaml.PlainScalar

/-! # Typed reading of YAML nodes

Records, lists and values from the nodes of a document. What is read may be nested at most 128 deep,
and aliases are followed at most a hundred times for each part of the document. Fields that are not
known are passed over unread.
-/

namespace StreamPipeline.Yaml

/-- Reads from a document, with the number of aliases that may still be followed. -/
abbrev Decode (α : Type) := ReaderT Document (StateT Nat Option) α

namespace Decode

def fail {α : Type} : Decode α := fun _ _ => none

/-- The node itself, or what an alias stands for. -/
def follow (n : Node) : Decode Node := do
  match n with
  | .reference id =>
    let left ← get
    if left = 0 then fail
    else
      set (left - 1)
      match (← read).resolve? id with
      | some target => return target
      | none => fail
  | n => return n

/-! ### Texts -/

/-- The text of any scalar, whatever its tag. -/
def text (n : Node) : Decode String := do
  match ← follow n with
  | .scalar _ _ s => return s
  | _ => fail

/-- A node that may be null or left empty. -/
def optional {α : Type} (inner : Node → Decode α) (n : Node) : Decode (Option α) := do
  let n ← follow n
  match n with
  | .scalar (some "tag:yaml.org,2002:null") true s =>
    if isNullWord s.toList then return none else fail
  | .scalar none true s =>
    if s.isEmpty || isNullWord s.toList then return none else return some (← inner n)
  | n => return some (← inner n)

/-! ### Collections -/

def isEmptyScalar : Node → Bool
  | .scalar _ true s => s.isEmpty
  | _ => false

/-- The items of a list; a node of which nothing is written is an empty list. -/
def items (depth : Nat) (n : Node) : Decode (List Node) := do
  let n ← follow n
  match n with
  | .sequence _ items => if depth = 0 then fail else return items
  | n => if isEmptyScalar n then return [] else fail

def list {α : Type} (depth : Nat) (inner : Node → Decode α) (n : Node) : Decode (List α) := do
  (← items depth n).mapM inner

/-- The fields of a record, by the text of their keys. -/
def fields (depth : Nat) (n : Node) : Decode (List (String × Node)) := do
  let n ← follow n
  match n with
  | .mapping _ entries =>
    if depth = 0 then fail else entries.mapM fun e => do return (← text e.1, e.2)
  | n => if isEmptyScalar n then return [] else fail

/-- A field under any of its names, given at most once. -/
def field {α : Type} (names : List String) (inner : Node → Decode α)
    (fs : List (String × Node)) : Decode (Option α) := do
  match fs.filter fun f => names.contains f.1 with
  | [] => return none
  | [f] => return some (← inner f.2)
  | _ => fail

/-- A field that counts as missing when it is null. -/
def optionalField {α : Type} (names : List String) (inner : Node → Decode α)
    (fs : List (String × Node)) : Decode (Option α) := do
  return (← field names (optional inner) fs).join

/-! ### Values -/

/-- A tag that asks for a type of its own. -/
def isCustom (tag : Option String) : Bool :=
  match tag with
  | some t => t.toList.head? == some '!'
  | none => false

/-- What a scalar stands for where no type is expected. -/
def scalar (tag : Option String) (plain : Bool) (s : String) : Option Resolved :=
  match tag with
  | none => some (if plain then .ofPlain s else .text s)
  | some "tag:yaml.org,2002:bool" => (boolWord? s.toList).map .bool
  | some "tag:yaml.org,2002:int" => (int? s.toList).map .ofInt
  | some "tag:yaml.org,2002:float" => (float? s.toList).map .float
  | some "tag:yaml.org,2002:null" => if isNullWord s.toList then some .null else none
  | some _ => if isCustom tag then none else some (.text s)

def jsonOfScalar : Resolved → Option Json
  | .null => some .null
  | .bool b => some (.bool b)
  | .int n => some (.int n)
  | .tooLarge => none
  | .float x => some (if x.isFinite then .float x else .null)
  | .text s => some (.string s)

def ofOption {α : Type} : Option α → Decode α
  | some a => return a
  | none => fail

/-- A value as JSON: the keys of a mapping are the texts of scalars, and the last of equal keys
counts. -/
def json : Nat → Node → Decode Json
  | depth, n => do
    match ← follow n with
    | .scalar tag plain s => ofOption ((scalar tag plain s).bind jsonOfScalar)
    | .sequence tag items =>
      match depth with
      | 0 => fail
      | depth + 1 =>
        if isCustom tag then fail
        else return .array (← items.mapM (json depth))
    | .mapping tag entries =>
      match depth with
      | 0 => fail
      | depth + 1 =>
        if isCustom tag then fail
        else
          let fs ← entries.mapM fun e => do
            let k ← text e.1
            let v ← json depth e.2
            return (k, v)
          return .object (Json.sortFields fs)
    | .reference _ => fail

def maxDepth : Nat := 128

/-- Reads the root of a document; an empty document is like an empty node. -/
def ofDocument {α : Type} (inner : Node → Decode α) (d : Document) : Option α :=
  (inner (d.root.getD .empty) d (100 * d.size)).map (·.1)

end Decode

end StreamPipeline.Yaml
