import StreamPipeline.Yaml.Token

/-! # YAML nodes

A document as a tree. An alias stays a reference to an anchored node, so that a node may even refer
to itself.
-/

namespace StreamPipeline.Yaml

inductive Node where
  | scalar (tag : Option String) (plain : Bool) (text : String)
  | sequence (tag : Option String) (items : List Node)
  | mapping (tag : Option String) (entries : List (Node × Node))
  | reference (id : Nat)
deriving Inhabited

namespace Node

/-- A node of which nothing is written. -/
def empty : Node := scalar none true ""

mutual

/-- The number of scalars and aliases, and of beginnings and ends of collections. -/
def size : Node → Nat
  | scalar .. | reference _ => 1
  | sequence _ items => 2 + sizeOfItems items
  | mapping _ entries => 2 + sizeOfEntries entries

def sizeOfItems : List Node → Nat
  | [] => 0
  | n :: rest => size n + sizeOfItems rest

def sizeOfEntries : List (Node × Node) → Nat
  | [] => 0
  | (k, v) :: rest => size k + size v + sizeOfEntries rest

end

end Node

/-- An anchored node with the number of its anchor; the later a node starts the higher its rank. -/
structure Anchored where
  id : Nat
  rank : Nat
  node : Node

/-- A document: its root, unless the text is empty, and its anchored nodes. -/
structure Document where
  root : Option Node
  anchored : List Anchored

namespace Document

def lastStarted : List Anchored → Option Anchored
  | [] => none
  | a :: rest =>
    match lastStarted rest with
    | none => some a
    | some b => some (if a.rank < b.rank then b else a)

/-- The node that an alias stands for: of the nodes with its number the one that starts last. -/
def resolve? (d : Document) (id : Nat) : Option Node :=
  (lastStarted (d.anchored.filter fun a => a.id == id)).map (·.node)

def size (d : Document) : Nat := (d.root.map Node.size).getD 1

end Document

end StreamPipeline.Yaml
