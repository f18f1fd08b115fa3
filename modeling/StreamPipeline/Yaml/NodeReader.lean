import StreamPipeline.Yaml.Node
import StreamPipeline.Yaml.TokenReader

/-! # Reading YAML documents

Reads the tokens of a text into its only document. A text without any token is an empty document;
one with a second document is refused.
-/

namespace StreamPipeline.Yaml

/-- The tokens that are left, the tag handles, the numbers of the anchors, and the anchored nodes. -/
structure NodeReader where
  tokens : List Token
  handles : List (String × String)
  anchors : List (String × Nat)
  started : Nat
  anchored : List Anchored

namespace NodeReader

abbrev Read (α : Type) := StateT NodeReader Option α

def fail {α : Type} : Read α := fun _ => none

def peek : Read (Option Token) := do return (← get).tokens.head?

def skip : Read Unit := modify fun s => { s with tokens := s.tokens.drop 1 }

/-- Whether one of the given tokens, or the end, comes next. -/
def nextIs (among : List Token) : Read Bool := do
  match ← peek with
  | some t => return among.contains t
  | none => return false

/-- Takes a token if it comes next. -/
def takes (t : Token) : Read Bool := do
  if (← peek) = some t then
    skip
    return true
  else return false

/-! ### Properties -/

/-- An anchor and a tag, in either order. -/
structure Properties where
  anchor : Option String
  tag : Option String

def Properties.given (p : Properties) : Bool := p.anchor.isSome || p.tag.isSome

def resolveTag (handle suffix : String) : Read String := do
  if handle.isEmpty then return suffix
  match (← get).handles.lookup handle with
  | some start => return start ++ suffix
  | none => fail

def takeAnchor : Read (Option String) := do
  match ← peek with
  | some (.anchor name) =>
    skip
    return some name
  | _ => return none

def takeTag : Read (Option (String × String)) := do
  match ← peek with
  | some (.tag handle suffix) =>
    skip
    return some (handle, suffix)
  | _ => return none

def properties : Read Properties := do
  let first ← takeAnchor
  let tag ← takeTag
  let anchor ← match first with
    | some a => pure (some a)
    | none => if tag.isSome then takeAnchor else pure none
  match tag with
  | none => return ⟨anchor, none⟩
  | some (handle, suffix) => return ⟨anchor, some (← resolveTag handle suffix)⟩

/-- Numbers an anchor when its node starts. The number counts the names seen before, so a name that
is used again can share its number with the next new name. -/
def startAnchor (name : String) : Read (Nat × Nat) := do
  let s ← get
  let id := s.anchors.length
  let others := s.anchors.filter fun a => a.1 != name
  set { s with anchors := (name, id) :: others, started := s.started + 1 }
  return (id, s.started)

def start (p : Properties) : Read (Option (Nat × Nat)) := do
  match p.anchor with
  | none => return none
  | some name => return some (← startAnchor name)

/-- Keeps an anchored node once it is complete. -/
def finish (number : Option (Nat × Nat)) (n : Node) : Read Node := do
  match number with
  | none => return n
  | some (id, rank) =>
    modify fun s => { s with anchored := ⟨id, rank, n⟩ :: s.anchored }
    return n

/-- A tag that only says that a scalar is no plain one. -/
def scalarTag : Option String → Option String
  | some "!" => none
  | tag => tag

/-! ### Nodes -/

mutual

/-- A node. `block` allows block collections, and `indentless` a sequence at the indentation of the
mapping around it. -/
def node (block indentless : Bool) : Nat → Read Node
  | 0 => fail
  | fuel + 1 => do
    if let some (.reference name) ← peek then
      skip
      match (← get).anchors.lookup name with
      | some id => return .reference id
      | none => fail
    else
      let p ← properties
      let number ← start p
      let n ← match ← peek with
        | some (.scalar style text) => do
          skip
          pure (.scalar (scalarTag p.tag) (style = .plain) text)
        | some .flowSequenceStart => do
          skip
          pure (.sequence p.tag (← flowItems true fuel))
        | some .flowMappingStart => do
          skip
          pure (.mapping p.tag (← flowEntries true fuel))
        | some .blockSequenceStart =>
          if block then do
            skip
            pure (.sequence p.tag (← blockItems fuel))
          else if p.given then pure (.scalar p.tag true "") else fail
        | some .blockMappingStart =>
          if block then do
            skip
            pure (.mapping p.tag (← blockEntries fuel))
          else if p.given then pure (.scalar p.tag true "") else fail
        | some .blockEntry =>
          if indentless then do pure (.sequence p.tag (← indentlessItems fuel))
          else if p.given then pure (.scalar p.tag true "") else fail
        | _ => if p.given then pure (.scalar p.tag true "") else fail
      finish number n

/-- A node, or an empty one before the given tokens. -/
def nodeUnless (among : List Token) (block indentless : Bool) : Nat → Read Node
  | 0 => fail
  | fuel + 1 => do
    if ← nextIs among then return .empty else node block indentless fuel

def blockItems : Nat → Read (List Node)
  | 0 => fail
  | fuel + 1 => do
    if ← takes .blockEntry then
      let n ← nodeUnless [.blockEntry, .blockEnd] true false fuel
      return n :: (← blockItems fuel)
    else if ← takes .blockEnd then return []
    else fail

def indentlessItems : Nat → Read (List Node)
  | 0 => fail
  | fuel + 1 => do
    if ← takes .blockEntry then
      let n ← nodeUnless [.blockEntry, .key, .value, .blockEnd] true false fuel
      return n :: (← indentlessItems fuel)
    else return []

def blockEntries : Nat → Read (List (Node × Node))
  | 0 => fail
  | fuel + 1 => do
    if ← takes .key then
      let k ← nodeUnless [.key, .value, .blockEnd] true true fuel
      let v ← if ← takes .value then nodeUnless [.key, .value, .blockEnd] true true fuel
        else pure .empty
      return (k, v) :: (← blockEntries fuel)
    else if ← takes .blockEnd then return []
    else fail

/-- A mapping of one entry that stands in a flow sequence without braces. A key of which nothing is
written takes the next token with it. -/
def pairEntry : Nat → Read Node
  | 0 => fail
  | fuel + 1 => do
    let k ← if ← nextIs [.value, .flowEntry, .flowSequenceEnd] then do
        skip
        pure .empty
      else node false false fuel
    let v ← if ← takes .value then nodeUnless [.flowEntry, .flowSequenceEnd] false false fuel
      else pure .empty
    return .mapping none [(k, v)]

def flowItems (first : Bool) : Nat → Read (List Node)
  | 0 => fail
  | fuel + 1 => do
    if ← takes .flowSequenceEnd then return []
    else
      let separated ← if first then pure true else takes .flowEntry
      if !separated then fail
      else if ← takes .key then
        let n ← pairEntry fuel
        return n :: (← flowItems false fuel)
      else if ← takes .flowSequenceEnd then return []
      else
        let n ← node false false fuel
        return n :: (← flowItems false fuel)

def flowEntries (first : Bool) : Nat → Read (List (Node × Node))
  | 0 => fail
  | fuel + 1 => do
    if ← takes .flowMappingEnd then return []
    else
      let separated ← if first then pure true else takes .flowEntry
      if !separated then fail
      else if ← takes .key then
        let k ← nodeUnless [.value, .flowEntry, .flowMappingEnd] false false fuel
        let v ← if ← takes .value then nodeUnless [.flowEntry, .flowMappingEnd] false false fuel
          else pure .empty
        return (k, v) :: (← flowEntries false fuel)
      else if ← takes .flowMappingEnd then return []
      else
        let k ← node false false fuel
        return (k, .empty) :: (← flowEntries false fuel)

end

/-! ### Documents -/

def defaultHandles : List (String × String) := [("!", "!"), ("!!", "tag:yaml.org,2002:")]

/-- The directives before a document: at most one version, which must be known, and each handle
once. -/
def directives : Nat → Bool → Read Unit
  | 0, _ => fail
  | fuel + 1, versionSeen => do
    match ← peek with
    | some (.versionDirective major minor) =>
      if versionSeen || major != 1 || !(minor == 1 || minor == 2) then fail
      else
        skip
        directives fuel true
    | some (.tagDirective handle start) =>
      if ((← get).handles.lookup handle).isSome then fail
      else
        skip
        modify fun s => { s with handles := s.handles ++ [(handle, start)] }
        directives fuel versionSeen
    | _ => modify fun s => { s with handles := s.handles ++ defaultHandles }

def isDirective : Token → Bool
  | .versionDirective .. | .tagDirective .. => true
  | _ => false

/-- Nothing is written between the marks of a document. -/
def atContentEnd : Option Token → Bool
  | none | some .documentStart | some .documentEnd => true
  | some t => isDirective t

def root (fuel : Nat) : Read Node := do
  let t ← peek
  directives fuel false
  if ← takes .documentStart then
    if atContentEnd (← peek) then return .empty else node true false fuel
  else if t.any isDirective then fail
  else node true false fuel

def documentOf (tokens : List Token) : Option Document :=
  if tokens.isEmpty then some ⟨none, []⟩
  else do
    let (n, s) ← (root (4 * tokens.length + 8)).run ⟨tokens, [], [], 0, []⟩
    if s.tokens.all (· = .documentEnd) then some ⟨some n, s.anchored⟩ else none

end NodeReader

/-- The only document of a text. -/
def Document.ofText? (s : String) : Option Document := do
  NodeReader.documentOf (← Token.ofText? s)

end StreamPipeline.Yaml
