import StreamPipeline.Sql.Token

/-! # Relations of a query

The unqualified names that a query reads as tables: names after `FROM` and `JOIN` and after the
commas of a `FROM` list, at any depth of brackets, each once and in the order of the text.
-/

namespace StreamPipeline.Sql

def relationWords : List String := ["FROM", "JOIN"]

/-- Words that may follow `FROM` and are no table. -/
def noRelationWords : List String := ["LATERAL", "UNNEST", "TABLE", "SELECT"]

/-- Words that end a `FROM` list. -/
def clauseWords : List String :=
  ["WHERE", "GROUP", "ORDER", "HAVING", "UNION", "INTERSECT", "EXCEPT", "LIMIT", "WINDOW", "SELECT",
    "MATCH_RECOGNIZE"]

/-- What the next token may be: anything, a relation, the dot of a qualified name, one of its later
parts, or what follows such a part. -/
inductive Awaiting where
  | anything
  | relation
  | dotAfter (name : String)
  | part
  | afterPart
deriving Repr, DecidableEq

/-- The depth of brackets, the depths of the open `FROM` lists with the innermost first, and the
relations found so far. -/
structure Reading where
  depth : Nat
  lists : List Nat
  awaiting : Awaiting
  found : List String
deriving Repr, DecidableEq

namespace Reading

def start : Reading := ⟨0, [], .anything, []⟩

/-- In a `FROM` list of the current depth. -/
def inList (r : Reading) : Bool := r.lists.head? == some r.depth

def report (name : String) (r : Reading) : Reading :=
  { r with
    found := if r.found.contains name then r.found else r.found ++ [name]
    awaiting := .anything }

def openBracket (r : Reading) : Reading := { r with depth := r.depth + 1, awaiting := .anything }

def closeBracket (r : Reading) : Reading :=
  { r with lists := r.lists.dropWhile (· == r.depth), depth := r.depth - 1, awaiting := .anything }

def openList (r : Reading) : Reading :=
  { r with lists := if r.inList then r.lists else r.depth :: r.lists, awaiting := .relation }

def endClause (r : Reading) : Reading :=
  { r with lists := if r.inList then r.lists.drop 1 else r.lists, awaiting := .anything }

/-- A token where no relation is awaited. -/
def passToken (r : Reading) (t : SqlToken) : Reading :=
  if t.isKeyword relationWords then r.openList
  else match t with
    | .mark '(' => r.openBracket
    | .mark ')' => r.closeBracket
    | .mark ',' => { r with awaiting := if r.inList then .relation else .anything }
    | t => if t.isKeyword clauseWords then r.endClause else { r with awaiting := .anything }

/-- A token in the place of a relation. -/
def relationToken (r : Reading) (t : SqlToken) : Reading :=
  if t.isKeyword relationWords then r.openList
  else match t with
    | .word text =>
      if t.isKeyword noRelationWords then { r with awaiting := .anything }
      else { r with awaiting := .dotAfter text }
    | .name text => { r with awaiting := .dotAfter text }
    | .mark '(' => r.openBracket
    | .mark _ => { r with awaiting := .anything }

def step (r : Reading) (t : SqlToken) : Reading :=
  match r.awaiting with
  | .anything => r.passToken t
  | .relation => r.relationToken t
  | .dotAfter name =>
    if t = .mark '.' then { r with awaiting := .part } else (r.report name).passToken t
  | .part => { r with awaiting := .afterPart }
  | .afterPart => if t = .mark '.' then { r with awaiting := .part } else r.passToken t

/-- A name at the end of the text is no longer waiting for a dot. -/
def finish (r : Reading) : List String :=
  match r.awaiting with
  | .dotAfter name => (r.report name).found
  | _ => r.found

end Reading

def referencedRelations (sql : String) : List String :=
  ((SqlToken.ofText sql).foldl Reading.step .start).finish

end StreamPipeline.Sql
