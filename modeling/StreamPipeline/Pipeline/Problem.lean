import StreamPipeline.Text.Basic

/-! # Problems of a document

The rules that a document can break. All problems of a document are reported together, one line
each.
-/

namespace StreamPipeline

/-- A rule about one field. -/
inductive Fault where
  | missing (field : String)
  | notPositive (field value : String)
  | noParallelism (value : String)
  | invalidPort (field value : String)
  | notAllowed (field tag : String)
deriving Repr, DecidableEq

def Fault.message : Fault → String
  | missing field => "missing required field '" ++ field ++ "'"
  | notPositive field value => "'" ++ field ++ "' must be a positive integer, got '" ++ value ++ "'"
  | noParallelism value => "'parallelism' must be at least 1, got '" ++ value ++ "'"
  | invalidPort field value => "invalid port '" ++ value ++ "' for '" ++ field ++ "'"
  | notAllowed field tag => "field '" ++ field ++ "' is not allowed for type '" ++ tag ++ "'"

/-- The entity that a problem belongs to. -/
inductive Subject where
  | pipeline
  | entity (list : String) (index : Nat) (name : Option String)
deriving Repr, DecidableEq

/-- The name is shown as it was written, unless it is blank. -/
def Subject.label : Subject → String
  | pipeline => "pipeline"
  | entity list index name =>
    let place := list ++ "[" ++ toString index ++ "]"
    match name with
    | some n => if Text.isBlankText n then place else place ++ " '" ++ n ++ "'"
    | none => place

inductive Problem where
  | fault (subject : Subject) (fault : Fault)
  | duplicateName (name : String)
  | collision (name transform : String)
deriving Repr, DecidableEq

def Problem.message : Problem → String
  | fault subject f => subject.label ++ ": " ++ f.message
  | duplicateName name => "duplicate name '" ++ name ++ "'"
  | collision name transform =>
    "name '" ++ name ++ "' collides with the intermediate view of transform '" ++ transform ++ "'"

end StreamPipeline
