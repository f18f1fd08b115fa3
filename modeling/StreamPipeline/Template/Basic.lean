import StreamPipeline.Json.Value
import StreamPipeline.Text.Quoted

/-! # Templates

The parts of a transform template: texts, values, helper calls, blocks and insertions, and the
reasons for which rendering fails.
-/

namespace StreamPipeline.Template

def isLineBlank (c : Char) : Bool := c == ' ' || c == '\t'

def isLineEnd (c : Char) : Bool := c == '\n' || c == '\r'

/-- One step of a path. -/
inductive Segment where
  | up
  | root
  | variable
  | named (name : String)
deriving Repr, DecidableEq

/-- A path as written, and its steps. -/
structure Path where
  raw : String
  segments : List Segment
deriving Repr, DecidableEq

inductive Param where
  | literal (value : Json)
  | path (path : Path)
  | call (name : String) (params : List Param) (hash : List (String × Param))
deriving Inhabited

/-- The name of a helper with what it is applied to, and whether its tag has a line of its own. -/
structure Head where
  name : String
  params : List Param
  hash : List (String × Param)
  blockParams : List String
  ownLine : Bool

/-- The name of an insertion is a plain name or a call that computes it. -/
inductive InsertName where
  | plain (name : String)
  | computed (call : Param)

/-- Whether a tag has a line of its own, and the blanks that stand right before it. -/
structure Margin where
  ownLine : Bool
  indent : String
deriving Repr, DecidableEq

def Margin.none : Margin := ⟨false, ""⟩

inductive Element where
  | text (s : String)
  | comment
  | value (name : Param)
  | call (head : Head)
  | block (head : Head) (body : List Element) (inverse : Option (List Element))
  | decorator (head : Head) (body : Option (List Element))
  | insertion (name : InsertName) (params : List Param) (hash : List (String × Param))
      (margin : Margin) (body : Option (List Element))

inductive Error where
  | malformed
  | missingVariable (path : Option String)
  | unknownHelper (name : String)
  | missingParam (helper : String) (index : Nat)
  | missingNamedParam (helper name : String)
  | unknownInsertion (name : String)
  | noInsertedBlock
  | unknownDecorator (name : String)
  | noBlockContent
  | nameNotText
  | noArrayIndex (key : String)
  | unknownLogLevel (level : String)
  | endlessInsertion
deriving Repr, DecidableEq

namespace Error

def message : Error → String
  | malformed => "syntax"
  | missingVariable (some path) =>
    "Failed to access variable in strict mode Some(" ++ Text.quoted path ++ ")"
  | missingVariable none => "Failed to access variable in strict mode None"
  | unknownHelper name => "Helper not found " ++ name
  | missingParam helper index =>
    "Helper/Decorator " ++ helper ++ " param at index " ++ toString index
      ++ " required but not found"
  | missingNamedParam helper name =>
    "Helper/Decorator " ++ helper ++ " param with name " ++ name ++ " required but not found"
  | unknownInsertion name => "Partial not found " ++ name
  | noInsertedBlock => "Partial block cound not be found"
  | unknownDecorator name => "Decorator not found " ++ name
  | noBlockContent => "Block content required"
  | nameNotText => "Invalid param type, String expected"
  | noArrayIndex key => "Cannot access array/vector with string index, " ++ key
  | unknownLogLevel level => "Invalid logging level: " ++ level
  | endlessInsertion => "Insertions without end"

end Error

end StreamPipeline.Template
