import StreamPipeline.Pipeline.Problem

/-! # Errors of a pipeline

Every error ends the run. It knows the stage it came from and, where one was sent, the statement
that caused it.
-/

namespace StreamPipeline

inductive Stage where
  | load
  | validate
  | session
  | source
  | transform
  | sink
  | submit
  | execute
deriving Repr, DecidableEq

def Stage.name : Stage → String
  | load => "load"
  | validate => "validate"
  | session => "session"
  | source => "source"
  | transform => "transform"
  | sink => "sink"
  | submit => "submit"
  | execute => "execute"

/-- What is wrong with a document or with the names in it. -/
inductive ConfigError where
  | unresolvedPlaceholders (names : List String)
  | unreadableYaml
  | invalidDocument (problems : List Problem)
  | selfReference (transform : String)
  | forwardReference (transform relation : String)
  | undeclaredInput (sink input : String)
  | alreadyRegistered (view : String)
  | unknownView (view : String)
  | unsupportedLocation (location : String)
  | unreadableFile (path reason : String)
  | failedFetch (url reason : String)
  | stated (text : String)
deriving Repr, DecidableEq

namespace ConfigError

def message : ConfigError → String
  | unresolvedPlaceholders names => "unresolved placeholder(s): " ++ Text.join ", " names
  | unreadableYaml => "failed to parse pipeline YAML"
  | invalidDocument problems =>
    "pipeline validation failed:\n  - " ++ Text.join "\n  - " (problems.map Problem.message)
  | selfReference t => "transform '" ++ t ++ "' references itself"
  | forwardReference t r =>
    "transform '" ++ t ++ "' references '" ++ r ++ "' before it is declared"
  | undeclaredInput s i =>
    "sink '" ++ s ++ "' reads from '" ++ i ++ "', which is not a declared source or transform"
  | alreadyRegistered view => "view '" ++ view ++ "' is already registered"
  | unknownView view => "unknown view '" ++ view ++ "'"
  | unsupportedLocation l => "unsupported pipeline location '" ++ l ++ "'"
  | unreadableFile path reason => "failed to read pipeline file " ++ path ++ ": " ++ reason
  | failedFetch url reason => "failed to fetch pipeline from " ++ url ++ ": " ++ reason
  | stated text => text

end ConfigError

inductive PipelineError where
  | config (cause : ConfigError)
  | unsupportedSourceType (source tag : String)
  | unsupportedSinkType (sink tag : String)
  | unsupportedType (view column type : String)
  | template (transform message : String)
  | compile (stage : Stage) (target statement message : String)
  | provisioning (sink : String) (statement : Option String) (message : String)
  | execution (stage : Stage) (statement : Option String) (message : String)
deriving Repr, DecidableEq

namespace PipelineError

def statementLine : Option String → String
  | some sql => "\n  statement: " ++ sql
  | none => ""

def message : PipelineError → String
  | config cause => "config error: " ++ cause.message
  | unsupportedSourceType source tag =>
    "unsupported source type '" ++ tag ++ "' for source '" ++ source ++ "'"
  | unsupportedSinkType sink tag =>
    "unsupported sink type '" ++ tag ++ "' for sink '" ++ sink ++ "'"
  | unsupportedType view column type =>
    "unsupported type '" ++ type ++ "' for column '" ++ column ++ "' of view '" ++ view ++ "'"
  | template transform message =>
    "template error in transform '" ++ transform ++ "': " ++ message
  | compile stage target statement message =>
    stage.name ++ " stage failed for '" ++ target ++ "': " ++ message
      ++ statementLine (some statement)
  | provisioning sink statement message =>
    "provisioning sink '" ++ sink ++ "' failed: " ++ message ++ statementLine statement
  | execution stage statement message =>
    stage.name ++ " stage failed: " ++ message ++ statementLine statement

/-- The stage an error comes from. -/
def stage : PipelineError → Stage
  | config _ | unsupportedSourceType .. | unsupportedSinkType .. => .validate
  | template .. => .transform
  | unsupportedType .. | provisioning .. => .sink
  | compile stage .. | execution stage .. => stage

/-- The statement that an error carries. -/
def statement : PipelineError → Option String
  | compile _ _ statement _ => some statement
  | provisioning _ statement _ | execution _ statement _ => statement
  | _ => none

end PipelineError

end StreamPipeline
