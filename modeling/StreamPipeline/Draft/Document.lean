import StreamPipeline.Draft.Placeholder
import StreamPipeline.Draft.Reader
import StreamPipeline.Draft.Validation

/-! # Documents

From the text of a document to its pipeline: placeholders first, then the fields, then validation.
-/

namespace StreamPipeline

def Draft.ofDocument (env : Environment) (text : String) : Except PipelineError Draft := do
  let text ← (substitute env text).mapError .config
  match Draft.ofText? text with
  | some d => return d
  | none => throw (.config .unreadableYaml)

def Pipeline.ofDocument (env : Environment) (text : String) : Except PipelineError Pipeline := do
  (← Draft.ofDocument env text).validate

end StreamPipeline
