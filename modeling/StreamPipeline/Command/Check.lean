import StreamPipeline.Command.Printout
import StreamPipeline.Draft.Location
import StreamPipeline.Pipeline.Prepared

/-! # The check command

Loads a document, renders its templates and resolves its references. Nothing but the server that
holds the document is asked for anything.
-/

namespace StreamPipeline.Command

def loadFailed (location : String) (e : PipelineError) : Complaint :=
  ⟨some ("Failed to load pipeline: " ++ location), e.message⟩

def reportTexts (r : CheckReport) : List String :=
  ["Pipeline:          " ++ r.pipeline,
    "Entities:          " ++ toString r.sources ++ " source(s), " ++ toString r.transforms
      ++ " transform(s), " ++ toString r.sinks ++ " sink(s)",
    "Compile order:     " ++ Text.join " -> " r.compileOrder]
  ++ (r.dependencies.map fun d =>
    "  " ++ Text.padRight 18 d.1 ++ " <- " ++ Text.join ", " d.2)
  ++ ["\nAll checks passed."]

def checked (p : Pipeline) : Printout :=
  let loaded := "Pipeline structure: OK"
  match p.check with
  | .ok r => ⟨loaded :: reportTexts r, none⟩
  | .error e => ⟨[loaded], some ⟨some "Pipeline check failed", e.message⟩⟩

def checkDocument (env : Environment) (files : Files) (location : String) : Http.Exchange Printout := do
  match ← (Pipeline.load env files location).run with
  | .ok p => return checked p
  | .error e => return ⟨[], some (loadFailed location e)⟩

end StreamPipeline.Command
