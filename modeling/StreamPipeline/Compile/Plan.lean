import StreamPipeline.Compile.Build
import StreamPipeline.Json.Tagged

/-! # Plans

The statements of a run as they are shown, in the order in which they were accepted.
-/

namespace StreamPipeline

def Statement.toJson (s : Statement) : Json :=
  .object [
    ("stage", .string s.stage.name),
    ("kind", .string s.kind.name),
    ("target", .string s.target),
    ("sql", .string s.sql)]

def planToJson (plan : List Statement) : Json := .array (plan.map Statement.toJson)

end StreamPipeline
