import StreamPipeline.Compile.Build
import StreamPipeline.Statement.Session
import StreamPipeline.Statement.SourceView
import StreamPipeline.Statement.TransformView

/-! # Session and views

Prepares the session and creates the views of sources and transforms. Each view is registered with
the columns that the runtime reports for it.
-/

namespace StreamPipeline

namespace Build

/-- The settings of the session, then the catalog, then the functions. -/
def session (ctx : Context) (p : Pipeline) : Build Unit := do
  p.sessionSettings.forM fun (key, value) =>
    issue .session .sessionConfig key (setStatement key value)
  issue .session .catalog ctx.settings.catalog ctx.settings.catalogStatement
  ctx.settings.functions.forM fun f => issue .session .function f.name f.statement

def source (ctx : Context) (s : Source) : Build Unit := do
  issue .source .sourceView s.name (s.viewStatement ctx.settings.catalog ctx.now)
  register s.name (← describe .source s.name s.name)

/-- The intermediate view of the query, then its projection without processing time. -/
def transform (name sql : String) : Build Unit := do
  issue .transform .intermediateView name (intermediateStatement name sql)
  let columns := Column.visible (← describe .transform name (intermediateName name))
  if columns.isEmpty then
    throw (.compile .transform name sql "no columns left after removing processing-time columns")
  issue .transform .transformView name (projectionStatement name columns)
  register name columns

end Build

end StreamPipeline
