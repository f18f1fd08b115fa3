import StreamPipeline.Compile.Build
import StreamPipeline.Postgres.Administration
import StreamPipeline.Statement.SinkTable

/-! # Sinks

Maps the columns of a sink and creates what it writes to. The mapping touches nothing, so a type
that cannot be mapped fails before any destination has changed.
-/

namespace StreamPipeline

/-- The columns of a sink with their definitions in every system that it touches. -/
structure SinkLayout where
  columns : List Column
  runtimeDefs : List String
  postgresDefs : Option (List String)

namespace Build

def layout (s : Sink) : Build SinkLayout := do
  let columns := Column.visible (← schema s.input)
  let runtimeDefs ← orThrow id (Column.runtimeDefs s.input columns)
  match s.kind with
  | .postgres _ =>
    let postgresDefs ← orThrow id (Column.postgresDefs s.input columns)
    return ⟨columns, runtimeDefs, some postgresDefs⟩
  | _ => return ⟨columns, runtimeDefs, none⟩

/-- The database unless it exists, then the schema and the table of a relational sink. -/
def destination (sink : String) (pg : PostgresSink) (defs : List String) : Build Unit := do
  let failed (sql : String) (message : String) : PipelineError :=
    .provisioning sink (some sql) message
  let inDatabase (sql : String) : Build Unit := do
    orThrow (failed sql) (← ask (.executeIn pg pg.database sql))
  let found ← orThrow (failed Postgres.existsQuery) (← ask (.databaseExists pg pg.database))
  if !found then
    orThrow (failed (Sql.createDatabase pg.database)) (← ask (.createDatabase pg pg.database))
  inDatabase (Sql.createSchema pg.schema)
  inDatabase (pg.tableStatement defs)

/-- The destination of a sink, except in a dry run, and its table in the runtime. -/
def provision (ctx : Context) (dryRun : Bool) (s : Sink) (l : SinkLayout) : Build Unit := do
  match s.kind, l.postgresDefs with
  | .postgres pg, some defs => if !dryRun then destination s.name pg defs
  | _, _ => pure ()
  issue .sink .sinkTable s.name (sinkTableStatement ctx.settings s.name s.kind l.runtimeDefs)
  register s.name l.columns

end Build

end StreamPipeline
