import StreamPipeline.Pipeline.Basic
import StreamPipeline.Pipeline.Settings
import StreamPipeline.Sql.Quote

/-! # The session

The statements that make a session of the runtime ready for a pipeline: its settings, the catalog
with the datasets, and the functions.
-/

namespace StreamPipeline

/-- The settings of the session, in the order in which they are sent. -/
def Pipeline.sessionSettings (p : Pipeline) : List (String × String) :=
  [("table.local-time-zone", "UTC"),
    ("table.exec.sink.upsert-materialize", "NONE"),
    ("table.exec.sink.not-null-enforcer", "ERROR"),
    ("state.backend.type", "rocksdb"),
    ("state.backend.incremental", "true"),
    ("state.checkpoints.dir", p.checkpointDir),
    ("state.savepoints.dir", p.savepointDir),
    ("execution.checkpointing.interval", "60s"),
    ("execution.checkpointing.min-pause", "1s"),
    ("execution.checkpointing.timeout", "30 min"),
    ("execution.checkpointing.max-concurrent-checkpoints", "1"),
    ("execution.checkpointing.externalized-checkpoint-retention", "RETAIN_ON_CANCELLATION"),
    ("execution.checkpointing.tolerable-failed-checkpoints", "2147483647"),
    ("parallelism.default", toString p.parallelism.toNat)]

def setStatement (key value : String) : String :=
  "SET " ++ Sql.literal key ++ " = " ++ Sql.literal value

/-- Names the jobs of a pipeline. -/
def nameStatement (pipeline : String) : String := setStatement "pipeline.name" pipeline

namespace Settings

def catalogOptions (s : Settings) : List (String × String) :=
  [("type", "paimon"),
    ("warehouse", s.warehouse),
    ("table-default.merge-engine", "deduplicate"),
    ("table-default.changelog-producer", "input"),
    ("table-default.metastore.partitioned-table", "false"),
    ("table-default.lookup.cache-file-retention", "1 h"),
    ("table-default.lookup.cache-max-memory-size", "256 mb"),
    ("table-default.lookup.cache-max-disk-size", "10 gb"),
    ("table-default.log.scan.remove-normalize", "true"),
    ("table-default.changelog-producer.row-deduplicate", "false"),
    ("table-default.consumer.expiration-time", "24 h"),
    ("table-default.streaming-read-mode", "file"),
    ("table-default.snapshot.expire.limit", "10000"),
    ("table-default.snapshot.num-retained.max", "2000"),
    ("table.exec.state.ttl", "2h")]

def catalogStatement (s : Settings) : String :=
  "CREATE CATALOG IF NOT EXISTS " ++ Sql.quoteIdent s.catalog ++ " WITH ("
    ++ Sql.renderOptions s.catalogOptions ++ ")"

end Settings

def FunctionDef.statement (f : FunctionDef) : String :=
  "CREATE TEMPORARY SYSTEM FUNCTION IF NOT EXISTS " ++ Sql.quoteIdent f.name ++ " AS "
    ++ Sql.literal f.className

end StreamPipeline
