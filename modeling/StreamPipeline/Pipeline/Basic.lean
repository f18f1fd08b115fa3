import StreamPipeline.Json.Value
import StreamPipeline.Text.Quoted

/-! # Pipelines

A validated pipeline: sources over catalog datasets, transforms in SQL, and sinks. Nothing in it
changes during a run.
-/

namespace StreamPipeline

/-- A user name and a password. -/
structure Credentials where
  username : String
  password : String
deriving Repr, DecidableEq

/-- The diagnostic form, which never shows the password. -/
def Credentials.describe (c : Credentials) : String :=
  "Credentials \x7b username: " ++ Text.quoted c.username ++ ", password: " ++ Text.quoted "***"
    ++ " \x7d"

/-- How many rows a lookup keeps, and how long. -/
structure LookupCache where
  rows : UInt64
  ttl : String
deriving Repr, DecidableEq

inductive SourceKind where
  | dataset
  | tumble (timecol size : String) (offset : Option String)
  | hop (timecol slide size : String) (offset : Option String)
  | cumulate (timecol step size : String) (offset : Option String)
  | lookup (cache : LookupCache)
deriving Repr, DecidableEq

/-- The tag that a document uses for the kind. -/
def SourceKind.tag : SourceKind → String
  | dataset => "dataset"
  | tumble .. => "tumble_window_dataset"
  | hop .. => "hop_window_dataset"
  | cumulate .. => "cumulative_window_dataset"
  | lookup _ => "lookup_dataset"

structure Source where
  name : String
  dataset : String
  filter : Option String
  parallelism : UInt32
  kind : SourceKind
deriving Repr, DecidableEq

/-- A transform with parameters is a template; one without is used as written. -/
structure Transform where
  name : String
  sql : String
  params : Option (List (String × Json))
deriving BEq

structure PostgresSink where
  host : String
  port : UInt16
  credentials : Credentials
  database : String
  schema : String
  table : String
  primaryKey : List String
deriving Repr, DecidableEq

structure StarrocksSink where
  host : String
  queryPort : UInt16
  httpPort : UInt16
  credentials : Credentials
  database : String
  table : String
deriving Repr, DecidableEq

structure KafkaSink where
  topic : String
  bootstrapServers : String
  truststoreLocation : Option String
  truststorePassword : Option String
  credentials : Credentials
  format : String
deriving Repr, DecidableEq

inductive SinkKind where
  | postgres (sink : PostgresSink)
  | starrocks (sink : StarrocksSink)
  | print
  | filesystem (fileName : String)
  | kafka (sink : KafkaSink)
deriving Repr, DecidableEq

def SinkKind.tag : SinkKind → String
  | postgres _ => "postgres"
  | starrocks _ => "starrocks"
  | print => "print"
  | filesystem _ => "filesystem"
  | kafka _ => "kafka"

structure Sink where
  name : String
  input : String
  kind : SinkKind
deriving Repr, DecidableEq

structure Pipeline where
  name : String
  specVersion : String
  parallelism : UInt32
  checkpointDir : String
  savepointDir : String
  sources : List Source
  transforms : List Transform
  sinks : List Sink
deriving BEq

end StreamPipeline
