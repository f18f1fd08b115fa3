import StreamPipeline.Pipeline.Basic
import StreamPipeline.Pipeline.Settings
import StreamPipeline.Schema.Mapping

/-! # Sink tables

The table that stands for a sink in the runtime, with the options of its connector, and the insert
that fills it. A structured column is written as JSON text under its own name.
-/

namespace StreamPipeline

def PostgresSink.options (s : PostgresSink) : List (String × String) :=
  [("connector", "jdbc"),
    ("url", "jdbc:postgresql://" ++ s.host ++ ":" ++ toString s.port.toNat ++ "/" ++ s.database),
    ("table-name", Sql.destinationName s.schema ++ "." ++ Sql.destinationName s.table),
    ("username", s.credentials.username),
    ("password", s.credentials.password)]

def StarrocksSink.options (s : StarrocksSink) : List (String × String) :=
  [("connector", "starrocks"),
    ("jdbc-url", "jdbc:mysql://" ++ s.host ++ ":" ++ toString s.queryPort.toNat ++ "/" ++ s.database),
    ("load-url", s.host ++ ":" ++ toString s.httpPort.toNat),
    ("database-name", s.database),
    ("table-name", s.table),
    ("username", s.credentials.username),
    ("password", s.credentials.password)]

namespace KafkaSink

/-- A value of a login configuration, with a backslash before each backslash and double quote. -/
def loginValue (s : String) : String :=
  String.ofList (s.toList.flatMap fun c => if c = '\\' ∨ c = '"' then ['\\', c] else [c])

def loginConfig (c : Credentials) : String :=
  "org.apache.kafka.common.security.plain.PlainLoginModule required username=\""
    ++ loginValue c.username ++ "\" password=\"" ++ loginValue c.password ++ "\";"

def options (s : KafkaSink) : List (String × String) :=
  [("connector", "kafka"),
    ("topic", s.topic),
    ("properties.bootstrap.servers", s.bootstrapServers),
    ("properties.security.protocol", "SASL_SSL")]
  ++ (s.truststoreLocation.toList.map fun l => ("properties.ssl.truststore.location", l))
  ++ (s.truststorePassword.toList.map fun p => ("properties.ssl.truststore.password", p))
  ++ [("properties.sasl.mechanism", "PLAIN"),
    ("properties.ssl.endpoint.identification.algorithm", ""),
    ("properties.sasl.jaas.config", loginConfig s.credentials),
    ("format", s.format)]

end KafkaSink

namespace SinkKind

/-- The options of the connector, in their order. -/
def options (settings : Settings) : SinkKind → List (String × String)
  | postgres s => s.options
  | starrocks s => s.options
  | print => [("connector", "print"), ("standard-error", "true")]
  | filesystem fileName =>
    [("connector", "filesystem"),
      ("path", Text.trimEndOf '/' settings.sinkRoot ++ "/" ++ fileName),
      ("format", "debezium-json")]
  | kafka s => s.options

/-- The key of a relational sink, which the destination enforces and the runtime does not. -/
def keyClause : SinkKind → List String
  | postgres s =>
    ["PRIMARY KEY (" ++ Text.join ", " (s.primaryKey.map Sql.quoteIdent) ++ ") NOT ENFORCED"]
  | _ => []

end SinkKind

def sinkTableStatement (settings : Settings) (sink : String) (kind : SinkKind)
    (columnDefs : List String) : String :=
  "CREATE TABLE " ++ Sql.quoteIdent sink ++ " ("
    ++ Text.join ", " (columnDefs ++ kind.keyClause)
    ++ ") WITH (" ++ Sql.renderOptions (kind.options settings) ++ ")"

/-- How an insert selects a column. -/
def Column.selection (c : Column) : String :=
  let name := Sql.quoteIdent c.name
  match c.dataType with
  | .array _ => "ARRAY_TO_JSON(" ++ name ++ ") AS " ++ name
  | .row _ => "ROW_TO_JSON(" ++ name ++ ") AS " ++ name
  | _ => name

def insertStatement (sink view : String) (columns : List Column) : String :=
  "INSERT INTO " ++ Sql.quoteIdent sink ++ " SELECT "
    ++ Text.join ", " (columns.map Column.selection) ++ " FROM " ++ Sql.quoteIdent view

/-- The table of the relational destination, with its key. -/
def PostgresSink.tableStatement (s : PostgresSink) (columnDefs : List String) : String :=
  "CREATE TABLE IF NOT EXISTS " ++ Sql.destinationName s.schema ++ "."
    ++ Sql.destinationName s.table ++ " (" ++ Text.join ", " columnDefs ++ ", PRIMARY KEY ("
    ++ Text.join ", " (s.primaryKey.map Sql.destinationName) ++ "))"

end StreamPipeline
