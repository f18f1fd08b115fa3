import StreamPipeline.Json.Tagged
import StreamPipeline.Pipeline.Basic

/-! # Pipelines in JSON

The form in which a validated pipeline is stored and exchanged. Passwords are in clear.
-/

namespace StreamPipeline

open Json (bare? fields? required optional text textOrNull? listOf? orNull texts)

namespace Credentials

def toJson (c : Credentials) : Json :=
  .object [("username", .string c.username), ("password", .string c.password)]

def ofJson? (v : Json) : Option Credentials := do
  let [username, password] ← fields? ["username", "password"] v | none
  return ⟨← text username, ← text password⟩

end Credentials

namespace SourceKind

def toJson : SourceKind → Json
  | dataset => .tagged "dataset" []
  | tumble timecol size offset => .tagged "tumble" [
      ("timecol", .string timecol), ("size", .string size), ("offset", orNull .string offset)]
  | hop timecol slide size offset => .tagged "hop" [
      ("timecol", .string timecol), ("slide", .string slide), ("size", .string size),
      ("offset", orNull .string offset)]
  | cumulate timecol step size offset => .tagged "cumulate" [
      ("timecol", .string timecol), ("step", .string step), ("size", .string size),
      ("offset", orNull .string offset)]
  | lookup c => .tagged "lookup" [("cache_rows", .ofNat c.rows.toNat), ("cache_ttl", .string c.ttl)]

def ofJson? (v : Json) : Option SourceKind := do
  let (tag, body) ← v.tagged?
  match tag with
  | "dataset" => bare? dataset body
  | "tumble" => do
    let [timecol, size, offset] ← fields? ["timecol", "size", "offset"] body | none
    return tumble (← text timecol) (← text size) (← textOrNull? offset)
  | "hop" => do
    let [timecol, slide, size, offset] ←
      fields? ["timecol", "slide", "size", "offset"] body | none
    return hop (← text timecol) (← text slide) (← text size) (← textOrNull? offset)
  | "cumulate" => do
    let [timecol, step, size, offset] ← fields? ["timecol", "step", "size", "offset"] body | none
    return cumulate (← text timecol) (← text step) (← text size) (← textOrNull? offset)
  | "lookup" => do
    let [rows, ttl] ← fields? ["cache_rows", "cache_ttl"] body | none
    return lookup ⟨← required Json.uint64? rows, ← text ttl⟩
  | _ => none

end SourceKind

namespace Source

def toJson (s : Source) : Json :=
  .object [
    ("name", .string s.name),
    ("dataset", .string s.dataset),
    ("filter", orNull .string s.filter),
    ("parallelism", .ofNat s.parallelism.toNat),
    ("kind", s.kind.toJson)]

def ofJson? (v : Json) : Option Source := do
  let [name, dataset, filter, parallelism, kind] ←
    fields? ["name", "dataset", "filter", "parallelism", "kind"] v | none
  return ⟨← text name, ← text dataset, ← textOrNull? filter, ← required Json.uint32? parallelism,
    ← required SourceKind.ofJson? kind⟩

end Source

namespace Transform

/-- Parameters are an object; of a field that is written twice the last one counts. -/
def params? (v : Json) : Option (List (String × Json)) := v.canonical.object?

def toJson (t : Transform) : Json :=
  .object [
    ("name", .string t.name),
    ("sql", .string t.sql),
    ("params", orNull .object t.params)]

def ofJson? (v : Json) : Option Transform := do
  let [name, sql, params] ← fields? ["name", "sql", "params"] v | none
  return ⟨← text name, ← text sql, ← optional params? params⟩

end Transform

namespace SinkKind

def toJson : SinkKind → Json
  | postgres s => .tagged "postgres" [
      ("host", .string s.host), ("port", .ofNat s.port.toNat),
      ("credentials", s.credentials.toJson), ("database", .string s.database),
      ("schema", .string s.schema), ("table", .string s.table),
      ("primary_key", texts s.primaryKey)]
  | starrocks s => .tagged "starrocks" [
      ("host", .string s.host), ("query_port", .ofNat s.queryPort.toNat),
      ("http_port", .ofNat s.httpPort.toNat), ("credentials", s.credentials.toJson),
      ("database", .string s.database), ("table", .string s.table)]
  | print => .tagged "print" []
  | filesystem fileName => .tagged "filesystem" [("file_name", .string fileName)]
  | kafka s => .tagged "kafka" [
      ("topic", .string s.topic), ("bootstrap_servers", .string s.bootstrapServers),
      ("truststore_location", orNull .string s.truststoreLocation),
      ("truststore_password", orNull .string s.truststorePassword),
      ("credentials", s.credentials.toJson), ("format", .string s.format)]

def ofJson? (v : Json) : Option SinkKind := do
  let (tag, body) ← v.tagged?
  match tag with
  | "postgres" => do
    let [host, port, credentials, database, schema, table, key] ← fields?
      ["host", "port", "credentials", "database", "schema", "table", "primary_key"] body | none
    return postgres ⟨← text host, ← required Json.uint16? port,
      ← required Credentials.ofJson? credentials, ← text database, ← text schema, ← text table,
      ← required (listOf? Json.string?) key⟩
  | "starrocks" => do
    let [host, queryPort, httpPort, credentials, database, table] ← fields?
      ["host", "query_port", "http_port", "credentials", "database", "table"] body | none
    return starrocks ⟨← text host, ← required Json.uint16? queryPort,
      ← required Json.uint16? httpPort, ← required Credentials.ofJson? credentials,
      ← text database, ← text table⟩
  | "print" => bare? print body
  | "filesystem" => do
    let [fileName] ← fields? ["file_name"] body | none
    return filesystem (← text fileName)
  | "kafka" => do
    let [topic, servers, location, password, credentials, format] ← fields?
      ["topic", "bootstrap_servers", "truststore_location", "truststore_password", "credentials",
        "format"] body | none
    return kafka ⟨← text topic, ← text servers, ← textOrNull? location, ← textOrNull? password,
      ← required Credentials.ofJson? credentials, ← text format⟩
  | _ => none

end SinkKind

namespace Sink

def toJson (s : Sink) : Json :=
  .object [("name", .string s.name), ("from", .string s.input), ("kind", s.kind.toJson)]

def ofJson? (v : Json) : Option Sink := do
  let [name, input, kind] ← fields? ["name", "from", "kind"] v | none
  return ⟨← text name, ← text input, ← required SinkKind.ofJson? kind⟩

end Sink

namespace Pipeline

def toJson (p : Pipeline) : Json :=
  .object [
    ("name", .string p.name),
    ("spec_version", .string p.specVersion),
    ("parallelism", .ofNat p.parallelism.toNat),
    ("checkpoint_dir", .string p.checkpointDir),
    ("savepoint_dir", .string p.savepointDir),
    ("sources", .array (p.sources.map Source.toJson)),
    ("transforms", .array (p.transforms.map Transform.toJson)),
    ("sinks", .array (p.sinks.map Sink.toJson))]

def ofJson? (v : Json) : Option Pipeline := do
  let [name, specVersion, parallelism, checkpointDir, savepointDir, sources, transforms, sinks] ←
    fields? ["name", "spec_version", "parallelism", "checkpoint_dir", "savepoint_dir", "sources",
      "transforms", "sinks"] v | none
  return ⟨← text name, ← text specVersion, ← required Json.uint32? parallelism,
    ← text checkpointDir, ← text savepointDir, ← required (listOf? Source.ofJson?) sources,
    ← required (listOf? Transform.ofJson?) transforms, ← required (listOf? Sink.ofJson?) sinks⟩

end Pipeline

end StreamPipeline
