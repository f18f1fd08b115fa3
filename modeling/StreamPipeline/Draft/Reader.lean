import StreamPipeline.Draft.Basic
import StreamPipeline.Yaml.Decode
import StreamPipeline.Yaml.NodeReader

/-! # Reading drafts

The fields of a draft in a YAML document. A document that is no draft gives nothing.
-/

namespace StreamPipeline

open Yaml Decode

/-- An untyped scalar. Integers above the signed range become floats. -/
def Scalar.ofResolved : Resolved → Option Scalar
  | .null | .tooLarge => none
  | .bool b => some (.bool b)
  | .int n => some (if n < (Json.signedLimit : Int) then .int n else .float (Float.ofInt n))
  | .float x => some (.float x)
  | .text s => some (.text s)

def Scalar.decode (n : Node) : Decode Scalar := do
  match ← follow n with
  | .scalar tag plain s => ofOption ((Decode.scalar tag plain s).bind Scalar.ofResolved)
  | _ => fail

/-- A text where no type is expected, so a plain number is none. -/
def untypedText (n : Node) : Decode String := do
  match ← follow n with
  | .scalar tag plain s =>
    match Decode.scalar tag plain s with
    | some (.text s) => return s
    | _ => fail
  | _ => fail

def KeyColumns.decode (depth : Nat) (n : Node) : Decode KeyColumns := do
  let n ← follow n
  match n with
  | .sequence tag columns =>
    if depth = 0 || isCustom tag then fail else return .many (← columns.mapM untypedText)
  | n => return .one (← untypedText n)

namespace Draft

def lookup (depth : Nat) (n : Node) : Decode DraftLookup := do
  let fs ← fields depth n
  return {
    cacheRows := ← optionalField ["cache-rows", "cache_rows"] Scalar.decode fs
    cacheTtl := ← optionalField ["cache-ttl", "cache_ttl"] Scalar.decode fs }

def source (depth : Nat) (n : Node) : Decode DraftSource := do
  let fs ← fields depth n
  return {
    name := ← optionalField ["name"] text fs
    tag := ← optionalField ["type"] text fs
    dataset := ← optionalField ["dataset"] text fs
    filter := ← optionalField ["filter"] text fs
    parallelism := ← optionalField ["parallelism"] Scalar.decode fs
    timecol := ← optionalField ["timecol"] text fs
    size := ← optionalField ["size"] Scalar.decode fs
    slide := ← optionalField ["slide"] Scalar.decode fs
    step := ← optionalField ["step"] Scalar.decode fs
    offset := ← optionalField ["offset"] Scalar.decode fs
    lookup := ← optionalField ["lookup"] (lookup (depth - 1)) fs }

/-- Parameters are a mapping; the last of equal names counts. -/
def params (depth : Nat) (n : Node) : Decode (List (String × Json)) := do
  let fs ← fields depth n
  let values ← fs.mapM fun f => do return (f.1, ← json (depth - 1) f.2)
  return Json.sortFields values

def transform (depth : Nat) (n : Node) : Decode DraftTransform := do
  let fs ← fields depth n
  return {
    name := ← optionalField ["name"] text fs
    sql := ← optionalField ["sql"] text fs
    params := ← optionalField ["params"] (params (depth - 1)) fs }

def connection (depth : Nat) (n : Node) : Decode DraftConnection := do
  let fs ← fields depth n
  return {
    host := ← optionalField ["host"] text fs
    port := ← optionalField ["port"] Scalar.decode fs
    username := ← optionalField ["username"] Scalar.decode fs
    password := ← optionalField ["password"] Scalar.decode fs }

def sink (depth : Nat) (n : Node) : Decode DraftSink := do
  let fs ← fields depth n
  return {
    name := ← optionalField ["name"] text fs
    tag := ← optionalField ["type"] text fs
    input := ← optionalField ["from"] text fs
    database := ← optionalField ["database"] text fs
    schema := ← optionalField ["schema"] text fs
    table := ← optionalField ["table"] text fs
    primaryKey := ← optionalField ["primary_key"] (KeyColumns.decode (depth - 1)) fs
    fileName := ← optionalField ["file_name"] text fs
    topic := ← optionalField ["topic"] text fs
    kafkaServers := ← optionalField ["kafka_servers"] text fs
    truststoreLocation := ← optionalField ["truststore_location"] text fs
    truststorePassword := ← optionalField ["truststore_password"] Scalar.decode fs
    format := ← optionalField ["format"] text fs
    queryPort := ← optionalField ["query_port"] Scalar.decode fs
    httpPort := ← optionalField ["http_port"] Scalar.decode fs
    config := ← optionalField ["config"] (connection (depth - 1)) fs }

/-- A list of entities, which may be missing but not null. -/
def entities {α : Type} (depth : Nat) (name : String) (inner : Nat → Node → Decode α)
    (fs : List (String × Node)) : Decode (List α) := do
  return (← field [name] (list depth (inner (depth - 1))) fs).getD []

def decode (n : Node) : Decode Draft := do
  let fs ← fields maxDepth n
  let depth := maxDepth - 1
  return {
    name := ← optionalField ["name"] text fs
    specVersion := ← optionalField ["specVersion"] Scalar.decode fs
    parallelism := ← optionalField ["parallelism"] Scalar.decode fs
    checkpointDir := ← optionalField ["state_checkpoints_dir"] text fs
    savepointDir := ← optionalField ["state_savepoints_dir"] text fs
    sources := ← entities depth "sources" source fs
    transforms := ← entities depth "transforms" transform fs
    sinks := ← entities depth "sinks" sink fs }

/-- The draft in a YAML text. -/
def ofText? (s : String) : Option Draft := do
  Decode.ofDocument decode (← Document.ofText? s)

end Draft

end StreamPipeline
