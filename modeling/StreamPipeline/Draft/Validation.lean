import StreamPipeline.Draft.Checked
import StreamPipeline.Pipeline.Basic
import StreamPipeline.Pipeline.Error
import StreamPipeline.Statement.TransformView

/-! # Validation

Turns a draft into a pipeline. An unknown type is an error of its own; all other problems are
collected over the whole document, in its order.
-/

namespace StreamPipeline

/-! ### Sources -/

inductive SourceType where
  | dataset
  | tumble
  | hop
  | cumulate
  | lookup
deriving Repr, DecidableEq

namespace SourceType

def tag : SourceType → String
  | dataset => "dataset"
  | tumble => "tumble_window_dataset"
  | hop => "hop_window_dataset"
  | cumulate => "cumulative_window_dataset"
  | lookup => "lookup_dataset"

def all : List SourceType := [dataset, tumble, hop, cumulate, lookup]

def ofTag? (tag : String) : Option SourceType := all.find? fun t => t.tag == tag

/-- The fields that only some types of source have. -/
def ownFields : SourceType → List String
  | dataset => []
  | tumble => ["timecol", "size", "offset"]
  | hop => ["timecol", "slide", "size", "offset"]
  | cumulate => ["timecol", "step", "size", "offset"]
  | lookup => ["lookup"]

end SourceType

namespace DraftSource

/-- The fields of some types that this source gives. -/
def givenFields (s : DraftSource) : List String :=
  [("timecol", s.timecol.isSome), ("size", s.size.isSome), ("slide", s.slide.isSome),
    ("step", s.step.isSome), ("offset", s.offset.isSome), ("lookup", s.lookup.isSome)].filterMap
    fun f => if f.2 then some f.1 else none

def foreignFields (s : DraftSource) (type : SourceType) : List Fault :=
  (s.givenFields.filter fun f => !type.ownFields.contains f).map fun f => .notAllowed f type.tag

def checkLookup (lookup : Option DraftLookup) : Checked LookupCache :=
  let rows := Checked.positive "lookup.cache-rows" 5000 (lookup.bind (·.cacheRows))
  let ttl := ((lookup.bind (·.cacheTtl)).map Scalar.asText).getD "240s"
  ⟨some ⟨UInt64.ofNat (rows.value.getD 5000), ttl⟩, rows.faults⟩

/-- The parts of a source that depend on its type. -/
def checkKind (s : DraftSource) (type : SourceType) : Checked SourceKind :=
  let timecol := Checked.required "timecol" s.timecol
  let size := Checked.requiredScalar "size" s.size
  let slide := Checked.requiredScalar "slide" s.slide
  let step := Checked.requiredScalar "step" s.step
  let offset := s.offset.map Scalar.asText
  match type with
  | .dataset => .ok .dataset
  | .tumble =>
    ⟨do return .tumble (← timecol.value) (← size.value) offset, timecol.faults ++ size.faults⟩
  | .hop =>
    ⟨do return .hop (← timecol.value) (← slide.value) (← size.value) offset,
      timecol.faults ++ slide.faults ++ size.faults⟩
  | .cumulate =>
    ⟨do return .cumulate (← timecol.value) (← step.value) (← size.value) offset,
      timecol.faults ++ step.faults ++ size.faults⟩
  | .lookup =>
    let cache := checkLookup s.lookup
    ⟨cache.value.map .lookup, cache.faults⟩

def checkType (s : DraftSource) (tag : String) : Checked SourceKind :=
  match SourceType.ofTag? tag with
  | some type =>
    let kind := s.checkKind type
    ⟨kind.value, s.foreignFields type ++ kind.faults⟩
  | none => .nothing

def trimmedFilter (s : DraftSource) : Option String :=
  s.filter.bind fun f => if Text.isBlankText f then none else some (Text.trim f)

/-- A parallelism above 32 bits is no fault, but such a source is left out. -/
def parallelism32 (n : Nat) : Option UInt32 :=
  if n < 4294967296 then some (UInt32.ofNat n) else none

def check (s : DraftSource) : Checked Source :=
  let name := Checked.required "name" s.name
  let tag := Checked.required "type" s.tag
  let dataset := Checked.required "dataset" s.dataset
  let parallelism := Checked.positive "parallelism" 1 s.parallelism
  let kind := tag.andThen s.checkType
  { value := do
      let kind ← kind.value
      return {
        name := ← name.value
        dataset := ← dataset.value
        filter := s.trimmedFilter
        parallelism := ← parallelism.value.bind parallelism32
        kind := kind }
    faults := name.faults ++ tag.faults ++ dataset.faults ++ parallelism.faults ++ kind.faults }

end DraftSource

/-! ### Transforms -/

def DraftTransform.check (t : DraftTransform) : Checked Transform :=
  let name := Checked.required "name" t.name
  let sql := Checked.required "sql" t.sql
  ⟨do return ⟨← name.value, ← sql.value, t.params⟩, name.faults ++ sql.faults⟩

/-! ### Sinks -/

inductive SinkType where
  | postgres
  | starrocks
  | print
  | filesystem
  | kafka
deriving Repr, DecidableEq

namespace SinkType

def tag : SinkType → String
  | postgres => "postgres"
  | starrocks => "starrocks"
  | print => "print"
  | filesystem => "filesystem"
  | kafka => "kafka"

def all : List SinkType := [postgres, starrocks, print, filesystem, kafka]

def ofTag? (tag : String) : Option SinkType := all.find? fun t => t.tag == tag

end SinkType

namespace DraftSink

def checkCredentials (config : Option DraftConnection) : Checked Credentials :=
  let username := Checked.requiredScalar "config.username" (config.bind (·.username))
  let password := Checked.present "config.password" (config.bind (·.password))
  ⟨do return ⟨← username.value, ← password.value⟩, username.faults ++ password.faults⟩

def checkKey (key : Option KeyColumns) : Checked (List String) :=
  match key.map KeyColumns.toList with
  | some (c :: rest) => .ok (c :: rest)
  | _ => .fault (.missing "primary_key")

def checkPostgres (s : DraftSink) : Checked PostgresSink :=
  let database := Checked.required "database" s.database
  let schema := Checked.required "schema" s.schema
  let table := Checked.required "table" s.table
  let key := checkKey s.primaryKey
  let host := Checked.required "config.host" (s.config.bind (·.host))
  let port := Checked.port "config.port" 5432 (s.config.bind (·.port))
  let credentials := checkCredentials s.config
  { value := do
      return {
        host := ← host.value
        port := ← port.value
        credentials := ← credentials.value
        database := ← database.value
        schema := ← schema.value
        table := ← table.value
        primaryKey := ← key.value }
    faults := database.faults ++ schema.faults ++ table.faults ++ key.faults ++ host.faults
      ++ port.faults ++ credentials.faults }

def checkStarrocks (s : DraftSink) : Checked StarrocksSink :=
  let database := Checked.required "database" s.database
  let table := Checked.required "table" s.table
  let queryPort := Checked.port "query_port" 9030 s.queryPort
  let httpPort := Checked.port "http_port" 8030 s.httpPort
  let credentials := checkCredentials s.config
  { value := do
      return {
        host := (s.config.bind (·.host)).getD "localhost"
        queryPort := ← queryPort.value
        httpPort := ← httpPort.value
        credentials := ← credentials.value
        database := ← database.value
        table := ← table.value }
    faults := database.faults ++ table.faults ++ queryPort.faults ++ httpPort.faults
      ++ credentials.faults }

def checkKafka (s : DraftSink) : Checked KafkaSink :=
  let topic := Checked.required "topic" s.topic
  let servers := Checked.required "kafka_servers" s.kafkaServers
  let credentials := checkCredentials s.config
  { value := do
      return {
        topic := ← topic.value
        bootstrapServers := ← servers.value
        truststoreLocation := s.truststoreLocation
        truststorePassword := s.truststorePassword.map Scalar.asText
        credentials := ← credentials.value
        format := s.format.getD "json" }
    faults := topic.faults ++ servers.faults ++ credentials.faults }

def checkKind (s : DraftSink) (type : SinkType) : Checked SinkKind :=
  match type with
  | .postgres =>
    let c := s.checkPostgres
    ⟨c.value.map .postgres, c.faults⟩
  | .starrocks =>
    let c := s.checkStarrocks
    ⟨c.value.map .starrocks, c.faults⟩
  | .print => .ok .print
  | .filesystem =>
    let c := Checked.required "file_name" s.fileName
    ⟨c.value.map .filesystem, c.faults⟩
  | .kafka =>
    let c := s.checkKafka
    ⟨c.value.map .kafka, c.faults⟩

def checkType (s : DraftSink) (tag : String) : Checked SinkKind :=
  match SinkType.ofTag? tag with
  | some type => s.checkKind type
  | none => .nothing

def check (s : DraftSink) : Checked Sink :=
  let name := Checked.required "name" s.name
  let tag := Checked.required "type" s.tag
  let input := Checked.required "from" s.input
  let kind := tag.andThen s.checkType
  ⟨do return ⟨← name.value, ← input.value, ← kind.value⟩,
    name.faults ++ tag.faults ++ input.faults ++ kind.faults⟩

end DraftSink

/-! ### Names -/

namespace Draft

/-- The names of all entities without the blanks around them, as far as they have any. -/
def names (d : Draft) : List String :=
  ((d.sources.map (·.name) ++ d.transforms.map (·.name) ++ d.sinks.map (·.name)).filterMap id).map
    Text.trim |>.filter fun n => !n.isEmpty

/-- One problem for each name that occurred before. -/
def duplicates (seen : List String) : List String → List Problem
  | [] => []
  | n :: rest =>
    if seen.contains n then .duplicateName n :: duplicates seen rest
    else duplicates (n :: seen) rest

/-- Names that an intermediate view needs for itself. -/
def collisions (d : Draft) : List Problem :=
  (d.transforms.filterMap (·.name)).filterMap fun t =>
    let transform := Text.trim t
    if d.names.contains (intermediateName transform) then
      some (.collision (intermediateName transform) transform)
    else none

/-! ### The whole document -/

/-- The first source with an unknown type. -/
def unknownSource (index : Nat) : List DraftSource → Option PipelineError
  | [] => none
  | s :: rest =>
    match s.tag with
    | some tag =>
      if (SourceType.ofTag? (Text.trim tag)).isSome then unknownSource (index + 1) rest
      else
        let name := s.name.getD ("sources[" ++ toString index ++ "]")
        some (.unsupportedSourceType name tag)
    | none => unknownSource (index + 1) rest

/-- The first sink with an unknown type. -/
def unknownSink (index : Nat) : List DraftSink → Option PipelineError
  | [] => none
  | s :: rest =>
    match s.tag with
    | some tag =>
      if (SinkType.ofTag? (Text.trim tag)).isSome then unknownSink (index + 1) rest
      else
        let name := s.name.getD ("sinks[" ++ toString index ++ "]")
        some (.unsupportedSinkType name tag)
    | none => unknownSink (index + 1) rest

def unknownType (d : Draft) : Option PipelineError :=
  (unknownSource 0 d.sources).or (unknownSink 0 d.sinks)

def checkParallelism (value : Option Scalar) : Checked UInt32 :=
  match value with
  | none => .fault (.missing "parallelism")
  | some v =>
    match v.asNat? with
    | some n =>
      if 1 ≤ n ∧ n < 4294967296 then .ok (UInt32.ofNat n) else .fault (.noParallelism v.asText)
    | none => .fault (.noParallelism v.asText)

/-- The problems of one list of entities. -/
def problemsOf {α β : Type} (list : String) (name : α → Option String) (check : α → Checked β)
    (entities : List α) : List Problem :=
  entities.zipIdx.flatMap fun e =>
    (check e.1).faults.map (.fault (.entity list e.2 (name e.1)))

def pipelineFaults (d : Draft) : List Fault :=
  (Checked.required "name" d.name).faults
    ++ (Checked.requiredScalar "specVersion" d.specVersion).faults
    ++ (checkParallelism d.parallelism).faults

def problems (d : Draft) : List Problem :=
  d.pipelineFaults.map (.fault .pipeline)
    ++ problemsOf "sources" (·.name) DraftSource.check d.sources
    ++ problemsOf "transforms" (·.name) DraftTransform.check d.transforms
    ++ problemsOf "sinks" (·.name) DraftSink.check d.sinks
    ++ duplicates [] d.names
    ++ d.collisions

/-- The pipeline of a draft, as far as its parts have a value. -/
def pipeline? (d : Draft) : Option Pipeline := do
  return {
    name := ← (Checked.required "name" d.name).value
    specVersion := ← (Checked.requiredScalar "specVersion" d.specVersion).value
    parallelism := ← (checkParallelism d.parallelism).value
    checkpointDir := d.checkpointDir.getD "file:///opt/flink/checkpoint"
    savepointDir := d.savepointDir.getD "file:///opt/flink/savepoint"
    sources := d.sources.filterMap fun s => s.check.value
    transforms := d.transforms.filterMap fun t => t.check.value
    sinks := d.sinks.filterMap fun s => s.check.value }

def validate (d : Draft) : Except PipelineError Pipeline :=
  match d.unknownType with
  | some e => .error e
  | none =>
    if d.problems.isEmpty then
      match d.pipeline? with
      | some p => .ok p
      | none => .error (.config (.invalidDocument []))
    else .error (.config (.invalidDocument d.problems))

end Draft

end StreamPipeline
