import StreamPipeline.Proofs.Draft.Names

/-! # The rules of a document

Each entity of a draft has a list of rules, in the order of its fields: those that hold for every
entity, and those of its type if it has one. Checking an entity is checking its rules one by one, so
no problem hides another.
-/

namespace StreamPipeline

theorem Text.trim_eq_empty_iff {s : String} : trim s = "" ↔ isBlankText s = true := by
  refine ⟨isBlankText_of_trim, fun h => ?_⟩
  have hdrop : s.toList.dropWhile isBlank = [] :=
    List.dropWhile_eq_nil_iff.mpr (List.all_eq_true.mp h)
  simp [trim, trimChars, trimStartChars, trimEndChars, hdrop]

/-- What holds in any case, and what depends on a choice that may not have been made. -/
theorem mem_append_getD {α τ : Type} {l : List α} {choice : Option τ} {next : τ → List α} {a : α} :
    a ∈ l ++ (choice.map next).getD [] ↔ a ∈ l ∨ ∃ t, choice = some t ∧ a ∈ next t := by
  rw [List.mem_append]
  cases choice <;> simp

/-- A rule about one field, with what the document gives for it. -/
inductive FieldRule where
  | filled (field : String) (value : Option String)
  | given (field : String) (value : Option Scalar)
  | keyed (value : Option KeyColumns)
  | workers (value : Option Scalar)
  | positive (field : String) (value : Option Scalar)
  | port (field : String) (value : Option Scalar)
  | owned (field : String) (type : SourceType) (present : Bool)

namespace FieldRule

/-- What checking the field finds. Whether a parallelism is given is a rule of its own. -/
def faults : FieldRule → List Fault
  | filled field v => (Checked.required field v).faults
  | given field v => (Checked.present field v).faults
  | keyed v => (DraftSink.checkKey v).faults
  | workers v => if v.isSome then (Draft.checkParallelism v).faults else []
  | positive field v => (Checked.positive field 1 v).faults
  | port field v => (Checked.port field 1 v).faults
  | owned field type present =>
    if present && !type.ownFields.contains field then [.notAllowed field type.tag] else []

end FieldRule

namespace Checked

theorem positive_faults (field : String) (m n : Nat) (v : Option Scalar) :
    (positive field m v).faults = (positive field n v).faults := by
  unfold positive
  cases v <;> rfl

theorem port_faults (field : String) (m n : UInt16) (v : Option Scalar) :
    (port field m v).faults = (port field n v).faults := by
  unfold port
  cases v <;> rfl

/-- A tag that names no type has nothing more to check, and a blank tag names none. -/
theorem andThen_required {α τ : Type} {field : String} {tag : Option String}
    {next : String → Checked α} {type? : String → Option τ} {faults : τ → List Fault}
    (hnext : ∀ t, (next t).faults = ((type? t).map faults).getD []) (hblank : type? "" = none) :
    ((required field tag).andThen next).faults =
      ((tag.bind fun t => type? (Text.trim t)).map faults).getD [] := by
  cases tag with
  | none => rfl
  | some t =>
    cases hb : Text.isBlankText t with
    | true => simp [required, andThen, fault, nothing, hb, Text.trim_eq_empty_iff.mpr hb, hblank]
    | false => simp [required, andThen, ok, hb, hnext]

end Checked

/-! ### Sources -/

namespace DraftSource

/-- The type that the tag names. -/
def type? (s : DraftSource) : Option SourceType :=
  s.tag.bind fun tag => SourceType.ofTag? (Text.trim tag)

/-- The fields that only some types have, and whether they are given. -/
def typedFields (s : DraftSource) : List (String × Bool) :=
  [("timecol", s.timecol.isSome), ("size", s.size.isSome), ("slide", s.slide.isSome),
    ("step", s.step.isSome), ("offset", s.offset.isSome), ("lookup", s.lookup.isSome)]

def kindRules (s : DraftSource) : SourceType → List FieldRule
  | .dataset => []
  | .tumble => [.filled "timecol" s.timecol, .filled "size" (s.size.map Scalar.asText)]
  | .hop =>
    [.filled "timecol" s.timecol, .filled "slide" (s.slide.map Scalar.asText),
      .filled "size" (s.size.map Scalar.asText)]
  | .cumulate =>
    [.filled "timecol" s.timecol, .filled "step" (s.step.map Scalar.asText),
      .filled "size" (s.size.map Scalar.asText)]
  | .lookup => [.positive "lookup.cache-rows" (s.lookup.bind (·.cacheRows))]

def typeRules (s : DraftSource) (type : SourceType) : List FieldRule :=
  s.typedFields.map (fun f => .owned f.1 type f.2) ++ s.kindRules type

/-- The rules of a source. Without a type it has only those that do not depend on one. -/
def rules (s : DraftSource) : List FieldRule :=
  [.filled "name" s.name, .filled "type" s.tag, .filled "dataset" s.dataset,
    .positive "parallelism" s.parallelism] ++ (s.type?.map s.typeRules).getD []

theorem faults_foreignFields (s : DraftSource) (type : SourceType) : s.foreignFields type =
    (s.typedFields.map fun f => FieldRule.owned f.1 type f.2).flatMap FieldRule.faults := by
  have hl (l : List (String × Bool)) : ((l.filterMap fun f => if f.2 then some f.1 else none).filter
      fun f => !type.ownFields.contains f).map (fun f => Fault.notAllowed f type.tag) =
        (l.map fun f => FieldRule.owned f.1 type f.2).flatMap FieldRule.faults := by
    induction l with
    | nil => rfl
    | cons f l ih =>
      obtain ⟨field, present⟩ := f
      rw [List.map_cons, List.flatMap_cons, ← ih]
      cases present with
      | false => rfl
      | true =>
        simp only [List.filterMap_cons, if_true, List.filter_cons]
        by_cases hc : field ∈ type.ownFields <;> simp [FieldRule.faults, hc]
  exact hl s.typedFields

theorem faults_checkKind (s : DraftSource) (type : SourceType) :
    (s.checkKind type).faults = (s.kindRules type).flatMap FieldRule.faults := by
  cases type with
  | lookup =>
    simp only [checkKind, checkLookup, kindRules, List.flatMap_cons, List.flatMap_nil,
      List.append_nil, FieldRule.faults]
    exact Checked.positive_faults _ _ _ _
  | _ =>
    simp [checkKind, kindRules, FieldRule.faults, Checked.requiredScalar, Checked.ok]

theorem faults_check (s : DraftSource) : s.check.faults = s.rules.flatMap FieldRule.faults := by
  have htype : ((Checked.required "type" s.tag).andThen s.checkType).faults =
      (s.type?.map fun type => (s.typeRules type).flatMap FieldRule.faults).getD [] := by
    refine Checked.andThen_required (fun tag => ?_) (by decide)
    unfold checkType
    cases SourceType.ofTag? tag with
    | none => rfl
    | some type =>
      simp only [typeRules, List.flatMap_append, Option.map_some, Option.getD_some]
      rw [faults_foreignFields, faults_checkKind]
  simp only [check, rules, htype]
  cases s.type? <;> simp [FieldRule.faults]

end DraftSource

/-! ### Transforms and sinks -/

namespace DraftTransform

def rules (t : DraftTransform) : List FieldRule := [.filled "name" t.name, .filled "sql" t.sql]

theorem faults_check (t : DraftTransform) : t.check.faults = t.rules.flatMap FieldRule.faults := by
  simp [check, rules, FieldRule.faults]

end DraftTransform

namespace DraftSink

/-- The type that the tag names. -/
def type? (s : DraftSink) : Option SinkType :=
  s.tag.bind fun tag => SinkType.ofTag? (Text.trim tag)

def credentialRules (s : DraftSink) : List FieldRule :=
  [.filled "config.username" ((s.config.bind (·.username)).map Scalar.asText),
    .given "config.password" (s.config.bind (·.password))]

def kindRules (s : DraftSink) : SinkType → List FieldRule
  | .postgres =>
    [.filled "database" s.database, .filled "schema" s.schema, .filled "table" s.table,
      .keyed s.primaryKey, .filled "config.host" (s.config.bind (·.host)),
      .port "config.port" (s.config.bind (·.port))] ++ s.credentialRules
  | .starrocks =>
    [.filled "database" s.database, .filled "table" s.table, .port "query_port" s.queryPort,
      .port "http_port" s.httpPort] ++ s.credentialRules
  | .print => []
  | .filesystem => [.filled "file_name" s.fileName]
  | .kafka => [.filled "topic" s.topic, .filled "kafka_servers" s.kafkaServers] ++ s.credentialRules

/-- The rules of a sink. Without a type it has only those that do not depend on one. -/
def rules (s : DraftSink) : List FieldRule :=
  [.filled "name" s.name, .filled "type" s.tag, .filled "from" s.input] ++
    (s.type?.map s.kindRules).getD []

theorem faults_checkCredentials (s : DraftSink) :
    (checkCredentials s.config).faults = s.credentialRules.flatMap FieldRule.faults := by
  simp [checkCredentials, credentialRules, FieldRule.faults, Checked.requiredScalar]

theorem faults_checkKind (s : DraftSink) (type : SinkType) :
    (s.checkKind type).faults = (s.kindRules type).flatMap FieldRule.faults := by
  have hport (field : String) (n : UInt16) (v : Option Scalar) :
      (Checked.port field n v).faults = (FieldRule.port field v).faults :=
    Checked.port_faults field n 1 v
  cases type with
  | postgres =>
    simp only [checkKind, checkPostgres, kindRules, List.flatMap_append, ← faults_checkCredentials,
      hport]
    simp [FieldRule.faults]
  | starrocks =>
    simp only [checkKind, checkStarrocks, kindRules, List.flatMap_append,
      ← faults_checkCredentials, hport]
    simp [FieldRule.faults]
  | kafka =>
    simp only [checkKind, checkKafka, kindRules, List.flatMap_append, ← faults_checkCredentials]
    simp [FieldRule.faults]
  | print => rfl
  | filesystem => simp [checkKind, kindRules, FieldRule.faults]

theorem faults_check (s : DraftSink) : s.check.faults = s.rules.flatMap FieldRule.faults := by
  have htype : ((Checked.required "type" s.tag).andThen s.checkType).faults =
      (s.type?.map fun type => (s.kindRules type).flatMap FieldRule.faults).getD [] := by
    refine Checked.andThen_required (fun tag => ?_) (by decide)
    unfold checkType
    cases SinkType.ofTag? tag with
    | none => rfl
    | some type => exact faults_checkKind s type
  simp only [check, rules, htype]
  cases s.type? <;> simp [FieldRule.faults]

end DraftSink

/-! ### Documents -/

/-- A rule of a document: one about a field of an entity, one for each name, that it did not occur
before, and one for each transform, that nothing is named like its intermediate view. -/
inductive Rule where
  | field (subject : Subject) (rule : FieldRule)
  | unique (earlier : List String) (name : String)
  | free (names : List String) (transform : String)

def Rule.problems : Rule → List Problem
  | field subject rule => rule.faults.map (.fault subject)
  | unique earlier name => if name ∈ earlier then [.duplicateName name] else []
  | free names transform =>
    if intermediateName transform ∈ names then
      [.collision (intermediateName transform) transform]
    else []

namespace Draft

def pipelineRules (d : Draft) : List FieldRule :=
  [.filled "name" d.name, .filled "specVersion" (d.specVersion.map Scalar.asText),
    .given "parallelism" d.parallelism, .workers d.parallelism]

/-- The rules of a list of entities, in its order. -/
def entityRules {α : Type} (list : String) (name : α → Option String)
    (rules : α → List FieldRule) (entities : List α) : List Rule :=
  entities.zipIdx.flatMap fun e => (rules e.1).map (.field (.entity list e.2 (name e.1)))

/-- Each name with those before it. -/
def uniqueRules (names : List String) : List Rule :=
  names.zipIdx.map fun e => .unique (names.take e.2) e.1

def freeRules (d : Draft) : List Rule :=
  (d.transforms.filterMap (·.name)).map fun t => .free d.names (Text.trim t)

/-- The rules of a document, in the order in which they are reported. -/
def rules (d : Draft) : List Rule :=
  d.pipelineRules.map (.field .pipeline)
    ++ entityRules "sources" (·.name) DraftSource.rules d.sources
    ++ entityRules "transforms" (·.name) DraftTransform.rules d.transforms
    ++ entityRules "sinks" (·.name) DraftSink.rules d.sinks
    ++ uniqueRules d.names
    ++ d.freeRules

theorem faults_pipeline (d : Draft) :
    d.pipelineFaults = d.pipelineRules.flatMap FieldRule.faults := by
  have hparallelism (v : Option Scalar) : (checkParallelism v).faults =
      (FieldRule.given "parallelism" v).faults ++ (FieldRule.workers v).faults := by
    cases v <;> rfl
  unfold pipelineFaults pipelineRules
  simp only [List.flatMap_cons, List.flatMap_nil, List.append_nil]
  rw [hparallelism, List.append_assoc]
  rfl

theorem problems_field (subject : Subject) (rules : List FieldRule) :
    (rules.map (Rule.field subject)).flatMap Rule.problems =
      (rules.flatMap FieldRule.faults).map (.fault subject) := by
  rw [List.flatMap_map, List.map_flatMap]
  rfl

theorem problemsOf_eq {α β : Type} {list : String} {name : α → Option String}
    {check : α → Checked β} {rules : α → List FieldRule}
    (h : ∀ a, (check a).faults = (rules a).flatMap FieldRule.faults) (entities : List α) :
    problemsOf list name check entities =
      (entityRules list name rules entities).flatMap Rule.problems := by
  unfold problemsOf entityRules
  rw [List.flatMap_assoc]
  refine List.flatMap_congr fun e _ => ?_
  rw [problems_field, h]

theorem duplicates_eq (seen names : List String) : duplicates seen names =
    names.zipIdx.flatMap fun e =>
      if e.1 ∈ seen ∨ e.1 ∈ names.take e.2 then [.duplicateName e.1] else [] := by
  induction names generalizing seen with
  | nil => rfl
  | cons n names ih =>
    have hrest (earlier : List String) (h : ∀ m, m ∈ earlier ↔ m ∈ seen ∨ m = n) :
        duplicates earlier names = (names.zipIdx 1).flatMap fun e =>
          if e.1 ∈ seen ∨ e.1 ∈ (n :: names).take e.2 then [.duplicateName e.1] else [] := by
      rw [ih, List.zipIdx_succ, List.flatMap_map]
      refine List.flatMap_congr fun e _ => ?_
      simp only [h, List.take_succ_cons, List.mem_cons, or_assoc]
    rw [List.zipIdx_cons, List.flatMap_cons]
    unfold duplicates
    by_cases hn : n ∈ seen
    · rw [hrest seen fun m => ⟨.inl, fun hm => hm.elim id fun he => he ▸ hn⟩]
      simp [hn]
    · rw [hrest (n :: seen) fun m => by rw [List.mem_cons, or_comm]]
      simp [hn]

theorem problems_eq (d : Draft) : d.problems = d.rules.flatMap Rule.problems := by
  have hunique : duplicates [] d.names = (uniqueRules d.names).flatMap Rule.problems := by
    rw [duplicates_eq]
    simp [uniqueRules, Rule.problems, List.flatMap_map]
  have hfree : d.collisions = d.freeRules.flatMap Rule.problems := by
    unfold collisions freeRules
    rw [List.filterMap_eq_flatMap_toList, List.flatMap_map]
    refine List.flatMap_congr fun t _ => ?_
    by_cases hn : intermediateName (Text.trim t) ∈ d.names <;> simp [Rule.problems, hn]
  unfold problems rules
  simp only [List.flatMap_append]
  rw [hunique, hfree, faults_pipeline, problems_field,
    problemsOf_eq DraftSource.faults_check, problemsOf_eq DraftTransform.faults_check,
    problemsOf_eq DraftSink.faults_check]

end Draft

end StreamPipeline
