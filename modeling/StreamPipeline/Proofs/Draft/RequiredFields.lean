import StreamPipeline.Proofs.Draft.Names
import StreamPipeline.Proofs.Draft.Verdict

/-! # Required fields

A valid document without one of its required fields is invalid, and one line of the error names the
field and its entity. No other check comes before: removing a field makes no type unknown.
-/

namespace StreamPipeline

/-! ### Lines of errors -/

theorem Text.join_of_mem (sep : String) {line : String} {lines : List String} (h : line ∈ lines) :
    ∃ before after, sep ++ join sep lines = before ++ sep ++ line ++ after ∧
      (after = "" ∨ ∃ rest, after = sep ++ rest) := by
  induction lines with
  | nil => cases h
  | cons l lines ih =>
    cases lines with
    | nil =>
      obtain rfl := List.mem_singleton.mp h
      exact ⟨"", "", by simp [join], .inl rfl⟩
    | cons m lines =>
      have hjoin : join sep (l :: m :: lines) = l ++ (sep ++ join sep (m :: lines)) := by
        simp [join, String.append_assoc]
      rw [hjoin]
      rcases List.mem_cons.mp h with rfl | h
      · exact ⟨"", sep ++ join sep (m :: lines), by simp [String.append_assoc], .inr ⟨_, rfl⟩⟩
      · obtain ⟨before, after, he, ha⟩ := ih h
        exact ⟨sep ++ l ++ before, after, by rw [he]; simp [String.append_assoc], ha⟩

/-- The text of the error has the line among those that it lists. -/
def PipelineError.HasLine (e : PipelineError) (line : String) : Prop :=
  ∃ before after, e.message = before ++ "\n  - " ++ line ++ after ∧
    (after = "" ∨ ∃ rest, after = "\n  - " ++ rest)

theorem PipelineError.message_invalidDocument (problems : List Problem) :
    (config (.invalidDocument problems)).message = "config error: pipeline validation failed:"
      ++ ("\n  - " ++ Text.join "\n  - " (problems.map Problem.message)) := by
  have hmessage : (config (.invalidDocument problems)).message = "config error: "
      ++ ("pipeline validation failed:\n  - "
        ++ Text.join "\n  - " (problems.map Problem.message)) := rfl
  rw [hmessage, ← String.append_assoc, ← String.append_assoc]
  congr 1

theorem PipelineError.hasLine_of_mem {problems : List Problem} {problem : Problem}
    (h : problem ∈ problems) :
    (config (.invalidDocument problems)).HasLine problem.message := by
  have hline : problem.message ∈ problems.map Problem.message := List.mem_map_of_mem h
  obtain ⟨before, after, he, ha⟩ := Text.join_of_mem "\n  - " hline
  refine ⟨"config error: pipeline validation failed:" ++ before, after, ?_, ha⟩
  rw [message_invalidDocument, he]
  simp only [String.append_assoc]

/-- Validation fails with a line that names the missing field. -/
def Draft.ReportsMissing (d : Draft) (label key : String) : Prop :=
  ∃ cause, d.validate = .error (.config cause) ∧
    (PipelineError.config cause).HasLine (label ++ ": missing required field '" ++ key ++ "'")

/-! ### Fields -/

/-- A field by its name in documents, and how to leave it out. -/
structure RequiredField (α : Type) where
  key : String
  without : α → α

namespace DraftSource

def fields : List (RequiredField DraftSource) := [
  ⟨"name", fun s => { s with name := none }⟩,
  ⟨"type", fun s => { s with tag := none }⟩,
  ⟨"dataset", fun s => { s with dataset := none }⟩]

def timecolField : RequiredField DraftSource := ⟨"timecol", fun s => { s with timecol := none }⟩

def sizeField : RequiredField DraftSource := ⟨"size", fun s => { s with size := none }⟩

def slideField : RequiredField DraftSource := ⟨"slide", fun s => { s with slide := none }⟩

def stepField : RequiredField DraftSource := ⟨"step", fun s => { s with step := none }⟩

def windowFields : SourceType → List (RequiredField DraftSource)
  | .dataset | .lookup => []
  | .tumble => [timecolField, sizeField]
  | .hop => [timecolField, sizeField, slideField]
  | .cumulate => [timecolField, sizeField, stepField]

def requiredFields (s : DraftSource) : List (RequiredField DraftSource) :=
  fields ++ (s.type?.map windowFields).getD []

end DraftSource

def DraftTransform.requiredFields : List (RequiredField DraftTransform) := [
  ⟨"name", fun t => { t with name := none }⟩,
  ⟨"sql", fun t => { t with sql := none }⟩]

namespace DraftSink

def fields : List (RequiredField DraftSink) := [
  ⟨"name", fun s => { s with name := none }⟩,
  ⟨"type", fun s => { s with tag := none }⟩,
  ⟨"from", fun s => { s with input := none }⟩]

def databaseField : RequiredField DraftSink := ⟨"database", fun s => { s with database := none }⟩

def tableField : RequiredField DraftSink := ⟨"table", fun s => { s with table := none }⟩

def usernameField : RequiredField DraftSink :=
  ⟨"config.username", fun s => { s with config := s.config.map ({ · with username := none }) }⟩

def passwordField : RequiredField DraftSink :=
  ⟨"config.password", fun s => { s with config := s.config.map ({ · with password := none }) }⟩

def credentialFields : List (RequiredField DraftSink) := [usernameField, passwordField]

def typeFields : SinkType → List (RequiredField DraftSink)
  | .postgres => [
    databaseField,
    ⟨"schema", fun s => { s with schema := none }⟩,
    tableField,
    ⟨"primary_key", fun s => { s with primaryKey := none }⟩,
    ⟨"config.host", fun s => { s with config := s.config.map ({ · with host := none }) }⟩]
      ++ credentialFields
  | .starrocks => [databaseField, tableField] ++ credentialFields
  | .print => []
  | .filesystem => [⟨"file_name", fun s => { s with fileName := none }⟩]
  | .kafka => [
    ⟨"topic", fun s => { s with topic := none }⟩,
    ⟨"kafka_servers", fun s => { s with kafkaServers := none }⟩] ++ credentialFields

def requiredFields (s : DraftSink) : List (RequiredField DraftSink) :=
  fields ++ (s.type?.map typeFields).getD []

end DraftSink

def Draft.requiredFields : List (RequiredField Draft) := [
  ⟨"name", fun d => { d with name := none }⟩,
  ⟨"specVersion", fun d => { d with specVersion := none }⟩,
  ⟨"parallelism", fun d => { d with parallelism := none }⟩]

/-! ### Entities without a field -/

/-- One of the rules is about the field, and the field is not given. -/
def Lacking (rules : List FieldRule) (key : String) : Prop :=
  .filled key none ∈ rules ∨ .given key none ∈ rules ∨ key = "primary_key" ∧ .keyed none ∈ rules

theorem Lacking.mono {rules rest : List FieldRule} {key : String} (h : Lacking rules key)
    (hr : rules ⊆ rest) : Lacking rest key :=
  h.imp (@hr _) fun h => h.imp (@hr _) fun h => ⟨h.1, hr h.2⟩

theorem Lacking.missing_mem {rules : List FieldRule} {key : String} (h : Lacking rules key) :
    .missing key ∈ rules.flatMap FieldRule.faults := by
  rcases h with h | h | ⟨rfl, h⟩
  · exact List.mem_flatMap.mpr ⟨_, h, List.mem_singleton_self _⟩
  · exact List.mem_flatMap.mpr ⟨_, h, List.mem_singleton_self _⟩
  · exact List.mem_flatMap.mpr ⟨_, h, List.mem_singleton_self _⟩

theorem DraftSource.window_mem {s : DraftSource} {type : SourceType} {f : RequiredField DraftSource}
    (h : f ∈ windowFields type) : (f.without s).name = s.name ∧ (f.without s).tag = s.tag ∧
      .filled f.key none ∈ (f.without s).kindRules type := by
  cases type <;> simp only [windowFields, List.mem_cons, List.not_mem_nil, or_false] at h
  case tumble =>
    rcases h with rfl | rfl <;> exact ⟨rfl, rfl, by simp [kindRules, timecolField, sizeField]⟩
  case hop =>
    rcases h with rfl | rfl | rfl <;>
      exact ⟨rfl, rfl, by simp [kindRules, timecolField, sizeField, slideField]⟩
  case cumulate =>
    rcases h with rfl | rfl | rfl <;>
      exact ⟨rfl, rfl, by simp [kindRules, timecolField, sizeField, stepField]⟩

theorem DraftSource.mem_requiredFields {s : DraftSource} {f : RequiredField DraftSource} :
    f ∈ s.requiredFields ↔ f ∈ fields ∨ ∃ type, s.type? = some type ∧ f ∈ windowFields type :=
  mem_append_getD

theorem DraftSource.missing_mem {s : DraftSource} {f : RequiredField DraftSource}
    (h : f ∈ s.requiredFields) : .missing f.key ∈ (f.without s).check.faults := by
  rw [faults_check]
  refine Lacking.missing_mem (.inl ?_)
  rcases mem_requiredFields.mp h with h | ⟨type, ht, h⟩
  · simp only [fields, List.mem_cons, List.not_mem_nil, or_false] at h
    rcases h with rfl | rfl | rfl <;> simp [rules]
  · obtain ⟨-, htag, hm⟩ := window_mem (s := s) h
    have htype : (f.without s).type? = some type := by rw [type?, htag, ← type?, ht]
    rw [rules, htype, Option.map_some, Option.getD_some, typeRules]
    exact List.mem_append_right _ (List.mem_append_right _ hm)

/-- A source without a field has its name and its type, or none. -/
theorem DraftSource.name_tag_without {s : DraftSource} {f : RequiredField DraftSource}
    (h : f ∈ s.requiredFields) : ((f.without s).name = s.name ∨ (f.without s).name = none) ∧
      ((f.without s).tag = s.tag ∨ (f.without s).tag = none) := by
  rcases mem_requiredFields.mp h with h | ⟨type, -, h⟩
  · simp only [fields, List.mem_cons, List.not_mem_nil, or_false] at h
    rcases h with rfl | rfl | rfl
    · exact ⟨.inr rfl, .inl rfl⟩
    · exact ⟨.inl rfl, .inr rfl⟩
    · exact ⟨.inl rfl, .inl rfl⟩
  · obtain ⟨hname, htag, -⟩ := window_mem (s := s) h
    exact ⟨.inl hname, .inl htag⟩

theorem DraftTransform.missing_mem {t : DraftTransform} {f : RequiredField DraftTransform}
    (h : f ∈ requiredFields) : .missing f.key ∈ (f.without t).check.faults := by
  rw [faults_check]
  refine Lacking.missing_mem (.inl ?_)
  simp only [requiredFields, List.mem_cons, List.not_mem_nil, or_false] at h
  rcases h with rfl | rfl <;> simp [rules]

theorem DraftTransform.name_without {t : DraftTransform} {f : RequiredField DraftTransform}
    (h : f ∈ requiredFields) : (f.without t).name = t.name ∨ (f.without t).name = none := by
  simp only [requiredFields, List.mem_cons, List.not_mem_nil, or_false] at h
  rcases h with rfl | rfl
  · exact .inr rfl
  · exact .inl rfl

theorem DraftSink.bind_config_without {β : Type} {g : DraftConnection → DraftConnection}
    {field : DraftConnection → Option β} (hg : ∀ c, field (g c) = none)
    (c : Option DraftConnection) : (c.map g).bind field = none := by
  cases c with
  | none => rfl
  | some c => exact hg c

theorem DraftSink.credential_lacking {s : DraftSink} {f : RequiredField DraftSink}
    (h : f ∈ credentialFields) : (f.without s).name = s.name ∧ (f.without s).tag = s.tag ∧
      Lacking (f.without s).credentialRules f.key := by
  simp only [credentialFields, List.mem_cons, List.not_mem_nil, or_false] at h
  rcases h with rfl | rfl
  · refine ⟨rfl, rfl, .inl ?_⟩
    simp [credentialRules, usernameField, bind_config_without]
  · refine ⟨rfl, rfl, .inr (.inl ?_)⟩
    simp [credentialRules, passwordField, bind_config_without]

theorem DraftSink.kind_lacking {s : DraftSink} {type : SinkType} {f : RequiredField DraftSink}
    (h : f ∈ typeFields type) : (f.without s).name = s.name ∧ (f.without s).tag = s.tag ∧
      Lacking ((f.without s).kindRules type) f.key := by
  have hcredentials (hf : f ∈ credentialFields)
      (hr : (f.without s).credentialRules ⊆ (f.without s).kindRules type) :
      (f.without s).name = s.name ∧ (f.without s).tag = s.tag ∧
        Lacking ((f.without s).kindRules type) f.key := by
    obtain ⟨hname, htag, hl⟩ := credential_lacking (s := s) hf
    exact ⟨hname, htag, hl.mono hr⟩
  cases type with
  | print => cases h
  | filesystem =>
    obtain rfl := List.mem_singleton.mp h
    exact ⟨rfl, rfl, .inl (by simp [kindRules])⟩
  | postgres =>
    rcases List.mem_append.mp h with h | h
    · simp only [List.mem_cons, List.not_mem_nil, or_false] at h
      rcases h with rfl | rfl | rfl | rfl | rfl
      · exact ⟨rfl, rfl, .inl (by simp [kindRules, databaseField])⟩
      · exact ⟨rfl, rfl, .inl (by simp [kindRules])⟩
      · exact ⟨rfl, rfl, .inl (by simp [kindRules, tableField])⟩
      · exact ⟨rfl, rfl, .inr (.inr ⟨rfl, by simp [kindRules]⟩)⟩
      · exact ⟨rfl, rfl, .inl (by simp [kindRules, bind_config_without])⟩
    · exact hcredentials h (List.subset_append_right _ _)
  | starrocks =>
    rcases List.mem_append.mp h with h | h
    · simp only [List.mem_cons, List.not_mem_nil, or_false] at h
      rcases h with rfl | rfl
      · exact ⟨rfl, rfl, .inl (by simp [kindRules, databaseField])⟩
      · exact ⟨rfl, rfl, .inl (by simp [kindRules, tableField])⟩
    · exact hcredentials h (List.subset_append_right _ _)
  | kafka =>
    rcases List.mem_append.mp h with h | h
    · simp only [List.mem_cons, List.not_mem_nil, or_false] at h
      rcases h with rfl | rfl <;> exact ⟨rfl, rfl, .inl (by simp [kindRules])⟩
    · exact hcredentials h (List.subset_append_right _ _)

theorem DraftSink.mem_requiredFields {s : DraftSink} {f : RequiredField DraftSink} :
    f ∈ s.requiredFields ↔ f ∈ fields ∨ ∃ type, s.type? = some type ∧ f ∈ typeFields type :=
  mem_append_getD

theorem DraftSink.missing_mem {s : DraftSink} {f : RequiredField DraftSink}
    (h : f ∈ s.requiredFields) : .missing f.key ∈ (f.without s).check.faults := by
  rw [faults_check]
  refine Lacking.missing_mem ?_
  rcases mem_requiredFields.mp h with h | ⟨type, ht, h⟩
  · simp only [fields, List.mem_cons, List.not_mem_nil, or_false] at h
    rcases h with rfl | rfl | rfl <;> exact .inl (by simp [rules])
  · obtain ⟨-, htag, hl⟩ := kind_lacking (s := s) h
    have htype : (f.without s).type? = some type := by rw [type?, htag, ← type?, ht]
    rw [rules, htype, Option.map_some, Option.getD_some]
    exact hl.mono (List.subset_append_right _ _)

/-- A sink without a field has its name and its type, or none. -/
theorem DraftSink.name_tag_without {s : DraftSink} {f : RequiredField DraftSink}
    (h : f ∈ s.requiredFields) : ((f.without s).name = s.name ∨ (f.without s).name = none) ∧
      ((f.without s).tag = s.tag ∨ (f.without s).tag = none) := by
  rcases mem_requiredFields.mp h with h | ⟨type, -, h⟩
  · simp only [fields, List.mem_cons, List.not_mem_nil, or_false] at h
    rcases h with rfl | rfl | rfl
    · exact ⟨.inr rfl, .inl rfl⟩
    · exact ⟨.inl rfl, .inr rfl⟩
    · exact ⟨.inl rfl, .inl rfl⟩
  · obtain ⟨hname, htag, -⟩ := kind_lacking (s := s) h
    exact ⟨.inl hname, .inl htag⟩

/-- Without its tag, or with the same, a type stays known. -/
theorem DraftSource.not_unknown_of_tag {s r : DraftSource} (h : ¬ s.Unknown)
    (ht : r.tag = s.tag ∨ r.tag = none) : ¬ r.Unknown := by
  rintro ⟨tag, htag, hu⟩
  rcases ht with ht | ht
  · exact h ⟨tag, ht.symm.trans htag, hu⟩
  · cases ht.symm.trans htag

theorem DraftSink.not_unknown_of_tag {s r : DraftSink} (h : ¬ s.Unknown)
    (ht : r.tag = s.tag ∨ r.tag = none) : ¬ r.Unknown := by
  rintro ⟨tag, htag, hu⟩
  rcases ht with ht | ht
  · exact h ⟨tag, ht.symm.trans htag, hu⟩
  · cases ht.symm.trans htag

/-! ### Documents without a field -/

/-- An entity by its list and its index, and by its name if it has one. -/
def entityLabel (list : String) (index : Nat) (name : Option String) : String :=
  match name with
  | some n => list ++ "[" ++ toString index ++ "]" ++ " '" ++ n ++ "'"
  | none => list ++ "[" ++ toString index ++ "]"

theorem label_entity {list : String} {index : Nat} {name : Option String}
    (h : ∀ n ∈ name, Text.isBlankText n = false) :
    (Subject.entity list index name).label = entityLabel list index name := by
  cases name with
  | none => rfl
  | some n =>
    unfold Subject.label entityLabel
    dsimp only
    rw [h n rfl]
    rfl

theorem Problem.message_missing (subject : Subject) (key : String) :
    (fault subject (.missing key)).message =
      subject.label ++ ": missing required field '" ++ key ++ "'" := by
  have hmessage : (fault subject (.missing key)).message =
      subject.label ++ ": " ++ ("missing required field '" ++ key ++ "'") := rfl
  rw [hmessage, ← String.append_assoc, ← String.append_assoc]
  congr 2
  rw [String.append_assoc]
  congr 1

namespace Draft

variable {d : Draft} {p : Pipeline}

theorem reportsMissing_of_mem {subject : Subject} {key : String} (hu : d.unknownType = none)
    (h : .fault subject (.missing key) ∈ d.problems) : d.ReportsMissing subject.label key := by
  have hne : d.problems ≠ [] := List.ne_nil_of_mem h
  refine ⟨_, (validate_of_problems hu).2 hne, ?_⟩
  rw [← Problem.message_missing]
  exact PipelineError.hasLine_of_mem h

/-- A fault of an entity is a problem of its list. -/
theorem mem_problemsOf {α β : Type} {list : String} {name : α → Option String}
    {check : α → Checked β} {entities : List α} {index : Nat} {a : α} {fault : Fault}
    (ha : entities[index]? = some a) (hf : fault ∈ (check a).faults) :
    .fault (.entity list index (name a)) fault ∈ problemsOf list name check entities := by
  refine List.mem_flatMap.mpr ⟨(a, index), List.mem_zipIdx_iff_getElem?.mpr ha, ?_⟩
  exact List.mem_map_of_mem hf

/-- An entity in the place of one without faults, with its name or with none, is reported with the
label of that name. -/
theorem reportsMissing_entity {α β : Type} {list : String} {name : α → Option String}
    {check : α → Checked β} {entities : List α} {index : Nat} {a b : α} {key : String}
    (hu : d.unknownType = none)
    (hd : problemsOf list name check (entities.set index b) ⊆ d.problems)
    (hvalid : problemsOf list name check entities = [])
    (hrequired : (check a).faults = [] → (Checked.required "name" (name a)).faults = [])
    (ha : entities[index]? = some a) (hname : name b = name a ∨ name b = none)
    (hm : .missing key ∈ (check b).faults) :
    d.ReportsMissing (entityLabel list index (name b)) key := by
  have hblank : ∀ n ∈ name b, Text.isBlankText n = false := by
    intro n hn
    rcases hname with hname | hname
    · have hf := hrequired (faults_of_problemsOf hvalid a (List.mem_of_getElem? ha))
      rw [← hname, Option.mem_def.mp hn] at hf
      cases hb : Text.isBlankText n with
      | true => simp [Checked.required, Checked.fault, hb] at hf
      | false => rfl
    · rw [hname] at hn
      cases hn
  have hindex : index < entities.length := (List.getElem?_eq_some_iff.mp ha).1
  have hset : (entities.set index b)[index]? = some b := List.getElem?_set_self hindex
  rw [← label_entity hblank]
  exact reportsMissing_of_mem hu (hd (mem_problemsOf hset hm))

theorem mem_set {α : Type} {P : α → Prop} {l : List α} {i : Nat} {b : α} (hl : ∀ a ∈ l, P a)
    (hb : P b) : ∀ a ∈ l.set i b, P a :=
  fun a ha => (List.mem_or_eq_of_mem_set ha).elim (hl a) fun he => he ▸ hb

/-- Whatever required field is left out of a valid document, validation fails with a line that
names the field and its entity. -/
theorem missing_field_reported (h : d.validate = .ok p) :
    (∀ f ∈ requiredFields, (f.without d).ReportsMissing "pipeline" f.key) ∧
      (∀ i s, d.sources[i]? = some s → ∀ f ∈ s.requiredFields,
        ReportsMissing { d with sources := d.sources.set i (f.without s) }
          (entityLabel "sources" i (f.without s).name) f.key) ∧
      (∀ i t, d.transforms[i]? = some t → ∀ f ∈ DraftTransform.requiredFields,
        ReportsMissing { d with transforms := d.transforms.set i (f.without t) }
          (entityLabel "transforms" i (f.without t).name) f.key) ∧
      ∀ i s, d.sinks[i]? = some s → ∀ f ∈ s.requiredFields,
        ReportsMissing { d with sinks := d.sinks.set i (f.without s) }
          (entityLabel "sinks" i (f.without s).name) f.key := by
  obtain ⟨hu, hp, -⟩ := of_validate h
  obtain ⟨hsources, hsinks⟩ := not_unknown hu
  simp only [problems, List.append_eq_nil_iff, List.map_eq_nil_iff] at hp
  obtain ⟨⟨⟨⟨⟨-, hps⟩, hpt⟩, hpk⟩, -⟩, -⟩ := hp
  refine ⟨?pipeline, ?source, ?transform, ?sink⟩
  case pipeline =>
    intro f hf
    have hf' : (f.without d).unknownType = none ∧ Lacking (f.without d).pipelineRules f.key := by
      simp only [requiredFields, List.mem_cons, List.not_mem_nil, or_false] at hf
      rcases hf with rfl | rfl | rfl
      · exact ⟨hu, .inl (by simp [pipelineRules])⟩
      · exact ⟨hu, .inl (by simp [pipelineRules])⟩
      · exact ⟨hu, .inr (.inl (by simp [pipelineRules]))⟩
    have hm : .missing f.key ∈ (f.without d).pipelineFaults := by
      rw [faults_pipeline]
      exact hf'.2.missing_mem
    have hproblem : .fault .pipeline (.missing f.key) ∈ (f.without d).problems := by
      simp [problems, hm]
    have hlabel : Subject.pipeline.label = "pipeline" := rfl
    rw [← hlabel]
    exact reportsMissing_of_mem hf'.1 hproblem
  case source =>
    intro i s hs f hf
    obtain ⟨hname, htag⟩ := DraftSource.name_tag_without hf
    have hknown := DraftSource.not_unknown_of_tag (hsources s (List.mem_of_getElem? hs)) htag
    refine reportsMissing_entity ?_ ?_ hps ?_ hs hname (DraftSource.missing_mem hf)
    · exact unknownType_eq_none (mem_set hsources hknown) hsinks
    · intro problem hproblem
      simp [problems, hproblem]
    · intro hfaults
      simp only [DraftSource.check, List.append_eq_nil_iff] at hfaults
      exact hfaults.1.1.1.1
  case transform =>
    intro i t ht f hf
    refine reportsMissing_entity hu ?_ hpt ?_ ht (DraftTransform.name_without hf)
      (DraftTransform.missing_mem hf)
    · intro problem hproblem
      simp [problems, hproblem]
    · intro hfaults
      simp only [DraftTransform.check, List.append_eq_nil_iff] at hfaults
      exact hfaults.1
  case sink =>
    intro i s hs f hf
    obtain ⟨hname, htag⟩ := DraftSink.name_tag_without hf
    have hknown := DraftSink.not_unknown_of_tag (hsinks s (List.mem_of_getElem? hs)) htag
    refine reportsMissing_entity ?_ ?_ hpk ?_ hs hname (DraftSink.missing_mem hf)
    · exact unknownType_eq_none hsources (mem_set hsinks hknown)
    · intro problem hproblem
      simp [problems, hproblem]
    · intro hfaults
      simp only [DraftSink.check, List.append_eq_nil_iff] at hfaults
      exact hfaults.1.1.1

/-- A source without its slide, a transform without its name, and a sink without its password. -/
theorem missing_field_reported_windowed : (∃ p, windowedToTwoSinks.validate = .ok p) ∧
    ReportsMissing { windowedToTwoSinks with
      sources := windowedToTwoSinks.sources.modify 0 ({ · with slide := none }) }
        "sources[0] ' events '" "slide" ∧
    ReportsMissing { windowedToTwoSinks with
      transforms := windowedToTwoSinks.transforms.modify 0 ({ · with name := none }) }
        "transforms[0]" "name" ∧
    ReportsMissing { windowedToTwoSinks with
      sinks := windowedToTwoSinks.sinks.modify 1 fun s =>
        { s with config := s.config.map ({ · with password := none }) } }
        "sinks[1] 'store '" "config.password" := by
  obtain ⟨-, hs, ht, hk⟩ := missing_field_reported (d := windowedToTwoSinks) rfl
  refine ⟨⟨_, rfl⟩, ?_, ?_, ?_⟩
  · refine hs 0 _ rfl DraftSource.slideField (DraftSource.mem_requiredFields.mpr ?_)
    exact .inr ⟨.hop, rfl, by simp [DraftSource.windowFields]⟩
  · exact ht 0 _ rfl _ List.mem_cons_self
  · refine hk 1 _ rfl DraftSink.passwordField (DraftSink.mem_requiredFields.mpr ?_)
    exact .inr ⟨.postgres, rfl, by simp [DraftSink.typeFields, DraftSink.credentialFields]⟩

end Draft

end StreamPipeline
