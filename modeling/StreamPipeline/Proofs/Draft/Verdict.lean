import StreamPipeline.Proofs.Draft.BrokenRules
import StreamPipeline.Proofs.Draft.Entities

/-! # The verdict of validation

The first unknown type is reported alone, that of a source before that of a sink. Otherwise a
document is valid if it breaks no rule, and if it breaks some then all their lines are reported.
All that is asked of the document is that its integers have 64 bits, which reading ensures
(`sized_of_ofText?`).
-/

namespace StreamPipeline

namespace Draft

/-! ### Unknown types -/

/-- The error for the first entity whose tag is unknown. -/
def firstUnknown {α : Type} (list : String) (name tag : α → Option String) (known : String → Bool)
    (error : String → String → PipelineError) : Nat → List α → Option PipelineError
  | _, [] => none
  | index, a :: rest =>
    match tag a with
    | some t =>
      if known (Text.trim t) then firstUnknown list name tag known error (index + 1) rest
      else some (error ((name a).getD (list ++ "[" ++ toString index ++ "]")) t)
    | none => firstUnknown list name tag known error (index + 1) rest

theorem unknownSource_eq (index : Nat) (sources : List DraftSource) :
    unknownSource index sources = firstUnknown "sources" (·.name) (·.tag)
      (fun t => (SourceType.ofTag? t).isSome) .unsupportedSourceType index sources := by
  induction sources generalizing index with
  | nil => rfl
  | cons s rest ih =>
    unfold unknownSource firstUnknown
    rw [ih]
    rfl

theorem unknownSink_eq (index : Nat) (sinks : List DraftSink) :
    unknownSink index sinks = firstUnknown "sinks" (·.name) (·.tag)
      (fun t => (SinkType.ofTag? t).isSome) .unsupportedSinkType index sinks := by
  induction sinks generalizing index with
  | nil => rfl
  | cons s rest ih =>
    unfold unknownSink firstUnknown
    rw [ih]
    rfl

section Unknown

variable {α : Type} {list : String} {name tag : α → Option String} {known : String → Bool}
  {error : String → String → PipelineError} {before after : List α} {a : α} {t : String}

theorem firstUnknown_eq_none {index : Nat} {l : List α}
    (h : ∀ a ∈ l, ∀ t, tag a = some t → known (Text.trim t) = true) :
    firstUnknown list name tag known error index l = none := by
  induction l generalizing index with
  | nil => rfl
  | cons a l ih =>
    have hrest : firstUnknown list name tag known error (index + 1) l = none :=
      ih fun b hb => h b (List.mem_cons_of_mem _ hb)
    unfold firstUnknown
    cases ht : tag a with
    | none => exact hrest
    | some t => simp [h a List.mem_cons_self t ht, hrest]

theorem firstUnknown_eq_some {index : Nat}
    (hb : ∀ b ∈ before, ∀ t, tag b = some t → known (Text.trim t) = true) (ha : tag a = some t)
    (ht : known (Text.trim t) = false) :
    firstUnknown list name tag known error index (before ++ a :: after) = some (error
      ((name a).getD (list ++ "[" ++ toString (index + before.length) ++ "]")) t) := by
  induction before generalizing index with
  | nil =>
    unfold firstUnknown
    simp [ha, ht]
  | cons b before ih =>
    have hlength : index + (b :: before).length = index + 1 + before.length := by simp; omega
    have hrest : firstUnknown list name tag known error (index + 1) (before ++ a :: after) =
        some (error ((name a).getD
          (list ++ "[" ++ toString (index + (b :: before).length) ++ "]")) t) := by
      rw [hlength]
      exact ih fun c hc => hb c (List.mem_cons_of_mem _ hc)
    rw [List.cons_append]
    unfold firstUnknown
    cases hbt : tag b with
    | none => exact hrest
    | some u => simp [hb b List.mem_cons_self u hbt, hrest]

end Unknown

end Draft

/-- The tag is given, but it is the tag of no type. -/
def DraftSource.Unknown (s : DraftSource) : Prop :=
  ∃ tag, s.tag = some tag ∧ ∀ type : SourceType, type.tag ≠ Text.trim tag

def DraftSink.Unknown (s : DraftSink) : Prop :=
  ∃ tag, s.tag = some tag ∧ ∀ type : SinkType, type.tag ≠ Text.trim tag

theorem SourceType.isSome_ofTag?_iff {tag : String} :
    (ofTag? tag).isSome = true ↔ ∃ type : SourceType, type.tag = tag := by
  unfold ofTag?
  rw [List.find?_isSome]
  constructor
  · rintro ⟨type, -, h⟩
    exact ⟨type, by simpa using h⟩
  · rintro ⟨type, h⟩
    exact ⟨type, by cases type <;> simp [all], by simpa using h⟩

theorem SinkType.isSome_ofTag?_iff {tag : String} :
    (ofTag? tag).isSome = true ↔ ∃ type : SinkType, type.tag = tag := by
  unfold ofTag?
  rw [List.find?_isSome]
  constructor
  · rintro ⟨type, -, h⟩
    exact ⟨type, by simpa using h⟩
  · rintro ⟨type, h⟩
    exact ⟨type, by cases type <;> simp [all], by simpa using h⟩

theorem DraftSource.unknown_iff {s : DraftSource} : s.Unknown ↔
    ∃ tag, s.tag = some tag ∧ (SourceType.ofTag? (Text.trim tag)).isSome = false := by
  simp only [Unknown, Bool.eq_false_iff, ne_eq, SourceType.isSome_ofTag?_iff, not_exists]

instance : DecidablePred DraftSource.Unknown := fun s =>
  decidable_of_iff (∃ tag ∈ s.tag, (SourceType.ofTag? (Text.trim tag)).isSome = false)
    DraftSource.unknown_iff.symm

theorem DraftSource.known_of_not_unknown {s : DraftSource} (h : ¬ s.Unknown) :
    ∀ t, s.tag = some t → (SourceType.ofTag? (Text.trim t)).isSome = true := by
  intro t ht
  by_contra hn
  exact h (unknown_iff.mpr ⟨t, ht, by simpa using hn⟩)

theorem DraftSink.unknown_iff {s : DraftSink} : s.Unknown ↔
    ∃ tag, s.tag = some tag ∧ (SinkType.ofTag? (Text.trim tag)).isSome = false := by
  simp only [Unknown, Bool.eq_false_iff, ne_eq, SinkType.isSome_ofTag?_iff, not_exists]

instance : DecidablePred DraftSink.Unknown := fun s =>
  decidable_of_iff (∃ tag ∈ s.tag, (SinkType.ofTag? (Text.trim tag)).isSome = false)
    DraftSink.unknown_iff.symm

theorem DraftSink.known_of_not_unknown {s : DraftSink} (h : ¬ s.Unknown) :
    ∀ t, s.tag = some t → (SinkType.ofTag? (Text.trim t)).isSome = true := by
  intro t ht
  by_contra hn
  exact h (unknown_iff.mpr ⟨t, ht, by simpa using hn⟩)

namespace Draft

variable {d : Draft}

theorem unknownSource_of_first {before after : List DraftSource} {s : DraftSource} {tag : String}
    (hs : d.sources = before ++ s :: after) (hb : ∀ a ∈ before, ¬ a.Unknown)
    (ht : s.tag = some tag) (hu : ∀ type : SourceType, type.tag ≠ Text.trim tag) :
    unknownSource 0 d.sources = some (.unsupportedSourceType
      (s.name.getD ("sources[" ++ toString before.length ++ "]")) tag) := by
  rw [unknownSource_eq, hs, firstUnknown_eq_some ?known ht ?unknown, Nat.zero_add]
  case known => exact fun a ha => DraftSource.known_of_not_unknown (hb a ha)
  case unknown =>
    rw [Bool.eq_false_iff, ne_eq, SourceType.isSome_ofTag?_iff]
    exact fun ⟨type, he⟩ => hu type he
  rfl

theorem unknownSink_of_first {before after : List DraftSink} {s : DraftSink} {tag : String}
    (hs : d.sinks = before ++ s :: after) (hb : ∀ a ∈ before, ¬ a.Unknown)
    (ht : s.tag = some tag) (hu : ∀ type : SinkType, type.tag ≠ Text.trim tag) :
    unknownSink 0 d.sinks = some (.unsupportedSinkType
      (s.name.getD ("sinks[" ++ toString before.length ++ "]")) tag) := by
  rw [unknownSink_eq, hs, firstUnknown_eq_some ?known ht ?unknown, Nat.zero_add]
  case known => exact fun a ha => DraftSink.known_of_not_unknown (hb a ha)
  case unknown =>
    rw [Bool.eq_false_iff, ne_eq, SinkType.isSome_ofTag?_iff]
    exact fun ⟨type, he⟩ => hu type he
  rfl

theorem unknownSource_eq_none (h : ∀ s ∈ d.sources, ¬ s.Unknown) :
    unknownSource 0 d.sources = none := by
  rw [unknownSource_eq]
  exact firstUnknown_eq_none fun s hs => DraftSource.known_of_not_unknown (h s hs)

theorem unknownSink_eq_none (h : ∀ s ∈ d.sinks, ¬ s.Unknown) : unknownSink 0 d.sinks = none := by
  rw [unknownSink_eq]
  exact firstUnknown_eq_none fun s hs => DraftSink.known_of_not_unknown (h s hs)

theorem unknownType_eq_none (hsources : ∀ s ∈ d.sources, ¬ s.Unknown)
    (hsinks : ∀ s ∈ d.sinks, ¬ s.Unknown) : d.unknownType = none := by
  rw [unknownType, unknownSource_eq_none hsources, unknownSink_eq_none hsinks]
  rfl

theorem not_unknown (h : d.unknownType = none) :
    (∀ s ∈ d.sources, ¬ s.Unknown) ∧ ∀ s ∈ d.sinks, ¬ s.Unknown := by
  obtain ⟨hsources, hsinks⟩ := Option.or_eq_none_iff.mp h
  refine ⟨fun s hs hu => ?_, fun s hs hu => ?_⟩
  · obtain ⟨tag, htag, hn⟩ := DraftSource.unknown_iff.mp hu
    obtain ⟨type, ht⟩ := known_of_unknownSource hsources s hs tag htag
    simp [ht] at hn
  · obtain ⟨tag, htag, hn⟩ := DraftSink.unknown_iff.mp hu
    obtain ⟨type, ht⟩ := known_of_unknownSink hsinks s hs tag htag
    simp [ht] at hn

/-! ### Validation -/

theorem validate_of_unknownType {e : PipelineError} (h : d.unknownType = some e) :
    d.validate = .error e := by
  unfold validate
  rw [h]

theorem reported_checkParallelism (v : Option Scalar) : (checkParallelism v).Reported := by
  unfold checkParallelism
  split
  · exact Checked.reported_fault _
  · split
    · split
      · exact Checked.reported_ok _
      · exact Checked.reported_fault _
    · exact Checked.reported_fault _

/-- Without problems the document has all that a pipeline needs. -/
theorem exists_pipeline? (h : d.problems = []) : ∃ p, d.pipeline? = some p := by
  have hfaults : d.pipelineFaults = [] := by
    simp only [problems, List.append_eq_nil_iff, List.map_eq_nil_iff] at h
    exact h.1.1.1.1.1
  simp only [pipelineFaults, List.append_eq_nil_iff] at hfaults
  obtain ⟨⟨hname, hversion⟩, hparallelism⟩ := hfaults
  obtain ⟨name, hn⟩ := Checked.reported_required _ _ hname
  obtain ⟨version, hv⟩ := Checked.reported_requiredScalar _ _ hversion
  obtain ⟨parallelism, hp⟩ := reported_checkParallelism _ hparallelism
  exact ⟨_, by simp only [pipeline?, hn, hv, hp]; rfl⟩

theorem validate_of_problems (hu : d.unknownType = none) :
    ((∃ p, d.validate = .ok p) ↔ d.problems = []) ∧
      (d.problems ≠ [] → d.validate = .error (.config (.invalidDocument d.problems))) := by
  by_cases h : d.problems = []
  · obtain ⟨p, hp⟩ := exists_pipeline? h
    have hok : d.validate = .ok p := by simp [validate, hu, h, hp]
    exact ⟨⟨fun _ => h, fun _ => ⟨p, hok⟩⟩, fun hne => absurd h hne⟩
  · have herror : d.validate = .error (.config (.invalidDocument d.problems)) := by
      simp [validate, hu, h]
    refine ⟨⟨fun ⟨p, hp⟩ => ?_, fun hn => absurd hn h⟩, fun _ => herror⟩
    cases herror.symm.trans hp

/-- The first unknown type of a source is the error, or else that of a sink. Without either the
document is valid if and only if it breaks no rule, and the error is the lines of all the rules that
it breaks. The lines about an entity are those of its own rules. -/
theorem validate_reports_broken_rules (hd : d.Sized) :
    (∀ before s after tag, d.sources = before ++ s :: after → (∀ a ∈ before, ¬ a.Unknown) →
        s.tag = some tag → (∀ type : SourceType, type.tag ≠ Text.trim tag) →
        d.validate = .error (.unsupportedSourceType
          (s.name.getD ("sources[" ++ toString before.length ++ "]")) tag)) ∧
      ((∀ s ∈ d.sources, ¬ s.Unknown) → ∀ before s after tag, d.sinks = before ++ s :: after →
        (∀ a ∈ before, ¬ a.Unknown) → s.tag = some tag →
        (∀ type : SinkType, type.tag ≠ Text.trim tag) →
        d.validate = .error (.unsupportedSinkType
          (s.name.getD ("sinks[" ++ toString before.length ++ "]")) tag)) ∧
      ((∀ s ∈ d.sources, ¬ s.Unknown) → (∀ s ∈ d.sinks, ¬ s.Unknown) →
        ((∃ p, d.validate = .ok p) ↔ ∀ rule ∈ d.rules, ¬ rule.Broken) ∧
        ((∃ rule ∈ d.rules, rule.Broken) →
          d.validate = .error (.config (.invalidDocument (brokenLines d.rules))))) ∧
      ∀ index,
        (∀ s, d.sources[index]? = some s → (brokenLines d.rules).filter (·.about "sources" index) =
          linesOf (.entity "sources" index s.name) s.rules) ∧
        (∀ t, d.transforms[index]? = some t →
          (brokenLines d.rules).filter (·.about "transforms" index) =
            linesOf (.entity "transforms" index t.name) t.rules) ∧
        ∀ s, d.sinks[index]? = some s → (brokenLines d.rules).filter (·.about "sinks" index) =
          linesOf (.entity "sinks" index s.name) s.rules := by
  refine ⟨?source, ?sink, ?rules, filter_about_rules d⟩
  case source =>
    intro before s after tag hs hb ht hu
    exact validate_of_unknownType (by simp [unknownType, unknownSource_of_first hs hb ht hu])
  case sink =>
    intro hsources before s after tag hs hb ht hu
    refine validate_of_unknownType ?_
    rw [unknownType, unknownSource_eq_none hsources, unknownSink_of_first hs hb ht hu]
    rfl
  case rules =>
    intro hsources hsinks
    obtain ⟨hok, herror⟩ := validate_of_problems (unknownType_eq_none hsources hsinks)
    have hnil : brokenLines d.rules = [] ↔ ∀ rule ∈ d.rules, ¬ rule.Broken := by
      simp [brokenLines, List.filter_eq_nil_iff]
    rw [problems_eq_brokenLines hd] at hok herror
    refine ⟨hok.trans hnil, fun ⟨rule, hr, hb⟩ => herror fun h => ?_⟩
    exact hnil.mp h rule hr hb

/-- A document with a rule of every kind that is broken. -/
def manyFaults : Draft where
  name := some "demo"
  parallelism := some (.int 0)
  sources := [
    { name := some " events ", tag := some " tumble_window_dataset", dataset := some " \t"
      parallelism := some (.text "+0"), size := some (.text "10min"), slide := some (.int 5) },
    { tag := some "lookup_dataset", dataset := some "rates"
      lookup := some { cacheRows := some (.text "1_000") } },
    { name := some "events", timecol := some "ts" }]
  transforms := [{ name := some "big ", sql := some "SELECT id FROM events" }, {}]
  sinks := [
    { name := some "big_tmp", tag := some "postgres", input := some "big", schema := some "public"
      database := some "analytics", table := some "big", primaryKey := some (.one " , ")
      config := some {
        host := some "db", port := some (.int 65536), username := some (.int 7) } }]

/-- The same with a sink whose type is unknown. -/
def manyFaultsToUnknown : Draft :=
  { manyFaults with sinks := manyFaults.sinks ++ [{ tag := some " Kafka" }] }

theorem validate_reports_broken_rules_manyFaults : manyFaults.Sized ∧
    manyFaults.validate = .error (.config (.invalidDocument [
      .fault .pipeline (.missing "specVersion"),
      .fault .pipeline (.noParallelism "0"),
      .fault (.entity "sources" 0 (some " events ")) (.missing "dataset"),
      .fault (.entity "sources" 0 (some " events ")) (.notPositive "parallelism" "+0"),
      .fault (.entity "sources" 0 (some " events ")) (.notAllowed "slide" "tumble_window_dataset"),
      .fault (.entity "sources" 0 (some " events ")) (.missing "timecol"),
      .fault (.entity "sources" 1 none) (.missing "name"),
      .fault (.entity "sources" 1 none) (.notPositive "lookup.cache-rows" "1_000"),
      .fault (.entity "sources" 2 (some "events")) (.missing "type"),
      .fault (.entity "sources" 2 (some "events")) (.missing "dataset"),
      .fault (.entity "transforms" 1 none) (.missing "name"),
      .fault (.entity "transforms" 1 none) (.missing "sql"),
      .fault (.entity "sinks" 0 (some "big_tmp")) (.missing "primary_key"),
      .fault (.entity "sinks" 0 (some "big_tmp")) (.invalidPort "config.port" "65536"),
      .fault (.entity "sinks" 0 (some "big_tmp")) (.missing "config.password"),
      .duplicateName "events",
      .collision "big_tmp" "big"])) ∧
    manyFaultsToUnknown.validate = .error (.unsupportedSinkType "sinks[1]" " Kafka") := by
  have hd : manyFaults.Sized := by
    simp [Sized, manyFaults, DraftSource.Sized, Scalar.Sized]
  have hsources : ∀ s ∈ manyFaults.sources, ¬ s.Unknown := by decide
  have hsinks : ∀ s ∈ manyFaults.sinks, ¬ s.Unknown := by decide
  have hbroken : ∃ rule ∈ manyFaults.rules, rule.Broken := by decide
  refine ⟨hd, ((validate_reports_broken_rules hd).2.2.1 hsources hsinks).2 hbroken, ?_⟩
  have htag : ∀ type : SinkType, type.tag ≠ Text.trim " Kafka" := by
    intro type
    cases type <;> decide
  have hd : manyFaultsToUnknown.Sized := hd
  exact (validate_reports_broken_rules hd).2.1 hsources manyFaults.sinks _ [] _ rfl hsinks rfl htag

end Draft

end StreamPipeline
