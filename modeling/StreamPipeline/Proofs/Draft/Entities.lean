import Mathlib.Data.List.Forall2
import StreamPipeline.Draft.Validation

/-! # Entities of a valid draft

A check without faults has a value, so a draft without problems keeps its entities, with their names
and types, in their order. The one exception is a source whose parallelism needs more than 32 bits:
it is left out without a fault.
-/

namespace StreamPipeline

namespace Checked

/-- A missing value comes with a fault. -/
def Reported {α : Type} (c : Checked α) : Prop := c.faults = [] → ∃ a, c.value = some a

variable {α : Type}

theorem reported_ok (a : α) : (ok a).Reported := fun _ => ⟨a, rfl⟩

theorem reported_fault (f : Fault) : (fault f : Checked α).Reported := fun h => by cases h

theorem reported_required (field : String) (v : Option String) : (required field v).Reported := by
  unfold required
  split
  · split
    · exact reported_fault _
    · exact reported_ok _
  · exact reported_fault _

theorem reported_requiredScalar (field : String) (v : Option Scalar) :
    (requiredScalar field v).Reported :=
  reported_required _ _

theorem reported_present (field : String) (v : Option Scalar) : (present field v).Reported := by
  unfold present
  split
  · exact reported_ok _
  · exact reported_fault _

theorem reported_positive (field : String) (n : Nat) (v : Option Scalar) :
    (positive field n v).Reported := by
  unfold positive
  split
  · exact reported_ok _
  · split
    · split
      · exact reported_ok _
      · exact reported_fault _
    · exact reported_fault _

theorem reported_port (field : String) (n : UInt16) (v : Option Scalar) :
    (port field n v).Reported := by
  unfold port
  split
  · exact reported_ok _
  · split
    · split
      · exact reported_ok _
      · exact reported_fault _
    · exact reported_fault _

theorem required_value {field : String} {v : Option String} {a : String}
    (h : (required field v).value = some a) : v.map Text.trim = some a := by
  unfold required at h
  split at h
  · split at h
    · cases h
    · exact h
  · cases h

end Checked

open Checked

/-! ### Types -/

theorem SourceType.tag_of_ofTag? {tag : String} {type : SourceType}
    (h : SourceType.ofTag? tag = some type) : type.tag = tag := by
  simpa using List.find?_some h

theorem SinkType.tag_of_ofTag? {tag : String} {type : SinkType}
    (h : SinkType.ofTag? tag = some type) : type.tag = tag := by
  simpa using List.find?_some h

theorem Draft.known_of_unknownSource {i : Nat} {sources : List DraftSource}
    (h : Draft.unknownSource i sources = none) :
    ∀ s ∈ sources, ∀ tag, s.tag = some tag →
      ∃ type, SourceType.ofTag? (Text.trim tag) = some type := by
  induction sources generalizing i with
  | nil => simp
  | cons s rest ih =>
    intro r hr tag ht
    unfold unknownSource at h
    rcases List.mem_cons.mp hr with rfl | hr
    · rw [ht] at h
      dsimp only at h
      split at h
      next hk => exact Option.isSome_iff_exists.mp hk
      next => cases h
    · split at h
      · split at h
        · exact ih h r hr tag ht
        · cases h
      · exact ih h r hr tag ht

theorem Draft.known_of_unknownSink {i : Nat} {sinks : List DraftSink}
    (h : Draft.unknownSink i sinks = none) :
    ∀ s ∈ sinks, ∀ tag, s.tag = some tag → ∃ type, SinkType.ofTag? (Text.trim tag) = some type := by
  induction sinks generalizing i with
  | nil => simp
  | cons s rest ih =>
    intro r hr tag ht
    unfold unknownSink at h
    rcases List.mem_cons.mp hr with rfl | hr
    · rw [ht] at h
      dsimp only at h
      split at h
      next hk => exact Option.isSome_iff_exists.mp hk
      next => cases h
    · split at h
      · split at h
        · exact ih h r hr tag ht
        · cases h
      · exact ih h r hr tag ht

/-! ### Sources -/

namespace DraftSource

/-- A parallelism of at most 32 bits, or none that is a number. -/
def fits (s : DraftSource) : Bool :=
  match s.parallelism.bind Scalar.asNat? with
  | some n => n < 4294967296
  | none => true

/-- What validation keeps of a source: its name and its type. -/
structure Kept (s : DraftSource) (r : Source) : Prop where
  name : s.name.map Text.trim = some r.name
  tag : s.tag.map Text.trim = some r.kind.tag

theorem reported_checkKind (s : DraftSource) (type : SourceType) : (s.checkKind type).Reported := by
  intro h
  have ht := reported_required "timecol" s.timecol
  have hz := reported_requiredScalar "size" s.size
  cases type with
  | dataset => exact ⟨_, rfl⟩
  | lookup => exact ⟨_, rfl⟩
  | tumble =>
    simp only [checkKind, List.append_eq_nil_iff] at h
    obtain ⟨t, ht⟩ := ht h.1
    obtain ⟨z, hz⟩ := hz h.2
    simp [checkKind, ht, hz]
  | hop =>
    simp only [checkKind, List.append_eq_nil_iff] at h
    obtain ⟨t, ht⟩ := ht h.1.1
    obtain ⟨d, hd⟩ := reported_requiredScalar "slide" s.slide h.1.2
    obtain ⟨z, hz⟩ := hz h.2
    simp [checkKind, ht, hd, hz]
  | cumulate =>
    simp only [checkKind, List.append_eq_nil_iff] at h
    obtain ⟨t, ht⟩ := ht h.1.1
    obtain ⟨d, hd⟩ := reported_requiredScalar "step" s.step h.1.2
    obtain ⟨z, hz⟩ := hz h.2
    simp [checkKind, ht, hd, hz]

theorem tag_of_checkKind {s : DraftSource} {type : SourceType} {k : SourceKind}
    (h : (s.checkKind type).value = some k) : k.tag = type.tag := by
  cases type with
  | dataset => obtain rfl : SourceKind.dataset = k := Option.some.inj h; rfl
  | lookup => obtain rfl : SourceKind.lookup _ = k := Option.some.inj h; rfl
  | tumble =>
    simp only [checkKind, Option.bind_eq_bind, Option.bind_eq_some_iff, Option.pure_def,
      Option.some.injEq] at h
    obtain ⟨t, -, z, -, rfl⟩ := h
    rfl
  | hop =>
    simp only [checkKind, Option.bind_eq_bind, Option.bind_eq_some_iff, Option.pure_def,
      Option.some.injEq] at h
    obtain ⟨t, -, d, -, z, -, rfl⟩ := h
    rfl
  | cumulate =>
    simp only [checkKind, Option.bind_eq_bind, Option.bind_eq_some_iff, Option.pure_def,
      Option.some.injEq] at h
    obtain ⟨t, -, d, -, z, -, rfl⟩ := h
    rfl

theorem positive_value {field : String} {d n : Nat} {v : Option Scalar}
    (h : (positive field d v).value = some n) : (v.bind Scalar.asNat?).getD d = n := by
  unfold positive at h
  split at h
  · exact Option.some.inj h
  next v =>
    split at h
    next m hm =>
      split at h
      · simpa [hm] using Option.some.inj h
      · cases h
    next => cases h

/-- A checked source is kept if its parallelism fits, and is left out if not. -/
theorem check_value {s : DraftSource} (hf : s.check.faults = [])
    (hk : ∀ tag, s.tag = some tag → ∃ type, SourceType.ofTag? (Text.trim tag) = some type) :
    (s.fits = true → ∃ r, s.check.value = some r ∧ s.Kept r) ∧
      (s.fits = false → s.check.value = none) := by
  simp only [check, List.append_eq_nil_iff] at hf
  obtain ⟨⟨⟨⟨hn, ht⟩, hd⟩, hp⟩, hk'⟩ := hf
  obtain ⟨name, hn⟩ := reported_required _ _ hn
  obtain ⟨tag, ht⟩ := reported_required _ _ ht
  obtain ⟨dataset, hd⟩ := reported_required _ _ hd
  obtain ⟨n, hp⟩ := reported_positive _ _ _ hp
  obtain ⟨raw, hraw, rfl⟩ := Option.map_eq_some_iff.mp (required_value ht)
  obtain ⟨type, htype⟩ := hk raw hraw
  simp only [andThen, ht, checkType, htype, List.append_eq_nil_iff] at hk'
  obtain ⟨kind, hkind⟩ := reported_checkKind s type hk'.2
  have hfits : s.fits = decide (n < 4294967296) := by
    have hv := positive_value hp
    unfold fits
    cases h : s.parallelism.bind Scalar.asNat? with
    | none => simp [h] at hv; simp [← hv]
    | some m => simp [h] at hv; simp [hv]
  constructor
  · intro hb
    have hlt : n < 4294967296 := by simpa [hfits] using hb
    refine ⟨⟨name, dataset, s.trimmedFilter, UInt32.ofNat n, kind⟩, ?_, required_value hn, ?_⟩
    · simp [check, andThen, ht, checkType, htype, hkind, hn, hd, hp, parallelism32, hlt]
    · simp [hraw, tag_of_checkKind hkind, SourceType.tag_of_ofTag? htype]
  · intro hb
    have hlt : ¬ n < 4294967296 := by simpa [hfits] using hb
    simp [check, andThen, ht, checkType, htype, hkind, hn, hd, hp, parallelism32, hlt]

end DraftSource

/-! ### Transforms and sinks -/

/-- What validation keeps of a transform: its name. -/
def DraftTransform.Kept (t : DraftTransform) (r : Transform) : Prop :=
  t.name.map Text.trim = some r.name

theorem DraftTransform.check_value {t : DraftTransform} (hf : t.check.faults = []) :
    ∃ r, t.check.value = some r ∧ t.Kept r := by
  simp only [check, List.append_eq_nil_iff] at hf
  obtain ⟨name, hn⟩ := reported_required _ _ hf.1
  obtain ⟨sql, hs⟩ := reported_required _ _ hf.2
  refine ⟨⟨name, sql, t.params⟩, ?_, required_value hn⟩
  simp [check, hn, hs]

namespace DraftSink

/-- What validation keeps of a sink: its name and its type. -/
structure Kept (s : DraftSink) (r : Sink) : Prop where
  name : s.name.map Text.trim = some r.name
  tag : s.tag.map Text.trim = some r.kind.tag

theorem reported_checkCredentials (config : Option DraftConnection) :
    (checkCredentials config).Reported := by
  intro h
  simp only [checkCredentials, List.append_eq_nil_iff] at h
  obtain ⟨username, hu⟩ := reported_requiredScalar _ _ h.1
  obtain ⟨password, hp⟩ := reported_present _ _ h.2
  simp [checkCredentials, hu, hp]

theorem reported_checkKey (key : Option KeyColumns) : (checkKey key).Reported := by
  unfold checkKey
  split
  · exact reported_ok _
  · exact reported_fault _

theorem reported_checkPostgres (s : DraftSink) : s.checkPostgres.Reported := by
  intro h
  simp only [checkPostgres, List.append_eq_nil_iff] at h
  obtain ⟨⟨⟨⟨⟨⟨hd, hs⟩, ht⟩, hk⟩, hh⟩, hp⟩, hc⟩ := h
  obtain ⟨database, hd⟩ := reported_required _ _ hd
  obtain ⟨schema, hs⟩ := reported_required _ _ hs
  obtain ⟨table, ht⟩ := reported_required _ _ ht
  obtain ⟨key, hk⟩ := reported_checkKey _ hk
  obtain ⟨host, hh⟩ := reported_required _ _ hh
  obtain ⟨port, hp⟩ := reported_port _ _ _ hp
  obtain ⟨credentials, hc⟩ := reported_checkCredentials _ hc
  simp [checkPostgres, hd, hs, ht, hk, hh, hp, hc]

theorem reported_checkStarrocks (s : DraftSink) : s.checkStarrocks.Reported := by
  intro h
  simp only [checkStarrocks, List.append_eq_nil_iff] at h
  obtain ⟨⟨⟨⟨hd, ht⟩, hq⟩, hp⟩, hc⟩ := h
  obtain ⟨database, hd⟩ := reported_required _ _ hd
  obtain ⟨table, ht⟩ := reported_required _ _ ht
  obtain ⟨queryPort, hq⟩ := reported_port _ _ _ hq
  obtain ⟨httpPort, hp⟩ := reported_port _ _ _ hp
  obtain ⟨credentials, hc⟩ := reported_checkCredentials _ hc
  simp [checkStarrocks, hd, ht, hq, hp, hc]

theorem reported_checkKafka (s : DraftSink) : s.checkKafka.Reported := by
  intro h
  simp only [checkKafka, List.append_eq_nil_iff] at h
  obtain ⟨topic, ht⟩ := reported_required _ _ h.1.1
  obtain ⟨servers, hs⟩ := reported_required _ _ h.1.2
  obtain ⟨credentials, hc⟩ := reported_checkCredentials _ h.2
  simp [checkKafka, ht, hs, hc]

/-- The type-dependent part of a sink has a value of that type, or faults. -/
theorem checkKind_value {s : DraftSink} {type : SinkType} (h : (s.checkKind type).faults = []) :
    ∃ k, (s.checkKind type).value = some k ∧ k.tag = type.tag := by
  cases type with
  | postgres =>
    obtain ⟨c, hc⟩ := reported_checkPostgres s h
    exact ⟨.postgres c, by simp [checkKind, hc], rfl⟩
  | starrocks =>
    obtain ⟨c, hc⟩ := reported_checkStarrocks s h
    exact ⟨.starrocks c, by simp [checkKind, hc], rfl⟩
  | print => exact ⟨.print, rfl, rfl⟩
  | filesystem =>
    obtain ⟨c, hc⟩ := reported_required _ _ h
    exact ⟨.filesystem c, by simp [checkKind, hc], rfl⟩
  | kafka =>
    obtain ⟨c, hc⟩ := reported_checkKafka s h
    exact ⟨.kafka c, by simp [checkKind, hc], rfl⟩

theorem check_value {s : DraftSink} (hf : s.check.faults = [])
    (hk : ∀ tag, s.tag = some tag → ∃ type, SinkType.ofTag? (Text.trim tag) = some type) :
    ∃ r, s.check.value = some r ∧ s.Kept r := by
  simp only [check, List.append_eq_nil_iff] at hf
  obtain ⟨⟨⟨hn, ht⟩, hi⟩, hk'⟩ := hf
  obtain ⟨name, hn⟩ := reported_required _ _ hn
  obtain ⟨tag, ht⟩ := reported_required _ _ ht
  obtain ⟨input, hi⟩ := reported_required _ _ hi
  obtain ⟨raw, hraw, rfl⟩ := Option.map_eq_some_iff.mp (required_value ht)
  obtain ⟨type, htype⟩ := hk raw hraw
  simp only [andThen, ht, checkType, htype] at hk'
  obtain ⟨kind, hkind, htag⟩ := checkKind_value hk'
  refine ⟨⟨name, input, kind⟩, ?_, required_value hn, ?_⟩
  · simp [check, andThen, ht, checkType, htype, hkind, hn, hi]
  · simp [hraw, htag, SinkType.tag_of_ofTag? htype]

end DraftSink

/-! ### Documents -/

section Lists

variable {α β : Type} {R : α → β → Prop} {f : α → Option β}

theorem forall₂_filterMap {l : List α} (h : ∀ a ∈ l, ∃ b, f a = some b ∧ R a b) :
    List.Forall₂ R l (l.filterMap f) := by
  induction l with
  | nil => exact .nil
  | cons a l ih =>
    obtain ⟨b, hb, hr⟩ := h a (by simp)
    rw [List.filterMap_cons_some hb]
    exact .cons hr (ih fun a ha => h a (by simp [ha]))

theorem filterMap_filter_of_none {p : α → Bool} {l : List α}
    (h : ∀ a ∈ l, p a = false → f a = none) : (l.filter p).filterMap f = l.filterMap f := by
  rw [List.filterMap_filter]
  refine List.filterMap_congr fun a ha => ?_
  split
  · rfl
  · rw [h a ha (by simp_all)]

end Lists

namespace Draft

variable {d : Draft} {p : Pipeline}

theorem faults_of_problemsOf {α β : Type} {list : String} {name : α → Option String}
    {check : α → Checked β} {entities : List α} (h : problemsOf list name check entities = []) :
    ∀ e ∈ entities, (check e).faults = [] := by
  intro e he
  obtain ⟨i, hi, rfl⟩ := List.getElem_of_mem he
  have hm : (entities[i], i) ∈ entities.zipIdx := by simp [List.mem_zipIdx_iff_getElem?, hi]
  simpa using List.flatMap_eq_nil_iff.mp h _ hm

/-- A valid draft has no unknown type and no problem. -/
theorem of_validate (h : d.validate = .ok p) :
    d.unknownType = none ∧ d.problems = [] ∧ d.pipeline? = some p := by
  unfold validate at h
  split at h
  · cases h
  next hu =>
    split at h
    next hp =>
      split at h
      next q hq => exact ⟨hu, List.isEmpty_iff.mp hp, hq.trans (congrArg some (Except.ok.inj h))⟩
      next => cases h
    next => cases h

theorem entities_of_pipeline? (h : d.pipeline? = some p) :
    p.sources = d.sources.filterMap (fun s => s.check.value) ∧
      p.transforms = d.transforms.filterMap (fun t => t.check.value) ∧
      p.sinks = d.sinks.filterMap (fun s => s.check.value) := by
  simp only [pipeline?, Option.bind_eq_bind, Option.bind_eq_some_iff, Option.pure_def,
    Option.some.injEq] at h
  obtain ⟨_, -, _, -, _, -, rfl⟩ := h
  exact ⟨rfl, rfl, rfl⟩

/-- Validation keeps every transform and every sink, and exactly the sources whose parallelism
fits, each in its place with its trimmed name and its type. So it keeps all the sources if and only
if every parallelism fits. -/
theorem validate_keeps_entities (h : d.validate = .ok p) :
    List.Forall₂ DraftTransform.Kept d.transforms p.transforms ∧
      List.Forall₂ DraftSink.Kept d.sinks p.sinks ∧
      List.Forall₂ DraftSource.Kept (d.sources.filter (·.fits)) p.sources ∧
      (List.Forall₂ DraftSource.Kept d.sources p.sources ↔ ∀ s ∈ d.sources, s.fits = true) := by
  obtain ⟨hu, hp, hq⟩ := of_validate h
  obtain ⟨hs, ht, hk⟩ := entities_of_pipeline? hq
  obtain ⟨hus, huk⟩ := Option.or_eq_none_iff.mp hu
  simp only [problems, List.append_eq_nil_iff, List.map_eq_nil_iff] at hp
  obtain ⟨⟨⟨⟨⟨-, hps⟩, hpt⟩, hpk⟩, -⟩, -⟩ := hp
  have hsource := fun s hm =>
    DraftSource.check_value (faults_of_problemsOf hps s hm) (known_of_unknownSource hus s hm)
  have hsources : List.Forall₂ DraftSource.Kept (d.sources.filter (·.fits)) p.sources := by
    rw [hs, ← filterMap_filter_of_none fun s hm hf => (hsource s hm).2 hf]
    refine forall₂_filterMap fun s hm => ?_
    obtain ⟨hm, hf⟩ := List.mem_filter.mp hm
    exact (hsource s hm).1 hf
  refine ⟨?_, ?_, hsources, ?_, ?_⟩
  · rw [ht]
    exact forall₂_filterMap fun t hm => DraftTransform.check_value (faults_of_problemsOf hpt t hm)
  · rw [hk]
    exact forall₂_filterMap fun s hm =>
      DraftSink.check_value (faults_of_problemsOf hpk s hm) (known_of_unknownSink huk s hm)
  · intro hall
    have hlen := hsources.length_eq.trans hall.length_eq.symm
    exact List.length_filter_eq_length_iff.mp hlen
  · intro hfit
    rwa [List.filter_eq_self.mpr hfit] at hsources

/-- A windowed source, one that is too wide, and two kinds of sinks, with blanks around names. -/
def windowedToTwoSinks : Draft where
  name := some "demo"
  specVersion := some (.text "v1")
  parallelism := some (.int 1)
  sources := [
    { name := some " events ", tag := some "hop_window_dataset ", dataset := some "zkevm.blocks"
      timecol := some "ts", slide := some (.text "5min"), size := some (.text "10min") },
    { name := some "late", tag := some "dataset", dataset := some "zkevm.late"
      parallelism := some (.text "4294967296") }]
  transforms := [{ name := some "big", sql := some "SELECT id FROM events" }]
  sinks := [
    { name := some "out", tag := some "print", input := some "events" },
    { name := some "store ", tag := some " postgres", input := some "big"
      database := some "analytics", schema := some "public", table := some "big"
      primaryKey := some (.one "id, day")
      config := some {
        host := some "db", username := some (.text "writer"), password := some (.text "") } }]

theorem validate_keeps_entities_windowed : ∃ p, windowedToTwoSinks.validate = .ok p ∧
    List.Forall₂ DraftTransform.Kept windowedToTwoSinks.transforms p.transforms ∧
    List.Forall₂ DraftSink.Kept windowedToTwoSinks.sinks p.sinks ∧
    List.Forall₂ DraftSource.Kept (windowedToTwoSinks.sources.filter (·.fits)) p.sources ∧
    p.sources.map (·.name) = ["events"] := by
  have h := validate_keeps_entities (d := windowedToTwoSinks) rfl
  exact ⟨_, rfl, h.1, h.2.1, h.2.2.1, rfl⟩

/-- A draft with one source whose parallelism needs 33 bits. -/
def wideSource : Draft where
  name := some "demo"
  specVersion := some (.text "v1")
  parallelism := some (.int 1)
  sources := [
    { name := some "events", tag := some "dataset", dataset := some "zkevm.blocks"
      parallelism := some (.int 4294967296) }]

/-- It is valid, and its source is lost. -/
theorem wide_source_left_out : ¬ ∀ (d : Draft) (p : Pipeline), d.validate = .ok p →
    List.Forall₂ DraftSource.Kept d.sources p.sources ∧
      List.Forall₂ DraftTransform.Kept d.transforms p.transforms ∧
      List.Forall₂ DraftSink.Kept d.sinks p.sinks := by
  intro h
  have hs := (h wideSource _ rfl).1
  cases hs

end Draft

end StreamPipeline
