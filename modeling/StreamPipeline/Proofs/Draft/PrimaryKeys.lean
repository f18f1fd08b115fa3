import StreamPipeline.Proofs.Draft.Kinds
import StreamPipeline.Proofs.Text.Trimming

/-! # Primary keys

A document gives a primary key as one text with commas or as a list. Of the text the pieces between
the commas count, trimmed and as far as they are not blank; the list is kept as it was written. The
two spellings give the same key, and the same pipeline, where the entries of the list are tidy.
-/

namespace StreamPipeline

namespace Text

/-- Not empty, and without a blank at either end. -/
structure Tidy (s : String) : Prop where
  ne_empty : s ≠ ""
  trimmed : Trimmed s.toList

theorem tidy_iff {s : String} : Tidy s ↔ trim s = s ∧ s ≠ "" :=
  ⟨fun h => ⟨trim_eq_self_iff.mpr h.trimmed, h.ne_empty⟩,
    fun h => ⟨h.2, trim_eq_self_iff.mp h.1⟩⟩

instance (s : String) : Decidable (Tidy s) := decidable_of_iff _ tidy_iff.symm

/-! ### Splitting what was joined -/

section Split

variable {sep : Char} {cs rest : List Char}

theorem splitChars_cons_of_ne {c : Char} (hc : c ≠ sep) {piece : List Char}
    {pieces : List (List Char)} (h : splitChars sep cs = piece :: pieces) :
    splitChars sep (c :: cs) = (c :: piece) :: pieces := by
  rw [splitChars, if_neg hc, h]

theorem splitChars_of_notMem (h : sep ∉ cs) : splitChars sep cs = [cs] := by
  induction cs with
  | nil => rfl
  | cons c cs ih =>
    rw [List.mem_cons, not_or] at h
    exact splitChars_cons_of_ne (Ne.symm h.1) (ih h.2)

theorem splitChars_append (h : sep ∉ cs) :
    splitChars sep (cs ++ sep :: rest) = cs :: splitChars sep rest := by
  induction cs with
  | nil => rw [List.nil_append, splitChars, if_pos rfl]
  | cons c cs ih =>
    rw [List.mem_cons, not_or] at h
    exact splitChars_cons_of_ne (Ne.symm h.1) (ih h.2)

/-- Joined pieces are found again, up to the blanks around them. The blanks ahead are what the
separator before leaves over. -/
theorem map_trimChars_split_join {pieces : List String} (hne : pieces ≠ [])
    (hp : ∀ s ∈ pieces, ',' ∉ s.toList) {blanks : List Char} (hb : ∀ c ∈ blanks, c = ' ') :
    (splitChars ',' (blanks ++ (join ", " pieces).toList)).map trimChars =
      pieces.map fun s => trimChars s.toList := by
  induction pieces generalizing blanks with
  | nil => exact absurd rfl hne
  | cons s pieces ih =>
    have hs : ',' ∉ blanks ++ s.toList := by
      rw [List.mem_append, not_or]
      exact ⟨fun hm => absurd (hb _ hm) (by decide), hp s (by simp)⟩
    have htrim : trimChars (blanks ++ s.toList) = trimChars s.toList := by
      have hblank : ∀ c ∈ blanks, isBlank c = true := fun c hc => by rw [hb c hc]; rfl
      have hnone : ∀ c ∈ ([] : List Char), isBlank c = true := by simp
      have haround : trimChars (blanks ++ s.toList ++ []) = trimChars s.toList :=
        trimChars_blank_around hblank hnone
      rwa [List.append_nil] at haround
    cases pieces with
    | nil =>
      rw [join, splitChars_of_notMem hs, List.map_cons, htrim]
      rfl
    | cons t pieces =>
      have htext : blanks ++ (join ", " (s :: t :: pieces)).toList =
          (blanks ++ s.toList) ++ ',' :: ([' '] ++ (join ", " (t :: pieces)).toList) := by
        simp [join]
      have hspace : ∀ c ∈ [' '], c = ' ' := by simp
      have hrest := ih (by simp) (fun u hu => hp u (by simp [hu])) hspace
      rw [htext, splitChars_append hs, List.map_cons, List.map_cons, htrim, hrest]

end Split

end Text

open Text

namespace KeyColumns

/-- The columns of a list; a text lists none. -/
def listed : KeyColumns → List String
  | one _ => []
  | many columns => columns

/-- The key as one text. -/
def joined : KeyColumns → KeyColumns
  | one s => one s
  | many columns => one (join ", " columns)

theorem tidy_of_mem_one {s c : String} (h : c ∈ (one s).toList) : Tidy c := by
  simp only [toList, List.mem_filter, List.mem_map, Bool.not_eq_true'] at h
  obtain ⟨⟨piece, -, rfl⟩, hne⟩ := h
  exact tidy_iff.mpr ⟨trim_trim piece, fun he => by simp [he] at hne⟩

theorem toList_one_join {columns : List String} (h : ∀ c ∈ columns, ',' ∉ c.toList) :
    (one (join ", " columns)).toList = (columns.map trim).filter fun c => !c.isEmpty := by
  cases columns with
  | nil => decide
  | cons c columns =>
    have hnone : ∀ b ∈ ([] : List Char), b = ' ' := by simp
    have hsplit := map_trimChars_split_join (List.cons_ne_nil c columns) h hnone
    have hpieces : (split ',' (join ", " (c :: columns))).map trim = (c :: columns).map trim := by
      have hstrings := congrArg (List.map String.ofList) hsplit
      simp only [List.map_map, Function.comp_def, List.nil_append] at hstrings
      simp only [split, List.map_map, Function.comp_def, trim, String.toList_ofList]
      exact hstrings
    rw [toList, hpieces]

/-- A list and the text that joins it are the same key if and only if the list is tidy. -/
theorem toList_one_join_eq_iff {columns : List String} (h : ∀ c ∈ columns, ',' ∉ c.toList) :
    (one (join ", " columns)).toList = columns ↔ ∀ c ∈ columns, Tidy c := by
  constructor
  · intro he c hc
    rw [← he] at hc
    exact tidy_of_mem_one hc
  · intro ht
    have htrim : columns.map trim = columns := by
      rw [List.map_congr_left fun c hc => (tidy_iff.mp (ht c hc)).1, List.map_id']
    rw [toList_one_join h, htrim, List.filter_eq_self]
    intro c hc
    simp [(ht c hc).ne_empty]

end KeyColumns

/-! ### Checked keys -/

namespace DraftSink

theorem checkKey_value {key : Option KeyColumns} {columns : List String}
    (h : (checkKey key).value = some columns) :
    columns ≠ [] ∧ ∃ k, key = some k ∧ k.toList = columns := by
  unfold checkKey at h
  split at h
  next c rest hk =>
    obtain rfl := Option.some.inj h
    exact ⟨List.cons_ne_nil c rest, Option.map_eq_some_iff.mp hk⟩
  next => cases h

theorem checkKey_many_cons (c : String) (rest : List String) :
    checkKey (some (.many (c :: rest))) = .ok (c :: rest) :=
  rfl

theorem checkKey_congr {k l : KeyColumns} (h : k.toList = l.toList) :
    checkKey (some k) = checkKey (some l) := by
  simp only [checkKey, Option.map_some, h]

theorem primaryKey_of_check {s : DraftSink} {r : Sink} {pg : PostgresSink}
    (h : s.check.value = some r) (hr : r.kind = .postgres pg) :
    (checkKey s.primaryKey).value = some pg.primaryKey := by
  obtain ⟨type, -, hkind⟩ := kind_of_check h
  rw [hr] at hkind
  cases type with
  | postgres =>
    obtain ⟨sink, hsink, he⟩ := Option.map_eq_some_iff.mp hkind
    obtain rfl : sink = pg := SinkKind.postgres.inj he
    simp only [checkPostgres, Option.bind_eq_bind, Option.bind_eq_some_iff, Option.pure_def,
      Option.some.injEq] at hsink
    obtain ⟨_, -, _, -, _, -, _, -, _, -, _, -, key, hkey, rfl⟩ := hsink
    exact hkey
  | starrocks | filesystem | kafka =>
    obtain ⟨_, -, he⟩ := Option.map_eq_some_iff.mp hkind
    cases he
  | print => cases hkind

/-- A sink whose key is spelled in another way. -/
def respell (spell : KeyColumns → KeyColumns) (s : DraftSink) : DraftSink :=
  { s with primaryKey := s.primaryKey.map spell }

theorem check_respell {spell : KeyColumns → KeyColumns} {s : DraftSink}
    (h : ∀ k ∈ s.primaryKey, (spell k).toList = k.toList) :
    (s.respell spell).check = s.check := by
  have hkey : checkKey (s.respell spell).primaryKey = checkKey s.primaryKey := by
    cases hk : s.primaryKey with
    | none => simp [respell, hk]
    | some k =>
      rw [respell, hk, Option.map_some]
      exact checkKey_congr (h k hk)
  have hpostgres : (s.respell spell).checkPostgres = s.checkPostgres := by
    simp only [checkPostgres, hkey]
    rfl
  have hkind : (s.respell spell).checkType = s.checkType := by
    funext tag
    unfold checkType
    cases SinkType.ofTag? tag with
    | none => rfl
    | some type =>
      cases type with
      | postgres => simp only [checkKind, hpostgres]
      | starrocks | print | filesystem | kafka => rfl
  simp only [check, hkind]
  rfl

end DraftSink

/-! ### Documents -/

namespace Draft

variable {d : Draft} {p : Pipeline}

def withSinks (f : DraftSink → DraftSink) (d : Draft) : Draft := { d with sinks := d.sinks.map f }

theorem unknownSink_map {f : DraftSink → DraftSink} {sinks : List DraftSink}
    (hname : ∀ s ∈ sinks, (f s).name = s.name) (htag : ∀ s ∈ sinks, (f s).tag = s.tag) (i : Nat) :
    unknownSink i (sinks.map f) = unknownSink i sinks := by
  induction sinks generalizing i with
  | nil => rfl
  | cons s sinks ih =>
    have hrest :=
      ih (fun t ht => hname t (by simp [ht])) (fun t ht => htag t (by simp [ht])) (i + 1)
    rw [List.map_cons, unknownSink, unknownSink, hname s (by simp), htag s (by simp), hrest]

/-- Validation looks at a sink only through its name, its type and its check. -/
theorem validate_withSinks {f : DraftSink → DraftSink} (hname : ∀ s ∈ d.sinks, (f s).name = s.name)
    (htag : ∀ s ∈ d.sinks, (f s).tag = s.tag) (hcheck : ∀ s ∈ d.sinks, (f s).check = s.check) :
    (d.withSinks f).validate = d.validate := by
  have hunknown : (d.withSinks f).unknownType = d.unknownType := by
    unfold unknownType
    rw [withSinks, unknownSink_map hname htag]
  have hnames : (d.withSinks f).names = d.names := by
    have hsinks : (d.sinks.map f).map (·.name) = d.sinks.map (·.name) := by
      rw [List.map_map]
      exact List.map_congr_left hname
    simp only [names, withSinks, hsinks]
  have hproblems : (d.withSinks f).problems = d.problems := by
    have hsinks : problemsOf "sinks" (·.name) DraftSink.check (d.sinks.map f) =
        problemsOf "sinks" (·.name) DraftSink.check d.sinks := by
      unfold problemsOf
      rw [List.zipIdx_map, List.flatMap_map]
      refine List.flatMap_congr fun e he => ?_
      have hm : e.1 ∈ d.sinks := List.fst_mem_of_mem_zipIdx he
      simp only [Prod.map_fst, Prod.map_snd, id_eq, hname _ hm, hcheck _ hm]
    unfold problems collisions
    rw [hnames]
    simp only [withSinks, hsinks]
    rfl
  have hpipeline : (d.withSinks f).pipeline? = d.pipeline? := by
    have hsinks : (d.sinks.map f).filterMap (fun s => s.check.value) =
        d.sinks.filterMap fun s => s.check.value := by
      rw [List.filterMap_map]
      exact List.filterMap_congr fun s hs => by simp only [Function.comp_apply, hcheck s hs]
    simp only [pipeline?, withSinks, hsinks]
  unfold validate
  rw [hunknown, hproblems, hpipeline]

/-- A Postgres sink of a valid document has the key that its draft spells. -/
theorem primaryKey_of_validate (h : d.validate = .ok p) {sink : Sink} (hs : sink ∈ p.sinks)
    {pg : PostgresSink} (hk : sink.kind = .postgres pg) : pg.primaryKey ≠ [] ∧ ∃ raw ∈ d.sinks,
      ∃ key, raw.check.value = some sink ∧ raw.primaryKey = some key ∧
        key.toList = pg.primaryKey := by
  obtain ⟨-, -, hp⟩ := of_validate h
  rw [(entities_of_pipeline? hp).2.2] at hs
  obtain ⟨raw, hraw, hcheck⟩ := List.mem_filterMap.mp hs
  obtain ⟨hne, key, hkey, hlist⟩ :=
    DraftSink.checkKey_value (DraftSink.primaryKey_of_check hcheck hk)
  exact ⟨hne, raw, hraw, key, hcheck, hkey, hlist⟩

/-- Every Postgres sink of a valid document has a key, and its columns are tidy if and only if those
are that the document lists one by one. A list without commas in it and the text that joins it are
checked alike if and only if the list is tidy, and a document with tidy lists keeps its pipeline
when they are joined. -/
theorem primary_keys_in_both_spellings (d : Draft) (columns : List String) :
    (∀ p, d.validate = .ok p → ∀ sink ∈ p.sinks, ∀ pg,
      sink.kind = .postgres pg → pg.primaryKey ≠ [] ∧ ∃ raw ∈ d.sinks, ∃ key,
        raw.check.value = some sink ∧ raw.primaryKey = some key ∧ key.toList = pg.primaryKey ∧
        ((∀ c ∈ pg.primaryKey, Tidy c) ↔ ∀ c ∈ key.listed, Tidy c)) ∧
    ((∀ c ∈ columns, ',' ∉ c.toList) →
      (DraftSink.checkKey (some (.one (join ", " columns))) =
        DraftSink.checkKey (some (.many columns)) ↔ ∀ c ∈ columns, Tidy c)) ∧
    ((∀ s ∈ d.sinks, ∀ key ∈ s.primaryKey, ∀ c ∈ key.listed, Tidy c ∧ ',' ∉ c.toList) →
      (d.withSinks (DraftSink.respell KeyColumns.joined)).validate = d.validate) := by
  refine ⟨fun p h sink hs pg hk => ?_, fun hcomma => ?_, fun hd => ?_⟩
  · obtain ⟨hne, raw, hraw, key, hcheck, hkey, hlist⟩ := primaryKey_of_validate h hs hk
    refine ⟨hne, raw, hraw, key, hcheck, hkey, hlist, ?_⟩
    rw [← hlist]
    cases key with
    | one s =>
      exact ⟨fun _ c hc => absurd hc (List.not_mem_nil), fun _ c => KeyColumns.tidy_of_mem_one⟩
    | many columns => exact Iff.rfl
  · rw [← KeyColumns.toList_one_join_eq_iff hcomma]
    refine ⟨fun h => ?_, fun h => DraftSink.checkKey_congr h⟩
    cases columns with
    | nil => decide
    | cons c rest =>
      rw [DraftSink.checkKey_many_cons] at h
      obtain ⟨-, key, hkey, hlist⟩ := DraftSink.checkKey_value (congrArg Checked.value h)
      rwa [Option.some.inj hkey]
  · refine validate_withSinks (fun _ _ => rfl) (fun _ _ => rfl) fun s hs => ?_
    refine DraftSink.check_respell fun key hkey => ?_
    cases key with
    | one text => rfl
    | many columns =>
      have htidy := hd s hs _ hkey
      exact (KeyColumns.toList_one_join_eq_iff fun c hc => (htidy c hc).2).mpr
        fun c hc => (htidy c hc).1

/-- One Postgres sink with the key. -/
def keyedBy (key : KeyColumns) : Draft where
  name := some "demo"
  specVersion := some (.text "v1")
  parallelism := some (.int 1)
  sources := [{ name := some "events", tag := some "dataset", dataset := some "zkevm.blocks" }]
  sinks := [
    { name := some "store", tag := some "postgres", input := some "events"
      database := some "analytics", schema := some "public", table := some "events"
      primaryKey := some key
      config := some {
        host := some "db", username := some (.text "writer"), password := some (.text "") } }]

/-- The sink of such a document. -/
def keyedSink (columns : List String) : PostgresSink where
  host := "db"
  port := 5432
  credentials := ⟨"writer", ""⟩
  database := "analytics"
  schema := "public"
  table := "events"
  primaryKey := columns

def keyedPipeline (columns : List String) : Pipeline where
  name := "demo"
  specVersion := "v1"
  parallelism := 1
  checkpointDir := "file:///opt/flink/checkpoint"
  savepointDir := "file:///opt/flink/savepoint"
  sources := [⟨"events", "zkevm.blocks", none, 1, .dataset⟩]
  transforms := []
  sinks := [⟨"store", "events", .postgres (keyedSink columns)⟩]

theorem primary_keys_in_both_spellings_idDay :
    (keyedBy (.one " id ,, day")).validate = .ok (keyedPipeline ["id", "day"]) ∧
    (∀ c ∈ (keyedSink ["id", "day"]).primaryKey, Tidy c) ∧
    DraftSink.checkKey (some (.one "id, day")) = DraftSink.checkKey (some (.many ["id", "day"])) ∧
    (keyedBy (.one "id, day")).validate = (keyedBy (.many ["id", "day"])).validate := by
  obtain ⟨hkeys, hjoined, -⟩ :=
    primary_keys_in_both_spellings (keyedBy (.one " id ,, day")) ["id", "day"]
  have hvalid : (keyedBy (.one " id ,, day")).validate = .ok (keyedPipeline ["id", "day"]) := rfl
  refine ⟨hvalid, ?_, ?_, ?_⟩
  · obtain ⟨-, raw, hraw, key, -, hkey, -, htidy⟩ := hkeys _ hvalid
      ⟨"store", "events", .postgres (keyedSink ["id", "day"])⟩ (List.mem_singleton_self _) _ rfl
    obtain rfl := List.mem_singleton.mp hraw
    obtain rfl := Option.some.inj hkey
    exact htidy.mpr fun c hc => absurd hc List.not_mem_nil
  · exact (hjoined (by decide)).mpr (by decide)
  · have hdocument := (primary_keys_in_both_spellings (keyedBy (.many ["id", "day"])) []).2.2
    refine hdocument fun s hs key hkey => ?_
    obtain rfl := List.mem_singleton.mp hs
    obtain rfl := Option.some.inj hkey
    decide

/-- A list is kept with its blank and its padded entries, and is then not the key that the text
spells. -/
theorem untidy_key_kept :
    ¬ (∀ (d : Draft) (p : Pipeline), d.validate = .ok p → ∀ sink ∈ p.sinks, ∀ pg,
      sink.kind = .postgres pg → pg.primaryKey ≠ [] ∧ ∀ c ∈ pg.primaryKey, Tidy c) ∧
    ¬ ∀ columns : List String, (∀ c ∈ columns, ',' ∉ c.toList) →
      (KeyColumns.one (join ", " columns)).toList = (KeyColumns.many columns).toList := by
  constructor
  · intro h
    have hvalid : (keyedBy (.many ["", " id "])).validate = .ok (keyedPipeline ["", " id "]) := rfl
    have hkey := (h _ _ hvalid _ (List.mem_singleton_self _) (keyedSink ["", " id "]) rfl).2
    exact absurd (hkey "" (List.mem_cons_self)) (by decide)
  · intro h
    exact absurd (h ["", " id "] (by decide)) (by decide)

end Draft

end StreamPipeline
