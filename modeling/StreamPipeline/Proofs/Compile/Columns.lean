import StreamPipeline.Proofs.Compile.Outcomes
import StreamPipeline.Proofs.Schema.ColumnText
import StreamPipeline.Proofs.Schema.Unsupported

/-! # The columns of a sink

The table of a sink, the insert that fills it and the registry agree on the columns, which are those
of its input without processing time. Each column is declared with a type that its selected value
has.
-/

namespace StreamPipeline

/-- How a sink declares a column and how its insert selects it. -/
def Column.Written (c : Column) (declared selected : String) : Prop :=
  match c.dataType with
  | .array _ => declared = Sql.quoteIdent c.name ++ " " ++ "STRING" ∧
      selected = "ARRAY_TO_JSON(" ++ Sql.quoteIdent c.name ++ ") AS " ++ Sql.quoteIdent c.name
  | .row _ => declared = Sql.quoteIdent c.name ++ " " ++ "STRING" ∧
      selected = "ROW_TO_JSON(" ++ Sql.quoteIdent c.name ++ ") AS " ++ Sql.quoteIdent c.name
  | type => selected = Sql.quoteIdent c.name ∧ ∃ text,
      declared = Sql.quoteIdent c.name ++ " " ++ text ∧
        ColumnType.parse text = .ok ⟨type, true, none⟩

namespace Column

/-- The column was read from a type text of the runtime. -/
def Read (c : Column) : Prop := ∃ raw, ofTypeText c.name raw = .ok c

theorem bounded_of_read {c : Column} (h : c.Read) : c.dataType.Bounded := by
  obtain ⟨raw, h⟩ := h
  unfold ofTypeText at h
  cases hp : ColumnType.parse raw with
  | error e => rw [hp] at h; cases h
  | ok t =>
    rw [hp] at h
    rw [← Except.ok.inj h]
    exact ColumnType.bounded_of_parse hp

theorem written_of_runtimeType {c : Column} {text : String} (hr : c.Read)
    (h : c.dataType.runtimeType = .ok text) : c.Written (c.runtimeDef text) c.selection := by
  have hb := bounded_of_read hr
  obtain ⟨name, type, nullable, time⟩ := c
  unfold LogicalType.runtimeType at h
  split at h
  · cases h
  next hu =>
    have hscalar (hs : type.isStructured = false) :
        ColumnType.parse text = .ok ⟨type, true, none⟩ := by
      have htext : text = type.render := by simpa [hs] using (Except.ok.inj h).symm
      rw [htext]
      exact LogicalType.parse_render type hs hu hb
    cases type with
    | array _ => cases h; exact ⟨rfl, rfl⟩
    | row _ => cases h; exact ⟨rfl, rfl⟩
    | _ => exact ⟨rfl, text, rfl, hscalar rfl⟩

/-- The destination of a relational sink declares the column under the name that it folds to. -/
def Stored (c : Column) (declared : String) : Prop :=
  declared = Sql.destinationName c.name ++ " " ++ c.dataType.destinationName
    ++ (if c.nullable then "" else " NOT NULL")

theorem stored_of_postgresType {c : Column} {text : String}
    (h : c.dataType.postgresType = .ok text) : c.Stored (c.postgresDef text) := by
  unfold LogicalType.postgresType at h
  split at h
  · cases h
  · cases h; rfl

end Column

namespace Build

variable {ctx : Context} {p : Pipeline} {prepared : Prepared} {s s' : BuildState}
  {t u : List Call.Exchange}

/-! ### Registered views -/

/-- The columns of a view as the runtime described them: all of a source, and those of a transform
without processing time. -/
inductive Described (p : Pipeline) (t : List Call.Exchange) : String → List Column → Prop where
  | source {name : String} {columns : List Column} : name ∈ p.sourceNames →
      ⟨.describe name, .ok columns⟩ ∈ t → Described p t name columns
  | transform {name : String} {columns : List Column} : name ∈ p.transformNames →
      ⟨.describe (intermediateName name), .ok columns⟩ ∈ t →
      Described p t name (columns.filter fun c => !c.isProcessingTime)

theorem Described.mono {name : String} {columns : List Column} (h : Described p t name columns)
    (hs : t ⊆ u) : Described p u name columns := by
  cases h with
  | source hn hm => exact .source hn (hs hm)
  | transform hn hm => exact .transform hn (hs hm)

/-- Every registered view has the columns that the runtime described. -/
def Known (p : Pipeline) (u : List Call.Exchange) (s : BuildState) : Prop :=
  ∀ name columns, s.registry.get? name = some columns → Described p u name columns

theorem Known.keep (h : Known p u s) (hr : s'.registry = s.registry) (t : List Call.Exchange) :
    Known p (u ++ t) s' := by
  intro name columns hg
  rw [hr] at hg
  exact (h name columns hg).mono (List.subset_append_left _ _)

theorem Known.push (h : Known p u s) {name : String} {columns : List Column}
    (hv : s'.registry = s.registry.add name columns)
    (hd : Described p (u ++ t) name columns) : Known p (u ++ t) s' := by
  intro other known hg
  rw [hv, ViewRegistry.get?_add_eq_some_iff] at hg
  obtain ⟨rfl, rfl⟩ | ⟨-, hg⟩ := hg
  · exact hd
  · exact (h other known hg).mono (List.subset_append_left _ _)

theorem known_forM {α : Type} {l : List α} {g : α → Build Unit} (hg : ∀ a, Grows (g a))
    (hstep : ∀ a ∈ l, ∀ u s t s', Known p u s → Runs (g a) s t (.ok ()) s' → Known p (u ++ t) s')
    (h : Runs (l.forM g) s t (.ok ()) s') (hk : Known p u s) : Known p (u ++ t) s' := by
  obtain ⟨us, hc⟩ := runs_forM_ok_iff.mp h
  exact (hc.facts (R := fun _ _ _ _ => True) hg (fun _ _ _ _ _ _ _ _ _ => trivial)
    (fun a ha u s t b s' hk hr => ⟨hstep a ha u s t s' hk hr, trivial⟩) hk).1

theorem known_session (h : Runs (session ctx p) s t (.ok ()) s') (hk : Known p u s) :
    Known p (u ++ t) s' := by
  unfold session at h
  obtain ⟨t₁, _, _, s₁, rfl, h₁, h⟩ := runs_bind_ok_iff.mp h
  obtain ⟨t₂, t₃, _, s₂, rfl, h₂, h₃⟩ := runs_bind_ok_iff.mp h
  have hk₁ := known_forM (fun _ => grows_issue _ _ _ _)
    (fun _ _ _ _ _ _ hk hi => hk.keep (of_issue hi).2 _) h₁ hk
  have hk₂ := hk₁.keep (of_issue h₂).2 t₂
  have hk₃ := known_forM (fun _ => grows_issue _ _ _ _)
    (fun _ _ _ _ _ _ hk hi => hk.keep (of_issue hi).2 _) h₃ hk₂
  simpa using hk₃

theorem known_sources (h : Runs (p.sources.forM (source ctx)) s t (.ok ()) s') (hk : Known p u s) :
    Known p (u ++ t) s' := by
  refine known_forM grows_source (fun a ha u s t s' hk hr => ?_) h hk
  obtain ⟨columns, hm, hv⟩ := of_source hr
  refine hk.push hv (.source (List.mem_map_of_mem ha) ?_)
  simp [hm]

/-- Without a column of processing time. -/
def Timeless (r : ViewRegistry) (name : String) : Prop :=
  ∃ columns, r.get? name = some columns ∧ ∀ c ∈ columns, c.isProcessingTime = false

theorem Timeless.mono {name : String} (h : Timeless s.registry name) (he : Extends s s') :
    Timeless s'.registry name := by
  obtain ⟨columns, hg, hc⟩ := h
  exact ⟨columns, he.get? hg, hc⟩

theorem isProcessingTime_of_mem_visible {columns : List Column} {c : Column}
    (h : c ∈ Column.visible columns) : c.isProcessingTime = false := by
  simpa using (List.mem_filter.mp h).2

theorem known_transforms (hp : p.prepare = .ok prepared)
    (h : Runs ((p.transforms.zip prepared.queries).forM fun e => transform e.1.name e.2) s t
      (.ok ()) s') (hk : Known p u s) :
    Known p (u ++ t) s' ∧ ∀ name ∈ p.transformNames, Timeless s'.registry name := by
  obtain ⟨us, hc⟩ := runs_forM_ok_iff.mp h
  have hfacts := hc.facts (I := Known p) (R := fun e _ _ s => Timeless s.registry e.1.name)
    (u := u) (fun _ => grows_transform _ _) ?_ ?_ hk
  · obtain ⟨hk', hf⟩ := hfacts
    refine ⟨hk', fun name hn => ?_⟩
    obtain ⟨a, ha, rfl⟩ := List.mem_map.mp hn
    have hl := Pipeline.length_queries hp
    have hz : (p.transforms.zip prepared.queries).map Prod.fst = p.transforms :=
      List.map_fst_zip (by omega)
    obtain ⟨e, he, rfl⟩ := List.mem_map.mp (hz ▸ ha)
    obtain ⟨_, ht⟩ := exists_of_forall₂ hf he
    exact ht
  · intro _ _ _ _ _ _ ht _ he
    exact ht.mono he
  · intro e he u s t _ s' hk hr
    obtain ⟨columns, hm, hv⟩ := of_transform hr
    have hn : e.1.name ∈ p.transformNames := List.mem_map_of_mem (List.of_mem_zip he).1
    refine ⟨hk.push hv (.transform hn (by simp [hm])), _, hv ▸ ViewRegistry.get?_add_self, ?_⟩
    exact fun c hc => isProcessingTime_of_mem_visible hc

theorem laidOut_of_layouts {sinks : List Sink} {layouts : List SinkLayout}
    (h : Runs (sinks.mapM layout) s t (.ok layouts) s') :
    t = [] ∧ s' = s ∧ List.Forall₂ (LaidOut s.registry) sinks layouts := by
  have hc := runs_mapM_ok_iff.mp h
  clear h
  induction hc with
  | nil => exact ⟨rfl, rfl, .nil⟩
  | cons ha _ ih =>
    obtain ⟨rfl, rfl, hl⟩ := of_layout ha
    obtain ⟨rfl, rfl, hls⟩ := ih
    exact ⟨rfl, rfl, .cons hl hls⟩

theorem provisioned_of_sinks {dryRun : Bool} {l : List (Sink × SinkLayout)}
    {inserts : List PendingInsert}
    (h : Runs (l.mapM fun e => sink ctx dryRun e.1 e.2) s t (.ok inserts) s') :
    List.Forall₂ (fun e i => Provisioned ctx dryRun e.1 e.2 i t s'.registry) l inserts := by
  have hf := (runs_mapM_ok_iff.mp h).facts (I := fun _ _ => True)
    (R := fun e i u s => Provisioned ctx dryRun e.1 e.2 i u s.registry) (u := [])
    (fun _ => grows_sink _ _ _) ?_ ?_ trivial
  · simpa using hf.2
  · intro e i u v s s' hp huv he
    exact ⟨he.get? hp.output, huv.subset hp.table,
      fun hn pg defs hk hl => huv.subset (hp.destination hn pg defs hk hl), hp.insert⟩
  · intro e _ u s t i s' _ hr
    refine ⟨trivial, ?_⟩
    have hp := of_sink hr
    exact ⟨hp.output, List.mem_append_right _ hp.table,
      fun hn pg defs hk hl => List.mem_append_right _ (hp.destination hn pg defs hk hl), hp.insert⟩

/-! ### Agreement -/

/-- What the table of a sink declares behind its columns: a relational one its key, the others
nothing. -/
def KeyDeclared : SinkKind → List String → Prop
  | .postgres pg, clauses => clauses =
    ["PRIMARY KEY (" ++ Text.join ", " (pg.primaryKey.map Sql.quoteIdent) ++ ") NOT ENFORCED"]
  | _, clauses => clauses = []

/-- The table of a sink, its insert and the registry agree on the columns of the input `view`
without processing time. Each of them stands in one cell: how the table declares it and how the
insert selects it. -/
structure Aligned (ctx : Context) (dryRun : Bool) (t : List Call.Exchange) (r : ViewRegistry)
    (a : Sink) (i : PendingInsert) (view : List Column) (cells : List (String × String)) :
    Prop where
  input : r.get? a.input = some view
  output : r.get? a.name = some (view.filter fun c => !c.isProcessingTime)
  written : List.Forall₂ (fun c x => c.Written x.1 x.2)
    (view.filter fun c => !c.isProcessingTime) cells
  table : ∃ key, KeyDeclared a.kind key ∧
    ⟨.execute ("CREATE TABLE " ++ Sql.quoteIdent a.name ++ " ("
      ++ Text.join ", " (cells.map (·.1) ++ key)
      ++ ") WITH (" ++ Sql.renderOptions (a.kind.options ctx.settings) ++ ")"), .ok ()⟩ ∈ t
  insert : i = ⟨a.name, "INSERT INTO " ++ Sql.quoteIdent a.name ++ " SELECT "
    ++ Text.join ", " (cells.map (·.2)) ++ " FROM " ++ Sql.quoteIdent a.input⟩
  destination : dryRun = false → ∀ pg, a.kind = .postgres pg → ∃ defs,
    List.Forall₂ Column.Stored (view.filter fun c => !c.isProcessingTime) defs ∧
      ⟨.executeIn pg pg.database ("CREATE TABLE IF NOT EXISTS " ++ Sql.destinationName pg.schema
        ++ "." ++ Sql.destinationName pg.table ++ " (" ++ Text.join ", " defs ++ ", PRIMARY KEY ("
        ++ Text.join ", " (pg.primaryKey.map Sql.destinationName) ++ "))"), .ok ()⟩ ∈ t

theorem keyDeclared_keyClause (kind : SinkKind) : KeyDeclared kind kind.keyClause := by
  cases kind <;> rfl

theorem cells_of_defs {columns : List Column} {defs : List String}
    (h : List.Forall₂ (fun c d => ∃ text, LogicalType.runtimeType c.dataType = .ok text ∧
      d = c.runtimeDef text) columns defs) (hr : ∀ c ∈ columns, c.Read) :
    ∃ cells : List (String × String), cells.map (·.1) = defs ∧
      cells.map (·.2) = columns.map Column.selection ∧
      List.Forall₂ (fun c x => c.Written x.1 x.2) columns cells := by
  induction h with
  | nil => exact ⟨[], rfl, rfl, .nil⟩
  | @cons c d columns defs hc _ ih =>
    obtain ⟨text, ht, rfl⟩ := hc
    obtain ⟨cells, hd, hs, hw⟩ := ih fun c hc => hr c (by simp [hc])
    refine ⟨(c.runtimeDef text, c.selection) :: cells, by simp [hd], by simp [hs], .cons ?_ hw⟩
    exact Column.written_of_runtimeType (hr c (by simp)) ht

theorem aligned_of_provisioned {dryRun : Bool} {a : Sink} {l : SinkLayout} {i : PendingInsert}
    (hl : LaidOut s.registry a l) (hp : Provisioned ctx dryRun a l i t s'.registry)
    (he : Extends s s')
    (hr : ∀ view, s.registry.get? a.input = some view → ∀ c ∈ view, c.Read) :
    ∃ view cells, s.registry.get? a.input = some view ∧
      Aligned ctx dryRun t s'.registry a i view cells := by
  obtain ⟨view, hg, hc⟩ := hl.input
  change l.columns = view.filter fun c => !c.isProcessingTime at hc
  have hread : ∀ c ∈ l.columns, c.Read := fun c hm =>
    hr view hg c (List.mem_filter.mp (hc ▸ hm)).1
  obtain ⟨cells, hd, hs, hw⟩ := cells_of_defs (Column.forall₂_of_define hl.runtime) hread
  refine ⟨view, cells, hg, he.get? hg, hc ▸ hp.output, hc ▸ hw,
    ⟨_, keyDeclared_keyClause a.kind, hd ▸ hp.table⟩, ?_, ?_⟩
  · rw [hp.insert, hs]
    rfl
  · intro hn pg hk
    obtain ⟨defs, hdefs, hpg⟩ := hl.postgres pg hk
    refine ⟨defs, ?_, hp.destination hn pg defs hk hdefs⟩
    rw [← hc]
    refine (Column.forall₂_of_define hpg).imp ?_
    rintro c d ⟨text, ht, rfl⟩
    exact Column.stored_of_postgresType ht

theorem Aligned.mono {dryRun : Bool} {r : ViewRegistry} {a : Sink} {i : PendingInsert}
    {view : List Column} {cells : List (String × String)}
    (h : Aligned ctx dryRun t r a i view cells) (hs : t ⊆ u) :
    Aligned ctx dryRun u r a i view cells := by
  obtain ⟨key, hkey, htable⟩ := h.table
  refine ⟨h.input, h.output, h.written, ⟨key, hkey, hs htable⟩, h.insert, fun hn pg hk => ?_⟩
  obtain ⟨defs, hd, hm⟩ := h.destination hn pg hk
  exact ⟨defs, hd, hs hm⟩

theorem Described.read {name : String} {columns : List Column} (h : Described p t name columns)
    (hd : ∀ view columns, ⟨.describe view, .ok columns⟩ ∈ t → ∀ c ∈ columns, c.Read) :
    ∀ c ∈ columns, c.Read := by
  intro c hc
  cases h with
  | source _ hm => exact hd _ _ hm c hc
  | transform _ hm => exact hd _ _ hm c (List.mem_filter.mp hc).1

/-- A compilation that ends well has aligned every sink with what the runtime described of its
input. No transform or sink is registered with a column of processing time. -/
theorem compile_columns {dryRun : Bool} {inserts : List PendingInsert}
    (hp : p.prepare = .ok prepared)
    (h : Runs (compile ctx dryRun prepared) .start t (.ok inserts) s')
    (hd : ∀ view columns, ⟨.describe view, .ok columns⟩ ∈ t → ∀ c ∈ columns, c.Read) :
    List.Forall₂ (fun a i => ∃ view cells, Described p t a.input view ∧
      Aligned ctx dryRun t s'.registry a i view cells) p.sinks inserts ∧
    ∀ name ∈ p.transformNames ++ p.sinkNames, Timeless s'.registry name := by
  rw [compile_eq hp] at h
  obtain ⟨t₁, _, _, s₁, rfl, hsession, h₁⟩ := runs_bind_ok_iff.mp h
  obtain ⟨t₂, _, _, s₂, rfl, hsources, h₂⟩ := runs_bind_ok_iff.mp h₁
  obtain ⟨t₃, _, _, s₃, rfl, htransforms, h₃⟩ := runs_bind_ok_iff.mp h₂
  obtain ⟨t₄, t₅, layouts, s₄, rfl, hlayouts, hsinks⟩ := runs_bind_ok_iff.mp h₃
  have hk₁ : Known p ([] ++ t₁) s₁ := known_session hsession (fun _ _ hg => by cases hg)
  have hk₂ := known_sources hsources hk₁
  obtain ⟨hk₃, htimeless⟩ := known_transforms hp htransforms hk₂
  obtain ⟨rfl, rfl, hlaid⟩ := laidOut_of_layouts hlayouts
  have hprovisioned := provisioned_of_sinks hsinks
  have hgrows : Extends s₄ s' := grows_mapM (fun _ => grows_sink _ _ _) _ _ _ _ hsinks
  have hsubset : [] ++ t₁ ++ t₂ ++ t₃ ⊆ t₁ ++ (t₂ ++ (t₃ ++ ([] ++ t₅))) :=
    List.IsPrefix.subset ⟨t₅, by simp⟩
  have hread {name : String} {view : List Column} (hg : s₄.registry.get? name = some view) :=
    (hk₃ name view hg).mono hsubset
  constructor
  · refine (forall₂_of_zip hlaid hprovisioned).imp ?_
    rintro a i ⟨l, hl, hpr⟩
    obtain ⟨view, cells, hg, ha⟩ := aligned_of_provisioned hl hpr hgrows fun view hg =>
      (hread hg).read hd
    exact ⟨view, cells, hread hg, ha.mono (List.IsSuffix.subset ⟨t₁ ++ t₂ ++ t₃, by simp⟩)⟩
  · intro name hn
    rcases List.mem_append.mp hn with hn | hn
    · exact (htimeless name hn).mono hgrows
    · obtain ⟨a, ha, rfl⟩ := List.mem_map.mp hn
      obtain ⟨i, l, hl, hpr⟩ := exists_of_forall₂ (forall₂_of_zip hlaid hprovisioned) ha
      obtain ⟨view, -, hc⟩ := hl.input
      refine ⟨l.columns, hpr.output, fun c hm => ?_⟩
      exact isProcessingTime_of_mem_visible (hc ▸ hm)

theorem compile_columns_ordersToPostgres : ∃ prepared t inserts s',
    ordersToPostgres.prepare = .ok prepared ∧
    Runs (compile ⟨{}, 0⟩ false prepared) .start t (.ok inserts) s' ∧
    (∀ view columns, ⟨.describe view, .ok columns⟩ ∈ t → ∀ c ∈ columns, c.Read) ∧
    (List.Forall₂ (fun a i => ∃ view cells, Described ordersToPostgres t a.input view ∧
      Aligned ⟨{}, 0⟩ false t s'.registry a i view cells) ordersToPostgres.sinks inserts ∧
    ∀ name ∈ ordersToPostgres.transformNames ++ ordersToPostgres.sinkNames,
      Timeless s'.registry name) := by
  obtain ⟨prepared, hp, inserts, s', u, ha⟩ : ∃ prepared, ordersToPostgres.prepare = .ok prepared ∧
      ∃ inserts s' u, Dialogue.answer obliging
        (StateT.run (ExceptT.run (compile ⟨{}, 0⟩ false prepared)) .start) () =
          ((.ok inserts, s'), u) := ⟨_, rfl, _, _, _, rfl⟩
  have hr := Dialogue.run_transcript obliging
    (StateT.run (ExceptT.run (compile ⟨{}, 0⟩ false prepared)) .start) ()
  rw [ha] at hr
  have hd : ∀ view columns, ⟨.describe view, .ok columns⟩ ∈ Dialogue.transcript obliging
      (StateT.run (ExceptT.run (compile ⟨{}, 0⟩ false prepared)) .start) () →
      ∀ c ∈ columns, c.Read := by
    intro view columns hm c hc
    obtain ⟨_, he⟩ := Dialogue.answer_of_mem_transcript hm
    cases he
    simp only [List.mem_cons, List.not_mem_nil, or_false] at hc
    rcases hc with rfl | rfl
    · exact ⟨_, congrArg _ (LogicalType.parse_render .bigInt rfl rfl trivial)⟩
    · exact ⟨_, congrArg _ (LogicalType.parse_render (.timestampLtz (some 3)) rfl rfl trivial)⟩
  exact ⟨prepared, _, inserts, s', hp, hr, hd, compile_columns hp hr hd⟩

end Build

end StreamPipeline
