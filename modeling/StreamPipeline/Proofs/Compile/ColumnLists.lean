import StreamPipeline.Proofs.Compile.Columns
import StreamPipeline.Proofs.Compile.DryRun
import StreamPipeline.Proofs.Compile.Invariants
import StreamPipeline.Proofs.Compile.Refusals

/-! # Lists of columns

The columns that a statement names are what is left of a described view without processing time. A
transform with nothing left ends the run, but a source with nothing left does not: a sink that reads
it gets a table and an insert without columns.
-/

namespace StreamPipeline

theorem exists_mem_of_forall₂ {α β : Type} {R : α → β → Prop} {l : List α} {m : List β}
    (h : List.Forall₂ R l m) {b : β} (hb : b ∈ m) : ∃ a ∈ l, R a b := by
  induction h with
  | nil => cases hb
  | @cons a _ _ _ hr _ ih =>
    rcases List.mem_cons.mp hb with rfl | hb
    · exact ⟨a, List.mem_cons_self, hr⟩
    · obtain ⟨a, ha, hr⟩ := ih hb
      exact ⟨a, List.mem_cons_of_mem _ ha, hr⟩

/-- What is left of a described view without processing time. There are columns left of a
transform. -/
inductive Writable (p : Pipeline) (t : List Call.Exchange) : String → List Column → Prop where
  | source {name : String} {view : List Column} : name ∈ p.sourceNames →
      ⟨.describe name, .ok view⟩ ∈ t → Writable p t name (Column.visible view)
  | transform {name : String} {view : List Column} : name ∈ p.transformNames →
      ⟨.describe (intermediateName name), .ok view⟩ ∈ t → Column.visible view ≠ [] →
      Writable p t name (Column.visible view)

/-- The calls that name columns, with these columns. -/
inductive Call.Lists (ctx : Context) (p : Pipeline) (t : List Call.Exchange) :
    Call → List Column → Prop where
  | projection {name : String} {columns : List Column} : name ∈ p.transformNames →
      Writable p t name columns → columns ≠ [] →
      Lists ctx p t (.execute (projectionStatement name columns)) columns
  | table {a : Sink} {columns : List Column} {defs : List String} : a ∈ p.sinks →
      Writable p t a.input columns → Column.runtimeDefs a.input columns = .ok defs →
      Lists ctx p t (.execute (sinkTableStatement ctx.settings a.name a.kind defs)) columns
  | destination {a : Sink} {pg : PostgresSink} {columns : List Column} {defs : List String} :
      a ∈ p.sinks → a.kind = .postgres pg → Writable p t a.input columns →
      Column.postgresDefs a.input columns = .ok defs →
      Lists ctx p t (.executeIn pg pg.database (pg.tableStatement defs)) columns
  | insert {a : Sink} {columns : List Column} : a ∈ p.sinks → Writable p t a.input columns →
      Lists ctx p t (.submit (insertStatement a.name a.input columns)) columns

/-- The calls without a list of columns. -/
inductive Call.Plain (ctx : Context) (p : Pipeline) : Call → Prop where
  | setting (key value : String) : Plain ctx p (.execute (setStatement key value))
  | catalog : Plain ctx p (.execute ctx.settings.catalogStatement)
  | function {f : FunctionDef} : f ∈ ctx.settings.functions → Plain ctx p (.execute f.statement)
  | source {a : Source} : a ∈ p.sources →
      Plain ctx p (.execute (a.viewStatement ctx.settings.catalog ctx.now))
  | intermediate {a : Transform} (sql : String) : a ∈ p.transforms →
      Plain ctx p (.execute (intermediateStatement a.name sql))
  | describe (view : String) : Plain ctx p (.describe view)
  | nextAccepted (first : PendingJob) (rest : List PendingJob) :
      Plain ctx p (.nextAccepted first rest)
  | wait (pipeline : String) (jobs : List JobId) : Plain ctx p (.wait pipeline jobs)
  | databaseExists (pg : PostgresSink) : Plain ctx p (.databaseExists pg pg.database)
  | createDatabase (pg : PostgresSink) : Plain ctx p (.createDatabase pg pg.database)
  | schema (pg : PostgresSink) :
      Plain ctx p (.executeIn pg pg.database (Sql.createSchema pg.schema))

/-- How the plan shows what is sent. -/
inductive Call.Shown : Call → String → Prop where
  | execute (sql : String) : Shown (.execute sql) (Sql.redact sql)
  | submit (sql : String) : Shown (.submit sql) sql

/-- A call without a list, or with the list that it has. -/
def Call.Classified (ctx : Context) (p : Pipeline) (t : List Call.Exchange) (c : Call) : Prop :=
  Call.Plain ctx p c ∨ ∃ columns, Call.Lists ctx p t c columns

/-- Every statement of the plan shows such a call. -/
def BuildState.Recorded (ctx : Context) (p : Pipeline) (t : List Call.Exchange) (s : BuildState) :
    Prop :=
  ∀ x ∈ s.plan, ∃ c, Call.Shown c x.sql ∧ Call.Classified ctx p t c

/-- Only views that may be written are registered. -/
def BuildState.WritableViews (p : Pipeline) (t : List Call.Exchange) (s : BuildState) : Prop :=
  ∀ name columns, s.registry.get? name = some columns →
    Writable p t name (Column.visible columns)

theorem Column.visible_visible (columns : List Column) :
    Column.visible (Column.visible columns) = Column.visible columns := by
  unfold visible
  rw [List.filter_filter]
  simp

theorem Call.Lists.ne_nil {ctx : Context} {p : Pipeline} {t : List Call.Exchange} {c : Call}
    {columns : List Column} (h : Call.Lists ctx p t c columns)
    (hs : ∀ a ∈ p.sinks, a.input ∈ p.sourceNames → ∀ view, ⟨.describe a.input, .ok view⟩ ∈ t →
      Column.visible view ≠ []) : columns ≠ [] := by
  have hinput {a : Sink} {columns : List Column} (ha : a ∈ p.sinks)
      (hw : Writable p t a.input columns) : columns ≠ [] := by
    generalize hn : a.input = name at hw
    cases hw with
    | source hm hd => exact hs a ha (hn ▸ hm) _ (hn ▸ hd)
    | transform _ _ hv => exact hv
  cases h with
  | projection _ _ hc => exact hc
  | table ha hw _ => exact hinput ha hw
  | destination ha _ hw _ => exact hinput ha hw
  | insert ha hw => exact hinput ha hw

namespace Build

variable {ctx : Context} {dryRun : Bool} {p : Pipeline} {prepared : Prepared}
  {T : List Call.Exchange} {s s' : BuildState} {t : List Call.Exchange}

open BuildState (Recorded WritableViews)

theorem recorded_add {x : Statement} {c : Call} (hx : Call.Shown c x.sql)
    (hc : Call.Classified ctx p T c) (h : Recorded ctx p T s) :
    Recorded ctx p T { s with plan := s.plan ++ [x] } := by
  intro y hy
  rcases List.mem_append.mp hy with hy | hy
  · exact h y hy
  · obtain rfl := List.mem_singleton.mp hy
    exact ⟨c, hx, hc⟩

/-! ### Views -/

section Views

variable {stage : Stage} {kind : StatementKind} {target sql : String}

/-- Before the sinks, the registry is known as well. -/
def Sound (ctx : Context) (p : Pipeline) (T : List Call.Exchange) (s : BuildState) : Prop :=
  Recorded ctx p T s ∧ WritableViews p T s

theorem sound_issue (hc : Call.Classified ctx p T (.execute sql)) :
    Keeps T (Call.Classified ctx p T) (Sound ctx p T) (Sound ctx p T)
      (issue stage kind target sql) := by
  refine keeps_issue hc fun s hs => ⟨?_, hs.2⟩
  exact recorded_add (.execute sql) hc hs.1

theorem sound_register {name : String} {columns : List Column}
    (hw : Writable p T name (Column.visible columns)) :
    Keeps T (Call.Classified ctx p T) (Sound ctx p T) (Sound ctx p T) (register name columns) := by
  refine keeps_register fun s hs => ⟨hs.1, fun other known hg => ?_⟩
  obtain ⟨rfl, rfl⟩ | ⟨-, hg⟩ := ViewRegistry.get?_add_eq_some_iff.mp hg
  · exact hw
  · exact hs.2 other known hg

theorem sound_session :
    Keeps T (Call.Classified ctx p T) (Sound ctx p T) (Sound ctx p T) (session ctx p) := by
  unfold session
  refine (keeps_forM fun e _ => sound_issue (.inl (.setting _ _))).bind fun _ => ?_
  refine (sound_issue (.inl .catalog)).bind fun _ => ?_
  exact keeps_forM fun f hf => sound_issue (.inl (.function hf))

theorem sound_source {a : Source} (ha : a ∈ p.sources) :
    Keeps T (Call.Classified ctx p T) (Sound ctx p T) (Sound ctx p T) (source ctx a) := by
  refine (sound_issue (.inl (.source ha))).bind fun _ => ?_
  refine Keeps.describe_bind (.inl (.describe _)) fun columns hd => ?_
  exact sound_register (.source (List.mem_map_of_mem ha) hd)

theorem sound_transform {a : Transform} (ha : a ∈ p.transforms) (sql : String) :
    Keeps T (Call.Classified ctx p T) (Sound ctx p T) (Sound ctx p T) (transform a.name sql) := by
  refine (sound_issue (.inl (.intermediate sql ha))).bind fun _ => ?_
  refine Keeps.describe_bind (.inl (.describe _)) fun view hd => ?_
  have hn : a.name ∈ p.transformNames := List.mem_map_of_mem ha
  dsimp only
  split
  · exact keeps_throw _
  next hv =>
    have hv : Column.visible view ≠ [] := fun h => hv (by simp [h])
    have hw := Writable.transform hn hd hv
    refine (sound_issue (.inr ⟨_, .projection hn hw hv⟩)).bind fun _ => ?_
    refine sound_register ?_
    rw [Column.visible_visible]
    exact hw

theorem sound_views (hp : p.prepare = .ok prepared) :
    Keeps T (Call.Classified ctx p T) (Sound ctx p T) (Sound ctx p T) (views ctx prepared) := by
  unfold views
  rw [(Pipeline.of_prepare hp).1]
  refine sound_session.bind fun _ => ?_
  refine (keeps_forM fun a ha => sound_source ha).bind fun _ => ?_
  exact keeps_forM fun e he => sound_transform (List.of_mem_zip he).1 _

end Views

/-! ### Sinks -/

/-- The columns of a sink are what is left of its input. -/
structure Ready (p : Pipeline) (T : List Call.Exchange) (a : Sink) (l : SinkLayout) : Prop where
  sink : a ∈ p.sinks
  input : Writable p T a.input l.columns
  runtime : Column.runtimeDefs a.input l.columns = .ok l.runtimeDefs
  postgres : ∀ pg defs, a.kind = .postgres pg → l.postgresDefs = some defs →
    Column.postgresDefs a.input l.columns = .ok defs

theorem ready_of_laidOut (hd : WritableViews p T s) {a : Sink} {l : SinkLayout} (ha : a ∈ p.sinks)
    (hl : LaidOut s.registry a l) : Ready p T a l := by
  obtain ⟨view, hg, hc⟩ := hl.input
  refine ⟨ha, hc ▸ hd a.input view hg, hl.runtime, fun pg defs hk hdefs => ?_⟩
  obtain ⟨defs', hdefs', hpg⟩ := hl.postgres pg hk
  obtain rfl : defs = defs' := by simpa [hdefs] using hdefs'
  exact hpg

theorem recorded_layout (a : Sink) : Keeps T (Call.Classified ctx p T) (Recorded ctx p T)
    (Recorded ctx p T) (layout a) := by
  unfold layout
  refine (keeps_schema _).bind fun view => ?_
  refine (keeps_orThrow _ _).bind fun defs => ?_
  split
  · exact (keeps_orThrow _ _).bind fun _ => keeps_pure _
  · exact keeps_pure _

theorem recorded_executeIn {pg : PostgresSink} {database sql : String}
    (h : Call.Classified ctx p T (.executeIn pg database sql)) (wrap : String → PipelineError) :
    Keeps T (Call.Classified ctx p T) (Recorded ctx p T) (Recorded ctx p T)
      (do orThrow wrap (← ask (.executeIn pg database sql))) :=
  keeps_ask_bind h fun _ => keeps_orThrow _ _

theorem recorded_destinationOf {a : Sink} {l : SinkLayout} (h : Ready p T a l) :
    Keeps T (Call.Classified ctx p T) (Recorded ctx p T) (Recorded ctx p T)
      (destinationOf dryRun a l) := by
  unfold destinationOf
  split
  next pg defs hk hdefs =>
    have hschema : Call.Classified ctx p T
        (.executeIn pg pg.database (Sql.createSchema pg.schema)) := .inl (.schema pg)
    have htable : Call.Classified ctx p T (.executeIn pg pg.database (pg.tableStatement defs)) :=
      .inr ⟨l.columns, .destination h.sink hk h.input (h.postgres pg defs hk hdefs)⟩
    split
    · exact keeps_pure _
    · refine keeps_ask_bind (.inl (.databaseExists pg)) fun _ => ?_
      refine (keeps_orThrow _ _).bind fun found => ?_
      dsimp only
      split
      · refine keeps_ask_bind (.inl (.createDatabase pg)) fun _ => ?_
        refine (keeps_orThrow _ _).bind fun _ => ?_
        exact (recorded_executeIn hschema _).bind fun _ => recorded_executeIn htable _
      · exact (recorded_executeIn hschema _).bind fun _ => recorded_executeIn htable _
  · exact keeps_pure _

theorem recorded_sink {a : Sink} {l : SinkLayout} (h : Ready p T a l) :
    Keeps T (Call.Classified ctx p T) (Recorded ctx p T) (Recorded ctx p T)
      (sink ctx dryRun a l) := by
  have hprovision : Keeps T (Call.Classified ctx p T) (Recorded ctx p T) (Recorded ctx p T)
      (provision ctx dryRun a l) := by
    rw [provision_eq]
    have htable : Call.Classified ctx p T
        (.execute (sinkTableStatement ctx.settings a.name a.kind l.runtimeDefs)) :=
      .inr ⟨l.columns, .table h.sink h.input h.runtime⟩
    refine (recorded_destinationOf h).bind fun _ => ?_
    refine (keeps_issue htable fun s hs => recorded_add (.execute _) htable hs).bind fun _ => ?_
    exact keeps_register fun s hs => hs
  unfold sink
  refine hprovision.bind_of
    (Q := fun _ s => Recorded ctx p T s ∧ s.registry.get? a.name = some l.columns) ?_ fun _ => ?_
  · intro s t _ s' ht hs hr
    exact ⟨(hprovision _ _ _ _ ht hs hr).2, get?_of_provision hr⟩
  · -- The insert selects the columns that the sink was just registered with.
    refine ((keeps_schema _).imp (fun s hs => hs.1) fun s hs => hs).bind_of
      (Q := fun columns s => Recorded ctx p T s ∧ columns = l.columns) ?_ fun columns => ?_
    · intro s t columns s' _ hs hr
      obtain ⟨-, rfl, hg⟩ := of_schema hr
      exact ⟨hs.1, Option.some.inj (hg.symm.trans hs.2)⟩
    · refine keeps_of_fact fun hc => ?_
      subst hc
      have hinsert : Call.Classified ctx p T (.submit (insertStatement a.name a.input l.columns)) :=
        .inr ⟨l.columns, .insert h.sink h.input⟩
      refine (keeps_record fun s hs => ?_).bind fun _ => keeps_pure _
      exact recorded_add (.submit _) hinsert hs

/-! ### Submission -/

theorem recorded_submitAll (index : Nat) {inserts : List PendingInsert}
    (h : ∀ i ∈ inserts, Call.Classified ctx p T (.submit i.sql)) :
    Keeps T (Call.Classified ctx p T) (Recorded ctx p T) (Recorded ctx p T)
      (submitAll index inserts) := by
  induction inserts generalizing index with
  | nil => exact keeps_pure _
  | cons i rest ih =>
    unfold submitAll
    refine keeps_ask_bind (h i List.mem_cons_self) fun _ => ?_
    refine (keeps_orThrow _ _).bind fun handle => ?_
    refine (ih (index + 1) fun i hi => ?_).bind fun _ => keeps_pure _
    exact h i (List.mem_cons_of_mem _ hi)

theorem recorded_count (g : Handles → Handles) :
    Keeps T (Call.Classified ctx p T) (Recorded ctx p T) (Recorded ctx p T) (count g) :=
  keeps_count fun _ hs => hs

theorem recorded_acceptAll (n : Nat) (pending : List PendingJob)
    (accepted : List (Nat × JobId)) : Keeps T (Call.Classified ctx p T) (Recorded ctx p T)
      (Recorded ctx p T) (acceptAll n pending accepted) := by
  induction n generalizing pending accepted with
  | zero => exact keeps_pure _
  | succ n ih =>
    cases pending with
    | nil => exact keeps_pure _
    | cons first rest =>
      unfold acceptAll
      refine keeps_ask_bind (.inl (.nextAccepted first rest)) fun decision => ?_
      refine (recorded_count _).bind fun _ => ?_
      exact (keeps_orThrow _ _).bind fun job => ih _ _

theorem recorded_submit (pipeline : String) {inserts : List PendingInsert}
    (h : ∀ i ∈ inserts, Call.Classified ctx p T (.submit i.sql)) :
    Keeps T (Call.Classified ctx p T) (Recorded ctx p T) (Recorded ctx p T)
      (submit pipeline inserts) := by
  have hname : Call.Classified ctx p T (.execute (nameStatement pipeline)) := .inl (.setting _ _)
  refine keeps_holding (fun _ _ hs => hs) ?_
  refine (keeps_issue hname fun s hs => recorded_add (.execute _) hname hs).bind fun _ => ?_
  refine (recorded_submitAll 0 h).bind fun pending => ?_
  refine (recorded_count _).bind fun _ => ?_
  refine (recorded_acceptAll _ _ _).bind fun jobs => ?_
  refine keeps_ask_bind (.inl (.wait pipeline jobs)) fun _ => ?_
  refine (keeps_orThrow _ _).bind fun state => ?_
  cases state with
  | failed job reason => exact keeps_throw _
  | _ => exact keeps_pure _

/-- What follows the mapping of the sinks. -/
theorem recorded_finish {layouts : List SinkLayout}
    (h : ∀ e ∈ p.sinks.zip layouts, Ready p T e.1 e.2) :
    Keeps T (Call.Classified ctx p T) (Recorded ctx p T) (Recorded ctx p T)
      (finish ctx dryRun p layouts) := by
  have hsinks : Keeps T (Call.Classified ctx p T) (Recorded ctx p T) (Recorded ctx p T)
      ((p.sinks.zip layouts).mapM fun e => sink ctx dryRun e.1 e.2) :=
    keeps_mapM fun e he => recorded_sink (h e he)
  unfold finish
  refine hsinks.bind_of (Q := fun inserts s => Recorded ctx p T s ∧
    ∀ i ∈ inserts, Call.Classified ctx p T (.submit i.sql)) ?_ fun inserts => ?_
  · intro s t inserts s' ht hs hr
    refine ⟨(hsinks _ _ _ _ ht hs hr).2, fun i hi => ?_⟩
    obtain ⟨e, he, hpr⟩ := exists_mem_of_forall₂ (provisioned_of_sinks hr) hi
    rw [hpr.insert]
    exact .inr ⟨_, .insert (h e he).sink (h e he).input⟩
  · refine keeps_of_fact fun hi => ?_
    split
    · have hname : Call.Shown (.execute (nameStatement p.name)) (nameStatement p.name) := by
        have hkey : ∀ c ∈ "pipeline.name".toList, Sql.isKeyChar c = true :=
          List.all_eq_true.mp (by decide)
        have h := Call.Shown.execute (nameStatement p.name)
        unfold nameStatement at h ⊢
        rwa [redact_setStatement hkey (by decide)] at h
      refine (keeps_record fun s hs => ?_).bind fun _ => keeps_get fun s => keeps_pure _
      exact recorded_add hname (.inl (.setting _ _)) hs
    · exact (recorded_submit _ hi).bind fun done => keeps_get fun s => keeps_pure _

/-! ### Whole runs -/

theorem sound_start : Sound ctx p T .start :=
  ⟨List.forall_mem_nil _, fun _ _ hg => by cases hg⟩

theorem ready_of_layouts (hs : WritableViews p T s) {layouts : List SinkLayout}
    (h : Runs (p.sinks.mapM layout) s t (.ok layouts) s') :
    ∀ e ∈ p.sinks.zip layouts, Ready p T e.1 e.2 := by
  obtain ⟨-, -, hl⟩ := laidOut_of_layouts h
  intro e he
  refine ready_of_laidOut hs (List.of_mem_zip he).1 ?_
  exact (List.forall₂_iff_zip.mp hl).2 he

theorem recorded_run : Keeps T (Call.Classified ctx p T) (Sound ctx p T) (Recorded ctx p T)
    (run ctx dryRun p) := by
  cases hp : p.prepare with
  | error e =>
    rw [run_of_prepare_error hp]
    exact (keeps_throw e).imp (fun s hs => hs.1) fun s hs => hs
  | ok prepared =>
    have hlayouts : Keeps T (Call.Classified ctx p T) (Sound ctx p T) (Recorded ctx p T)
        (p.sinks.mapM layout) :=
      (keeps_mapM fun a _ => recorded_layout a).imp (fun s hs => hs.1) fun s hs => hs
    rw [run_eq hp]
    refine ((sound_views hp).imp (fun s hs => hs) fun s hs => hs.1).bind_of
      (Q := fun _ => Sound ctx p T) (fun _ _ _ _ ht hs hr => ?_) fun _ => ?_
    · exact (sound_views hp _ _ _ _ ht hs hr).2
    · refine hlayouts.bind_of (Q := fun layouts s => Recorded ctx p T s ∧
        ∀ e ∈ p.sinks.zip layouts, Ready p T e.1 e.2) (fun _ _ _ _ ht hs hr => ?_) fun layouts => ?_
      · exact ⟨(hlayouts _ _ _ _ ht hs hr).2, ready_of_layouts hs.2 hr⟩
      · exact keeps_of_fact recorded_finish

theorem writable_of_run {outcome : Outcome} (h : Runs (run ctx dryRun p) .start t (.ok outcome) s')
    {a : Sink} (ha : a ∈ p.sinks) : ∃ columns, Writable p t a.input columns := by
  cases hp : p.prepare with
  | error e =>
    rw [run_of_prepare_error hp] at h
    obtain ⟨-, hr, -⟩ := runs_throw_iff.mp h
    cases hr
  | ok prepared =>
    rw [run_eq hp] at h
    obtain ⟨t₁, t₂, _, s₁, rfl, hviews, h₁⟩ := runs_bind_ok_iff.mp h
    obtain ⟨t₃, t₄, layouts, s₂, rfl, hlayouts, -⟩ := runs_bind_ok_iff.mp h₁
    have hsound : Sound ctx p (t₁ ++ (t₃ ++ t₄)) s₁ :=
      (sound_views hp _ _ _ _ (List.subset_append_left _ _) sound_start hviews).2
    obtain ⟨-, -, hl⟩ := laidOut_of_layouts hlayouts
    obtain ⟨l, hl⟩ := exists_of_forall₂ hl ha
    exact ⟨_, (ready_of_laidOut hsound.2 ha hl).input⟩

/-- Whatever the collaborators answer, and however the run ends, every call and every statement of
the plan that names columns names those left of a described view: of a transform, where some are
left, or of a source that a sink reads. A run ends well only if each of its sinks reads such a view.
So no list is empty if something is left of every source that a sink reads. -/
theorem run_column_lists {r : Except PipelineError Outcome}
    (h : Runs (run ctx dryRun p) .start t r s') :
    (∀ e ∈ t, Call.Classified ctx p t e.question) ∧
    (∀ x ∈ s'.plan, ∃ c, Call.Shown c x.sql ∧ Call.Classified ctx p t c) ∧
    (∀ outcome, r = .ok outcome → ∀ a ∈ p.sinks, ∃ columns, Writable p t a.input columns) ∧
    ((∀ a ∈ p.sinks, a.input ∈ p.sourceNames → ∀ view, ⟨.describe a.input, .ok view⟩ ∈ t →
      Column.visible view ≠ []) → ∀ c columns, Call.Lists ctx p t c columns → columns ≠ []) := by
  obtain ⟨hcalls, hplan⟩ := recorded_run _ _ _ _ (List.Subset.refl t) sound_start h
  refine ⟨hcalls, hplan, ?_, ?_⟩
  · rintro outcome rfl a ha
    exact writable_of_run h ha
  · intro hs c columns hl
    exact hl.ne_nil hs

theorem run_column_lists_ordersToPostgres : ∃ t r s',
    Runs (run ⟨{}, 0⟩ false ordersToPostgres) .start t r s' ∧ r.isOk = true ∧
    (∀ e ∈ t, Call.Classified ⟨{}, 0⟩ ordersToPostgres t e.question) ∧
    (∀ x ∈ s'.plan, ∃ c, Call.Shown c x.sql ∧ Call.Classified ⟨{}, 0⟩ ordersToPostgres t c) ∧
    ∀ c columns, Call.Lists ⟨{}, 0⟩ ordersToPostgres t c columns → columns ≠ [] := by
  have hr := runs_transcript obliging (run ⟨{}, 0⟩ false ordersToPostgres) .start ()
  obtain ⟨hcalls, hplan, -, hlists⟩ := run_column_lists hr
  refine ⟨_, _, _, hr, rfl, hcalls, hplan, hlists fun a _ _ view hd => ?_⟩
  obtain ⟨_, he⟩ := Dialogue.answer_of_mem_transcript hd
  cases he
  decide

/-- Collaborators as before, but the view has a column of processing time only. -/
def clocked : (c : Call) → Unit → c.Answer × Unit
  | .describe _, u => (.ok [⟨"proc_time", .timestampLtz (some 3), true, some .procTime⟩], u)
  | c, u => obliging c u

/-- Nothing is left of the source, and yet the run of a valid document ends well. It has submitted
an insert without columns. -/
theorem run_without_columns : ∃ t r s',
    (ordersDraft "secret").validate = .ok ordersToPostgres ∧
    Runs (run ⟨{}, 0⟩ false ordersToPostgres) .start t r s' ∧ r.isOk = true ∧
    ∃ e ∈ t, e.question = .submit "INSERT INTO \x60copy\x60 SELECT  FROM \x60orders\x60" ∧
      Call.Lists ⟨{}, 0⟩ ordersToPostgres t e.question [] := by
  have hr := runs_transcript clocked (run ⟨{}, 0⟩ false ordersToPostgres) .start ()
  refine ⟨_, _, _, rfl, hr, rfl, ?_⟩
  generalize ht : Dialogue.transcript clocked
    (StateT.run (ExceptT.run (run ⟨{}, 0⟩ false ordersToPostgres)) .start) () = t
  obtain ⟨⟨_, a⟩, hview, rfl⟩ : ∃ e ∈ t, e.question = .describe "orders" := by
    subst ht
    decide +kernel
  obtain ⟨_, ha⟩ := Dialogue.answer_of_mem_transcript (ht ▸ hview)
  obtain rfl : a = .ok _ := ha
  have hw : Writable ordersToPostgres t "orders" [] := .source List.mem_cons_self hview
  obtain ⟨e, he, hc⟩ : ∃ e ∈ t, e.question =
      .submit "INSERT INTO \x60copy\x60 SELECT  FROM \x60orders\x60" := by
    subst ht
    decide +kernel
  have htext : insertStatement "copy" "orders" [] =
      "INSERT INTO \x60copy\x60 SELECT  FROM \x60orders\x60" := by decide +kernel
  refine ⟨e, he, hc, ?_⟩
  rw [hc, ← htext]
  exact .insert (a := ordersToPostgres.sinks[0]) List.mem_cons_self hw

end Build

end StreamPipeline
