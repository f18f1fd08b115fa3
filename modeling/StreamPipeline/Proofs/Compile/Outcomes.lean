import StreamPipeline.Proofs.Compile.Runs
import StreamPipeline.Proofs.Compile.Sequence

/-! # Steps of a compilation

What was exchanged and what is registered after a step of a compilation that ended well. However a
step ends, nothing that was there is lost.
-/

namespace StreamPipeline

namespace Build

variable {ctx : Context} {s s' : BuildState} {t : List Call.Exchange}

theorem of_issue {stage : Stage} {kind : StatementKind} {target sql : String}
    (h : Runs (issue stage kind target sql) s t (.ok ()) s') :
    t = [⟨.execute sql, .ok ()⟩] ∧ s'.registry = s.registry := by
  obtain ⟨rfl, -, rfl⟩ | ⟨e, -, hr, -⟩ := runs_issue_iff.mp h
  · exact ⟨rfl, rfl⟩
  · cases hr

theorem of_describe {stage : Stage} {target view : String} {columns : List Column}
    (h : Runs (describe stage target view) s t (.ok columns) s') :
    t = [⟨.describe view, .ok columns⟩] ∧ s' = s := by
  obtain ⟨a, rfl, hr, rfl⟩ := runs_describe_iff.mp h
  cases a with
  | error e => cases hr
  | ok a => cases hr; exact ⟨rfl, rfl⟩

theorem of_register {name : String} {columns : List Column}
    (h : Runs (register name columns) s t (.ok ()) s') : t = [] ∧
      s.registry.get? name = none ∧ s'.registry = s.registry.add name columns := by
  obtain ⟨rfl, ⟨hn, -, rfl⟩ | ⟨-, hr, -⟩⟩ := runs_register_iff.mp h
  · exact ⟨rfl, hn, rfl⟩
  · cases hr

theorem of_source {a : Source} (h : Runs (source ctx a) s t (.ok ()) s') : ∃ columns,
    ⟨.describe a.name, .ok columns⟩ ∈ t ∧ s'.registry = s.registry.add a.name columns := by
  obtain ⟨_, _, _, s₁, rfl, hi, h₁⟩ := runs_bind_ok_iff.mp h
  obtain ⟨_, _, columns, s₂, rfl, hd, h₂⟩ := runs_bind_ok_iff.mp h₁
  obtain ⟨rfl, hr⟩ := of_issue hi
  obtain ⟨rfl, rfl⟩ := of_describe hd
  obtain ⟨rfl, -, hv⟩ := of_register h₂
  exact ⟨columns, by simp, by rw [hv, hr]⟩

theorem of_transform {name sql : String} (h : Runs (transform name sql) s t (.ok ()) s') :
    ∃ columns, ⟨.describe (intermediateName name), .ok columns⟩ ∈ t ∧
      s'.registry = s.registry.add name (Column.visible columns) := by
  obtain ⟨_, _, _, s₁, rfl, hi, h₁⟩ := runs_bind_ok_iff.mp h
  obtain ⟨_, _, columns, s₂, rfl, hd, h₂⟩ := runs_bind_ok_iff.mp h₁
  obtain ⟨rfl, hr⟩ := of_issue hi
  obtain ⟨rfl, rfl⟩ := of_describe hd
  dsimp only at h₂
  split at h₂
  · obtain ⟨-, h, -⟩ := runs_throw_iff.mp h₂
    cases h
  · obtain ⟨_, _, _, s₃, rfl, hj, h₃⟩ := runs_bind_ok_iff.mp h₂
    obtain ⟨rfl, hq⟩ := of_issue hj
    obtain ⟨rfl, -, hv⟩ := of_register h₃
    exact ⟨columns, by simp, by rw [hv, hq, hr]⟩

theorem of_schema {name : String} {columns : List Column}
    (h : Runs (schema name) s t (.ok columns) s') :
    t = [] ∧ s' = s ∧ s.registry.get? name = some columns := by
  obtain ⟨rfl, rfl, hr⟩ := runs_schema_iff.mp h
  refine ⟨rfl, rfl, ?_⟩
  cases hg : s'.registry.get? name with
  | none => rw [hg] at hr; cases hr
  | some c => rw [hg] at hr; cases hr; rfl

/-- A part that only computes. -/
theorem of_orThrow {ε α : Type} {wrap : ε → PipelineError} {x : Except ε α} {a : α}
    (h : Runs (orThrow wrap x) s t (.ok a) s') : t = [] ∧ s' = s ∧ x = .ok a := by
  obtain ⟨rfl, hr, rfl⟩ := runs_orThrow_iff.mp h
  cases x with
  | error e => cases hr
  | ok b => cases hr; exact ⟨rfl, rfl, rfl⟩

/-! ### Sinks -/

/-- The columns of a sink are those of its input without processing time, each with a definition. -/
structure LaidOut (r : ViewRegistry) (a : Sink) (l : SinkLayout) : Prop where
  input : ∃ view, r.get? a.input = some view ∧ l.columns = Column.visible view
  runtime : Column.runtimeDefs a.input l.columns = .ok l.runtimeDefs
  postgres : ∀ pg, a.kind = .postgres pg → ∃ defs, l.postgresDefs = some defs ∧
    Column.postgresDefs a.input l.columns = .ok defs

theorem of_layout {a : Sink} {l : SinkLayout} (h : Runs (layout a) s t (.ok l) s') :
    t = [] ∧ s' = s ∧ LaidOut s.registry a l := by
  unfold layout at h
  obtain ⟨_, _, view, _, rfl, hs, h₁⟩ := runs_bind_ok_iff.mp h
  obtain ⟨rfl, rfl, hg⟩ := of_schema hs
  obtain ⟨_, _, defs, _, rfl, hd, h₂⟩ := runs_bind_ok_iff.mp h₁
  obtain ⟨rfl, rfl, hruntime⟩ := of_orThrow hd
  split at h₂
  · obtain ⟨_, _, postgresDefs, _, rfl, hp, h₃⟩ := runs_bind_ok_iff.mp h₂
    obtain ⟨rfl, rfl, hpostgres⟩ := of_orThrow hp
    obtain ⟨rfl, hl, rfl⟩ := runs_pure_iff.mp h₃
    cases hl
    exact ⟨rfl, rfl, ⟨view, hg, rfl⟩, hruntime, fun _ _ => ⟨postgresDefs, rfl, hpostgres⟩⟩
  next hk =>
    obtain ⟨rfl, hl, rfl⟩ := runs_pure_iff.mp h₂
    cases hl
    exact ⟨rfl, rfl, ⟨view, hg, rfl⟩, hruntime, fun pg hpg => absurd hpg (hk pg)⟩

theorem of_executeIn {pg : PostgresSink} {database sql : String} {wrap : String → PipelineError}
    (h : Runs (do orThrow wrap (← ask (.executeIn pg database sql))) s t (.ok ()) s') :
    t = [⟨.executeIn pg database sql, .ok ()⟩] ∧ s' = s := by
  obtain ⟨a, _, rfl, h₁⟩ := runs_ask_bind_iff.mp h
  obtain ⟨rfl, rfl, rfl⟩ := of_orThrow h₁
  exact ⟨rfl, rfl⟩

theorem of_destination {sink : String} {pg : PostgresSink} {defs : List String}
    (h : Runs (destination sink pg defs) s t (.ok ()) s') :
    s' = s ∧ ⟨.executeIn pg pg.database (pg.tableStatement defs), .ok ()⟩ ∈ t := by
  have hrest {t : List Call.Exchange} {s : BuildState} (h : Runs (do
      orThrow (.provisioning sink (some (Sql.createSchema pg.schema)))
        (← ask (.executeIn pg pg.database (Sql.createSchema pg.schema)))
      orThrow (.provisioning sink (some (pg.tableStatement defs)))
        (← ask (.executeIn pg pg.database (pg.tableStatement defs)))) s t (.ok ()) s') :
      s' = s ∧ ⟨.executeIn pg pg.database (pg.tableStatement defs), .ok ()⟩ ∈ t := by
    obtain ⟨_, _, rfl, h₁⟩ := runs_ask_bind_iff.mp h
    obtain ⟨_, _, _, _, rfl, ho, h₂⟩ := runs_bind_ok_iff.mp h₁
    obtain ⟨rfl, rfl, -⟩ := of_orThrow ho
    obtain ⟨rfl, rfl⟩ := of_executeIn h₂
    exact ⟨rfl, by simp⟩
  obtain ⟨_, _, rfl, h₁⟩ := runs_ask_bind_iff.mp h
  obtain ⟨_, _, found, _, rfl, hf, h₂⟩ := runs_bind_ok_iff.mp h₁
  obtain ⟨rfl, rfl, -⟩ := of_orThrow hf
  cases found with
  | true =>
    obtain ⟨hs, hm⟩ := hrest h₂
    exact ⟨hs, by simp [hm]⟩
  | false =>
    obtain ⟨_, _, rfl, h₃⟩ := runs_ask_bind_iff.mp h₂
    obtain ⟨_, _, _, _, rfl, hc, h₄⟩ := runs_bind_ok_iff.mp h₃
    obtain ⟨rfl, rfl, -⟩ := of_orThrow hc
    obtain ⟨hs, hm⟩ := hrest h₄
    exact ⟨hs, by simp [hm]⟩

theorem of_destinationOf {dryRun : Bool} {a : Sink} {l : SinkLayout}
    (h : Runs (destinationOf dryRun a l) s t (.ok ()) s') :
    s' = s ∧ (dryRun = false → ∀ pg defs, a.kind = .postgres pg → l.postgresDefs = some defs →
      ⟨.executeIn pg pg.database (pg.tableStatement defs), .ok ()⟩ ∈ t) := by
  unfold destinationOf at h
  split at h
  next pg defs hk hd =>
    split at h
    next hb =>
      obtain ⟨-, -, rfl⟩ := runs_pure_iff.mp h
      exact ⟨rfl, fun hn => by simp [hn] at hb⟩
    next =>
      obtain ⟨rfl, hm⟩ := of_destination h
      refine ⟨rfl, fun _ pg' defs' hk' hd' => ?_⟩
      obtain rfl : pg = pg' := by simpa [hk] using hk'
      obtain rfl : defs = defs' := by simpa [hd] using hd'
      exact hm
  next hn =>
    obtain ⟨-, -, rfl⟩ := runs_pure_iff.mp h
    exact ⟨rfl, fun _ pg defs hk hd => absurd hd (hn pg defs hk)⟩

/-- A sink that was provisioned, with its insert. -/
structure Provisioned (ctx : Context) (dryRun : Bool) (a : Sink) (l : SinkLayout)
    (i : PendingInsert) (t : List Call.Exchange) (r : ViewRegistry) : Prop where
  output : r.get? a.name = some l.columns
  table : ⟨.execute (sinkTableStatement ctx.settings a.name a.kind l.runtimeDefs), .ok ()⟩ ∈ t
  destination : dryRun = false → ∀ pg defs, a.kind = .postgres pg → l.postgresDefs = some defs →
    ⟨.executeIn pg pg.database (pg.tableStatement defs), .ok ()⟩ ∈ t
  insert : i = ⟨a.name, insertStatement a.name a.input l.columns⟩

theorem get?_of_provision {dryRun : Bool} {a : Sink} {l : SinkLayout}
    (h : Runs (provision ctx dryRun a l) s t (.ok ()) s') :
    s'.registry.get? a.name = some l.columns := by
  rw [provision_eq] at h
  obtain ⟨_, _, _, _, rfl, -, h₁⟩ := runs_bind_ok_iff.mp h
  obtain ⟨_, _, _, _, rfl, -, h₂⟩ := runs_bind_ok_iff.mp h₁
  exact (of_register h₂).2.2 ▸ ViewRegistry.get?_add_self

theorem of_sink {dryRun : Bool} {a : Sink} {l : SinkLayout} {i : PendingInsert}
    (h : Runs (sink ctx dryRun a l) s t (.ok i) s') :
    Provisioned ctx dryRun a l i t s'.registry := by
  unfold sink at h
  rw [provision_eq] at h
  obtain ⟨_, _, _, _, rfl, hp, h₁⟩ := runs_bind_ok_iff.mp h
  obtain ⟨_, _, _, _, rfl, hd, h₂⟩ := runs_bind_ok_iff.mp hp
  obtain ⟨_, _, _, _, rfl, hi, h₃⟩ := runs_bind_ok_iff.mp h₂
  obtain ⟨rfl, hin⟩ := of_destinationOf hd
  obtain ⟨rfl, -⟩ := of_issue hi
  obtain ⟨rfl, -, hv⟩ := of_register h₃
  have hg := hv ▸ ViewRegistry.get?_add_self
  obtain ⟨_, _, columns, _, rfl, hs, h₄⟩ := runs_bind_ok_iff.mp h₁
  obtain ⟨rfl, rfl, hc⟩ := of_schema hs
  obtain ⟨_, _, _, _, rfl, hr, h₅⟩ := runs_bind_ok_iff.mp h₄
  obtain ⟨rfl, -, rfl⟩ := runs_record_iff.mp hr
  obtain ⟨rfl, he, rfl⟩ := runs_pure_iff.mp h₅
  cases he
  obtain rfl : columns = l.columns := Option.some.inj (hc.symm.trans hg)
  exact ⟨hg, by simp, fun hn pg defs hk hl => by simp [hin hn pg defs hk hl], rfl⟩

/-! ### What a step adds -/

variable {p : Pipeline} {prepared : Prepared}

theorem grows_session : Grows (session ctx p) := by
  refine (grows_forM fun _ => grows_issue _ _ _ _).bind fun _ => ?_
  exact (grows_issue _ _ _ _).bind fun _ => grows_forM fun _ => grows_issue _ _ _ _

theorem grows_source (a : Source) : Grows (source ctx a) :=
  (grows_issue _ _ _ _).bind fun _ => (grows_describe _ _ _).bind fun _ => grows_register _ _

theorem grows_transform (name sql : String) : Grows (transform name sql) := by
  refine (grows_issue _ _ _ _).bind fun _ => (grows_describe _ _ _).bind fun _ => ?_
  dsimp only
  split
  · exact (grows_throw _).bind fun _ => (grows_issue _ _ _ _).bind fun _ => grows_register _ _
  · exact (grows_issue _ _ _ _).bind fun _ => grows_register _ _

theorem grows_layout (a : Sink) : Grows (layout a) := by
  unfold layout
  refine (grows_schema _).bind fun _ => (grows_orThrow _ _).bind fun _ => ?_
  split
  · exact (grows_orThrow _ _).bind fun _ => grows_pure _
  · exact grows_pure _

theorem grows_destination (sink : String) (pg : PostgresSink) (defs : List String) :
    Grows (destination sink pg defs) := by
  have hrest : Grows (do
      orThrow (.provisioning sink (some (Sql.createSchema pg.schema)))
        (← ask (.executeIn pg pg.database (Sql.createSchema pg.schema)))
      orThrow (.provisioning sink (some (pg.tableStatement defs)))
        (← ask (.executeIn pg pg.database (pg.tableStatement defs)))) :=
    (grows_ask _).bind fun _ => (grows_orThrow _ _).bind fun _ =>
      (grows_ask _).bind fun _ => grows_orThrow _ _
  refine (grows_ask _).bind fun _ => (grows_orThrow _ _).bind fun found => ?_
  dsimp only
  split
  · exact (grows_ask _).bind fun _ => (grows_orThrow _ _).bind fun _ => hrest
  · exact hrest

theorem grows_destinationOf (dryRun : Bool) (a : Sink) (l : SinkLayout) :
    Grows (destinationOf dryRun a l) := by
  unfold destinationOf
  split
  · split
    · exact grows_pure _
    · exact grows_destination _ _ _
  · exact grows_pure _

theorem grows_sink (dryRun : Bool) (a : Sink) (l : SinkLayout) : Grows (sink ctx dryRun a l) := by
  unfold sink
  rw [provision_eq]
  refine Grows.bind ?_ fun _ => (grows_schema _).bind fun _ => ?_
  · refine (grows_destinationOf _ _ _).bind fun _ => ?_
    exact (grows_issue _ _ _ _).bind fun _ => grows_register _ _
  · exact (grows_record _ _ _ _).bind fun _ => grows_pure _

/-- A compilation only adds to the state, also one that fails. -/
theorem grows_compile (hp : p.prepare = .ok prepared) (dryRun : Bool) :
    Grows (compile ctx dryRun prepared) := by
  rw [compile_eq hp]
  refine grows_session.bind fun _ => (grows_forM grows_source).bind fun _ => ?_
  refine (grows_forM fun _ => grows_transform _ _).bind fun _ => ?_
  exact (grows_mapM grows_layout).bind fun _ => grows_mapM fun _ => grows_sink _ _ _

/-! ### An example -/

/-- A source that flows into the table of a relational server. -/
def ordersToPostgres : Pipeline where
  name := "orders"
  specVersion := "1"
  parallelism := 1
  checkpointDir := "file:///checkpoints"
  savepointDir := "file:///savepoints"
  sources := [⟨"orders", "shop.orders", none, 1, .dataset⟩]
  transforms := []
  sinks := [⟨"copy", "orders",
    .postgres ⟨"db", 5432, ⟨"writer", "secret"⟩, "shop", "public", "orders", ["id"]⟩⟩]

/-- Collaborators that do what the example asks of them, on a server without databases. -/
def obliging : (c : Call) → Unit → c.Answer × Unit
  | .execute _, u => (.ok (), u)
  | .describe _, u =>
    (.ok [⟨"id", .bigInt, true, none⟩, ⟨"proc_time", .timestampLtz (some 3), true, none⟩], u)
  | .submit _, u =>
    (.ok ⟨"operation", "INSERT INTO \x60copy\x60 SELECT \x60id\x60 FROM \x60orders\x60"⟩, u)
  | .nextAccepted _ _, u => ((⟨0, .ok ⟨"job"⟩⟩ : Decision _), u)
  | .wait _ _, u => (.ok JobState.finished, u)
  | .databaseExists _ _, u => (.ok false, u)
  | .createDatabase _ _, u => (.ok (), u)
  | .executeIn _ _ _, u => (.ok (), u)

end Build

end StreamPipeline
