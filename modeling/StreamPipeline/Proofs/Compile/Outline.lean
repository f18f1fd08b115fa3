import StreamPipeline.Proofs.Compile.Objects

/-! # What a step leaves behind

A step adds to the plan and to the registry what its outline says, or the beginning of that if it
fails. Every statement that it adds has been accepted, but for the inserts, which are only recorded.
-/

namespace StreamPipeline

/-- The list `l` became `l'`: what was added has the keys `all`, or the first of them if the work
was not done to its end. -/
def Adds {γ κ : Type} (key : γ → κ) (all : List κ) (done : Bool) (l l' : List γ) : Prop :=
  ∃ more, l' = l ++ more ∧ more.map key <+: all ∧ (done = true → more.map key = all)

namespace Adds

variable {γ κ : Type} {key : γ → κ} {all all' : List κ} {done : Bool} {l l' l'' : List γ}

theorem refl (l : List γ) : Adds key [] done l l :=
  ⟨[], (List.append_nil l).symm, List.prefix_refl _, fun _ => rfl⟩

theorem nothing (l : List γ) : Adds key all false l l :=
  ⟨[], (List.append_nil l).symm, List.nil_prefix, nofun⟩

theorem one (l : List γ) (c : γ) : Adds key [key c] done l (l ++ [c]) :=
  ⟨[c], rfl, List.prefix_refl _, fun _ => rfl⟩

theorem append (h : Adds key all true l l') (h' : Adds key all' done l' l'') :
    Adds key (all ++ all') done l l'' := by
  obtain ⟨more, rfl, -, hall⟩ := h
  obtain ⟨more', rfl, hp, hall'⟩ := h'
  refine ⟨more ++ more', List.append_assoc _ _ _, ?_, fun hd => ?_⟩
  · rw [List.map_append, hall rfl]
    exact (List.prefix_append_right_inj all).mpr hp
  · rw [List.map_append, hall rfl, hall' hd]

theorem weaken (h : Adds key all false l l') : Adds key (all ++ all') false l l' := by
  obtain ⟨more, rfl, hp, -⟩ := h
  exact ⟨more, rfl, hp.trans (List.prefix_append _ _), nofun⟩

theorem map_eq (h : Adds key all true l l') : l'.map key = l.map key ++ all := by
  obtain ⟨more, rfl, -, hall⟩ := h
  rw [List.map_append, hall rfl]

theorem map_prefix (h : Adds key all done l l') : l'.map key <+: l.map key ++ all := by
  obtain ⟨more, rfl, hp, -⟩ := h
  rw [List.map_append]
  exact (List.prefix_append_right_inj _).mpr hp

theorem eq_of_nil (h : Adds key [] done l l') : l' = l := by
  obtain ⟨more, rfl, hp, -⟩ := h
  rw [List.map_eq_nil_iff.mp (List.prefix_nil.mp hp), List.append_nil]

/-- Where no key of a kind is added, nothing of that kind is. -/
theorem filter_eq (h : Adds key all done l l') {q : κ → Bool} (hq : ∀ k ∈ all, q k = false) :
    l'.filter (fun c => q (key c)) = l.filter fun c => q (key c) := by
  obtain ⟨more, rfl, hp, -⟩ := h
  have hm : more.filter (fun c => q (key c)) = [] := by
    refine List.filter_eq_nil_iff.mpr fun c hc => ?_
    simp [hq _ (hp.subset (List.mem_map_of_mem hc))]
  rw [List.filter_append, hm, List.append_nil]

end Adds

def Outcome.plan : Outcome → List Statement
  | .dryRun plan => plan
  | .run plan _ _ => plan

/-- The entity of a statement, and what the statement does for it. -/
def Statement.purpose (e : Statement) : StatementKind × String := (e.kind, e.target)

def Statement.isInsert (e : Statement) : Bool := e.kind == .insert

/-- The texts of the plan, without the inserts. -/
def BuildState.executed (s : BuildState) : List String :=
  (s.plan.filter fun e => !e.isInsert).map (·.sql)

def BuildState.inserts (s : BuildState) : List Statement := s.plan.filter (·.isInsert)

def Call.accepted? : (c : Call) → c.Answer → Option String
  | .execute sql, a => ((a : Except RuntimeError Unit).toOption).map fun _ => sql
  | _, _ => none

/-- The statements that the runtime has executed, in their order. -/
def accepted (t : List Call.Exchange) : List String :=
  t.filterMap fun e => e.question.accepted? e.answer

@[simp] theorem accepted_nil : accepted [] = [] := rfl

@[simp] theorem accepted_append (t u : List Call.Exchange) :
    accepted (t ++ u) = accepted t ++ accepted u := List.filterMap_append

theorem mem_accepted_iff {sql : String} {t : List Call.Exchange} :
    sql ∈ accepted t ↔ ⟨.execute sql, .ok ()⟩ ∈ t := by
  unfold accepted
  rw [List.mem_filterMap]
  constructor
  · rintro ⟨⟨c, a⟩, he, h⟩
    cases c with
    | execute text =>
      cases a with
      | error e => cases h
      | ok => cases h; exact he
    | _ => cases h
  · exact fun h => ⟨_, h, rfl⟩

def transformOutline (name : String) : List (StatementKind × String) :=
  [(.intermediateView, name), (.transformView, name)]

def sinkOutline (name : String) : List (StatementKind × String) :=
  [(.sinkTable, name), (.insert, name)]

namespace Pipeline

def sessionOutline (settings : Settings) (p : Pipeline) : List (StatementKind × String) :=
  p.sessionSettings.map (fun e => (.sessionConfig, e.1))
    ++ ([(.catalog, settings.catalog)] ++ settings.functions.map fun f => (.function, f.name))

def viewsOutline (settings : Settings) (p : Pipeline) : List (StatementKind × String) :=
  p.sessionOutline settings ++ (p.sourceNames.map (fun n => (.sourceView, n))
    ++ p.transformNames.flatMap transformOutline)

/-- The statements that compiling the pipeline adds to the plan. -/
def outline (settings : Settings) (p : Pipeline) : List (StatementKind × String) :=
  p.viewsOutline settings ++ p.sinkNames.flatMap sinkOutline

/-- Session and views fill no sink. -/
theorem ne_insert_of_mem_viewsOutline (settings : Settings) (p : Pipeline) :
    ∀ e ∈ p.viewsOutline settings, e.1 ≠ .insert := by
  intro e he
  simp only [viewsOutline, sessionOutline, transformOutline, List.mem_append, List.mem_map,
    List.mem_flatMap, List.mem_cons, List.not_mem_nil, or_false] at he
  rcases he with (⟨_, -, rfl⟩ | rfl | ⟨_, -, rfl⟩) | ⟨_, -, rfl⟩ | ⟨_, -, rfl | rfl⟩ <;> simp

end Pipeline

namespace Build

/-- After the exchanges `t` the plan has the statements `outline` more and the registry the views
`names`, or the first of them, and no view has lost its columns. What the step executed was
accepted. -/
structure Left {α : Type} (outline : List (StatementKind × String)) (names : List String)
    (s : BuildState) (t : List Call.Exchange) (r : Except PipelineError α) (s' : BuildState) :
    Prop where
  plan : Adds Statement.purpose outline r.isOk s.plan s'.plan
  names : Adds id names r.isOk s.registry.names s'.registry.names
  known : ∀ {name columns}, s.registry.get? name = some columns →
    s'.registry.get? name = some columns
  executed : s'.executed = s.executed ++ (accepted t).map Sql.redact

/-- What every run of a step leaves behind. -/
def Leaves {α : Type} (b : Build α) (outline : List (StatementKind × String))
    (names : List String) : Prop :=
  ∀ s t r s', Runs b s t r s' → Left outline names s t r s'

variable {α β : Type} {b : Build α} {f : α → Build β} {s s' : BuildState}
  {o o' : List (StatementKind × String)} {n n' : List String} {t : List Call.Exchange}
  {r : Except PipelineError α}

theorem Left.names_eq {a : α} (h : Left o n s t (.ok a) s') :
    s'.registry.names = s.registry.names ++ n := by
  simpa using h.names.map_eq

theorem Left.names_prefix (h : Left o n s t r s') :
    s'.registry.names <+: s.registry.names ++ n := by
  simpa using h.names.map_prefix

theorem Left.inserts_eq (h : Left o n s t r s') (ho : ∀ e ∈ o, e.1 ≠ .insert) :
    s'.inserts = s.inserts := by
  refine h.plan.filter_eq (q := fun k => k.1 == .insert) fun k hk => ?_
  simpa using ho k hk

/-! ### Rules -/

/-- A step that neither changes the state nor executes anything. -/
theorem leaves_nothing (h : ∀ s t r s', Runs b s t r s' → s' = s ∧ accepted t = []) :
    Leaves b [] [] := by
  intro s t r s' hr
  obtain ⟨rfl, ht⟩ := h _ _ _ _ hr
  exact ⟨.refl _, .refl _, id, by simp [ht]⟩

theorem leaves_pure (a : α) : Leaves (pure a) [] [] :=
  leaves_nothing fun _ _ _ _ h => by
    obtain ⟨rfl, -, rfl⟩ := runs_pure_iff.mp h
    exact ⟨rfl, rfl⟩

theorem leaves_throw (e : PipelineError) : Leaves (throw e : Build α) o n := by
  intro s t r s' h
  obtain ⟨rfl, rfl, rfl⟩ := runs_throw_iff.mp h
  exact ⟨.nothing _, .nothing _, id, by simp⟩

/-- What follows a part need only be known for the results that the part can have. -/
theorem Leaves.bind_of {P : α → Prop} (hb : Leaves b o n)
    (hp : ∀ s t a s', Runs b s t (.ok a) s' → P a) (hf : ∀ a, P a → Leaves (f a) o' n') :
    Leaves (b >>= f) (o ++ o') (n ++ n') := by
  intro s t r s' h
  obtain ⟨t₁, t₂, a, s₁, rfl, h₁, h₂⟩ | ⟨e, rfl, h₁⟩ := runs_bind_iff.mp h
  · have i₁ := hb _ _ _ _ h₁
    have i₂ := hf a (hp _ _ _ _ h₁) _ _ _ _ h₂
    refine ⟨i₁.plan.append i₂.plan, i₁.names.append i₂.names, i₂.known ∘ i₁.known, ?_⟩
    rw [i₂.executed, i₁.executed, accepted_append, List.map_append, List.append_assoc]
  · have i := hb _ _ _ _ h₁
    exact ⟨i.plan.weaken, i.names.weaken, i.known, i.executed⟩

theorem Leaves.bind (hb : Leaves b o n) (hf : ∀ a, Leaves (f a) o' n') :
    Leaves (b >>= f) (o ++ o') (n ++ n') :=
  hb.bind_of (fun _ _ _ _ _ => trivial) fun a _ => hf a

/-- A part that leaves nothing, and what follows it. -/
theorem Leaves.silent (hb : Leaves b [] []) (hf : ∀ a, Leaves (f a) o n) :
    Leaves (b >>= f) o n := hb.bind hf

/-- A part, and what follows it and leaves nothing. -/
theorem Leaves.bind_silent (hb : Leaves b o n) (hf : ∀ a, Leaves (f a) [] []) :
    Leaves (b >>= f) o n := by
  simpa using hb.bind hf

theorem leaves_orThrow {ε : Type} (wrap : ε → PipelineError) (x : Except ε α) :
    Leaves (orThrow wrap x) [] [] := by
  cases x with
  | ok a => exact leaves_pure a
  | error e => exact leaves_throw _

/-- A question that no statement is executed for. -/
theorem leaves_ask {c : Call} (hc : ∀ a, c.accepted? a = none) : Leaves (ask c) [] [] :=
  leaves_nothing fun _ _ _ _ h => by
    obtain ⟨a, rfl, -, rfl⟩ := runs_ask_iff.mp h
    exact ⟨rfl, by simp [accepted, hc a]⟩

theorem leaves_issue {stage : Stage} {kind : StatementKind} {target sql : String}
    (hk : kind ≠ .insert) : Leaves (issue stage kind target sql) [(kind, target)] [] := by
  intro s t r s' h
  obtain ⟨rfl, rfl, rfl⟩ | ⟨e, rfl, rfl, rfl⟩ := runs_issue_iff.mp h
  · refine ⟨.one _ (⟨stage, kind, target, Sql.redact sql⟩ : Statement), .refl _, id, ?_⟩
    have ha : accepted [⟨.execute sql, .ok ()⟩] = [sql] := rfl
    simp [BuildState.executed, Statement.isInsert, List.filter_append, hk, ha]
  · exact ⟨.nothing _, .nothing _, id, by simp [accepted, Call.accepted?, Except.toOption]⟩

/-- Inserts are recorded and not executed. -/
theorem leaves_record_insert (stage : Stage) (target sql : String) :
    Leaves (record stage .insert target sql) [(.insert, target)] [] := by
  intro s t r s' h
  obtain ⟨rfl, rfl, rfl⟩ := runs_record_iff.mp h
  refine ⟨.one _ (⟨stage, .insert, target, sql⟩ : Statement), .refl _, id, ?_⟩
  simp [BuildState.executed, Statement.isInsert, List.filter_append]

theorem leaves_describe (stage : Stage) (target view : String) :
    Leaves (describe stage target view) [] [] :=
  (leaves_ask fun _ => rfl).silent fun _ => leaves_orThrow _ _

theorem leaves_register (name : String) (columns : List Column) :
    Leaves (register name columns) [] [name] := by
  intro s t r s' h
  obtain ⟨rfl, ⟨hn, rfl, rfl⟩ | ⟨-, rfl, rfl⟩⟩ := runs_register_iff.mp h
  · exact ⟨.refl _, .one _ name, ViewRegistry.get?_add_of_some hn, (List.append_nil _).symm⟩
  · exact ⟨.nothing _, .nothing _, id, (List.append_nil _).symm⟩

theorem leaves_schema (name : String) : Leaves (schema name) [] [] :=
  leaves_nothing fun _ _ _ _ h => by
    obtain ⟨rfl, rfl, -⟩ := runs_schema_iff.mp h
    exact ⟨rfl, rfl⟩

theorem leaves_count (g : Handles → Handles) : Leaves (count g) [] [] := by
  intro s t r s' h
  obtain ⟨rfl, rfl, rfl⟩ := runs_count_iff.mp h
  exact ⟨.refl _, .refl _, id, (List.append_nil _).symm⟩

theorem Leaves.holding (h : Leaves b o n) : Leaves (holding b) o n := by
  intro s t r s' hr
  obtain ⟨s₁, hb, rfl⟩ := runs_holding_iff.mp hr
  have i := h { s with handles := s.handles.take } _ _ _ hb
  exact ⟨i.plan, i.names, i.known, i.executed⟩

theorem leaves_forM {l : List α} {g : α → Build Unit} {each : α → List (StatementKind × String)}
    {names : α → List String} (hg : ∀ a, Leaves (g a) (each a) (names a)) :
    Leaves (l.forM g) (l.flatMap each) (l.flatMap names) := by
  induction l with
  | nil => exact leaves_pure _
  | cons a l ih => exact (hg a).bind fun _ => ih

theorem leaves_mapM {l : List α} {g : α → Build β} {each : α → List (StatementKind × String)}
    {names : α → List String} (hg : ∀ a, Leaves (g a) (each a) (names a)) :
    Leaves (l.mapM g) (l.flatMap each) (l.flatMap names) := by
  induction l with
  | nil => exact leaves_pure _
  | cons a l ih =>
    rw [List.mapM_cons]
    exact (hg a).bind fun _ => ih.bind_silent fun _ => leaves_pure _

/-- One statement of a kind for each element of a list. -/
theorem leaves_issues (l : List α) (stage : Stage) {kind : StatementKind} (hk : kind ≠ .insert)
    (target sql : α → String) : Leaves (l.forM fun a => issue stage kind (target a) (sql a))
      (l.map fun a => (kind, target a)) [] := by
  have h : Leaves (l.forM fun a => issue stage kind (target a) (sql a))
      (l.flatMap fun a => [(kind, target a)]) (l.flatMap fun _ => []) :=
    leaves_forM fun _ => leaves_issue hk
  have hnil : l.flatMap (fun _ => ([] : List String)) = [] :=
    List.flatMap_eq_nil_iff.mpr fun _ _ => rfl
  rwa [← List.map_eq_flatMap, hnil] at h

/-! ### The phases of a run -/

variable {ctx : Context} {p : Pipeline} {prepared : Prepared}

theorem leaves_session : Leaves (session ctx p) (p.sessionOutline ctx.settings) [] := by
  refine (leaves_issues _ _ (by simp) _ _).bind fun _ => ?_
  exact (leaves_issue (by simp)).bind fun _ => leaves_issues _ _ (by simp) _ _

theorem leaves_source (a : Source) : Leaves (source ctx a) [(.sourceView, a.name)] [a.name] := by
  refine (leaves_issue (by simp)).bind fun _ => ?_
  exact (leaves_describe _ _ _).silent fun _ => leaves_register _ _

theorem leaves_transform (name sql : String) :
    Leaves (transform name sql) (transformOutline name) [name] := by
  refine (leaves_issue (by simp)).bind fun _ => ?_
  refine (leaves_describe _ _ _).silent fun columns => ?_
  dsimp only
  split
  · exact leaves_throw _
  · exact (leaves_issue (by simp)).bind fun _ => leaves_register _ _

theorem leaves_views (hp : p.prepare = .ok prepared) :
    Leaves (views ctx prepared) (p.viewsOutline ctx.settings) p.viewNames := by
  have hl : p.transforms.length ≤ prepared.queries.length :=
    Nat.le_of_eq (Pipeline.length_queries hp).symm
  have hsources : Leaves (p.sources.forM (source ctx))
      (p.sourceNames.map fun n => (.sourceView, n)) p.sourceNames := by
    have h : Leaves (p.sources.forM (source ctx)) (p.sources.flatMap fun a =>
        [(.sourceView, a.name)]) (p.sources.flatMap fun a => [a.name]) := leaves_forM leaves_source
    rw [← List.map_eq_flatMap, ← List.map_eq_flatMap] at h
    rwa [Pipeline.sourceNames, List.map_map]
  have htransforms : Leaves ((p.transforms.zip prepared.queries).forM
      fun e => transform e.1.name e.2)
      (p.transformNames.flatMap transformOutline) p.transformNames := by
    have h := leaves_forM (l := p.transforms.zip prepared.queries) fun e =>
      leaves_transform e.1.name e.2
    rw [flatMap_zip_fst hl fun t => transformOutline t.name,
      flatMap_zip_fst hl fun t => [t.name], ← List.map_eq_flatMap] at h
    rwa [Pipeline.transformNames, List.flatMap_map]
  unfold views
  rw [(Pipeline.of_prepare hp).1]
  exact leaves_session.bind fun _ => hsources.bind fun _ => htransforms

theorem leaves_layout (a : Sink) : Leaves (layout a) [] [] := by
  unfold layout
  refine (leaves_schema _).silent fun _ => (leaves_orThrow _ _).silent fun _ => ?_
  split
  · exact (leaves_orThrow _ _).silent fun _ => leaves_pure _
  · exact leaves_pure _

theorem leaves_layouts (sinks : List Sink) : Leaves (sinks.mapM layout) [] [] := by
  induction sinks with
  | nil => exact leaves_pure _
  | cons a sinks ih =>
    rw [List.mapM_cons]
    exact (leaves_layout a).silent fun _ => ih.silent fun _ => leaves_pure _

/-- The destination of a sink is no statement of the runtime. -/
theorem leaves_destination (sink : String) (pg : PostgresSink) (defs : List String) :
    Leaves (destination sink pg defs) [] [] := by
  have hexecute (sql : String) : Leaves (do
      orThrow (PipelineError.provisioning sink (some sql))
        (← ask (.executeIn pg pg.database sql))) [] [] :=
    (leaves_ask fun _ => rfl).silent fun _ => leaves_orThrow _ _
  have hrest := (hexecute (Sql.createSchema pg.schema)).silent fun _ =>
    hexecute (pg.tableStatement defs)
  refine (leaves_ask fun _ => rfl).silent fun _ => (leaves_orThrow _ _).silent fun found => ?_
  dsimp only
  split
  · exact (leaves_ask fun _ => rfl).silent fun _ => (leaves_orThrow _ _).silent fun _ => hrest
  · exact hrest

theorem leaves_destinationOf (dryRun : Bool) (a : Sink) (l : SinkLayout) :
    Leaves (destinationOf dryRun a l) [] [] := by
  unfold destinationOf
  split
  · split
    · exact leaves_pure _
    · exact leaves_destination _ _ _
  · exact leaves_pure _

theorem leaves_provision (dryRun : Bool) (a : Sink) (l : SinkLayout) :
    Leaves (provision ctx dryRun a l) [(.sinkTable, a.name)] [a.name] := by
  rw [provision_eq]
  refine (leaves_destinationOf _ _ _).silent fun _ => ?_
  exact (leaves_issue (by simp)).bind fun _ => leaves_register _ _

theorem leaves_sink (dryRun : Bool) (a : Sink) (l : SinkLayout) :
    Leaves (sink ctx dryRun a l) (sinkOutline a.name) [a.name] := by
  refine (leaves_provision _ _ _).bind fun _ => (leaves_schema _).silent fun _ => ?_
  exact (leaves_record_insert _ _ _).bind_silent fun _ => leaves_pure _

theorem leaves_sinks (dryRun : Bool) {sinks : List Sink} {layouts : List SinkLayout}
    (hl : layouts.length = sinks.length) :
    Leaves ((sinks.zip layouts).mapM fun e => sink ctx dryRun e.1 e.2)
      ((sinks.map (·.name)).flatMap sinkOutline) (sinks.map (·.name)) := by
  have h : Leaves ((sinks.zip layouts).mapM fun e => sink ctx dryRun e.1 e.2)
      ((sinks.zip layouts).flatMap fun e => sinkOutline e.1.name)
      ((sinks.zip layouts).flatMap fun e => [e.1.name]) :=
    leaves_mapM fun e => leaves_sink dryRun e.1 e.2
  rw [flatMap_zip_fst hl.ge fun a => sinkOutline a.name, flatMap_zip_fst hl.ge fun a => [a.name],
    ← List.map_eq_flatMap] at h
  rwa [List.flatMap_map]

/-- A compilation leaves what its pipeline outlines. -/
theorem leaves_compile (hp : p.prepare = .ok prepared) (dryRun : Bool) :
    Leaves (compile ctx dryRun prepared) (p.outline ctx.settings) (p.viewNames ++ p.sinkNames) := by
  rw [compile_eq_views hp]
  refine (leaves_views hp).bind fun _ => ?_
  exact (leaves_layouts p.sinks).bind_of (P := fun layouts => layouts.length = p.sinks.length)
    (fun _ _ _ _ h => length_of_layouts h) fun _ hl => leaves_sinks dryRun hl

theorem leaves_submitAll (index : Nat) (inserts : List PendingInsert) :
    Leaves (submitAll index inserts) [] [] := by
  induction inserts generalizing index with
  | nil => exact leaves_pure _
  | cons i rest ih =>
    refine (leaves_ask fun _ => rfl).silent fun _ => (leaves_orThrow _ _).silent fun _ => ?_
    exact (ih _).silent fun _ => leaves_pure _

theorem leaves_acceptAll (n : Nat) (pending : List PendingJob) (accepted : List (Nat × JobId)) :
    Leaves (acceptAll n pending accepted) [] [] := by
  induction n generalizing pending accepted with
  | zero => exact leaves_pure _
  | succ n ih =>
    cases pending with
    | nil => exact leaves_pure _
    | cons first rest =>
      refine (leaves_ask fun _ => rfl).silent fun _ => ?_
      refine (leaves_count .ended).silent fun _ => ?_
      exact (leaves_orThrow _ _).silent fun _ => ih _ _

theorem leaves_submit (pipeline : String) (inserts : List PendingInsert) :
    Leaves (submit pipeline inserts) [(.sessionConfig, pipeline)] [] := by
  refine .holding ?_
  refine (leaves_issue (by simp)).bind_silent fun _ => ?_
  refine (leaves_submitAll _ _).silent fun pending => ?_
  refine (leaves_count (.spawn pending.length)).silent fun _ => ?_
  refine (leaves_acceptAll _ _ _).silent fun _ => (leaves_ask fun _ => rfl).silent fun _ => ?_
  refine (leaves_orThrow _ _).silent fun state => ?_
  split
  · exact leaves_throw _
  · exact leaves_pure _

end Build

end StreamPipeline
