import StreamPipeline.Proofs.Compile.Layouts
import StreamPipeline.Proofs.Compile.Outcomes
import StreamPipeline.Proofs.Draft.Names
import StreamPipeline.Proofs.Pipeline.Preparation
import StreamPipeline.Proofs.Statement.Objects

/-! # Objects of a run

A run creates one object of the runtime for each name that its pipeline takes, in the order of the
names, and registers its views and sinks under theirs. Where the names are pairwise different, no
view is registered twice and none is missing.
-/

namespace StreamPipeline

/-- The object that a call creates on the runtime, if it is accepted. -/
def Call.object? : Call → Option String
  | .execute sql => createdObject? sql
  | _ => none

/-- The objects of the calls of a run, in their order. -/
def created (t : List Call.Exchange) : List String := t.filterMap fun e => e.question.object?

@[simp] theorem created_nil : created [] = [] := rfl

@[simp] theorem created_append (t u : List Call.Exchange) :
    created (t ++ u) = created t ++ created u := List.filterMap_append

theorem created_singleton (e : Call.Exchange) : created [e] = e.question.object?.toList := by
  unfold created
  cases h : e.question.object? <;> simp [h]

namespace PipelineError

/-- A view is registered again, or one is asked for that nobody registered. -/
def IsClash (e : PipelineError) : Prop :=
  ∃ view, e = .config (.alreadyRegistered view) ∨ e = .config (.unknownView view)

/-- What a step reports when a collaborator did not do what it was asked, or did not give what was
needed. -/
inductive OfStep : PipelineError → Prop where
  | compile (stage : Stage) (target statement message : String) :
      OfStep (.compile stage target statement message)
  | provisioning (sink : String) (statement : Option String) (message : String) :
      OfStep (.provisioning sink statement message)
  | execution (stage : Stage) (statement : Option String) (message : String) :
      OfStep (.execution stage statement message)

theorem OfStep.not_isClash {e : PipelineError} (h : e.OfStep) : ¬ e.IsClash := by
  rintro ⟨view, rfl | rfl⟩ <;> cases h

end PipelineError

open PipelineError

namespace Build

/-! ### What a step introduces -/

/-- The exchanges `t` create the first of `objects`, and all of them if the step ends well, when it
has also registered `views`. It fails in one of the ways `F`, or over a name, but over a name only
if one of the views was taken before. -/
structure Introduced {α : Type} (F : PipelineError → Prop) (objects views : List String)
    (s : BuildState) (t : List Call.Exchange) (r : Except PipelineError α) (s' : BuildState) :
    Prop where
  created : created t <+: objects
  complete : ∀ a, r = .ok a → StreamPipeline.created t = objects
  registered : ∀ a, r = .ok a → s'.registry.names = s.registry.names ++ views
  failure : ∀ e, r = .error e → F e ∨ e.IsClash ∧ ¬ (s.registry.names ++ views).Nodup
  inStep : s'.registry.InStep

/-- What every run of a step introduces, once the views `known` are registered. -/
def Introduces {α : Type} (F : PipelineError → Prop) (known : List String) (b : Build α)
    (objects views : List String) : Prop :=
  ∀ s t r s', s.registry.InStep → known ⊆ s.registry.names → Runs b s t r s' →
    Introduced F objects views s t r s'

variable {α β : Type} {b : Build α} {f : α → Build β} {k k' o o' v v' : List String}
  {F F' : PipelineError → Prop}

theorem Introduces.mono (h : Introduces F k b o v) (hk : k ⊆ k') : Introduces F k' b o v :=
  fun _ _ _ _ hi hs => h _ _ _ _ hi (List.Subset.trans hk hs)

theorem Introduces.imp (h : Introduces F k b o v) (hF : ∀ e, F e → F' e) :
    Introduces F' k b o v := by
  intro s t r s' hi hk hr
  have i := h _ _ _ _ hi hk hr
  exact ⟨i.created, i.complete, i.registered, fun e he => (i.failure e he).imp_left (hF e),
    i.inStep⟩

theorem introduces_pure (a : α) : Introduces F k (pure a) [] [] := by
  intro s t r s' hi _ h
  obtain ⟨rfl, rfl, rfl⟩ := runs_pure_iff.mp h
  exact ⟨List.prefix_refl _, fun _ _ => rfl, fun _ _ => by simp, nofun, hi⟩

theorem introduces_throw {e : PipelineError} (he : F e) :
    Introduces F k (throw e : Build α) o v := by
  intro s t r s' hi _ h
  obtain ⟨rfl, rfl, rfl⟩ := runs_throw_iff.mp h
  refine ⟨List.nil_prefix, nofun, nofun, ?_, hi⟩
  rintro _ ⟨⟩
  exact .inl he

/-- What follows a part need only be known for the results that the part can have. -/
theorem Introduces.bind_of {P : α → Prop} (hb : Introduces F k b o v)
    (hp : ∀ s t a s', Runs b s t (.ok a) s' → P a)
    (hf : ∀ a, P a → Introduces F (k ++ v) (f a) o' v') :
    Introduces F k (b >>= f) (o ++ o') (v ++ v') := by
  intro s t r s' hi hk h
  obtain ⟨t₁, t₂, a, s₁, rfl, h₁, h₂⟩ | ⟨e, rfl, he⟩ := runs_bind_iff.mp h
  · have i₁ := hb _ _ _ _ hi hk h₁
    have hv := i₁.registered a rfl
    have hk₁ : k ++ v ⊆ s₁.registry.names := by
      rw [hv]
      exact List.append_subset.mpr
        ⟨List.Subset.trans hk (List.subset_append_left _ _), List.subset_append_right _ _⟩
    have i₂ := hf a (hp _ _ _ _ h₁) _ _ _ _ i₁.inStep hk₁ h₂
    have hfail := i₂.failure
    rw [hv, List.append_assoc] at hfail
    refine ⟨?_, fun c hc => ?_, fun c hc => ?_, hfail, i₂.inStep⟩
    · rw [created_append, i₁.complete a rfl]
      exact (List.prefix_append_right_inj o).mpr i₂.created
    · rw [created_append, i₁.complete a rfl, i₂.complete c hc]
    · rw [i₂.registered c hc, hv, List.append_assoc]
  · have i := hb _ _ _ _ hi hk he
    refine ⟨i.created.trans (List.prefix_append _ _), nofun, nofun, ?_, i.inStep⟩
    rintro _ ⟨⟩
    refine (i.failure e rfl).imp_right fun ⟨hc, hn⟩ => ⟨hc, fun hn' => hn ?_⟩
    rw [← List.append_assoc] at hn'
    exact hn'.of_append_left

theorem Introduces.bind (hb : Introduces F k b o v)
    (hf : ∀ a, Introduces F (k ++ v) (f a) o' v') :
    Introduces F k (b >>= f) (o ++ o') (v ++ v') :=
  hb.bind_of (fun _ _ _ _ _ => trivial) fun a _ => hf a

/-- A part that introduces nothing, and what follows it. -/
theorem Introduces.silent (hb : Introduces F k b [] []) (hf : ∀ a, Introduces F k (f a) o v) :
    Introduces F k (b >>= f) o v :=
  hb.bind fun a => (hf a).mono (List.subset_append_left _ _)

/-- A part, and what follows it and introduces nothing. -/
theorem Introduces.bind_silent (hb : Introduces F k b o v)
    (hf : ∀ a, Introduces F (k ++ v) (f a) [] []) : Introduces F k (b >>= f) o v := by
  simpa using hb.bind hf

theorem introduces_orThrow {ε : Type} {wrap : ε → PipelineError} {x : Except ε α}
    (h : ∀ e, x = .error e → F (wrap e)) : Introduces F k (orThrow wrap x) [] [] := by
  cases x with
  | ok a => exact introduces_pure a
  | error e => exact introduces_throw (h e rfl)

theorem introduces_ask (c : Call) : Introduces F k (ask c) c.object?.toList [] := by
  intro s t r s' hi _ h
  obtain ⟨a, rfl, rfl, rfl⟩ := runs_ask_iff.mp h
  rw [← created_singleton ⟨c, a⟩]
  exact ⟨List.prefix_refl _, fun _ _ => rfl, fun _ _ => by simp, nofun, hi⟩

theorem introduces_get {g : BuildState → Build α} (h : ∀ s, Introduces F k (g s) o v) :
    Introduces F k (get >>= g) o v :=
  fun s _ _ _ hi hk hr => h s _ _ _ _ hi hk (runs_get_bind_iff.mp hr)

theorem introduces_record (stage : Stage) (kind : StatementKind) (target sql : String) :
    Introduces F k (record stage kind target sql) [] [] := by
  intro s t r s' hi _ h
  obtain ⟨rfl, rfl, rfl⟩ := runs_record_iff.mp h
  refine ⟨List.prefix_refl _, fun _ _ => rfl, fun _ _ => ?_, nofun, hi⟩
  exact (List.append_nil _).symm

theorem introduces_count (g : Handles → Handles) : Introduces F k (count g) [] [] := by
  intro s t r s' hi _ h
  obtain ⟨rfl, rfl, rfl⟩ := runs_count_iff.mp h
  refine ⟨List.prefix_refl _, fun _ _ => rfl, fun _ _ => ?_, nofun, hi⟩
  exact (List.append_nil _).symm

theorem Introduces.holding (h : Introduces F k b o v) : Introduces F k (holding b) o v := by
  intro s t r s' hi hk hr
  obtain ⟨_, hb, rfl⟩ := runs_holding_iff.mp hr
  have i := h { s with handles := s.handles.take } _ _ _ hi hk hb
  exact ⟨i.created, i.complete, i.registered, i.failure, i.inStep⟩

theorem ofStep_refused (stage : Stage) (target statement : String) (e : RuntimeError) :
    (refused stage target statement e).OfStep := by
  cases stage <;> constructor

theorem introduces_issue {stage : Stage} {kind : StatementKind} {target sql : String}
    {object : Option String} (ho : createdObject? sql = object) :
    Introduces OfStep k (issue stage kind target sql) object.toList [] := by
  subst ho
  refine (introduces_ask (.execute sql)).bind_silent fun a => ?_
  refine (introduces_orThrow fun e _ => ?_).silent fun _ => introduces_record _ _ _ _
  exact ofStep_refused _ _ _ e

theorem introduces_describe (stage : Stage) (target view : String) :
    Introduces OfStep k (describe stage target view) [] [] := by
  refine (introduces_ask (.describe view)).silent fun a => ?_
  exact introduces_orThrow fun e _ => ofStep_refused _ _ _ e

theorem introduces_register (name : String) (columns : List Column) :
    Introduces F k (register name columns) [] [name] := by
  intro s t r s' hi _ h
  obtain ⟨rfl, ⟨hs, rfl, rfl⟩ | ⟨hs, rfl, rfl⟩⟩ := runs_register_iff.mp h
  · exact ⟨List.prefix_refl _, fun _ _ => rfl, fun _ _ => rfl, nofun, hi.add hs columns⟩
  · refine ⟨List.prefix_refl _, nofun, nofun, ?_, hi⟩
    rintro _ ⟨⟩
    refine .inr ⟨⟨name, .inl rfl⟩, fun hn => ?_⟩
    exact List.disjoint_of_nodup_append hn ((hi.listed name).mpr hs)
      (List.mem_singleton_self name)

theorem introduces_schema {name : String} (hn : name ∈ k) :
    Introduces F k (schema name) [] [] := by
  intro s t r s' hi hk h
  obtain ⟨rfl, rfl, rfl⟩ := runs_schema_iff.mp h
  obtain ⟨columns, hg⟩ := hi.exists_get? (hk hn)
  rw [hg]
  exact ⟨List.prefix_refl _, fun _ _ => rfl, fun _ _ => by simp, nofun, hi⟩

theorem introduces_forM {l : List α} {g : α → Build Unit} {each views : α → List String}
    (hg : ∀ a ∈ l, Introduces F k (g a) (each a) (views a)) :
    Introduces F k (l.forM g) (l.flatMap each) (l.flatMap views) := by
  induction l generalizing k with
  | nil => exact introduces_pure _
  | cons a l ih =>
    obtain ⟨ha, hl⟩ := List.forall_mem_cons.mp hg
    refine ha.bind fun _ => ih fun c hc => ?_
    exact (hl c hc).mono (List.subset_append_left _ _)

theorem introduces_forM_silent {l : List α} {g : α → Build Unit}
    (hg : ∀ a, Introduces F k (g a) [] []) : Introduces F k (l.forM g) [] [] := by
  have hnil : l.flatMap (fun _ => ([] : List String)) = [] :=
    List.flatMap_eq_nil_iff.mpr fun _ _ => rfl
  have h := introduces_forM (l := l) fun a _ => hg a
  rwa [hnil] at h

theorem introduces_mapM {l : List α} {g : α → Build β} {each views : α → List String}
    (hg : ∀ a ∈ l, Introduces F k (g a) (each a) (views a)) :
    Introduces F k (l.mapM g) (l.flatMap each) (l.flatMap views) := by
  induction l generalizing k with
  | nil => exact introduces_pure _
  | cons a l ih =>
    rw [List.mapM_cons]
    obtain ⟨ha, hl⟩ := List.forall_mem_cons.mp hg
    refine ha.bind fun _ => (ih fun c hc => ?_).bind_silent fun _ => introduces_pure _
    exact (hl c hc).mono (List.subset_append_left _ _)

/-! ### The phases of a run -/

variable {ctx : Context} {p : Pipeline} {prepared : Prepared}

theorem introduces_session : Introduces OfStep k (session ctx p) [] [] := by
  refine (introduces_forM_silent fun _ => introduces_issue (createdObject?_set _ _)).silent
    fun _ => ?_
  refine (introduces_issue (createdObject?_catalog _)).silent fun _ => ?_
  exact introduces_forM_silent fun f => introduces_issue (createdObject?_function f)

theorem introduces_source (a : Source) : Introduces OfStep k (source ctx a) [a.name] [a.name] := by
  refine (introduces_issue (createdObject?_source _ _ a)).bind fun _ => ?_
  exact (introduces_describe _ _ _).silent fun _ => introduces_register _ _

theorem introduces_transform (name sql : String) :
    Introduces OfStep k (transform name sql) [intermediateName name, name] [name] := by
  refine (introduces_issue (createdObject?_intermediate name sql)).bind fun _ => ?_
  refine (introduces_describe _ _ _).silent fun columns => ?_
  dsimp only
  split
  · exact introduces_throw (.compile _ _ _ _)
  · refine (introduces_issue (createdObject?_projection name _)).bind fun _ => ?_
    exact introduces_register _ _

theorem flatMap_zip_fst {γ δ ε : Type} {l : List γ} {m : List δ} (h : l.length ≤ m.length)
    (g : γ → List ε) : (l.zip m).flatMap (fun e => g e.1) = l.flatMap g := by
  have hz := List.flatMap_map (f := Prod.fst) (g := g) (l := l.zip m)
  rw [List.map_fst_zip h] at hz
  exact hz.symm

/-- Session and views introduce the views and the intermediate views of the pipeline. -/
theorem introduces_views (hp : p.prepare = .ok prepared) : Introduces OfStep k (views ctx prepared)
    (p.sourceNames ++ p.transformNames.flatMap fun n => [intermediateName n, n]) p.viewNames := by
  have hl : p.transforms.length ≤ prepared.queries.length :=
    Nat.le_of_eq (Pipeline.length_queries hp).symm
  have hsources : Introduces OfStep k (p.sources.forM (source ctx)) p.sourceNames p.sourceNames := by
    have h : Introduces OfStep k (p.sources.forM (source ctx)) (p.sources.flatMap fun a => [a.name])
        (p.sources.flatMap fun a => [a.name]) := introduces_forM fun a _ => introduces_source a
    rwa [← List.map_eq_flatMap] at h
  have htransforms {k : List String} : Introduces OfStep k ((p.transforms.zip prepared.queries).forM
      fun e => transform e.1.name e.2) (p.transformNames.flatMap fun n => [intermediateName n, n])
      p.transformNames := by
    have h := introduces_forM (k := k) (l := p.transforms.zip prepared.queries) fun e _ =>
      introduces_transform e.1.name e.2
    rw [flatMap_zip_fst hl fun t => [intermediateName t.name, t.name],
      flatMap_zip_fst hl fun t => [t.name], ← List.map_eq_flatMap] at h
    rwa [Pipeline.transformNames, List.flatMap_map]
  unfold views
  rw [(Pipeline.of_prepare hp).1]
  exact introduces_session.silent fun _ => hsources.bind fun _ => htransforms

/-- The destination of a sink is no object of the runtime. -/
theorem introduces_destination (sink : String) (pg : PostgresSink) (defs : List String) :
    Introduces OfStep k (destination sink pg defs) [] [] := by
  have hexecute (sql : String) : Introduces OfStep k (do
      orThrow (.provisioning sink (some sql)) (← ask (.executeIn pg pg.database sql))) [] [] :=
    (introduces_ask (.executeIn pg pg.database sql)).silent fun _ =>
      introduces_orThrow fun e _ => .provisioning sink _ e
  have hrest := (hexecute (Sql.createSchema pg.schema)).silent fun _ =>
    hexecute (pg.tableStatement defs)
  refine (introduces_ask (.databaseExists pg pg.database)).silent fun _ => ?_
  refine (introduces_orThrow fun e _ => .provisioning sink _ e).silent fun found => ?_
  dsimp only
  split
  · refine (introduces_ask (.createDatabase pg pg.database)).silent fun _ => ?_
    exact (introduces_orThrow fun e _ => .provisioning sink _ e).silent fun _ => hrest
  · exact hrest

theorem introduces_destinationOf (dryRun : Bool) (a : Sink) (l : SinkLayout) :
    Introduces OfStep k (destinationOf dryRun a l) [] [] := by
  unfold destinationOf
  split
  · split
    · exact introduces_pure _
    · exact introduces_destination _ _ _
  · exact introduces_pure _

/-- A sink introduces its table, and then knows it. -/
theorem introduces_sink (dryRun : Bool) (a : Sink) (l : SinkLayout) :
    Introduces OfStep k (sink ctx dryRun a l) [a.name] [a.name] := by
  have hprovision : Introduces OfStep k (provision ctx dryRun a l) [a.name] [a.name] := by
    rw [provision_eq]
    refine (introduces_destinationOf _ _ _).silent fun _ => ?_
    refine (introduces_issue (createdObject?_sinkTable _ _ _ _)).bind fun _ => ?_
    exact introduces_register _ _
  refine hprovision.bind_silent fun _ => ?_
  refine (introduces_schema (by simp)).silent fun columns => ?_
  exact (introduces_record _ _ _ _).silent fun _ => introduces_pure _

/-- Mapping the sinks brings nothing, and fails over a type only. -/
theorem introduces_layouts {sinks : List Sink} (h : ∀ a ∈ sinks, a.input ∈ k) :
    Introduces (fun e => ∃ view column raw, e = .unsupportedType view column raw) k
      (sinks.mapM layout) [] [] := by
  intro s t r s' hi hk hr
  obtain ⟨rfl, rfl, ⟨-, hok⟩ | ⟨view, column, raw, -, rfl⟩⟩ :=
    runs_layouts hi (fun a ha => hk (h a ha)) hr
  · refine ⟨List.prefix_refl _, fun _ _ => rfl, fun _ _ => by simp, ?_, hi⟩
    rintro e rfl
    cases hok
  · refine ⟨List.prefix_refl _, nofun, nofun, ?_, hi⟩
    rintro _ ⟨⟩
    exact .inl ⟨view, column, raw, rfl⟩

theorem introduces_sinks {dryRun : Bool} {sinks : List Sink} {layouts : List SinkLayout}
    (hl : layouts.length = sinks.length) :
    Introduces OfStep k ((sinks.zip layouts).mapM fun e => sink ctx dryRun e.1 e.2)
      (sinks.map (·.name)) (sinks.map (·.name)) := by
  have h : Introduces OfStep k ((sinks.zip layouts).mapM fun e => sink ctx dryRun e.1 e.2)
      ((sinks.zip layouts).flatMap fun e => [e.1.name])
      ((sinks.zip layouts).flatMap fun e => [e.1.name]) :=
    introduces_mapM fun e _ => introduces_sink dryRun e.1 e.2
  rwa [flatMap_zip_fst hl.ge fun a => [a.name], ← List.map_eq_flatMap] at h

theorem introduces_submitAll (index : Nat) (inserts : List PendingInsert) :
    Introduces OfStep k (submitAll index inserts) [] [] := by
  induction inserts generalizing index k with
  | nil => exact introduces_pure _
  | cons i rest ih =>
    refine (introduces_ask (.submit i.sql)).silent fun _ => ?_
    refine (introduces_orThrow fun _ _ => .execution _ _ _).silent fun _ => ?_
    exact (ih _).silent fun _ => introduces_pure _

theorem introduces_acceptAll (n : Nat) (pending : List PendingJob)
    (accepted : List (Nat × JobId)) : Introduces OfStep k (acceptAll n pending accepted) [] [] := by
  induction n generalizing pending accepted k with
  | zero => exact introduces_pure _
  | succ n ih =>
    cases pending with
    | nil => exact introduces_pure _
    | cons first rest =>
      refine (introduces_ask (.nextAccepted first rest)).silent fun decision => ?_
      refine (introduces_count _).silent fun _ => ?_
      refine (introduces_orThrow fun _ _ => .execution _ _ _).silent fun _ => ?_
      exact ih _ _

theorem introduces_submit (pipeline : String) (inserts : List PendingInsert) :
    Introduces OfStep k (submit pipeline inserts) [] [] := by
  unfold submit
  refine .holding ((introduces_issue (createdObject?_set _ _)).silent fun _ => ?_)
  refine (introduces_submitAll _ _).silent fun pending => ?_
  refine (introduces_count _).silent fun _ => ?_
  refine (introduces_acceptAll _ _ _).silent fun jobs => ?_
  refine (introduces_ask (.wait pipeline jobs)).silent fun _ => ?_
  refine (introduces_orThrow fun _ _ => .execution _ _ _).silent fun state => ?_
  split
  · exact introduces_throw (.execution _ _ _)
  · exact introduces_pure _

/-- What follows the mapping introduces the sinks. -/
theorem introduces_finish {dryRun : Bool} {layouts : List SinkLayout}
    (hl : layouts.length = p.sinks.length) :
    Introduces OfStep k (finish ctx dryRun p layouts) p.sinkNames p.sinkNames := by
  refine (introduces_sinks hl).bind_silent fun inserts => ?_
  split
  · refine (introduces_record _ _ _ _).silent fun _ => ?_
    exact introduces_get fun _ => introduces_pure _
  · refine (introduces_submit _ _).silent fun done => ?_
    exact introduces_get fun _ => introduces_pure _

theorem not_isClash_of_prepare {e : PipelineError} (h : p.prepare = .error e) : ¬ e.IsClash := by
  rintro ⟨view, rfl | rfl⟩
  all_goals
    obtain ⟨t, message, he⟩ | ⟨cause, he, hc⟩ := Pipeline.cause_of_prepare h
    · cases he
    · cases he
      cases hc

/-- A run introduces what its pipeline names. -/
theorem introduces_run (dryRun : Bool) (p : Pipeline) : Introduces (fun e => ¬ e.IsClash) []
    (run ctx dryRun p) p.objectNames (p.viewNames ++ p.sinkNames) := by
  cases hp : p.prepare with
  | error e =>
    unfold run
    rw [hp]
    exact introduces_throw (not_isClash_of_prepare hp)
  | ok prepared =>
    have hlayouts : Introduces (fun e => ¬ e.IsClash) ([] ++ p.viewNames) (p.sinks.mapM layout)
        [] [] := by
      refine (introduces_layouts (Pipeline.inputs_of_prepare hp)).imp ?_
      rintro e ⟨view, column, raw, rfl⟩ ⟨_, he | he⟩ <;> cases he
    rw [run_eq hp]
    refine ((introduces_views hp).imp fun _ => OfStep.not_isClash).bind fun _ => ?_
    refine hlayouts.bind_of (P := fun layouts => layouts.length = p.sinks.length) ?_
      fun layouts hl => (introduces_finish hl).imp fun _ => OfStep.not_isClash
    intro s t layouts s' h
    exact length_of_layouts h

/-- Whatever the collaborators answer, a run of a valid document creates objects of pairwise
different names: the first ones that its pipeline takes, and all of them if it ends well. It never
fails because a view is registered twice or is unknown. -/
theorem run_objects {d : Draft} (hd : d.validate = .ok p) {dryRun : Bool} {t : List Call.Exchange}
    {r : Except PipelineError Outcome} {s' : BuildState}
    (h : Runs (run ctx dryRun p) .start t r s') :
    created t <+: p.objectNames ∧ (r.isOk = true → created t = p.objectNames) ∧
      (created t).Nodup ∧ ∀ view, r ≠ .error (.config (.alreadyRegistered view)) ∧
        r ≠ .error (.config (.unknownView view)) := by
  have hi := introduces_run dryRun p _ _ _ _ .empty (List.nil_subset _) h
  have hn := (Draft.nodup_objectNames hd).sublist hi.created.sublist
  have hviews : (BuildState.start.registry.names ++ (p.viewNames ++ p.sinkNames)).Nodup :=
    Draft.nodup_names hd
  have hfail : ∀ e, r = .error e → ¬ e.IsClash := fun e he =>
    (hi.failure e he).resolve_right fun hc => hc.2 hviews
  refine ⟨hi.created, fun hr => ?_, hn, fun view => ⟨?_, ?_⟩⟩
  · cases r with
    | error e => cases hr
    | ok outcome => exact hi.complete outcome rfl
  · exact fun he => hfail _ he ⟨view, .inl rfl⟩
  · exact fun he => hfail _ he ⟨view, .inr rfl⟩

theorem run_objects_windowedToTwoSinks : ∃ p t r s',
    Draft.windowedToTwoSinks.validate = .ok p ∧ Runs (run ⟨{}, 0⟩ false p) .start t r s' ∧
    r.isOk = true ∧ created t = ["events", "big_tmp", "big", "out", "store"] ∧
    (created t).Nodup ∧ ∀ view, r ≠ .error (.config (.alreadyRegistered view)) ∧
      r ≠ .error (.config (.unknownView view)) := by
  have hrun : (Draft.windowedToTwoSinks.validate.toOption.any fun p =>
      decide (p.objectNames = ["events", "big_tmp", "big", "out", "store"]) &&
        (Dialogue.answer obliging (StateT.run (ExceptT.run (run ⟨{}, 0⟩ false p))
          BuildState.start) ()).1.1.isOk) = true := by decide +kernel
  cases hp : Draft.windowedToTwoSinks.validate with
  | error e => rw [hp] at hrun; cases hrun
  | ok p =>
    rw [hp] at hrun
    obtain ⟨hn, hok⟩ := Bool.and_eq_true_iff.mp hrun
    have hr := runs_transcript obliging (run ⟨{}, 0⟩ false p) .start ()
    obtain ⟨-, hall, hnodup, hclash⟩ := run_objects hp hr
    exact ⟨p, _, _, _, rfl, hr, hok, (hall hok).trans (of_decide_eq_true hn), hnodup, hclash⟩

end Build

end StreamPipeline
