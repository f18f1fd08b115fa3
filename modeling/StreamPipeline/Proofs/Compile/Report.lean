import StreamPipeline.Proofs.Compile.DryRun
import StreamPipeline.Proofs.Pipeline.Readers

/-! # What the check reports

A run of a pipeline that the check refuses ends with the same error, and nobody is asked anything.
Otherwise the check reports the order in which a run creates the entities, each one after the views
that it reads.
-/

namespace StreamPipeline

/-! ### Dependencies -/

namespace DependencyGraph

theorem of_mem_dependencies {g : DependencyGraph} {name view : String}
    (h : view ∈ g.dependencies name) : ∃ j i, g.names[j]? = some view ∧
      g.names[i]? = some name ∧ (j, i) ∈ g.edges := by
  unfold dependencies at h
  split at h
  · cases h
  next i hi =>
    obtain ⟨j, hj, hview⟩ := List.mem_filterMap.mp h
    obtain ⟨-, hedge⟩ := List.mem_filter.mp hj
    refine ⟨j, i, hview, ?_, List.contains_iff_mem.mp hedge⟩
    obtain ⟨hlt, he, -⟩ := List.idxOf?_eq_some_iff.mp hi
    exact List.getElem?_eq_some_iff.mpr ⟨hlt, he⟩

theorem lt_of_sinkEdges {views : List String} {sinks : List Sink} {node : Nat}
    {edges : List (Nat × Nat)} (h : sinkEdges views node sinks = .ok edges) :
    ∀ e ∈ edges, e.1 < views.length := by
  induction sinks generalizing node edges with
  | nil => cases h; simp
  | cons a rest ih =>
    unfold sinkEdges at h
    split at h
    · cases h
    next k hk =>
      cases hr : sinkEdges views (node + 1) rest with
      | error e => rw [hr] at h; cases h
      | ok more =>
        rw [hr] at h
        cases h
        refine List.forall_mem_cons.mpr ⟨?_, ih hr⟩
        simpa using lastIndex?_lt hk

/-- Only views are read. -/
theorem lt_of_build {p : Pipeline} {rendered : List String} {g : DependencyGraph}
    (h : build p rendered = .ok g) : ∀ e ∈ g.edges, e.1 < p.viewNames.length := by
  obtain ⟨edges, inputs, he, hi, rfl⟩ := build_eq_ok.mp h
  intro e hm
  rcases List.mem_append.mp hm with hm | hm
  · have := allTransformEdges_forward he e hm
    simp only [Pipeline.viewNames, Pipeline.sourceNames, Pipeline.transformNames,
      List.length_append, List.length_map]
    omega
  · exact lt_of_sinkEdges hi e hm

end DependencyGraph

/-! ### The order of a plan -/

namespace StatementKind

/-- The statement gives an entity its name. -/
def creates : StatementKind → Bool
  | sourceView | transformView | sinkTable => true
  | _ => false

def createsView : StatementKind → Bool
  | sourceView | transformView => true
  | _ => false

/-- The statement is one for an entity, and not for the session. -/
def isOfEntity : StatementKind → Bool
  | sessionConfig | catalog | function => false
  | _ => true

end StatementKind

/-- The plan creates `view` before everything that it does for `reader`. -/
def CreatedBefore (plan : List Statement) (view reader : String) : Prop :=
  ∀ before e after, plan = before ++ e :: after → e.target = reader → e.kind.isOfEntity = true →
    ∃ c ∈ before, c.target = view ∧ c.kind.createsView = true

theorem prefix_of_append_eq {α : Type} {l m u v : List α} {x : α} (h : l ++ m = u ++ x :: v)
    (hx : x ∉ l) : ∃ u', u = l ++ u' ∧ m = u' ++ x :: v := by
  rcases List.append_eq_append_iff.mp h with ⟨w, rfl, rfl⟩ | ⟨w, rfl, hw⟩
  · exact ⟨w, rfl, rfl⟩
  · cases w with
    | nil => exact ⟨[], by simp, hw.symm⟩
    | cons y w =>
      obtain ⟨rfl, -⟩ := List.cons.inj hw
      simp at hx

/-- Blocks under pairwise different names: what is in front of an element of one block has all
blocks that come before that. -/
theorem subset_of_blocks {κ : Type} {l : List (String × List (κ × String))}
    {u v w : List (κ × String)} {x : κ × String} {m : String} {i j : Nat}
    (hown : ∀ e ∈ l, ∀ k ∈ e.2, k.2 = e.1) (hn : (l.map (·.1)).Nodup) (hij : j < i)
    (hi : (l.map (·.1))[i]? = some x.2) (hj : (l.map (·.1))[j]? = some m)
    (h : l.flatMap (·.2) ++ w = u ++ x :: v) : ∃ b, (m, b) ∈ l ∧ b ⊆ u := by
  induction l generalizing u i j with
  | nil => cases hj
  | cons e l ih =>
    obtain ⟨hown, hrest⟩ := List.forall_mem_cons.mp hown
    obtain ⟨hne, hn⟩ := List.nodup_cons.mp hn
    cases i with
    | zero => cases hij
    | succ i =>
      have hi : (l.map (·.1))[i]? = some x.2 := hi
      have hx : x ∉ e.2 := by
        intro hm
        have hmem := List.mem_of_getElem? hi
        rw [hown x hm] at hmem
        exact hne hmem
      rw [List.flatMap_cons, List.append_assoc] at h
      obtain ⟨u, rfl, hu⟩ := prefix_of_append_eq h hx
      cases j with
      | zero =>
        cases hj
        exact ⟨e.2, by simp, List.subset_append_left _ _⟩
      | succ j =>
        obtain ⟨b, hb, hsub⟩ := ih hrest hn (Nat.lt_of_succ_lt_succ hij) hi hj hu
        exact ⟨b, List.mem_cons_of_mem _ hb, List.subset_append_of_subset_right _ hsub⟩

namespace Pipeline

/-- The statements of each entity. -/
def blocks (p : Pipeline) : List (String × List (StatementKind × String)) :=
  p.sourceNames.map (fun n => (n, [(.sourceView, n)]))
    ++ (p.transformNames.map (fun n => (n, transformOutline n))
      ++ p.sinkNames.map fun n => (n, sinkOutline n))

variable {settings : Settings} {p : Pipeline}

theorem outline_eq : p.outline settings = p.sessionOutline settings ++ p.blocks.flatMap (·.2) := by
  simp only [outline, viewsOutline, blocks, List.flatMap_append, List.flatMap_map,
    List.append_assoc]
  rw [← List.map_eq_flatMap]

theorem map_fst_blocks : p.blocks.map (·.1) = p.viewNames ++ p.sinkNames := by
  simp [blocks, viewNames, Function.comp_def]

theorem own_of_mem_blocks : ∀ e ∈ p.blocks, ∀ k ∈ e.2, k.2 = e.1 := by
  intro e he k hk
  simp only [blocks, List.mem_append, List.mem_map] at he
  rcases he with ⟨n, -, rfl⟩ | ⟨n, -, rfl⟩ | ⟨n, -, rfl⟩
  · simp_all
  · simp only [transformOutline, List.mem_cons, List.not_mem_nil, or_false] at hk
    rcases hk with rfl | rfl <;> rfl
  · simp only [sinkOutline, List.mem_cons, List.not_mem_nil, or_false] at hk
    rcases hk with rfl | rfl <;> rfl

theorem kind_of_mem_sessionOutline :
    ∀ k ∈ p.sessionOutline settings, k.1.isOfEntity = false ∧ k.1.creates = false := by
  intro k hk
  simp only [sessionOutline, List.mem_append, List.mem_map, List.mem_singleton] at hk
  rcases hk with ⟨_, -, rfl⟩ | rfl | ⟨_, -, rfl⟩ <;> exact ⟨rfl, rfl⟩

/-- The entities are created in the order of their declaration. -/
theorem created_of_outline (settings : Settings) :
    ((p.outline settings).filter (·.1.creates)).map (·.2) = p.viewNames ++ p.sinkNames := by
  have hsession : (p.sessionOutline settings).filter (·.1.creates) = [] :=
    List.filter_eq_nil_iff.mpr fun k hk => by simp [(kind_of_mem_sessionOutline k hk).2]
  have hsources : (p.sourceNames.map fun n => (StatementKind.sourceView, n)).filter (·.1.creates) =
      p.sourceNames.map fun n => (.sourceView, n) := by
    refine List.filter_eq_self.mpr fun k hk => ?_
    obtain ⟨_, -, rfl⟩ := List.mem_map.mp hk
    rfl
  have htransform (n : String) :
      (transformOutline n).filter (·.1.creates) = [(.transformView, n)] := rfl
  have hsink (n : String) : (sinkOutline n).filter (·.1.creates) = [(.sinkTable, n)] := rfl
  simp only [outline, viewsOutline, List.filter_append, hsession, hsources, List.filter_flatMap,
    htransform, hsink, ← List.map_eq_flatMap, List.map_append, List.map_map, Function.comp_def,
    List.map_id', List.nil_append, viewNames]

theorem createsView_of_mem_blocks (hn : (p.viewNames ++ p.sinkNames).Nodup) {view : String}
    {b : List (StatementKind × String)} (hb : (view, b) ∈ p.blocks) (hv : view ∈ p.viewNames) :
    ∃ k ∈ b, k.2 = view ∧ k.1.createsView = true := by
  simp only [blocks, List.mem_append, List.mem_map, Prod.mk.injEq] at hb
  rcases hb with ⟨n, -, rfl, rfl⟩ | ⟨n, -, rfl, rfl⟩ | ⟨n, hs, rfl, -⟩
  · exact ⟨_, List.mem_singleton_self _, rfl, rfl⟩
  · exact ⟨(.transformView, n), by simp [transformOutline], rfl, rfl⟩
  · exact absurd hs (List.disjoint_of_nodup_append hn hv)

/-- A plan with the outline of the pipeline creates each view before the entities that are declared
after it. -/
theorem createdBefore_of_outline {plan : List Statement} {name view reader : String} {i j : Nat}
    (hn : (p.viewNames ++ p.sinkNames).Nodup)
    (hplan : plan.map Statement.purpose = p.outline settings ++ [(.sessionConfig, name)])
    (hij : j < i) (hi : (p.viewNames ++ p.sinkNames)[i]? = some reader)
    (hj : p.viewNames[j]? = some view) : CreatedBefore plan view reader := by
  rintro before e after rfl rfl he
  rw [List.map_append, List.map_cons, outline_eq, List.append_assoc] at hplan
  have hsession : e.purpose ∉ p.sessionOutline settings := by
    intro hm
    have hs : e.kind.isOfEntity = false := (kind_of_mem_sessionOutline _ hm).1
    exact Bool.false_ne_true (hs.symm.trans he)
  obtain ⟨u, hu, hblocks⟩ := prefix_of_append_eq hplan.symm hsession
  have hj' : (p.viewNames ++ p.sinkNames)[j]? = some view := by
    rw [List.getElem?_append_left (List.getElem?_eq_some_iff.mp hj).1, hj]
  rw [← map_fst_blocks] at hi hj'
  obtain ⟨b, hb, hsub⟩ :=
    subset_of_blocks own_of_mem_blocks (map_fst_blocks ▸ hn) hij hi hj' hblocks
  obtain ⟨k, hk, hview, hcreates⟩ := createsView_of_mem_blocks hn hb (List.mem_of_getElem? hj)
  have hbefore : k ∈ before.map Statement.purpose := by
    rw [hu]
    exact List.mem_append_right _ (hsub hk)
  obtain ⟨c, hc, rfl⟩ := List.mem_map.mp hbefore
  exact ⟨c, hc, hview, hcreates⟩

/-! ### The report -/

theorem filterMap_entityName?_entities :
    p.entities.filterMap p.entityName? = p.viewNames ++ p.sinkNames := by
  have hall {α : Type} (l : List α) (name : α → String) (place : Nat → Entity)
      (h : ∀ i, p.entityName? (place i) = (l.map name)[i]?) :
      ((List.range l.length).map place).filterMap p.entityName? = l.map name := by
    have hnames := DependencyGraph.filterMap_range_getElem? (l.map name)
    rw [List.length_map] at hnames
    rw [List.filterMap_map, ← hnames]
    exact congrFun (congrArg _ (funext h)) _
  rw [entities, List.filterMap_append, List.filterMap_append,
    hall p.sources (·.name) .source fun _ => rfl,
    hall p.transforms (·.name) .transform fun _ => rfl,
    hall p.sinks (·.name) .sink fun _ => rfl]
  rfl

theorem prepare_of_check_error {e : PipelineError} (h : p.check = .error e) :
    p.prepare = .error e := by
  unfold check at h
  cases hp : p.prepare with
  | error e' => rw [hp] at h; cases h; rfl
  | ok prepared => rw [hp] at h; cases h

theorem of_check {report : CheckReport} (h : p.check = .ok report) : ∃ prepared,
    p.prepare = .ok prepared ∧ report.compileOrder = p.viewNames ++ p.sinkNames ∧
      report.dependencies =
        (p.transformNames ++ p.sinkNames).map fun n => (n, prepared.graph.dependencies n) := by
  unfold check at h
  cases hp : p.prepare with
  | error e => rw [hp] at h; cases h
  | ok prepared =>
    rw [hp] at h
    cases h
    refine ⟨prepared, rfl, ?_, rfl⟩
    dsimp only
    rw [compileOrder_of_prepare hp, filterMap_entityName?_entities]

end Pipeline

namespace Build

variable {ctx : Context} {dryRun : Bool} {p : Pipeline} {prepared : Prepared}
  {s s' : BuildState} {t : List Call.Exchange}

/-- A run of a prepared pipeline begins with the session, so it asks something. -/
theorem ne_nil_of_run (hp : p.prepare = .ok prepared) {r : Except PipelineError Outcome}
    (h : Runs (run ctx dryRun p) s t r s') : t ≠ [] := by
  have hbind {α β : Type} {b : Build α} {f : α → Build β}
      (hb : ∀ s t r s', Runs b s t r s' → t ≠ []) :
      ∀ s t r s', Runs (b >>= f) s t r s' → t ≠ [] := by
    intro s t r s' h
    obtain ⟨t₁, t₂, a, s₁, rfl, h₁, -⟩ | ⟨e, -, h₁⟩ := runs_bind_iff.mp h
    · simp [hb _ _ _ _ h₁]
    · exact hb _ _ _ _ h₁
  have hissue (stage : Stage) (kind : StatementKind) (target sql : String) :
      ∀ s t r s', Runs (issue stage kind target sql) s t r s' → t ≠ [] := by
    intro s t r s' h
    obtain ⟨rfl, -⟩ | ⟨e, rfl, -⟩ := runs_issue_iff.mp h <;> simp
  rw [run_eq_conclusion hp] at h
  exact hbind (hbind (hbind (hbind (hissue _ _ _ _)))) _ _ _ _ h

theorem purposes_of_run (hp : p.prepare = .ok prepared) {outcome : Outcome}
    (h : Runs (run ctx dryRun p) .start t (.ok outcome) s') :
    outcome.plan.map Statement.purpose =
      p.outline ctx.settings ++ [(.sessionConfig, p.name)] := by
  obtain ⟨prepared', inserts, t₁, t₂, s₁, hp', rfl, hc, hplan⟩ := plan_of_run h
  cases hp.symm.trans hp'
  have hoff := (leaves_compile hp dryRun _ _ _ _ hc).plan.map_eq
  rw [hplan, List.map_append, hoff]
  rfl

/-- What the check says of a valid document holds of each of its runs, dry or not, whatever the
collaborators answer. Where the check fails, the run ends with the same error and asks nobody
anything. Where it does not, the run asks something, and if it ends well, its plan creates the
entities in the reported order, each one after the views that are reported for it. -/
theorem run_of_check {d : Draft} (hd : d.validate = .ok p) (ctx : Context) (dryRun : Bool) :
    (∀ e, p.check = .error e → ∀ s t r s', Runs (run ctx dryRun p) s t r s' →
      t = [] ∧ r = .error e ∧ s' = s) ∧
    ∀ report, p.check = .ok report → ∀ t r s', Runs (run ctx dryRun p) .start t r s' → t ≠ [] ∧
      ∀ outcome, r = .ok outcome →
        (outcome.plan.filter (·.kind.creates)).map (·.target) = report.compileOrder ∧
        ∀ reader views, (reader, views) ∈ report.dependencies →
          ∀ view ∈ views, CreatedBefore outcome.plan view reader := by
  refine ⟨fun e he s t r s' h => ?_, fun report hr t r s' h => ?_⟩
  · unfold run at h
    rw [Pipeline.prepare_of_check_error he] at h
    exact runs_throw_iff.mp h
  · obtain ⟨prepared, hp, horder, hdeps⟩ := Pipeline.of_check hr
    refine ⟨ne_nil_of_run hp h, ?_⟩
    rintro outcome rfl
    have hplan := purposes_of_run hp h
    constructor
    · have hcreated := Pipeline.created_of_outline (p := p) ctx.settings
      rw [horder, ← hcreated]
      have hfilter := congrArg (fun l => (l.filter (·.1.creates)).map (·.2)) hplan
      simpa [List.filter_map, Function.comp_def, Statement.purpose, StatementKind.creates]
        using hfilter
    · intro reader views hm view hv
      rw [hdeps] at hm
      obtain ⟨n, -, he⟩ := List.mem_map.mp hm
      cases he
      obtain ⟨j, i, hj, hi, hedge⟩ := DependencyGraph.of_mem_dependencies hv
      obtain ⟨-, -, hg⟩ := Pipeline.of_prepare hp
      have hforward := (DependencyGraph.build_forward hg).2 _ hedge
      have hread := DependencyGraph.lt_of_build hg _ hedge
      obtain ⟨edges, inputs, -, -, hgraph⟩ := DependencyGraph.build_eq_ok.mp hg
      have hnames : prepared.graph.names = p.viewNames ++ p.sinkNames := by rw [hgraph]
      rw [hnames] at hj hi
      rw [List.getElem?_append_left hread] at hj
      exact Pipeline.createdBefore_of_outline (Draft.nodup_names hd) hplan hforward.1 hi hj

/-- A valid document with a transform that reads itself. -/
def selfReading : Draft :=
  { Draft.windowedToTwoSinks with
    transforms := [{ name := some "big", sql := some "SELECT id FROM big" }] }

theorem run_of_check_windowedToTwoSinks :
    (∃ p report t outcome s', Draft.windowedToTwoSinks.validate = .ok p ∧
      p.check = .ok report ∧ report.dependencies =
        [("big", ["events"]), ("out", ["events"]), ("store", ["big"])] ∧
      Runs (run ⟨{}, 0⟩ false p) .start t (.ok outcome) s' ∧ t ≠ [] ∧
      (outcome.plan.filter (·.kind.creates)).map (·.target) = ["events", "big", "out", "store"] ∧
      CreatedBefore outcome.plan "big" "store") ∧
    ∃ p, selfReading.validate = .ok p ∧ p.check = .error (.config (.selfReference "big")) ∧
      ∀ s t r s', Runs (run ⟨{}, 0⟩ false p) s t r s' →
        t = [] ∧ r = .error (.config (.selfReference "big")) ∧ s' = s := by
  constructor
  · let report : CheckReport := ⟨"demo", 1, 1, 2, ["events", "big", "out", "store"],
      [("big", ["events"]), ("out", ["events"]), ("store", ["big"])]⟩
    have hrun : (Draft.windowedToTwoSinks.validate.toOption.any fun p =>
        p.check.toOption == some report &&
          (Dialogue.answer obliging (StateT.run (ExceptT.run (run ⟨{}, 0⟩ false p))
            BuildState.start) ()).1.1.isOk) = true := by decide +kernel
    cases hp : Draft.windowedToTwoSinks.validate with
    | error e => rw [hp] at hrun; cases hrun
    | ok p =>
      rw [hp] at hrun
      obtain ⟨hreport, hok⟩ := Bool.and_eq_true_iff.mp hrun
      have hcheck : p.check = .ok report := by
        cases hc : p.check with
        | error e => rw [hc] at hreport; cases hreport
        | ok report' =>
          rw [hc] at hreport
          exact congrArg Except.ok (Option.some.inj (eq_of_beq hreport))
      have hr := runs_transcript obliging (run ⟨{}, 0⟩ false p) .start ()
      generalize (Dialogue.answer obliging (StateT.run (ExceptT.run (run ⟨{}, 0⟩ false p))
        BuildState.start) ()).1.1 = r at hr hok
      cases r with
      | error e => cases hok
      | ok outcome =>
        obtain ⟨hne, hplan⟩ := (run_of_check hp ⟨{}, 0⟩ false).2 report hcheck _ _ _ hr
        obtain ⟨horder, hbefore⟩ := hplan outcome rfl
        exact ⟨p, report, _, outcome, _, rfl, hcheck, rfl, hr, hne, horder,
          hbefore "store" ["big"] (by simp [report]) "big" (by simp)⟩
  · have hrun : (selfReading.validate.toOption.any fun p => match p.check with
        | .error (.config (.selfReference n)) => n == "big"
        | _ => false) = true := by decide +kernel
    cases hp : selfReading.validate with
    | error e => rw [hp] at hrun; cases hrun
    | ok p =>
      rw [hp] at hrun
      have hcheck : p.check = .error (.config (.selfReference "big")) := by
        revert hrun
        simp only [Except.toOption, Option.any_some]
        split
        next n hc => exact fun h => hc.trans (by rw [eq_of_beq h])
        next => exact fun h => by cases h
      exact ⟨p, rfl, hcheck, (run_of_check hp ⟨{}, 0⟩ false).1 _ hcheck⟩

end Build

end StreamPipeline
