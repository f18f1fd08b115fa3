import StreamPipeline.Compile.Run
import StreamPipeline.Proofs.Pipeline.Order

/-! # The sequence of a compilation

Compiling a prepared pipeline is compiling its sources, its transforms and its sinks, each in the
order of their declaration.
-/

namespace StreamPipeline

theorem forM_range {m : Type → Type} [Monad m] [LawfulMonad m] {α : Type} {l : List α}
    {f : α → m Unit} {g : Nat → m Unit} (h : ∀ i, (hi : i < l.length) → g i = f l[i]) :
    (List.range l.length).forM g = l.forM f := by
  induction l generalizing g with
  | nil => rfl
  | cons a l ih =>
    rw [List.length_cons, List.range_succ_eq_map]
    simp only [List.forM_eq_forM, List.forM_cons]
    rw [h 0 (by simp), List.getElem_cons_zero]
    refine congrArg (f a >>= ·) (funext fun _ => ?_)
    rw [List.forM_map]
    refine ih fun i hi => ?_
    exact h (i + 1) (by simpa using hi)

theorem forM_eq_pure {m : Type → Type} [Monad m] [LawfulMonad m] {α : Type} {l : List α}
    {g : α → m Unit} (h : ∀ a ∈ l, g a = pure ()) : l.forM g = pure () := by
  induction l with
  | nil => rfl
  | cons a l ih =>
    rw [List.forM_eq_forM, List.forM_cons, h a (by simp), pure_bind]
    exact ih fun b hb => h b (by simp [hb])

namespace Build

variable {ctx : Context} {p : Pipeline} {prepared : Prepared}

theorem forM_view (h : p.prepare = .ok prepared) :
    p.entities.forM (view ctx prepared) = (do
      p.sources.forM (source ctx)
      (p.transforms.zip prepared.queries).forM fun e => transform e.1.name e.2) := by
  have hp := (Pipeline.of_prepare h).1
  have hl := Pipeline.length_queries h
  unfold Pipeline.entities
  simp only [List.forM_eq_forM, List.forM_append, List.forM_map]
  have hs : forM (List.range p.sources.length) (fun i => view ctx prepared (.source i)) =
      forM p.sources (source ctx) := by
    refine forM_range fun i hi => ?_
    simp [view, hp, hi]
  have ht : forM (List.range p.transforms.length) (fun i => view ctx prepared (.transform i)) =
      forM (p.transforms.zip prepared.queries) fun e => transform e.1.name e.2 := by
    have hz : (p.transforms.zip prepared.queries).length = p.transforms.length := by simp [hl]
    rw [← hz]
    refine forM_range fun i hi => ?_
    have hi' : i < p.transforms.length := by omega
    simp [view, hp, hi', hl ▸ hi']
  have hk : forM (List.range p.sinks.length) (fun i => view ctx prepared (.sink i)) = pure () :=
    forM_eq_pure fun _ _ => rfl
  rw [hs, ht, hk]
  simp

theorem sinksOf_append (l₁ l₂ : List Entity) :
    sinksOf p (l₁ ++ l₂) = sinksOf p l₁ ++ sinksOf p l₂ :=
  List.filterMap_append

theorem sinksOf_entities : sinksOf p p.entities = p.sinks := by
  have hs (l : List Nat) : sinksOf p (l.map .source) = [] := by simp [sinksOf]
  have ht (l : List Nat) : sinksOf p (l.map .transform) = [] := by simp [sinksOf]
  have hk : sinksOf p ((List.range p.sinks.length).map .sink) = p.sinks := by
    unfold sinksOf
    rw [List.filterMap_map]
    exact DependencyGraph.filterMap_range_getElem? p.sinks
  unfold Pipeline.entities
  rw [sinksOf_append, sinksOf_append, hs, ht, hk]
  rfl

/-- The phases of a compilation, each in the order of declaration. -/
theorem compile_eq (h : p.prepare = .ok prepared) (dryRun : Bool) :
    compile ctx dryRun prepared = (do
      session ctx p
      p.sources.forM (source ctx)
      (p.transforms.zip prepared.queries).forM fun e => transform e.1.name e.2
      let layouts ← p.sinks.mapM layout
      (p.sinks.zip layouts).mapM fun e => sink ctx dryRun e.1 e.2) := by
  unfold compile
  rw [Pipeline.compileOrder_of_prepare h, (Pipeline.of_prepare h).1]
  dsimp only
  rw [sinksOf_entities, forM_view h, bind_assoc]

/-- Everything before the sinks. -/
def views (ctx : Context) (prepared : Prepared) : Build Unit := do
  session ctx prepared.pipeline
  prepared.pipeline.sources.forM (source ctx)
  (prepared.pipeline.transforms.zip prepared.queries).forM fun e => transform e.1.name e.2

theorem compile_eq_views (h : p.prepare = .ok prepared) (dryRun : Bool) :
    compile ctx dryRun prepared = (do
      views ctx prepared
      let layouts ← p.sinks.mapM layout
      (p.sinks.zip layouts).mapM fun e => sink ctx dryRun e.1 e.2) := by
  rw [compile_eq h, views, (Pipeline.of_prepare h).1]
  simp only [bind_assoc]

/-- Everything after the sinks are mapped. -/
def finish (ctx : Context) (dryRun : Bool) (p : Pipeline) (layouts : List SinkLayout) :
    Build Outcome := do
  let inserts ← (p.sinks.zip layouts).mapM fun e => sink ctx dryRun e.1 e.2
  if dryRun then
    record .submit .sessionConfig p.name (nameStatement p.name)
    return .dryRun (← get).plan
  else
    let (jobs, state) ← submit p.name inserts
    return .run (← get).plan jobs state

/-- A run of a prepared pipeline maps its sinks between the views and all that changes anything
outside. -/
theorem run_eq (h : p.prepare = .ok prepared) (dryRun : Bool) : run ctx dryRun p = (do
    views ctx prepared
    let layouts ← p.sinks.mapM layout
    finish ctx dryRun p layouts) := by
  have hrun : run ctx dryRun p = (do
      let inserts ← compile ctx dryRun prepared
      if dryRun then
        record .submit .sessionConfig p.name (nameStatement p.name)
        return .dryRun (← get).plan
      else
        let (jobs, state) ← submit p.name inserts
        return .run (← get).plan jobs state) := by
    unfold run
    rw [h]
    rfl
  rw [hrun, compile_eq_views h]
  simp only [bind_assoc, finish]

theorem run_of_prepare_error {e : PipelineError} (h : p.prepare = .error e) (dryRun : Bool) :
    run ctx dryRun p = throw e := by
  unfold run
  rw [h]
  rfl

/-- What the destination of a sink asks for, if it has one of its own. -/
def destinationOf (dryRun : Bool) (a : Sink) (l : SinkLayout) : Build Unit :=
  match a.kind, l.postgresDefs with
  | .postgres pg, some defs => if dryRun then pure () else destination a.name pg defs
  | _, _ => pure ()

theorem provision_eq (dryRun : Bool) (a : Sink) (l : SinkLayout) :
    provision ctx dryRun a l = (do
      destinationOf dryRun a l
      issue .sink .sinkTable a.name (sinkTableStatement ctx.settings a.name a.kind l.runtimeDefs)
      register a.name l.columns) := by
  obtain ⟨name, input, kind⟩ := a
  obtain ⟨columns, runtimeDefs, postgresDefs⟩ := l
  cases kind <;> cases postgresDefs <;> cases dryRun <;> rfl

end Build

end StreamPipeline
