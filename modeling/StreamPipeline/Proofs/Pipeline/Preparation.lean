import StreamPipeline.Proofs.Pipeline.Order

/-! # What a preparation checks

Every sink of a prepared pipeline reads a declared view. A preparation fails over a template or over
a reference, and over nothing else.
-/

namespace StreamPipeline

namespace DependencyGraph

theorem mem_of_lastIndex? {name : String} {start i : Nat} {views : List String}
    (h : lastIndex? name start views = some i) : name ∈ views := by
  induction views generalizing start with
  | nil => cases h
  | cons n rest ih =>
    simp only [lastIndex?, Option.or_eq_some_iff] at h
    rcases h with h | ⟨-, h⟩
    · exact List.mem_cons_of_mem _ (ih h)
    · split at h
      next hn => exact hn ▸ List.mem_cons_self
      · cases h

theorem inputs_of_sinkEdges {views : List String} {sinks : List Sink} {node : Nat}
    {edges : List (Nat × Nat)} (h : sinkEdges views node sinks = .ok edges) :
    ∀ a ∈ sinks, a.input ∈ views := by
  induction sinks generalizing node edges with
  | nil => simp
  | cons a rest ih =>
    unfold sinkEdges at h
    split at h
    · cases h
    next hd =>
      cases hr : sinkEdges views (node + 1) rest with
      | error e => rw [hr] at h; cases h
      | ok more => exact List.forall_mem_cons.mpr ⟨mem_of_lastIndex? hd, ih hr⟩

theorem inputs_of_build {p : Pipeline} {rendered : List String} {g : DependencyGraph}
    (h : build p rendered = .ok g) : ∀ a ∈ p.sinks, a.input ∈ p.viewNames := by
  unfold build at h
  dsimp only at h
  cases ht : allTransformEdges p.viewNames p.sources.length p.transforms rendered with
  | error e => rw [ht] at h; cases h
  | ok edges =>
    cases hs : sinkEdges p.viewNames p.viewNames.length p.sinks with
    | error e => rw [ht, hs] at h; cases h
    | ok inputs => exact inputs_of_sinkEdges hs

/-! ### Errors -/

/-- A reference to the transform itself, to a later one, or to nothing that is declared. -/
inductive BadReference : ConfigError → Prop where
  | self (transform : String) : BadReference (.selfReference transform)
  | forward (transform relation : String) : BadReference (.forwardReference transform relation)
  | input (sink input : String) : BadReference (.undeclaredInput sink input)

theorem badReference_of_transformEdges {views relations : List String} {t : String} {node : Nat}
    {e : ConfigError} (h : transformEdges views t node relations = .error e) : BadReference e := by
  induction relations with
  | nil => cases h
  | cons r rest ih =>
    unfold transformEdges at h
    split at h
    · exact ih h
    · split at h
      · cases h; exact .self t
      · split at h
        · cases h; exact .forward t r
        · cases hr : transformEdges views t node rest with
          | error e' => rw [hr] at h; cases h; exact ih hr
          | ok more => rw [hr] at h; cases h

theorem badReference_of_allTransformEdges {views rendered : List String}
    {transforms : List Transform} {node : Nat} {e : ConfigError}
    (h : allTransformEdges views node transforms rendered = .error e) : BadReference e := by
  induction transforms generalizing node rendered with
  | nil => cases h
  | cons t transforms ih =>
    cases rendered with
    | nil => cases h
    | cons sql rendered =>
      unfold allTransformEdges at h
      cases ht : transformEdges views t.name node (Sql.referencedRelations sql) with
      | error e' => rw [ht] at h; cases h; exact badReference_of_transformEdges ht
      | ok own =>
        cases hr : allTransformEdges views (node + 1) transforms rendered with
        | error e' => rw [ht, hr] at h; cases h; exact ih hr
        | ok more => rw [ht, hr] at h; cases h

theorem badReference_of_sinkEdges {views : List String} {sinks : List Sink} {node : Nat}
    {e : ConfigError} (h : sinkEdges views node sinks = .error e) : BadReference e := by
  induction sinks generalizing node with
  | nil => cases h
  | cons a rest ih =>
    unfold sinkEdges at h
    split at h
    · cases h; exact .input a.name a.input
    · cases hr : sinkEdges views (node + 1) rest with
      | error e' => rw [hr] at h; cases h; exact ih hr
      | ok more => rw [hr] at h; cases h

theorem badReference_of_build {p : Pipeline} {rendered : List String} {e : ConfigError}
    (h : build p rendered = .error e) : BadReference e := by
  unfold build at h
  dsimp only at h
  cases ht : allTransformEdges p.viewNames p.sources.length p.transforms rendered with
  | error e' => rw [ht] at h; cases h; exact badReference_of_allTransformEdges ht
  | ok edges =>
    cases hs : sinkEdges p.viewNames p.viewNames.length p.sinks with
    | error e' => rw [ht, hs] at h; cases h; exact badReference_of_sinkEdges hs
    | ok inputs => rw [ht, hs] at h; cases h

end DependencyGraph

namespace Pipeline

variable {p : Pipeline} {prepared : Prepared}

theorem inputs_of_prepare (h : p.prepare = .ok prepared) : ∀ a ∈ p.sinks, a.input ∈ p.viewNames :=
  DependencyGraph.inputs_of_build (of_prepare h).2.2

theorem template_of_renderTransforms {transforms : List Transform} {e : PipelineError}
    (h : renderTransforms transforms = .error e) : ∃ t message, e = .template t message := by
  unfold renderTransforms at h
  induction transforms with
  | nil => cases h
  | cons t transforms ih =>
    rw [List.mapM_cons] at h
    cases hq : t.query with
    | error e' =>
      rw [hq] at h
      cases h
      unfold Transform.query at hq
      split at hq
      · cases hq
      · split at hq
        · cases hq
        · cases hq; exact ⟨_, _, rfl⟩
    | ok sql =>
      cases hr : transforms.mapM Transform.query with
      | error e' => rw [hq, hr] at h; cases h; exact ih hr
      | ok rest => rw [hq, hr] at h; cases h

theorem cause_of_prepare {e : PipelineError} (h : p.prepare = .error e) :
    (∃ t message, e = .template t message) ∨
      ∃ cause, e = .config cause ∧ DependencyGraph.BadReference cause := by
  unfold prepare at h
  cases hq : renderTransforms p.transforms with
  | error e' =>
    rw [hq] at h
    cases h
    exact .inl (template_of_renderTransforms hq)
  | ok queries =>
    cases hg : DependencyGraph.build p queries with
    | error cause =>
      simp only [hq, hg, bind, Except.bind, throw, throwThe, MonadExceptOf.throw,
        Except.error.injEq] at h
      exact .inr ⟨cause, h.symm, DependencyGraph.badReference_of_build hg⟩
    | ok graph => simp [hq, hg, bind, Except.bind, pure, Except.pure] at h

end Pipeline

end StreamPipeline
