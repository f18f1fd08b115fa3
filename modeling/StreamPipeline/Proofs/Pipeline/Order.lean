import StreamPipeline.Pipeline.Prepared

/-! # The order of compilation

Every edge of a built graph leads to an entity that is declared later. So the first entity that is
left is always ready, and the compile order is the order of declaration.
-/

namespace StreamPipeline

namespace DependencyGraph

/-- Every edge leads forward, to an entity of the graph. -/
def Forward (g : DependencyGraph) : Prop :=
  ∀ e ∈ g.edges, e.1 < e.2 ∧ e.2 < g.entities.length

theorem lastIndex?_lt {name : String} {start i : Nat} {views : List String}
    (h : lastIndex? name start views = some i) : i < start + views.length := by
  induction views generalizing start with
  | nil => cases h
  | cons n rest ih =>
    simp only [lastIndex?, Option.or_eq_some_iff] at h
    rcases h with h | ⟨-, h⟩
    · have := ih h; simp only [List.length_cons]; omega
    · split at h
      · cases h; simp
      · cases h

theorem transformEdges_forward {views relations : List String} {t : String} {node : Nat}
    {edges : List (Nat × Nat)} (h : transformEdges views t node relations = .ok edges) :
    ∀ e ∈ edges, e.1 < node ∧ e.2 = node := by
  induction relations generalizing edges with
  | nil => cases h; simp
  | cons r rest ih =>
    unfold transformEdges at h
    split at h
    · exact ih h
    next dep =>
      split at h
      · cases h
      · split at h
        · cases h
        · cases hr : transformEdges views t node rest with
          | error e => simp [hr, Except.map] at h
          | ok more =>
            simp only [hr, Except.map, Except.ok.injEq] at h
            subst h
            intro e he
            rcases List.mem_cons.mp he with rfl | he
            · exact ⟨by dsimp only; omega, rfl⟩
            · exact ih hr e he

theorem allTransformEdges_forward {views rendered : List String} {transforms : List Transform}
    {node : Nat} {edges : List (Nat × Nat)}
    (h : allTransformEdges views node transforms rendered = .ok edges) :
    ∀ e ∈ edges, e.1 < e.2 ∧ e.2 < node + transforms.length := by
  induction transforms generalizing node rendered edges with
  | nil => cases h; simp
  | cons t transforms ih =>
    cases rendered with
    | nil => cases h; simp
    | cons sql rendered =>
      unfold allTransformEdges at h
      cases ht : transformEdges views t.name node (Sql.referencedRelations sql) with
      | error e => simp [ht, bind, Except.bind] at h
      | ok own =>
        cases hr : allTransformEdges views (node + 1) transforms rendered with
        | error e => simp [ht, hr, bind, Except.bind] at h
        | ok more =>
          simp only [ht, hr, bind, Except.bind, pure, Except.pure, Except.ok.injEq] at h
          subst h
          intro e he
          simp only [List.length_cons]
          rcases List.mem_append.mp he with he | he
          · have := transformEdges_forward ht e (List.mem_eraseDups.mp he)
            omega
          · have := ih hr e he
            omega

theorem sinkEdges_forward {views : List String} {sinks : List Sink} {node : Nat}
    {edges : List (Nat × Nat)} (h : sinkEdges views node sinks = .ok edges)
    (hn : views.length ≤ node) : ∀ e ∈ edges, e.1 < e.2 ∧ e.2 < node + sinks.length := by
  induction sinks generalizing node edges with
  | nil => cases h; simp
  | cons s rest ih =>
    unfold sinkEdges at h
    split at h
    · cases h
    next dep hd =>
      cases hr : sinkEdges views (node + 1) rest with
      | error e => simp [hr, Except.map] at h
      | ok more =>
        simp only [hr, Except.map, Except.ok.injEq] at h
        subst h
        intro e he
        simp only [List.length_cons]
        rcases List.mem_cons.mp he with rfl | he
        · have := lastIndex?_lt hd
          dsimp only
          omega
        · have := ih hr (by omega) e he
          omega

theorem length_viewNames (p : Pipeline) :
    p.viewNames.length = p.sources.length + p.transforms.length := by
  simp [Pipeline.viewNames, Pipeline.sourceNames, Pipeline.transformNames]

theorem build_forward {p : Pipeline} {rendered : List String} {g : DependencyGraph}
    (h : build p rendered = .ok g) : g.entities = p.entities ∧ g.Forward := by
  unfold build at h
  cases ht : allTransformEdges p.viewNames p.sources.length p.transforms rendered with
  | error e => simp [ht, bind, Except.bind] at h
  | ok edges =>
    cases hs : sinkEdges p.viewNames p.viewNames.length p.sinks with
    | error e => simp [ht, hs, bind, Except.bind] at h
    | ok inputs =>
      simp only [ht, hs, bind, Except.bind, pure, Except.pure, Except.ok.injEq] at h
      subst h
      refine ⟨rfl, fun e he => ?_⟩
      have hl : p.entities.length = p.sources.length + p.transforms.length + p.sinks.length := by
        simp [Pipeline.entities, Nat.add_assoc]
      have hv := length_viewNames p
      dsimp only
      rcases List.mem_append.mp he with he | he
      · have := allTransformEdges_forward ht e he
        omega
      · have := sinkEdges_forward hs (Nat.le_refl _) e he
        omega

/-! ### Taking what is ready -/

theorem mem_insertIndex {i j : Nat} {l : List Nat} : j ∈ insertIndex i l ↔ j = i ∨ j ∈ l := by
  induction l with
  | nil => simp [insertIndex]
  | cons k rest ih =>
    unfold insertIndex
    split
    · simp
    · simp only [List.mem_cons, ih]
      exact or_left_comm

theorem pairwise_insertIndex {i : Nat} {l : List Nat} (h : l.Pairwise (· < ·)) (hi : i ∉ l) :
    (insertIndex i l).Pairwise (· < ·) := by
  induction l with
  | nil => simp [insertIndex]
  | cons k rest ih =>
    obtain ⟨hk, hr⟩ := List.pairwise_cons.mp h
    simp only [List.mem_cons, not_or] at hi
    unfold insertIndex
    split
    next hle =>
      refine List.pairwise_cons.mpr ⟨fun j hj => ?_, h⟩
      rcases List.mem_cons.mp hj with rfl | hj
      · omega
      · have := hk j hj
        omega
    next hlt =>
      refine List.pairwise_cons.mpr ⟨fun j hj => ?_, ih hr hi.2⟩
      rcases mem_insertIndex.mp hj with rfl | hj
      · omega
      · exact hk j hj

/-- How many edges lead to `v` from the entities from `k` on. -/
def pendingEdges (g : DependencyGraph) (k v : Nat) : Nat :=
  g.edges.countP fun e => e.2 == v && decide (k ≤ e.1)

/-- The entities below `k` are taken, and `due` are the readers of the last one that are still to be
released. -/
structure Waiting (g : DependencyGraph) (k : Nat) (due degrees ready : List Nat) : Prop where
  degree : ∀ v < g.entities.length, degrees[v]? = some (g.pendingEdges k v + due.count v)
  sorted : ready.Pairwise (· < ·)
  mem : ∀ v, v ∈ ready ↔ k ≤ v ∧ v < g.entities.length ∧ degrees[v]? = some 0

variable {g : DependencyGraph} {k : Nat} {due degrees ready : List Nat}

theorem Waiting.release {v : Nat} (h : Waiting g k (v :: due) degrees ready) (hk : k ≤ v)
    (hv : v < g.entities.length) :
    Waiting g k due (release (degrees, ready) v).1 (release (degrees, ready) v).2 := by
  have hd : degrees[v]? = some (g.pendingEdges k v + due.count v + 1) := by
    simpa [Nat.add_assoc] using h.degree v hv
  have hlt : v < degrees.length := (List.getElem?_eq_some_iff.mp hd).1
  have hs : (degrees.set v (g.pendingEdges k v + due.count v))[v]? =
      some (g.pendingEdges k v + due.count v) := List.getElem?_set_self hlt
  have hr : v ∉ ready := by simp [h.mem, hd]
  simp only [DependencyGraph.release, hd, Option.getD_some, Nat.add_sub_cancel]
  refine ⟨fun u hu => ?_, ?_, fun u => ?_⟩
  · by_cases he : v = u
    · rw [← he, hs]
    · rw [List.getElem?_set_ne he]
      simpa [List.count_cons_of_ne he] using h.degree u hu
  · split
    · exact pairwise_insertIndex h.sorted hr
    · exact h.sorted
  · by_cases he : v = u
    · rw [← he, hs]
      split
      next hz => simp [mem_insertIndex, hk, hv, hz]
      next hz => simp only [hr, hk, hv, Option.some.injEq, hz, and_false]
    · have hm : (u ∈ if g.pendingEdges k v + due.count v = 0 then insertIndex v ready else ready) ↔
          u ∈ ready := by
        split
        · simp [mem_insertIndex, Ne.symm he]
        · rfl
      rw [hm, List.getElem?_set_ne he, h.mem]

theorem Waiting.releaseAll (h : Waiting g k due degrees ready)
    (hd : ∀ v ∈ due, k ≤ v ∧ v < g.entities.length) :
    Waiting g k [] (due.foldl DependencyGraph.release (degrees, ready)).1
      (due.foldl DependencyGraph.release (degrees, ready)).2 := by
  induction due generalizing degrees ready with
  | nil => exact h
  | cons v due ih =>
    obtain ⟨hk, hv⟩ := hd v (by simp)
    exact ih (h.release hk hv) fun u hu => hd u (by simp [hu])

theorem pendingEdges_self (hf : g.Forward) : g.pendingEdges k k = 0 := by
  refine List.countP_eq_zero.mpr fun e he => ?_
  have := (hf e he).1
  simp only [Bool.and_eq_true, beq_iff_eq, decide_eq_true_eq, not_and, Nat.not_le]
  omega

theorem pendingEdges_succ (v : Nat) : g.pendingEdges k v =
    g.pendingEdges (k + 1) v + ((g.edges.filter fun e => e.1 == k).map (·.2)).count v := by
  unfold pendingEdges List.count
  rw [List.countP_map, List.countP_filter]
  induction g.edges with
  | nil => rfl
  | cons e edges ih =>
    simp only [List.countP_cons, ih, Function.comp, Bool.and_eq_true, beq_iff_eq,
      decide_eq_true_eq]
    split <;> split <;> split <;> omega

/-- The first entity that is left is the first one that is ready. -/
theorem Waiting.ready_eq (h : Waiting g k [] degrees ready) (hf : g.Forward)
    (hk : k < g.entities.length) : ∃ rest, ready = k :: rest ∧
      Waiting g (k + 1) ((g.edges.filter fun e => e.1 == k).map (·.2)) degrees rest := by
  have hm : k ∈ ready := by simp [h.mem, hk, h.degree k hk, pendingEdges_self hf]
  cases ready with
  | nil => cases hm
  | cons j rest =>
    obtain ⟨hj, hr⟩ := List.pairwise_cons.mp h.sorted
    have hle : k ≤ j := ((h.mem j).mp (by simp)).1
    obtain rfl : k = j := by
      rcases List.mem_cons.mp hm with rfl | hm
      · rfl
      · have := hj k hm
        omega
    refine ⟨rest, rfl, ⟨fun v hv => ?_, hr, fun v => ?_⟩⟩
    · rw [h.degree v hv, pendingEdges_succ]
      simp
    · constructor
      · intro hv
        have := (h.mem v).mp (by simp [hv])
        exact ⟨hj v hv, this.2⟩
      · rintro ⟨hlt, hv⟩
        have := (h.mem v).mpr ⟨by omega, hv⟩
        rcases List.mem_cons.mp this with rfl | hv
        · omega
        · exact hv

theorem orderFrom_eq (hf : g.Forward) {fuel : Nat} (hk : k + fuel = g.entities.length)
    (h : Waiting g k [] degrees ready) :
    g.orderFrom fuel degrees ready = List.range' k fuel := by
  induction fuel generalizing k degrees ready with
  | zero => rfl
  | succ fuel ih =>
    obtain ⟨rest, rfl, hw⟩ := h.ready_eq hf (by omega)
    unfold orderFrom
    rw [List.range'_succ]
    refine congrArg (k :: ·) (ih (by omega) (hw.releaseAll fun v hv => ?_))
    obtain ⟨e, he, rfl⟩ := List.mem_map.mp hv
    obtain ⟨he, hek⟩ := List.mem_filter.mp he
    have := hf e he
    simp only [beq_iff_eq] at hek
    omega

theorem waiting_start (g : DependencyGraph) : Waiting g 0 [] g.inDegrees
    ((List.range g.entities.length).filter fun v => g.inDegrees[v]? == some 0) := by
  refine ⟨fun v hv => ?_, List.pairwise_lt_range.filter _, fun v => ?_⟩
  · simp [inDegrees, pendingEdges, hv, List.countP_eq_length_filter]
  · simp

theorem filterMap_range_getElem? {α : Type} (l : List α) :
    (List.range l.length).filterMap (fun i => l[i]?) = l := by
  induction l with
  | nil => rfl
  | cons a l ih =>
    rw [List.length_cons, List.range_succ_eq_map, List.filterMap_cons_some (by rfl),
      List.filterMap_map]
    exact congrArg (a :: ·) ih

/-- The compile order of a graph without backward edges is the order of declaration. -/
theorem compileOrder_of_forward (hf : g.Forward) : g.compileOrder = g.entities := by
  unfold compileOrder
  dsimp only
  rw [orderFrom_eq hf (Nat.zero_add _) (waiting_start g), ← List.range_eq_range']
  exact filterMap_range_getElem? g.entities

end DependencyGraph

namespace Pipeline

variable {p : Pipeline} {prepared : Prepared}

theorem of_prepare (h : p.prepare = .ok prepared) : prepared.pipeline = p ∧
    renderTransforms p.transforms = .ok prepared.queries ∧
    DependencyGraph.build p prepared.queries = .ok prepared.graph := by
  unfold prepare at h
  cases hq : renderTransforms p.transforms with
  | error e => simp [hq, bind, Except.bind] at h
  | ok queries =>
    cases hg : DependencyGraph.build p queries with
    | error e =>
      simp [hq, hg, bind, Except.bind, throw, throwThe, MonadExceptOf.throw] at h
    | ok graph =>
      simp only [hq, hg, bind, Except.bind, pure, Except.pure, Except.ok.injEq] at h
      subst h
      exact ⟨rfl, rfl, hg⟩

/-- A prepared pipeline is compiled in the order of its declarations. -/
theorem compileOrder_of_prepare (h : p.prepare = .ok prepared) :
    prepared.graph.compileOrder = p.entities := by
  obtain ⟨-, -, hg⟩ := of_prepare h
  obtain ⟨he, hf⟩ := DependencyGraph.build_forward hg
  rw [DependencyGraph.compileOrder_of_forward hf, he]

theorem length_of_renderTransforms {transforms : List Transform} {queries : List String}
    (h : renderTransforms transforms = .ok queries) : queries.length = transforms.length := by
  unfold renderTransforms at h
  induction transforms generalizing queries with
  | nil => cases h; rfl
  | cons t transforms ih =>
    rw [List.mapM_cons] at h
    cases ht : t.query with
    | error e => simp [ht, bind, Except.bind] at h
    | ok sql =>
      cases hr : transforms.mapM Transform.query with
      | error e => simp [ht, hr, bind, Except.bind] at h
      | ok rest =>
        simp only [ht, hr, bind, Except.bind, pure, Except.pure, Except.ok.injEq] at h
        subst h
        simp [ih hr]

/-- There is one query for each transform. -/
theorem length_queries (h : p.prepare = .ok prepared) :
    prepared.queries.length = p.transforms.length :=
  length_of_renderTransforms (of_prepare h).2.1

end Pipeline

end StreamPipeline
