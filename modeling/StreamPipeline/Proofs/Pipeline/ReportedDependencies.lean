import Mathlib.Data.List.Sort
import StreamPipeline.Proofs.Pipeline.FirstOffence
import StreamPipeline.Proofs.Pipeline.TopologicalOrder

/-! # Reported dependencies

What a built graph reports for a name: for a transform the views that its query is seen to read, for
a sink its input, for anything else nothing. No edge is there twice, so each dependency is reported
once however often a query reads it.
-/

namespace StreamPipeline

namespace DependencyGraph

open Sql

/-! ### Edges of the sinks -/

/-- The edges of the sinks lead from their inputs. -/
theorem mem_sinkEdges {views : List String} {sinks : List Sink} {node : Nat}
    {edges : List (Nat × Nat)} (h : sinkEdges views node sinks = .ok edges) {k m : Nat} :
    (k, m) ∈ edges ↔ ∃ i a, sinks[i]? = some a ∧ lastIndex? a.input 0 views = some k ∧
      m = node + i := by
  induction sinks generalizing node edges with
  | nil => cases h; simp
  | cons a rest ih =>
    unfold sinkEdges at h
    split at h
    · cases h
    next dep hdep =>
      cases hr : sinkEdges views (node + 1) rest with
      | error e => rw [hr] at h; cases h
      | ok more =>
        rw [hr] at h
        cases h
        rw [List.mem_cons, ih hr, Prod.mk.injEq]
        constructor
        · rintro (⟨rfl, rfl⟩ | ⟨i, b, hb, hk, rfl⟩)
          · exact ⟨0, a, rfl, hdep, rfl⟩
          · exact ⟨i + 1, b, hb, hk, by omega⟩
        · rintro ⟨i, b, hb, hk, rfl⟩
          cases i with
          | zero =>
            cases hb
            exact .inl ⟨Option.some.inj (hk.symm.trans hdep), rfl⟩
          | succ i => exact .inr ⟨i, b, hb, hk, by omega⟩

/-- The edges into a sink lead from its input. -/
theorem mem_inputs_of_build {p : Pipeline} {rendered : List String} {g : DependencyGraph}
    (h : build p rendered = .ok g) {k i : Nat} {a : Sink} (ha : p.sinks[i]? = some a) :
    (k, p.viewNames.length + i) ∈ g.edges ↔ lastIndex? a.input 0 p.viewNames = some k := by
  obtain ⟨edges, inputs, he, hs, rfl⟩ := build_eq_ok.mp h
  have hviews := length_viewNames p
  have hedges : (k, p.viewNames.length + i) ∉ edges := fun hm => by
    have := (allTransformEdges_forward he _ hm).2
    dsimp only at this
    omega
  rw [List.mem_append, or_iff_right hedges, mem_sinkEdges hs]
  constructor
  · rintro ⟨j, b, hb, hk, hj⟩
    obtain rfl := Nat.add_left_cancel hj
    obtain rfl : a = b := Option.some.inj (ha.symm.trans hb)
    exact hk
  · exact fun hk => ⟨i, a, ha, hk, rfl⟩

/-- No edge leads to a source. -/
theorem le_of_mem_edges {p : Pipeline} {rendered : List String} {g : DependencyGraph}
    (h : build p rendered = .ok g) : ∀ e ∈ g.edges, p.sources.length ≤ e.2 := by
  obtain ⟨edges, inputs, he, hs, rfl⟩ := build_eq_ok.mp h
  have hviews := length_viewNames p
  rintro ⟨k, m⟩ hm
  rcases List.mem_append.mp hm with hm | hm
  · obtain ⟨i, -, rfl⟩ := (mem_allTransformEdges he).mp hm
    exact Nat.le_add_right _ i
  · have := le_of_sinkEdges hs _ hm
    dsimp only at this ⊢
    omega

/-! ### No edge twice -/

theorem nodup_eraseDups {α : Type} [BEq α] [LawfulBEq α] (l : List α) : l.eraseDups.Nodup := by
  match l with
  | [] => exact List.nodup_nil
  | a :: l =>
    rw [List.eraseDups_cons, List.nodup_cons, List.mem_eraseDups]
    exact ⟨by simp, nodup_eraseDups _⟩
termination_by l.length
decreasing_by exact Nat.lt_succ_of_le (List.length_filter_le _ _)

theorem nodup_allTransformEdges {views rendered : List String} {transforms : List Transform}
    {node : Nat} {edges : List (Nat × Nat)}
    (h : allTransformEdges views node transforms rendered = .ok edges) : edges.Nodup := by
  induction transforms generalizing node rendered edges with
  | nil => cases h; exact List.nodup_nil
  | cons t transforms ih =>
    cases rendered with
    | nil => cases h; exact List.nodup_nil
    | cons sql rendered =>
      unfold allTransformEdges at h
      cases ht : transformEdges views t.name node (referencedRelations sql) with
      | error e => rw [ht] at h; cases h
      | ok own =>
        cases hr : allTransformEdges views (node + 1) transforms rendered with
        | error e => rw [ht, hr] at h; cases h
        | ok more =>
          rw [ht, hr] at h
          cases h
          refine List.nodup_append'.mpr ⟨nodup_eraseDups own, ih hr, ?_⟩
          rintro ⟨k, m⟩ hown hmore
          have hm := (transformEdges_forward ht _ (List.mem_eraseDups.mp hown)).2
          obtain ⟨i, -, rfl⟩ := (mem_allTransformEdges hr).mp hmore
          dsimp only at hm
          omega

theorem nodup_sinkEdges {views : List String} {sinks : List Sink} {node : Nat}
    {edges : List (Nat × Nat)} (h : sinkEdges views node sinks = .ok edges) : edges.Nodup := by
  induction sinks generalizing node edges with
  | nil => cases h; exact List.nodup_nil
  | cons a rest ih =>
    unfold sinkEdges at h
    split at h
    · cases h
    next dep hdep =>
      cases hr : sinkEdges views (node + 1) rest with
      | error e => rw [hr] at h; cases h
      | ok more =>
        rw [hr] at h
        cases h
        refine List.nodup_cons.mpr ⟨fun hm => ?_, ih hr⟩
        have hle := le_of_sinkEdges hr _ hm
        dsimp only at hle
        omega

theorem nodup_edges_of_build {p : Pipeline} {rendered : List String} {g : DependencyGraph}
    (h : build p rendered = .ok g) : g.edges.Nodup := by
  obtain ⟨edges, inputs, he, hs, rfl⟩ := build_eq_ok.mp h
  refine List.nodup_append'.mpr ⟨nodup_allTransformEdges he, nodup_sinkEdges hs, ?_⟩
  rintro ⟨k, m⟩ hm hi
  have hviews := length_viewNames p
  have hlt := (allTransformEdges_forward he _ hm).2
  have hle := le_of_sinkEdges hs _ hi
  dsimp only at hlt hle
  omega

/-! ### Names in the order of declaration -/

/-- Where the edges into an entity come from, one place for each edge, in ascending order. -/
def inputPlaces (g : DependencyGraph) (node : Nat) : List Nat :=
  ((g.edges.filter fun e => e.2 == node).map (·.1)).mergeSort

/-- Without double edges into it, an entity has its dependencies one by one. -/
theorem inputPlaces_eq_filter {g : DependencyGraph} (hn : g.edges.Nodup) {n : Nat}
    (hlt : ∀ e ∈ g.edges, e.1 < n) (node : Nat) :
    g.inputPlaces node = (List.range n).filter fun k => g.edges.contains (k, node) := by
  have hplaces : ((g.edges.filter fun e => e.2 == node).map (·.1)).Nodup := by
    refine List.Nodup.map_on ?_ (hn.filter _)
    rintro ⟨k, m⟩ hk ⟨k', m'⟩ hk' rfl
    simp only [List.mem_filter, beq_iff_eq] at hk hk'
    rw [hk.2, hk'.2]
  have hperm : (g.inputPlaces node).Perm
      ((List.range n).filter fun k => g.edges.contains (k, node)) := by
    refine (List.mergeSort_perm _ _).trans ?_
    refine (List.perm_ext_iff_of_nodup hplaces (List.nodup_range.filter _)).mpr fun k => ?_
    simp only [List.mem_map, List.mem_filter, beq_iff_eq, Prod.exists, List.mem_range,
      List.contains_iff_mem]
    constructor
    · rintro ⟨a, m, ⟨he, rfl⟩, rfl⟩
      exact ⟨hlt _ he, he⟩
    · exact fun h => ⟨k, node, ⟨h.2, rfl⟩, rfl⟩
  refine List.Perm.eq_of_sortedLE ?_ ?_ hperm
  · exact List.sortedLE_mergeSort
  · exact (List.pairwise_lt_range.filter _).sortedLT.sortedLE

theorem filterMap_filter_comm {α β : Type} {f : α → Option β} {P : α → Bool} {Q : β → Bool}
    {l : List α} (h : ∀ a b, f a = some b → P a = Q b) :
    (l.filter P).filterMap f = (l.filterMap f).filter Q := by
  induction l with
  | nil => rfl
  | cons a l ih =>
    cases hf : f a with
    | none =>
      rw [List.filterMap_cons_none hf, ← ih, List.filter_cons]
      split
      · rw [List.filterMap_cons_none hf]
      · rfl
    | some b =>
      rw [List.filterMap_cons_some hf, List.filter_cons, List.filter_cons, h a b hf, ← ih]
      split
      · rw [List.filterMap_cons_some hf]
      · rfl

/-- The dependencies of an entity are the names at whose places edges into it begin. -/
theorem dependencies_eq_filter {g : DependencyGraph} {name : String} {node : Nat}
    {Q : String → Bool} (hnode : g.names.idxOf? name = some node)
    (hQ : ∀ k n, g.names[k]? = some n → g.edges.contains (k, node) = Q n) :
    g.dependencies name = g.names.filter Q := by
  unfold dependencies
  rw [hnode]
  dsimp only
  rw [filterMap_filter_comm hQ, filterMap_range_getElem?]

theorem idxOf?_eq_some_of_nodup {names : List String} (hn : names.Nodup) {name : String} {k : Nat}
    (h : names[k]? = some name) : names.idxOf? name = some k := by
  obtain ⟨hlt, hk⟩ := List.getElem?_eq_some_iff.mp h
  refine List.idxOf?_eq_some_iff.mpr ⟨hlt, hk, fun j hj he => ?_⟩
  exact absurd ((hn.getElem_inj_iff).mp (he.trans hk.symm)) (Nat.ne_of_lt hj)

/-! ### The dependencies of each kind of entity -/

/-- The names that the query of the transform at `i` is seen to read, if there is one. -/
def relationsAt (rendered : List String) (i : Nat) : List String :=
  (rendered[i]?.map referencedRelations).getD []

section Reported

variable {p : Pipeline} {rendered : List String} {g : DependencyGraph}

theorem names_of_build (h : build p rendered = .ok g) : g.names = p.viewNames ++ p.sinkNames := by
  obtain ⟨-, -, -, -, rfl⟩ := build_eq_ok.mp h
  rfl

/-- Among distinct names, a view is at the same place among all names. -/
theorem getElem?_viewNames_iff (hn : (p.viewNames ++ p.sinkNames).Nodup) {k : Nat} {n v : String}
    (hk : (p.viewNames ++ p.sinkNames)[k]? = some n) :
    p.viewNames[k]? = some v ↔ n = v ∧ v ∈ p.viewNames := by
  constructor
  · intro hv
    have hlt := (List.getElem?_eq_some_iff.mp hv).1
    rw [List.getElem?_append_left hlt] at hk
    exact ⟨Option.some.inj (hk.symm.trans hv), List.mem_of_getElem? hv⟩
  · rintro ⟨rfl, hm⟩
    obtain ⟨j, hj⟩ := List.mem_iff_getElem?.mp hm
    have hlt := (List.getElem?_eq_some_iff.mp hj).1
    have hj' : (p.viewNames ++ p.sinkNames)[j]? = some n := by
      rw [List.getElem?_append_left hlt, hj]
    have hsame : j = k := Option.some.inj
      ((idxOf?_eq_some_of_nodup hn hj').symm.trans (idxOf?_eq_some_of_nodup hn hk))
    exact hsame ▸ hj

theorem filter_names (hn : (p.viewNames ++ p.sinkNames).Nodup) {Q : String → Prop}
    [DecidablePred Q] :
    (p.viewNames ++ p.sinkNames).filter (fun n => decide (n ∈ p.viewNames ∧ Q n)) =
      p.viewNames.filter fun n => decide (Q n) := by
  have hviews : p.viewNames.filter (fun n => decide (n ∈ p.viewNames ∧ Q n)) =
      p.viewNames.filter fun n => decide (Q n) :=
    List.filter_congr fun n hm => by simp [hm]
  have hsinks : p.sinkNames.filter (fun n => decide (n ∈ p.viewNames ∧ Q n)) = [] := by
    refine List.filter_eq_nil_iff.mpr fun n hm => ?_
    have hnot : n ∉ p.viewNames := fun hv => List.disjoint_of_nodup_append hn hv hm
    simp [hnot]
  rw [List.filter_append, hviews, hsinks, List.append_nil]

theorem dependencies_transform (hn : (p.viewNames ++ p.sinkNames).Nodup)
    (h : build p rendered = .ok g) {i : Nat} {t : Transform} (ht : p.transforms[i]? = some t) :
    g.dependencies t.name = p.viewNames.filter fun n => n ∈ relationsAt rendered i := by
  have hnames := names_of_build h
  have hviews := (List.nodup_append'.mp hn).1
  have hlt := (List.getElem?_eq_some_iff.mp ht).1
  have hplace : g.names[p.sources.length + i]? = some t.name := by
    have hv := getElem?_viewNames_of_transform ht
    rw [hnames, List.getElem?_append_left (List.getElem?_eq_some_iff.mp hv).1, hv]
  rw [← filter_names hn, ← hnames]
  refine dependencies_eq_filter (idxOf?_eq_some_of_nodup (hnames ▸ hn) hplace) fun k n hk => ?_
  rw [hnames] at hk
  rw [Bool.eq_iff_iff, List.contains_iff_mem, decide_eq_true_iff, mem_edges_of_build h hlt]
  simp only [Refers, lastIndex?_eq_some_iff hviews, getElem?_viewNames_iff hn hk, relationsAt]
  constructor
  · rintro ⟨-, sql, v, hs, hv, rfl, hm⟩
    exact ⟨hm, by simpa [hs] using hv⟩
  · rintro ⟨hm, hr⟩
    cases hs : rendered[i]? with
    | none => simp [hs] at hr
    | some sql => exact ⟨hlt, sql, n, rfl, by simpa [hs] using hr, rfl, hm⟩

theorem dependencies_sink (hn : (p.viewNames ++ p.sinkNames).Nodup)
    (h : build p rendered = .ok g) {a : Sink} (ha : a ∈ p.sinks) :
    g.dependencies a.name = [a.input] := by
  have hnames := names_of_build h
  have hviews := (List.nodup_append'.mp hn).1
  obtain ⟨i, hi⟩ := List.mem_iff_getElem?.mp ha
  have hplace : g.names[p.viewNames.length + i]? = some a.name := by
    rw [hnames, List.getElem?_append_right (Nat.le_add_right _ _), Nat.add_sub_cancel_left,
      Pipeline.sinkNames, List.getElem?_map, hi, Option.map_some]
  have hinput : p.viewNames.filter (fun n => decide (n = a.input)) = [a.input] := by
    rw [List.filter_eq, List.count_eq_one_of_mem hviews (inputs_of_build h a ha)]
    rfl
  rw [← hinput, ← filter_names hn, ← hnames]
  refine dependencies_eq_filter (idxOf?_eq_some_of_nodup (hnames ▸ hn) hplace) fun k n hk => ?_
  rw [hnames] at hk
  rw [Bool.eq_iff_iff, List.contains_iff_mem, decide_eq_true_iff, mem_inputs_of_build h hi,
    lastIndex?_eq_some_iff hviews, getElem?_viewNames_iff hn hk]
  exact ⟨fun ⟨he, hm⟩ => ⟨he ▸ hm, he⟩, fun ⟨hm, he⟩ => ⟨he, he ▸ hm⟩⟩

theorem dependencies_other (h : build p rendered = .ok g) {name : String}
    (ht : name ∉ p.transformNames) (hs : name ∉ p.sinkNames) : g.dependencies name = [] := by
  have hnames := names_of_build h
  cases hnode : g.names.idxOf? name with
  | none => simp [dependencies, hnode]
  | some node =>
    obtain ⟨hlt, hat, -⟩ := List.idxOf?_eq_some_iff.mp hnode
    have hplace : g.names[node]? = some name := List.getElem?_eq_some_iff.mpr ⟨hlt, hat⟩
    -- A name of neither kind has its first place among the sources, to which no edge leads.
    have hsource : node < p.sources.length := by
      refine Nat.lt_of_not_le fun hle => ?_
      have hl : p.sourceNames.length ≤ node := by simpa [Pipeline.sourceNames] using hle
      rw [hnames, Pipeline.viewNames, List.append_assoc, List.getElem?_append_right hl] at hplace
      rcases List.mem_append.mp (List.mem_of_getElem? hplace) with hm | hm
      · exact ht hm
      · exact hs hm
    rw [dependencies_eq_filter hnode (Q := fun _ => false), List.filter_false]
    intro k n _
    refine Bool.eq_false_iff.mpr fun hc => ?_
    have hle := le_of_mem_edges h _ (List.contains_iff_mem.mp hc)
    dsimp only at hle
    omega

/-- What a graph reports: the declared views that the query of a transform is seen to read, each
once and in the order of declaration, the input of a sink, and nothing for a source or for a name
that is not declared. The edges, counted one by one, give the same, because none is there twice. -/
theorem dependencies_of_build (hn : (p.viewNames ++ p.sinkNames).Nodup)
    (h : build p rendered = .ok g) :
    (∀ i t, p.transforms[i]? = some t →
      g.dependencies t.name = p.viewNames.filter fun n => n ∈ relationsAt rendered i) ∧
    (∀ a ∈ p.sinks, g.dependencies a.name = [a.input]) ∧
    (∀ name, name ∉ p.transformNames ++ p.sinkNames → g.dependencies name = []) ∧
    g.edges.Nodup ∧ ∀ name node, g.names.idxOf? name = some node →
      g.dependencies name = (g.inputPlaces node).filterMap fun k => g.names[k]? := by
  have hedges := nodup_edges_of_build h
  refine ⟨fun i t ht => dependencies_transform hn h ht, fun a ha => dependencies_sink hn h ha,
    fun name hm => ?_, hedges, fun name node hnode => ?_⟩
  · simp only [List.mem_append, not_or] at hm
    exact dependencies_other h hm.1 hm.2
  · have hlt : ∀ e ∈ g.edges, e.1 < g.names.length := by
      intro e he
      obtain ⟨hentities, hforward⟩ := build_forward h
      have hl : g.entities.length = g.names.length := by
        simp [hentities, names_of_build h, Pipeline.entities, Pipeline.sinkNames,
          length_viewNames, Nat.add_assoc]
      have := hforward e he
      omega
    rw [inputPlaces_eq_filter hedges hlt, dependencies, hnode]

end Reported

/-- The query of the first transform reads its sources out of order and one of them twice. -/
theorem dependencies_of_build_joinedTwice : ∃ g,
    (joinedTwice.viewNames ++ joinedTwice.sinkNames).Nodup ∧
    build joinedTwice (joinedTwice.transforms.map (·.sql)) = .ok g ∧
    g.dependencies "wide" = ["events", "dims"] ∧ g.dependencies "late" = ["events", "wide"] ∧
    g.dependencies "copy" = ["wide"] ∧ g.dependencies "events" = [] ∧
    g.dependencies "elsewhere" = [] := by
  have hn : (joinedTwice.viewNames ++ joinedTwice.sinkNames).Nodup := by decide
  have hb : build joinedTwice (joinedTwice.transforms.map (·.sql)) =
      .ok ⟨joinedTwice.entities, ["events", "dims", "wide", "late", "print", "copy"],
        [(1, 2), (0, 2), (2, 3), (0, 3), (3, 4), (2, 5)]⟩ := by decide +kernel
  obtain ⟨htransform, hsink, hother, -⟩ := dependencies_of_build hn hb
  refine ⟨_, hn, hb, ?_, ?_, hsink joinedTwice.sinks[1] (by decide), hother _ (by decide),
    hother _ (by decide)⟩
  · exact (htransform 0 joinedTwice.transforms[0] rfl).trans (by decide +kernel)
  · exact (htransform 1 joinedTwice.transforms[1] rfl).trans (by decide +kernel)

end DependencyGraph

end StreamPipeline
