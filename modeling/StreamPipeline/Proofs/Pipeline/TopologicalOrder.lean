import Mathlib.Data.List.Nodup
import StreamPipeline.Proofs.Pipeline.Order

/-! # The compile order as a topological order

The loop that takes the ready entities, with each decrement checked. In a built graph no check
fails, nothing is left at the end, and each entity comes behind everything that it reads.
-/

namespace StreamPipeline

namespace DependencyGraph

/-! ### The checked loop -/

/-- One edge less into an entity, of which at least one must be left. -/
def release? (state : List Nat × List Nat) (node : Nat) : Option (List Nat × List Nat) :=
  match state.1[node]? with
  | some (left + 1) =>
    some (state.1.set node left, if left = 0 then insertIndex node state.2 else state.2)
  | _ => none

/-- Takes the first of the ready entities until none is left, which must happen in as many rounds
as there is fuel. -/
def orderFrom? (g : DependencyGraph) : Nat → List Nat → List Nat → Option (List Nat)
  | _, _, [] => some []
  | 0, _, _ :: _ => none
  | fuel + 1, degrees, node :: ready => do
    let readers := (g.edges.filter fun e => e.1 == node).map (·.2)
    let state ← readers.foldlM release? (degrees, ready)
    let rest ← orderFrom? g fuel state.1 state.2
    return node :: rest

/-- The compile order, if no number of edges falls below zero and no ready entity is left over. -/
def compileOrder? (g : DependencyGraph) : Option (List Entity) :=
  let degrees := g.inDegrees
  let ready := (List.range g.entities.length).filter fun node => degrees[node]? == some 0
  (orderFrom? g g.entities.length degrees ready).map fun order =>
    order.filterMap fun node => g.entities[node]?

variable {g : DependencyGraph} {k v : Nat} {due degrees ready : List Nat}

theorem release_of_release? {state state' : List Nat × List Nat}
    (h : release? state v = some state') : release state v = state' := by
  unfold release? at h
  split at h
  next left hl =>
    cases h
    simp [release, hl]
  next => cases h

theorem foldl_of_foldlM {state state' : List Nat × List Nat}
    (h : due.foldlM release? state = some state') : due.foldl release state = state' := by
  induction due generalizing state with
  | nil => exact Option.some.inj h
  | cons v due ih =>
    rw [List.foldlM_cons] at h
    obtain ⟨next, hv, hd⟩ := Option.bind_eq_some_iff.mp h
    rw [List.foldl_cons, release_of_release? hv]
    exact ih hd

theorem orderFrom_of_orderFrom? {fuel : Nat} {order : List Nat}
    (h : g.orderFrom? fuel degrees ready = some order) : g.orderFrom fuel degrees ready = order := by
  induction fuel generalizing degrees ready order with
  | zero =>
    cases ready with
    | nil => exact Option.some.inj h
    | cons node ready => cases h
  | succ fuel ih =>
    cases ready with
    | nil => exact Option.some.inj h
    | cons node ready =>
      obtain ⟨state, hs, h⟩ := Option.bind_eq_some_iff.mp h
      obtain ⟨rest, hr, h⟩ := Option.bind_eq_some_iff.mp h
      cases h
      unfold orderFrom
      dsimp only
      rw [foldl_of_foldlM hs, ih hr]

/-- Where no check fails, the checks change nothing. -/
theorem compileOrder_of_compileOrder? {order : List Entity} (h : g.compileOrder? = some order) :
    g.compileOrder = order := by
  obtain ⟨nodes, hn, rfl⟩ := Option.map_eq_some_iff.mp h
  unfold compileOrder
  dsimp only
  rw [orderFrom_of_orderFrom? hn]

/-! ### No check fails -/

theorem Waiting.release?_eq (h : Waiting g k (v :: due) degrees ready)
    (hv : v < g.entities.length) :
    release? (degrees, ready) v = some (DependencyGraph.release (degrees, ready) v) := by
  have hd : degrees[v]? = some (g.pendingEdges k v + due.count v + 1) := by
    simpa [Nat.add_assoc] using h.degree v hv
  simp [release?, DependencyGraph.release, hd]

theorem Waiting.releaseAll?_eq (h : Waiting g k due degrees ready)
    (hd : ∀ v ∈ due, k ≤ v ∧ v < g.entities.length) : due.foldlM release? (degrees, ready) =
      some (due.foldl DependencyGraph.release (degrees, ready)) := by
  induction due generalizing degrees ready with
  | nil => rfl
  | cons v due ih =>
    obtain ⟨hk, hv⟩ := hd v (by simp)
    rw [List.foldlM_cons, h.release?_eq hv, List.foldl_cons]
    exact ih (h.release hk hv) fun u hu => hd u (by simp [hu])

/-- All readers of an entity are declared behind it. -/
theorem lt_of_mem_readers (hf : g.Forward)
    (h : v ∈ (g.edges.filter fun e => e.1 == k).map (·.2)) : k + 1 ≤ v ∧ v < g.entities.length := by
  obtain ⟨e, he, rfl⟩ := List.mem_map.mp h
  obtain ⟨he, hek⟩ := List.mem_filter.mp he
  have := hf e he
  simp only [beq_iff_eq] at hek
  omega

theorem orderFrom?_eq (hf : g.Forward) {fuel : Nat} (hk : k + fuel = g.entities.length)
    (h : Waiting g k [] degrees ready) :
    g.orderFrom? fuel degrees ready = some (List.range' k fuel) := by
  induction fuel generalizing k degrees ready with
  | zero =>
    have hr : ready = [] := by
      refine List.eq_nil_iff_forall_not_mem.mpr fun v hv => ?_
      have := (h.mem v).mp hv
      omega
    rw [hr]
    rfl
  | succ fuel ih =>
    obtain ⟨rest, rfl, hw⟩ := h.ready_eq hf (by omega)
    have hreaders := fun v (hv : v ∈ (g.edges.filter fun e => e.1 == k).map (·.2)) =>
      lt_of_mem_readers hf hv
    have hrest := ih (by omega) (hw.releaseAll hreaders)
    simp only [orderFrom?, hw.releaseAll?_eq hreaders, Option.bind_eq_bind, Option.bind_some, hrest,
      List.range'_succ]
    rfl

theorem compileOrder?_of_forward (hf : g.Forward) : g.compileOrder? = some g.entities := by
  unfold compileOrder?
  dsimp only
  rw [orderFrom?_eq hf (Nat.zero_add _) (waiting_start g), Option.map_some,
    ← List.range_eq_range', filterMap_range_getElem?]

/-! ### Dependencies come first -/

/-- Whatever an entity of the order depends on stands before it. -/
def IsTopological (g : DependencyGraph) (order : List Entity) : Prop :=
  ∀ before a after, order = before ++ a :: after →
    ∀ e ∈ g.edges, g.entities[e.2]? = some a → ∃ b ∈ before, g.entities[e.1]? = some b

theorem nodup_entities (p : Pipeline) : p.entities.Nodup := by
  have hmap {f : Nat → Entity} (hf : Function.Injective f) (n : Nat) :
      ((List.range n).map f).Nodup := List.nodup_range.map hf
  unfold Pipeline.entities
  refine List.nodup_append'.mpr ⟨List.nodup_append'.mpr ⟨hmap ?_ _, hmap ?_ _, ?_⟩, hmap ?_ _, ?_⟩
  · exact fun _ _ => Entity.source.inj
  · exact fun _ _ => Entity.transform.inj
  · simp [List.disjoint_left]
  · exact fun _ _ => Entity.sink.inj
  · rintro a ha hs
    obtain ⟨_, -, rfl⟩ := List.mem_map.mp hs
    simp at ha

/-- The declared order is topological in a graph whose edges lead forward. -/
theorem isTopological_entities (hf : g.Forward) (hn : g.entities.Nodup) :
    g.IsTopological g.entities := by
  intro before a after hs e he ha
  have hlen : before.length < g.entities.length := by simp [hs]
  have hplace : g.entities[before.length] = a := by simp [hs]
  obtain ⟨hlt, hget⟩ := List.getElem?_eq_some_iff.mp ha
  have hat : e.2 = before.length := (List.Nodup.getElem_inj_iff hn).mp (hget.trans hplace.symm)
  have hb : e.1 < before.length := hat ▸ (hf e he).1
  refine ⟨before[e.1], List.getElem_mem hb, ?_⟩
  rw [hs, List.getElem?_append_left hb, List.getElem?_eq_getElem hb]

/-- A built graph is compiled in the order of the declarations: all sources, then all transforms,
then all sinks, each once. So everything comes behind what it depends on, and the loop that finds
the order never takes an edge away where none is left. -/
theorem compileOrder_of_build {p : Pipeline} {rendered : List String} (h : build p rendered = .ok g) :
    g.compileOrder = (List.range p.sources.length).map .source ++
      (List.range p.transforms.length).map .transform ++ (List.range p.sinks.length).map .sink ∧
    g.compileOrder.Nodup ∧ g.IsTopological g.compileOrder ∧
    g.compileOrder? = some g.compileOrder := by
  obtain ⟨he, hf⟩ := build_forward h
  have hc := compileOrder?_of_forward hf
  have ho := compileOrder_of_compileOrder? hc
  have hn : g.entities.Nodup := he ▸ nodup_entities p
  rw [ho]
  exact ⟨he, hn, isTopological_entities hf hn, hc⟩

/-- Two sources, a transform that joins them, one that reads the first transform and a source, and
sinks for both of them. -/
def joinedTwice : Pipeline where
  name := "joined"
  specVersion := "1"
  parallelism := 1
  checkpointDir := "file:///checkpoints"
  savepointDir := "file:///savepoints"
  sources := [⟨"events", "shop.events", none, 1, .dataset⟩, ⟨"dims", "shop.dims", none, 1, .dataset⟩]
  transforms := [⟨"wide", "SELECT * FROM dims JOIN events ON true, dims", none⟩,
    ⟨"late", "SELECT * FROM wide, events", none⟩]
  sinks := [⟨"print", "late", .print⟩, ⟨"copy", "wide", .print⟩]

theorem compileOrder_of_build_joinedTwice : ∃ g,
    build joinedTwice (joinedTwice.transforms.map (·.sql)) = .ok g ∧
    g.edges = [(1, 2), (0, 2), (2, 3), (0, 3), (3, 4), (2, 5)] ∧
    g.compileOrder = [.source 0, .source 1, .transform 0, .transform 1, .sink 0, .sink 1] ∧
    g.compileOrder.Nodup ∧ g.IsTopological g.compileOrder ∧
    g.compileOrder? = some g.compileOrder := by
  have hb : build joinedTwice (joinedTwice.transforms.map (·.sql)) =
      .ok ⟨joinedTwice.entities, ["events", "dims", "wide", "late", "print", "copy"],
        [(1, 2), (0, 2), (2, 3), (0, 3), (3, 4), (2, 5)]⟩ := by decide +kernel
  exact ⟨_, hb, rfl, compileOrder_of_build hb⟩

end DependencyGraph

end StreamPipeline
