import StreamPipeline.Proofs.Pipeline.Preparation
import StreamPipeline.Proofs.Pipeline.References
import StreamPipeline.Proofs.Sql.MentionedRelations

/-! # Views and their readers

The graph is built exactly where every view that a transform is seen to read is declared before it,
and its edges say what is seen. A query that has the name of a view where an expression or a `WITH`
list has it is seen to read that view.
-/

namespace StreamPipeline

namespace DependencyGraph

open Sql

/-! ### Edges of the transforms -/

theorem mem_transformEdges {views relations : List String} {t : String} {node : Nat}
    {edges : List (Nat × Nat)} (h : transformEdges views t node relations = .ok edges) {k m : Nat} :
    (k, m) ∈ edges ↔ (∃ n ∈ relations, lastIndex? n 0 views = some k) ∧ m = node := by
  induction relations generalizing edges with
  | nil => cases h; simp
  | cons r rest ih =>
    unfold transformEdges at h
    split at h
    next hr => simp [ih h, hr]
    next dep hr =>
      split at h
      · cases h
      split at h
      · cases h
      cases hrest : transformEdges views t node rest with
      | error e => rw [hrest] at h; cases h
      | ok more =>
        rw [hrest] at h
        cases h
        have hdep : lastIndex? r 0 views = some k ↔ k = dep := by
          rw [hr, Option.some.injEq, eq_comm]
        rw [List.mem_cons, Prod.mk.injEq, ih hrest, ← or_and_right, List.exists_mem_cons_iff, hdep]

/-- The query at `i`, one of so many, is seen to read the view at `k`. -/
def Refers (views : List String) (count : Nat) (rendered : List String) (k i : Nat) : Prop :=
  i < count ∧ ∃ sql n, rendered[i]? = some sql ∧ n ∈ referencedRelations sql ∧
    lastIndex? n 0 views = some k

theorem not_refers_nil {views rendered : List String} {count k i : Nat}
    (h : count = 0 ∨ rendered = []) : ¬ Refers views count rendered k i := by
  rintro ⟨hi, sql, n, hs, -⟩
  rcases h with rfl | rfl
  · exact Nat.not_lt_zero i hi
  · cases hs

theorem refers_zero {views rendered : List String} {sql : String} {count k : Nat} :
    Refers views (count + 1) (sql :: rendered) k 0 ↔
      ∃ n ∈ referencedRelations sql, lastIndex? n 0 views = some k := by
  simp [Refers]

theorem refers_succ {views rendered : List String} {sql : String} {count k i : Nat} :
    Refers views (count + 1) (sql :: rendered) k (i + 1) ↔ Refers views count rendered k i := by
  simp [Refers]

/-- The edges of the transforms lead from the views that they are seen to read. -/
theorem mem_allTransformEdges {views rendered : List String} {transforms : List Transform}
    {node : Nat} {edges : List (Nat × Nat)}
    (h : allTransformEdges views node transforms rendered = .ok edges) {k m : Nat} :
    (k, m) ∈ edges ↔ ∃ i, Refers views transforms.length rendered k i ∧ m = node + i := by
  induction transforms generalizing node rendered edges with
  | nil => cases h; simp [not_refers_nil]
  | cons t transforms ih =>
    cases rendered with
    | nil => cases h; simp [not_refers_nil]
    | cons sql rendered =>
      unfold allTransformEdges at h
      cases ht : transformEdges views t.name node (referencedRelations sql) with
      | error e => rw [ht] at h; cases h
      | ok own =>
        cases hr : allTransformEdges views (node + 1) transforms rendered with
        | error e => rw [ht, hr] at h; cases h
        | ok more =>
          rw [ht, hr] at h
          cases h
          have hsum (i : Nat) : node + 1 + i = node + (i + 1) := by omega
          have hfirst : Refers views (transforms.length + 1) (sql :: rendered) k 0 ↔
              ∃ n ∈ referencedRelations sql, lastIndex? n 0 views = some k := refers_zero
          rw [List.mem_append, List.mem_eraseDups, mem_transformEdges ht, ih hr, ← hfirst]
          constructor
          · rintro (⟨h, rfl⟩ | ⟨i, h, rfl⟩)
            · exact ⟨0, h, rfl⟩
            · exact ⟨i + 1, refers_succ.mpr h, hsum i⟩
          · rintro ⟨i, h, rfl⟩
            cases i with
            | zero => exact .inl ⟨h, rfl⟩
            | succ i => exact .inr ⟨i, refers_succ.mp h, (hsum i).symm⟩

theorem exists_allTransformEdges {views rendered : List String} {transforms : List Transform}
    {node : Nat} (h : ∀ k i, Refers views transforms.length rendered k i → k < node + i) :
    ∃ edges, allTransformEdges views node transforms rendered = .ok edges := by
  induction transforms generalizing node rendered with
  | nil => exact ⟨[], rfl⟩
  | cons t transforms ih =>
    cases rendered with
    | nil => exact ⟨[], rfl⟩
    | cons sql rendered =>
      have hfirst : ∀ n ∈ referencedRelations sql, ∀ k, lastIndex? n 0 views = some k → k < node :=
        fun n hn k hk => h k 0 (refers_zero.mpr ⟨n, hn, hk⟩)
      have hrest : ∀ k i, Refers views transforms.length rendered k i → k < node + 1 + i := by
        intro k i hi
        have hlt := h k (i + 1) (refers_succ.mpr hi)
        omega
      obtain ⟨own, hown⟩ := transformEdges_ok t.name hfirst
      obtain ⟨more, hmore⟩ := ih hrest
      exact ⟨own.eraseDups ++ more, by
        simp [allTransformEdges, hown, hmore, bind, Except.bind, pure, Except.pure]⟩

/-! ### Edges of the sinks -/

theorem exists_sinkEdges {views : List String} {sinks : List Sink} {node : Nat}
    (h : ∀ a ∈ sinks, a.input ∈ views) : ∃ edges, sinkEdges views node sinks = .ok edges := by
  induction sinks generalizing node with
  | nil => exact ⟨[], rfl⟩
  | cons a rest ih =>
    obtain ⟨ha, hrest⟩ := List.forall_mem_cons.mp h
    obtain ⟨edges, he⟩ : ∃ edges, sinkEdges views (node + 1) rest = .ok edges := ih hrest
    obtain ⟨j, hj⟩ := List.mem_iff_getElem?.mp ha
    obtain ⟨k, hk, -⟩ : ∃ k, lastIndex? a.input 0 views = some k ∧ 0 + j ≤ k := le_lastIndex? hj
    exact ⟨(k, node) :: edges, by simp [sinkEdges, hk, he, Except.map]⟩

theorem le_of_sinkEdges {views : List String} {sinks : List Sink} {node : Nat}
    {edges : List (Nat × Nat)} (h : sinkEdges views node sinks = .ok edges) :
    ∀ e ∈ edges, node ≤ e.2 := by
  induction sinks generalizing node edges with
  | nil => cases h; simp
  | cons a rest ih =>
    unfold sinkEdges at h
    split at h
    · cases h
    next k hk =>
      cases hr : sinkEdges views (node + 1) rest with
      | error e => rw [hr] at h; cases h
      | ok more =>
        rw [hr] at h
        cases h
        exact List.forall_mem_cons.mpr ⟨Nat.le_refl node, fun e he => Nat.le_of_succ_le (ih hr e he)⟩

/-! ### The graph -/

theorem build_eq_ok {p : Pipeline} {rendered : List String} {g : DependencyGraph} :
    build p rendered = .ok g ↔ ∃ edges inputs,
      allTransformEdges p.viewNames p.sources.length p.transforms rendered = .ok edges ∧
      sinkEdges p.viewNames p.viewNames.length p.sinks = .ok inputs ∧
      g = ⟨p.entities, p.viewNames ++ p.sinkNames, edges ++ inputs⟩ := by
  unfold build
  dsimp only
  cases allTransformEdges p.viewNames p.sources.length p.transforms rendered with
  | error e => simp [bind, Except.bind]
  | ok edges =>
    cases sinkEdges p.viewNames p.viewNames.length p.sinks with
    | error e => simp [bind, Except.bind]
    | ok inputs => simp [bind, Except.bind, pure, Except.pure, eq_comm]

/-- A pipeline is built if every view is declared before the transforms that are seen to read it,
and every sink reads a declared view. -/
theorem build_isOk {p : Pipeline} {rendered : List String} :
    (∃ g, build p rendered = .ok g) ↔
      (∀ k i, Refers p.viewNames p.transforms.length rendered k i → k < p.sources.length + i) ∧
        ∀ a ∈ p.sinks, a.input ∈ p.viewNames := by
  constructor
  · rintro ⟨g, hg⟩
    refine ⟨fun k i hi => ?_, inputs_of_build hg⟩
    obtain ⟨edges, inputs, he, -, -⟩ := build_eq_ok.mp hg
    have hedge : (k, p.sources.length + i) ∈ edges := (mem_allTransformEdges he).mpr ⟨i, hi, rfl⟩
    exact (allTransformEdges_forward he _ hedge).1
  · rintro ⟨h, hsinks⟩
    obtain ⟨edges, he⟩ := exists_allTransformEdges h
    obtain ⟨inputs, hi⟩ : ∃ edges, sinkEdges p.viewNames p.viewNames.length p.sinks = .ok edges :=
      exists_sinkEdges hsinks
    exact ⟨_, build_eq_ok.mpr ⟨edges, inputs, he, hi, rfl⟩⟩

/-- The edges into a transform lead from the views that it is seen to read. -/
theorem mem_edges_of_build {p : Pipeline} {rendered : List String} {g : DependencyGraph}
    (h : build p rendered = .ok g) {k i : Nat} (hi : i < p.transforms.length) :
    (k, p.sources.length + i) ∈ g.edges ↔
      Refers p.viewNames p.transforms.length rendered k i := by
  obtain ⟨edges, inputs, he, hs, rfl⟩ := build_eq_ok.mp h
  have hviews := length_viewNames p
  have hinputs : (k, p.sources.length + i) ∉ inputs := fun hm => by
    have := le_of_sinkEdges hs _ hm
    omega
  rw [List.mem_append, or_iff_left hinputs, mem_allTransformEdges he]
  constructor
  · rintro ⟨j, hj, he⟩
    rwa [Nat.add_left_cancel he]
  · exact fun h => ⟨i, h, rfl⟩

/-! ### Queries -/

/-- The query of the transform at `i` reads the view at `k`. -/
def Reads (p : Pipeline) (queries : List Query) (k i : Nat) : Prop :=
  i < p.transforms.length ∧ ∃ q n, queries[i]? = some q ∧ q.Reads n ∧
    lastIndex? n 0 p.viewNames = some k

theorem refers_iff_reads {p : Pipeline} {queries : List Query}
    (h : ∀ q ∈ queries, ∀ n ∈ p.viewNames, ¬ q.Misleads n) {k i : Nat} :
    Refers p.viewNames p.transforms.length (queries.map Query.text) k i ↔ Reads p queries k i := by
  refine and_congr_right fun _ => ?_
  constructor
  · rintro ⟨_, n, hs, hn, hk⟩
    rw [List.getElem?_map, Option.map_eq_some_iff] at hs
    obtain ⟨q, hq, rfl⟩ := hs
    have hview := mem_of_lastIndex? hk
    have hreads := (q.mem_referencedRelations_iff_reads.mp hn).resolve_right
      (h q (List.mem_of_getElem? hq) n hview)
    exact ⟨q, n, hq, hreads, hk⟩
  · rintro ⟨q, n, hq, hn, hk⟩
    exact ⟨q.text, n, by simp [hq], q.mem_referencedRelations_iff_reads.mpr (.inl hn), hk⟩

/-- A query is seen to read the tables that it reads, and the names that it has in the place of a
relation without reading them. Where none of the latter is a view, the graph is built if every view
is declared before its readers and every sink reads a declared view, and it has the edges from the
views to their readers. -/
theorem build_reads (p : Pipeline) (queries : List Query) :
    (∀ q ∈ queries, ∀ n, n ∈ referencedRelations q.text ↔ q.Reads n ∨ q.Misleads n) ∧
    ((∀ q ∈ queries, ∀ n ∈ p.viewNames, ¬ q.Misleads n) →
      ((∃ g, build p (queries.map Query.text) = .ok g) ↔
        (∀ k i, Reads p queries k i → k < p.sources.length + i) ∧
          ∀ a ∈ p.sinks, a.input ∈ p.viewNames) ∧
      ∀ g, build p (queries.map Query.text) = .ok g → ∀ k, ∀ i < p.transforms.length,
        (k, p.sources.length + i) ∈ g.edges ↔ Reads p queries k i) := by
  refine ⟨fun q _ n => q.mem_referencedRelations_iff_reads, fun h => ⟨?_, fun g hg k i hi => ?_⟩⟩
  · simp only [build_isOk, refers_iff_reads h]
  · rw [mem_edges_of_build hg hi, refers_iff_reads h]

/-- The tokens of a query of the day of one column of one relation. -/
def dayFrom (column relation : String) : List SqlToken :=
  [.word "SELECT", .word "EXTRACT", .mark '(', .word "DAY", .word "FROM", .word column, .mark ')',
    .word "FROM", .word relation]

theorem mentions_dayFrom {column relation : String}
    (hc : (SqlToken.word column).isKeyword queryWords = false)
    (hr : (SqlToken.word relation).isKeyword queryWords = false) :
    Mentions .query .free .listed (dayFrom column relation)
      [.operand column, .table relation] := by
  have hkeys := isKeyword_of_isName (.plain hc)
  have hcolumn : Place.brackets.Allows (.word column) :=
    ⟨by simp, hkeys.1, fun _ => by simp, fun h => absurd rfl h⟩
  have hinside : Mentions (.expr .brackets) .free .listed
      [.word "DAY", .word "FROM", .word column] [.operand column] :=
    .token (by decide) (by simp) (.from (isWord_self "FROM")
      (.operand hcolumn (namesRelation_of_isName (.plain hc)) (by simp) .done))
  have hexpr : Mentions (.expr .list) .free .free (.word "EXTRACT" :: .mark '(' ::
      ([.word "DAY", .word "FROM", .word column] ++ [.mark ')'])) ([.operand column] ++ []) :=
    .token (by decide) (by simp) (.group hinside (by simp) .done)
  have hitem : Mentions .item .awaited .listed [.word relation] [.table relation] :=
    .table (.plain hr) (.inl rfl)
  exact .query (isWord_self "SELECT") hexpr (isWord_self "FROM") hitem .noItem
    (.skip (.skip (.skip (.skip (.skip .noClause))))) .noUnion

/-- The tokens of a query with a named query of events in front. -/
def withEvents (name : String) (main : List SqlToken) : List SqlToken :=
  .word "WITH" :: ((.word name :: ([] ++ .word "AS" :: .mark '(' ::
    (selectFrom "id" "events" ++ [.mark ')']))) ++ main)

theorem selection_withEvents {name : String} {main : List SqlToken} {e : Standing}
    {ms : List Mention} (hn : (SqlToken.word name).isKeyword queryWords = false)
    (h : Mentions .query .free e main ms) :
    Selection (withEvents name main) [name] (.table "events" :: ms) := by
  have hselect : Derives .query (selectFrom "id" "events") ["events"] :=
    derives_selectFrom (by decide) rfl
  obtain ⟨e, he, hevents⟩ := mentions_of_derives hselect
  exact .named (isWord_self "WITH") (.one (.plain hn) .none (isWord_self "AS") hevents he) h

def eventsQuery : Query where
  text := "SELECT * FROM events"
  tokens := [.word "SELECT", .mark '*', .word "FROM", .word "events"]
  bound := []
  mentions := [.table "events"]
  written := ofText_eq_iff.mp (by decide +kernel)
  selection := by
    have hq : Derives .query [.word "SELECT", .mark '*', .word "FROM", .word "events"] ["events"] :=
      Derives.query (isWord_self "SELECT") (.token (by decide) .empty) (isWord_self "FROM")
        (.table (.plain rfl) (.inl rfl)) .noItem derives_noClauses .noUnion
    obtain ⟨e, -, h⟩ := mentions_of_derives hq
    exact .plain h

/-- A query of a named query, with `FROM` in an expression. -/
def recentQuery : Query where
  text := "WITH recent AS (SELECT id FROM events) SELECT EXTRACT(DAY FROM ts) FROM recent"
  tokens := withEvents "recent" (dayFrom "ts" "recent")
  bound := ["recent"]
  mentions := [.table "events", .operand "ts", .table "recent"]
  written := ofText_eq_iff.mp (by decide +kernel)
  selection := selection_withEvents rfl (mentions_dayFrom rfl rfl)

theorem build_reads_recentQuery :
    (∀ q ∈ [recentQuery, eventsQuery], ∀ n ∈ (totalsAfter recentQuery.text).viewNames,
      ¬ q.Misleads n) ∧
    ∃ g, build (totalsAfter recentQuery.text) ([recentQuery, eventsQuery].map Query.text) = .ok g := by
  have hviews : ∀ q ∈ [recentQuery, eventsQuery],
      ∀ n ∈ (totalsAfter recentQuery.text).viewNames, ¬ q.Misleads n := by decide
  have hevents : ∀ q ∈ [recentQuery, eventsQuery], ∀ n, q.Reads n → n = "events" := by
    simp only [List.forall_mem_cons, List.not_mem_nil, false_imp_iff, implies_true, and_true]
    refine ⟨fun n h => ?_, fun n h => ?_⟩
    · obtain ⟨hm, hb⟩ : Mention.table n ∈ [Mention.table "events", .operand "ts", .table "recent"] ∧
        n ∉ ["recent"] := h
      simp_all
    · obtain ⟨hm, -⟩ : Mention.table n ∈ [Mention.table "events"] ∧ n ∉ [] := h
      simp_all
  have hbefore : ∀ k i, Reads (totalsAfter recentQuery.text) [recentQuery, eventsQuery] k i →
      k < (totalsAfter recentQuery.text).sources.length + i := by
    rintro k i ⟨-, q, n, hq, hn, hk⟩
    obtain rfl := hevents q (List.mem_of_getElem? hq) n hn
    cases hk
    exact Nat.lt_add_right i Nat.one_pos
  exact ⟨hviews, ((build_reads _ _).2 hviews).1.mpr ⟨hbefore, by rintro _ ⟨⟩⟩⟩

/-- A query of events that has `totals` as a column behind the `FROM` of an expression. -/
def columnQuery : Query where
  text := "SELECT EXTRACT(DAY FROM totals) FROM events"
  tokens := dayFrom "totals" "events"
  bound := []
  mentions := [.operand "totals", .table "events"]
  written := ofText_eq_iff.mp (by decide +kernel)
  selection := .plain (mentions_dayFrom rfl rfl)

/-- A query of events that names a query `totals` itself. -/
def namedQuery : Query where
  text := "WITH totals AS (SELECT id FROM events) SELECT id FROM totals"
  tokens := withEvents "totals" (selectFrom "id" "totals")
  bound := ["totals"]
  mentions := [.table "events", .table "totals"]
  written := ofText_eq_iff.mp (by decide +kernel)
  selection := by
    have hselect : Derives .query (selectFrom "id" "totals") ["totals"] :=
      derives_selectFrom (by decide) rfl
    obtain ⟨e, -, h⟩ := mentions_of_derives hselect
    exact selection_withEvents rfl h

/-- The first transform is seen to read the second one, and no graph is built. -/
theorem build_totalsAfter_error {sql : String} (h : transformEdges ["events", "first", "totals"]
    "first" 1 (referencedRelations sql) = .error (.forwardReference "first" "totals")) :
    build (totalsAfter sql) [sql, "SELECT * FROM events"] =
      .error (.forwardReference "first" "totals") := by
  have hviews : (totalsAfter sql).viewNames = ["events", "first", "totals"] := rfl
  have hsources : (totalsAfter sql).sources.length = 1 := rfl
  have htransforms : (totalsAfter sql).transforms =
    [⟨"first", sql, none⟩, ⟨"totals", "SELECT * FROM events", none⟩] := rfl
  simp [build, hviews, hsources, htransforms, allTransformEdges, h, bind, Except.bind]

/-- Queries that read nothing but events are seen to read `totals`, and no graph is built. -/
theorem build_misled :
    ((∀ n, columnQuery.Reads n ↔ n = "events") ∧
      "totals" ∈ referencedRelations columnQuery.text ∧
      build (totalsAfter columnQuery.text) [columnQuery.text, "SELECT * FROM events"] =
        .error (.forwardReference "first" "totals")) ∧
    (∀ n, namedQuery.Reads n ↔ n = "events") ∧
      "totals" ∈ referencedRelations namedQuery.text ∧
      build (totalsAfter namedQuery.text) [namedQuery.text, "SELECT * FROM events"] =
        .error (.forwardReference "first" "totals") := by
  refine ⟨⟨fun n => ?_, columnQuery.mem_referencedRelations.mpr (by decide), ?_⟩,
    fun n => ?_, namedQuery.mem_referencedRelations.mpr (by decide), ?_⟩
  · simp [Query.Reads, columnQuery]
  · apply build_totalsAfter_error
    rw [referencedRelations_selection columnQuery.written columnQuery.selection]
    decide
  · simp only [Query.Reads, namedQuery, List.mem_cons, Mention.table.injEq, List.not_mem_nil,
      or_false]
    constructor
    · rintro ⟨h, hn⟩
      exact h.resolve_right hn
    · rintro rfl
      exact ⟨.inl rfl, by decide⟩
  · apply build_totalsAfter_error
    rw [referencedRelations_selection namedQuery.written namedQuery.selection]
    decide

end DependencyGraph

end StreamPipeline
