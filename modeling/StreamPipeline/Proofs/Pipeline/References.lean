import StreamPipeline.Pipeline.Dependencies
import StreamPipeline.Proofs.Sql.TablePosition

/-! # References to later views

A transform whose query is seen to read itself, or a view that is declared later, stops the building
of the graph. The query is seen to read what stands behind `FROM` or `JOIN` or behind a comma of a
`FROM` list, so a view behind an opening bracket or behind `TABLE` is not noticed.
-/

namespace StreamPipeline

namespace DependencyGraph

open Sql

theorem start_le_lastIndex? {name : String} {start k : Nat} {views : List String}
    (h : lastIndex? name start views = some k) : start ≤ k := by
  induction views generalizing start with
  | nil => cases h
  | cons v views ih =>
    simp only [lastIndex?, Option.or_eq_some_iff] at h
    rcases h with h | ⟨-, h⟩
    · exact Nat.le_of_succ_le (ih h)
    · split at h
      · cases h; exact Nat.le_refl _
      · cases h

theorem le_lastIndex? {name : String} {start j : Nat} {views : List String}
    (h : views[j]? = some name) : ∃ k, lastIndex? name start views = some k ∧ start + j ≤ k := by
  induction views generalizing start j with
  | nil => cases h
  | cons v views ih =>
    cases j with
    | zero =>
      cases h
      cases hl : lastIndex? name (start + 1) views with
      | none => exact ⟨start, by simp [lastIndex?, hl], Nat.le_refl start⟩
      | some k =>
        have hk := start_le_lastIndex? hl
        exact ⟨k, by simp [lastIndex?, hl], by omega⟩
    | succ j =>
      obtain ⟨k, hl, hk⟩ : ∃ k, lastIndex? name (start + 1) views = some k ∧ start + 1 + j ≤ k :=
        ih h
      exact ⟨k, by simp [lastIndex?, hl], by omega⟩

/-- A view at the transform or behind it is an error wherever it stands among the relations. -/
theorem transformEdges_error {views relations : List String} {t n : String} {node k : Nat}
    (hn : n ∈ relations) (hk : lastIndex? n 0 views = some k) (hnode : node ≤ k) :
    ∃ e, transformEdges views t node relations = .error e := by
  induction relations with
  | nil => cases hn
  | cons r rest ih =>
    unfold transformEdges
    rcases List.mem_cons.mp hn with rfl | hn
    · rw [hk]
      dsimp only
      split
      · exact ⟨_, rfl⟩
      next hne => exact ⟨_, if_pos (by omega)⟩
    · obtain ⟨e, he⟩ := ih hn
      rw [he]
      split
      · exact ⟨e, rfl⟩
      split
      · exact ⟨_, rfl⟩
      split
      · exact ⟨_, rfl⟩
      · exact ⟨e, rfl⟩

theorem transformEdges_ok {views relations : List String} (t : String) {node : Nat}
    (h : ∀ n ∈ relations, ∀ k, lastIndex? n 0 views = some k → k < node) :
    ∃ edges, transformEdges views t node relations = .ok edges := by
  induction relations with
  | nil => exact ⟨[], rfl⟩
  | cons r rest ih =>
    obtain ⟨hr, hrest⟩ := List.forall_mem_cons.mp h
    obtain ⟨edges, he⟩ := ih hrest
    unfold transformEdges
    rw [he]
    split
    · exact ⟨edges, rfl⟩
    next k hk =>
      have hlt := hr k hk
      rw [if_neg (by omega), if_neg (by omega)]
      exact ⟨_, rfl⟩

/-- The error of one transform is an error of all of them, though perhaps not the first. -/
theorem allTransformEdges_error {views rendered : List String} {transforms : List Transform}
    {node i : Nat} {t : Transform} {sql : String} {e : ConfigError} (ht : transforms[i]? = some t)
    (hs : rendered[i]? = some sql)
    (he : transformEdges views t.name (node + i) (referencedRelations sql) = .error e) :
    ∃ e, allTransformEdges views node transforms rendered = .error e := by
  induction i generalizing node transforms rendered with
  | zero =>
    obtain ⟨transforms, rfl⟩ := List.head?_eq_some_iff.mp (List.head?_eq_getElem? ▸ ht)
    obtain ⟨rendered, rfl⟩ := List.head?_eq_some_iff.mp (List.head?_eq_getElem? ▸ hs)
    rw [Nat.add_zero] at he
    exact ⟨e, by simp [allTransformEdges, he, bind, Except.bind]⟩
  | succ i ih =>
    cases transforms with
    | nil => cases ht
    | cons t' transforms =>
    cases rendered with
    | nil => cases hs
    | cons sql' rendered =>
    obtain ⟨e', he'⟩ : ∃ e, allTransformEdges views (node + 1) transforms rendered = .error e :=
      ih ht hs (by rwa [Nat.add_right_comm])
    unfold allTransformEdges
    cases transformEdges views t'.name node (referencedRelations sql') with
    | error e => exact ⟨e, rfl⟩
    | ok own => exact ⟨e', by simp [he', bind, Except.bind]⟩

theorem build_error {p : Pipeline} {rendered : List String} {i j : Nat} {sql n : String}
    (hi : i < p.transforms.length) (hs : rendered[i]? = some sql) (hv : p.viewNames[j]? = some n)
    (hj : p.sources.length + i ≤ j) (hn : n ∈ referencedRelations sql) :
    ∃ e, build p rendered = .error e := by
  obtain ⟨k, hk, hle⟩ : ∃ k, lastIndex? n 0 p.viewNames = some k ∧ 0 + j ≤ k := le_lastIndex? hv
  have hnode : p.sources.length + i ≤ k := by omega
  obtain ⟨e, he⟩ := transformEdges_error (t := p.transforms[i].name) hn hk hnode
  obtain ⟨e, he⟩ := allTransformEdges_error (List.getElem?_eq_getElem hi) hs he
  exact ⟨e, by simp [build, he, bind, Except.bind]⟩

/-- A view at a transform or behind it whose name stands in the transform's query behind `FROM` or
`JOIN`, or behind a comma of the list that one of them began, is an error. A name that stands behind
none of these, such as behind a bracket or behind `TABLE`, is not noticed. -/
theorem build_tablePosition {p : Pipeline} {rendered : List String} {i j : Nat} {sql n : String}
    {ts : List SqlToken} (hi : i < p.transforms.length) (hs : rendered[i]? = some sql)
    (hv : p.viewNames[j]? = some n) (hj : p.sources.length + i ≤ j) (hw : Written sql.toList ts) :
    ((∃ before t after, ts = before ++ t :: after ∧ TablePosition before ∧ NamesRelation n t ∧
      .mark '.' ∉ after.head?) → ∃ e, build p rendered = .error e) ∧
    ((∀ before t after, ts = before ++ t :: after → Seen n before t → .mark '.' ∈ after.head?) →
      n ∉ referencedRelations sql) := by
  refine ⟨?_, fun hnone hn => ?_⟩
  · rintro ⟨before, t, after, rfl, hp, hn, hd⟩
    exact build_error hi hs hv hj (mem_of_tablePosition hw hp hn hd)
  · obtain ⟨before, t, after, he, hseen, hd⟩ := seen_of_mem hw hn
    exact hd (hnone before t after he hseen)

/-- A pipeline whose first transform has the given query and whose second transform is `totals`. -/
def totalsAfter (sql : String) : Pipeline where
  name := "totals"
  specVersion := "1"
  parallelism := 1
  checkpointDir := "file:///checkpoints"
  savepointDir := "file:///savepoints"
  sources := [⟨"events", "shop.events", none, 1, .dataset⟩]
  transforms := [⟨"first", sql, none⟩, ⟨"totals", "SELECT * FROM events", none⟩]
  sinks := []

/-- A reference behind a comma of a `FROM` list. -/
def listSql : String := "SELECT * FROM events e, totals t -- later"

theorem build_tablePosition_listSql :
    0 < (totalsAfter listSql).transforms.length ∧
    [listSql, "SELECT * FROM events"][0]? = some listSql ∧
    (totalsAfter listSql).viewNames[2]? = some "totals" ∧
    (totalsAfter listSql).sources.length + 0 ≤ 2 ∧
    Written listSql.toList [.word "SELECT", .mark '*', .word "FROM", .word "events", .word "e",
      .mark ',', .word "totals", .word "t"] ∧
    ∃ e, build (totalsAfter listSql) [listSql, "SELECT * FROM events"] = .error e := by
  have hw : Written listSql.toList [.word "SELECT", .mark '*', .word "FROM", .word "events",
      .word "e", .mark ',', .word "totals", .word "t"] := ofText_eq_iff.mp (by decide +kernel)
  have hlist : Bracketed false (.word "FROM") [.word "events", .word "e"] (.word "e") :=
    .token (by simp) (by simp) (fun _ => by decide)
      (.token (by simp) (by simp) (fun _ => by decide) .nil)
  have hend : MayEnd (.word "e") := by
    refine ⟨?_, by simp⟩
    rintro (h | h)
    · revert h; decide
    · cases h
  have hcomma : TablePosition [.word "SELECT", .mark '*', .word "FROM", .word "events", .word "e",
      .mark ','] :=
    @TablePosition.comma [.word "SELECT", .mark '*'] _ _ _ (by simp) (by decide) hlist hend
  have hs : [listSql, "SELECT * FROM events"][0]? = some listSql := rfl
  have h := build_tablePosition (p := totalsAfter listSql) (i := 0) (j := 2) (by decide) hs rfl
    (by decide) hw
  exact ⟨by decide, hs, rfl, by decide, hw,
    h.1 ⟨_, _, _, rfl, hcomma, .plain (by decide) (by decide), by simp⟩⟩

/-- The last transform reads `events`, so the pipeline builds if the first reads nothing else. -/
theorem build_totalsAfter {sql : String} (h : ∀ n ∈ referencedRelations sql, n = "events") :
    ∃ g, build (totalsAfter sql) [sql, "SELECT * FROM events"] = .ok g := by
  have hevents : ∀ n ∈ referencedRelations "SELECT * FROM events", n = "events" := by
    have ht : SqlToken.ofText "SELECT * FROM events" =
        [.word "SELECT", .mark '*', .word "FROM", .word "events"] := by decide +kernel
    rw [referencedRelations, ht]
    decide
  have hviews : (totalsAfter sql).viewNames = ["events", "first", "totals"] := rfl
  have hbefore {relations : List String} (h : ∀ n ∈ relations, n = "events") (node : Nat)
      (hn : 0 < node) : ∀ n ∈ relations, ∀ k,
        lastIndex? n 0 ["events", "first", "totals"] = some k → k < node := by
    intro n hm k hk
    obtain rfl := h n hm
    cases hk
    exact hn
  obtain ⟨first, hfirst⟩ := transformEdges_ok "first" (hbefore h 1 (by decide))
  obtain ⟨totals, htotals⟩ := transformEdges_ok "totals" (hbefore hevents 2 (by decide))
  have hedges : allTransformEdges (totalsAfter sql).viewNames (totalsAfter sql).sources.length
      (totalsAfter sql).transforms [sql, "SELECT * FROM events"] =
        .ok (first.eraseDups ++ (totals.eraseDups ++ [])) := by
    rw [hviews]
    simp [totalsAfter, allTransformEdges, hfirst, htotals, bind, Except.bind, pure, Except.pure]
  have hsinks : sinkEdges (totalsAfter sql).viewNames (totalsAfter sql).viewNames.length
      (totalsAfter sql).sinks = .ok [] := rfl
  exact ⟨_, by simp only [build, hedges, hsinks, bind, Except.bind]; rfl⟩

/-- A reference in the argument of a window function. -/
def windowSql : String :=
  "SELECT * FROM TABLE(TUMBLE(TABLE totals, DESCRIPTOR(ts), INTERVAL '1' MINUTE))"

def windowTokens : List SqlToken :=
  [.word "SELECT", .mark '*', .word "FROM", .word "TABLE", .mark '(', .word "TUMBLE", .mark '(',
    .word "TABLE", .word "totals", .mark ',', .word "DESCRIPTOR", .mark '(', .word "ts", .mark ')',
    .mark ',', .word "INTERVAL", .word "MINUTE", .mark ')', .mark ')']

/-- A reference at the front of a join in brackets. -/
def joinSql : String := "SELECT * FROM (totals JOIN events ON true)"

def joinTokens : List SqlToken :=
  [.word "SELECT", .mark '*', .word "FROM", .mark '(', .word "totals", .word "JOIN",
    .word "events", .word "ON", .word "true", .mark ')']

/-- References to a later view behind `TABLE` and behind an opening bracket are not noticed. -/
theorem build_unnoticed :
    Written windowSql.toList windowTokens ∧ Written joinSql.toList joinTokens ∧
    ∀ sql ∈ [windowSql, joinSql], (totalsAfter sql).viewNames[2]? = some "totals" ∧
      ∃ g, build (totalsAfter sql) [sql, "SELECT * FROM events"] = .ok g := by
  have hwindow : SqlToken.ofText windowSql = windowTokens := by decide +kernel
  have hjoin : SqlToken.ofText joinSql = joinTokens := by decide +kernel
  refine ⟨ofText_eq_iff.mp hwindow, ofText_eq_iff.mp hjoin, ?_⟩
  have hw : referencedRelations windowSql = [] := by
    rw [referencedRelations, hwindow]
    decide
  have hj : referencedRelations joinSql = ["events"] := by
    rw [referencedRelations, hjoin]
    decide
  simp only [List.forall_mem_cons, List.not_mem_nil, false_imp_iff, implies_true, and_true]
  exact ⟨⟨rfl, build_totalsAfter (by simp [hw])⟩, ⟨rfl, build_totalsAfter (by simp [hj])⟩⟩

end DependencyGraph

end StreamPipeline
