import StreamPipeline.Proofs.Pipeline.Readers
import StreamPipeline.Proofs.Results

/-! # The first offence

A pipeline is built exactly where every declared view is declared before the transforms that are
seen to read it, and every sink reads a declared view. Where it is not built, the error is about the
first transform with a bad reference and the first such reference in it; only where there is none it
is about the first sink without an input.
-/

namespace StreamPipeline

namespace DependencyGraph

open Sql

/-! ### Places of views -/

theorem lastIndex?_of_getElem? {name : String} {start k : Nat} {views : List String}
    (hn : views.Nodup) (h : views[k]? = some name) :
    lastIndex? name start views = some (start + k) := by
  induction views generalizing start k with
  | nil => cases h
  | cons v views ih =>
    obtain ⟨hv, hn⟩ := List.nodup_cons.mp hn
    cases k with
    | zero =>
      cases h
      have hrest : lastIndex? name (start + 1) views = none := by
        refine Option.eq_none_iff_forall_not_mem.mpr fun j hj => ?_
        exact hv (mem_of_lastIndex? hj)
      simp [lastIndex?, hrest]
    | succ k =>
      rw [lastIndex?, ih hn h, Option.some_or, Nat.add_right_comm, Nat.add_assoc]

/-- Where the names are distinct, the last place of a name is its only one. -/
theorem lastIndex?_eq_some_iff {name : String} {k : Nat} {views : List String}
    (hn : views.Nodup) : lastIndex? name 0 views = some k ↔ views[k]? = some name := by
  refine ⟨fun h => ?_, fun h => Nat.zero_add k ▸ lastIndex?_of_getElem? hn h⟩
  obtain ⟨j, hj⟩ := List.mem_iff_getElem?.mp (mem_of_lastIndex? h)
  have hl : lastIndex? name 0 views = some (0 + j) := lastIndex?_of_getElem? hn hj
  obtain rfl : 0 + j = k := Option.some.inj (hl.symm.trans h)
  rwa [Nat.zero_add]

theorem lastIndex?_eq_none_iff {name : String} {views : List String} :
    lastIndex? name 0 views = none ↔ name ∉ views := by
  constructor
  · intro h hm
    obtain ⟨j, hj⟩ := List.mem_iff_getElem?.mp hm
    obtain ⟨k, hk, -⟩ : ∃ k, lastIndex? name 0 views = some k ∧ 0 + j ≤ k := le_lastIndex? hj
    cases h.symm.trans hk
  · exact fun h => Option.eq_none_iff_forall_not_mem.mpr fun _ hk => h (mem_of_lastIndex? hk)

/-! ### The first bad reference of a transform -/

/-- The view of that name has its place at the node or behind it. -/
def Behind (views : List String) (node : Nat) (name : String) : Prop :=
  ∃ k, lastIndex? name 0 views = some k ∧ node ≤ k

/-- The error over a reference to a view that is not declared before the transform. -/
def referenceError (transform relation : String) : ConfigError :=
  if relation = transform then .selfReference transform else .forwardReference transform relation

/-- The reading of the relations stops at the first that is not declared before the transform. -/
theorem transformEdges_eq_error_iff {views relations : List String} {t : String} {node : Nat}
    {e : ConfigError} (hn : views.Nodup) (ht : views[node]? = some t) :
    transformEdges views t node relations = .error e ↔
      ∃ before n after, relations = before ++ n :: after ∧ (∀ m ∈ before, ¬ Behind views node m) ∧
        Behind views node n ∧ e = referenceError t n := by
  induction relations with
  | nil => simp [transformEdges]
  | cons r rest ih =>
    have hpassed (hr : ¬ Behind views node r) :
        (∃ before n after, r :: rest = before ++ n :: after ∧
          (∀ m ∈ before, ¬ Behind views node m) ∧ Behind views node n ∧ e = referenceError t n) ↔
        transformEdges views t node rest = .error e := by
      rw [ih]
      constructor
      · rintro ⟨before, n, after, he, hb, hbehind, rfl⟩
        cases before with
        | nil => cases he; exact absurd hbehind hr
        | cons m before =>
          cases he
          exact ⟨before, n, after, rfl, fun m hm => hb m (.tail _ hm), hbehind, rfl⟩
      · rintro ⟨before, n, after, rfl, hb, hbehind, rfl⟩
        exact ⟨r :: before, n, after, rfl, List.forall_mem_cons.mpr ⟨hr, hb⟩, hbehind, rfl⟩
    have hstopped {k : Nat} (hk : lastIndex? r 0 views = some k) (hle : node ≤ k) :
        (∃ before n after, r :: rest = before ++ n :: after ∧
          (∀ m ∈ before, ¬ Behind views node m) ∧ Behind views node n ∧ e = referenceError t n) ↔
        e = referenceError t r := by
      constructor
      · rintro ⟨before, n, after, he, hb, -, rfl⟩
        cases before with
        | nil => cases he; rfl
        | cons m before => cases he; exact absurd ⟨k, hk, hle⟩ (hb _ List.mem_cons_self)
      · rintro rfl
        exact ⟨[], r, rest, rfl, by simp, ⟨k, hk, hle⟩, rfl⟩
    rw [transformEdges]
    split
    next hr =>
      refine (hpassed ?_).symm
      rintro ⟨k, hk, -⟩
      cases hr.symm.trans hk
    next k hk =>
      have hat : views[k]? = some r := (lastIndex?_eq_some_iff hn).mp hk
      split
      next heq =>
        obtain rfl : r = t := Option.some.inj (hat.symm.trans (heq ▸ ht))
        rw [hstopped hk (Nat.le_of_eq heq.symm), referenceError, if_pos rfl, Except.error.injEq,
          eq_comm]
      next hne =>
        have hrt : r ≠ t := by
          rintro rfl
          exact hne (Option.some.inj (hk.symm.trans ((lastIndex?_eq_some_iff hn).mpr ht)))
        split
        next hlt =>
          rw [hstopped hk (Nat.le_of_lt hlt), referenceError, if_neg hrt, Except.error.injEq,
            eq_comm]
        next hge =>
          rw [hpassed ?_]
          · cases transformEdges views t node rest <;> simp [Except.map]
          rintro ⟨j, hj, hle⟩
          obtain rfl : k = j := Option.some.inj (hk.symm.trans hj)
          omega

/-- All transforms fail with the error of the first of them that fails. -/
theorem allTransformEdges_eq_error_iff {views rendered : List String} {transforms : List Transform}
    {node : Nat} {e : ConfigError} :
    allTransformEdges views node transforms rendered = .error e ↔
      ∃ i t sql, transforms[i]? = some t ∧ rendered[i]? = some sql ∧
        (∀ k < i, ∀ u s, transforms[k]? = some u → rendered[k]? = some s →
          ∃ edges, transformEdges views u.name (node + k) (referencedRelations s) = .ok edges) ∧
        transformEdges views t.name (node + i) (referencedRelations sql) = .error e := by
  induction transforms generalizing node rendered with
  | nil => simp [allTransformEdges]
  | cons t transforms ih =>
    cases rendered with
    | nil => simp [allTransformEdges]
    | cons sql rendered =>
      unfold allTransformEdges
      have hsum (i : Nat) : node + 1 + i = node + (i + 1) := by omega
      cases ht : transformEdges views t.name node (referencedRelations sql) with
      | error e' =>
        constructor
        · rintro ⟨⟩
          exact ⟨0, t, sql, rfl, rfl, by simp, ht⟩
        · rintro ⟨i, u, s, hu, hs, hbefore, he⟩
          cases i with
          | zero => cases hu; cases hs; cases ht.symm.trans he; rfl
          | succ i =>
            obtain ⟨edges, hok⟩ := hbefore 0 i.succ_pos t sql rfl rfl
            cases ht.symm.trans hok
      | ok own =>
        have hrest : (do
            let more ← allTransformEdges views (node + 1) transforms rendered
            return own.eraseDups ++ more) = .error e ↔
            allTransformEdges views (node + 1) transforms rendered = .error e := by
          cases allTransformEdges views (node + 1) transforms rendered <;>
            simp [bind, Except.bind, pure, Except.pure]
        refine hrest.trans (ih.trans ⟨?_, ?_⟩)
        · rintro ⟨i, u, s, hu, hs, hbefore, he⟩
          refine ⟨i + 1, u, s, hu, hs, fun k hk v q hv hq => ?_, hsum i ▸ he⟩
          cases k with
          | zero => cases hv; cases hq; exact ⟨own, ht⟩
          | succ k => exact hsum k ▸ hbefore k (Nat.lt_of_succ_lt_succ hk) v q hv hq
        · rintro ⟨i, u, s, hu, hs, hbefore, he⟩
          cases i with
          | zero => cases hu; cases hs; cases ht.symm.trans he
          | succ i =>
            refine ⟨i, u, s, hu, hs, fun k hk v q hv hq => ?_, (hsum i).symm ▸ he⟩
            exact (hsum k).symm ▸ hbefore (k + 1) (Nat.succ_lt_succ hk) v q hv hq

/-- The sinks fail over the first that reads no declared view. -/
theorem sinkEdges_eq_error_iff {views : List String} {sinks : List Sink} {node : Nat}
    {e : ConfigError} : sinkEdges views node sinks = .error e ↔
      ∃ before a after, sinks = before ++ a :: after ∧ (∀ b ∈ before, b.input ∈ views) ∧
        a.input ∉ views ∧ e = .undeclaredInput a.name a.input := by
  induction sinks generalizing node with
  | nil => simp [sinkEdges]
  | cons a rest ih =>
    unfold sinkEdges
    split
    next ha =>
      rw [lastIndex?_eq_none_iff] at ha
      constructor
      · rintro ⟨⟩
        exact ⟨[], a, rest, rfl, by simp, ha, rfl⟩
      · rintro ⟨before, b, after, he, hb, -, rfl⟩
        cases before with
        | nil => cases he; rfl
        | cons c before => cases he; exact absurd (hb _ List.mem_cons_self) ha
    next k hk =>
      have hmap : (sinkEdges views (node + 1) rest).map (fun edges => (k, node) :: edges) =
          .error e ↔ sinkEdges views (node + 1) rest = .error e := by
        cases sinkEdges views (node + 1) rest <;> simp [Except.map]
      have ha := mem_of_lastIndex? hk
      refine hmap.trans (ih.trans ⟨?_, ?_⟩)
      · rintro ⟨before, b, after, rfl, hb, hne, rfl⟩
        exact ⟨a :: before, b, after, rfl, List.forall_mem_cons.mpr ⟨ha, hb⟩, hne, rfl⟩
      · rintro ⟨before, b, after, he, hb, hne, rfl⟩
        cases before with
        | nil => cases he; exact absurd ha hne
        | cons c before =>
          cases he
          exact ⟨before, b, after, rfl, fun d hd => hb d (.tail _ hd), hne, rfl⟩

/-! ### The first offence of a pipeline -/

/-- The name is that of a source, or of one of the transforms in front of the one at `i`. -/
def DeclaredBefore (p : Pipeline) (i : Nat) (name : String) : Prop :=
  name ∈ p.sourceNames ++ p.transformNames.take i

instance (p : Pipeline) (i : Nat) (name : String) : Decidable (DeclaredBefore p i name) :=
  inferInstanceAs (Decidable (name ∈ _))

/-- A transform at `i` may not read this: it is declared, but not before the transform. -/
def Offends (p : Pipeline) (i : Nat) (name : String) : Prop :=
  name ∈ p.viewNames ∧ ¬ DeclaredBefore p i name

instance (p : Pipeline) (i : Nat) (name : String) : Decidable (Offends p i name) :=
  inferInstanceAs (Decidable (_ ∧ _))

/-- The error of the first transform that is seen to read what it may not read, at the first such
name; and without such a transform, of the first sink that reads no source and no transform. -/
inductive FirstOffence (p : Pipeline) (rendered : List String) : ConfigError → Prop where
  | reference {i : Nat} {t : Transform} {sql n : String} {before after : List String} :
      p.transforms[i]? = some t → rendered[i]? = some sql →
      (∀ k < i, ∀ s, rendered[k]? = some s → ∀ m ∈ referencedRelations s, ¬ Offends p k m) →
      referencedRelations sql = before ++ n :: after → (∀ m ∈ before, ¬ Offends p i m) →
      Offends p i n → FirstOffence p rendered (referenceError t.name n)
  | input {a : Sink} {before after : List Sink} :
      (∀ k s, rendered[k]? = some s → ∀ m ∈ referencedRelations s, ¬ Offends p k m) →
      p.sinks = before ++ a :: after → (∀ b ∈ before, b.input ∈ p.viewNames) →
      a.input ∉ p.viewNames → FirstOffence p rendered (.undeclaredInput a.name a.input)

variable {p : Pipeline} {rendered : List String}

theorem take_viewNames (p : Pipeline) (i : Nat) :
    p.viewNames.take (p.sources.length + i) = p.sourceNames ++ p.transformNames.take i := by
  have hl : p.sources.length = p.sourceNames.length := by simp [Pipeline.sourceNames]
  rw [Pipeline.viewNames, hl, List.take_length_add_append]

theorem behind_iff_offends (hn : p.viewNames.Nodup) {i : Nat} {name : String} :
    Behind p.viewNames (p.sources.length + i) name ↔ Offends p i name := by
  rw [Offends, DeclaredBefore, ← take_viewNames]
  simp only [Behind, lastIndex?_eq_some_iff hn]
  constructor
  · rintro ⟨k, hk, hle⟩
    refine ⟨List.mem_of_getElem? hk, fun hm => ?_⟩
    obtain ⟨j, hj⟩ := List.mem_iff_getElem?.mp hm
    rw [List.getElem?_take] at hj
    split at hj
    next hlt =>
      rw [← lastIndex?_eq_some_iff hn] at hj hk
      obtain rfl : j = k := Option.some.inj (hj.symm.trans hk)
      omega
    next => cases hj
  · rintro ⟨hm, hnot⟩
    obtain ⟨k, hk⟩ := List.mem_iff_getElem?.mp hm
    refine ⟨k, hk, Nat.le_of_not_lt fun hlt => hnot ?_⟩
    exact List.mem_iff_getElem?.mpr ⟨k, by rw [List.getElem?_take, if_pos hlt, hk]⟩

theorem getElem?_viewNames_of_transform {i : Nat} {t : Transform} (ht : p.transforms[i]? = some t) :
    p.viewNames[p.sources.length + i]? = some t.name := by
  have hl : p.sources.length = p.sourceNames.length := by simp [Pipeline.sourceNames]
  rw [Pipeline.viewNames, hl, List.getElem?_append_right (Nat.le_add_right _ _),
    Nat.add_sub_cancel_left, Pipeline.transformNames, List.getElem?_map, ht, Option.map_some]

/-- A transform has its edges if its query is not seen to read what it may not read. -/
theorem exists_transformEdges_iff (hn : p.viewNames.Nodup) (t : String) {i : Nat}
    {relations : List String} :
    (∃ edges, transformEdges p.viewNames t (p.sources.length + i) relations = .ok edges) ↔
      ∀ m ∈ relations, ¬ Offends p i m := by
  simp only [← behind_iff_offends hn]
  constructor
  · rintro ⟨edges, hok⟩ m hm ⟨k, hk, hle⟩
    obtain ⟨e, he⟩ := transformEdges_error (t := t) hm hk hle
    cases hok.symm.trans he
  · exact fun h => transformEdges_ok t fun n hm k hk =>
      Nat.lt_of_not_le fun hle => h n hm ⟨k, hk, hle⟩

theorem exists_getElem?_of_length_eq (hl : rendered.length = p.transforms.length) {i : Nat}
    {s : String} (hs : rendered[i]? = some s) : ∃ t, p.transforms[i]? = some t := by
  have hlt := (List.getElem?_eq_some_iff.mp hs).1
  exact ⟨_, List.getElem?_eq_getElem (hl ▸ hlt)⟩

theorem exists_allTransformEdges_iff (hn : p.viewNames.Nodup)
    (hl : rendered.length = p.transforms.length) :
    (∃ edges, allTransformEdges p.viewNames p.sources.length p.transforms rendered = .ok edges) ↔
      ∀ k s, rendered[k]? = some s → ∀ m ∈ referencedRelations s, ¬ Offends p k m := by
  constructor
  · rintro ⟨edges, hok⟩ k s hs m hm hoff
    obtain ⟨t, ht⟩ := exists_getElem?_of_length_eq hl hs
    obtain ⟨j, hj, hle⟩ := (behind_iff_offends hn).mpr hoff
    obtain ⟨e, he⟩ := transformEdges_error (t := t.name) hm hj hle
    obtain ⟨e, he⟩ := allTransformEdges_error ht hs he
    cases hok.symm.trans he
  · rw [exists_ok_iff_forall_ne_error]
    intro h e he
    obtain ⟨i, t, sql, ht, hs, -, he⟩ := allTransformEdges_eq_error_iff.mp he
    obtain ⟨edges, hok⟩ := (exists_transformEdges_iff hn t.name).mpr (h i sql hs)
    cases hok.symm.trans he

/-- The transforms fail with the error of the first bad reference. -/
theorem allTransformEdges_error_iff_reference (hn : p.viewNames.Nodup)
    (hl : rendered.length = p.transforms.length) {e : ConfigError} :
    allTransformEdges p.viewNames p.sources.length p.transforms rendered = .error e ↔
      ∃ i t sql, p.transforms[i]? = some t ∧ rendered[i]? = some sql ∧
        (∀ k < i, ∀ s, rendered[k]? = some s → ∀ m ∈ referencedRelations s, ¬ Offends p k m) ∧
        ∃ before n after, referencedRelations sql = before ++ n :: after ∧
          (∀ m ∈ before, ¬ Offends p i m) ∧ Offends p i n ∧ e = referenceError t.name n := by
  rw [allTransformEdges_eq_error_iff]
  refine exists_congr fun i => exists_congr fun t => exists_congr fun sql => ?_
  refine and_congr_right fun ht => and_congr_right fun _ => and_congr ?_ ?_
  · refine forall_congr' fun k => imp_congr_right fun _ => ?_
    constructor
    · intro h s hs
      obtain ⟨u, hu⟩ := exists_getElem?_of_length_eq hl hs
      exact (exists_transformEdges_iff hn u.name).mp (h u s hu hs)
    · exact fun h u s _ hs => (exists_transformEdges_iff hn u.name).mpr (h s hs)
  · rw [transformEdges_eq_error_iff hn (getElem?_viewNames_of_transform ht)]
    simp only [behind_iff_offends hn]

theorem build_eq_error_iff {e : ConfigError} : build p rendered = .error e ↔
    allTransformEdges p.viewNames p.sources.length p.transforms rendered = .error e ∨
      (∃ edges, allTransformEdges p.viewNames p.sources.length p.transforms rendered = .ok edges) ∧
        sinkEdges p.viewNames p.viewNames.length p.sinks = .error e := by
  unfold build
  dsimp only
  cases allTransformEdges p.viewNames p.sources.length p.transforms rendered with
  | error e => simp [bind, Except.bind]
  | ok edges =>
    cases sinkEdges p.viewNames p.viewNames.length p.sinks with
    | error e => simp [bind, Except.bind]
    | ok inputs => simp [bind, Except.bind, pure, Except.pure]

/-- With distinct names and one query for each transform, the graph is built exactly if everything
declared that a query is seen to read is declared before its transform, and every sink reads a
source or a transform. Otherwise the error is that of the first offence. -/
theorem build_backward (hn : p.viewNames.Nodup) (hl : rendered.length = p.transforms.length) :
    ((∃ g, build p rendered = .ok g) ↔
      (∀ i sql, rendered[i]? = some sql → ∀ n ∈ referencedRelations sql, n ∈ p.viewNames →
        DeclaredBefore p i n) ∧ ∀ a ∈ p.sinks, a.input ∈ p.viewNames) ∧
    ∀ e, build p rendered = .error e ↔ FirstOffence p rendered e := by
  refine ⟨?_, fun e => ?_⟩
  · have hsinks : (∃ inputs, sinkEdges p.viewNames p.viewNames.length p.sinks = .ok inputs) ↔
        ∀ a ∈ p.sinks, a.input ∈ p.viewNames :=
      ⟨fun ⟨_, h⟩ => inputs_of_sinkEdges h, exists_sinkEdges⟩
    rw [← hsinks]
    have hbackward := exists_allTransformEdges_iff hn hl
    simp only [Offends, not_and, not_not] at hbackward
    rw [← hbackward]
    constructor
    · rintro ⟨g, hg⟩
      obtain ⟨edges, inputs, he, hi, -⟩ := build_eq_ok.mp hg
      exact ⟨⟨edges, he⟩, inputs, hi⟩
    · rintro ⟨⟨edges, he⟩, inputs, hi⟩
      exact ⟨_, build_eq_ok.mpr ⟨edges, inputs, he, hi, rfl⟩⟩
  · rw [build_eq_error_iff, allTransformEdges_error_iff_reference hn hl,
      exists_allTransformEdges_iff hn hl, sinkEdges_eq_error_iff]
    constructor
    · rintro (⟨i, t, sql, ht, hs, hk, before, n, after, hr, hb, ho, rfl⟩ |
        ⟨h, before, a, after, hs, hb, ha, rfl⟩)
      · exact .reference ht hs hk hr hb ho
      · exact .input h hs hb ha
    · rintro (⟨ht, hs, hk, hr, hb, ho⟩ | ⟨h, hs, hb, ha⟩)
      · exact .inl ⟨_, _, _, ht, hs, hk, _, _, _, hr, hb, ho, rfl⟩
      · exact .inr ⟨h, _, _, _, hs, hb, ha, rfl⟩

/-- Two transforms with bad references, the first of them with two, and a sink without an input. -/
def manyOffences : Pipeline where
  name := "offences"
  specVersion := "1"
  parallelism := 1
  checkpointDir := "file:///checkpoints"
  savepointDir := "file:///savepoints"
  sources := [⟨"events", "shop.events", none, 1, .dataset⟩]
  transforms := [⟨"first", "SELECT * FROM elsewhere, events", none⟩,
    ⟨"second", "SELECT * FROM first, third JOIN second ON true", none⟩,
    ⟨"third", "SELECT * FROM third", none⟩]
  sinks := [⟨"copy", "missing", .print⟩]

theorem build_backward_manyOffences :
    manyOffences.viewNames.Nodup ∧
    (manyOffences.transforms.map (·.sql)).length = manyOffences.transforms.length ∧
    build manyOffences (manyOffences.transforms.map (·.sql)) =
      .error (.forwardReference "second" "third") := by
  have hn : manyOffences.viewNames.Nodup := by decide
  have hl : (manyOffences.transforms.map (·.sql)).length = manyOffences.transforms.length := rfl
  have hfirst : referencedRelations "SELECT * FROM elsewhere, events" =
      ["elsewhere", "events"] := by decide +kernel
  have hsecond : referencedRelations "SELECT * FROM first, third JOIN second ON true" =
      ["first"] ++ "third" :: ["second"] := by decide +kernel
  refine ⟨hn, hl, ((build_backward hn hl).2 _).mpr ?_⟩
  refine .reference (i := 1) (t := manyOffences.transforms[1]) rfl rfl ?_ hsecond ?_ ?_
  · intro k hk s hs m hm
    obtain rfl := Nat.lt_one_iff.mp hk
    cases hs
    rw [hfirst] at hm
    revert m
    decide
  · decide
  · decide

end DependencyGraph

end StreamPipeline
