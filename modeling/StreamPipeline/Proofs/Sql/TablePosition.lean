import StreamPipeline.Proofs.Sql.ReadingSteps
import StreamPipeline.Proofs.Sql.Written

/-! # Names in the place of a relation

In any text, a query or not, the scan sees a name behind `FROM` or `JOIN` and behind a comma of a
`FROM` list. A name that stands behind anything else is never seen.
-/

namespace StreamPipeline.Sql

/-- A token behind which a relation may be awaited. -/
def Opens (t : SqlToken) : Prop := t.isKeyword relationWords = true ∨ t = .mark ','

/-- The token names a relation and stands behind one that opens the place of a relation. -/
def Seen (n : String) (before : List SqlToken) (t : SqlToken) : Prop :=
  NamesRelation n t ∧ ∃ k ∈ before.getLast?, Opens k

/-- A token behind which a comma or a closing bracket is read as what it is. -/
structure MayEnd (t : SqlToken) : Prop where
  opens : ¬ Opens t
  dot : t ≠ .mark '.'

/-- Tokens behind a token, up to the last of them, with their brackets in pairs. Outside brackets no
word ends a clause. -/
inductive Bracketed : Bool → SqlToken → List SqlToken → SqlToken → Prop where
  | nil {inside : Bool} {a : SqlToken} : Bracketed inside a [] a
  | token {inside : Bool} {a t z : SqlToken} {ts : List SqlToken} :
      t ≠ .mark '(' → t ≠ .mark ')' → (inside = false → t.isKeyword clauseWords = false) →
      Bracketed inside t ts z → Bracketed inside a (t :: ts) z
  | group {inside : Bool} {a y z : SqlToken} {us ts : List SqlToken} : a ≠ .mark '.' →
      Bracketed true (.mark '(') us y → MayEnd y → Bracketed inside (.mark ')') ts z →
      Bracketed inside a (.mark '(' :: (us ++ .mark ')' :: ts)) z

/-- The tokens in front of a name in the place of a relation: they end with `FROM` or `JOIN`, or
with a comma of the list that such a word began. -/
inductive TablePosition : List SqlToken → Prop where
  | first {ts : List SqlToken} {k : SqlToken} : .mark '.' ∉ ts.getLast? →
      k.isKeyword relationWords = true → TablePosition (ts ++ [k])
  | comma {ts us : List SqlToken} {k z : SqlToken} : .mark '.' ∉ ts.getLast? →
      k.isKeyword relationWords = true → Bracketed false k us z → MayEnd z →
      TablePosition (ts ++ k :: (us ++ [.mark ',']))

namespace Reading

/-! ### Steps from any reading -/

@[simp] theorem settle_depth (r : Reading) : r.settle.depth = r.depth := by
  unfold settle
  split <;> rfl

@[simp] theorem settle_lists (r : Reading) : r.settle.lists = r.lists := by
  unfold settle
  split <;> rfl

theorem settle_awaiting {r : Reading} (h : r.awaiting ≠ .relation) :
    r.settle.awaiting ≠ .relation := by
  unfold settle
  split
  · rintro ⟨⟩
  · rintro ⟨⟩
  · exact h

/-- A step reads the dot behind a name, the part of a name behind a dot, a token in the place of a
relation, or any token. -/
theorem step_cases (r : Reading) (t : SqlToken) :
    (t = .mark '.' ∧ r.step t = { r with awaiting := .part }) ∨
    (r.awaiting = .part ∧ r.step t = { r with awaiting := .afterPart }) ∨
    (r.awaiting = .relation ∧ r.step t = r.relationToken t) ∨
    (r.awaiting ≠ .part ∧ r.awaiting ≠ .relation ∧ r.step t = r.settle.passToken t) := by
  obtain ⟨depth, lists, awaiting, found⟩ := r
  cases awaiting with
  | anything => exact .inr (.inr (.inr ⟨by rintro ⟨⟩, by rintro ⟨⟩, rfl⟩))
  | relation => exact .inr (.inr (.inl ⟨rfl, rfl⟩))
  | part => exact .inr (.inl ⟨rfl, rfl⟩)
  | dotAfter name =>
    by_cases ht : t = .mark '.'
    · exact .inl ⟨ht, if_pos ht⟩
    · exact .inr (.inr (.inr ⟨by rintro ⟨⟩, by rintro ⟨⟩, if_neg ht⟩))
  | afterPart =>
    by_cases ht : t = .mark '.'
    · exact .inl ⟨ht, if_pos ht⟩
    · exact .inr (.inr (.inr ⟨by rintro ⟨⟩, by rintro ⟨⟩, if_neg ht⟩))

/-- What a token does to a reading that takes it for what it is. -/
inductive Effect (t : SqlToken) (r : Reading) : Reading → Prop where
  | openList : t.isKeyword relationWords = true → Effect t r r.openList
  | openBracket : t = .mark '(' → Effect t r r.openBracket
  | closeBracket : t = .mark ')' → Effect t r r.closeBracket
  | comma : t = .mark ',' →
      Effect t r { r with awaiting := if r.inList then .relation else .anything }
  | endClause : t.isKeyword clauseWords = true → Effect t r r.endClause
  | name {n : String} : r.awaiting = .relation → NamesRelation n t →
      Effect t r { r with awaiting := .dotAfter n }
  | pass : Effect t r { r with awaiting := .anything }

theorem effect_passToken (r : Reading) (t : SqlToken) : Effect t r (r.passToken t) := by
  unfold passToken
  split
  next h => exact .openList h
  split
  · exact .openBracket rfl
  · exact .closeBracket rfl
  · exact .comma rfl
  · split
    next h => exact .endClause h
    next => exact .pass

theorem effect_relationToken {r : Reading} (hr : r.awaiting = .relation) (t : SqlToken) :
    Effect t r (r.relationToken t) := by
  unfold relationToken
  split
  next h => exact .openList h
  next hk =>
  split
  · split
    next => exact .pass
    next hn => exact .name hr (.plain (by simpa using hk) (by simpa using hn))
  · exact .name hr (.quoted _)
  · exact .openBracket rfl
  · exact .pass

theorem Effect.awaiting_of_name {t : SqlToken} {r r' : Reading} (h : Effect t r r') {n : String}
    (hn : r'.awaiting = .dotAfter n) : r.awaiting = .relation := by
  cases h with
  | name hr _ => exact hr
  | comma _ => dsimp only at hn; split at hn <;> cases hn
  | _ => cases hn

theorem Effect.found_eq {t : SqlToken} {r r' : Reading} (h : Effect t r r') :
    r'.found = r.found := by
  cases h <;> rfl

/-- What a token may do to the depth of brackets and to the open lists. -/
inductive Moves (t : SqlToken) (depth : Nat) (lists : List Nat) : Nat → List Nat → Prop where
  | stay : Moves t depth lists depth lists
  | relation : t.isKeyword relationWords = true → lists.head? ≠ some depth →
      Moves t depth lists depth (depth :: lists)
  | clause : t.isKeyword clauseWords = true → lists.head? = some depth →
      Moves t depth lists depth (lists.drop 1)
  | enter : t = .mark '(' → Moves t depth lists (depth + 1) lists
  | leave : t = .mark ')' → Moves t depth lists (depth - 1) (lists.dropWhile (· == depth))

theorem inList_iff (r : Reading) : r.inList = true ↔ r.lists.head? = some r.depth := by
  simp [inList]

theorem Effect.moves {t : SqlToken} {r r' : Reading} (h : Effect t r r') :
    Moves t r.depth r.lists r'.depth r'.lists := by
  cases h with
  | openList h =>
    by_cases hl : r.inList = true
    · simp only [Reading.openList, if_pos hl]
      exact .stay
    · simp only [Reading.openList, if_neg hl]
      exact .relation h (mt (inList_iff r).mpr hl)
  | openBracket h => exact .enter h
  | closeBracket h => exact .leave h
  | endClause h =>
    by_cases hl : r.inList = true
    · simp only [Reading.endClause, if_pos hl]
      exact .clause h ((inList_iff r).mp hl)
    · simp only [Reading.endClause, if_neg hl]
      exact .stay
  | comma _ | name _ _ | pass => exact .stay

theorem moves_step (r : Reading) (t : SqlToken) :
    Moves t r.depth r.lists (r.step t).depth (r.step t).lists := by
  rcases step_cases r t with ⟨-, h⟩ | ⟨-, h⟩ | ⟨hr, h⟩ | ⟨-, -, h⟩ <;> rw [h]
  · exact .stay
  · exact .stay
  · exact (effect_relationToken hr t).moves
  · have hm := (effect_passToken r.settle t).moves
    rwa [settle_depth, settle_lists] at hm

/-! ### What is awaited -/

/-- What the reading awaits tells which token it has just read. -/
structure Behind (t : SqlToken) (r : Reading) : Prop where
  relation : r.awaiting = .relation → Opens t
  part : r.awaiting = .part → t = .mark '.'
  name : ∀ n, r.awaiting = .dotAfter n → NamesRelation n t

theorem behind_anything {t : SqlToken} {r : Reading} (h : r.awaiting = .anything) : Behind t r :=
  ⟨by rw [h]; rintro ⟨⟩, by rw [h]; rintro ⟨⟩, by rw [h]; rintro _ ⟨⟩⟩

theorem Effect.behind {t : SqlToken} {r r' : Reading} (h : Effect t r r') : Behind t r' := by
  cases h with
  | openList h => exact ⟨fun _ => .inl h, by rintro ⟨⟩, by rintro _ ⟨⟩⟩
  | comma h =>
    refine ⟨fun _ => .inr h, ?_, ?_⟩
    · dsimp only; split <;> rintro ⟨⟩
    · dsimp only; split <;> rintro _ ⟨⟩
  | name _ hn =>
    refine ⟨by rintro ⟨⟩, by rintro ⟨⟩, ?_⟩
    rintro _ ⟨⟩
    exact hn
  | openBracket _ | closeBracket _ | endClause _ | pass => exact behind_anything rfl

theorem behind_step (r : Reading) (t : SqlToken) : Behind t (r.step t) := by
  rcases step_cases r t with ⟨ht, h⟩ | ⟨-, h⟩ | ⟨hr, h⟩ | ⟨-, -, h⟩ <;> rw [h]
  · exact ⟨by rintro ⟨⟩, fun _ => ht, by rintro _ ⟨⟩⟩
  · exact ⟨by rintro ⟨⟩, by rintro ⟨⟩, by rintro _ ⟨⟩⟩
  · exact (effect_relationToken hr t).behind
  · exact (effect_passToken r.settle t).behind

/-! ### Marks and words read as what they are -/

theorem step_enter {r : Reading} (h : r.awaiting ≠ .part) :
    (r.step (.mark '(')).depth = r.depth + 1 ∧ (r.step (.mark '(')).lists = r.lists := by
  rcases step_cases r (.mark '(') with ⟨ht, -⟩ | ⟨hp, -⟩ | ⟨-, hs⟩ | ⟨-, -, hs⟩
  · cases ht
  · exact absurd hp h
  · rw [hs]; exact ⟨rfl, rfl⟩
  · rw [hs]; exact ⟨congrArg (· + 1) (settle_depth r), settle_lists r⟩

theorem step_leave {r : Reading} {z : SqlToken} (hz : MayEnd z) (hr : Behind z r) :
    (r.step (.mark ')')).depth = r.depth - 1 ∧
      (r.step (.mark ')')).lists = r.lists.dropWhile (· == r.depth) := by
  rcases step_cases r (.mark ')') with ⟨ht, -⟩ | ⟨hp, -⟩ | ⟨hp, -⟩ | ⟨-, -, hs⟩
  · cases ht
  · exact absurd (hr.part hp) hz.dot
  · exact absurd (hr.relation hp) hz.opens
  · rw [hs]
    change r.settle.depth - 1 = _ ∧ r.settle.lists.dropWhile (· == r.settle.depth) = _
    rw [settle_depth, settle_lists]
    exact ⟨rfl, rfl⟩

theorem step_listComma {r : Reading} {z : SqlToken} (hz : MayEnd z) (hr : Behind z r)
    (hl : r.lists.head? = some r.depth) : (r.step (.mark ',')).awaiting = .relation := by
  rcases step_cases r (.mark ',') with ⟨ht, -⟩ | ⟨hp, -⟩ | ⟨hp, -⟩ | ⟨-, -, hs⟩
  · cases ht
  · exact absurd (hr.part hp) hz.dot
  · exact absurd (hr.relation hp) hz.opens
  · have hin : r.settle.inList = true := by rw [inList_iff, settle_lists, settle_depth, hl]
    rw [hs]
    change (if r.settle.inList = true then Awaiting.relation else Awaiting.anything) = _
    rw [if_pos hin]

theorem step_opens {r : Reading} {k : SqlToken} (hk : k.isKeyword relationWords = true)
    (h : r.awaiting ≠ .part) : (r.step k).awaiting = .relation ∧
      (r.step k).lists.head? = some (r.step k).depth := by
  have hopen (r' : Reading) : r'.openList.awaiting = .relation ∧
      r'.openList.lists.head? = some r'.openList.depth := by
    refine ⟨rfl, ?_⟩
    by_cases hl : r'.inList = true
    · simpa only [openList, if_pos hl] using (inList_iff r').mp hl
    · simp only [openList, if_neg hl]
      rfl
  rcases step_cases r k with ⟨rfl, -⟩ | ⟨hp, -⟩ | ⟨-, hs⟩ | ⟨-, -, hs⟩
  · cases hk
  · exact absurd hp h
  · have hr : r.relationToken k = r.openList := if_pos hk
    rw [hs, hr]
    exact hopen r
  · have hr : r.settle.passToken k = r.settle.openList := if_pos hk
    rw [hs, hr]
    exact hopen r.settle

/-! ### Depths of open lists -/

/-- Each open list lies inside the one before it, and none deeper than the reading. -/
structure Nested (depth : Nat) (lists : List Nat) : Prop where
  le : ∀ x ∈ lists, x ≤ depth
  sorted : lists.Pairwise (· > ·)

/-- The lists that are open around the reading, without that of its own depth. -/
theorem Nested.around {depth : Nat} {lists : List Nat} (h : Nested depth lists) :
    ∃ outer, (lists = outer ∨ lists = depth :: outer) ∧ (∀ x ∈ outer, x < depth) ∧
      outer.Pairwise (· > ·) := by
  cases lists with
  | nil => exact ⟨[], .inl rfl, by simp, .nil⟩
  | cons d outer =>
    obtain ⟨hlt, hsorted⟩ := List.pairwise_cons.mp h.sorted
    rcases Nat.lt_or_eq_of_le (h.le d (by simp)) with hd | rfl
    · refine ⟨d :: outer, .inl rfl, List.forall_mem_cons.mpr ⟨hd, fun x hx => ?_⟩, h.sorted⟩
      exact Nat.lt_trans (hlt x hx) hd
    · exact ⟨outer, .inr rfl, hlt, hsorted⟩

theorem Nested.moves {t : SqlToken} {depth depth' : Nat} {lists lists' : List Nat}
    (h : Nested depth lists) (hm : Moves t depth lists depth' lists') : Nested depth' lists' := by
  obtain ⟨outer, ho, hlt, hsorted⟩ := h.around
  cases hm with
  | stay => exact h
  | relation _ hne =>
    obtain rfl := ho.resolve_right (by rintro rfl; exact hne rfl)
    exact ⟨List.forall_mem_cons.mpr ⟨Nat.le_refl _, h.le⟩, List.pairwise_cons.mpr ⟨hlt, hsorted⟩⟩
  | clause _ _ =>
    exact ⟨fun x hx => h.le x (List.mem_of_mem_drop hx), h.sorted.sublist (List.drop_sublist 1 _)⟩
  | enter _ => exact ⟨fun x hx => Nat.le_succ_of_le (h.le x hx), h.sorted⟩
  | leave _ =>
    have hd : lists.dropWhile (· == depth) = outer := by
      rcases ho with rfl | rfl
      · exact dropWhile_below hlt
      · rw [List.dropWhile_cons_of_pos (by simp), dropWhile_below hlt]
    rw [hd]
    exact ⟨fun x hx => Nat.le_sub_one_of_lt (hlt x hx), hsorted⟩

theorem nested_run {r : Reading} (h : Nested r.depth r.lists) (ts : List SqlToken) :
    Nested (r.run ts).depth (r.run ts).lists := by
  induction ts generalizing r with
  | nil => exact h
  | cons t ts ih => exact ih (h.moves (moves_step r t))

theorem nested_start : Nested start.depth start.lists := ⟨by rintro _ ⟨⟩, .nil⟩

/-! ### Inside a list -/

/-- The open lists at a depth: that of the depth itself or, inside brackets, perhaps none of it, and
the outer ones. -/
def InLevel (inside : Bool) (depth : Nat) (outer lists : List Nat) : Prop :=
  lists = depth :: outer ∨ inside = true ∧ lists = outer

variable {inside : Bool} {depth : Nat} {outer lists : List Nat}

theorem InLevel.lt_succ (h : InLevel inside depth outer lists) (hlt : ∀ x ∈ outer, x < depth) :
    ∀ x ∈ lists, x < depth + 1 := by
  have hle : ∀ x ∈ outer, x < depth + 1 := fun x hx => Nat.lt_succ_of_lt (hlt x hx)
  rcases h with rfl | ⟨-, rfl⟩
  · exact List.forall_mem_cons.mpr ⟨Nat.lt_succ_self depth, hle⟩
  · exact hle

/-- A token that is no bracket stays at the level. -/
theorem InLevel.moves (h : InLevel inside depth outer lists) (hlt : ∀ x ∈ outer, x < depth)
    {t : SqlToken} (ho : t ≠ .mark '(') (hc : t ≠ .mark ')')
    (hw : inside = false → t.isKeyword clauseWords = false) {depth' : Nat} {lists' : List Nat}
    (hm : Moves t depth lists depth' lists') :
    depth' = depth ∧ InLevel inside depth outer lists' := by
  cases hm with
  | stay => exact ⟨rfl, h⟩
  | relation _ hne =>
    rcases h with rfl | ⟨-, rfl⟩
    · exact absurd rfl hne
    · exact ⟨rfl, .inl rfl⟩
  | clause hk he =>
    have hinside : inside = true := by
      cases inside with
      | true => rfl
      | false => rw [hw rfl] at hk; cases hk
    rcases h with rfl | ⟨-, rfl⟩
    · exact ⟨rfl, .inr ⟨hinside, rfl⟩⟩
    · exact absurd he (head_ne hlt)
  | enter ht => exact absurd ht ho
  | leave ht => exact absurd ht hc

theorem run_paired {a z : SqlToken} {ts : List SqlToken} (h : Bracketed inside a ts z) {r : Reading}
    (hd : r.depth = depth) (hl : InLevel inside depth outer r.lists) (hlt : ∀ x ∈ outer, x < depth)
    (hr : Behind a r) : (r.run ts).depth = depth ∧ InLevel inside depth outer (r.run ts).lists ∧
      Behind z (r.run ts) := by
  induction h generalizing r depth outer with
  | nil => exact ⟨hd, hl, hr⟩
  | @token inside a t z ts ho hc hw _ ih =>
    subst hd
    obtain ⟨hd', hl'⟩ := hl.moves hlt ho hc hw (moves_step r t)
    exact ih hd' hl' hlt (behind_step r t)
  | @group inside a y z us ts ha _ hy _ ihu iht =>
    obtain ⟨hd₁, hl₁⟩ := step_enter fun hp => ha (hr.part hp)
    have hlt₁ := hl.lt_succ hlt
    have hinside : InLevel true (depth + 1) r.lists (r.step (.mark '(')).lists := .inr ⟨rfl, hl₁⟩
    obtain ⟨hd₂, hl₂, hr₂⟩ := ihu (by rw [hd₁, hd]) hinside hlt₁ (behind_step r _)
    obtain ⟨hd₃, hl₃⟩ := step_leave hy hr₂
    -- The lists opened in these brackets are deeper than all others, and end with them.
    have hlists : (((r.step (.mark '(')).run us).step (.mark ')')).lists = r.lists := by
      rw [hl₃, hd₂]
      rcases hl₂ with he | ⟨-, he⟩
      · rw [he, List.dropWhile_cons_of_pos (by simp), dropWhile_below hlt₁]
      · rw [he, dropWhile_below hlt₁]
    rw [run_cons, run_append, run_cons]
    exact iht (by rw [hd₃, hd₂, Nat.add_sub_cancel]) (by rwa [hlists]) hlt (behind_step _ _)

/-! ### What is awaited in the place of a relation -/

theorem part_run {ts : List SqlToken} (h : (start.run ts).awaiting = .part) :
    .mark '.' ∈ ts.getLast? := by
  cases List.eq_nil_or_concat ts with
  | inl he => subst he; cases h
  | inr he =>
    obtain ⟨us, t, rfl⟩ := he
    rw [List.concat_eq_append, run_append] at h
    rw [List.concat_eq_append, (behind_step _ t).part h]
    simp

/-- In the place of a relation the reading awaits one. -/
theorem awaiting_run {ts : List SqlToken} (h : TablePosition ts) :
    (start.run ts).awaiting = .relation := by
  cases h with
  | first hp hk =>
    rw [run_append]
    exact (step_opens hk fun h => hp (part_run h)).1
  | @comma ts us k z hp hk hb hz =>
    rw [run_append, run_cons, run_append]
    obtain ⟨-, hin⟩ := step_opens hk fun h => hp (part_run h)
    have hnested := (nested_run nested_start ts).moves (moves_step _ k)
    generalize hr : (start.run ts).step k = r at hin hnested
    obtain ⟨outer, ho, hlt, -⟩ := hnested.around
    have hlists : r.lists = r.depth :: outer := by
      refine ho.resolve_left fun he => ?_
      rw [he] at hin
      exact head_ne hlt hin
    have hbehind : Behind k r := hr ▸ behind_step _ k
    obtain ⟨hd, hl, hz'⟩ := run_paired hb rfl (.inl hlists) hlt hbehind
    refine step_listComma hz hz' ?_
    rcases hl with hl | ⟨⟨⟩, -⟩
    rw [hl, hd]
    rfl

/-! ### What is found -/

theorem mem_settle (r : Reading) (n : String) :
    n ∈ r.settle.found ↔ n ∈ r.found ∨ r.awaiting = .dotAfter n := by
  obtain ⟨depth, lists, awaiting, found⟩ := r
  cases awaiting with
  | dotAfter name =>
    by_cases hm : name ∈ found
    · simp only [settle, report, List.contains_iff_mem, if_pos hm]
      refine ⟨.inl, fun h => h.elim id fun hn => ?_⟩
      cases hn
      exact hm
    · simp [settle, report, hm, eq_comm]
  | _ => simp [settle]

theorem found_step (r : Reading) (t : SqlToken) :
    (r.step t).found = if t = .mark '.' then r.found else r.settle.found := by
  by_cases ht : t = .mark '.'
  · subst ht
    rw [if_pos rfl]
    obtain ⟨depth, lists, awaiting, found⟩ := r
    cases awaiting with
    | anything => exact (effect_passToken _ _).found_eq
    | relation => exact (effect_relationToken rfl _).found_eq
    | _ => rfl
  · rw [if_neg ht]
    obtain ⟨depth, lists, awaiting, found⟩ := r
    cases awaiting with
    | anything => exact (effect_passToken _ _).found_eq
    | relation => exact (effect_relationToken rfl _).found_eq
    | part => rfl
    | dotAfter name | afterPart =>
      exact (congrArg Reading.found (if_neg ht)).trans (effect_passToken _ _).found_eq

theorem found_run {r : Reading} {n : String} (h : n ∈ r.found) (ts : List SqlToken) :
    n ∈ (r.run ts).found := by
  induction ts generalizing r with
  | nil => exact h
  | cons t ts ih =>
    refine ih ?_
    rw [found_step]
    split
    · exact h
    · exact (mem_settle r n).mpr (.inl h)

/-- Where the reading of these tokens has its names from. -/
structure Trace (ts : List SqlToken) (r : Reading) : Prop where
  relation : r.awaiting = .relation → ∃ k ∈ ts.getLast?, Opens k
  name : ∀ n, r.awaiting = .dotAfter n → ∃ before t, ts = before ++ [t] ∧ Seen n before t
  found : ∀ n ∈ r.found, ∃ before t u after, ts = before ++ t :: u :: after ∧ Seen n before t ∧
    u ≠ .mark '.'

theorem awaiting_of_name {r : Reading} {t : SqlToken} {n : String}
    (h : (r.step t).awaiting = .dotAfter n) : r.awaiting = .relation := by
  rcases step_cases r t with ⟨-, hs⟩ | ⟨-, hs⟩ | ⟨hr, -⟩ | ⟨-, hr, hs⟩
  · rw [hs] at h; cases h
  · rw [hs] at h; cases h
  · exact hr
  · rw [hs] at h
    exact absurd ((effect_passToken r.settle t).awaiting_of_name h) (settle_awaiting hr)

theorem Trace.step {ts : List SqlToken} {r : Reading} (h : Trace ts r) (t : SqlToken) :
    Trace (ts ++ [t]) (r.step t) where
  relation hr := ⟨t, by simp, (behind_step r t).relation hr⟩
  name n hn := ⟨ts, t, rfl, (behind_step r t).name n hn, h.relation (awaiting_of_name hn)⟩
  found n hn := by
    have hold (hn : n ∈ r.found) : ∃ before t' u after,
        ts ++ [t] = before ++ t' :: u :: after ∧ Seen n before t' ∧ u ≠ .mark '.' := by
      obtain ⟨before, t', u, after, rfl, hs, hu⟩ := h.found n hn
      exact ⟨before, t', u, after ++ [t], by simp, hs, hu⟩
    rw [found_step] at hn
    split at hn
    · exact hold hn
    next ht =>
      rcases (mem_settle r n).mp hn with hn | hn
      · exact hold hn
      · obtain ⟨before, t', rfl, hs⟩ := h.name n hn
        exact ⟨before, t', t, [], by simp, hs, ht⟩

theorem Trace.run {ts : List SqlToken} {r : Reading} (h : Trace ts r) (us : List SqlToken) :
    Trace (ts ++ us) (r.run us) := by
  induction us generalizing ts r with
  | nil => simpa using h
  | cons u us ih => simpa using ih (h.step u)

theorem trace_start : Trace [] start := ⟨by rintro ⟨⟩, by rintro _ ⟨⟩, by rintro _ ⟨⟩⟩

end Reading

open Reading

variable {sql n : String} {ts : List SqlToken}

theorem mem_referencedRelations (hw : Written sql.toList ts) :
    n ∈ referencedRelations sql ↔ n ∈ (start.run ts).settle.found := by
  rw [← finish_settle, referencedRelations, ofText_eq_iff.mpr hw]
  rfl

/-- A name in the place of a relation that no dot follows is seen. -/
theorem mem_of_tablePosition {t : SqlToken} {before after : List SqlToken}
    (hw : Written sql.toList (before ++ t :: after)) (hp : TablePosition before)
    (hn : NamesRelation n t) (hd : .mark '.' ∉ after.head?) : n ∈ referencedRelations sql := by
  rw [mem_referencedRelations hw, run_append, run_cons]
  have ha := congrArg awaiting (step_named hn (awaiting_run hp))
  generalize (start.run before).step t = r at ha
  cases after with
  | nil => exact (mem_settle r n).mpr (.inr ha)
  | cons u us =>
    have hu : u ≠ .mark '.' := by simpa using hd
    have hfound : n ∈ (r.step u).found := by
      rw [found_step, if_neg hu]
      exact (mem_settle r n).mpr (.inr ha)
    rw [run_cons]
    exact (mem_settle _ n).mpr (.inl (found_run hfound us))

/-- What is seen stands behind `FROM`, `JOIN` or a comma, and no dot follows it. -/
theorem seen_of_mem (hw : Written sql.toList ts) (h : n ∈ referencedRelations sql) :
    ∃ before t after, ts = before ++ t :: after ∧ Seen n before t ∧ .mark '.' ∉ after.head? := by
  have ht := trace_start.run ts
  rw [List.nil_append] at ht
  rcases (mem_settle _ n).mp ((mem_referencedRelations hw).mp h) with h | h
  · obtain ⟨before, t, u, after, he, hs, hu⟩ := ht.found n h
    exact ⟨before, t, u :: after, he, hs, by simpa using hu⟩
  · obtain ⟨before, t, he, hs⟩ := ht.name n h
    exact ⟨before, t, [], he, hs, by simp⟩

end StreamPipeline.Sql
