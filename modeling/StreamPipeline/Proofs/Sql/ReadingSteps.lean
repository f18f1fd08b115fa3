import StreamPipeline.Proofs.Sql.Query

/-! # Steps of the reading of a query

What each kind of token does to the reading. A name waits until the token behind it shows that it is
not qualified, so a reading is settled first wherever that token is no dot.
-/

namespace StreamPipeline.Sql

theorem isKeyword_append (t : SqlToken) (words words' : List String) :
    t.isKeyword (words ++ words') = (t.isKeyword words || t.isKeyword words') := by
  cases t <;> simp [SqlToken.isKeyword]

/-- The token names a relation where one is awaited. -/
inductive NamesRelation : String → SqlToken → Prop where
  | quoted (n : String) : NamesRelation n (.name n)
  | plain {n : String} : (SqlToken.word n).isKeyword relationWords = false →
      (SqlToken.word n).isKeyword noRelationWords = false → NamesRelation n (.word n)

theorem isKeyword_of_isName {n : String} {t : SqlToken} (h : IsName n t) :
    t.isKeyword relationWords = false ∧ t.isKeyword noRelationWords = false ∧
      t.isKeyword clauseWords = false := by
  cases h with
  | quoted => exact ⟨rfl, rfl, rfl⟩
  | plain h =>
    simp only [queryWords, isKeyword_append, Bool.or_eq_false_iff] at h
    exact ⟨h.1.1, h.1.2, h.2⟩

theorem namesRelation_of_isName {n : String} {t : SqlToken} (h : IsName n t) :
    NamesRelation n t := by
  obtain ⟨hr, hn, -⟩ := isKeyword_of_isName h
  cases h with
  | quoted => exact .quoted n
  | plain _ => exact .plain hr hn

namespace Reading

/-! ### Steps -/

/-- All the tokens, one after the other. -/
def run (r : Reading) (ts : List SqlToken) : Reading := ts.foldl step r

@[simp] theorem run_nil (r : Reading) : r.run [] = r := rfl

@[simp] theorem run_cons (r : Reading) (t : SqlToken) (ts : List SqlToken) :
    r.run (t :: ts) = (r.step t).run ts := rfl

@[simp] theorem run_append (r : Reading) (ts us : List SqlToken) :
    r.run (ts ++ us) = (r.run ts).run us := List.foldl_append

/-- A name that waits for a dot is reported, since no dot follows. -/
def settle (r : Reading) : Reading :=
  match r.awaiting with
  | .dotAfter name => r.report name
  | .afterPart => { r with awaiting := .anything }
  | _ => r

theorem step_settle {t : SqlToken} (ht : t ≠ .mark '.') (r : Reading) :
    r.step t = r.settle.step t := by
  obtain ⟨depth, lists, awaiting, found⟩ := r
  cases awaiting with
  | dotAfter name => exact if_neg ht
  | afterPart => exact if_neg ht
  | _ => rfl

theorem run_settle {t : SqlToken} (ht : t ≠ .mark '.') (r : Reading) (ts : List SqlToken) :
    r.run (t :: ts) = r.settle.run (t :: ts) := by
  rw [run_cons, run_cons, step_settle ht]

theorem finish_settle (r : Reading) : r.finish = r.settle.found := by
  obtain ⟨depth, lists, awaiting, found⟩ := r
  cases awaiting <;> rfl

/-- At this depth and in these lists, with the names found so far each kept once. -/
def having (names : List String) (depth : Nat) (lists : List Nat) (awaiting : Awaiting) : Reading :=
  ⟨depth, lists, awaiting, names.eraseDups⟩

variable {names : List String} {depth : Nat} {lists : List Nat}

theorem settle_having :
    (having names depth lists .anything).settle = having names depth lists .anything := rfl

theorem eraseDups_concat (names : List String) (name : String) :
    (names ++ [name]).eraseDups =
      if names.eraseDups.contains name then names.eraseDups else names.eraseDups ++ [name] := by
  rw [List.eraseDups_append]
  by_cases h : name ∈ names <;> simp [h, List.removeAll, List.eraseDups_cons]

theorem report_having {a : Awaiting} (name : String) :
    (having names depth lists a).report name =
      having (names ++ [name]) depth lists .anything := by
  unfold having report
  rw [eraseDups_concat]

/-! ### Depths of lists -/

theorem head_ne {d : Nat} (h : ∀ x ∈ lists, x < d) : lists.head? ≠ some d := fun he =>
  Nat.lt_irrefl d (h d (List.mem_of_mem_head? he))

theorem dropWhile_below {d : Nat} (h : ∀ x ∈ lists, x < d) : lists.dropWhile (· == d) = lists := by
  cases lists with
  | nil => rfl
  | cons x lists => simp [Nat.ne_of_lt (h x (by simp))]

/-! ### Tokens -/

theorem isKeyword_of_isWord {w : String} {t : SqlToken} (h : IsWord w t) (words : List String) :
    t.isKeyword words = (SqlToken.word w).isKeyword words := by
  cases t with
  | word text =>
    simp only [IsWord, SqlToken.isKeyword, List.any_cons, List.any_nil, Bool.or_false,
      Text.eqIgnoreCase, beq_iff_eq] at h
    have he : Text.eqIgnoreCase text = Text.eqIgnoreCase w :=
      funext fun k => by simp [Text.eqIgnoreCase, h]
    simp [SqlToken.isKeyword, he]
  | name _ | mark _ => cases h

theorem ne_mark_of_isWord {w : String} {t : SqlToken} (h : IsWord w t) (c : Char) :
    t ≠ .mark c := by
  rintro rfl
  cases h

/-- A token that opens and ends nothing. -/
structure IsQuiet (t : SqlToken) : Prop where
  relation : t.isKeyword relationWords = false
  clause : t.isKeyword clauseWords = false
  mark : ∀ c ∈ ['(', ')', ','], t ≠ .mark c

theorem IsQuiet.passToken {t : SqlToken} (h : IsQuiet t) (r : Reading) :
    r.passToken t = { r with awaiting := .anything } := by
  unfold Reading.passToken
  rw [if_neg (by simp [h.relation])]
  split
  · exact absurd rfl (h.mark '(' (by simp))
  · exact absurd rfl (h.mark ')' (by simp))
  · exact absurd rfl (h.mark ',' (by simp))
  · rw [if_neg (by simp [h.clause])]

theorem isQuiet_of_isWord {w : String} {t : SqlToken} (h : IsWord w t)
    (hw : (SqlToken.word w).isKeyword relationWords = false ∧
      (SqlToken.word w).isKeyword clauseWords = false) : IsQuiet t :=
  ⟨(isKeyword_of_isWord h _).trans hw.1, (isKeyword_of_isWord h _).trans hw.2,
    fun c _ => ne_mark_of_isWord h c⟩

theorem ne_mark_of_isName {n : String} {t : SqlToken} (h : IsName n t) (c : Char) :
    t ≠ .mark c := by
  rintro rfl
  cases h

theorem isQuiet_of_isName {n : String} {t : SqlToken} (h : IsName n t) : IsQuiet t :=
  have hk := isKeyword_of_isName h
  ⟨hk.1, hk.2.2, fun c _ => ne_mark_of_isName h c⟩

/-! ### Steps where anything may come -/

theorem step_quiet {t : SqlToken} (h : IsQuiet t) :
    (having names depth lists .anything).step t = having names depth lists .anything :=
  h.passToken _

theorem step_open : (having names depth lists .anything).step (.mark '(') =
    having names (depth + 1) lists .anything := rfl

theorem step_close : (having names depth lists .anything).step (.mark ')') =
    having names (depth - 1) (lists.dropWhile (· == depth)) .anything := rfl

theorem inList_inside {a : Awaiting} : (having names depth (depth :: lists) a).inList = true := by
  simp [inList, having]

theorem inList_outside {a : Awaiting} (h : lists.head? ≠ some depth) :
    (having names depth lists a).inList = false := by
  simp [inList, having, h]

theorem step_comma (r : Reading) (ha : r.awaiting = .anything) : r.step (.mark ',') =
    { r with awaiting := if r.inList then .relation else .anything } := by
  obtain ⟨depth, lists, awaiting, found⟩ := r
  cases ha
  rfl

theorem step_comma_inside : (having names depth (depth :: lists) .anything).step (.mark ',') =
    having names depth (depth :: lists) .relation := by
  rw [step_comma _ rfl, inList_inside]
  rfl

theorem step_comma_outside (h : lists.head? ≠ some depth) :
    (having names depth lists .anything).step (.mark ',') = having names depth lists .anything := by
  rw [step_comma _ rfl, inList_outside h]
  rfl

theorem step_relationWord {t : SqlToken} (ht : t.isKeyword relationWords = true) (r : Reading)
    (ha : r.awaiting = .anything) : r.step t = r.openList := by
  obtain ⟨depth, lists, awaiting, found⟩ := r
  cases ha
  exact if_pos ht

theorem step_from {t : SqlToken} (ht : t.isKeyword relationWords = true)
    (h : lists.head? ≠ some depth) : (having names depth lists .anything).step t =
      having names depth (depth :: lists) .relation := by
  rw [step_relationWord ht _ rfl, openList, inList_outside h]
  rfl

theorem step_join {t : SqlToken} (ht : t.isKeyword relationWords = true) :
    (having names depth (depth :: lists) .anything).step t =
      having names depth (depth :: lists) .relation := by
  rw [step_relationWord ht _ rfl, openList, inList_inside]
  rfl

/-- A word that ends a clause. -/
structure EndsClause (t : SqlToken) : Prop where
  relation : t.isKeyword relationWords = false
  clause : t.isKeyword clauseWords = true

theorem EndsClause.step {t : SqlToken} (h : EndsClause t) (r : Reading)
    (ha : r.awaiting = .anything) : r.step t = r.endClause := by
  obtain ⟨depth, lists, awaiting, found⟩ := r
  cases ha
  change Reading.passToken _ t = _
  have hc := h.clause
  cases t with
  | word text => simp [passToken, h.relation, h.clause]
  | name _ | mark _ => cases hc

theorem EndsClause.step_inside {t : SqlToken} (h : EndsClause t) :
    (having names depth (depth :: lists) .anything).step t =
      having names depth lists .anything := by
  rw [h.step _ rfl, endClause, inList_inside]
  rfl

theorem EndsClause.step_outside {t : SqlToken} (h : EndsClause t) (hl : lists.head? ≠ some depth) :
    (having names depth lists .anything).step t = having names depth lists .anything := by
  rw [h.step _ rfl, endClause, inList_outside hl]
  rfl

theorem endsClause_of_isWord {w : String} {t : SqlToken} (h : IsWord w t)
    (hw : (SqlToken.word w).isKeyword relationWords = false ∧
      (SqlToken.word w).isKeyword clauseWords = true) : EndsClause t :=
  ⟨(isKeyword_of_isWord h _).trans hw.1, (isKeyword_of_isWord h _).trans hw.2⟩

/-! ### Steps in the place of a relation -/

theorem step_named {r : Reading} {n : String} {t : SqlToken} (hn : NamesRelation n t)
    (hr : r.awaiting = .relation) : r.step t = { r with awaiting := .dotAfter n } := by
  obtain ⟨depth, lists, awaiting, found⟩ := r
  cases hr
  cases hn with
  | quoted => rfl
  | plain hr hn =>
    change relationToken _ _ = _
    simp [relationToken, hr, hn]

theorem step_name {n : String} {t : SqlToken} (h : IsName n t) :
    (having names depth lists .relation).step t = having names depth lists (.dotAfter n) :=
  step_named (namesRelation_of_isName h) rfl

theorem step_openNested : (having names depth lists .relation).step (.mark '(') =
    having names (depth + 1) lists .anything := rfl

theorem step_noRelation {w : String} {t : SqlToken} (h : IsWord w t)
    (hw : (SqlToken.word w).isKeyword relationWords = false ∧
      (SqlToken.word w).isKeyword noRelationWords = true) :
    (having names depth lists .relation).step t = having names depth lists .anything := by
  have hr := (isKeyword_of_isWord h relationWords).trans hw.1
  have hn := (isKeyword_of_isWord h noRelationWords).trans hw.2
  change Reading.relationToken _ t = _
  cases t with
  | word text => simp [relationToken, hr, hn]; rfl
  | name _ | mark _ => cases hn

end Reading

end StreamPipeline.Sql
