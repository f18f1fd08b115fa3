import StreamPipeline.Proofs.Sql.ReadingSteps
import StreamPipeline.Proofs.Sql.Written

/-! # The relations of a query

The scan of a query finds the unqualified names of its grammar and nothing else. By induction on the
derivation: each phrase leaves the depth of brackets and the outer `FROM` lists as they were, and
adds its names to those that were found before.
-/

namespace StreamPipeline.Sql

open Reading

variable {names : List String} {depth : Nat} {lists : List Nat} {r : Reading}

/-- Tokens that open and end nothing leave the reading as it is. -/
theorem run_quiet {ts : List SqlToken} (h : ∀ t ∈ ts, IsQuiet t) :
    (having names depth lists .anything).run ts = having names depth lists .anything := by
  induction ts with
  | nil => rfl
  | cons t ts ih =>
    obtain ⟨ht, hts⟩ := List.forall_mem_cons.mp h
    rw [run_cons, step_quiet ht, ih hts]

theorem run_alias {as : List SqlToken} (h : Alias as)
    (hr : r.settle = having names depth lists .anything) :
    r.run as = having names depth lists .anything := by
  cases h with
  | bare hn =>
    rw [run_settle (ne_mark_of_isName hn '.'), hr]
    exact run_quiet (by simpa using isQuiet_of_isName hn)
  | as ha hn =>
    have hword := isQuiet_of_isWord ha ⟨by decide, by decide⟩
    rw [run_settle (ne_mark_of_isWord ha '.'), hr]
    exact run_quiet (by simpa using ⟨hword, isQuiet_of_isName hn⟩)

/-- The later parts of a qualified name are passed. -/
theorem run_parts {ts : List SqlToken} (hne : ts ≠ []) :
    (⟨depth, lists, .part, names⟩ : Reading).run (ts.intersperse (.mark '.')) =
      ⟨depth, lists, .afterPart, names⟩ := by
  induction ts with
  | nil => exact absurd rfl hne
  | cons t ts ih =>
    cases ts with
    | nil => rfl
    | cons u ts => exact ih (by simp)

/-- Names and commas in brackets are passed. -/
theorem run_columns {cs : List SqlToken} (h : ∀ c ∈ cs, ∃ n, IsName n c)
    (hl : lists.head? ≠ some depth) :
    (having names depth lists .anything).run (cs.intersperse (.mark ',')) =
      having names depth lists .anything := by
  induction cs with
  | nil => rfl
  | cons c cs ih =>
    obtain ⟨n, hn⟩ := h c (by simp)
    have hc : (having names depth lists .anything).step c = having names depth lists .anything :=
      step_quiet (isQuiet_of_isName hn)
    cases cs with
    | nil => exact hc
    | cons d cs =>
      have hrest := ih fun c hc => h c (by simp [hc])
      simp only [List.intersperse_cons_cons, run_cons, hc, step_comma_outside hl]
      exact hrest

/-- The reading is at that depth outside its `FROM` lists, or inside the list of that depth. -/
def AtLevel (depth : Nat) (lists : List Nat) (names : List String) (r : Reading) : Prop :=
  r.settle = having names depth lists .anything ∨
    r.settle = having names depth (depth :: lists) .anything

theorem atLevel_having : AtLevel depth lists names (having names depth lists .anything) := .inl rfl

/-- A closing bracket ends the lists of its depth. -/
theorem AtLevel.step_close (h : AtLevel (depth + 1) lists names r)
    (hl : ∀ x ∈ lists, x < depth + 1) :
    r.step (.mark ')') = having names depth lists .anything := by
  rw [step_settle (by simp)]
  rcases h with h | h
  · rw [h, Reading.step_close, dropWhile_below hl]
    rfl
  · rw [h, Reading.step_close, List.dropWhile_cons_of_pos (by simp), dropWhile_below hl]
    rfl

/-- A word that ends a clause ends the list of its depth. -/
theorem AtLevel.step_endsClause (h : AtLevel depth lists names r) (hl : ∀ x ∈ lists, x < depth)
    {t : SqlToken} (ht : EndsClause t) : r.step t = having names depth lists .anything := by
  have hd : t ≠ .mark '.' := by
    rintro rfl
    cases ht.clause
  rw [step_settle hd]
  rcases h with h | h
  · rw [h, ht.step_outside (head_ne hl)]
  · rw [h, ht.step_inside]

/-- What a phrase does to a reading that stands where the phrase may stand: it adds its names. -/
def Scanned : Phrase → List SqlToken → List String → Prop
  | .query, ts, ns => ∀ depth lists names, (∀ x ∈ lists, x < depth) →
      AtLevel depth lists (names ++ ns) ((having names depth lists .anything).run ts)
  | .item, ts, ns => ∀ depth lists names, (∀ x ∈ lists, x < depth) →
      ((having names depth (depth :: lists) .relation).run ts).settle =
        having (names ++ ns) depth (depth :: lists) .anything
  | .items, ts, ns | .condition, ts, ns => ∀ depth lists names (r : Reading),
      (∀ x ∈ lists, x < depth) → r.settle = having names depth (depth :: lists) .anything →
        (r.run ts).settle = having (names ++ ns) depth (depth :: lists) .anything
  | .clauses heads, ts, ns => (∀ h ∈ heads, h ∈ clauseHeads) →
      ∀ depth lists names (r : Reading), (∀ x ∈ lists, x < depth) → AtLevel depth lists names r →
        AtLevel depth lists (names ++ ns) (r.run ts)
  | .union, ts, ns => ∀ depth lists names (r : Reading), (∀ x ∈ lists, x < depth) →
      AtLevel depth lists names r → AtLevel depth lists (names ++ ns) (r.run ts)
  | .expr p, ts, ns => ∀ depth lists names, (∀ x ∈ lists, x ≤ depth) →
      p = .condition ∨ lists.head? ≠ some depth →
        (having names depth lists .anything).run ts = having (names ++ ns) depth lists .anything

/-! ### Expressions -/

theorem step_allowed {p : Place} {t : SqlToken} (h : p.Allows t)
    (hl : p = .condition ∨ lists.head? ≠ some depth) :
    (having names depth lists .anything).step t = having names depth lists .anything := by
  by_cases hc : t = .mark ','
  · subst hc
    exact step_comma_outside (hl.resolve_left fun hp => h.comma hp rfl)
  by_cases hw : t.isKeyword clauseWords = true
  · have hp : p = .brackets := by
      by_contra hp
      simp [h.clause hp] at hw
    refine EndsClause.step_outside ⟨h.relation, hw⟩ (hl.resolve_left ?_)
    simp [hp]
  · refine step_quiet ⟨h.relation, by simpa using hw, fun c hm => ?_⟩
    simp only [List.mem_cons, List.not_mem_nil, or_false] at hm
    rcases hm with rfl | rfl | rfl
    · exact h.bracket.1
    · exact h.bracket.2
    · exact hc

/-- A query in brackets, from the bracket that opens it. -/
theorem run_bracketed {ts : List SqlToken} {ns : List String} (h : Scanned .query ts ns)
    (hl : ∀ x ∈ lists, x ≤ depth) :
    ((having names (depth + 1) lists .anything).run ts).step (.mark ')') =
      having (names ++ ns) depth lists .anything :=
  have hl : ∀ x ∈ lists, x < depth + 1 := fun x hx => Nat.lt_succ_of_le (hl x hx)
  (h (depth + 1) lists names hl).step_close hl

/-- An expression in brackets, from the bracket that opens them. -/
theorem run_group {es : List SqlToken} {ns : List String} (h : Scanned (.expr .brackets) es ns)
    (hl : ∀ x ∈ lists, x ≤ depth) :
    ((having names (depth + 1) lists .anything).run es).step (.mark ')') =
      having (names ++ ns) depth lists .anything := by
  have hlt : ∀ x ∈ lists, x < depth + 1 := fun x hx => Nat.lt_succ_of_le (hl x hx)
  have hrun := h (depth + 1) lists names (fun x hx => Nat.le_of_lt (hlt x hx)) (.inr (head_ne hlt))
  rw [hrun]
  exact atLevel_having.step_close hlt

/-! ### Items -/

theorem scanned_table {n : String} {t : SqlToken} {as : List SqlToken} (hn : IsName n t)
    (ha : as = [] ∨ Alias as) : Scanned .item (t :: as) [n] := by
  intro depth lists names _
  rw [run_cons, step_name hn]
  have hs : (having names depth (depth :: lists) (.dotAfter n)).settle =
      having (names ++ [n]) depth (depth :: lists) .anything := report_having n
  rcases ha with rfl | ha
  · exact hs
  · exact congrArg settle (run_alias ha hs)

theorem scanned_qualified {t u : SqlToken} {ts as : List SqlToken}
    (hn : ∀ v ∈ t :: u :: ts, ∃ n, IsName n v) (ha : as = [] ∨ Alias as) :
    Scanned .item ((t :: u :: ts).intersperse (.mark '.') ++ as) [] := by
  intro depth lists names _
  obtain ⟨n, hn⟩ := hn t (by simp)
  rw [List.intersperse_cons_cons, run_append, run_cons, run_cons, step_name hn, List.append_nil]
  have hparts : (⟨depth, depth :: lists, .part, names.eraseDups⟩ : Reading).run
      ((u :: ts).intersperse (.mark '.')) = ⟨depth, depth :: lists, .afterPart, names.eraseDups⟩ :=
    run_parts (List.cons_ne_nil u ts)
  change ((Reading.run ⟨depth, depth :: lists, .part, names.eraseDups⟩
    ((u :: ts).intersperse (.mark '.'))).run as).settle = _
  rw [hparts]
  rcases ha with rfl | ha
  · rfl
  · exact congrArg settle (run_alias ha rfl)

theorem le_of_lists (hl : ∀ x ∈ lists, x < depth) : ∀ x ∈ depth :: lists, x ≤ depth :=
  List.forall_mem_cons.mpr ⟨Nat.le_refl depth, fun x hx => Nat.le_of_lt (hl x hx)⟩

theorem scanned_subquery {ts as : List SqlToken} {ns : List String} (h : Scanned .query ts ns)
    (ha : Alias as) : Scanned .item (.mark '(' :: (ts ++ .mark ')' :: as)) ns := by
  intro depth lists names hl
  rw [run_cons, step_openNested, run_append, run_cons, run_bracketed h (le_of_lists hl)]
  exact congrArg settle (run_alias ha settle_having)

theorem run_functionHead {head : List String} {hs : List SqlToken} (hh : head ∈ functionHeads)
    (hw : List.Forall₂ IsWord head hs) : (having names depth lists .relation).run hs =
      having names depth lists .anything := by
  simp only [functionHeads, List.mem_cons, List.not_mem_nil, or_false] at hh
  rcases hh with rfl | rfl
  · cases hw with
    | cons hlateral hw =>
      cases hw with
      | cons htable hw =>
        cases hw
        rw [run_cons, run_cons, step_noRelation hlateral ⟨by decide, by decide⟩,
          step_quiet (isQuiet_of_isWord htable ⟨by decide, by decide⟩)]
        rfl
  · cases hw with
    | cons hunnest hw =>
      cases hw
      exact step_noRelation hunnest ⟨by decide, by decide⟩

theorem scanned_function {head : List String} {hs es as cs : List SqlToken} {ns : List String}
    (hh : head ∈ functionHeads) (hw : List.Forall₂ IsWord head hs)
    (he : Scanned (.expr .brackets) es ns) (ha : Alias as) (hc : ∀ c ∈ cs, ∃ n, IsName n c) :
    Scanned .item (hs ++ .mark '(' :: (es ++ .mark ')' :: (as ++
      .mark '(' :: (cs.intersperse (.mark ',') ++ [.mark ')'])))) ns := by
  intro depth lists names hl
  have hle := le_of_lists hl
  have hlt : ∀ x ∈ depth :: lists, x < depth + 1 := fun x hx => Nat.lt_succ_of_le (hle x hx)
  rw [run_append, run_functionHead hh hw, run_cons, step_open, run_append, run_cons,
    run_group he hle, run_append, run_cons, run_alias ha settle_having, step_open, run_append,
    run_columns hc (head_ne hlt)]
  exact congrArg settle (atLevel_having.step_close hlt)

/-! ### Lists and clauses -/

theorem run_link {ls : List SqlToken} (h : Link ls)
    (hr : r.settle = having names depth (depth :: lists) .anything) :
    r.run ls = having names depth (depth :: lists) .relation := by
  have hjoin {j : SqlToken} (hj : IsWord "JOIN" j) {r : Reading}
      (hr : r.settle = having names depth (depth :: lists) .anything) :
      r.step j = having names depth (depth :: lists) .relation := by
    rw [step_settle (ne_mark_of_isWord hj '.'), hr,
      step_join ((isKeyword_of_isWord hj _).trans (by decide))]
  cases h with
  | comma => rw [run_cons, step_settle (by simp), hr, step_comma_inside]; rfl
  | join hj => exact hjoin hj hr
  | @kind kind k j hk hw hj =>
    have hkinds : ∀ kind ∈ ["LEFT", "RIGHT", "FULL", "INNER", "CROSS"],
        (SqlToken.word kind).isKeyword relationWords = false ∧
          (SqlToken.word kind).isKeyword clauseWords = false := by decide
    have hquiet := isQuiet_of_isWord hw (hkinds kind hk)
    rw [run_settle (ne_mark_of_isWord hw '.'), hr, run_cons, step_quiet hquiet]
    exact hjoin hj settle_having

theorem words_of_clauseHeads : ∀ head ∈ clauseHeads, ∃ w ws, head = w :: ws ∧
    ((SqlToken.word w).isKeyword relationWords = false ∧
      (SqlToken.word w).isKeyword clauseWords = true) ∧
    ∀ v ∈ ws, (SqlToken.word v).isKeyword relationWords = false ∧
      (SqlToken.word v).isKeyword clauseWords = false := by
  simp only [clauseHeads, List.forall_mem_cons]
  refine ⟨?_, ?_, ?_, ?_, ?_, by simp⟩ <;> exact ⟨_, _, rfl, by decide, by decide⟩

theorem isQuiet_of_words {ws : List String} {ts : List SqlToken} (h : List.Forall₂ IsWord ws ts)
    (hw : ∀ v ∈ ws, (SqlToken.word v).isKeyword relationWords = false ∧
      (SqlToken.word v).isKeyword clauseWords = false) :
    ∀ t ∈ ts, IsQuiet t := by
  induction h with
  | nil => rintro _ ⟨⟩
  | cons ht _ ih =>
    obtain ⟨hv, hw⟩ := List.forall_mem_cons.mp hw
    exact List.forall_mem_cons.mpr ⟨isQuiet_of_isWord ht hv, ih hw⟩

theorem run_clauseHead {head : List String} {hs : List SqlToken} (hh : head ∈ clauseHeads)
    (hw : List.Forall₂ IsWord head hs) (hl : ∀ x ∈ lists, x < depth)
    (hr : AtLevel depth lists names r) :
    r.run hs = having names depth lists .anything := by
  obtain ⟨w, ws, rfl, hfirst, hrest⟩ := words_of_clauseHeads head hh
  cases hw with
  | cons ht hw =>
    rw [run_cons, hr.step_endsClause hl (endsClause_of_isWord ht hfirst)]
    exact run_quiet (isQuiet_of_words hw hrest)

/-- Each phrase adds its names and leaves the rest of the reading as it was. -/
theorem scanned_of_derives {p : Phrase} {ts : List SqlToken} {ns : List String}
    (h : Derives p ts ns) : Scanned p ts ns := by
  induction h with
  | @query s f es is rs cs us n₁ n₂ n₃ n₄ n₅ hs _ hf _ _ _ _ ihe ihi ihr ihc ihu =>
    intro depth lists names hl
    -- `SELECT` finds no list of this depth to end, and `FROM` opens one for the items.
    have hselect : (having names depth lists .anything).step s =
        having names depth lists .anything :=
      atLevel_having.step_endsClause hl (endsClause_of_isWord hs ⟨by decide, by decide⟩)
    have hexprs := ihe depth lists names (fun x hx => Nat.le_of_lt (hl x hx)) (.inr (head_ne hl))
    have hfrom : (having (names ++ n₁) depth lists .anything).step f =
        having (names ++ n₁) depth (depth :: lists) .relation :=
      step_from ((isKeyword_of_isWord hf _).trans (by decide)) (head_ne hl)
    have hitem := ihi depth lists (names ++ n₁) hl
    have hitems := ihr depth lists _ _ hl hitem
    have hclauses := ihc (fun _ hh => hh) depth lists _ _ hl (.inr hitems)
    have hunion := ihu depth lists _ _ hl hclauses
    simpa only [run_cons, run_append, hselect, hexprs, hfrom, List.append_assoc] using hunion
  | table hn ha => exact scanned_table hn ha
  | qualified hn ha => exact scanned_qualified hn ha
  | subquery _ ha ih => exact scanned_subquery ih ha
  | function hh hw _ ha hc ih => exact scanned_function hh hw ih ha hc
  | noItem | noCondition =>
    intro depth lists names r _ hr
    rwa [List.append_nil]
  | next hlink _ _ _ ihi ihc ihr =>
    intro depth lists names r hl hr
    have hitem := ihi depth lists names hl
    have hrest := ihr depth lists _ _ hl (ihc depth lists _ _ hl hitem)
    simpa only [run_append, run_link hlink hr, List.append_assoc] using hrest
  | condition ho _ ih =>
    -- The list of the items stays open here, which is why a condition has no comma of its own.
    intro depth lists names r hl hr
    have hquiet := isQuiet_of_isWord ho ⟨by decide, by decide⟩
    rw [run_settle (ne_mark_of_isWord ho '.'), hr, run_cons, step_quiet hquiet,
      ih depth (depth :: lists) names (le_of_lists hl) (.inl rfl)]
    rfl
  | noClause =>
    intro _ depth lists names r _ hr
    rwa [List.append_nil]
  | skip _ ih =>
    intro hh depth lists names r hl hr
    exact ih (fun h hm => hh h (by simp [hm])) depth lists names r hl hr
  | @clause head heads hs es ts n₁ n₂ hw _ _ ihe iht =>
    intro hh depth lists names r hl hr
    obtain ⟨hhead, hheads⟩ := List.forall_mem_cons.mp hh
    have hexpr := ihe depth lists names (fun x hx => Nat.le_of_lt (hl x hx)) (.inr (head_ne hl))
    have hlevel : AtLevel depth lists (names ++ n₁) (having (names ++ n₁) depth lists .anything) :=
      atLevel_having
    have hrest := iht hheads depth lists _ _ hl hlevel
    simpa only [run_append, run_clauseHead hhead hw hl hr, hexpr, List.append_assoc] using hrest
  | noUnion =>
    intro depth lists names r _ hr
    rwa [List.append_nil]
  | union hu _ ih =>
    intro depth lists names r hl hr
    rw [run_cons, hr.step_endsClause hl (endsClause_of_isWord hu ⟨by decide, by decide⟩)]
    exact ih depth lists names hl
  | unionAll hu ha _ ih =>
    intro depth lists names r hl hr
    rw [run_cons, hr.step_endsClause hl (endsClause_of_isWord hu ⟨by decide, by decide⟩), run_cons,
      step_quiet (isQuiet_of_isWord ha ⟨by decide, by decide⟩)]
    exact ih depth lists names hl
  | empty =>
    intro depth lists names _ _
    rw [List.append_nil]
    rfl
  | token ht _ ih =>
    intro depth lists names hl hp
    rw [run_cons, step_allowed ht hp, ih depth lists names hl hp]
  | group _ _ ihe iht =>
    intro depth lists names hl hp
    rw [run_cons, step_open, run_append, run_cons, run_group ihe hl, iht depth lists _ hl hp,
      List.append_assoc]
  | nested _ _ ihq iht =>
    intro depth lists names hl hp
    rw [run_cons, step_open, run_append, run_cons, run_bracketed ihq hl, iht depth lists _ hl hp,
      List.append_assoc]

/-- The relations of a query are its unqualified names in the order of the text, each once. -/
theorem referencedRelations_query {sql : String} {ts : List SqlToken} {ns : List String}
    (hw : Written sql.toList ts) (hq : Derives .query ts ns) :
    referencedRelations sql = ns.eraseDups := by
  have hlevel := scanned_of_derives hq 0 [] [] (by simp)
  unfold referencedRelations
  rw [ofText_eq_iff.mpr hw]
  change Reading.finish (Reading.run (having [] 0 [] .anything) ts) = _
  rw [finish_settle]
  rcases hlevel with h | h <;> rw [h] <;> rfl

instance (p : Place) (t : SqlToken) : Decidable (p.Allows t) :=
  decidable_of_iff ((t ≠ .mark '(' ∧ t ≠ .mark ')') ∧ t.isKeyword relationWords = false ∧
      (p = .condition → t ≠ .mark ',') ∧ (p ≠ .brackets → t.isKeyword clauseWords = false))
    ⟨fun h => ⟨h.1, h.2.1, h.2.2.1, h.2.2.2⟩, fun h => ⟨h.1, h.2, h.3, h.4⟩⟩

/-- Tokens that may all stand in an expression are one. -/
theorem derives_tokens {p : Place} {ts : List SqlToken} (h : ∀ t ∈ ts, p.Allows t) :
    Derives (.expr p) ts [] := by
  induction ts with
  | nil => exact .empty
  | cons t ts ih =>
    obtain ⟨ht, hts⟩ := List.forall_mem_cons.mp h
    exact .token ht (ih hts)

theorem isWord_self (w : String) : IsWord w (.word w) := by
  simp [IsWord, SqlToken.isKeyword, Text.eqIgnoreCase]

theorem derives_noClauses : Derives (.clauses clauseHeads) [] [] :=
  .skip (.skip (.skip (.skip (.skip .noClause))))

/-- The tokens of a query of one column of one relation. -/
def selectFrom (column relation : String) : List SqlToken :=
  [.word "SELECT", .word column, .word "FROM", .word relation]

theorem derives_selectFrom {column relation : String} (hc : Place.list.Allows (.word column))
    (hr : (SqlToken.word relation).isKeyword queryWords = false) :
    Derives .query (selectFrom column relation) [relation] := by
  have hcolumn : Derives (.expr .list) [.word column] [] := .token hc .empty
  have hrelation : Derives .item [.word relation] [relation] := .table (.plain hr) (.inl rfl)
  exact Derives.query (isWord_self "SELECT") hcolumn (isWord_self "FROM") hrelation .noItem
    derives_noClauses .noUnion

/-- A query with a join, a second item in its list, nested queries and a union. -/
def nestedSql : String :=
  "SELECT e.id FROM \x60events\x60 e JOIN dims AS d ON e.k = d.k, (SELECT x FROM totals) t " ++
    "WHERE e.x IN (SELECT x FROM dims) UNION ALL SELECT id FROM late -- FROM nowhere"

def nestedTokens : List SqlToken :=
  ([.word "SELECT", .word "e", .mark '.', .word "id", .word "FROM", .name "events", .word "e",
    .word "JOIN", .word "dims", .word "AS", .word "d", .word "ON", .word "e", .mark '.', .word "k",
    .mark '=', .word "d", .mark '.', .word "k", .mark ',', .mark '('] : List SqlToken) ++
  selectFrom "x" "totals" ++ ([.mark ')', .word "t", .word "WHERE", .word "e", .mark '.',
    .word "x", .word "IN", .mark '('] : List SqlToken) ++
  selectFrom "x" "dims" ++ ([.mark ')', .word "UNION", .word "ALL"] : List SqlToken) ++
  selectFrom "id" "late"

theorem derives_nestedTokens :
    Derives .query nestedTokens ["events", "dims", "totals", "dims", "late"] := by
  have hcolumn : Derives (.expr .list) [.word "e", .mark '.', .word "id"] [] :=
    derives_tokens (by decide)
  have hevents : Derives .item [.name "events", .word "e"] ["events"] :=
    .table (.quoted "events") (.inr (.bare (.plain rfl)))
  have hdims : Derives .item [.word "dims", .word "AS", .word "d"] ["dims"] :=
    .table (.plain rfl) (.inr (.as (isWord_self "AS") (.plain rfl)))
  have hon : Derives .condition [.word "ON", .word "e", .mark '.', .word "k", .mark '=', .word "d",
      .mark '.', .word "k"] [] := .condition (isWord_self "ON") (derives_tokens (by decide))
  have htotals : Derives .item (.mark '(' :: (selectFrom "x" "totals" ++ [.mark ')', .word "t"]))
      ["totals"] := .subquery (derives_selectFrom (by decide) rfl) (.bare (.plain rfl))
  have hitems := Derives.next (.join (isWord_self "JOIN")) hdims hon
    (.next .comma htotals .noCondition .noItem)
  have hin : Derives (.expr .list) (.word "e" :: .mark '.' :: .word "x" :: .word "IN" ::
      .mark '(' :: (selectFrom "x" "dims" ++ [.mark ')'])) ["dims"] :=
    .token (by decide) (.token (by decide) (.token (by decide) (.token (by decide)
      (.nested (derives_selectFrom (by decide) rfl) .empty))))
  have hwhere : Derives (.clauses clauseHeads) (.word "WHERE" :: ((.word "e" :: .mark '.' ::
      .word "x" :: .word "IN" :: .mark '(' :: (selectFrom "x" "dims" ++ [.mark ')'])) ++ []))
      ["dims"] :=
    .clause (.cons (isWord_self "WHERE") .nil) hin (.skip (.skip (.skip (.skip .noClause))))
  have hlate : Derives .query (selectFrom "id" "late") ["late"] :=
    derives_selectFrom (by decide) rfl
  have hunion := Derives.unionAll (isWord_self "UNION") (isWord_self "ALL") hlate
  exact .query (isWord_self "SELECT") hcolumn (isWord_self "FROM") hevents hitems hwhere hunion

theorem referencedRelations_nestedSql : Written nestedSql.toList nestedTokens ∧
    Derives .query nestedTokens ["events", "dims", "totals", "dims", "late"] ∧
    referencedRelations nestedSql = ["events", "dims", "totals", "late"] := by
  have hw : Written nestedSql.toList nestedTokens := ofText_eq_iff.mp (by decide +kernel)
  refine ⟨hw, derives_nestedTokens, ?_⟩
  rw [referencedRelations_query hw derives_nestedTokens]
  decide

end StreamPipeline.Sql
