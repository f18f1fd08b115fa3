import StreamPipeline.Proofs.Sql.Mentions
import StreamPipeline.Proofs.Sql.QueryRelations

/-! # The names that a query mentions

The scan of a query finds the tables of its items and the operands that stand where an expression
has it await a relation, and nothing else. By induction on the phrases: each takes the reading from
where it begins to where it ends, and adds its names.
-/

namespace StreamPipeline.Sql

open Reading

variable {names : List String} {depth : Nat} {outer : List Nat} {r : Reading}

namespace Standing

/-- The open lists, with those of the outer levels. -/
def lists (depth : Nat) (outer : List Nat) : Standing → List Nat
  | free => outer
  | listed | awaited => depth :: outer

def awaiting : Standing → Awaiting
  | free | listed => .anything
  | awaited => .relation

/-- The reading that stands there at a depth, with the names found so far. -/
def reading (names : List String) (depth : Nat) (outer : List Nat) (s : Standing) : Reading :=
  having names depth (s.lists depth outer) s.awaiting

theorem settle_reading (s : Standing) :
    (s.reading names depth outer).settle = s.reading names depth outer := by
  cases s <;> rfl

end Standing

/-- The reading stands there, once a name that waits for a dot is reported. -/
def Stands (names : List String) (depth : Nat) (outer : List Nat) (s : Standing) (r : Reading) :
    Prop :=
  r.settle = s.reading names depth outer

theorem stands_reading (s : Standing) : Stands names depth outer s (s.reading names depth outer) :=
  s.settle_reading

/-- Where a relation is awaited no name waits for a dot. -/
theorem Stands.eq_reading (h : Stands names depth outer .awaited r) :
    r = Standing.awaited.reading names depth outer := by
  have ha := congrArg Reading.awaiting h
  obtain ⟨d, lists, awaiting, found⟩ := r
  cases awaiting <;> first | exact h | cases ha

theorem Stands.of_settle {s : Standing} (h : Stands names depth outer s r.settle) :
    Stands names depth outer s r := by
  obtain ⟨d, lists, awaiting, found⟩ := r
  cases awaiting <;> exact h

theorem Stands.run {s s' : Standing} {names' : List String} {ts : List SqlToken}
    (h : Stands names depth outer s r) (hd : .mark '.' ∉ ts.head?)
    (hr : Stands names' depth outer s' ((s.reading names depth outer).run ts)) :
    Stands names' depth outer s' (r.run ts) := by
  rw [← h] at hr
  cases ts with
  | nil => exact hr.of_settle
  | cons t ts => rwa [run_settle (by rintro rfl; exact hd rfl)]

theorem Stands.atLevel {s : Standing} (h : Stands names depth outer s r) (hs : s ≠ .awaited) :
    AtLevel depth outer names r := by
  cases s with
  | free => exact .inl h
  | listed => exact .inr h
  | awaited => exact absurd rfl hs

/-! ### Steps in an expression -/

theorem step_behind {p : Place} {s : Standing} {t : SqlToken} (ht : p.Allows t)
    (hn : s = .awaited → ∀ n, ¬ NamesRelation n t) (hl : ∀ x ∈ outer, x < depth) :
    (s.reading names depth outer).step t = (s.behind t).reading names depth outer := by
  cases s with
  | free => exact step_allowed ht (.inr (head_ne hl))
  | listed =>
    by_cases hc : t = .mark ','
    · subst hc
      exact step_comma_inside
    by_cases hw : t.isKeyword clauseWords = true
    · have hb : Standing.listed.behind t = .free := by simp [Standing.behind, hc, hw]
      rw [hb]
      exact EndsClause.step_inside ⟨ht.relation, hw⟩
    · have hb : Standing.listed.behind t = .listed := by simp [Standing.behind, hc, hw]
      rw [hb]
      refine step_quiet ⟨ht.relation, by simpa using hw, fun c hm => ?_⟩
      simp only [List.mem_cons, List.not_mem_nil, or_false] at hm
      rcases hm with rfl | rfl | rfl
      · exact ht.bracket.1
      · exact ht.bracket.2
      · exact hc
  | awaited =>
    -- The token names no relation, so it is passed and the list stays open.
    change relationToken _ t = _
    have hr := ht.relation
    cases t with
    | word text =>
      have hw : (SqlToken.word text).isKeyword noRelationWords = true := by
        by_contra hw
        exact hn rfl text (.plain hr (by simpa using hw))
      unfold relationToken
      rw [if_neg (by simp [hr])]
      exact if_pos hw
    | name text => exact absurd (.quoted text) (hn rfl text)
    | mark c =>
      unfold relationToken
      rw [if_neg (by simp [hr])]
      split
      next h => cases h
      next h => cases h
      next h => exact absurd h ht.bracket.1
      next => rfl

theorem step_fromIn {s : Standing} {f : SqlToken} (hf : IsWord "FROM" f)
    (hl : ∀ x ∈ outer, x < depth) :
    (s.reading names depth outer).step f = Standing.awaited.reading names depth outer := by
  have hk : f.isKeyword relationWords = true := (isKeyword_of_isWord hf _).trans (by decide)
  cases s with
  | free => exact step_from hk (head_ne hl)
  | listed => exact step_join hk
  | awaited =>
    have hr : (Standing.awaited.reading names depth outer).step f =
        (Standing.awaited.reading names depth outer).openList := if_pos hk
    rw [hr, openList]
    exact congrArg (Reading.mk depth · .relation _) (if_pos inList_inside)

theorem Stands.step_from {s : Standing} {f : SqlToken} (h : Stands names depth outer s r)
    (hf : IsWord "FROM" f) (hl : ∀ x ∈ outer, x < depth) :
    r.step f = Standing.awaited.reading names depth outer := by
  rw [step_settle (ne_mark_of_isWord hf '.'), h, step_fromIn hf hl]

theorem stands_operand {n : String} {t : SqlToken} (hn : NamesRelation n t) :
    Stands (names ++ [n]) depth outer .listed
      ((Standing.awaited.reading names depth outer).step t) := by
  rw [step_named hn rfl]
  exact report_having n

theorem stands_path {n : String} {t u : SqlToken} (us : List SqlToken) (hn : NamesRelation n t) :
    Stands names depth outer .listed ((Standing.awaited.reading names depth outer).run
      ((t :: u :: us).intersperse (.mark '.'))) := by
  have hparts : (⟨depth, depth :: outer, .part, names.eraseDups⟩ : Reading).run
      ((u :: us).intersperse (.mark '.')) = ⟨depth, depth :: outer, .afterPart, names.eraseDups⟩ :=
    run_parts (List.cons_ne_nil u us)
  rw [List.intersperse_cons_cons, run_cons, run_cons, step_named hn rfl]
  change Stands _ _ _ _ (Reading.run ⟨depth, depth :: outer, .part, names.eraseDups⟩ _)
  rw [hparts]
  rfl

/-! ### Phrases -/

/-- What a phrase does to a reading that stands where the phrase begins. -/
def Met : Phrase → Standing → Standing → List SqlToken → List Mention → Prop
  | .expr _, s, s', ts, ms => ∀ names depth outer, (∀ x ∈ outer, x < depth) →
      Stands (names ++ ms.map Mention.name) depth outer s' ((s.reading names depth outer).run ts)
  | .clauses heads, s, s', ts, ms => (∀ head ∈ heads, head ∈ clauseHeads) →
      ∀ names depth outer r, (∀ x ∈ outer, x < depth) → Stands names depth outer s r →
        Stands (names ++ ms.map Mention.name) depth outer s' (r.run ts)
  | _, s, s', ts, ms => ∀ names depth outer r, (∀ x ∈ outer, x < depth) →
      Stands names depth outer s r →
        Stands (names ++ ms.map Mention.name) depth outer s' (r.run ts)

/-- A query in brackets is read as an expression in brackets is. -/
theorem met_brackets {e : Standing} {ts : List SqlToken} {ms : List Mention}
    (h : Met .query .free e ts ms) : Met (.expr .brackets) .free e ts ms :=
  fun names depth outer hl => h names depth outer _ hl (stands_reading .free)

theorem met_columns {cs : List SqlToken} (h : ∀ c ∈ cs, ∃ n, IsName n c) :
    Met (.expr .brackets) .free .free (cs.intersperse (.mark ',')) [] := by
  intro names depth outer hl
  rw [List.map_nil, List.append_nil]
  exact congrArg settle (run_columns h (head_ne hl))

/-- Brackets are passed, wherever the reading stands inside them. -/
theorem run_brackets {s e : Standing} {ts : List SqlToken} {ms : List Mention}
    (h : Met (.expr .brackets) .free e ts ms) (he : e ≠ .awaited) (hl : ∀ x ∈ outer, x < depth)
    (us : List SqlToken) : (s.reading names depth outer).run (.mark '(' :: (ts ++ .mark ')' :: us)) =
      ((s.behind (.mark ')')).reading (names ++ ms.map Mention.name) depth outer).run us := by
  have hopen : (s.reading names depth outer).step (.mark '(') =
      Standing.free.reading names (depth + 1) (s.lists depth outer) := by
    cases s <;> rfl
  have hlt : ∀ x ∈ s.lists depth outer, x < depth + 1 := by
    cases s with
    | free => exact fun x hx => Nat.lt_succ_of_lt (hl x hx)
    | listed | awaited => exact fun x hx => Nat.lt_succ_of_le (le_of_lists hl x hx)
  have hclose (names : List String) : having names depth (s.lists depth outer) .anything =
      (s.behind (.mark ')')).reading names depth outer := by
    cases s <;> rfl
  have hinside := h names (depth + 1) _ hlt
  rw [run_cons, hopen, run_append, run_cons, (hinside.atLevel he).step_close hlt, hclose]

theorem Stands.run_alias {as : List SqlToken} (h : Stands names depth outer .listed r)
    (ha : Alias as) : r.run as = Standing.listed.reading names depth outer :=
  Sql.run_alias ha h

theorem stands_subquery {ts as : List SqlToken} {e : Standing} {ms : List Mention}
    (h : Met (.expr .brackets) .free e ts ms) (he : e ≠ .awaited) (ha : Alias as)
    (hl : ∀ x ∈ outer, x < depth) : Stands (names ++ ms.map Mention.name) depth outer .listed
      ((Standing.awaited.reading names depth outer).run (.mark '(' :: (ts ++ .mark ')' :: as))) := by
  rw [run_brackets h he hl, Standing.behind_awaited, (stands_reading _).run_alias ha]
  exact stands_reading .listed

theorem stands_function {head : List String} {hs es as cs : List SqlToken} {e : Standing}
    {ms : List Mention} (hh : head ∈ functionHeads) (hw : List.Forall₂ IsWord head hs)
    (hes : Met (.expr .brackets) .free e es ms) (he : e ≠ .awaited) (ha : Alias as)
    (hc : ∀ c ∈ cs, ∃ n, IsName n c) (hl : ∀ x ∈ outer, x < depth) :
    Stands (names ++ ms.map Mention.name) depth outer .listed
      ((Standing.awaited.reading names depth outer).run (hs ++ .mark '(' :: (es ++ .mark ')' ::
        (as ++ .mark '(' :: (cs.intersperse (.mark ',') ++ [.mark ')']))))) := by
  have hhead : (Standing.awaited.reading names depth outer).run hs =
      Standing.listed.reading names depth outer := run_functionHead hh hw
  rw [run_append, hhead, run_brackets hes he hl, run_append, Standing.behind_listed_close,
    (stands_reading _).run_alias ha, run_brackets (met_columns hc) (by simp) hl, List.map_nil,
    List.append_nil]
  exact stands_reading .listed

/-- Each phrase takes the reading from where it begins to where it ends, and adds its names. -/
theorem met_of_mentions {φ : Phrase} {s s' : Standing} {ts : List SqlToken} {ms : List Mention}
    (h : Mentions φ s s' ts ms) : Met φ s s' ts ms := by
  induction h with
  | query hs _ hf _ _ _ _ ihe ihi ihr ihc ihu =>
    intro names depth outer r hl hr
    have hselect : r.step _ = Standing.free.reading names depth outer :=
      (hr.atLevel (by simp)).step_endsClause hl (endsClause_of_isWord hs ⟨by decide, by decide⟩)
    have hfrom := (ihe names depth outer hl).step_from hf hl
    have hitem := ihi _ depth outer _ hl (hfrom ▸ stands_reading .awaited)
    have hitems := ihr _ depth outer _ hl hitem
    have hclauses := ihc (fun _ hh => hh) _ depth outer _ hl hitems
    have hunion := ihu _ depth outer _ hl hclauses
    simpa only [run_cons, run_append, hselect, hfrom, List.map_append, List.append_assoc]
      using hunion
  | table hn ha =>
    intro names depth outer r hl hr
    rw [hr.eq_reading]
    exact scanned_table hn ha depth outer names hl
  | qualified hn ha =>
    intro names depth outer r hl hr
    rw [hr.eq_reading]
    exact scanned_qualified hn ha depth outer names hl
  | subquery _ he ha ih =>
    intro names depth outer r hl hr
    rw [hr.eq_reading]
    exact stands_subquery (met_brackets ih) he ha hl
  | function hh hw _ he ha hc ih =>
    intro names depth outer r hl hr
    rw [hr.eq_reading]
    exact stands_function hh hw ih he ha hc hl
  | noItem | noCondition | noUnion =>
    intro names depth outer r _ hr
    rwa [List.map_nil, List.append_nil]
  | noClause =>
    intro _ names depth outer r _ hr
    rwa [List.map_nil, List.append_nil]
  | next hlink _ _ _ ihi ihc ihr =>
    intro names depth outer r hl hr
    have hitem := ihi names depth outer _ hl (stands_reading .awaited)
    have hcondition := ihc _ depth outer _ hl hitem
    have hrest := ihr _ depth outer _ hl hcondition
    have hawaited : r.run _ = Standing.awaited.reading names depth outer := run_link hlink hr
    simpa only [run_append, hawaited, List.map_append, List.append_assoc] using hrest
  | condition ho _ ih =>
    -- The list of the items is open here, so the expression begins in it.
    intro names depth outer r hl hr
    have hquiet := isQuiet_of_isWord ho ⟨by decide, by decide⟩
    have hon : (Standing.listed.reading names depth outer).step _ =
        Standing.listed.reading names depth outer := step_quiet hquiet
    rw [run_cons, step_settle (ne_mark_of_isWord ho '.'), hr, hon]
    exact ih names depth outer hl
  | skip _ ih =>
    intro hh names depth outer r hl hr
    exact ih (fun h hm => hh h (by simp [hm])) names depth outer r hl hr
  | clause hs hw _ _ ihe iht =>
    intro hh names depth outer r hl hr
    obtain ⟨hhead, hheads⟩ := List.forall_mem_cons.mp hh
    have hwords : r.run _ = Standing.free.reading names depth outer :=
      run_clauseHead hhead hw hl (hr.atLevel hs)
    have hrest := iht hheads _ depth outer _ hl (ihe names depth outer hl)
    simpa only [run_append, hwords, List.map_append, List.append_assoc] using hrest
  | union hs hu _ ih =>
    intro names depth outer r hl hr
    have hunion : r.step _ = Standing.free.reading names depth outer :=
      (hr.atLevel hs).step_endsClause hl (endsClause_of_isWord hu ⟨by decide, by decide⟩)
    rw [run_cons, hunion]
    exact ih names depth outer _ hl (stands_reading .free)
  | unionAll hs hu ha _ ih =>
    intro names depth outer r hl hr
    have hunion : r.step _ = Standing.free.reading names depth outer :=
      (hr.atLevel hs).step_endsClause hl (endsClause_of_isWord hu ⟨by decide, by decide⟩)
    have hall : (Standing.free.reading names depth outer).step _ =
        Standing.free.reading names depth outer :=
      step_quiet (isQuiet_of_isWord ha ⟨by decide, by decide⟩)
    rw [run_cons, hunion, run_cons, hall]
    exact ih names depth outer _ hl (stands_reading .free)
  | done =>
    intro names depth outer _
    rw [List.map_nil, List.append_nil]
    exact stands_reading _
  | token ht hn _ ih =>
    intro names depth outer hl
    rw [run_cons, step_behind ht hn hl]
    exact ih names depth outer hl
  | «from» hf _ ih =>
    intro names depth outer hl
    rw [run_cons, step_fromIn hf hl]
    exact ih names depth outer hl
  | operand _ hn hd _ ih =>
    -- The name still waits for a dot, which the next token of the expression is not.
    intro names depth outer hl
    rw [run_cons]
    refine (stands_operand hn).run hd ?_
    rw [List.map_cons, List.append_cons]
    exact ih _ depth outer hl
  | path _ hn hd _ ih =>
    intro names depth outer hl
    rw [run_append]
    exact (stands_path _ hn).run hd (ih names depth outer hl)
  | group _ he _ ihe iht =>
    intro names depth outer hl
    rw [run_brackets ihe he hl, List.map_append, ← List.append_assoc]
    exact iht _ depth outer hl
  | nested _ he _ ihq iht =>
    intro names depth outer hl
    rw [run_brackets (met_brackets ihq) he hl, List.map_append, ← List.append_assoc]
    exact iht _ depth outer hl

/-! ### Selections -/

theorem step_passed {t : SqlToken} (h : IsQuiet t) :
    (Standing.free.reading names depth outer).step t = Standing.free.reading names depth outer :=
  step_quiet h

theorem run_optionalColumns {cs : List SqlToken} (h : Columns cs) (hl : ∀ x ∈ outer, x < depth) :
    (Standing.free.reading names depth outer).run cs = Standing.free.reading names depth outer := by
  cases h with
  | none => rfl
  | some hc =>
    rw [run_brackets (met_columns hc) (by simp) hl, List.map_nil, List.append_nil]
    rfl

theorem run_definitions {ds : List SqlToken} {bound : List String} {ms : List Mention}
    (h : Definitions ds bound ms) (hl : ∀ x ∈ outer, x < depth) :
    (Standing.free.reading names depth outer).run ds =
      Standing.free.reading (names ++ ms.map Mention.name) depth outer := by
  induction h generalizing names with
  | one hn hc ha hq he =>
    have has := isQuiet_of_isWord ha ⟨by decide, by decide⟩
    have hquery := met_brackets (met_of_mentions hq)
    rw [run_cons, step_passed (isQuiet_of_isName hn), run_append, run_optionalColumns hc hl,
      run_cons, step_passed has, run_brackets hquery he hl]
    rfl
  | more _ _ ih ih' =>
    have hcomma (names : List String) : (Standing.free.reading names depth outer).step (.mark ',') =
        Standing.free.reading names depth outer := step_comma_outside (head_ne hl)
    rw [run_append, ih, run_cons, hcomma, ih', List.map_append, List.append_assoc]

/-- The relations of a query are the names that it mentions in the order of the text, each once. -/
theorem referencedRelations_selection {sql : String} {ts : List SqlToken} {bound : List String}
    {ms : List Mention} (hw : Written sql.toList ts) (h : Selection ts bound ms) :
    referencedRelations sql = (ms.map Mention.name).eraseDups := by
  have hl : ∀ x ∈ ([] : List Nat), x < 0 := by simp
  have hstands : ∃ e, Stands (ms.map Mention.name) 0 [] e
      ((Standing.free.reading [] 0 []).run ts) := by
    cases h with
    | plain hq => exact ⟨_, met_of_mentions hq [] 0 [] _ hl (stands_reading .free)⟩
    | named hwith hd hq =>
      have hword := isQuiet_of_isWord hwith ⟨by decide, by decide⟩
      rw [run_cons, step_passed hword, run_append, run_definitions hd hl, List.map_append]
      exact ⟨_, met_of_mentions hq _ 0 [] _ hl (stands_reading .free)⟩
  obtain ⟨e, he⟩ := hstands
  unfold referencedRelations
  rw [ofText_eq_iff.mpr hw]
  change ((Standing.free.reading [] 0 []).run ts).finish = _
  rw [finish_settle, he]
  rfl

/-- A text that is a query. -/
structure Query where
  text : String
  tokens : List SqlToken
  bound : List String
  mentions : List Mention
  written : Written text.toList tokens
  selection : Selection tokens bound mentions

namespace Query

variable (q : Query) {n : String}

/-- The query reads a table of that name, which is none of its own named queries. -/
def Reads (n : String) : Prop := .table n ∈ q.mentions ∧ n ∉ q.bound

/-- The name stands in the place of a relation and is not read: it is an operand of an expression,
or it names a query of the `WITH` list. -/
def Misleads (n : String) : Prop :=
  .operand n ∈ q.mentions ∧ ¬ q.Reads n ∨ .table n ∈ q.mentions ∧ n ∈ q.bound

instance (n : String) : Decidable (q.Reads n) := inferInstanceAs (Decidable (_ ∧ _))

instance (n : String) : Decidable (q.Misleads n) := inferInstanceAs (Decidable (_ ∨ _))

theorem mem_referencedRelations :
    n ∈ referencedRelations q.text ↔ .table n ∈ q.mentions ∨ .operand n ∈ q.mentions := by
  rw [referencedRelations_selection q.written q.selection, List.mem_eraseDups, List.mem_map]
  constructor
  · rintro ⟨m | m, hm, rfl⟩
    · exact .inl hm
    · exact .inr hm
  · rintro (h | h)
    · exact ⟨_, h, rfl⟩
    · exact ⟨_, h, rfl⟩

theorem mem_referencedRelations_iff_reads :
    n ∈ referencedRelations q.text ↔ q.Reads n ∨ q.Misleads n := by
  rw [mem_referencedRelations]
  unfold Misleads Reads
  tauto

end Query

end StreamPipeline.Sql
