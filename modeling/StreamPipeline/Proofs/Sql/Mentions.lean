import StreamPipeline.Proofs.Sql.ReadingSteps

/-! # Queries with `FROM` in their expressions

The grammar of `SELECT` queries once more, with a `WITH` list in front and with the word `FROM` in
expressions, as in `EXTRACT(DAY FROM ts)`. Each phrase has the names that stand where the scan
awaits a relation: the tables of its items, and operands of its expressions.
-/

namespace StreamPipeline.Sql

/-- A name in the place of a relation: a table that is read, or an operand of an expression. -/
inductive Mention where
  | table (name : String)
  | operand (name : String)
deriving Repr, DecidableEq

namespace Mention

def name : Mention → String
  | table n | operand n => n

end Mention

/-- What stands in front of a token at its level of brackets: no `FROM`, a `FROM` further in front, or
directly in front a `FROM` or a comma that comes after one. -/
inductive Standing where
  | free
  | listed
  | awaited
deriving Repr, DecidableEq

namespace Standing

/-- Behind a token that is no `FROM`; a pair of brackets counts as its second one. -/
def behind (t : SqlToken) : Standing → Standing
  | free => free
  | listed =>
    if t = .mark ',' then awaited else if t.isKeyword clauseWords then free else listed
  | awaited => listed

@[simp] theorem behind_awaited (t : SqlToken) : awaited.behind t = listed := rfl

@[simp] theorem behind_listed_close : listed.behind (.mark ')') = listed := rfl

end Standing

/-- The tokens of a phrase with the names in it, and where the phrase begins and ends. No brackets or
clauses end where a relation is awaited, since the scan would take the next token for one: behind
each `FROM` of an expression, and behind each comma of its list, there is more than a literal. -/
inductive Mentions :
    Phrase → Standing → Standing → List SqlToken → List Mention → Prop where
  | query {s f : SqlToken} {es is rs cs us : List SqlToken} {e r c u : Standing}
      {m₁ m₂ m₃ m₄ m₅ : List Mention} :
      IsWord "SELECT" s → Mentions (.expr .list) .free e es m₁ → IsWord "FROM" f →
      Mentions .item .awaited .listed is m₂ → Mentions .items .listed r rs m₃ →
      Mentions (.clauses clauseHeads) r c cs m₄ → Mentions .union c u us m₅ →
      Mentions .query .free u (s :: (es ++ f :: (is ++ (rs ++ (cs ++ us)))))
        (m₁ ++ (m₂ ++ (m₃ ++ (m₄ ++ m₅))))
  | table {n : String} {t : SqlToken} {as : List SqlToken} : IsName n t → (as = [] ∨ Alias as) →
      Mentions .item .awaited .listed (t :: as) [.table n]
  | qualified {t u : SqlToken} {ts as : List SqlToken} : (∀ v ∈ t :: u :: ts, ∃ n, IsName n v) →
      (as = [] ∨ Alias as) →
      Mentions .item .awaited .listed ((t :: u :: ts).intersperse (.mark '.') ++ as) []
  | subquery {ts as : List SqlToken} {e : Standing} {ms : List Mention} :
      Mentions .query .free e ts ms → e ≠ .awaited → Alias as →
      Mentions .item .awaited .listed (.mark '(' :: (ts ++ .mark ')' :: as)) ms
  | function {head : List String} {hs es as cs : List SqlToken} {e : Standing}
      {ms : List Mention} : head ∈ functionHeads → List.Forall₂ IsWord head hs →
      Mentions (.expr .brackets) .free e es ms → e ≠ .awaited → Alias as →
      (∀ c ∈ cs, ∃ n, IsName n c) →
      Mentions .item .awaited .listed (hs ++ .mark '(' :: (es ++ .mark ')' :: (as ++
        .mark '(' :: (cs.intersperse (.mark ',') ++ [.mark ')'])))) ms
  | noItem {s : Standing} : Mentions .items s s [] []
  | next {ls is cs rs : List SqlToken} {c r : Standing} {m₁ m₂ m₃ : List Mention} : Link ls →
      Mentions .item .awaited .listed is m₁ → Mentions .condition .listed c cs m₂ →
      Mentions .items c r rs m₃ →
      Mentions .items .listed r (ls ++ (is ++ (cs ++ rs))) (m₁ ++ (m₂ ++ m₃))
  | noCondition : Mentions .condition .listed .listed [] []
  | condition {o : SqlToken} {es : List SqlToken} {e : Standing} {ms : List Mention} :
      IsWord "ON" o → Mentions (.expr .condition) .listed e es ms →
      Mentions .condition .listed e (o :: es) ms
  | noClause {s : Standing} : Mentions (.clauses []) s s [] []
  | skip {head : List String} {heads : List (List String)} {s s' : Standing}
      {ts : List SqlToken} {ms : List Mention} : Mentions (.clauses heads) s s' ts ms →
      Mentions (.clauses (head :: heads)) s s' ts ms
  | clause {head : List String} {heads : List (List String)} {s e s' : Standing}
      {hs es ts : List SqlToken} {m₁ m₂ : List Mention} : s ≠ .awaited →
      List.Forall₂ IsWord head hs → Mentions (.expr .list) .free e es m₁ →
      Mentions (.clauses heads) e s' ts m₂ →
      Mentions (.clauses (head :: heads)) s s' (hs ++ (es ++ ts)) (m₁ ++ m₂)
  | noUnion {s : Standing} : Mentions .union s s [] []
  | union {s e : Standing} {u : SqlToken} {ts : List SqlToken} {ms : List Mention} :
      s ≠ .awaited → IsWord "UNION" u → Mentions .query .free e ts ms →
      Mentions .union s e (u :: ts) ms
  | unionAll {s e : Standing} {u a : SqlToken} {ts : List SqlToken} {ms : List Mention} :
      s ≠ .awaited → IsWord "UNION" u → IsWord "ALL" a → Mentions .query .free e ts ms →
      Mentions .union s e (u :: a :: ts) ms
  | done {p : Place} {s : Standing} : Mentions (.expr p) s s [] []
  | token {p : Place} {s s' : Standing} {t : SqlToken} {ts : List SqlToken} {ms : List Mention} :
      p.Allows t → (s = .awaited → ∀ n, ¬ NamesRelation n t) →
      Mentions (.expr p) (s.behind t) s' ts ms → Mentions (.expr p) s s' (t :: ts) ms
  | from {p : Place} {s s' : Standing} {f : SqlToken} {ts : List SqlToken} {ms : List Mention} :
      IsWord "FROM" f → Mentions (.expr p) .awaited s' ts ms → Mentions (.expr p) s s' (f :: ts) ms
  | operand {p : Place} {s' : Standing} {n : String} {t : SqlToken} {ts : List SqlToken}
      {ms : List Mention} : p.Allows t → NamesRelation n t → .mark '.' ∉ ts.head? →
      Mentions (.expr p) .listed s' ts ms →
      Mentions (.expr p) .awaited s' (t :: ts) (.operand n :: ms)
  | path {p : Place} {s' : Standing} {n : String} {t u : SqlToken} {us ts : List SqlToken}
      {ms : List Mention} : (∀ v ∈ t :: u :: us, p.Allows v) → NamesRelation n t →
      .mark '.' ∉ ts.head? → Mentions (.expr p) .listed s' ts ms →
      Mentions (.expr p) .awaited s' ((t :: u :: us).intersperse (.mark '.') ++ ts) ms
  | group {p : Place} {s e s' : Standing} {es ts : List SqlToken} {m₁ m₂ : List Mention} :
      Mentions (.expr .brackets) .free e es m₁ → e ≠ .awaited →
      Mentions (.expr p) (s.behind (.mark ')')) s' ts m₂ →
      Mentions (.expr p) s s' (.mark '(' :: (es ++ .mark ')' :: ts)) (m₁ ++ m₂)
  | nested {p : Place} {s e s' : Standing} {qs ts : List SqlToken} {m₁ m₂ : List Mention} :
      Mentions .query .free e qs m₁ → e ≠ .awaited →
      Mentions (.expr p) (s.behind (.mark ')')) s' ts m₂ →
      Mentions (.expr p) s s' (.mark '(' :: (qs ++ .mark ')' :: ts)) (m₁ ++ m₂)

/-- The names of columns in brackets, where they may be left out. -/
inductive Columns : List SqlToken → Prop where
  | none : Columns []
  | some {cs : List SqlToken} : (∀ c ∈ cs, ∃ n, IsName n c) →
      Columns (.mark '(' :: (cs.intersperse (.mark ',') ++ [.mark ')']))

/-- The named queries of a `WITH` list, and their names. -/
inductive Definitions : List SqlToken → List String → List Mention → Prop where
  | one {n : String} {t a : SqlToken} {cs qs : List SqlToken} {e : Standing} {ms : List Mention} :
      IsName n t → Columns cs → IsWord "AS" a → Mentions .query .free e qs ms → e ≠ .awaited →
      Definitions (t :: (cs ++ a :: .mark '(' :: (qs ++ [.mark ')']))) [n] ms
  | more {ds es : List SqlToken} {bound bound' : List String} {m₁ m₂ : List Mention} :
      Definitions ds bound m₁ → Definitions es bound' m₂ →
      Definitions (ds ++ .mark ',' :: es) (bound ++ bound') (m₁ ++ m₂)

/-- A query, with the names that a `WITH` list in front of it binds. -/
inductive Selection : List SqlToken → List String → List Mention → Prop where
  | plain {ts : List SqlToken} {e : Standing} {ms : List Mention} :
      Mentions .query .free e ts ms → Selection ts [] ms
  | named {w : SqlToken} {ds ts : List SqlToken} {bound : List String} {e : Standing}
      {m₁ m₂ : List Mention} : IsWord "WITH" w → Definitions ds bound m₁ →
      Mentions .query .free e ts m₂ → Selection (w :: (ds ++ ts)) bound (m₁ ++ m₂)

/-! ### Queries without `FROM` in their expressions -/

/-- Where an expression without `FROM` may begin. -/
def Place.Begins (p : Place) (s : Standing) : Prop := s = .free ∨ p = .condition ∧ s = .listed

theorem Place.Begins.ne_awaited {p : Place} {s : Standing} (h : p.Begins s) : s ≠ .awaited := by
  rcases h with rfl | ⟨-, rfl⟩ <;> simp

theorem Place.Begins.behind_token {p : Place} {s : Standing} {t : SqlToken} (h : p.Begins s)
    (ht : p.Allows t) : s.behind t = s := by
  rcases h with rfl | ⟨rfl, rfl⟩
  · rfl
  · simp [Standing.behind, ht.comma rfl, ht.clause (by decide)]

theorem Place.Begins.behind_brackets {p : Place} {s : Standing} (h : p.Begins s) :
    s.behind (.mark ')') = s := by
  rcases h with rfl | ⟨-, rfl⟩ <;> rfl

/-- Without `FROM` in its expressions, a query mentions the tables of its items. -/
def Plainly : Phrase → List SqlToken → List Mention → Prop
  | .expr p, ts, ms => ∀ s, p.Begins s → Mentions (.expr p) s s ts ms
  | .query, ts, ms => ∃ e, e ≠ .awaited ∧ Mentions .query .free e ts ms
  | .item, ts, ms => Mentions .item .awaited .listed ts ms
  | .items, ts, ms => Mentions .items .listed .listed ts ms
  | .condition, ts, ms => Mentions .condition .listed .listed ts ms
  | φ, ts, ms => ∀ s, s ≠ .awaited → ∃ e, e ≠ .awaited ∧ Mentions φ s e ts ms

theorem plainly_of_derives {φ : Phrase} {ts : List SqlToken} {ns : List String}
    (h : Derives φ ts ns) : Plainly φ ts (ns.map .table) := by
  induction h with
  | query hs _ hf _ _ _ _ ihe ihi ihr ihc ihu =>
    obtain ⟨c, hc, ihc⟩ := ihc .listed (by simp)
    obtain ⟨u, hu, ihu⟩ := ihu c hc
    refine ⟨u, hu, ?_⟩
    simp only [List.map_append]
    exact .query hs (ihe .free (.inl rfl)) hf ihi ihr ihc ihu
  | table hn ha => exact .table hn ha
  | qualified hn ha => exact .qualified hn ha
  | subquery _ ha ih =>
    obtain ⟨e, he, ih⟩ := ih
    exact .subquery ih he ha
  | function hh hw _ ha hc ih => exact .function hh hw (ih .free (.inl rfl)) (by simp) ha hc
  | noItem => exact .noItem
  | noCondition => exact .noCondition
  | next hl _ _ _ ihi ihc ihr =>
    simp only [List.map_append]
    exact .next hl ihi ihc ihr
  | condition ho _ ih => exact .condition ho (ih .listed (.inr ⟨rfl, rfl⟩))
  | noClause => exact fun s hs => ⟨s, hs, .noClause⟩
  | skip _ ih =>
    intro s hs
    obtain ⟨e, he, ih⟩ := ih s hs
    exact ⟨e, he, .skip ih⟩
  | clause hw _ _ ihe iht =>
    intro s hs
    obtain ⟨e, he, iht⟩ := iht .free (by simp)
    refine ⟨e, he, ?_⟩
    rw [List.map_append]
    exact .clause hs hw (ihe .free (.inl rfl)) iht
  | noUnion => exact fun s hs => ⟨s, hs, .noUnion⟩
  | union hu _ ih =>
    intro s hs
    obtain ⟨e, he, ih⟩ := ih
    exact ⟨e, he, .union hs hu ih⟩
  | unionAll hu ha _ ih =>
    intro s hs
    obtain ⟨e, he, ih⟩ := ih
    exact ⟨e, he, .unionAll hs hu ha ih⟩
  | empty => exact fun s _ => .done
  | token ht _ ih =>
    intro s hs
    have hrest := ih s hs
    refine .token ht (fun ha => absurd ha hs.ne_awaited) ?_
    rwa [hs.behind_token ht]
  | group _ _ ihe iht =>
    intro s hs
    rw [List.map_append]
    refine .group (ihe .free (.inl rfl)) (by simp) ?_
    rw [hs.behind_brackets]
    exact iht s hs
  | nested _ _ ihq iht =>
    intro s hs
    obtain ⟨e, he, ihq⟩ := ihq
    rw [List.map_append]
    refine .nested ihq he ?_
    rw [hs.behind_brackets]
    exact iht s hs

theorem mentions_of_derives {ts : List SqlToken} {ns : List String} (h : Derives .query ts ns) :
    ∃ e, e ≠ .awaited ∧ Mentions .query .free e ts (ns.map .table) :=
  plainly_of_derives h

end StreamPipeline.Sql
