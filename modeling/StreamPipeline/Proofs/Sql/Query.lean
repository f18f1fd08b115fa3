import Mathlib.Data.List.Forall2
import StreamPipeline.Sql.Relations

/-! # Queries

The grammar of `SELECT` queries over tokens, with the unqualified relation names that each phrase
reads. Expressions are only told apart by what could be mistaken for a part of a query.
-/

namespace StreamPipeline.Sql

/-- The token is that word, in any case. -/
def IsWord (word : String) (t : SqlToken) : Prop := t.isKeyword [word] = true

/-- The words that are no plain names. -/
def queryWords : List String := relationWords ++ noRelationWords ++ clauseWords

/-- The token is a name: in back quotes, or a plain word that is not reserved. -/
inductive IsName : String → SqlToken → Prop where
  | quoted (n : String) : IsName n (.name n)
  | plain {n : String} : (SqlToken.word n).isKeyword queryWords = false → IsName n (.word n)

/-- A second name of an item. -/
inductive Alias : List SqlToken → Prop where
  | bare {n : String} {t : SqlToken} : IsName n t → Alias [t]
  | as {n : String} {a t : SqlToken} : IsWord "AS" a → IsName n t → Alias [a, t]

/-- What stands in front of the second and every later item of a `FROM` list. -/
inductive Link : List SqlToken → Prop where
  | comma : Link [.mark ',']
  | join {j : SqlToken} : IsWord "JOIN" j → Link [j]
  | kind {kind : String} {k j : SqlToken} : kind ∈ ["LEFT", "RIGHT", "FULL", "INNER", "CROSS"] →
      IsWord kind k → IsWord "JOIN" j → Link [k, j]

/-- Where an expression stands: in a list, in the condition of a join, or in brackets. -/
inductive Place where
  | list
  | condition
  | brackets
deriving DecidableEq

/-- The tokens of an expression outside further brackets. In a condition there is no comma, and only
in brackets there are words that would end a clause. -/
structure Place.Allows (p : Place) (t : SqlToken) : Prop where
  bracket : t ≠ .mark '(' ∧ t ≠ .mark ')'
  relation : t.isKeyword relationWords = false
  comma : p = .condition → t ≠ .mark ','
  clause : p ≠ .brackets → t.isKeyword clauseWords = false

/-- The clauses that may follow a `FROM` list, in their order. -/
def clauseHeads : List (List String) :=
  [["WHERE"], ["GROUP", "BY"], ["HAVING"], ["ORDER", "BY"], ["LIMIT"]]

/-- The words in front of a function in the place of a relation. -/
def functionHeads : List (List String) := [["LATERAL", "TABLE"], ["UNNEST"]]

/-- The phrases of a query. -/
inductive Phrase where
  | query
  | item
  | items
  | condition
  | clauses (heads : List (List String))
  | union
  | expr (p : Place)

/-- The tokens of a phrase, and the unqualified relation names in it in their order. -/
inductive Derives : Phrase → List SqlToken → List String → Prop where
  | query {s f : SqlToken} {es is rs cs us : List SqlToken} {n₁ n₂ n₃ n₄ n₅ : List String} :
      IsWord "SELECT" s → Derives (.expr .list) es n₁ → IsWord "FROM" f → Derives .item is n₂ →
      Derives .items rs n₃ → Derives (.clauses clauseHeads) cs n₄ → Derives .union us n₅ →
      Derives .query (s :: (es ++ f :: (is ++ (rs ++ (cs ++ us)))))
        (n₁ ++ (n₂ ++ (n₃ ++ (n₄ ++ n₅))))
  | table {n : String} {t : SqlToken} {as : List SqlToken} : IsName n t → (as = [] ∨ Alias as) →
      Derives .item (t :: as) [n]
  | qualified {t u : SqlToken} {ts as : List SqlToken} : (∀ v ∈ t :: u :: ts, ∃ n, IsName n v) →
      (as = [] ∨ Alias as) → Derives .item ((t :: u :: ts).intersperse (.mark '.') ++ as) []
  | subquery {ts as : List SqlToken} {ns : List String} : Derives .query ts ns → Alias as →
      Derives .item (.mark '(' :: (ts ++ .mark ')' :: as)) ns
  | function {head : List String} {hs es as cs : List SqlToken} {ns : List String} :
      head ∈ functionHeads → List.Forall₂ IsWord head hs → Derives (.expr .brackets) es ns →
      Alias as → (∀ c ∈ cs, ∃ n, IsName n c) →
      Derives .item (hs ++ .mark '(' :: (es ++ .mark ')' :: (as ++
        .mark '(' :: (cs.intersperse (.mark ',') ++ [.mark ')'])))) ns
  | noItem : Derives .items [] []
  | next {ls is cs rs : List SqlToken} {n₁ n₂ n₃ : List String} : Link ls → Derives .item is n₁ →
      Derives .condition cs n₂ → Derives .items rs n₃ →
      Derives .items (ls ++ (is ++ (cs ++ rs))) (n₁ ++ (n₂ ++ n₃))
  | noCondition : Derives .condition [] []
  | condition {o : SqlToken} {es : List SqlToken} {ns : List String} : IsWord "ON" o →
      Derives (.expr .condition) es ns → Derives .condition (o :: es) ns
  | noClause : Derives (.clauses []) [] []
  | skip {head : List String} {heads : List (List String)} {ts : List SqlToken} {ns : List String} :
      Derives (.clauses heads) ts ns → Derives (.clauses (head :: heads)) ts ns
  | clause {head : List String} {heads : List (List String)} {hs es ts : List SqlToken}
      {n₁ n₂ : List String} : List.Forall₂ IsWord head hs → Derives (.expr .list) es n₁ →
      Derives (.clauses heads) ts n₂ →
      Derives (.clauses (head :: heads)) (hs ++ (es ++ ts)) (n₁ ++ n₂)
  | noUnion : Derives .union [] []
  | union {u : SqlToken} {ts : List SqlToken} {ns : List String} : IsWord "UNION" u →
      Derives .query ts ns → Derives .union (u :: ts) ns
  | unionAll {u a : SqlToken} {ts : List SqlToken} {ns : List String} : IsWord "UNION" u →
      IsWord "ALL" a → Derives .query ts ns → Derives .union (u :: a :: ts) ns
  | empty {p : Place} : Derives (.expr p) [] []
  | token {p : Place} {t : SqlToken} {ts : List SqlToken} {ns : List String} : p.Allows t →
      Derives (.expr p) ts ns → Derives (.expr p) (t :: ts) ns
  | group {p : Place} {es ts : List SqlToken} {n₁ n₂ : List String} :
      Derives (.expr .brackets) es n₁ → Derives (.expr p) ts n₂ →
      Derives (.expr p) (.mark '(' :: (es ++ .mark ')' :: ts)) (n₁ ++ n₂)
  | nested {p : Place} {qs ts : List SqlToken} {n₁ n₂ : List String} :
      Derives .query qs n₁ → Derives (.expr p) ts n₂ →
      Derives (.expr p) (.mark '(' :: (qs ++ .mark ')' :: ts)) (n₁ ++ n₂)

end StreamPipeline.Sql
