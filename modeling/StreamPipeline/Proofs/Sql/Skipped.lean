import StreamPipeline.Pipeline.Dependencies
import StreamPipeline.Proofs.Sql.Written

/-! # Literals and comments in a query

A literal or a comment leaves no token. Wherever the scanner stands outside literals, comments and
names, one of them between blanks is as good as nothing, whatever it holds: the tokens around it,
the relations of the query and the dependencies of the pipeline are those of the query without it.
-/

namespace StreamPipeline

namespace Sql

namespace Scan

/-- Where the scanner stands behind the characters. -/
def behind (s : Scan) (cs : List Char) : Scan := cs.foldl (fun s c => (s.step c).1) s

/-- The tokens of a text are those that are complete behind its first part and those of the rest. -/
theorem exists_run_append (s : Scan) (cs : List Char) :
    ∃ ts, ∀ rest, run s (cs ++ rest) = ts ++ run (s.behind cs) rest := by
  induction cs generalizing s with
  | nil => exact ⟨[], fun _ => rfl⟩
  | cons c cs ih =>
    obtain ⟨ts, h⟩ := ih (s.step c).1
    refine ⟨(s.step c).2 ++ ts, fun rest => ?_⟩
    rw [List.cons_append, run, h, List.append_assoc]
    rfl

/-- A literal that the scanner stands in was opened by a single or a double quote. -/
def Quoted : Scan → Prop
  | literal q | literalQuote q => q ∈ ['\'', '"']
  | _ => True

theorem quoted_enter (c : Char) : (enter c).1.Quoted := by
  by_cases hq : c ∈ ['\'', '"']
  · rw [enter_quote hq]
    exact hq
  · simp only [List.mem_cons, List.not_mem_nil, or_false, not_or] at hq
    unfold enter
    simp only [hq, beq_iff_eq, Bool.or_eq_true, or_self, if_false]
    repeat' split
    all_goals trivial

theorem Quoted.step {s : Scan} (h : s.Quoted) (c : Char) : (s.step c).1.Quoted := by
  cases s with
  | plain => exact quoted_enter c
  | word _ | nameQuote _ | dash | slash =>
    simp only [Scan.step]
    split
    · trivial
    · exact quoted_enter c
  | literal _ =>
    simp only [Scan.step]
    split <;> exact h
  | literalQuote _ =>
    simp only [Scan.step]
    split
    · exact h
    · exact quoted_enter c
  | name _ | lineComment | blockComment | blockStar =>
    simp only [Scan.step]
    repeat' split
    all_goals trivial

theorem Quoted.behind {s : Scan} (h : s.Quoted) (cs : List Char) : (s.behind cs).Quoted := by
  induction cs generalizing s with
  | nil => exact h
  | cons c cs ih => exact ih (h.step c)

/-- A blank ends what is open, but for literals, comments and names. -/
theorem step_space {s : Scan} (hq : s.Quoted) (hs : s.settles = true) : (s.step ' ').1 = plain := by
  have hgo : s.goesOn ' ' = false := by
    cases s with
    | literalQuote q =>
      simp only [Quoted, List.mem_cons, List.not_mem_nil, or_false] at hq
      rcases hq with rfl | rfl <;> rfl
    | _ => rfl
  rw [step_settled hs hgo, enter_blank rfl]

end Scan

/-- The scan of the text ends outside literals, comments and names in back quotes. -/
def EndsOutside (text : String) : Prop := (Scan.plain.behind text.toList).settles = true

instance (text : String) : Decidable (EndsOutside text) := inferInstanceAs (Decidable (_ = true))

/-- A literal in single or double quotes, a comment in `/*` and `*/`, or a comment to the end of its
line. -/
inductive Skipped : List Char → Prop where
  | literal {q : Char} (v : List Char) : q ∈ ['\'', '"'] → Skipped (enclose q v)
  | block {v : List Char} : ¬ ['*', '/'] <:+: v → Skipped ('/' :: '*' :: (v ++ ['*', '/']))
  | line {v : List Char} : '\n' ∉ v → Skipped ('-' :: '-' :: (v ++ ['\n']))

/-- The scanner finds nothing in what is skipped. -/
theorem Skipped.run_plain {cs : List Char} (h : Skipped cs) (rest : List Char) :
    Scan.run .plain (cs ++ ' ' :: rest) = Scan.run .plain (' ' :: rest) := by
  have hrest : Written (' ' :: rest) (Scan.run .plain (' ' :: rest)) := written_iff.mpr rfl
  apply run_of_written
  cases h with
  | @literal q v hq =>
    have hspace : q ∉ (' ' :: rest).head? := by
      simp only [List.mem_cons, List.not_mem_nil, or_false] at hq
      rcases hq with rfl | rfl <;> simp
    exact .literal hq hspace hrest
  | @block v hv => simpa using Written.blockComment hv hrest
  | @line v hv => simpa using Written.lineComment hv hrest

/-- Between blanks behind a text that ends outside, what is skipped changes no token. -/
theorem ofText_skipped {before : String} (hb : EndsOutside before) {x : String}
    (hx : Skipped x.toList) (after : String) :
    SqlToken.ofText (before ++ " " ++ x ++ " " ++ after) =
      SqlToken.ofText (before ++ " " ++ after) := by
  have hquoted : (Scan.plain.behind before.toList).Quoted :=
    Scan.Quoted.behind (s := .plain) trivial _
  have hplain : Scan.plain.behind (before.toList ++ [' ']) = .plain := by
    rw [Scan.behind, List.foldl_append]
    exact Scan.step_space hquoted hb
  obtain ⟨ts, hts⟩ := Scan.exists_run_append .plain (before.toList ++ [' '])
  rw [hplain] at hts
  have hwith : (before ++ " " ++ x ++ " " ++ after).toList =
      (before.toList ++ [' ']) ++ (x.toList ++ ' ' :: after.toList) := by simp
  have hwithout : (before ++ " " ++ after).toList = (before.toList ++ [' ']) ++ after.toList := by
    simp
  have hspace : Scan.run .plain (' ' :: after.toList) = Scan.run .plain after.toList := rfl
  unfold SqlToken.ofText
  rw [hwith, hwithout, hts, hts, hx.run_plain, hspace]

end Sql

namespace DependencyGraph

/-- The graph depends on the queries by their relations only. -/
theorem allTransformEdges_congr {views : List String} {queries queries' : List String}
    (h : queries.map Sql.referencedRelations = queries'.map Sql.referencedRelations)
    (transforms : List Transform) (node : Nat) :
    allTransformEdges views node transforms queries =
      allTransformEdges views node transforms queries' := by
  induction transforms generalizing node queries queries' with
  | nil => simp [allTransformEdges]
  | cons t transforms ih =>
    cases queries with
    | nil =>
      obtain rfl : queries' = [] := by simpa using h.symm
      rfl
    | cons sql queries =>
      cases queries' with
      | nil => simp at h
      | cons sql' queries' =>
        obtain ⟨hsql, hrest⟩ := List.cons.inj h
        rw [allTransformEdges, allTransformEdges, hsql, ih hrest]

theorem build_congr {queries queries' : List String}
    (h : queries.map Sql.referencedRelations = queries'.map Sql.referencedRelations)
    (p : Pipeline) : build p queries = build p queries' := by
  simp only [build, allTransformEdges_congr h]

end DependencyGraph

namespace Sql

/-- Behind a text that ends outside literals, comments and names, a literal or a comment between
blanks decides nothing: with any other in its place, or with none, the query refers to the same
relations, and the graph of a pipeline with the query is the same. -/
theorem references_of_skipped {before : String} (hb : EndsOutside before) {x y : String}
    (hx : Skipped x.toList) (hy : Skipped y.toList) (after : String) :
    referencedRelations (before ++ " " ++ x ++ " " ++ after) =
        referencedRelations (before ++ " " ++ y ++ " " ++ after) ∧
      referencedRelations (before ++ " " ++ x ++ " " ++ after) =
        referencedRelations (before ++ " " ++ after) ∧
      ∀ (p : Pipeline) (earlier later : List String),
        DependencyGraph.build p (earlier ++ (before ++ " " ++ x ++ " " ++ after) :: later) =
          DependencyGraph.build p (earlier ++ (before ++ " " ++ y ++ " " ++ after) :: later) := by
  have hnone {z : String} (hz : Skipped z.toList) :
      referencedRelations (before ++ " " ++ z ++ " " ++ after) =
        referencedRelations (before ++ " " ++ after) := by
    unfold referencedRelations
    rw [ofText_skipped hb hz after]
  have hsame := (hnone hx).trans (hnone hy).symm
  refine ⟨hsame, hnone hx, fun p earlier later => DependencyGraph.build_congr ?_ p⟩
  simp only [List.map_append, List.map_cons, hsame]

/-- A literal whose content looks like more of the query, and a comment with a quote in it. -/
theorem references_of_skipped_quotedFrom :
    EndsOutside "SELECT `a``'b` FROM events e WHERE e.note =" ∧
      Skipped "'it''s -- /* FROM hidden'".toList ∧ Skipped "/* it's \" FROM other **/".toList ∧
      referencedRelations ("SELECT `a``'b` FROM events e WHERE e.note =" ++ " " ++
        "'it''s -- /* FROM hidden'" ++ " " ++ "AND id IN (SELECT id FROM totals)") =
          referencedRelations ("SELECT `a``'b` FROM events e WHERE e.note =" ++ " " ++
            "/* it's \" FROM other **/" ++ " " ++ "AND id IN (SELECT id FROM totals)") ∧
      referencedRelations ("SELECT `a``'b` FROM events e WHERE e.note =" ++ " " ++
        "'it''s -- /* FROM hidden'" ++ " " ++ "AND id IN (SELECT id FROM totals)") =
          ["events", "totals"] := by
  have hb : EndsOutside "SELECT `a``'b` FROM events e WHERE e.note =" := by decide +kernel
  have hx : Skipped "'it''s -- /* FROM hidden'".toList :=
    Skipped.literal (q := '\'') "it's -- /* FROM hidden".toList (by decide)
  have hy : Skipped "/* it's \" FROM other **/".toList :=
    .block (v := " it's \" FROM other *".toList) (by decide +kernel)
  obtain ⟨hsame, hnone, -⟩ :=
    references_of_skipped hb hx hy "AND id IN (SELECT id FROM totals)"
  exact ⟨hb, hx, hy, hsame, hnone.trans (by decide +kernel)⟩

end Sql

end StreamPipeline
