import StreamPipeline.Proofs.Sql.ReadingSteps
import StreamPipeline.Proofs.Statement.Objects

/-! # The names in a statement

The insert of a sink and the projection of a transform are read back by the scanner as the tokens
that they were made of, whatever the names contain. So their quoted words are the names in order,
equal texts have equal names, and each statement reads one relation.
-/

namespace StreamPipeline

open Sql

namespace Sql

/-- The name, if the token is one in back quotes. -/
def SqlToken.quoted? : SqlToken → Option String
  | .name n => some n
  | .word _ | .mark _ => none

/-- The names in back quotes that the scanner finds in a text, in its order. -/
def quotedNames (sql : String) : List String := (SqlToken.ofText sql).filterMap SqlToken.quoted?

/-! ### Fragments of a statement -/

/-- A mark that begins no comment. -/
theorem ofText_mark {c : Char} (hc : IsMark c) (hd : c ≠ '-') (hs : c ≠ '/') (rest : String) :
    SqlToken.ofText (String.singleton c ++ rest) = .mark c :: SqlToken.ofText rest := by
  rw [ofText_eq_iff, String.toList_append, String.toList_singleton]
  exact .mark hc (fun h => absurd h hd) (fun h => absurd h hs) (ofText_eq_iff.mp rfl)

theorem isMark_of_mem {c : Char} (h : c ∈ [',', '(', ')']) : IsMark c := by
  simp only [List.mem_cons, List.not_mem_nil, or_false] at h
  rcases h with rfl | rfl | rfl <;> exact ⟨by decide +kernel, by decide, by decide⟩

/-- The tokens of a fragment, wherever a blank, a comma or the end of the statement follows it. -/
def Fragment (text : String) (ts : List SqlToken) : Prop :=
  ∀ rest : String, (∀ c ∈ rest.toList.head?, c = ' ' ∨ c = ',') →
    SqlToken.ofText (text ++ rest) = ts ++ SqlToken.ofText rest

theorem fragment_quoteIdent (name : String) : Fragment (quoteIdent name) [.name name] := by
  intro rest h
  refine ofText_quoteIdent name fun hq => ?_
  rcases h _ hq with h | h <;> exact absurd h (by decide)

/-- Joined fragments have their tokens with commas between them. -/
theorem fragment_join {α : Type} {l : List α} {text : α → String} {ts : α → List SqlToken}
    (h : ∀ a ∈ l, Fragment (text a) (ts a)) :
    Fragment (Text.join ", " (l.map text)) ([.mark ','].intercalate (l.map ts)) := by
  intro rest hrest
  induction l with
  | nil => simp [Text.join]
  | cons a l ih =>
    obtain ⟨ha, hl⟩ := List.forall_mem_cons.mp h
    cases l with
    | nil => simpa [Text.join] using ha rest hrest
    | cons b l =>
      have hcomma (more : String) : SqlToken.ofText (", " ++ more) =
          .mark ',' :: SqlToken.ofText more := by
        have hmark : IsMark ',' := isMark_of_mem (by simp)
        have hrest := ofText_mark hmark (by decide) (by decide) (" " ++ more)
        rwa [ofText_space, ← String.append_assoc] at hrest
      have hsep := ha (", " ++ (Text.join ", " ((b :: l).map text) ++ rest)) (by simp)
      simp only [List.map_cons] at ih hsep ⊢
      rw [Text.join, String.append_assoc, String.append_assoc, hsep, hcomma, ih hl]
      simp [List.intercalate_cons_cons]

/-- Texts with a separator between them are equal only if they are. -/
theorem intercalate_inj {α : Type} [BEq α] [LawfulBEq α] {sep : α} {ls ls' : List (List α)}
    (h : ∀ l ∈ ls, l ≠ [] ∧ sep ∉ l) (h' : ∀ l ∈ ls', l ≠ [] ∧ sep ∉ l)
    (he : [sep].intercalate ls = [sep].intercalate ls') : ls = ls' := by
  have hne (ms : List (List α)) (hm : ∀ l ∈ ms, l ≠ [] ∧ sep ∉ l) (hnil : ms ≠ []) :
      [sep].intercalate ms ≠ [] := by
    obtain ⟨m, rest, rfl⟩ := List.exists_cons_of_ne_nil hnil
    have hm := (hm m (by simp)).1
    cases rest <;> simp [List.intercalate_cons_cons, hm]
  by_cases hl : ls = []
  · subst hl
    by_contra hl'
    exact hne ls' h' (Ne.symm hl') he.symm
  · have hl' : ls' ≠ [] := by
      rintro rfl
      exact hne ls h hl he
    have hs := List.splitOn_intercalate sep (fun l hm => (h l hm).2) hl
    rw [he, List.splitOn_intercalate sep (fun l hm => (h' l hm).2) hl'] at hs
    exact hs.symm

end Sql

/-! ### Selected columns -/

namespace Column

/-- A column as JSON text under its own name. -/
def serializedTokens (function name : String) : List SqlToken :=
  [.word function, .mark '(', .name name, .mark ')', .word "AS", .name name]

/-- The tokens with which an insert selects a column. -/
def selectionTokens (c : Column) : List SqlToken :=
  match c.dataType with
  | .array _ => serializedTokens "ARRAY_TO_JSON" c.name
  | .row _ => serializedTokens "ROW_TO_JSON" c.name
  | _ => [.name c.name]

theorem fragment_serialized {function : String}
    (hf : function ≠ "" ∧ function.toList.all Scan.isWordChar = true) (name : String) :
    Fragment (function ++ "(" ++ quoteIdent name ++ ") AS " ++ quoteIdent name)
      (serializedTokens function name) := by
  intro rest hrest
  have htext : function ++ "(" ++ quoteIdent name ++ ") AS " ++ quoteIdent name ++ rest =
      function ++ (String.singleton '(' ++ (quoteIdent name ++ (String.singleton ')' ++ (" " ++
        (heading ["AS"] ++ (quoteIdent name ++ rest)))))) := by
    have hparts : ") AS " = String.singleton ')' ++ (" " ++ heading ["AS"]) := by decide
    have hopen : "(" = String.singleton '(' := by decide
    rw [hparts, hopen]
    simp only [String.append_assoc]
  have hopen : IsMark '(' := isMark_of_mem (by simp)
  have hclose : IsMark ')' := isMark_of_mem (by simp)
  rw [htext, ofText_word hf (by simp [hopen.word]), ofText_mark hopen (by decide) (by decide),
    ofText_quoteIdent name (by simp), ofText_mark hclose (by decide) (by decide), ofText_space,
    ofText_heading (by decide), fragment_quoteIdent name rest hrest]
  rfl

theorem fragment_selection (c : Column) : Fragment c.selection c.selectionTokens := by
  have harray : "ARRAY_TO_JSON(" = "ARRAY_TO_JSON" ++ "(" := by decide
  have hrow : "ROW_TO_JSON(" = "ROW_TO_JSON" ++ "(" := by decide
  obtain ⟨name, type, nullable, time⟩ := c
  cases type with
  | array _ =>
    simp only [selection, harray]
    exact fragment_serialized (by decide +kernel) name
  | row _ =>
    simp only [selection, hrow]
    exact fragment_serialized (by decide +kernel) name
  | _ => exact fragment_quoteIdent name

/-- A column is selected under its own name. -/
theorem getLast?_selectionTokens (c : Column) :
    c.selectionTokens.getLast? = some (.name c.name) := by
  obtain ⟨name, type, nullable, time⟩ := c
  cases type <;> rfl

theorem comma_notMem_selectionTokens (c : Column) : .mark ',' ∉ c.selectionTokens := by
  obtain ⟨name, type, nullable, time⟩ := c
  cases type <;> simp [selectionTokens, serializedTokens]

/-- The names in the selection of a column: one that is structured is the argument too. -/
def selectedNames (c : Column) : List String :=
  if c.dataType.isStructured then [c.name, c.name] else [c.name]

theorem quoted_selectionTokens (c : Column) :
    c.selectionTokens.filterMap SqlToken.quoted? = c.selectedNames := by
  obtain ⟨name, type, nullable, time⟩ := c
  cases type <;> rfl

/-- Selections with the same tokens select columns of the same names. -/
theorem names_of_selectionTokens {columns columns' : List Column}
    (h : [.mark ','].intercalate (columns.map selectionTokens) =
      [.mark ','].intercalate (columns'.map selectionTokens)) :
    columns.map (·.name) = columns'.map (·.name) := by
  have hparts (columns : List Column) :
      ∀ l ∈ columns.map selectionTokens, l ≠ [] ∧ .mark ',' ∉ l := by
    intro l hl
    obtain ⟨c, -, rfl⟩ := List.mem_map.mp hl
    refine ⟨fun hnil => ?_, c.comma_notMem_selectionTokens⟩
    have hlast := c.getLast?_selectionTokens
    simp [hnil] at hlast
  have hlast (columns : List Column) : (columns.map selectionTokens).map List.getLast? =
      (columns.map (·.name)).map fun n => some (SqlToken.name n) := by
    simp [getLast?_selectionTokens]
  have hmap := congrArg (List.map List.getLast?)
    (intercalate_inj (hparts columns) (hparts columns') h)
  rw [hlast, hlast] at hmap
  exact List.map_injective_iff.mpr (fun a b hab => by simpa using hab) hmap

end Column

/-! ### The relation of a statement -/

namespace Sql.Reading

/-- Where no list is open, these tokens open none. -/
def Idle (ts : List SqlToken) : Prop := start.run ts = start

theorem Idle.append {ts us : List SqlToken} (ht : Idle ts) (hu : Idle us) : Idle (ts ++ us) := by
  rw [Idle, run_append, ht, hu]

theorem idle_name (name : String) : Idle [.name name] := rfl

theorem idle_selectionTokens (c : Column) : Idle c.selectionTokens := by
  have hserialized : ∀ function ∈ ["ARRAY_TO_JSON", "ROW_TO_JSON"], ∀ name,
      Idle (Column.serializedTokens function name) := by
    intro function hf name
    simp only [List.mem_cons, List.not_mem_nil, or_false] at hf
    rcases hf with rfl | rfl <;> rfl
  obtain ⟨name, type, nullable, time⟩ := c
  cases type with
  | array _ => exact hserialized _ (by simp) name
  | row _ => exact hserialized _ (by simp) name
  | _ => rfl

theorem idle_intercalate {ls : List (List SqlToken)} (h : ∀ l ∈ ls, Idle l) :
    Idle ([.mark ','].intercalate ls) := by
  induction ls with
  | nil => rfl
  | cons l ls ih =>
    obtain ⟨hl, hls⟩ := List.forall_mem_cons.mp h
    cases ls with
    | nil => simpa using hl
    | cons m ls =>
      have hcomma : Idle [.mark ','] := rfl
      rw [List.intercalate_cons_cons]
      exact (hl.append hcomma).append (ih hls)

/-- A statement that ends with the only `FROM` reads what is named there. -/
theorem finish_from {ts : List SqlToken} (h : Idle ts) (name : String) :
    (start.run (ts ++ [.word "FROM", .name name])).finish = [name] := by
  rw [run_append, h]
  rfl

end Sql.Reading

/-! ### Statements -/

/-- The end of a statement, from its select list on. -/
theorem ofText_select {text : String} {ts : List SqlToken} (h : Fragment text ts) (view : String) :
    SqlToken.ofText (text ++ (" FROM " ++ quoteIdent view)) =
      ts ++ [.word "FROM", .name view] := by
  have hfrom : " FROM " = " " ++ heading ["FROM"] := by decide
  have hview : SqlToken.ofText (quoteIdent view) = [.name view] := by
    have hend : SqlToken.ofText (quoteIdent view ++ "") = [.name view] :=
      ofText_quoteIdent view (by simp)
    rwa [String.append_empty] at hend
  rw [h _ (by simp), hfrom, String.append_assoc, ofText_space, ofText_heading (by decide), hview]
  rfl

theorem ofText_insertStatement (sink view : String) (columns : List Column) :
    SqlToken.ofText (insertStatement sink view columns) =
      [.word "INSERT", .word "INTO", .name sink, .word "SELECT"] ++
        [.mark ','].intercalate (columns.map Column.selectionTokens) ++
          [.word "FROM", .name view] := by
  have hinto : "INSERT INTO " = heading ["INSERT", "INTO"] := by decide
  have hselect : " SELECT " = " " ++ heading ["SELECT"] := by decide
  have hcolumns := ofText_select (fragment_join (l := columns) fun c _ => c.fragment_selection) view
  unfold insertStatement
  simp only [String.append_assoc]
  rw [hinto, ofText_heading (by decide), ofText_quoteIdent sink (by simp), hselect,
    String.append_assoc, ofText_space, ofText_heading (by decide), hcolumns]
  simp

theorem ofText_projectionStatement (transform : String) (columns : List Column) :
    SqlToken.ofText (projectionStatement transform columns) =
      [.word "CREATE", .word "TEMPORARY", .word "VIEW", .name transform, .word "AS",
        .word "SELECT"] ++ [.mark ','].intercalate (columns.map fun c => [.name c.name]) ++
          [.word "FROM", .name (intermediateName transform)] := by
  have hview : "CREATE TEMPORARY VIEW " = heading ["CREATE", "TEMPORARY", "VIEW"] := by decide
  have hselect : " AS SELECT " = " " ++ heading ["AS", "SELECT"] := by decide
  have hcolumns := ofText_select (fragment_join (l := columns) fun c _ => fragment_quoteIdent c.name)
    (intermediateName transform)
  unfold projectionStatement
  simp only [String.append_assoc]
  rw [hview, ofText_heading (by decide), ofText_quoteIdent transform (by simp), hselect,
    String.append_assoc, ofText_space, ofText_heading (by decide), hcolumns]
  simp

/-- The names that are quoted in joined fragments. -/
theorem filterMap_intercalate (ls : List (List SqlToken)) :
    ([.mark ','].intercalate ls).filterMap SqlToken.quoted? =
      ls.flatMap (·.filterMap SqlToken.quoted?) := by
  induction ls with
  | nil => rfl
  | cons l ls ih =>
    cases ls with
    | nil => simp
    | cons m ls =>
      rw [List.intercalate_cons_cons, List.filterMap_append, List.filterMap_append, ih]
      simp [SqlToken.quoted?]

theorem quotedNames_insertStatement (sink view : String) (columns : List Column) :
    quotedNames (insertStatement sink view columns) =
      sink :: (columns.flatMap Column.selectedNames ++ [view]) := by
  unfold quotedNames
  rw [ofText_insertStatement, List.filterMap_append, List.filterMap_append, filterMap_intercalate,
    List.flatMap_map]
  simp only [Column.quoted_selectionTokens, List.append_assoc]
  rfl

theorem quotedNames_projectionStatement (transform : String) (columns : List Column) :
    quotedNames (projectionStatement transform columns) =
      transform :: (columns.map (·.name) ++ [intermediateName transform]) := by
  unfold quotedNames
  rw [ofText_projectionStatement, List.filterMap_append, List.filterMap_append,
    filterMap_intercalate, List.flatMap_map, List.map_eq_flatMap, List.append_assoc]
  rfl

theorem referencedRelations_insertStatement (sink view : String) (columns : List Column) :
    referencedRelations (insertStatement sink view columns) = [view] := by
  have hopening : Reading.Idle [.word "INSERT", .word "INTO", .name sink, .word "SELECT"] := rfl
  have hselect : Reading.Idle ([.mark ','].intercalate (columns.map Column.selectionTokens)) :=
    Reading.idle_intercalate (by simpa using fun c _ => Reading.idle_selectionTokens c)
  unfold referencedRelations
  rw [ofText_insertStatement]
  exact Reading.finish_from (hopening.append hselect) view

theorem referencedRelations_projectionStatement (transform : String) (columns : List Column) :
    referencedRelations (projectionStatement transform columns) = [intermediateName transform] := by
  have hopening : Reading.Idle [.word "CREATE", .word "TEMPORARY", .word "VIEW", .name transform,
      .word "AS", .word "SELECT"] := rfl
  have hselect : Reading.Idle ([.mark ','].intercalate (columns.map fun c => [.name c.name])) :=
    Reading.idle_intercalate (by simpa using fun c _ => Reading.idle_name c.name)
  unfold referencedRelations
  rw [ofText_projectionStatement]
  exact Reading.finish_from (hopening.append hselect) _

theorem insertStatement_inj {sink view sink' view' : String} {columns columns' : List Column}
    (h : insertStatement sink view columns = insertStatement sink' view' columns') :
    sink = sink' ∧ view = view' ∧ columns.map (·.name) = columns'.map (·.name) := by
  have htokens := congrArg SqlToken.ofText h
  rw [ofText_insertStatement, ofText_insertStatement] at htokens
  obtain ⟨hfront, hview⟩ := List.append_inj' htokens rfl
  obtain ⟨hsink, hselect⟩ := List.append_inj hfront rfl
  exact ⟨by simpa using hsink, by simpa using hview, Column.names_of_selectionTokens hselect⟩

theorem projectionStatement_inj {transform transform' : String} {columns columns' : List Column}
    (h : projectionStatement transform columns = projectionStatement transform' columns') :
    transform = transform' ∧ columns.map (·.name) = columns'.map (·.name) := by
  have hnames := congrArg quotedNames h
  rw [quotedNames_projectionStatement, quotedNames_projectionStatement] at hnames
  obtain ⟨htransform, hrest⟩ := List.cons.inj hnames
  exact ⟨htransform, (List.append_inj' hrest rfl).1⟩

/-- The scanner finds in an insert and in a projection exactly the names that they were made of, in
order and whatever the names contain. So statements with the same text have the same names, and each
refers to the one relation that it was made to read. -/
theorem insert_and_projection_read_back (sink view transform : String)
    (columns : List Column) :
    quotedNames (insertStatement sink view columns) =
        sink :: ((columns.flatMap fun c =>
          if c.dataType.isStructured then [c.name, c.name] else [c.name]) ++ [view]) ∧
      referencedRelations (insertStatement sink view columns) = [view] ∧
      (∀ sink' view' columns',
        insertStatement sink view columns = insertStatement sink' view' columns' →
          sink = sink' ∧ view = view' ∧ columns.map (·.name) = columns'.map (·.name)) ∧
      quotedNames (projectionStatement transform columns) =
        transform :: (columns.map (·.name) ++ [transform ++ "_tmp"]) ∧
      referencedRelations (projectionStatement transform columns) = [transform ++ "_tmp"] ∧
      ∀ transform' columns',
        projectionStatement transform columns = projectionStatement transform' columns' →
          transform = transform' ∧ columns.map (·.name) = columns'.map (·.name) :=
  ⟨quotedNames_insertStatement sink view columns,
    referencedRelations_insertStatement sink view columns,
    fun _ _ _ h => insertStatement_inj h,
    quotedNames_projectionStatement transform columns,
    referencedRelations_projectionStatement transform columns,
    fun _ _ h => projectionStatement_inj h⟩

/-- Columns with names that look like more of the statement, the first of them structured. -/
def oddColumns (scalar : LogicalType) : List Column :=
  [⟨"a``", .array scalar, true, none⟩, ⟨"b FROM c, /*", scalar, true, none⟩]

/-- Inserts of columns that differ in their types only. -/
theorem insert_and_projection_read_back_oddColumns :
    insertStatement "copy` FROM" "from" (oddColumns .int) =
        insertStatement "copy` FROM" "from" (oddColumns .date) ∧
      (oddColumns .int).map (·.name) = (oddColumns .date).map (·.name) ∧
      quotedNames (insertStatement "copy` FROM" "from" (oddColumns .int)) =
        ["copy` FROM", "a``", "a``", "b FROM c, /*", "from"] ∧
      referencedRelations (insertStatement "copy` FROM" "from" (oddColumns .int)) = ["from"] := by
  obtain ⟨hnames, hreads, hsame, -⟩ :=
    insert_and_projection_read_back "copy` FROM" "from" "totals" (oddColumns .int)
  have htext : insertStatement "copy` FROM" "from" (oddColumns .int) =
      insertStatement "copy` FROM" "from" (oddColumns .date) := rfl
  obtain ⟨-, -, hcolumns⟩ := hsame _ _ _ htext
  exact ⟨htext, hcolumns, hnames, hreads⟩

end StreamPipeline
