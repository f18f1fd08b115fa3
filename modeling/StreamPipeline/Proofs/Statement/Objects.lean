import StreamPipeline.Proofs.Sql.Written
import StreamPipeline.Statement.Session
import StreamPipeline.Statement.SinkTable
import StreamPipeline.Statement.SourceView
import StreamPipeline.Statement.TransformView

/-! # The object of a statement

The first words of a statement tell which view or table it creates. Whatever a name contains, the
statement creates the object of that name.
-/

namespace StreamPipeline

open Sql

/-- The view or table that a statement creates, as its first words say. -/
def createdObject? (sql : String) : Option String :=
  match SqlToken.ofText sql with
  | .word "CREATE" :: .word "TEMPORARY" :: .word "VIEW" :: .name n :: _ => some n
  | .word "CREATE" :: .word "TABLE" :: .name n :: _ => some n
  | _ => none

namespace Sql

theorem ofText_space (rest : String) : SqlToken.ofText (" " ++ rest) = SqlToken.ofText rest := by
  unfold SqlToken.ofText
  rw [String.toList_append]
  rfl

theorem ofText_word {w : String} (hw : w ≠ "" ∧ w.toList.all Scan.isWordChar = true) {rest : String}
    (hr : ∀ c ∈ rest.toList.head?, Scan.isWordChar c = false) :
    SqlToken.ofText (w ++ rest) = .word w :: SqlToken.ofText rest := by
  have hne : w.toList ≠ [] := by simpa using hw.1
  have h := Written.word hne (List.all_eq_true.mp hw.2) hr (ofText_eq_iff.mp rfl)
  rw [ofText_eq_iff, String.toList_append]
  simpa using h

/-- Words with a space after each of them. -/
def heading : List String → String
  | [] => ""
  | w :: rest => w ++ (" " ++ heading rest)

theorem ofText_heading {words : List String}
    (h : ∀ w ∈ words, w ≠ "" ∧ w.toList.all Scan.isWordChar = true) (rest : String) :
    SqlToken.ofText (heading words ++ rest) = words.map .word ++ SqlToken.ofText rest := by
  induction words with
  | nil => simp [heading]
  | cons w words ih =>
    obtain ⟨hw, hwords⟩ := List.forall_mem_cons.mp h
    have hspace : ∀ c ∈ (" " ++ (heading words ++ rest)).toList.head?,
        Scan.isWordChar c = false := by
      rw [String.toList_append]
      rintro c ⟨⟩
      decide
    rw [heading, String.append_assoc, String.append_assoc, ofText_word hw hspace, ofText_space,
      ih hwords, List.map_cons, List.cons_append]

theorem ofText_quoteIdent (name : String) {rest : String} (h : '\x60' ∉ rest.toList.head?) :
    SqlToken.ofText (quoteIdent name ++ rest) = .name name :: SqlToken.ofText rest := by
  rw [ofText_eq_iff, String.toList_append, quoteIdent, String.toList_ofList]
  simpa using @Written.name name.toList _ _ h (ofText_eq_iff.mp rfl)

end Sql

theorem createdObject?_view (name : String) {rest : String} (h : '\x60' ∉ rest.toList.head?) :
    createdObject? ("CREATE TEMPORARY VIEW " ++ (quoteIdent name ++ rest)) = some name := by
  have hw : "CREATE TEMPORARY VIEW " = heading ["CREATE", "TEMPORARY", "VIEW"] := by decide
  unfold createdObject?
  rw [hw, ofText_heading (by decide), ofText_quoteIdent name h]
  rfl

theorem createdObject?_table (name : String) {rest : String} (h : '\x60' ∉ rest.toList.head?) :
    createdObject? ("CREATE TABLE " ++ (quoteIdent name ++ rest)) = some name := by
  have hw : "CREATE TABLE " = heading ["CREATE", "TABLE"] := by decide
  unfold createdObject?
  rw [hw, ofText_heading (by decide), ofText_quoteIdent name h]
  rfl

/-! The statements of a session create neither. -/

theorem createdObject?_set (key value : String) :
    createdObject? (setStatement key value) = none := by
  have hw : "SET " = heading ["SET"] := by decide
  unfold createdObject? setStatement
  rw [String.append_assoc, String.append_assoc, hw, ofText_heading (by decide)]
  rfl

theorem createdObject?_catalog (settings : Settings) :
    createdObject? settings.catalogStatement = none := by
  have hw : "CREATE CATALOG IF NOT EXISTS " =
      heading ["CREATE", "CATALOG", "IF", "NOT", "EXISTS"] := by decide
  unfold createdObject? Settings.catalogStatement
  simp only [String.append_assoc]
  rw [hw, ofText_heading (by decide)]
  rfl

theorem createdObject?_function (f : FunctionDef) : createdObject? f.statement = none := by
  have hw : "CREATE TEMPORARY SYSTEM FUNCTION IF NOT EXISTS " =
      heading ["CREATE", "TEMPORARY", "SYSTEM", "FUNCTION", "IF", "NOT", "EXISTS"] := by decide
  unfold createdObject? FunctionDef.statement
  simp only [String.append_assoc]
  rw [hw, ofText_heading (by decide)]
  rfl

theorem createdObject?_source (catalog : String) (now : Int) (s : Source) :
    createdObject? (s.viewStatement catalog now) = some s.name := by
  unfold Source.viewStatement
  simp only [String.append_assoc]
  exact createdObject?_view _ (by simp)

theorem createdObject?_intermediate (name sql : String) :
    createdObject? (intermediateStatement name sql) = some (intermediateName name) := by
  unfold intermediateStatement
  simp only [String.append_assoc]
  exact createdObject?_view _ (by simp)

theorem createdObject?_projection (name : String) (columns : List Column) :
    createdObject? (projectionStatement name columns) = some name := by
  unfold projectionStatement
  simp only [String.append_assoc]
  exact createdObject?_view _ (by simp)

theorem createdObject?_sinkTable (settings : Settings) (name : String) (kind : SinkKind)
    (defs : List String) :
    createdObject? (sinkTableStatement settings name kind defs) = some name := by
  unfold sinkTableStatement
  simp only [String.append_assoc]
  exact createdObject?_table _ (by simp)

end StreamPipeline
