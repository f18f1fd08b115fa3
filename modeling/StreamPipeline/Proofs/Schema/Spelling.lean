import StreamPipeline.Proofs.Schema.Lengths

/-! # Spellings of a type

The runtime writes more than a type has to say: blanks between the tokens, nullability and comments
of nested parts, round brackets around the fields of a row. The spellings of a type are its texts
with any of these, and the text that this library prints is one of them.
-/

namespace StreamPipeline

open Lexeme

/-- Characters that may stand between tokens. -/
structure Blanks where
  chars : List Char
  blank : ∀ a ∈ chars, isGap a = true

namespace Blanks

instance : Coe Blanks (List Char) := ⟨chars⟩

def none : Blanks := ⟨[], by simp⟩

def space : Blanks := ⟨[' '], List.all_eq_true.mp rfl⟩

@[simp] theorem chars_none : none.chars = [] := rfl

@[simp] theorem chars_space : space.chars = [' '] := rfl

end Blanks

/-- Two texts that do not run together to one word. -/
def Apart (cs ds : List Char) : Prop :=
  ∀ a ∈ cs.getLast?, isWordChar a = true → ∀ b ∈ ds.head?, isWordChar b = false

/-- What is said about null: nothing, `NULL`, or `NOT NULL`. -/
inductive NullText where
  | unsaid
  | null (gap : Blanks)
  | notNull (gap between : Blanks) (ne : between.chars ≠ [])

namespace NullText

def chars : NullText → List Char
  | unsaid => []
  | null gap => gap ++ "NULL".toList
  | notNull gap between _ => gap ++ ("NOT".toList ++ (between ++ "NULL".toList))

def nullable : NullText → Bool
  | notNull _ _ _ => false
  | _ => true

end NullText

/-- A comment, if there is one. -/
inductive CommentText where
  | unsaid
  | literal (gap : Blanks) (content : List Char)

def CommentText.chars : CommentText → List Char
  | unsaid => []
  | literal gap content => gap ++ Sql.enclose '\'' content

/-- A field of a row as it is written, from the separator before it to the separator after it. A
literal behind a type that is kept as written would belong to that type. -/
structure FieldText where
  name : String
  type : LogicalType
  text : List Char
  before : Blanks
  between : Blanks
  after : Blanks
  nullness : NullText
  comment : CommentText
  apart : Apart text nullness.chars
  known : comment ≠ .unsaid → ∀ raw, type ≠ .unsupported raw

namespace FieldText

def chars (f : FieldText) : List Char :=
  f.before ++ (Sql.enclose '\x60' f.name.toList ++ (f.between ++ (f.text ++ (f.nullness.chars ++
    (f.comment.chars ++ f.after)))))

def field (f : FieldText) : String × LogicalType := (f.name, f.type)

/-- The fields of a row, with commas between them. -/
def join : List FieldText → List Char
  | [] => []
  | [f] => f.chars
  | f :: g :: fs => f.chars ++ ',' :: join (g :: fs)

end FieldText

/-- The brackets around the fields of a row. -/
inductive RowBrackets : Char → Char → Prop where
  | angle : RowBrackets '<' '>'
  | round : RowBrackets '(' ')'

namespace LogicalType

/-- The text of a type that is one word. -/
def word? : LogicalType → Option String
  | tinyInt => some "TINYINT"
  | smallInt => some "SMALLINT"
  | int => some "INT"
  | bigInt => some "BIGINT"
  | float => some "FLOAT"
  | double => some "DOUBLE"
  | boolean => some "BOOLEAN"
  | date => some "DATE"
  | time none => some "TIME"
  | timestamp none => some "TIMESTAMP"
  | timestampLtz none => some "TIMESTAMP_LTZ"
  | varchar none => some "STRING"
  | varbinary none => some "BYTES"
  | _ => none

/-- The word and the number of a type that is written with one number in parentheses. -/
def sized? : LogicalType → Option (String × Nat)
  | time (some p) => some ("TIME", p.toNat)
  | timestamp (some p) => some ("TIMESTAMP", p.toNat)
  | timestampLtz (some p) => some ("TIMESTAMP_LTZ", p.toNat)
  | char n => some ("CHAR", n.toNat)
  | varchar (some n) => some ("VARCHAR", n.toNat)
  | binary n => some ("BINARY", n.toNat)
  | varbinary (some n) => some ("VARBINARY", n.toNat)
  | _ => none

/-- A number in parentheses. -/
def parenthesised (g₁ g₂ g₃ : Blanks) (n : Nat) : List Char :=
  g₁ ++ '(' :: (g₂ ++ (Nat.toDigits 10 n ++ (g₃ ++ [')'])))

/-- Two numbers in parentheses. -/
def parenthesised₂ (g₁ g₂ g₃ g₄ g₅ : Blanks) (m n : Nat) : List Char :=
  g₁ ++ '(' :: (g₂ ++ (Nat.toDigits 10 m ++ (g₃ ++ ',' ::
    (g₄ ++ (Nat.toDigits 10 n ++ (g₅ ++ [')']))))))

/-- The texts of a type. -/
inductive Spelling : LogicalType → List Char → Prop where
  | word {t : LogicalType} {w : String} : t.word? = some w → Spelling t w.toList
  | sized {t : LogicalType} {w : String} {n : Nat} (g₁ g₂ g₃ : Blanks) :
      t.sized? = some (w, n) → Spelling t (w.toList ++ parenthesised g₁ g₂ g₃ n)
  | decimal (g₁ g₂ g₃ g₄ g₅ : Blanks) (p s : UInt8) : Spelling (.decimal p s)
      ("DECIMAL".toList ++ parenthesised₂ g₁ g₂ g₃ g₄ g₅ p.toNat s.toNat)
  | array {e : LogicalType} {cs : List Char} (g₁ g₂ g₃ : Blanks) (ns : NullText) :
      Spelling e cs → Apart cs ns.chars →
      Spelling (.array e)
        ("ARRAY".toList ++ (g₁ ++ '<' :: (g₂ ++ (cs ++ (ns.chars ++ (g₃ ++ ['>']))))))
  | emptyRow {o c : Char} (g₁ g₂ : Blanks) : RowBrackets o c →
      Spelling (.row []) ("ROW".toList ++ (g₁ ++ o :: (g₂ ++ [c])))
  | row {o c : Char} {fs : List FieldText} (g : Blanks) : RowBrackets o c → fs ≠ [] →
      (∀ f ∈ fs, Spelling f.type f.text) →
      Spelling (.row (fs.map FieldText.field))
        ("ROW".toList ++ (g ++ o :: (FieldText.join fs ++ [c])))
  | unsupported (raw : String) : Spelling (.unsupported raw) raw.toList

/-- The types inside a type, itself included. -/
inductive Inside (u : LogicalType) : LogicalType → Prop where
  | refl : Inside u u
  | element {e : LogicalType} : Inside u e → Inside u (.array e)
  | field {f : String × LogicalType} {fs : List (String × LogicalType)} :
      f ∈ fs → Inside u f.2 → Inside u (.row fs)

theorem eq_of_inside {t u : LogicalType} (ht : t.isStructured = false) (h : Inside u t) :
    u = t := by
  cases h with
  | refl => rfl
  | element _ | field _ _ => cases ht

/-! ### The printed text -/

theorem induction {P : LogicalType → Prop} (scalar : ∀ t, t.isStructured = false → P t)
    (array : ∀ e, P e → P (.array e)) (row : ∀ fs, (∀ f ∈ fs, P f.2) → P (.row fs))
    (t : LogicalType) : P t :=
  match t with
  | .array e => array e (induction scalar array row e)
  | .row fs => row fs fun f _hf => induction scalar array row f.2
  | .tinyInt | .smallInt | .int | .bigInt | .decimal _ _ | .float | .double | .boolean | .date
  | .time _ | .timestamp _ | .timestampLtz _ | .char _ | .varchar _ | .binary _ | .varbinary _
  | .unsupported _ => scalar _ rfl
termination_by sizeOf t
decreasing_by
  · simp
  · have := List.sizeOf_lt_of_mem _hf
    cases f
    simp only [Prod.mk.sizeOf_spec, LogicalType.row.sizeOf_spec] at this ⊢
    omega

theorem render_of_word? {t : LogicalType} {w : String} (h : t.word? = some w) : t.render = w := by
  unfold word? at h
  split at h <;> cases h <;> rfl

theorem render_of_sized? {t : LogicalType} {w : String} {n : Nat} (h : t.sized? = some (w, n)) :
    t.render = w ++ "(" ++ toString n ++ ")" := by
  unfold sized? at h
  split at h <;> cases h <;> rfl

theorem spelling_of_word? {t : LogicalType} {w : String} (h : t.word? = some w) :
    Spelling t t.render.toList := by
  rw [render_of_word? h]
  exact .word h

theorem spelling_of_sized? {t : LogicalType} {w : String} {n : Nat} (h : t.sized? = some (w, n)) :
    Spelling t t.render.toList := by
  have hs := Spelling.sized .none .none .none h
  rw [render_of_sized? h]
  simpa [parenthesised, String.toList_append] using hs

/-- A field as this library prints it. -/
def printedField (before : Blanks) (f : String × LogicalType) : FieldText where
  name := f.1
  type := f.2
  text := f.2.render.toList
  before
  between := .space
  after := .none
  nullness := .unsaid
  comment := .unsaid
  apart := by rintro _ _ _ _ ⟨⟩
  known h := absurd rfl h

theorem toList_renderFields (before : Blanks) (f : String × LogicalType)
    (fs : List (String × LogicalType)) : before ++ (renderFields (f :: fs)).toList =
      FieldText.join (printedField before f :: fs.map (printedField .space)) := by
  obtain ⟨name, t⟩ := f
  induction fs generalizing before name t with
  | nil =>
    simp [renderFields, FieldText.join, FieldText.chars, printedField, backquoted, Sql.enclose,
      NullText.chars, CommentText.chars, String.toList_append]
  | cons g fs ih =>
    have hg := ih .space g.1 g.2
    simp only [Blanks.chars_space, List.cons_append, List.nil_append] at hg
    simp only [List.map_cons, FieldText.join, ← hg]
    simp [renderFields, FieldText.chars, printedField, backquoted, Sql.enclose, NullText.chars,
      CommentText.chars, String.toList_append]

/-- The printed text of a type is one of its spellings. -/
theorem spelling_render (t : LogicalType) : Spelling t t.render.toList := by
  induction t using induction with
  | scalar t ht =>
    cases t with
    | array _ => cases ht
    | row _ => cases ht
    | decimal p s =>
      have h := Spelling.decimal .none .none .none .space .none p s
      simpa [parenthesised₂, render, String.toList_append] using h
    | time p | timestamp p | timestampLtz p | varchar p | varbinary p =>
      cases p with
      | none => exact spelling_of_word? rfl
      | some n => exact spelling_of_sized? rfl
    | char n | binary n => exact spelling_of_sized? rfl
    | unsupported raw => exact .unsupported raw
    | _ => exact spelling_of_word? rfl
  | array e ih =>
    have h := Spelling.array .none .none .none .unsaid ih (by rintro _ _ _ _ ⟨⟩)
    simpa [NullText.chars, render, String.toList_append] using h
  | row fs ih =>
    cases fs with
    | nil =>
      have h := Spelling.emptyRow .none .none .angle
      simpa [render, renderFields, String.toList_append] using h
    | cons f fs =>
      have hprinted : ∀ g ∈ printedField .none f :: fs.map (printedField .space),
          Spelling g.type g.text := by
        intro g hg
        rcases List.mem_cons.mp hg with rfl | hg
        · exact ih f (by simp)
        · obtain ⟨f', hf, rfl⟩ := List.mem_map.mp hg
          exact ih f' (by simp [hf])
      have h := Spelling.row .none .angle (by simp) hprinted
      have hfields : (printedField .none f :: fs.map (printedField .space)).map FieldText.field =
          f :: fs := by
        simp [FieldText.field, printedField, Function.comp_def]
      rw [← toList_renderFields .none f fs, hfields] at h
      simpa [render, String.toList_append] using h

end LogicalType

end StreamPipeline
