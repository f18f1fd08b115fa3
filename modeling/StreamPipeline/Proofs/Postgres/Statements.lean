import StreamPipeline.Proofs.Schema.TokenText
import StreamPipeline.Statement.SinkTable

/-! # Statements as the server reads them

The server takes a name in double quotes as it is written and folds any other name to lower case.
The three statements that provision a sink name the database, the schema and the table that they
are written for.
-/

namespace StreamPipeline

open Text

namespace Postgres

/-- What a statement can create. A schema is known by its database, and a table by both. -/
inductive Object where
  | database (name : String)
  | schema (database name : String)
  | table (database schema name : String)
deriving Repr, DecidableEq

/-! ### Names -/

/-- The characters of a name without quotes. -/
def isNameChar (c : Char) : Bool := c.isAlphanum || c == '_' || c == '$' || 0x80 ≤ c.toNat

/-- The name at the front, and what follows it. -/
def readName : List Char → Option (String × List Char)
  | '"' :: rest =>
    (Lexeme.untilQuote '"' rest).map fun (name, _, behind) => (String.ofList name, behind)
  | cs =>
    some (String.ofList ((cs.takeWhile isNameChar).map Char.toLower), cs.dropWhile isNameChar)

/-- What does not go on with a name, with quotes or without. -/
def EndsName (rest : List Char) : Prop := ∀ c ∈ rest.head?, c ≠ '"' ∧ isNameChar c = false

theorem endsName_nil : EndsName [] := by rintro _ ⟨⟩

/-- A character of a name that needs no quotes stands for itself. -/
theorem plain_isNameChar {c : Char} (h : Sql.isPlainChar c = true) :
    isNameChar c = true ∧ c.toLower = c ∧ c ≠ '"' := by
  simp only [Sql.isPlainChar, Bool.or_eq_true, beq_iff_eq] at h
  rcases h with (h | h) | rfl
  · refine ⟨?_, ?_, ?_⟩
    · unfold isNameChar Char.isAlphanum Char.isAlpha
      simp [h]
    · unfold Char.isLower at h
      simp only [Bool.and_eq_true, decide_eq_true_eq] at h
      unfold Char.toLower
      rw [dif_neg]
      rintro ⟨-, h'⟩
      exact absurd (UInt32.le_trans h.1 h') (by decide)
    · rintro rfl; cases h
  · refine ⟨by simp [isNameChar, Char.isAlphanum, h], ?_, ?_⟩
    · simp only [Char.isDigit, Bool.and_eq_true, decide_eq_true_eq] at h
      unfold Char.toLower
      rw [dif_neg]
      rintro ⟨h', -⟩
      exact absurd (UInt32.le_trans h' h.2) (by decide)
    · rintro rfl; cases h
  · decide

theorem readName_unquoted {cs : List Char} (h : ∀ c ∈ cs.head?, c ≠ '"') :
    readName cs = some (String.ofList ((cs.takeWhile isNameChar).map Char.toLower),
      cs.dropWhile isNameChar) := by
  unfold readName
  split
  · exact absurd rfl (h _ rfl)
  · rfl

theorem readName_plain {cs rest : List Char} (hc : ∀ c ∈ cs, Sql.isPlainChar c = true)
    (hr : EndsName rest) : readName (cs ++ rest) = some (String.ofList cs, rest) := by
  have hname : ∀ c ∈ cs, isNameChar c = true := fun c hm => (plain_isNameChar (hc c hm)).1
  have hlower : cs.map Char.toLower = cs :=
    (List.map_congr_left fun c hm => (plain_isNameChar (hc c hm)).2.1).trans cs.map_id
  have hend : ∀ c ∈ rest.head?, isNameChar c = false := fun c hm => (hr c hm).2
  rw [readName_unquoted, takeWhile_stop hname hend, dropWhile_stop hname hend, hlower]
  intro c hm
  cases cs with
  | nil => exact (hr c hm).1
  | cons d cs =>
    cases hm
    exact (plain_isNameChar (hc c List.mem_cons_self)).2.2

/-- A quoted name is read as the name that was quoted. -/
theorem readName_quoteName (name : String) {rest : List Char} (hr : EndsName rest) :
    readName ((Sql.quoteName name).toList ++ rest) = some (name, rest) := by
  unfold Sql.quoteName
  split
  next h =>
    rw [readName_plain ?_ hr, String.ofList_toList]
    unfold Sql.isPlainName at h
    split at h
    next he => rw [he]; rintro _ ⟨⟩
    next c cs he =>
      simp only [Bool.and_eq_true, List.all_eq_true] at h
      obtain ⟨⟨hstart, hmore⟩, -⟩ := h
      rw [he]
      refine List.forall_mem_cons.mpr ⟨?_, hmore⟩
      simp only [Sql.isPlainStart, Bool.or_eq_true] at hstart
      simp only [Sql.isPlainChar, Bool.or_eq_true]
      exact hstart.imp_left .inl
  next =>
    have hquote : ∀ c ∈ rest.head?, (c == '"') = false := fun c hm => beq_false_of_ne (hr c hm).1
    rw [String.toList_ofList, Sql.enclose, List.cons_append, List.append_assoc, readName,
      List.singleton_append, Lexeme.untilQuote_doubling name.toList hquote, Option.map_some]
    simp only [String.ofList_toList]

/-! ### Statements -/

def readDatabase (cs : List Char) : Option Object := do
  let cs ← afterChars? "CREATE DATABASE ".toList cs
  let (name, []) ← readName cs | none
  return .database name

def readSchema (database : String) (cs : List Char) : Option Object := do
  let cs ← afterChars? "CREATE SCHEMA IF NOT EXISTS ".toList cs
  let (name, []) ← readName cs | none
  return .schema database name

/-- The columns of a table are not looked at. -/
def readTable (database : String) (cs : List Char) : Option Object := do
  let cs ← afterChars? "CREATE TABLE IF NOT EXISTS ".toList cs
  let (schema, '.' :: cs) ← readName cs | none
  let (name, ' ' :: '(' :: _) ← readName cs | none
  return .table database schema name

/-- What the statement creates for somebody who is connected to the database. -/
def creates? (database sql : String) : Option Object :=
  readDatabase sql.toList <|> readSchema database sql.toList <|> readTable database sql.toList

section Read

variable {database name schema : String} {cs rest : List Char}

theorem readDatabase_name (h : readName cs = some (name, [])) :
    readDatabase ("CREATE DATABASE ".toList ++ cs) = some (.database name) := by
  rw [readDatabase, afterChars?_eq_some_iff.mpr rfl]
  simp [h]

theorem readDatabase_other (h : afterChars? "CREATE DATABASE ".toList cs = none) :
    readDatabase cs = none := by
  rw [readDatabase, h]
  rfl

theorem readDatabase_schema (cs : List Char) :
    readDatabase ("CREATE SCHEMA IF NOT EXISTS ".toList ++ cs) = none :=
  readDatabase_other (by simp [afterChars?])

theorem readDatabase_table (cs : List Char) :
    readDatabase ("CREATE TABLE IF NOT EXISTS ".toList ++ cs) = none :=
  readDatabase_other (by simp [afterChars?])

theorem readSchema_name (h : readName cs = some (name, [])) :
    readSchema database ("CREATE SCHEMA IF NOT EXISTS ".toList ++ cs) =
      some (.schema database name) := by
  rw [readSchema, afterChars?_eq_some_iff.mpr rfl]
  simp [h]

theorem readSchema_table (database : String) (cs : List Char) :
    readSchema database ("CREATE TABLE IF NOT EXISTS ".toList ++ cs) = none := by
  have h : afterChars? "CREATE SCHEMA IF NOT EXISTS ".toList
      ("CREATE TABLE IF NOT EXISTS ".toList ++ cs) = none := by simp [afterChars?]
  rw [readSchema, h]
  rfl

theorem readTable_names {more : List Char} (hs : readName cs = some (schema, '.' :: rest))
    (hn : readName rest = some (name, ' ' :: '(' :: more)) :
    readTable database ("CREATE TABLE IF NOT EXISTS ".toList ++ cs) =
      some (.table database schema name) := by
  rw [readTable, afterChars?_eq_some_iff.mpr rfl]
  simp [hs, hn]

end Read

theorem creates?_createDatabase (database name : String) :
    creates? database (Sql.createDatabase name) = some (.database name) := by
  have hname := readName_quoteName name endsName_nil
  rw [List.append_nil] at hname
  rw [creates?, Sql.createDatabase, String.toList_append, readDatabase_name hname]
  rfl

theorem creates?_createSchema (database schema : String) :
    creates? database (Sql.createSchema schema) = some (.schema database (toLower schema)) := by
  have hname := readName_quoteName (toLower schema) endsName_nil
  rw [List.append_nil] at hname
  have hother := readDatabase_schema (Sql.quoteName (toLower schema)).toList
  unfold creates? Sql.createSchema Sql.destinationName
  rw [String.toList_append, hother, readSchema_name hname]
  rfl

theorem toList_tableStatement (pg : PostgresSink) (defs : List String) :
    ∃ rest, (pg.tableStatement defs).toList =
      "CREATE TABLE IF NOT EXISTS ".toList ++ ((Sql.quoteName (toLower pg.schema)).toList ++
        '.' :: ((Sql.quoteName (toLower pg.table)).toList ++ ' ' :: '(' :: rest)) := by
  refine ⟨(join ", " defs ++ ", PRIMARY KEY (" ++
    join ", " (pg.primaryKey.map Sql.destinationName) ++ "))").toList, ?_⟩
  unfold PostgresSink.tableStatement Sql.destinationName
  simp

theorem creates?_tableStatement (pg : PostgresSink) (defs : List String) :
    creates? pg.database (pg.tableStatement defs) =
      some (.table pg.database (toLower pg.schema) (toLower pg.table)) := by
  obtain ⟨rest, hrest⟩ := toList_tableStatement pg defs
  have hstop : EndsName (' ' :: '(' :: rest) := by rintro _ ⟨⟩; decide
  have hdot : EndsName ('.' :: ((Sql.quoteName (toLower pg.table)).toList ++
      ' ' :: '(' :: rest)) := by rintro _ ⟨⟩; decide
  rw [creates?, hrest, readDatabase_table, readSchema_table,
    readTable_names (readName_quoteName _ hdot) (readName_quoteName _ hstop)]
  rfl

end Postgres

end StreamPipeline
