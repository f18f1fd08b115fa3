import StreamPipeline.Proofs.Postgres.Statements
import StreamPipeline.Proofs.Statement.OptionClauses

/-! # Qualified names of the destination

The statement that creates the table of a relational sink and the runtime table that writes into it
call it by the same text. Read by the rules of the server, that text has the folded names of the
schema and of the table and no other part, whatever dots and quotes the names contain.
-/

namespace StreamPipeline

open Text

namespace Text

theorem lowerChar_ne_nil (c : Char) : lowerChar c ≠ [] := by
  unfold lowerChar
  split
  · simp
  · split <;> simp

theorem toLower_ne_empty {s : String} (h : s ≠ "") : toLower s ≠ "" := by
  obtain ⟨c, cs, hs⟩ := List.exists_cons_of_ne_nil (mt String.toList_eq_nil_iff.mp h)
  refine mt String.toList_eq_nil_iff.mpr ?_
  rw [toLower, String.toList_ofList, hs, lowerFrom]
  split
  · simp
  · simp [lowerChar_ne_nil]

end Text

namespace Postgres

/-! ### The reader -/

/-- The part at the front of a qualified name, and what follows it: a text in double quotes, in
which doubled ones stand for one, or a word as it is. A word begins with neither a digit nor a
dollar sign and is not reserved. -/
def part? : List Char → Option (String × List Char)
  | '"' :: cs => (Lexeme.untilQuote '"' cs).map fun (name, _, rest) => (String.ofList name, rest)
  | cs =>
    let word := cs.takeWhile isNameChar
    if (word.head?.all fun c => c.isDigit || c == '$') ||
        Sql.reservedWords.contains (String.ofList word) then none
    else some (String.ofList word, cs.dropWhile isNameChar)

theorem length_of_part? {cs rest : List Char} {name : String} (h : part? cs = some (name, rest)) :
    rest.length ≤ cs.length := by
  unfold part? at h
  split at h
  · obtain ⟨⟨content, read, behind⟩, hu, he⟩ := Option.map_eq_some_iff.mp h
    cases he
    have := Sql.length_of_untilQuote hu
    simp only [List.length_cons]
    omega
  · simp only [Option.ite_none_left_eq_some] at h
    obtain ⟨-, he⟩ := h
    cases he
    exact (List.dropWhile_sublist _).length_le

/-- The parts at the front of a text, with dots between them, and what follows them. -/
def parts? (cs : List Char) : Option (List String × List Char) :=
  match _h : part? cs with
  | none => none
  | some (name, '.' :: rest) => (parts? rest).map fun (names, behind) => (name :: names, behind)
  | some (name, rest) => some ([name], rest)
termination_by cs.length
decreasing_by
  have := length_of_part? _h
  simp only [List.length_cons] at this
  omega

/-- The parts of a qualified name. -/
def qualified? (name : String) : Option (List String) :=
  match parts? name.toList with
  | some (names, []) => some names
  | _ => none

/-- The qualified name of the table that a statement creates, as it is written. -/
def createdTable? (sql : String) : Option String := do
  let cs ← afterChars? "CREATE TABLE IF NOT EXISTS ".toList sql.toList
  let (_, rest) ← parts? cs
  return String.ofList (cs.take (cs.length - rest.length))

/-! ### What is read -/

theorem not_isDigit_of_isPlainStart {c : Char} (h : Sql.isPlainStart c = true) :
    c.isDigit = false ∧ c ≠ '$' := by
  simp only [Sql.isPlainStart, Bool.or_eq_true, beq_iff_eq] at h
  rcases h with h | rfl
  · unfold Char.isLower at h
    simp only [Bool.and_eq_true, decide_eq_true_eq] at h
    refine ⟨?_, by rintro rfl; exact absurd h (by decide)⟩
    cases hd : c.isDigit with
    | false => rfl
    | true =>
      simp only [Char.isDigit, Bool.and_eq_true, decide_eq_true_eq] at hd
      exact absurd (UInt32.le_trans h.1 hd.2) (by decide)
  · exact ⟨rfl, by decide⟩

theorem part?_word {c : Char} {cs rest : List Char} (hc : Sql.isPlainStart c = true)
    (hcs : ∀ d ∈ cs, Sql.isPlainChar d = true) (hword : String.ofList (c :: cs) ∉ Sql.reservedWords)
    (hr : EndsName rest) : part? (c :: cs ++ rest) = some (String.ofList (c :: cs), rest) := by
  have hfirst : Sql.isPlainChar c = true := by
    simp only [Sql.isPlainStart, Bool.or_eq_true] at hc
    simp only [Sql.isPlainChar, Bool.or_eq_true]
    exact hc.imp_left .inl
  have hall : ∀ d ∈ c :: cs, Sql.isPlainChar d = true := List.forall_mem_cons.mpr ⟨hfirst, hcs⟩
  have hname : ∀ d ∈ c :: cs, isNameChar d = true := fun d hd => (plain_isNameChar (hall d hd)).1
  have hend : ∀ d ∈ rest.head?, isNameChar d = false := fun d hd => (hr d hd).2
  obtain ⟨hdigit, hdollar⟩ := not_isDigit_of_isPlainStart hc
  unfold part?
  split
  next h => exact absurd (List.cons.inj h).1 (plain_isNameChar hfirst).2.2
  · have hfree : Sql.reservedWords.contains (String.ofList (c :: cs)) = false := by
      simpa only [List.contains_eq_mem, decide_eq_false_iff_not] using hword
    simp only [takeWhile_stop hname hend, dropWhile_stop hname hend, List.head?_cons,
      Option.all_some, hdigit, beq_false_of_ne hdollar, hfree, Bool.or_false, Bool.false_eq_true,
      if_false]

/-- A name that is written with quotes where they are needed is read as it is. -/
theorem part?_quoteName {name : String} (hne : name ≠ "") {rest : List Char} (hr : EndsName rest) :
    part? ((Sql.quoteName name).toList ++ rest) = some (name, rest) := by
  unfold Sql.quoteName
  split
  next h =>
    obtain ⟨c, cs, hname⟩ := List.exists_cons_of_ne_nil (mt String.toList_eq_nil_iff.mp hne)
    have hlist : name = String.ofList (c :: cs) := by rw [← hname, String.ofList_toList]
    unfold Sql.isPlainName at h
    rw [hname] at h
    simp only [Bool.and_eq_true, List.all_eq_true, Bool.not_eq_true', List.contains_eq_mem,
      decide_eq_false_iff_not] at h
    obtain ⟨⟨hstart, hmore⟩, hword⟩ := h
    rw [hlist] at hword ⊢
    rw [String.toList_ofList]
    exact part?_word hstart hmore hword hr
  next =>
    have hquote : ∀ c ∈ rest.head?, (c == '"') = false := fun c hm => beq_false_of_ne (hr c hm).1
    rw [String.toList_ofList, Sql.enclose, List.cons_append, List.append_assoc, part?,
      List.singleton_append, Lexeme.untilQuote_doubling name.toList hquote, Option.map_some]
    simp only [String.ofList_toList]

theorem parts?_last {cs rest : List Char} {name : String} (h : part? cs = some (name, rest))
    (hr : '.' ∉ rest.head?) : parts? cs = some ([name], rest) := by
  rw [parts?]
  split
  next hn => rw [h] at hn; cases hn
  next hs =>
    rw [h] at hs
    cases hs
    exact absurd rfl hr
  next hs =>
    rw [h] at hs
    cases hs
    rfl

theorem parts?_more {cs rest : List Char} {name : String}
    (h : part? cs = some (name, '.' :: rest)) :
    parts? cs = (parts? rest).map fun (names, behind) => (name :: names, behind) := by
  rw [parts?]
  split
  next hn => rw [h] at hn; cases hn
  next hs => rw [h] at hs; cases hs; rfl
  next hno hs => rw [h] at hs; cases hs; exact absurd rfl (hno _)

/-- The name of a table as both statements write it. -/
def tableName (schema table : String) : String :=
  Sql.destinationName schema ++ "." ++ Sql.destinationName table

section Names

variable {schema table : String}

theorem part?_destinationName {name : String} (hne : name ≠ "") {rest : List Char}
    (hr : EndsName rest) :
    part? ((Sql.destinationName name).toList ++ rest) = some (toLower name, rest) :=
  part?_quoteName (toLower_ne_empty hne) hr

theorem parts?_tableName (hs : schema ≠ "") (ht : table ≠ "") {rest : List Char}
    (hr : EndsName rest) (hdot : '.' ∉ rest.head?) :
    parts? ((tableName schema table).toList ++ rest) =
      some ([toLower schema, toLower table], rest) := by
  have hfirst : EndsName ('.' :: ((Sql.destinationName table).toList ++ rest)) := by
    rintro c ⟨⟩
    exact ⟨by decide, rfl⟩
  have htext : (tableName schema table).toList ++ rest =
      (Sql.destinationName schema).toList ++
        '.' :: ((Sql.destinationName table).toList ++ rest) := by
    simp [tableName]
  have hlast : parts? ((Sql.destinationName table).toList ++ rest) =
      some ([toLower table], rest) :=
    parts?_last (part?_destinationName ht hr) hdot
  rw [htext, parts?_more (part?_destinationName hs hfirst), hlast]
  rfl

theorem qualified?_tableName (hs : schema ≠ "") (ht : table ≠ "") :
    qualified? (tableName schema table) = some [toLower schema, toLower table] := by
  have h := parts?_tableName hs ht endsName_nil (by simp)
  rw [List.append_nil] at h
  rw [qualified?, h]

theorem createdTable?_tableStatement (pg : PostgresSink) (hs : pg.schema ≠ "") (ht : pg.table ≠ "")
    (defs : List String) :
    createdTable? (pg.tableStatement defs) = some (tableName pg.schema pg.table) := by
  obtain ⟨rest, hstatement⟩ := toList_tableStatement pg defs
  have htext : (pg.tableStatement defs).toList = "CREATE TABLE IF NOT EXISTS ".toList ++
      ((tableName pg.schema pg.table).toList ++ ' ' :: '(' :: rest) := by
    rw [hstatement]
    simp [tableName, Sql.destinationName]
  have hends : EndsName (' ' :: '(' :: rest) := by
    rintro c ⟨⟩
    exact ⟨by decide, rfl⟩
  rw [createdTable?, htext, afterChars?_eq_some_iff.mpr rfl]
  simp only [Option.bind_eq_bind, Option.bind_some, Option.pure_def,
    parts?_tableName hs ht hends (by simp), List.length_append, Nat.add_sub_cancel,
    List.take_left, String.ofList_toList]

end Names

end Postgres

open Postgres

/-- The statement that creates the table of a relational sink and the options of its runtime table
call it by the same text, which the server reads as the schema and the table in lower case. Two
sinks write the same text only if their names agree but for the case. -/
theorem table_names_fold (pg : PostgresSink) (hs : pg.schema ≠ "") (ht : pg.table ≠ "")
    (columns : List String) :
    (∀ settings sink view described defs, Column.runtimeDefs view described = .ok defs →
      ∃ name,
        createdTable? (pg.tableStatement columns) = some name ∧
        (Sql.withOptions? (sinkTableStatement settings sink (.postgres pg) defs)).bind
          (·.lookup "table-name") = some name ∧
        qualified? name = some [toLower pg.schema, toLower pg.table]) ∧
      ∀ (other : PostgresSink) columns', other.schema ≠ "" → other.table ≠ "" →
        (createdTable? (pg.tableStatement columns) = createdTable? (other.tableStatement columns') ↔
          toLower pg.schema = toLower other.schema ∧ toLower pg.table = toLower other.table) := by
  refine ⟨fun settings sink view described defs h => ⟨tableName pg.schema pg.table,
    createdTable?_tableStatement pg hs ht columns, ?_, qualified?_tableName hs ht⟩,
    fun other columns' hs' ht' => ?_⟩
  · rw [withOptions?_sinkTable settings sink (.postgres pg) h]
    rfl
  · rw [createdTable?_tableStatement pg hs ht, createdTable?_tableStatement other hs' ht',
      Option.some_inj]
    constructor
    · intro hname
      have hread := congrArg qualified? hname
      rw [qualified?_tableName hs ht, qualified?_tableName hs' ht'] at hread
      simpa using hread
    · rintro ⟨hschema, htable⟩
      simp only [tableName, Sql.destinationName, hschema, htable]

/-- A destination whose schema is a keyword in capitals and whose table looks like a qualified
name. -/
def keywordDestination : PostgresSink where
  host := "db"
  port := 5432
  credentials := ⟨"writer", ""⟩
  database := "shop"
  schema := "User"
  table := "Big\".\"ΟΔΟΣ"
  primaryKey := ["id"]

theorem table_names_fold_keywordDestination :
    keywordDestination.schema ≠ "" ∧ keywordDestination.table ≠ "" ∧
      Column.runtimeDefs "orders" [clauseColumn] =
        .ok ["`note`` INT) WITH ('connector' = 'print'` INT"] ∧
      (∃ name,
        createdTable? (keywordDestination.tableStatement ["id BIGINT"]) = some name ∧
        (Sql.withOptions? (sinkTableStatement {} "copy" (.postgres keywordDestination)
          ["`note`` INT) WITH ('connector' = 'print'` INT"])).bind (·.lookup "table-name") =
            some name ∧
        qualified? name = some ["user", "big\".\"οδος"]) ∧
      createdTable? (keywordDestination.tableStatement ["id BIGINT"]) =
        createdTable? ({ keywordDestination with schema := "uSER" }.tableStatement []) := by
  have hschema : keywordDestination.schema ≠ "" := by decide
  have htable : keywordDestination.table ≠ "" := by decide
  have hdefs : Column.runtimeDefs "orders" [clauseColumn] =
      .ok ["`note`` INT) WITH ('connector' = 'print'` INT"] := rfl
  have hfolded : toLower "User" = "user" := by decide +kernel
  have hother : toLower "uSER" = "user" := by decide +kernel
  have hlower : toLower "Big\".\"ΟΔΟΣ" = "big\".\"οδος" := by decide +kernel
  obtain ⟨hread, hfold⟩ := table_names_fold keywordDestination hschema htable ["id BIGINT"]
  obtain ⟨name, hcreated, hoption, hname⟩ := hread {} "copy" _ _ _ hdefs
  have hparts : [toLower keywordDestination.schema, toLower keywordDestination.table] =
      ["user", "big\".\"οδος"] := congrArg₂ (fun schema table => [schema, table]) hfolded hlower
  exact ⟨hschema, htable, hdefs, ⟨name, hcreated, hoption, hname.trans (congrArg some hparts)⟩,
    (hfold _ [] (by decide) (by decide)).mpr ⟨hfolded.trans hother.symm, hlower.trans hlower.symm⟩⟩

end StreamPipeline
