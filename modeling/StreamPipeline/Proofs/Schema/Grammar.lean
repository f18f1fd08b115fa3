import StreamPipeline.Proofs.Schema.Verbatim

/-! # The grammar of type texts

The lexemes of the supported types, with all names of a type and all parts that may be left out. The
grammar says nothing of how a text is read.
-/

namespace StreamPipeline

open Lexeme

namespace TypeGrammar

/-- The words that are a type by themselves. -/
def names : List (String × LogicalType) :=
  [("TINYINT", .tinyInt), ("SMALLINT", .smallInt), ("INT", .int), ("INTEGER", .int),
    ("BIGINT", .bigInt), ("FLOAT", .float), ("REAL", .float), ("DOUBLE", .double),
    ("BOOLEAN", .boolean), ("DATE", .date), ("STRING", .varchar none), ("BYTES", .varbinary none)]

/-- A number of at most 255 in parentheses, or nothing. -/
inductive Precision : Option UInt8 → List TypeToken → Prop where
  | unsaid : Precision none []
  | said (p : UInt8) : Precision (some p) [.lparen, .number p.toUInt32, .rparen]

/-- A number in parentheses; nothing stands for one. -/
inductive Length : UInt32 → List TypeToken → Prop where
  | unsaid : Length 1 []
  | said (n : UInt32) : Length n [.lparen, .number n, .rparen]

/-- Precision and scale, each at most 255. The scale may be left out, or both. -/
inductive Size : UInt8 → UInt8 → List TypeToken → Prop where
  | unsaid : Size 10 0 []
  | precision (p : UInt8) : Size p 0 [.lparen, .number p.toUInt32, .rparen]
  | both (p s : UInt8) :
      Size p s [.lparen, .number p.toUInt32, .comma, .number s.toUInt32, .rparen]

/-- Whether it is said that there is no time zone. -/
inductive Zone : Bool → List TypeToken → Prop where
  | unsaid : Zone false []
  | without : Zone true [.word "WITHOUT", .word "TIME", .word "ZONE"]

/-- The tokens of a type without parts. -/
inductive Atom : LogicalType → List TypeToken → Prop where
  | name {w : String} {t : LogicalType} : (w, t) ∈ names → Atom t [.word w]
  | doublePrecision : Atom .double [.word "DOUBLE", .word "PRECISION"]
  | decimal {w : String} {p s : UInt8} {ks : List TypeToken} :
      w ∈ ["DECIMAL", "DEC", "NUMERIC"] → Size p s ks → Atom (.decimal p s) (.word w :: ks)
  | time {p : Option UInt8} {b : Bool} {ks zs : List TypeToken} :
      Precision p ks → Zone b zs → Atom (.time p) (.word "TIME" :: (ks ++ zs))
  | timestamp {p : Option UInt8} {b : Bool} {ks zs : List TypeToken} :
      Precision p ks → Zone b zs → Atom (.timestamp p) (.word "TIMESTAMP" :: (ks ++ zs))
  | timestampLocal {p : Option UInt8} {ks : List TypeToken} : Precision p ks →
      Atom (.timestampLtz p) (.word "TIMESTAMP" ::
        (ks ++ [.word "WITH", .word "LOCAL", .word "TIME", .word "ZONE"]))
  | timestampLtz {p : Option UInt8} {ks : List TypeToken} : Precision p ks →
      Atom (.timestampLtz p) (.word "TIMESTAMP_LTZ" :: ks)
  | char {n : UInt32} {ks : List TypeToken} : Length n ks → Atom (.char n) (.word "CHAR" :: ks)
  | varchar {n : UInt32} {ks : List TypeToken} : Length n ks → n ≠ 2147483647 →
      Atom (.varchar (some n)) (.word "VARCHAR" :: ks)
  | unboundedVarchar {ks : List TypeToken} : Length 2147483647 ks →
      Atom (.varchar none) (.word "VARCHAR" :: ks)
  | binary {n : UInt32} {ks : List TypeToken} : Length n ks →
      Atom (.binary n) (.word "BINARY" :: ks)
  | varbinary {n : UInt32} {ks : List TypeToken} : Length n ks → n ≠ 2147483647 →
      Atom (.varbinary (some n)) (.word "VARBINARY" :: ks)
  | unboundedVarbinary {ks : List TypeToken} : Length 2147483647 ks →
      Atom (.varbinary none) (.word "VARBINARY" :: ks)

/-- What is said about null, and whether null is allowed then. -/
inductive Nullness : Bool → List TypeToken → Prop where
  | unsaid : Nullness true []
  | null : Nullness true [.word "NULL"]
  | notNull : Nullness false [.word "NOT", .word "NULL"]

/-- The comment behind a field. -/
inductive Comment : List TypeToken → Prop where
  | unsaid : Comment []
  | literal : Comment [.literal]

/-- The name of a field: what stands between the back quotes, or the word as it is written. -/
inductive IsName : String → Lexeme → Prop where
  | quoted {n : String} {l : Lexeme} : l.token = .ident n → IsName n l
  | word {w : String} {l : Lexeme} : l.token = .word w → IsName (String.ofList l.text) l

/-- The brackets around the fields of a row. -/
inductive Brackets : TypeToken → TypeToken → Prop where
  | angle : Brackets .lt .gt
  | round : Brackets .lparen .rparen

/-- The phrases of a type text. -/
inductive Phrase where
  | type (t : LogicalType)
  | fields (fs : List (String × LogicalType))

/-- The lexemes of a phrase. -/
inductive Derives : Phrase → List Lexeme → Prop where
  | scalar {t : LogicalType} {ls : List Lexeme} :
      Atom t (ls.map Lexeme.token) → Derives (.type t) ls
  | array {e : LogicalType} {a o c : Lexeme} {es ns : List Lexeme} {b : Bool} :
      a.token = .word "ARRAY" → o.token = .lt → Derives (.type e) es →
      Nullness b (ns.map Lexeme.token) → c.token = .gt →
      Derives (.type (.array e)) (a :: o :: (es ++ (ns ++ [c])))
  | emptyRow {r o c : Lexeme} : r.token = .word "ROW" → Brackets o.token c.token →
      Derives (.type (.row [])) [r, o, c]
  | row {fs : List (String × LogicalType)} {r o c : Lexeme} {ls : List Lexeme} :
      r.token = .word "ROW" → Brackets o.token c.token → Derives (.fields fs) ls →
      Derives (.type (.row fs)) (r :: o :: (ls ++ [c]))
  | lastField {name : String} {t : LogicalType} {n : Lexeme} {ls ns ks : List Lexeme} {b : Bool} :
      IsName name n → Derives (.type t) ls → Nullness b (ns.map Lexeme.token) →
      Comment (ks.map Lexeme.token) → Derives (.fields [(name, t)]) (n :: (ls ++ (ns ++ ks)))
  | field {name : String} {t : LogicalType} {fs : List (String × LogicalType)} {n c : Lexeme}
      {ls ns ks ms : List Lexeme} {b : Bool} :
      IsName name n → Derives (.type t) ls → Nullness b (ns.map Lexeme.token) →
      Comment (ks.map Lexeme.token) → c.token = .comma → Derives (.fields fs) ms →
      Derives (.fields ((name, t) :: fs)) (n :: (ls ++ (ns ++ (ks ++ c :: ms))))

/-- A type, what is said about null, and markers of time of which the last one counts. -/
inductive DerivesColumn : ColumnType → List Lexeme → Prop where
  | column {t : LogicalType} {b : Bool} {as : List TimeAttribute} {ls ns ms : List Lexeme} :
      Derives (.type t) ls → Nullness b (ns.map Lexeme.token) →
      ms.map Lexeme.token = as.map (fun a => .marker a.marker) →
      DerivesColumn ⟨t, b, as.getLast?⟩ (ls ++ (ns ++ ms))

end TypeGrammar

end StreamPipeline
