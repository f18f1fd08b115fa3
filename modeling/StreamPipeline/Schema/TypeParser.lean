import StreamPipeline.Schema.LogicalType
import StreamPipeline.Schema.TypeToken

/-! # Parsing type texts

The reading of a type text: a type, whether the column may be null, and its time attribute. What is
well bracketed but not supported is kept as written.
-/

namespace StreamPipeline

/-- What a type text says about a column. -/
structure ColumnType where
  dataType : LogicalType
  nullable : Bool
  timeAttribute : Option TimeAttribute
deriving BEq

/-- A type text that cannot be read, and why. -/
structure MalformedType where
  raw : String
  reason : TypeError
deriving Repr, DecidableEq

def MalformedType.message (m : MalformedType) : String :=
  "malformed type '" ++ m.raw ++ "': " ++ m.reason.message

namespace TypeParser

/-- A step takes lexemes from the front and leaves the rest. -/
abbrev Step (α : Type) := List Lexeme → Except TypeError (α × List Lexeme)

def peek (ts : List Lexeme) : Option TypeToken := ts.head?.map Lexeme.token

def expect (t : TypeToken) : Step Unit
  | [] => .error (.expected t none)
  | l :: rest => if l.token = t then .ok ((), rest) else .error (.expected t (some l.token))

def expectWords : List String → Step Unit
  | [], ts => .ok ((), ts)
  | w :: words, ts => do
    let (_, ts) ← expect (.word w) ts
    expectWords words ts

def number : Step UInt32
  | ⟨_, _, .number n⟩ :: rest => .ok (n, rest)
  | _ => .error .expectedNumber

def small (n : UInt32) : Except TypeError UInt8 :=
  if n.toNat < 256 then .ok n.toUInt8 else .error (.precisionOutOfRange n)

/-- A number in parentheses, if an opening parenthesis follows. -/
def optLength (ts : List Lexeme) : Except TypeError (Option UInt32 × List Lexeme) :=
  match ts with
  | ⟨_, _, .lparen⟩ :: rest => do
    let (n, rest) ← number rest
    let (_, rest) ← expect .rparen rest
    .ok (some n, rest)
  | ts => .ok (none, ts)

def optPrecision (ts : List Lexeme) : Except TypeError (Option UInt8 × List Lexeme) := do
  match ← optLength ts with
  | (none, ts) => .ok (none, ts)
  | (some n, ts) => .ok (some (← small n), ts)

/-- An optional `NOT NULL` or `NULL`. -/
def nullability : Step Bool
  | [] => .ok (true, [])
  | l :: rest =>
    if l.token = .word "NOT" then do
      let (_, rest) ← expect (.word "NULL") rest
      .ok (false, rest)
    else if l.token = .word "NULL" then .ok (true, rest)
    else .ok (true, l :: rest)

/-- Drops the word if it comes next, and tells whether it did. -/
def takeWord (w : String) : List Lexeme → Bool × List Lexeme
  | [] => (false, [])
  | l :: rest => if l.token = .word w then (true, rest) else (false, l :: rest)

/-- Precision and scale: ten and zero by default. -/
def decimalSize (ts : List Lexeme) : Except TypeError ((UInt32 × UInt32) × List Lexeme) :=
  match ts with
  | ⟨_, _, .lparen⟩ :: rest => do
    let (p, rest) ← number rest
    let (s, rest) ← match rest with
      | ⟨_, _, .comma⟩ :: rest => number rest
      | rest => .ok (0, rest)
    let (_, rest) ← expect .rparen rest
    .ok ((p, s), rest)
  | ts => .ok ((10, 0), ts)

def withoutTimeZone (ts : List Lexeme) : Except TypeError (Bool × List Lexeme) :=
  match takeWord "WITHOUT" ts with
  | (true, ts) => do
    let (_, ts) ← expectWords ["TIME", "ZONE"] ts
    .ok (true, ts)
  | (false, ts) => .ok (false, ts)

/-- The lexemes of `whole` that come before its end `rest`. -/
def consumed (whole rest : List Lexeme) : List Lexeme := whole.take (whole.length - rest.length)

/-- What follows `TIMESTAMP`; `whole` starts at that word. -/
def timestamp (whole ts : List Lexeme) : Except TypeError (LogicalType × List Lexeme) := do
  let (precision, ts) ← optPrecision ts
  let (without, ts) ← withoutTimeZone ts
  if without then .ok (.timestamp precision, ts)
  else
    match takeWord "WITH" ts with
    | (false, ts) => .ok (.timestamp precision, ts)
    | (true, ts) =>
      match takeWord "LOCAL" ts with
      | (true, ts) =>
        let (_, ts) ← expectWords ["TIME", "ZONE"] ts
        .ok (.timestampLtz precision, ts)
      | (false, ts) =>
        let (_, ts) ← expectWords ["TIME", "ZONE"] ts
        .ok (.unsupported (String.ofList (Lexeme.spelled (consumed whole ts))), ts)

/-- The length that stands for an unbounded text. -/
def unbounded : UInt32 := 2147483647

def boundedLength (n : UInt32) : Option UInt32 := if n = unbounded then none else some n

/-- Whether an unknown type ends before this token, inside `depth` open brackets. -/
def endsUnknown (depth : Nat) (t : TypeToken) : Bool :=
  depth == 0 && (match t with
    | .gt | .rparen | .comma | .marker _ => true
    | .word w => w == "NOT" || w == "NULL"
    | _ => false)

def depthAfter (depth : Nat) : TypeToken → Nat
  | .lt | .lparen => depth + 1
  | .gt | .rparen => depth - 1
  | _ => depth

/-- The lexemes of an unknown type after its name, and the rest. -/
def unknownTail : Nat → List Lexeme → List Lexeme × List Lexeme
  | _, [] => ([], [])
  | depth, l :: rest =>
    if endsUnknown depth l.token then ([], l :: rest)
    else
      let (taken, left) := unknownTail (depthAfter depth l.token) rest
      (l :: taken, left)

/-- The types that are one word and what may follow it, by that word. -/
def simple (word : String) (whole ts : List Lexeme) :
    Option (Except TypeError (LogicalType × List Lexeme)) :=
  match word with
  | "TINYINT" => some (.ok (.tinyInt, ts))
  | "SMALLINT" => some (.ok (.smallInt, ts))
  | "INT" | "INTEGER" => some (.ok (.int, ts))
  | "BIGINT" => some (.ok (.bigInt, ts))
  | "DECIMAL" | "DEC" | "NUMERIC" => some do
    let ((p, s), ts) ← decimalSize ts
    .ok (.decimal (← small p) (← small s), ts)
  | "FLOAT" | "REAL" => some (.ok (.float, ts))
  | "DOUBLE" => some (.ok (.double, (takeWord "PRECISION" ts).2))
  | "BOOLEAN" => some (.ok (.boolean, ts))
  | "DATE" => some (.ok (.date, ts))
  | "TIME" => some do
    let (precision, ts) ← optPrecision ts
    let (_, ts) ← withoutTimeZone ts
    .ok (.time precision, ts)
  | "TIMESTAMP" => some (timestamp whole ts)
  | "TIMESTAMP_LTZ" => some do
    let (precision, ts) ← optPrecision ts
    .ok (.timestampLtz precision, ts)
  | "CHAR" => some do
    let (n, ts) ← optLength ts
    .ok (.char (n.getD 1), ts)
  | "VARCHAR" => some do
    let (n, ts) ← optLength ts
    .ok (.varchar (boundedLength (n.getD 1)), ts)
  | "STRING" => some (.ok (.varchar none, ts))
  | "BINARY" => some do
    let (n, ts) ← optLength ts
    .ok (.binary (n.getD 1), ts)
  | "VARBINARY" => some do
    let (n, ts) ← optLength ts
    .ok (.varbinary (boundedLength (n.getD 1)), ts)
  | "BYTES" => some (.ok (.varbinary none, ts))
  | _ => none

def fieldName : Step String
  | ⟨_, _, .ident name⟩ :: rest => .ok (name, rest)
  | ⟨_, text, .word _⟩ :: rest => .ok (String.ofList text, rest)
  | _ => .error .expectedFieldName

/-- Drops a comment literal if one comes next. -/
def dropLiteral : List Lexeme → List Lexeme
  | ⟨_, _, .literal⟩ :: rest => rest
  | ts => ts

mutual

/-- One type. Every call inside it has a shorter list, so fuel of that length lasts; where it is
used up there is no lexeme left. -/
def type : Nat → Step LogicalType
  | _, [] => .error (.expectedTypeName none)
  | 0, l :: _ => .error (.expectedTypeName (some l.token))
  | fuel + 1, l :: ts =>
    match l.token with
    | .word word =>
      match simple word (l :: ts) ts with
      | some result => result
      | none =>
        if word = "ARRAY" then do
          let (_, ts) ← expect .lt ts
          let (element, ts) ← type fuel ts
          let (_, ts) ← nullability ts
          let (_, ts) ← expect .gt ts
          .ok (.array element, ts)
        else if word = "ROW" then
          match peek ts with
          | some .lt => row fuel .gt (ts.drop 1)
          | some .lparen => row fuel .rparen (ts.drop 1)
          | _ => .error .expectedRowBracket
        else
          let (tail, rest) := unknownTail 0 ts
          .ok (.unsupported (String.ofList (Lexeme.spelled (l :: tail))), rest)
    | t => .error (.expectedTypeName (some t))

/-- The fields of a row up to its closing bracket; a row may be empty. -/
def row : Nat → TypeToken → Step LogicalType
  | fuel, close, ts =>
    if peek ts = some close then .ok (.row [], ts.drop 1)
    else do
      let (fields, ts) ← fields fuel close ts
      .ok (.row fields, ts)

def fields : Nat → TypeToken → Step (List (String × LogicalType))
  | 0, _, _ => .error .expectedFieldName
  | fuel + 1, close, ts => do
    let (name, ts) ← fieldName ts
    let (t, ts) ← type fuel ts
    let (_, ts) ← nullability ts
    match dropLiteral ts with
    | [] => .error .unterminatedRow
    | l :: ts =>
      if l.token = .comma then
        let (rest, ts) ← fields fuel close ts
        .ok ((name, t) :: rest, ts)
      else if l.token = close then .ok ([(name, t)], ts)
      else .error .unterminatedRow

end

def attributeOf (marker : String) : Except TypeError TimeAttribute :=
  if marker = "PROCTIME" then .ok .procTime
  else if marker = "ROWTIME" then .ok .rowTime
  else .error (.unknownMarker marker)

/-- The markers at the end; the last one counts. -/
def attributes (seen : Option TimeAttribute) : Step (Option TimeAttribute)
  | ⟨_, _, .marker m⟩ :: rest =>
    match attributeOf m with
    | .error e => .error e
    | .ok a => attributes (some a) rest
  | ts => .ok (seen, ts)

def columnType (ts : List Lexeme) : Except TypeError ColumnType := do
  let (dataType, ts) ← type ts.length ts
  let (nullable, ts) ← nullability ts
  let (timeAttribute, ts) ← attributes none ts
  match ts with
  | [] => .ok { dataType, nullable, timeAttribute }
  | l :: _ => .error (.trailing l.token)

end TypeParser

/-- Reads a type text of the runtime. -/
def ColumnType.parse (raw : String) : Except MalformedType ColumnType :=
  match Lexeme.ofText raw >>= TypeParser.columnType with
  | .error reason => .error ⟨raw, reason⟩
  | .ok t => .ok t

end StreamPipeline
