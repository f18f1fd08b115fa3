import StreamPipeline.Proofs.Schema.ByteTokens
import StreamPipeline.Schema.TypeParser

/-! # Reading types by positions

The reader of types as one that goes through an array of tokens with a position. It indexes the
array, also just before the position, and slices the text by the offsets of tokens that it has
passed. What it repeats has a number of rounds, without which there is no result; one more than
there are tokens will do.
-/

namespace StreamPipeline

open Text

namespace TypeText

open Guarded

/-- A reading that moves a position. -/
abbrev Positional := StateT Nat Guarded

section Reader

variable (raw : String) (ts : List Token)

def peek : Positional (Option TypeToken) := do
  let pos ← get
  return ts[pos]?.map Token.token

def bump : Positional (Option Token) := do
  let pos ← get
  match ts[pos]? with
  | none => return none
  | some t =>
    set (pos + 1)
    return some t

/-- The token before the position, which must be there. -/
def previous : Positional Token := do
  match ← get with
  | 0 => given none
  | pos + 1 => given ts[pos]?

/-- Passes the token if it comes next, and tells whether it did. -/
def skip (t : TypeToken) : Positional Bool := do
  if (← peek ts) = some t then
    let _ ← bump ts
    return true
  else return false

def expect (t : TypeToken) : Positional Unit := do
  match ← bump ts with
  | none => throw (.expected t none)
  | some found => if found.token = t then return () else throw (.expected t (some found.token))

def expectWords : List String → Positional Unit
  | [] => return ()
  | w :: words => do
    expect ts (.word w)
    expectWords words

def number : Positional UInt32 := do
  match ← bump ts with
  | some ⟨.number n, _, _⟩ => return n
  | _ => throw .expectedNumber

def small (n : UInt32) : Positional UInt8 := result (TypeParser.small n)

def optLength : Positional (Option UInt32) := do
  if ← skip ts .lparen then
    let n ← number ts
    expect ts .rparen
    return some n
  else return none

def optPrecision : Positional (Option UInt8) := do
  match ← optLength ts with
  | none => return none
  | some n => return some (← small n)

def nullability : Positional Bool := do
  if ← skip ts (.word "NOT") then
    expectWords ts ["NULL"]
    return false
  else
    let _ ← skip ts (.word "NULL")
    return true

def scale : Positional UInt32 := do
  if ← skip ts .comma then number ts else return 0

def decimalSize : Positional (UInt32 × UInt32) := do
  if ← skip ts .lparen then
    let p ← number ts
    let s ← scale ts
    expect ts .rparen
    return (p, s)
  else return (10, 0)

def withoutTimeZone : Positional Bool := do
  if ← skip ts (.word "WITHOUT") then
    expectWords ts ["TIME", "ZONE"]
    return true
  else return false

/-- What follows `TIMESTAMP`, a word that starts at the offset. -/
def timestamp (start : Nat) : Positional LogicalType := do
  let precision ← optPrecision ts
  if ← withoutTimeZone ts then return .timestamp precision
  else if ← skip ts (.word "WITH") then
    if ← skip ts (.word "LOCAL") then
      expectWords ts ["TIME", "ZONE"]
      return .timestampLtz precision
    else
      expectWords ts ["TIME", "ZONE"]
      let last ← previous ts
      let text ← slice raw start last.stop
      return .unsupported text
  else return .timestamp precision

/-- The types that are one word and what may follow it. -/
def simple (word : String) (start : Nat) : Option (Positional LogicalType) :=
  match word with
  | "TINYINT" => some (return .tinyInt)
  | "SMALLINT" => some (return .smallInt)
  | "INT" | "INTEGER" => some (return .int)
  | "BIGINT" => some (return .bigInt)
  | "DECIMAL" | "DEC" | "NUMERIC" => some do
    let (p, s) ← decimalSize ts
    return .decimal (← small p) (← small s)
  | "FLOAT" | "REAL" => some (return .float)
  | "DOUBLE" => some do
    let _ ← skip ts (.word "PRECISION")
    return .double
  | "BOOLEAN" => some (return .boolean)
  | "DATE" => some (return .date)
  | "TIME" => some do
    let precision ← optPrecision ts
    let _ ← withoutTimeZone ts
    return .time precision
  | "TIMESTAMP" => some (timestamp raw ts start)
  | "TIMESTAMP_LTZ" => some do
    let precision ← optPrecision ts
    return .timestampLtz precision
  | "CHAR" => some do
    let n ← optLength ts
    return .char (n.getD 1)
  | "VARCHAR" => some do
    let n ← optLength ts
    return .varchar (TypeParser.boundedLength (n.getD 1))
  | "STRING" => some (return .varchar none)
  | "BINARY" => some do
    let n ← optLength ts
    return .binary (n.getD 1)
  | "VARBINARY" => some do
    let n ← optLength ts
    return .varbinary (TypeParser.boundedLength (n.getD 1))
  | "BYTES" => some (return .varbinary none)
  | _ => none

/-- Where an unknown type stops, inside `depth` open brackets. -/
def unsupportedEnd : Nat → Nat → Nat → Positional Nat
  | 0, _, _ => given none
  | rounds + 1, depth, stop => do
    match ← peek ts with
    | none => return stop
    | some t =>
      if TypeParser.endsUnknown depth t then return stop
      else
        let pos ← get
        let next ← given ts[pos]?
        set (pos + 1)
        unsupportedEnd rounds (TypeParser.depthAfter depth t) next.stop

def unsupported (start : Nat) : Positional LogicalType := do
  let last ← previous ts
  let stop ← unsupportedEnd ts (ts.length + 1) 0 last.stop
  let text ← slice raw start stop
  return .unsupported text

def fieldName : Positional String := do
  match ← bump ts with
  | some ⟨.ident name, _, _⟩ => return name
  | some ⟨.word _, _, _⟩ =>
    let t ← previous ts
    slice raw t.start t.stop
  | _ => throw .expectedFieldName

/-- A row up to its closing bracket, with a way to read its fields; it may be empty. -/
def row (fields : TypeToken → Positional (List (String × LogicalType))) (close : TypeToken) :
    Positional LogicalType := do
  if ← skip ts close then return .row []
  else
    let fields ← fields close
    return .row fields

mutual

def type : Nat → Positional LogicalType
  | 0 => given none
  | rounds + 1 => do
    match ← bump ts with
    | none => throw (.expectedTypeName none)
    | some ⟨.word word, start, _⟩ =>
      match simple raw ts word start with
      | some reading => reading
      | none =>
        if word = "ARRAY" then
          expect ts .lt
          let element ← type rounds
          let _ ← nullability ts
          expect ts .gt
          return .array element
        else if word = "ROW" then
          match (← bump ts).map Token.token with
          | some .lt => row ts (fields rounds) .gt
          | some .lparen => row ts (fields rounds) .rparen
          | _ => throw .expectedRowBracket
        else unsupported raw ts start
    | some t => throw (.expectedTypeName (some t.token))

def fields : Nat → TypeToken → Positional (List (String × LogicalType))
  | 0, _ => given none
  | rounds + 1, close => do
    let name ← fieldName raw ts
    let t ← type rounds
    let _ ← nullability ts
    let _ ← skip ts .literal
    match (← bump ts).map Token.token with
    | none => throw .unterminatedRow
    | some u =>
      if u = .comma then
        let rest ← fields rounds close
        return (name, t) :: rest
      else if u = close then return [(name, t)]
      else throw .unterminatedRow

end

def attributes : Nat → Option TimeAttribute → Positional (Option TimeAttribute)
  | 0, _ => given none
  | rounds + 1, seen => do
    match ← peek ts with
    | some (.marker m) =>
      let _ ← bump ts
      let a ← (result (TypeParser.attributeOf m) : Guarded TimeAttribute)
      attributes rounds (some a)
    | _ => return seen

def columnType : Positional ColumnType := do
  let dataType ← type raw ts (ts.length + 1)
  let nullable ← nullability ts
  let timeAttribute ← attributes ts (ts.length + 1) none
  match ← peek ts with
  | none => return { dataType, nullable, timeAttribute }
  | some t => throw (.trailing t)

end Reader

/-- Reads a type text by its bytes, and its tokens by their positions. -/
def parse (raw : String) : Guarded ColumnType := do
  let ts ← tokens raw
  let (t, _) ← columnType raw ts 0
  return t

end TypeText

end StreamPipeline
