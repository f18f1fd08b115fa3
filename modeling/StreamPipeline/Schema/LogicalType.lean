import StreamPipeline.Text.Basic

/-! # Logical column types

The types that the streaming runtime reports for a column, and how they are spelled. A type outside
the supported domain is kept as the runtime wrote it.
-/

namespace StreamPipeline

inductive LogicalType where
  | tinyInt
  | smallInt
  | int
  | bigInt
  | decimal (precision scale : UInt8)
  | float
  | double
  | boolean
  | date
  | time (precision : Option UInt8)
  | timestamp (precision : Option UInt8)
  | timestampLtz (precision : Option UInt8)
  | char (length : UInt32)
  | varchar (length : Option UInt32)
  | binary (length : UInt32)
  | varbinary (length : Option UInt32)
  | array (element : LogicalType)
  | row (fields : List (String × LogicalType))
  | unsupported (raw : String)
deriving BEq, Inhabited

/-- A marker for a column that carries a notion of time. -/
inductive TimeAttribute where
  | procTime
  | rowTime
deriving Repr, DecidableEq

namespace LogicalType

/-- Types that leave the runtime as JSON text. -/
def isStructured : LogicalType → Bool
  | array _ | row _ => true
  | _ => false

mutual

/-- The leftmost unsupported type, at any depth. -/
def findUnsupported : LogicalType → Option String
  | unsupported raw => some raw
  | array element => findUnsupported element
  | row fields => findUnsupportedField fields
  | _ => none

def findUnsupportedField : List (String × LogicalType) → Option String
  | [] => none
  | (_, t) :: rest => (findUnsupported t).or (findUnsupportedField rest)

end

def withPrecision (name : String) : Option UInt8 → String
  | some p => name ++ "(" ++ toString p.toNat ++ ")"
  | none => name

/-- A name in back quotes, with each back quote inside it doubled. -/
def backquoted (name : String) : String :=
  String.ofList ('\x60' :: (Text.doubling '\x60' name.toList ++ ['\x60']))

mutual

/-- The spelling of the runtime. -/
def render : LogicalType → String
  | tinyInt => "TINYINT"
  | smallInt => "SMALLINT"
  | int => "INT"
  | bigInt => "BIGINT"
  | decimal p s => "DECIMAL(" ++ toString p.toNat ++ ", " ++ toString s.toNat ++ ")"
  | float => "FLOAT"
  | double => "DOUBLE"
  | boolean => "BOOLEAN"
  | date => "DATE"
  | time p => withPrecision "TIME" p
  | timestamp p => withPrecision "TIMESTAMP" p
  | timestampLtz p => withPrecision "TIMESTAMP_LTZ" p
  | char n => "CHAR(" ++ toString n.toNat ++ ")"
  | varchar (some n) => "VARCHAR(" ++ toString n.toNat ++ ")"
  | varchar none => "STRING"
  | binary n => "BINARY(" ++ toString n.toNat ++ ")"
  | varbinary (some n) => "VARBINARY(" ++ toString n.toNat ++ ")"
  | varbinary none => "BYTES"
  | array element => "ARRAY<" ++ render element ++ ">"
  | row fields => "ROW<" ++ renderFields fields ++ ">"
  | unsupported raw => raw

def renderFields : List (String × LogicalType) → String
  | [] => ""
  | [(name, t)] => backquoted name ++ " " ++ render t
  | (name, t) :: field :: rest =>
    backquoted name ++ " " ++ render t ++ ", " ++ renderFields (field :: rest)

end

end LogicalType

end StreamPipeline
