import StreamPipeline.Pipeline.Error
import StreamPipeline.Schema.Column
import StreamPipeline.Sql.Destination

/-! # Destination types

The column types of the relational destination and of the runtime's own sink tables. Both refuse a
type that contains an unsupported one, and name the leftmost.
-/

namespace StreamPipeline

namespace LogicalType

/-- The destination stores at most six digits of a second. -/
def destinationPrecision (name : String) : Option UInt8 → String
  | some p => name ++ "(" ++ toString (min p.toNat 6) ++ ") WITHOUT TIME ZONE"
  | none => name ++ " WITHOUT TIME ZONE"

def destinationName : LogicalType → String
  | tinyInt | smallInt => "SMALLINT"
  | int => "INTEGER"
  | bigInt => "BIGINT"
  | decimal p s => "NUMERIC(" ++ toString p.toNat ++ "," ++ toString s.toNat ++ ")"
  | float => "REAL"
  | double => "DOUBLE PRECISION"
  | boolean => "BOOLEAN"
  | date => "DATE"
  | time p => destinationPrecision "TIME" p
  | timestamp p | timestampLtz p => destinationPrecision "TIMESTAMP" p
  | char n | varchar (some n) => "VARCHAR(" ++ toString n.toNat ++ ")"
  | varchar none => "TEXT"
  | binary _ | varbinary _ => "BYTEA"
  | array _ | row _ => "TEXT"
  | unsupported raw => raw

/-- The column type of the relational destination, or the type that it does not know. -/
def postgresType (t : LogicalType) : Except String String :=
  match t.findUnsupported with
  | some raw => .error raw
  | none => .ok t.destinationName

/-- The column type of a sink table: structured values are stored as JSON text. -/
def runtimeType (t : LogicalType) : Except String String :=
  match t.findUnsupported with
  | some raw => .error raw
  | none => .ok (if t.isStructured then "STRING" else t.render)

end LogicalType

namespace Column

/-- One definition for each column, or the first column that has none. -/
def define (view : String) (type : LogicalType → Except String String)
    (write : Column → String → String) : List Column → Except PipelineError (List String)
  | [] => .ok []
  | c :: rest =>
    match type c.dataType with
    | .error raw => .error (.unsupportedType view c.name raw)
    | .ok t => (define view type write rest).map fun defs => write c t :: defs

def postgresDef (c : Column) (type : String) : String :=
  Sql.destinationName c.name ++ " " ++ type ++ (if c.nullable then "" else " NOT NULL")

def runtimeDef (c : Column) (type : String) : String := Sql.quoteIdent c.name ++ " " ++ type

def postgresDefs (view : String) (columns : List Column) : Except PipelineError (List String) :=
  define view LogicalType.postgresType postgresDef columns

def runtimeDefs (view : String) (columns : List Column) : Except PipelineError (List String) :=
  define view LogicalType.runtimeType runtimeDef columns

end Column

end StreamPipeline
