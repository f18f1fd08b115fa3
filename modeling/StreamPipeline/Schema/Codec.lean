import StreamPipeline.Json.Tagged
import StreamPipeline.Schema.Column

/-! # Types and columns in JSON

The form in which schemas are stored and exchanged: a type is an object tagged with its kind.
-/

namespace StreamPipeline

open Json (bare? fields? required optional uint8? uint32? text orNull)

namespace LogicalType

mutual

def toJson : LogicalType → Json
  | tinyInt => .tagged "tiny_int" []
  | smallInt => .tagged "small_int" []
  | int => .tagged "int" []
  | bigInt => .tagged "big_int" []
  | float => .tagged "float" []
  | double => .tagged "double" []
  | boolean => .tagged "boolean" []
  | date => .tagged "date" []
  | decimal p s => .tagged "decimal" [("precision", .ofNat p.toNat), ("scale", .ofNat s.toNat)]
  | time p => .tagged "time" [("precision", orNull (.ofNat ·.toNat) p)]
  | timestamp p => .tagged "timestamp" [("precision", orNull (.ofNat ·.toNat) p)]
  | timestampLtz p => .tagged "timestamp_ltz" [("precision", orNull (.ofNat ·.toNat) p)]
  | char n => .tagged "char" [("length", .ofNat n.toNat)]
  | binary n => .tagged "binary" [("length", .ofNat n.toNat)]
  | varchar n => .tagged "varchar" [("length", orNull (.ofNat ·.toNat) n)]
  | varbinary n => .tagged "varbinary" [("length", orNull (.ofNat ·.toNat) n)]
  | array element => .tagged "array" [("element", toJson element)]
  | row fields => .tagged "row" [("fields", .array (fieldsToJson fields))]
  | unsupported raw => .tagged "unsupported" [("raw", .string raw)]

def fieldsToJson : List (String × LogicalType) → List Json
  | [] => []
  | (name, t) :: rest =>
    .object [("name", .string name), ("data_type", toJson t)] :: fieldsToJson rest

end

def precision? (make : Option UInt8 → LogicalType) (body : Json) : Option LogicalType := do
  let [p] ← fields? ["precision"] body | none
  return make (← optional uint8? p)

def length? (make : UInt32 → LogicalType) (body : Json) : Option LogicalType := do
  let [n] ← fields? ["length"] body | none
  return make (← required uint32? n)

def optionalLength? (make : Option UInt32 → LogicalType) (body : Json) : Option LogicalType := do
  let [n] ← fields? ["length"] body | none
  return make (← optional uint32? n)

/-- Reads a type that is nested at most `n` levels deep. -/
def ofJsonUpTo : Nat → Json → Option LogicalType
  | 0, _ => none
  | n + 1, v => do
    let (tag, body) ← v.tagged?
    match tag with
    | "tiny_int" => bare? tinyInt body
    | "small_int" => bare? smallInt body
    | "int" => bare? int body
    | "big_int" => bare? bigInt body
    | "float" => bare? float body
    | "double" => bare? double body
    | "boolean" => bare? boolean body
    | "date" => bare? date body
    | "decimal" => do
      let [p, s] ← fields? ["precision", "scale"] body | none
      return decimal (← required uint8? p) (← required uint8? s)
    | "time" => precision? time body
    | "timestamp" => precision? timestamp body
    | "timestamp_ltz" => precision? timestampLtz body
    | "char" => length? char body
    | "binary" => length? binary body
    | "varchar" => optionalLength? varchar body
    | "varbinary" => optionalLength? varbinary body
    | "array" => do
      let [element] ← fields? ["element"] body | none
      return array (← required (ofJsonUpTo n) element)
    | "row" => do
      let [fields] ← fields? ["fields"] body | none
      let field (f : Json) : Option (String × LogicalType) := do
        let [name, t] ← fields? ["name", "data_type"] f | none
        return (← text name, ← required (ofJsonUpTo n) t)
      return row (← required (Json.listOf? field) fields)
    | "unsupported" => do
      let [raw] ← fields? ["raw"] body | none
      return unsupported (← text raw)
    | _ => none

def ofJson? (v : Json) : Option LogicalType := ofJsonUpTo v.depth v

end LogicalType

def TimeAttribute.name : TimeAttribute → String
  | procTime => "proc_time"
  | rowTime => "row_time"

def TimeAttribute.ofJson? : Json → Option TimeAttribute
  | .string "proc_time" => some procTime
  | .string "row_time" => some rowTime
  | _ => none

namespace Column

/-- A column without a time attribute leaves the field out. -/
def toJson (c : Column) : Json :=
  .object ([
    ("name", .string c.name),
    ("data_type", c.dataType.toJson),
    ("nullable", .bool c.nullable)]
    ++ c.timeAttribute.toList.map fun a => ("time_attribute", .string a.name))

def ofJson? (v : Json) : Option Column := do
  let [name, dataType, nullable, time] ←
    v.record? ["name", "data_type", "nullable", "time_attribute"] 3 | none
  return ⟨← text name, ← required LogicalType.ofJson? dataType, ← required Json.bool? nullable,
    ← optional TimeAttribute.ofJson? time⟩

end Column

end StreamPipeline
