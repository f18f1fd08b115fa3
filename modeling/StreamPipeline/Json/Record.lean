import StreamPipeline.Json.Value

/-! # Records in JSON

A record with known fields is written as an object or, by position, as an array. A known field may
not be given twice; fields that are not known are passed over.
-/

namespace StreamPipeline.Json

/-- The value of a field that is given at most once. -/
def onlyField? (fields : List (String × Json)) (name : String) : Option (Option Json) :=
  match fields.filter fun f => f.1 == name with
  | [] => some none
  | [f] => some (some f.2)
  | _ => none

/-- The values of the known fields, in the order of their names. An array may leave out fields at
its end, but must hold the first `least`. -/
def record? (names : List String) (least : Nat) : Json → Option (List (Option Json))
  | .object fields => names.mapM (onlyField? fields)
  | .array items =>
    if least ≤ items.length ∧ items.length ≤ names.length then
      some (items.map some ++ List.replicate (names.length - items.length) none)
    else none
  | _ => none

/-- A field that must be given. -/
def required {α : Type} (read : Json → Option α) : Option Json → Option α
  | some v => read v
  | none => none

/-- A field that may be missing or null. -/
def optional {α : Type} (read : Json → Option α) : Option Json → Option (Option α)
  | none | some .null => some none
  | some v => (read v).map some

/-- A field that may be missing. -/
def withDefault {α : Type} (default : α) (read : Json → Option α) : Option Json → Option α
  | none => some default
  | some v => read v

/-- All items of an array. -/
def listOf? {α : Type} (read : Json → Option α) (v : Json) : Option (List α) :=
  v.array?.bind fun items => items.mapM read

end StreamPipeline.Json
