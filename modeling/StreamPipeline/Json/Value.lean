import StreamPipeline.Decimal.Layout

/-! # JSON values

A value as it was written: the fields of an object keep their order and may repeat. The canonical
form sorts the fields by name and keeps the last of each.
-/

namespace StreamPipeline

inductive Json where
  | null
  | bool (b : Bool)
  | int (n : Int)
  | float (x : Float)
  | string (s : String)
  | array (items : List Json)
  | object (fields : List (String × Json))
deriving Inhabited, BEq

namespace Json

/-- One more than the largest number of 64 bits. -/
def wordLimit : Nat := 18446744073709551616

/-- One more than the largest number of 64 bits with a sign. -/
def signedLimit : Nat := 9223372036854775808

/-- Puts a field into a list sorted by name; an earlier field of that name gives way. -/
def insertField (name : String) (value : Json) : List (String × Json) → List (String × Json)
  | [] => [(name, value)]
  | (k, v) :: rest =>
    if name < k then (name, value) :: (k, v) :: rest
    else if name = k then (name, value) :: rest
    else (k, v) :: insertField name value rest

def sortFields (fields : List (String × Json)) : List (String × Json) :=
  fields.foldl (fun sorted f => insertField f.1 f.2 sorted) []

mutual

def canonical : Json → Json
  | .array items => .array (canonicalItems items)
  | .object fields => .object (sortFields (canonicalFields fields))
  | v => v

def canonicalItems : List Json → List Json
  | [] => []
  | v :: rest => canonical v :: canonicalItems rest

def canonicalFields : List (String × Json) → List (String × Json)
  | [] => []
  | (k, v) :: rest => (k, canonical v) :: canonicalFields rest

end

def fieldOf? (name : String) : List (String × Json) → Option Json
  | [] => none
  | (k, v) :: rest => if k = name then some v else fieldOf? name rest

/-- The first field of that name, if the value is an object. -/
def field? (name : String) : Json → Option Json
  | .object fields => fieldOf? name fields
  | _ => none

def string? : Json → Option String
  | .string s => some s
  | _ => none

def bool? : Json → Option Bool
  | .bool b => some b
  | _ => none

def array? : Json → Option (List Json)
  | .array items => some items
  | _ => none

def object? : Json → Option (List (String × Json))
  | .object fields => some fields
  | _ => none

/-- An integer from zero to `limit`. -/
def natUpTo? (limit : Nat) : Json → Option Nat
  | .int n => if 0 ≤ n ∧ n ≤ (limit : Int) then some n.toNat else none
  | _ => none

end Json

end StreamPipeline
