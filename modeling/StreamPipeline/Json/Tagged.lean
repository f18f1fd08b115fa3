import StreamPipeline.Json.Record

/-! # Tagged values in JSON

One of several kinds of value: an object that names its kind in the field `type`, or an array that
begins with the name. Whole numbers have a limit of their own for each width.
-/

namespace StreamPipeline.Json

/-- The tag of a value and what else it holds. -/
def tagged? : Json → Option (String × Json)
  | .object fields => do
    let tag ← (fieldOf? "type" fields).bind string?
    return (tag, .object (fields.filter fun f => f.1 != "type"))
  | .array (.string tag :: rest) => some (tag, .array rest)
  | _ => none

def tagged (tag : String) (fields : List (String × Json)) : Json :=
  .object (("type", .string tag) :: fields)

/-- A kind that holds nothing else. -/
def bare? {α : Type} (a : α) : Json → Option α
  | .object _ | .array [] => some a
  | _ => none

/-- The fields of a record that may not leave out any of them by position. -/
def fields? (names : List String) (v : Json) : Option (List (Option Json)) :=
  v.record? names names.length

def uint8? (v : Json) : Option UInt8 := (v.natUpTo? 255).map UInt8.ofNat

def uint16? (v : Json) : Option UInt16 := (v.natUpTo? 65535).map UInt16.ofNat

def uint32? (v : Json) : Option UInt32 := (v.natUpTo? 4294967295).map UInt32.ofNat

def uint64? (v : Json) : Option UInt64 := (v.natUpTo? (wordLimit - 1)).map UInt64.ofNat

def text (v : Option Json) : Option String := required string? v

def textOrNull? (v : Option Json) : Option (Option String) := optional string? v

def ofNat (n : Nat) : Json := .int n

def orNull {α : Type} (write : α → Json) : Option α → Json
  | some a => write a
  | none => .null

def texts (ts : List String) : Json := .array (ts.map .string)

/-! ### Depth -/

mutual

/-- How far a value is nested. -/
def depth : Json → Nat
  | .array items => depthOfItems items + 1
  | .object fields => depthOfFields fields + 1
  | _ => 1

def depthOfItems : List Json → Nat
  | [] => 0
  | v :: rest => max (depth v) (depthOfItems rest)

def depthOfFields : List (String × Json) → Nat
  | [] => 0
  | (_, v) :: rest => max (depth v) (depthOfFields rest)

end

end StreamPipeline.Json
