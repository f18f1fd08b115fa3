import StreamPipeline.Decimal.Shortest
import StreamPipeline.Json.Reader

/-! # Comparing values

The order that the comparing helpers see: numbers by value, exactly, whether integers or doubles;
texts by their characters; and a text against a number by the number that it spells.
-/

namespace StreamPipeline.Template

/-- A double as a quotient of integers, or nothing beyond the finite ones. -/
def fraction? (x : Float) : Option (Int × Nat) :=
  match Decimal.Parts.ofFloat x with
  | .nan | .infinity _ => none
  | .zero _ => some (0, 1)
  | .finite negative m q _ =>
    let top : Int := ((m * Nat.pow 2 q.toNat : Nat) : Int)
    some (if negative then -top else top, Nat.pow 2 (-q).toNat)

def compareFloats (a b : Float) : Option Ordering :=
  if a < b then some .lt else if b < a then some .gt else if a == b then some .eq else none

def compareIntFloat (n : Int) (x : Float) : Option Ordering :=
  match fraction? x with
  | some (top, bottom) => some (compare (n * bottom) top)
  | none => compareFloats 0 x

def compareNumbers : Json → Json → Option Ordering
  | .int a, .int b => some (compare a b)
  | .float a, .float b => compareFloats a b
  | .int a, .float b => compareIntFloat a b
  | .float a, .int b => (compareIntFloat b a).map Ordering.swap
  | _, _ => none

/-- The number that a text spells in JSON, without blanks around it. -/
def spelledNumber? (s : String) : Option Json :=
  let read := match s.toList with
    | '-' :: cs => Json.readNumber true cs
    | cs => Json.readNumber false cs
  read.bind fun (n, rest) => if rest.isEmpty then some n else none

/-- Values of kinds that have no common order are not comparable. -/
def compareValues : Json → Json → Option Ordering
  | .string a, .string b => some (compare a b)
  | .bool a, .bool b => some (compare a b)
  | a, .string b => (spelledNumber? b).bind (compareNumbers a)
  | .string a, b => (spelledNumber? a).bind (compareNumbers · b)
  | a, b => compareNumbers a b

/-- Zero, the empty text, list and object, and what is no value at all count as false. -/
def isTruthy (includeZero : Bool) : Json → Bool
  | .null => false
  | .bool b => b
  | .int n => includeZero || n != 0
  | .float x => includeZero || (match Decimal.Parts.ofFloat x with
      | .finite _ m _ _ => decide (Decimal.hiddenBit ≤ m)
      | _ => false)
  | .string s => s != ""
  | .array items => !items.isEmpty
  | .object fields => !fields.isEmpty

end StreamPipeline.Template
