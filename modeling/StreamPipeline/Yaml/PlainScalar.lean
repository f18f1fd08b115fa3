import StreamPipeline.Decimal.Reader
import StreamPipeline.Json.Reader

/-! # What a plain scalar stands for

Null, a truth value, a number or a text, by the rules of the core schema. Leading zeros make a text,
and so does a number that no float can hold.
-/

namespace StreamPipeline.Yaml

inductive Resolved where
  | null
  | bool (b : Bool)
  | int (n : Int)
  | tooLarge
  | float (x : Float)
  | text (s : String)

def isNullWord (cs : List Char) : Bool :=
  ["~".toList, "null".toList, "Null".toList, "NULL".toList].contains cs

def boolWord? (cs : List Char) : Option Bool :=
  if ["true".toList, "True".toList, "TRUE".toList].contains cs then some true
  else if ["false".toList, "False".toList, "FALSE".toList].contains cs then some false
  else none

/-! ### Integers -/

def digitOf? (base : Nat) (c : Char) : Option Nat :=
  (Json.hexValue? c).bind fun v => if v < base then some v else none

/-- The value of at least one digit. -/
def digitsIn? (base : Nat) (cs : List Char) : Option Nat :=
  if cs.isEmpty then none
  else cs.foldlM (fun n c => (digitOf? base c).map fun v => base * n + v) 0

/-- A number with the mark of its base. -/
def marked? : List Char → Option Nat
  | '0' :: 'x' :: rest => digitsIn? 16 rest
  | '0' :: 'o' :: rest => digitsIn? 8 rest
  | '0' :: 'b' :: rest => digitsIn? 2 rest
  | _ => none

/-- A zero and more digits after it. -/
def isZeroPadded (cs : List Char) : Bool :=
  match cs with
  | '0' :: d :: rest => (d :: rest).all Char.isDigit
  | _ => false

/-- The digits after a sign or without one. -/
def magnitude? (cs : List Char) : Option Nat :=
  (marked? cs).or (if isZeroPadded cs then none else digitsIn? 10 cs)

/-- One more than the largest number of 128 bits with a sign. -/
def signedWideLimit : Nat := 170141183460469231731687303715884105728

/-- One more than the largest number of 128 bits. -/
def wideLimit : Nat := 2 * signedWideLimit

/-- An integer of at most 128 bits. -/
def int? (cs : List Char) : Option Int :=
  match cs with
  | '-' :: rest =>
    (magnitude? rest).bind fun n => if n ≤ signedWideLimit then some (-(n : Int)) else none
  | '+' :: rest => (magnitude? rest).bind fun n => if n < wideLimit then some (n : Int) else none
  | _ => (magnitude? cs).bind fun n => if n < wideLimit then some (n : Int) else none

/-- An integer as a value: only those of 64 bits have one. -/
def Resolved.ofInt (n : Int) : Resolved :=
  if -(Json.signedLimit : Int) ≤ n ∧ n < (Json.wordLimit : Int) then .int n else .tooLarge

/-! ### Floats -/

def isInfinityWord (cs : List Char) : Bool :=
  [".inf".toList, ".Inf".toList, ".INF".toList].contains cs

def isNanWord (cs : List Char) : Bool :=
  [".nan".toList, ".NaN".toList, ".NAN".toList].contains cs

def infinity : Float := 1.0 / 0.0

def notANumber : Float := 0.0 / 0.0

def finite? (cs : List Char) : Option Float :=
  (Decimal.parse? cs).bind fun x => if x.isFinite then some x else none

def float? (cs : List Char) : Option Float :=
  if isNanWord cs then some notANumber
  else match cs with
    | '+' :: rest =>
      match rest with
      | '+' :: _ | '-' :: _ => none
      | rest => if isInfinityWord rest then some infinity else finite? rest
    | '-' :: rest => if isInfinityWord rest then some (-infinity) else finite? cs
    | _ => if isInfinityWord cs then some infinity else finite? cs

/-- A zero-padded number, with or without a sign. -/
def isPaddedNumber : List Char → Bool
  | '-' :: rest | '+' :: rest => isZeroPadded rest
  | cs => isZeroPadded cs

def Resolved.ofPlain (text : String) : Resolved :=
  let cs := text.toList
  if cs.isEmpty || isNullWord cs then .null
  else match boolWord? cs with
    | some b => .bool b
    | none =>
      match int? cs with
      | some n => .ofInt n
      | none =>
        if isPaddedNumber cs then .text text
        else match float? cs with
          | some x => .float x
          | none => .text text

end StreamPipeline.Yaml
