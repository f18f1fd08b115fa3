import StreamPipeline.Template.Order
import StreamPipeline.Template.Scope

/-! # Helpers

The helpers that compute a value from their parameters, and how a value is written.
-/

namespace StreamPipeline.Template

mutual

/-- The text of a value: nothing for null, brackets around a list, a mark for an object. -/
def showValue : Json → String
  | .null => ""
  | .bool b => if b then "true" else "false"
  | .int n => toString n
  | .float x => Decimal.json.write x
  | .string s => s
  | .array items => "[" ++ showList items ++ "]"
  | .object _ => "[object]"

def showList : List Json → String
  | [] => ""
  | [v] => showValue v
  | v :: w :: rest => showValue v ++ ", " ++ showList (w :: rest)

end

/-- The helpers that compute a value. -/
inductive Helper where
  | eq
  | ne
  | gt
  | gte
  | lt
  | lte
  | and
  | or
  | not
  | len
  | lookup
deriving Repr, DecidableEq

def Helper.name : Helper → String
  | eq => "eq"
  | ne => "ne"
  | gt => "gt"
  | gte => "gte"
  | lt => "lt"
  | lte => "lte"
  | and => "and"
  | or => "or"
  | not => "not"
  | len => "len"
  | lookup => "lookup"

def Helper.all : List Helper := [eq, ne, gt, gte, lt, lte, and, or, not, len, lookup]

def Helper.ofName? (name : String) : Option Helper := Helper.all.find? (·.name == name)

/-- The parameter at that place; a missing value does not count. -/
def present (helper : Helper) (args : List Arg) (i : Nat) : Result Json :=
  match (args[i]?).bind Arg.value with
  | some v => .ok v
  | none => .error (.missingParam helper.name i)

def comparing (h : Helper) (args : List Arg) (holds : Ordering → Bool) : Result Json := do
  let a ← present h args 0
  let b ← present h args 1
  .ok (.bool (((compareValues a b).map holds).getD false))

def size : Json → Nat
  | .array items => items.length
  | .object fields => fields.length
  | .string s => s.utf8ByteSize
  | _ => 0

def lookUp (args : List Arg) : Result Json :=
  match args with
  | [] => .error (.missingParam "lookup" 0)
  | [_] => .error (.missingParam "lookup" 1)
  | collection :: key :: _ =>
    let found := match collection.get, key.get with
      | .array items, .int n => if n < 0 then none else items[n.toNat]?
      | .object fields, .string k => Json.fieldOf? k fields
      | _, _ => none
    match found with
    | some v => .ok v
    | none => .error (.missingVariable none)

def Helper.apply (h : Helper) (args : List Arg) : Result Json :=
  match h with
  | .eq => do
    let a ← present h args 0
    let b ← present h args 1
    .ok (.bool (a == b))
  | .ne => do
    let a ← present h args 0
    let b ← present h args 1
    .ok (.bool (a != b))
  | .gt => comparing h args (· == .gt)
  | .gte => comparing h args (· != .lt)
  | .lt => comparing h args (· == .lt)
  | .lte => comparing h args (· != .gt)
  | .and => .ok (.bool (args.all fun a => isTruthy false a.get))
  | .or => .ok (.bool (args.any fun a => isTruthy false a.get))
  | .not => do
    let a ← present h args 0
    .ok (.bool !(isTruthy false a))
  | .len =>
    match (args[0]?).bind Arg.value with
    | some v => .ok (.int (size v))
    | none => .error (.missingNamedParam "len" "x")
  | .lookup => lookUp args

/-- Helpers whose value decides between the body and the inverse of a block. -/
def Helper.decides : Helper → Bool
  | .len | .lookup => false
  | _ => true

end StreamPipeline.Template
