import StreamPipeline.Draft.Basic
import StreamPipeline.Pipeline.Problem

/-! # Checked fields

A checked field has a value or not, and the faults found on the way. Checking goes on after a fault,
so that one run finds them all.
-/

namespace StreamPipeline

structure Checked (α : Type) where
  value : Option α
  faults : List Fault

namespace Checked

def ok {α : Type} (a : α) : Checked α := ⟨some a, []⟩

/-- No value, and nothing to report. -/
def nothing {α : Type} : Checked α := ⟨none, []⟩

def fault {α : Type} (f : Fault) : Checked α := ⟨none, [f]⟩

/-- A value that must not be missing or blank, without the blanks around it. -/
def required (field : String) (value : Option String) : Checked String :=
  match value with
  | some v => if Text.isBlankText v then fault (.missing field) else ok (Text.trim v)
  | none => fault (.missing field)

def requiredScalar (field : String) (value : Option Scalar) : Checked String :=
  required field (value.map Scalar.asText)

/-- A value that must be given but may be empty, as it was written. -/
def present (field : String) (value : Option Scalar) : Checked String :=
  match value with
  | some v => ok v.asText
  | none => fault (.missing field)

/-- A positive integer, or the default if none is given. -/
def positive (field : String) (default : Nat) (value : Option Scalar) : Checked Nat :=
  match value with
  | none => ok default
  | some v =>
    match v.asNat? with
    | some n => if 1 ≤ n then ok n else fault (.notPositive field v.asText)
    | none => fault (.notPositive field v.asText)

def port (field : String) (default : UInt16) (value : Option Scalar) : Checked UInt16 :=
  match value with
  | none => ok default
  | some v =>
    match v.asNat? with
    | some n =>
      if 1 ≤ n ∧ n < 65536 then ok (UInt16.ofNat n) else fault (.invalidPort field v.asText)
    | none => fault (.invalidPort field v.asText)

/-- Goes on with a value; without one there is nothing more to check. -/
def andThen {α β : Type} (c : Checked α) (next : α → Checked β) : Checked β :=
  match c.value with
  | some a => next a
  | none => nothing

end Checked

end StreamPipeline
