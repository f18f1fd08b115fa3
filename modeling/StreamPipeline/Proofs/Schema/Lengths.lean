import StreamPipeline.Proofs.Schema.Lexemes
import StreamPipeline.Proofs.Schema.Steps

/-! # Lengths that are read

One length stands for an unbounded text. A type that was read never has it.
-/

namespace StreamPipeline

open Lexeme TypeParser

/-- No length stands for an unbounded text. -/
def LogicalType.Bounded : LogicalType → Prop
  | varchar (some n) | varbinary (some n) => n ≠ unbounded
  | _ => True

namespace TypeParser

theorem bounded_boundedLength {n m : UInt32} (h : boundedLength n = some m) : m ≠ unbounded := by
  unfold boundedLength at h
  split at h
  · cases h
  next hn => cases h; exact hn

theorem boundedLength_of_ne {n : UInt32} (h : n ≠ unbounded) : boundedLength n = some n :=
  if_neg h

@[simp] theorem small_toUInt32 (p : UInt8) : small p.toUInt32 = .ok p := by
  unfold small
  rw [UInt8.toNat_toUInt32, if_pos p.toNat_lt]
  simp

/-- A type that is read is bounded. -/
abbrev Bounds (x : Except TypeError (LogicalType × List Lexeme)) : Prop :=
  Yields x fun p => p.1.Bounded

theorem bounds_timestamp (whole ts : List Lexeme) : Bounds (timestamp whole ts) := by
  unfold timestamp
  refine yields_bind fun ⟨precision, ts⟩ => yields_bind fun ⟨without, ts⟩ => ?_
  dsimp only
  split
  · exact yields_ok True.intro
  split
  · exact yields_ok True.intro
  split
  · exact yields_bind fun _ => yields_ok True.intro
  · exact yields_bind fun _ => yields_ok True.intro

theorem bounds_simple {word : String} {whole ts : List Lexeme}
    {x : Except TypeError (LogicalType × List Lexeme)} (h : simple word whole ts = some x) :
    Bounds x := by
  have hlength (n : UInt32) (rest : List Lexeme) :
      Bounds (.ok (.varchar (boundedLength n), rest)) ∧
        Bounds (.ok (.varbinary (boundedLength n), rest)) := by
    cases hn : boundedLength n with
    | none => exact ⟨yields_ok True.intro, yields_ok True.intro⟩
    | some m =>
      have hb := bounded_boundedLength hn
      exact ⟨yields_ok hb, yields_ok hb⟩
  unfold simple at h
  split at h
  all_goals cases h
  all_goals first
    | exact yields_ok True.intro
    | exact bounds_timestamp _ _
    | exact yields_bind fun ⟨_, _⟩ => (hlength _ _).1
    | exact yields_bind fun ⟨_, _⟩ => (hlength _ _).2
    | exact yields_bind fun ⟨_, _⟩ => yields_ok True.intro
    | exact yields_bind fun ⟨_, _⟩ => yields_bind fun ⟨_, _⟩ => yields_ok True.intro
    | exact yields_bind fun ⟨⟨_, _⟩, _⟩ => yields_bind fun _ => yields_bind fun _ =>
        yields_ok True.intro

theorem bounds_row (fuel : Nat) (close : TypeToken) (ts : List Lexeme) :
    Bounds (row fuel close ts) := by
  rintro ⟨t, rest⟩ h
  obtain ⟨fs, rfl⟩ := yields_row fuel close ts _ h
  trivial

theorem bounds_type (fuel : Nat) (ts : List Lexeme) : Bounds (type fuel ts) := by
  cases ts with
  | nil => rw [type]; exact yields_error _
  | cons l ts =>
  cases fuel with
  | zero => rw [type]; exact yields_error _
  | succ fuel =>
  rw [type]
  split
  next word _ =>
    split
    next result hs => exact bounds_simple hs
    next =>
      split
      · refine yields_bind fun _ => yields_bind fun _ => yields_bind fun _ => ?_
        exact yields_bind fun _ => yields_ok True.intro
      split
      · split
        · exact bounds_row _ _ _
        · exact bounds_row _ _ _
        · exact yields_error _
      · exact yields_ok True.intro
  next => exact yields_error _

end TypeParser

namespace ColumnType

/-- The lexemes that the type of a column is read from. -/
theorem type_of_parse {raw : String} {c : ColumnType} (h : parse raw = .ok c) :
    ∃ ts rest, Scans raw.toList ts ∧ type ts.length ts = .ok (c.dataType, rest) := by
  unfold parse at h
  split at h
  · cases h
  next c hc =>
  cases h
  obtain ⟨ts, hts, hc⟩ := bind_eq_ok_iff.mp hc
  unfold columnType at hc
  obtain ⟨⟨t, rest⟩, ht, hc⟩ := bind_eq_ok_iff.mp hc
  obtain ⟨⟨_, _⟩, -, hc⟩ := bind_eq_ok_iff.mp hc
  obtain ⟨⟨_, left⟩, -, hc⟩ := bind_eq_ok_iff.mp hc
  cases left with
  | nil => cases hc; exact ⟨ts, rest, ofText_iff.mp hts, ht⟩
  | cons l _ => cases hc

/-- The lengths of a type that was read never stand for an unbounded text. -/
theorem bounded_of_parse {raw : String} {c : ColumnType} (h : parse raw = .ok c) :
    c.dataType.Bounded := by
  obtain ⟨ts, rest, -, ht⟩ := type_of_parse h
  exact bounds_type ts.length ts _ ht

end ColumnType

end StreamPipeline
