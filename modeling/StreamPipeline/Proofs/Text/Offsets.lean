import Mathlib.Data.String.Basic
import StreamPipeline.Text.Basic

/-! # Byte offsets

A text may be read by the offsets of its bytes. Where a character begins, and at its end, an offset
cuts a text into characters before it and characters after it; only there may a slice start or stop.
-/

namespace StreamPipeline

namespace Text

open String (utf8Len utf8EncodeChar)

def bytes (s : String) : List UInt8 := s.toByteArray.data.toList

/-- A byte taken for a character. -/
def byteChar (b : UInt8) : Char := Char.ofNat b.toNat

/-- Whether a character begins at the offset, or the text ends there. -/
def isBoundary (s : String) (i : Nat) : Bool := String.Pos.Raw.isValid s ⟨i⟩

/-- The text between two offsets, if they are in order and cut no character. -/
def slice? (s : String) (start stop : Nat) : Option String :=
  if start ≤ stop ∧ isBoundary s start ∧ isBoundary s stop then
    some (String.Pos.Raw.extract s ⟨start⟩ ⟨stop⟩)
  else none

/-- The offset of the first such character. -/
def offsetOf? (c : Char) : List Char → Option Nat
  | [] => none
  | d :: rest => if d = c then some 0 else (offsetOf? c rest).map (d.utf8Size + ·)

theorem toNat_ofNat {n : Nat} (h : n < 0xD800) : (Char.ofNat n).toNat = n := by
  rw [Char.ofNat, dif_pos (Or.inl h)]
  rfl

theorem bytes_eq (s : String) : bytes s = s.toList.flatMap utf8EncodeChar := by
  rw [bytes, ← String.utf8Encode_toList]
  simp [List.utf8Encode]

theorem length_flatMap_encode (cs : List Char) :
    (cs.flatMap utf8EncodeChar).length = utf8Len cs := by
  induction cs with
  | nil => rfl
  | cons c cs ih => simp [ih, Nat.add_comm]

/-- No character is without bytes. -/
theorem length_le_utf8Len (cs : List Char) : cs.length ≤ utf8Len cs := by
  induction cs with
  | nil => exact Nat.le_refl 0
  | cons c cs ih =>
    have hc := c.utf8Size_pos
    rw [List.length_cons, String.utf8Len_cons]
    omega

theorem length_bytes (s : String) : (bytes s).length = utf8Len s.toList := by
  rw [bytes_eq, length_flatMap_encode]

/-- These characters are left of the text from the offset on. -/
def LeftAt (s : String) (i : Nat) (cs : List Char) : Prop :=
  ∃ before, s.toList = before ++ cs ∧ i = utf8Len before

variable {s : String} {i : Nat} {c : Char} {cs read rest : List Char}

theorem leftAt_zero (s : String) : LeftAt s 0 s.toList := ⟨[], rfl, rfl⟩

theorem LeftAt.advance (h : LeftAt s i (read ++ rest)) : LeftAt s (i + utf8Len read) rest := by
  obtain ⟨before, hs, rfl⟩ := h
  exact ⟨before ++ read, by rw [hs, List.append_assoc], (String.utf8Len_append before read).symm⟩

theorem LeftAt.tail (h : LeftAt s i (c :: cs)) : LeftAt s (i + c.utf8Size) cs := by
  have ht : LeftAt s (i + utf8Len [c]) cs := LeftAt.advance h
  rwa [String.utf8Len_cons, String.utf8Len_nil, Nat.zero_add] at ht

theorem LeftAt.length (h : LeftAt s i cs) : (bytes s).length = i + utf8Len cs := by
  obtain ⟨before, hs, rfl⟩ := h
  rw [length_bytes, hs, String.utf8Len_append]

theorem LeftAt.isBoundary (h : LeftAt s i cs) : isBoundary s i = true := by
  obtain ⟨before, hs, rfl⟩ := h
  refine String.Pos.Raw.isValid_eq_true_iff.mpr (String.Pos.Raw.isValid_iff_exists_append.mpr ?_)
  refine ⟨String.ofList before, String.ofList cs, ?_, (String.rawEndPos_ofList before).symm⟩
  rw [← String.ofList_append, ← hs, String.ofList_toList]

/-- The characters that are read next are the slice over their bytes. -/
theorem LeftAt.slice (h : LeftAt s i (read ++ rest)) :
    slice? s i (i + utf8Len read) = some (String.ofList read) := by
  rw [slice?, if_pos ⟨Nat.le_add_right _ _, h.isBoundary, h.advance.isBoundary⟩]
  obtain ⟨before, hs, rfl⟩ := h
  have hv := String.extract_of_valid before read rest
  rwa [List.append_assoc, ← hs, String.ofList_toList, ← Option.some_inj] at hv

/-- What is left of a text is its slice up to the end. -/
theorem LeftAt.slice_all (h : LeftAt s i cs) :
    slice? s i (bytes s).length = some (String.ofList cs) := by
  rw [h.length]
  exact LeftAt.slice (by rwa [List.append_nil])

theorem LeftAt.drop_bytes (h : LeftAt s i cs) :
    (bytes s).drop i = cs.flatMap utf8EncodeChar := by
  obtain ⟨before, hs, rfl⟩ := h
  rw [bytes_eq, hs, List.flatMap_append, ← length_flatMap_encode, List.drop_left]

/-- The bytes of the next character. -/
theorem LeftAt.getElem? (h : LeftAt s i (c :: cs)) {k : Nat} (hk : k < c.utf8Size) :
    (bytes s)[i + k]? = (utf8EncodeChar c)[k]? := by
  rw [← List.getElem?_drop, h.drop_bytes, List.flatMap_cons, List.getElem?_append_left]
  rwa [String.length_utf8EncodeChar]

theorem LeftAt.getElem?_end (h : LeftAt s i []) : (bytes s)[i]? = none := by
  rw [List.getElem?_eq_none_iff, h.length]
  exact Nat.le_refl _

theorem offsetOf?_eq (c : Char) (cs : List Char) :
    offsetOf? c cs = (splitFirstChars c cs).map fun p => utf8Len p.1 := by
  induction cs with
  | nil => rfl
  | cons d cs ih =>
    rw [offsetOf?, splitFirstChars, ih]
    split_ifs
    · rfl
    · cases splitFirstChars c cs with
      | none => rfl
      | some p => simp [Nat.add_comm]

end Text

end StreamPipeline
