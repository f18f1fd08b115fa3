import StreamPipeline.Proofs.Schema.Lexemes
import StreamPipeline.Proofs.Text.Offsets

/-! # Tokens by byte offsets

A type text is also read by its bytes: most tokens byte by byte, a quoted name by its characters,
and parts of the text as slices between offsets. Every byte and every slice that is taken is there,
and what is read are the lexemes of the text.
-/

namespace StreamPipeline

open Text

open String (utf8Len utf8EncodeChar)

/-- A reading by offsets: a value, an error, or nothing at all, where a byte or a slice is taken
that is not there or the rounds do not last. -/
abbrev Guarded := ExceptT TypeError Option

namespace Guarded

variable {α β : Type}

/-- A reading with a result. -/
def result (x : Except TypeError α) : Guarded α := ExceptT.mk (some x)

/-- Goes on only with what is there. -/
def given (x : Option α) : Guarded α := ExceptT.lift x

@[simp] theorem given_some (a : α) : given (some a) = result (.ok a) := rfl

@[simp] theorem result_ok_bind (a : α) (f : α → Guarded β) : result (.ok a) >>= f = f a := rfl

@[simp] theorem result_error_bind (e : TypeError) (f : α → Guarded β) :
    result (.error e) >>= f = result (.error e) := rfl

@[simp] theorem pure_eq (a : α) : (pure a : Guarded α) = result (.ok a) := rfl

@[simp] theorem throw_eq (e : TypeError) : (throw e : Guarded α) = result (.error e) := rfl

end Guarded

open Guarded

/-- A token and the byte offsets between which it stands. -/
structure Token where
  token : TypeToken
  start : Nat
  stop : Nat
deriving Repr, DecidableEq

namespace TypeText

def slice (raw : String) (start stop : Nat) : Guarded String := given (slice? raw start stop)

/-- Passes bytes with the property. -/
def skipWhile (p : Char → Bool) (raw : String) (i : Nat) : Guarded Nat := do
  if i < (bytes raw).length then
    let b ← given (bytes raw)[i]?
    if p (byteChar b) then skipWhile p raw (i + 1) else return i
  else return i
termination_by (bytes raw).length - i

/-- Reads a name up to its closing quote, a character at a time. -/
def quotedName (raw : String) (i : Nat) : Guarded (List Char × Nat) := do
  match _hb : (bytes raw)[i]? with
  | none => throw .unterminatedIdentifier
  | some b =>
    if byteChar b = '\x60' then
      if (bytes raw)[i + 1]?.map byteChar = some '\x60' then
        let (name, stop) ← quotedName raw (i + 2)
        return ('\x60' :: name, stop)
      else return ([], i + 1)
    else
      let rest ← slice raw i (bytes raw).length
      let c := rest.toList.headD '\x60'
      let (name, stop) ← quotedName raw (i + c.utf8Size)
      return (c :: name, stop)
termination_by (bytes raw).length - i
decreasing_by
  · have ⟨_, _⟩ := List.getElem?_eq_some_iff.mp _hb
    omega
  · have ⟨_, _⟩ := List.getElem?_eq_some_iff.mp _hb
    have hc := (rest.toList.headD '\x60').utf8Size_pos
    omega

/-- Passes a literal up to its closing quote, a byte at a time. -/
def literalEnd (raw : String) (i : Nat) : Guarded Nat := do
  match hb : (bytes raw)[i]? with
  | none => throw .unterminatedLiteral
  | some b =>
    if byteChar b = '\'' then
      if (bytes raw)[i + 1]?.map byteChar = some '\'' then literalEnd raw (i + 2)
      else return i + 1
    else literalEnd raw (i + 1)
termination_by (bytes raw).length - i
decreasing_by all_goals have ⟨_, _⟩ := List.getElem?_eq_some_iff.mp hb; omega

/-- The token that begins at the offset, with this byte, and where it stops. -/
def tokenAt (raw : String) (i : Nat) (c : Char) : Guarded (TypeToken × Nat) := do
  if c = '(' then return (.lparen, i + 1)
  else if c = ')' then return (.rparen, i + 1)
  else if c = ',' then return (.comma, i + 1)
  else if c = '<' then return (.lt, i + 1)
  else if c = '>' then return (.gt, i + 1)
  else if c = '\x60' then
    let (name, stop) ← quotedName raw (i + 1)
    return (.ident (String.ofList name), stop)
  else if c = '\'' then
    let stop ← literalEnd raw (i + 1)
    return (.literal, stop)
  else if c = '*' then
    let rest ← slice raw (i + 1) (bytes raw).length
    match offsetOf? '*' rest.toList with
    | none => throw .unterminatedMarker
    | some close =>
      let name ← slice raw (i + 1) (i + 1 + close)
      return (.marker (upperAscii name), i + close + 2)
  else if c.isDigit then
    let stop ← skipWhile Char.isDigit raw i
    let digits ← slice raw i stop
    match unsignedUpTo? 4294967295 digits.toList with
    | none => throw .numberTooLarge
    | some n => return (.number (UInt32.ofNat n), stop)
  else if c.isAlpha || c == '_' then
    let stop ← skipWhile Lexeme.isWordChar raw i
    let word ← slice raw i stop
    return (.word (upperAscii word), stop)
  else throw (.unexpectedCharacter c)

/-- The tokens from the offset on, in so many rounds. Without a round left there is no result. -/
def tokensFrom (raw : String) : Nat → Nat → Guarded (List Token)
  | 0, _ => given none
  | rounds + 1, i => do
    if i < (bytes raw).length then
      let b ← given (bytes raw)[i]?
      if Lexeme.isGap (byteChar b) then tokensFrom raw rounds (i + 1)
      else
        let (token, stop) ← tokenAt raw i (byteChar b)
        let rest ← tokensFrom raw rounds stop
        return ⟨token, i, stop⟩ :: rest
    else return []

def tokens (raw : String) : Guarded (List Token) := tokensFrom raw ((bytes raw).length + 1) 0

/-! ### First bytes -/

/-- The first byte of a character, and those that go on with it. -/
theorem encode_eq (c : Char) : ∃ b bs, utf8EncodeChar c = b :: bs ∧
    byteChar b = Lexeme.leadByte c ∧ ∀ d ∈ bs, 128 ≤ d.toNat := by
  have hmax : c.toNat < 0x110000 := by
    rcases c.valid with h | h
    · exact Nat.lt_trans h (by decide)
    · exact h.2
  have hv : c.val.toNat = c.toNat := rfl
  unfold utf8EncodeChar
  simp only [hv]
  generalize hn : c.toNat = n at *
  by_cases h₁ : n < 0x80
  · refine ⟨.ofNat n, [], if_pos (by omega), ?_, by simp⟩
    rw [byteChar, UInt8.toNat_ofNat', Lexeme.leadByte, Nat.mod_eq_of_lt (by omega), hn]
    simp only [h₁, if_true]
    rw [← hn, Char.ofNat_toNat]
  rw [if_neg (by omega), Lexeme.leadByte, hn]
  simp only [h₁, if_false, byteChar]
  by_cases h₂ : n < 0x800
  · refine ⟨_, _, if_pos (by omega), ?_, by simp; omega⟩
    rw [if_pos h₂, UInt8.toNat_ofNat']
    exact congrArg Char.ofNat (by omega)
  rw [if_neg (by omega), if_neg h₂]
  by_cases h₃ : n < 0x10000
  · refine ⟨_, _, if_pos (by omega), ?_, by simp; omega⟩
    rw [if_pos h₃, UInt8.toNat_ofNat']
    exact congrArg Char.ofNat (by omega)
  · refine ⟨_, _, if_neg (by omega), ?_, by simp; omega⟩
    rw [if_neg h₃, UInt8.toNat_ofNat']
    exact congrArg Char.ofNat (by omega)

theorem leadByte_of_ascii {c : Char} (h : c.toNat < 128) : Lexeme.leadByte c = c := by
  simp only [Lexeme.leadByte, h, if_true]

theorem leadByte_of_not_ascii {c : Char} (h : 128 ≤ c.toNat) :
    128 ≤ (Lexeme.leadByte c).toNat := by
  have hmax : c.toNat < 0x110000 := by
    rcases c.valid with h | h
    · exact Nat.lt_trans h (by decide)
    · exact h.2
  rw [Lexeme.leadByte]
  split_ifs
  · omega
  all_goals rw [toNat_ofNat (by omega)]; omega

theorem toNat_byteChar (b : UInt8) : (byteChar b).toNat = b.toNat :=
  toNat_ofNat (Nat.lt_trans b.toNat_lt (by decide))

/-- Only ASCII characters have the property. -/
def AsciiOnly (p : Char → Bool) : Prop := ∀ c, p c = true → c.toNat < 128

variable {p : Char → Bool} {raw : String} {i : Nat} {c : Char} {cs : List Char}

/-- To see whether a character has such a property, its first byte is enough. -/
theorem AsciiOnly.leadByte (hp : AsciiOnly p) (c : Char) : p (Lexeme.leadByte c) = p c := by
  by_cases hc : c.toNat < 128
  · rw [leadByte_of_ascii hc]
  · have hl := leadByte_of_not_ascii (Nat.not_lt.mp hc)
    rw [Bool.eq_false_iff.mpr (mt (hp c) hc), Bool.eq_false_iff.mpr (mt (hp _) (by omega))]

theorem AsciiOnly.utf8Size (hp : AsciiOnly p) (hc : p c = true) : c.utf8Size = 1 := by
  have h := hp c hc
  exact Char.utf8Size_eq_one_iff.mpr (UInt32.le_iff_toNat_le.mpr (Nat.le_of_lt_succ h))

theorem asciiOnly_eq {q : Char} (h : q.toNat < 128) : AsciiOnly (· == q) := by
  intro c hc
  rwa [eq_of_beq hc]

theorem asciiOnly_of_le (last : Char) (hlast : last.toNat < 128)
    (h : ∀ c, p c = true → c.val ≤ last.val) : AsciiOnly p := fun c hc =>
  Nat.lt_of_le_of_lt (UInt32.le_iff_toNat_le.mp (h c hc)) hlast

theorem asciiOnly_isDigit : AsciiOnly Char.isDigit :=
  asciiOnly_of_le '9' (by decide) fun _ h => of_decide_eq_true (Bool.and_eq_true_iff.mp h).2

theorem AsciiOnly.or {q : Char → Bool} (hp : AsciiOnly p) (hq : AsciiOnly q) :
    AsciiOnly fun c => p c || q c := by
  intro c h
  rcases Bool.or_eq_true_iff.mp h with h | h
  · exact hp c h
  · exact hq c h

theorem asciiOnly_isAlpha : AsciiOnly Char.isAlpha := by
  have hupper : AsciiOnly Char.isUpper :=
    asciiOnly_of_le 'Z' (by decide) fun _ h => (of_decide_eq_true h).2
  have hlower : AsciiOnly Char.isLower :=
    asciiOnly_of_le 'z' (by decide) fun _ h => of_decide_eq_true (Bool.and_eq_true_iff.mp h).2
  exact hupper.or hlower

theorem asciiOnly_isLetter : AsciiOnly fun c => c.isAlpha || c == '_' :=
  asciiOnly_isAlpha.or (asciiOnly_eq (by decide))

theorem asciiOnly_isWordChar : AsciiOnly Lexeme.isWordChar :=
  (asciiOnly_isAlpha.or asciiOnly_isDigit).or (asciiOnly_eq (by decide))

theorem asciiOnly_isGap : AsciiOnly Lexeme.isGap := by
  intro c h
  simp only [Lexeme.isGap, Bool.or_eq_true, beq_iff_eq] at h
  rcases h with (((rfl | rfl) | rfl) | rfl) | rfl <;> decide

theorem leadByte_eq_iff {q : Char} (hq : q.toNat < 128) : Lexeme.leadByte c = q ↔ c = q := by
  have h := (asciiOnly_eq hq).leadByte c
  rw [← beq_iff_eq, ← beq_iff_eq (a := c), h]

/-- The byte at which a character begins. -/
theorem getElem?_bytes (h : LeftAt raw i (c :: cs)) :
    ∃ b, (bytes raw)[i]? = some b ∧ byteChar b = Lexeme.leadByte c := by
  obtain ⟨b, bs, he, hb, -⟩ := encode_eq c
  have hk := h.getElem? c.utf8Size_pos
  rw [he] at hk
  exact ⟨b, hk, hb⟩

theorem lt_length (h : LeftAt raw i (c :: cs)) : i < (bytes raw).length := by
  have hc := c.utf8Size_pos
  rw [h.length, String.utf8Len_cons]
  omega

/-! ### Loops -/

theorem skipWhile_eq (hp : AsciiOnly p) (h : LeftAt raw i cs) :
    skipWhile p raw i = result (.ok (i + utf8Len (cs.takeWhile p))) := by
  induction cs generalizing i with
  | nil =>
    have hl := h.length
    rw [String.utf8Len_nil, Nat.add_zero] at hl
    rw [skipWhile, if_neg (by omega)]
    rfl
  | cons c cs ih =>
    obtain ⟨b, hb, hc⟩ := getElem?_bytes h
    rw [skipWhile, if_pos (lt_length h), hb, given_some, result_ok_bind, hc, hp.leadByte]
    cases hpc : p c with
    | false => simp [hpc]
    | true =>
      have ht := h.tail
      rw [hp.utf8Size hpc] at ht
      simp [hpc, ih ht, hp.utf8Size hpc, Nat.add_assoc, Nat.add_comm 1]

/-- The byte after a character begins the next one. -/
theorem map_byteChar_eq {q : Char} (hq : q.toNat < 128) (h : LeftAt raw i cs) :
    (bytes raw)[i]?.map byteChar = some q ↔ cs.head? = some q := by
  cases cs with
  | nil => simp [h.getElem?_end]
  | cons c cs =>
    obtain ⟨b, hb, hc⟩ := getElem?_bytes h
    simp [hb, hc, leadByte_eq_iff hq]

theorem quotedName_close (h : LeftAt raw i ('\x60' :: cs)) (hd : cs.head? ≠ some '\x60') :
    quotedName raw i = result (.ok ([], i + 1)) := by
  obtain ⟨b, hb, hc⟩ := getElem?_bytes h
  have hn : (bytes raw)[i + 1]?.map byteChar ≠ some '\x60' :=
    mt (map_byteChar_eq (by decide) h.tail).mp hd
  rw [quotedName, hb]
  simp only [hc, leadByte_of_ascii (c := '\x60') (by decide), if_true, if_neg hn, pure_eq]

theorem quotedName_double (h : LeftAt raw i ('\x60' :: '\x60' :: cs)) :
    quotedName raw i = quotedName raw (i + 2) >>= fun p => result (.ok ('\x60' :: p.1, p.2)) := by
  obtain ⟨b, hb, hc⟩ := getElem?_bytes h
  have hn : (bytes raw)[i + 1]?.map byteChar = some '\x60' :=
    (map_byteChar_eq (by decide) h.tail).mpr rfl
  rw [quotedName, hb]
  simp only [hc, leadByte_of_ascii (c := '\x60') (by decide), if_true, hn, pure_eq]

theorem quotedName_char (h : LeftAt raw i (c :: cs)) (hq : c ≠ '\x60') :
    quotedName raw i =
      quotedName raw (i + c.utf8Size) >>= fun p => result (.ok (c :: p.1, p.2)) := by
  obtain ⟨b, hb, hc⟩ := getElem?_bytes h
  rw [quotedName, hb]
  have hl : Lexeme.leadByte c ≠ '\x60' := mt (leadByte_eq_iff (by decide)).mp hq
  simp only [hc, if_neg hl, slice, h.slice_all, given_some, result_ok_bind, String.toList_ofList,
    List.headD_cons, pure_eq]

theorem quotedName_eq (h : LeftAt raw i cs) :
    quotedName raw i = result (match Lexeme.untilQuote '\x60' cs with
      | none => .error .unterminatedIdentifier
      | some (name, read, _) => .ok (name, i + utf8Len read)) := by
  fun_induction Lexeme.untilQuote '\x60' cs generalizing i with
  | case1 =>
    rw [quotedName, h.getElem?_end]
    rfl
  | case2 => exact quotedName_close h (by simp)
  | case3 c hc =>
    rw [quotedName_char h hc, quotedName, h.tail.getElem?_end]
    rfl
  | case4 rest ih =>
    have ht : LeftAt raw (i + 2) rest := h.tail.tail
    rw [quotedName_double h, ih ht]
    cases Lexeme.untilQuote '\x60' rest with
    | none => rfl
    | some r => simp [show '\x60'.utf8Size = 1 from rfl, Nat.add_assoc, Nat.add_comm 2]
  | case5 d rest hd => exact quotedName_close h (by simpa using hd)
  | case6 c d rest hc ih =>
    rw [quotedName_char h hc, ih h.tail]
    cases Lexeme.untilQuote '\x60' (d :: rest) with
    | none => rfl
    | some r => simp [Nat.add_assoc, Nat.add_comm c.utf8Size]

/-- Bytes that are no quotes are passed. -/
theorem literalEnd_pass {n : Nat} (h : ∀ k < n, ∃ b, (bytes raw)[i + k]? = some b ∧
    byteChar b ≠ '\'') : literalEnd raw i = literalEnd raw (i + n) := by
  induction n with
  | zero => rfl
  | succ n ih =>
    obtain ⟨b, hb, hq⟩ := h n (Nat.lt_succ_self n)
    rw [ih fun k hk => h k (Nat.lt_succ_of_lt hk), literalEnd, hb]
    simp only [if_neg hq]
    rfl

theorem literalEnd_char (h : LeftAt raw i (c :: cs)) (hq : c ≠ '\'') :
    literalEnd raw i = literalEnd raw (i + c.utf8Size) := by
  obtain ⟨b, bs, he, hb, hbs⟩ := encode_eq c
  have hlen : bs.length + 1 = c.utf8Size := by
    rw [← String.length_utf8EncodeChar, he, List.length_cons]
  refine literalEnd_pass fun k hk => ?_
  rw [h.getElem? hk, he]
  cases k with
  | zero => exact ⟨b, rfl, by rw [hb]; exact mt (leadByte_eq_iff (by decide)).mp hq⟩
  | succ k =>
    have hk' : k < bs.length := by omega
    refine ⟨bs[k], List.getElem?_eq_getElem hk', fun hc => ?_⟩
    have hd := hbs _ (List.getElem_mem hk')
    rw [← toNat_byteChar, hc] at hd
    exact absurd hd (by decide)

theorem literalEnd_close (h : LeftAt raw i ('\'' :: cs)) (hd : cs.head? ≠ some '\'') :
    literalEnd raw i = result (.ok (i + 1)) := by
  obtain ⟨b, hb, hc⟩ := getElem?_bytes h
  have hn : (bytes raw)[i + 1]?.map byteChar ≠ some '\'' :=
    mt (map_byteChar_eq (by decide) h.tail).mp hd
  rw [literalEnd, hb]
  simp only [hc, leadByte_of_ascii (c := '\'') (by decide), if_true, if_neg hn, pure_eq]

theorem literalEnd_double (h : LeftAt raw i ('\'' :: '\'' :: cs)) :
    literalEnd raw i = literalEnd raw (i + 2) := by
  obtain ⟨b, hb, hc⟩ := getElem?_bytes h
  have hn : (bytes raw)[i + 1]?.map byteChar = some '\'' :=
    (map_byteChar_eq (by decide) h.tail).mpr rfl
  rw [literalEnd, hb]
  simp only [hc, leadByte_of_ascii (c := '\'') (by decide), if_true, hn]

theorem literalEnd_eq (h : LeftAt raw i cs) :
    literalEnd raw i = result (match Lexeme.untilQuote '\'' cs with
      | none => .error .unterminatedLiteral
      | some (_, read, _) => .ok (i + utf8Len read)) := by
  fun_induction Lexeme.untilQuote '\'' cs generalizing i with
  | case1 =>
    rw [literalEnd, h.getElem?_end]
    rfl
  | case2 => exact literalEnd_close h (by simp)
  | case3 c hc =>
    rw [literalEnd_char h hc, literalEnd, h.tail.getElem?_end]
    rfl
  | case4 rest ih =>
    have ht : LeftAt raw (i + 2) rest := h.tail.tail
    rw [literalEnd_double h, ih ht]
    cases Lexeme.untilQuote '\'' rest with
    | none => rfl
    | some r => simp [show '\''.utf8Size = 1 from rfl, Nat.add_assoc, Nat.add_comm 2]
  | case5 d rest hd => exact literalEnd_close h (by simpa using hd)
  | case6 c d rest hc ih =>
    rw [literalEnd_char h hc, ih h.tail]
    cases Lexeme.untilQuote '\'' (d :: rest) with
    | none => rfl
    | some r => simp [Nat.add_assoc, Nat.add_comm c.utf8Size]

/-! ### Tokens -/

/-- The token at the offset is what is read there from the characters. -/
def ReadsAs (raw : String) (i : Nat) (c : Char) :
    Except TypeError (Option (List Char × TypeToken × List Char)) → Prop
  | .error e => tokenAt raw i c = result (.error e)
  | .ok none => False
  | .ok (some (text, token, _)) => tokenAt raw i c = result (.ok (token, i + utf8Len text))

theorem slice_eq {read rest : List Char} (h : LeftAt raw i (read ++ rest)) :
    slice raw i (i + utf8Len read) = result (.ok (String.ofList read)) := by
  rw [slice, h.slice, given_some]

theorem slice_all (h : LeftAt raw i cs) :
    slice raw i (bytes raw).length = result (.ok (String.ofList cs)) := by
  rw [slice, h.slice_all, given_some]

/-- Characters that go on with a token are passed, and sliced out. -/
theorem skipWhile_cons (hp : AsciiOnly p) (hc : p c = true) (h : LeftAt raw i (c :: cs)) :
    skipWhile p raw i = result (.ok (i + utf8Len (c :: cs.takeWhile p))) ∧
      slice raw i (i + utf8Len (c :: cs.takeWhile p)) =
        result (.ok (String.ofList (c :: cs.takeWhile p))) := by
  constructor
  · rw [skipWhile_eq hp h, List.takeWhile_cons_of_pos hc]
  · rw [← List.takeWhile_append_dropWhile (p := p) (l := cs), ← List.cons_append] at h
    exact slice_eq h

theorem tokenAt_eq (h : LeftAt raw i cs) (hc : cs.head? = some c) :
    ReadsAs raw i (Lexeme.leadByte c) (Lexeme.next cs) := by
  fun_cases Lexeme.next cs with
  | case1 => cases hc
  | case2 | case3 | case4 | case5 | case6 => cases hc; rfl
  | case7 rest _ _ _ _ _ hu =>
    cases hc
    have hq := quotedName_eq (i := i + 1) h.tail
    rw [hu] at hq
    change quotedName raw (i + 1) >>= _ = _
    rw [hq, result_error_bind]
  | case8 rest name read r _ _ _ _ _ hu =>
    cases hc
    have hq := quotedName_eq (i := i + 1) h.tail
    have hi : i + 1 + utf8Len read = i + (utf8Len read + 1) := by omega
    rw [hu] at hq
    change quotedName raw (i + 1) >>= _ = result (.ok (_, i + (utf8Len read + 1)))
    rw [hq, result_ok_bind, hi]
    rfl
  | case9 rest _ _ _ _ _ _ hu =>
    cases hc
    have hq := literalEnd_eq (i := i + 1) h.tail
    rw [hu] at hq
    change literalEnd raw (i + 1) >>= _ = _
    rw [hq, result_error_bind]
  | case10 rest _ read r _ _ _ _ _ _ hu =>
    cases hc
    have hq := literalEnd_eq (i := i + 1) h.tail
    have hi : i + 1 + utf8Len read = i + (utf8Len read + 1) := by omega
    rw [hu] at hq
    change literalEnd raw (i + 1) >>= _ = result (.ok (_, i + (utf8Len read + 1)))
    rw [hq, result_ok_bind, hi]
    rfl
  | case11 rest hs =>
    cases hc
    have ht : LeftAt raw (i + 1) rest := h.tail
    change slice raw (i + 1) (bytes raw).length >>= _ = _
    rw [slice_all ht, result_ok_bind, String.toList_ofList, offsetOf?_eq, hs]
    rfl
  | case12 rest name r hs =>
    cases hc
    have ht : LeftAt raw (i + 1) rest := h.tail
    change slice raw (i + 1) (bytes raw).length >>= _ = _
    rw [slice_all ht, result_ok_bind, String.toList_ofList, offsetOf?_eq, hs]
    change slice raw (i + 1) (i + 1 + utf8Len name) >>= _ = _
    rw [splitFirstChars_append hs] at ht
    rw [slice_eq ht, result_ok_bind, String.utf8Len_cons, String.utf8Len_append]
    rfl
  | case13 c rest _ _ _ _ _ _ _ _ hd text hn =>
    cases hc
    subst text
    obtain ⟨hw, hs⟩ := skipWhile_cons asciiOnly_isDigit hd h
    rw [leadByte_of_ascii (asciiOnly_isDigit c hd)]
    simp only [ReadsAs, tokenAt, *, if_false, if_true, result_ok_bind, String.toList_ofList,
      throw_eq]
  | case14 c rest _ _ _ _ _ _ _ _ hd text n hn =>
    cases hc
    subst text
    obtain ⟨hw, hs⟩ := skipWhile_cons asciiOnly_isDigit hd h
    rw [leadByte_of_ascii (asciiOnly_isDigit c hd)]
    simp only [ReadsAs, tokenAt, *, if_false, if_true, result_ok_bind, String.toList_ofList,
      pure_eq]
  | case15 c rest _ _ _ _ _ _ _ _ hd hl text =>
    cases hc
    subst text
    have hw : Lexeme.isWordChar c = true := Lexeme.isWordChar_of_isLetter hl
    obtain ⟨hw, hs⟩ := skipWhile_cons asciiOnly_isWordChar hw h
    rw [leadByte_of_ascii (asciiOnly_isLetter c hl)]
    simp only [ReadsAs, tokenAt, *, if_false, if_true, result_ok_bind, pure_eq]
    rfl
  | case16 c rest h₁ h₂ h₃ h₄ h₅ h₆ h₇ h₈ hd hl =>
    cases hc
    have hn {q : Char} (hq : q.toNat < 128) (hc : ¬ c = q) : ¬ Lexeme.leadByte c = q :=
      mt (leadByte_eq_iff hq).mp hc
    rw [← asciiOnly_isDigit.leadByte] at hd
    have hl' := asciiOnly_isLetter.leadByte c
    rw [ReadsAs, tokenAt, if_neg (hn (by decide) h₁), if_neg (hn (by decide) h₂),
      if_neg (hn (by decide) h₃), if_neg (hn (by decide) h₄), if_neg (hn (by decide) h₅),
      if_neg (hn (by decide) h₆), if_neg (hn (by decide) h₇), if_neg (hn (by decide) h₈),
      if_neg hd, if_neg (by rwa [hl']), throw_eq]

/-- The tokens of lexemes that begin at the offset. -/
def placed (i : Nat) : List Lexeme → List Token
  | [] => []
  | l :: ls =>
    let start := i + utf8Len l.gap
    let stop := start + utf8Len l.text
    ⟨l.token, start, stop⟩ :: placed stop ls

theorem tokensFrom_gap (h : LeftAt raw i cs) (rounds : Nat) :
    tokensFrom raw (rounds + (cs.takeWhile Lexeme.isGap).length) i =
      tokensFrom raw rounds (i + utf8Len (cs.takeWhile Lexeme.isGap)) := by
  induction cs generalizing i with
  | nil => rfl
  | cons c cs ih =>
    cases hg : Lexeme.isGap c with
    | false => rw [List.takeWhile_cons_of_neg (by simp [hg])]; rfl
    | true =>
      obtain ⟨b, hb, hc⟩ := getElem?_bytes h
      have ht := h.tail
      rw [asciiOnly_isGap.utf8Size hg] at ht
      rw [List.takeWhile_cons_of_pos hg, String.utf8Len_cons, asciiOnly_isGap.utf8Size hg,
        Nat.add_comm _ 1, ← Nat.add_assoc i, ← ih ht, List.length_cons, ← Nat.add_assoc,
        tokensFrom, if_pos (lt_length h), hb, given_some, result_ok_bind, hc,
        asciiOnly_isGap.leadByte, if_pos hg]

theorem tokensFrom_end (h : LeftAt raw i []) (rounds : Nat) :
    tokensFrom raw (rounds + 1) i = result (.ok []) := by
  have hl := h.length
  rw [String.utf8Len_nil, Nat.add_zero] at hl
  rw [tokensFrom, if_neg (by omega)]
  rfl

theorem tokensFrom_token (h : LeftAt raw i (c :: cs)) (hg : Lexeme.isGap c = false)
    (rounds : Nat) :
    tokensFrom raw (rounds + 1) i = tokenAt raw i (Lexeme.leadByte c) >>= fun p =>
      tokensFrom raw rounds p.2 >>= fun rest => result (.ok (⟨p.1, i, p.2⟩ :: rest)) := by
  obtain ⟨b, hb, hc⟩ := getElem?_bytes h
  have hg' : ¬ Lexeme.isGap (Lexeme.leadByte c) = true := by
    rw [asciiOnly_isGap.leadByte, hg]
    exact Bool.false_ne_true
  rw [tokensFrom, if_pos (lt_length h), hb, given_some, result_ok_bind, hc, if_neg hg']
  rfl

/-- With a round for each character and one more, the bytes are cut into the lexemes of the
characters. -/
theorem tokensFrom_eq {fuel rounds : Nat} (h : LeftAt raw i cs) (hf : cs.length ≤ fuel)
    (hr : cs.length < rounds) :
    tokensFrom raw rounds i = result ((Lexeme.scan fuel cs).map (placed i)) := by
  induction fuel generalizing i cs rounds with
  | zero =>
    obtain rfl := List.length_eq_zero_iff.mp (Nat.le_zero.mp hf)
    obtain ⟨rounds, rfl⟩ := Nat.exists_eq_add_one.mpr hr
    exact tokensFrom_end h rounds
  | succ fuel ih =>
    have hs : LeftAt raw (i + utf8Len (cs.takeWhile Lexeme.isGap)) (cs.dropWhile Lexeme.isGap) := by
      apply LeftAt.advance
      rwa [List.takeWhile_append_dropWhile]
    -- The rounds over the gap leave enough for what follows it.
    obtain ⟨more, rfl, hmore⟩ : ∃ more,
        rounds = more + 1 + (cs.takeWhile Lexeme.isGap).length ∧
          (cs.dropWhile Lexeme.isGap).length ≤ more := by
      have hlen := congrArg List.length
        (List.takeWhile_append_dropWhile (p := Lexeme.isGap) (l := cs))
      rw [List.length_append] at hlen
      exact ⟨rounds - 1 - (cs.takeWhile Lexeme.isGap).length, by omega, by omega⟩
    rw [tokensFrom_gap h, Lexeme.scan]
    generalize hn : Lexeme.next (cs.dropWhile Lexeme.isGap) = found
    cases hr : cs.dropWhile Lexeme.isGap with
    | nil =>
      rw [hr] at hs hn
      rw [tokensFrom_end hs, ← hn]
      rfl
    | cons c rest =>
      have hg : Lexeme.isGap c = false := head_dropWhile Lexeme.isGap cs c (by rw [hr]; rfl)
      rw [hr] at hs hmore
      have ht := tokenAt_eq hs rfl
      rw [← hr, hn] at ht
      rw [tokensFrom_token hs hg]
      match found with
      | .error e =>
        rw [show tokenAt _ _ _ = _ from ht]
        rfl
      | .ok none => exact ht.elim
      | .ok (some (text, token, left)) =>
        obtain ⟨he, -, -⟩ := Lexeme.spells_of_next hn
        rw [hr, ← List.dropWhile_cons_of_neg (p := Lexeme.isGap) (by simp [hg])] at hn
        have hl := Lexeme.length_of_next hn
        rw [hr] at he
        have hd : (c :: rest).length ≤ cs.length := by
          rw [← hr]
          exact (List.dropWhile_suffix Lexeme.isGap).length_le
        rw [he] at hs
        rw [show tokenAt _ _ _ = _ from ht, result_ok_bind, ih hs.advance (by omega) (by omega)]
        dsimp only
        cases Lexeme.scan fuel left with
        | error e => rfl
        | ok ls => rfl

/-- Reading a text by its bytes gives its lexemes, each with its place. -/
theorem tokens_eq (raw : String) :
    tokens raw = result ((Lexeme.ofText raw).map (placed 0)) := by
  have hlen := (leftAt_zero raw).length
  have hle := length_le_utf8Len raw.toList
  exact tokensFrom_eq (leftAt_zero raw) (Nat.le_of_eq String.length_toList) (by omega)

end TypeText

end StreamPipeline
