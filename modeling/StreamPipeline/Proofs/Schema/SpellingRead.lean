import StreamPipeline.Proofs.Schema.Spelling

/-! # Spellings read back

Each spelling of a type is read as that type, wherever what follows cannot belong to it. By
induction on the spelling: the reader takes the lexemes of the type and leaves those of the rest.
-/

namespace StreamPipeline

open Lexeme TypeParser

/-! ### What may follow -/

theorem apart_append {cs ds rest : List Char} (h : Apart cs ds)
    (hr : ∀ b ∈ rest.head?, isWordChar b = false) : Apart cs (ds ++ rest) := by
  intro a ha hw b hb
  cases ds with
  | nil => exact hr b hb
  | cons d ds => exact h a ha hw b hb

theorem apart_right {cs ds rest : List Char} (h : Apart (cs ++ ds) rest) (hne : ds ≠ []) :
    Apart ds rest := by
  intro a ha
  refine h a ?_
  obtain ⟨d, hd⟩ := List.getLast?_isSome.mpr hne |> Option.isSome_iff_exists.mp
  simpa [List.getLast?_append, hd] using ha

theorem head_of_blanks (g : Blanks) : ∀ b ∈ g.chars.head?, isWordChar b = false := by
  intro b hb
  have hg := g.blank b (List.mem_of_mem_head? hb)
  cases hw : isWordChar b with
  | false => rfl
  | true => rw [not_isGap_of_isWordChar hw] at hg; cases hg

/-- Blanks in front of a character that belongs to no word. -/
theorem head_blanks (g : Blanks) {c : Char} (hc : isWordChar c = false) (rest : List Char) :
    ∀ b ∈ (g.chars ++ c :: rest).head?, isWordChar b = false := by
  intro b hb
  rw [List.head?_append] at hb
  rcases Option.or_eq_some_iff.mp hb with hb | ⟨-, hb⟩
  · exact head_of_blanks g b hb
  · cases hb; exact hc

/-- Lexemes that cannot belong to a type in front of them. -/
def Stops (t : LogicalType) (ls : List Lexeme) : Prop :=
  ∀ l ∈ ls.head?, endsUnknown 0 l.token = true ∨ (l.token = .literal ∧ ∀ raw, t ≠ .unsupported raw)

theorem stops_nil (t : LogicalType) : Stops t [] := by rintro _ ⟨⟩

/-- The text is read as the type in front of a rest with the given lexemes. -/
def ReadsBefore (t : LogicalType) (cs rest : List Char) (ls : List Lexeme) : Prop :=
  ∀ g : Blanks, ∃ ms, Scans (g ++ (cs ++ rest)) (ms ++ ls) ∧
    ∀ fuel, (ms ++ ls).length ≤ fuel → type fuel (ms ++ ls) = .ok (t, ls)

/-- The text is read as the type in front of all that cannot belong to it. -/
def Reads (t : LogicalType) (cs : List Char) : Prop :=
  ∀ rest ls, Scans rest ls → Apart cs rest → Stops t ls → ReadsBefore t cs rest ls

/-! ### Words and numbers -/

/-- A word that reads as itself. -/
def Lexeme.isPlainWord (word : String) : Bool :=
  match word.toList with
  | [] => false
  | c :: cs => (c.isAlpha || c == '_') && cs.all isWordChar && Text.upperAscii word == word

theorem spells_plain {w : String} (hw : isPlainWord w = true) : Spells w.toList (.word w) := by
  unfold isPlainWord at hw
  cases he : w.toList with
  | nil => simp [he] at hw
  | cons c cs =>
    simp only [he, Bool.and_eq_true, beq_iff_eq, List.all_eq_true] at hw
    obtain ⟨⟨hc, hs⟩, hu⟩ := hw
    have h := Spells.word hc hs
    rwa [← he, String.ofList_toList, hu, he] at h

theorem spells_toDigits {n : Nat} (hn : n ≤ 4294967295) :
    Spells (Nat.toDigits 10 n) (.number (UInt32.ofNat n)) := by
  have hv := Text.unsignedUpTo?_toDigits hn
  have hd : ∀ c ∈ Nat.toDigits 10 n, c.isDigit = true := fun c hc =>
    Nat.isDigit_of_mem_toDigits (by omega) (by omega) hc
  have hne : Nat.toDigits 10 n ≠ [] := Nat.toDigits_ne_nil
  generalize Nat.toDigits 10 n = digits at hv hd hne
  cases digits with
  | nil => exact absurd rfl hne
  | cons c cs => exact .number hd hv

theorem isWordChar_of_isPlainWord {w : String} (hw : isPlainWord w = true) :
    ∃ a ∈ w.toList.getLast?, isWordChar a = true :=
  (spells_plain hw).getLast (.inr ⟨w, rfl⟩)

/-! ### The lexemes of a spelling -/

def keyword (g : Blanks) (w : String) : Lexeme := ⟨g, w.toList, .word w⟩

def digits (g : Blanks) (n : Nat) : Lexeme := ⟨g, Nat.toDigits 10 n, .number (UInt32.ofNat n)⟩

def mark (g : Blanks) (c : Char) (t : TypeToken) : Lexeme := ⟨g, [c], t⟩

section Scans

variable {rest : List Char} {ls : List Lexeme}

theorem scans_keyword (g : Blanks) {w : String} (hw : isPlainWord w = true)
    (hr : ∀ b ∈ rest.head?, isWordChar b = false) (hs : Scans rest ls) :
    Scans (g ++ (w.toList ++ rest)) (keyword g w :: ls) :=
  hs.spelled g.blank (spells_plain hw) hr

theorem scans_digits (g : Blanks) {n : Nat} (hn : n ≤ 4294967295)
    (hr : ∀ b ∈ rest.head?, isWordChar b = false) (hs : Scans rest ls) :
    Scans (g ++ (Nat.toDigits 10 n ++ rest)) (digits g n :: ls) := by
  refine hs.spelled g.blank (spells_toDigits hn) fun b hb => ?_
  have hw := hr b hb
  cases hd : b.isDigit with
  | false => exact hd
  | true => rw [isWordChar_of_isDigit hd] at hw; cases hw

theorem scans_mark (g : Blanks) {c : Char} {t : TypeToken} (ht : Spells [c] t)
    (he : ∀ a, continues t a = false) (hs : Scans rest ls) :
    Scans (g ++ c :: rest) (mark g c t :: ls) :=
  hs.spelled g.blank ht fun a _ => he a

end Scans

/-- The lexemes of a number in parentheses, with blanks. -/
def spacedSize (g₁ g₂ g₃ : Blanks) (n : Nat) : List Lexeme :=
  [mark g₁ '(' .lparen, digits g₂ n, mark g₃ ')' .rparen]

theorem scans_parenthesised (g₁ g₂ g₃ : Blanks) {n : Nat} (hn : n ≤ 4294967295) {rest : List Char}
    {ls : List Lexeme} (hs : Scans rest ls) :
    Scans (LogicalType.parenthesised g₁ g₂ g₃ n ++ rest) (spacedSize g₁ g₂ g₃ n ++ ls) := by
  have hclose := scans_mark g₃ .rparen (fun _ => rfl) hs
  have hnumber := scans_digits g₂ hn (head_blanks g₃ rfl rest) hclose
  have hopen := scans_mark g₁ .lparen (fun _ => rfl) hnumber
  simpa [LogicalType.parenthesised, spacedSize] using hopen

/-- The lexemes of two numbers in parentheses, with blanks. -/
def spacedSizes (g₁ g₂ g₃ g₄ g₅ : Blanks) (m n : Nat) : List Lexeme :=
  [mark g₁ '(' .lparen, digits g₂ m, mark g₃ ',' .comma, digits g₄ n, mark g₅ ')' .rparen]

theorem scans_parenthesised₂ (g₁ g₂ g₃ g₄ g₅ : Blanks) {m n : Nat} (hm : m ≤ 4294967295)
    (hn : n ≤ 4294967295) {rest : List Char} {ls : List Lexeme} (hs : Scans rest ls) :
    Scans (LogicalType.parenthesised₂ g₁ g₂ g₃ g₄ g₅ m n ++ rest)
      (spacedSizes g₁ g₂ g₃ g₄ g₅ m n ++ ls) := by
  have hclose := scans_mark g₅ .rparen (fun _ => rfl) hs
  have hsecond := scans_digits g₄ hn (head_blanks g₅ rfl rest) hclose
  have hcomma := scans_mark g₃ .comma (fun _ => rfl) hsecond
  have hfirst := scans_digits g₂ hm (head_blanks g₃ rfl _) hcomma
  have hopen := scans_mark g₁ .lparen (fun _ => rfl) hfirst
  simpa [LogicalType.parenthesised₂, spacedSizes] using hopen

/-! ### What a reader finds in front of a stop -/

theorem takeWord_of_stops {t : LogicalType} {ls : List Lexeme} (h : Stops t ls) {w : String}
    (hw : (w == "NOT" || w == "NULL") = false) : takeWord w ls = (false, ls) := by
  cases ls with
  | nil => rfl
  | cons l ls =>
    refine if_neg fun hl => ?_
    rcases h l rfl with he | ⟨he, -⟩
    · simp [endsUnknown, hl, hw] at he
    · rw [hl] at he; cases he

theorem optLength_of_stops {t : LogicalType} {ls : List Lexeme} (h : Stops t ls) :
    optLength ls = .ok (none, ls) := by
  unfold optLength
  split
  next rest =>
    rcases h _ rfl with he | ⟨he, -⟩ <;> cases he
  next => rfl

theorem optPrecision_of_stops {t : LogicalType} {ls : List Lexeme} (h : Stops t ls) :
    optPrecision ls = .ok (none, ls) := by
  unfold optPrecision
  rw [optLength_of_stops h]
  rfl

theorem withoutTimeZone_of_stops {t : LogicalType} {ls : List Lexeme} (h : Stops t ls) :
    withoutTimeZone ls = .ok (false, ls) := by
  unfold withoutTimeZone
  rw [takeWord_of_stops h rfl]

theorem optLength_spacedSize (g₁ g₂ g₃ : Blanks) (n : Nat) (ls : List Lexeme) :
    optLength (spacedSize g₁ g₂ g₃ n ++ ls) = .ok (some (UInt32.ofNat n), ls) := by
  simp [spacedSize, mark, digits, optLength, number, expect, bind, Except.bind]

theorem optPrecision_spacedSize (g₁ g₂ g₃ : Blanks) (p : UInt8) (ls : List Lexeme) :
    optPrecision (spacedSize g₁ g₂ g₃ p.toNat ++ ls) = .ok (some p, ls) := by
  simp [optPrecision, optLength_spacedSize, bind, Except.bind]

namespace LogicalType

theorem isPlainWord_of_word? {t : LogicalType} {w : String} (h : t.word? = some w) :
    isPlainWord w = true := by
  unfold word? at h
  split at h <;> cases h <;> rfl

theorem precision_le (p : UInt8) : p.toNat ≤ 4294967295 := by
  have := p.toNat_lt
  omega

theorem isPlainWord_of_sized? {t : LogicalType} {w : String} {n : Nat}
    (h : t.sized? = some (w, n)) : isPlainWord w = true ∧ n ≤ 4294967295 := by
  unfold sized? at h
  split at h <;> cases h
  all_goals refine ⟨rfl, ?_⟩
  all_goals first
    | exact precision_le _
    | exact Nat.le_of_lt_succ (UInt32.toNat_lt _)

theorem simple_of_word? {t : LogicalType} {w : String} (h : t.word? = some w) (l : Lexeme)
    {ls : List Lexeme} (hs : Stops t ls) : simple w (l :: ls) ls = some (.ok (t, ls)) := by
  unfold word? at h
  split at h <;> cases h
  all_goals simp [simple, TypeParser.timestamp, takeWord_of_stops hs, optPrecision_of_stops hs,
    withoutTimeZone_of_stops hs, bind, Except.bind]

theorem simple_of_sized? {t : LogicalType} {w : String} {n : Nat} (h : t.sized? = some (w, n))
    (hb : t.Bounded) (l : Lexeme) (g₁ g₂ g₃ : Blanks) {ls : List Lexeme} (hs : Stops t ls) :
    simple w (l :: (spacedSize g₁ g₂ g₃ n ++ ls)) (spacedSize g₁ g₂ g₃ n ++ ls) =
      some (.ok (t, ls)) := by
  unfold sized? at h
  split at h <;> cases h
  case h_5 | h_7 =>
    simp [simple, optLength_spacedSize, boundedLength_of_ne hb, bind, Except.bind]
  all_goals simp [simple, TypeParser.timestamp, optLength_spacedSize, optPrecision_spacedSize,
    takeWord_of_stops hs, withoutTimeZone_of_stops hs, bind, Except.bind]

/-! ### Scalars -/

theorem type_of_simple {l : Lexeme} {ts rest : List Lexeme} {w : String} {t : LogicalType}
    (hl : l.token = .word w) (hs : simple w (l :: ts) ts = some (.ok (t, rest))) {fuel : Nat}
    (hf : (l :: ts).length ≤ fuel) : type fuel (l :: ts) = .ok (t, rest) := by
  cases fuel with
  | zero => cases hf
  | succ fuel =>
    rw [type]
    simp only [hl, hs]

theorem reads_word {t : LogicalType} {w : String} (h : t.word? = some w) : Reads t w.toList := by
  intro rest ls hs ha hstop g
  have hw := isPlainWord_of_word? h
  obtain ⟨a, hl, hc⟩ := isWordChar_of_isPlainWord hw
  exact ⟨[keyword g w], scans_keyword g hw (ha a hl hc) hs, fun fuel hf =>
    type_of_simple rfl (simple_of_word? h _ hstop) hf⟩

theorem reads_sized {t : LogicalType} {w : String} {n : Nat} (g₁ g₂ g₃ : Blanks)
    (h : t.sized? = some (w, n)) (hb : t.Bounded) :
    Reads t (w.toList ++ parenthesised g₁ g₂ g₃ n) := by
  intro rest ls hs _ hstop g
  obtain ⟨hw, hn⟩ := isPlainWord_of_sized? h
  have hend : ∀ b ∈ (parenthesised g₁ g₂ g₃ n ++ rest).head?, isWordChar b = false := by
    rw [parenthesised, List.append_assoc]
    exact head_blanks g₁ rfl _
  refine ⟨keyword g w :: spacedSize g₁ g₂ g₃ n, ?_, fun fuel hf => ?_⟩
  · rw [List.append_assoc]
    exact scans_keyword g hw hend (scans_parenthesised g₁ g₂ g₃ hn hs)
  · exact type_of_simple rfl (simple_of_sized? h hb _ g₁ g₂ g₃ hstop) hf

theorem reads_decimal (g₁ g₂ g₃ g₄ g₅ : Blanks) (p s : UInt8) : Reads (.decimal p s)
    ("DECIMAL".toList ++ parenthesised₂ g₁ g₂ g₃ g₄ g₅ p.toNat s.toNat) := by
  intro rest ls hs _ _ g
  have hend : ∀ b ∈ (parenthesised₂ g₁ g₂ g₃ g₄ g₅ p.toNat s.toNat ++ rest).head?,
      isWordChar b = false := by
    rw [parenthesised₂, List.append_assoc]
    exact head_blanks g₁ rfl _
  refine ⟨keyword g "DECIMAL" :: spacedSizes g₁ g₂ g₃ g₄ g₅ p.toNat s.toNat, ?_, fun fuel hf => ?_⟩
  · rw [List.append_assoc]
    exact scans_keyword g rfl hend (scans_parenthesised₂ g₁ g₂ g₃ g₄ g₅ (precision_le p)
      (precision_le s) hs)
  · refine type_of_simple (w := "DECIMAL") rfl ?_ hf
    simp [simple, decimalSize, number, expect, spacedSizes, mark, digits, bind, Except.bind]

end LogicalType

/-! ### What stands beside a type -/

/-- What is said about null is read, and nothing else. -/
theorem nullability_text (ns : NullText) {t : LogicalType} {rest : List Char} {ls : List Lexeme}
    (hs : Scans rest ls) (hr : ∀ b ∈ rest.head?, isWordChar b = false) (hstop : Stops t ls)
    (hl : ∀ l ∈ ls.head?, l.token ≠ .word "NOT" ∧ l.token ≠ .word "NULL") :
    ∃ ms, Scans (ns.chars ++ rest) (ms ++ ls) ∧ Stops t (ms ++ ls) ∧
      nullability (ms ++ ls) = .ok (ns.nullable, ls) := by
  have hnull (g : Blanks) : Scans (g ++ ("NULL".toList ++ rest)) (keyword g "NULL" :: ls) :=
    scans_keyword g rfl hr hs
  cases ns with
  | unsaid =>
    refine ⟨[], hs, hstop, ?_⟩
    cases ls with
    | nil => rfl
    | cons l ls =>
      obtain ⟨hnot, hnull⟩ := hl l rfl
      simp [nullability, hnot, hnull, NullText.nullable]
  | null g =>
    refine ⟨[keyword g "NULL"], ?_, ?_, ?_⟩
    · rw [NullText.chars, List.append_assoc]
      exact hnull g
    · rintro _ ⟨⟩; exact .inl rfl
    · simp [nullability, keyword, NullText.nullable]
  | notNull g b hb =>
    have hend : ∀ a ∈ (b ++ ("NULL".toList ++ rest)).head?, isWordChar a = false := by
      intro a ha
      obtain ⟨c, cs, hc⟩ := List.exists_cons_of_ne_nil hb
      refine head_of_blanks b a ?_
      simpa [hc] using ha
    refine ⟨[keyword g "NOT", keyword b "NULL"], ?_, ?_, ?_⟩
    · simp only [NullText.chars, List.append_assoc]
      exact scans_keyword g rfl hend (hnull b)
    · rintro _ ⟨⟩; exact .inl rfl
    · simp [nullability, keyword, expect, NullText.nullable, bind, Except.bind]

/-- The separators behind a nested type. -/
inductive Separates : Char → TypeToken → Prop where
  | comma : Separates ',' .comma
  | angle : Separates '>' .gt
  | round : Separates ')' .rparen

namespace Separates

variable {c : Char} {tok : TypeToken}

theorem isWordChar_eq (h : Separates c tok) : isWordChar c = false := by cases h <;> rfl

theorem scans (h : Separates c tok) (g : Blanks) {rest : List Char} {ls : List Lexeme}
    (hs : Scans rest ls) : Scans (g ++ c :: rest) (mark g c tok :: ls) := by
  cases h with
  | comma => exact scans_mark g .comma (fun _ => rfl) hs
  | angle => exact scans_mark g .gt (fun _ => rfl) hs
  | round => exact scans_mark g .rparen (fun _ => rfl) hs

theorem ends (h : Separates c tok) : endsUnknown 0 tok = true := by cases h <;> rfl

theorem ne (h : Separates c tok) : tok ≠ .word "NOT" ∧ tok ≠ .word "NULL" ∧ tok ≠ .literal := by
  cases h <;> exact ⟨by rintro ⟨⟩, by rintro ⟨⟩, by rintro ⟨⟩⟩

end Separates

/-- A comment is dropped, and nothing else. -/
theorem dropLiteral_text (k : CommentText) {t : LogicalType}
    (hk : k ≠ .unsaid → ∀ raw, t ≠ .unsupported raw) {c : Char} {tok : TypeToken}
    (hc : Separates c tok) (g : Blanks) {rest : List Char} {ls : List Lexeme} (hs : Scans rest ls) :
    ∃ ms, Scans (k.chars ++ (g ++ c :: rest)) (ms ++ mark g c tok :: ls) ∧
      Stops t (ms ++ mark g c tok :: ls) ∧
      dropLiteral (ms ++ mark g c tok :: ls) = mark g c tok :: ls ∧
      ∀ l ∈ (ms ++ mark g c tok :: ls).head?, l.token ≠ .word "NOT" ∧ l.token ≠ .word "NULL" := by
  have hsep := hc.scans g hs
  cases k with
  | unsaid =>
    refine ⟨[], hsep, ?_, ?_, ?_⟩
    · rintro _ ⟨⟩; exact .inl hc.ends
    · cases hc <;> rfl
    · rintro _ ⟨⟩; exact ⟨hc.ne.1, hc.ne.2.1⟩
  | literal g' content =>
    have hend : Ends .literal (g ++ c :: rest) := by
      refine hsep.ends_quoted (.inr rfl) ?_
      rintro _ ⟨⟩
      cases hc <;> rfl
    refine ⟨[⟨g', Sql.enclose '\'' content, .literal⟩], ?_, ?_, rfl, ?_⟩
    · rw [CommentText.chars, List.append_assoc]
      exact hsep.spelled g'.blank (.literal content) hend
    · rintro _ ⟨⟩; exact .inr ⟨rfl, hk (by rintro ⟨⟩)⟩
    · rintro _ ⟨⟩; exact ⟨by rintro ⟨⟩, by rintro ⟨⟩⟩

/-! ### Arrays -/

theorem type_array {l m n : Lexeme} {ts ts₁ ts₂ : List Lexeme} {e : LogicalType} {b : Bool}
    {fuel : Nat} (hl : l.token = .word "ARRAY") (hm : m.token = .lt) (hn : n.token = .gt)
    (he : type fuel ts = .ok (e, ts₁)) (hb : nullability ts₁ = .ok (b, n :: ts₂)) :
    type (fuel + 1) (l :: m :: ts) = .ok (.array e, ts₂) := by
  rw [type]
  simp [hl, simple, expect, hm, he, hb, hn, bind, Except.bind]

theorem reads_array {e : LogicalType} {cs : List Char} (h : Reads e cs) (g₁ g₂ g₃ : Blanks)
    (ns : NullText) (ha : Apart cs ns.chars) : Reads (.array e)
      ("ARRAY".toList ++ (g₁ ++ '<' :: (g₂ ++ (cs ++ (ns.chars ++ (g₃ ++ ['>'])))))) := by
  intro rest ls hs _ _ g
  have hclose := Separates.angle.scans g₃ hs
  have hhead := head_blanks g₃ (c := '>') rfl rest
  obtain ⟨ns', hnull, hstop, hread⟩ := nullability_text ns hclose hhead (t := e)
    (by rintro _ ⟨⟩; exact .inl rfl) (by rintro _ ⟨⟩; exact ⟨by rintro ⟨⟩, by rintro ⟨⟩⟩)
  obtain ⟨ms, helement, htype⟩ := h _ _ hnull (apart_append ha hhead) hstop g₂
  have hopen := scans_mark g₁ .lt (fun _ => rfl) helement
  have hword := scans_keyword g (w := "ARRAY") rfl (head_blanks g₁ rfl _) hopen
  refine ⟨keyword g "ARRAY" :: mark g₁ '<' .lt :: (ms ++ (ns' ++ [mark g₃ '>' .gt])), ?_,
    fun fuel hf => ?_⟩
  · simpa using hword
  · simp only [List.cons_append, List.append_assoc, List.nil_append, List.length_cons] at hf ⊢
    cases fuel with
    | zero => cases hf
    | succ fuel => exact type_array rfl rfl rfl (htype fuel (by omega)) hread

/-! ### Rows -/

theorem type_row {l m : Lexeme} {ts : List Lexeme} {fuel : Nat} {close : TypeToken}
    (hl : l.token = .word "ROW")
    (hm : m.token = .lt ∧ close = .gt ∨ m.token = .lparen ∧ close = .rparen) :
    type (fuel + 1) (l :: m :: ts) = row fuel close ts := by
  rw [type]
  rcases hm with ⟨hm, rfl⟩ | ⟨hm, rfl⟩ <;> simp [hl, simple, peek, hm]

section Field

variable {name : String} {t : LogicalType} {b : Bool} {ts ts₁ ts₂ rest : List Lexeme}
  {sep : Lexeme} {fuel : Nat} {close : TypeToken}

/-- A field is read up to the separator behind it. -/
theorem fields_named {n : Lexeme} (hn : fieldName (n :: ts) = .ok (name, ts))
    (ht : type fuel ts = .ok (t, ts₁)) (hb : nullability ts₁ = .ok (b, ts₂))
    (hd : dropLiteral ts₂ = sep :: rest) :
    fields (fuel + 1) close (n :: ts) =
      if sep.token = .comma then (fields fuel close rest).map fun r => ((name, t) :: r.1, r.2)
      else if sep.token = close then .ok ([(name, t)], rest)
      else .error .unterminatedRow := by
  rw [fields]
  simp only [hn, ht, hb, hd, bind, Except.bind, Except.map]

theorem fields_field {gap text : List Char} (ht : type fuel ts = .ok (t, ts₁))
    (hb : nullability ts₁ = .ok (b, ts₂)) (hd : dropLiteral ts₂ = sep :: rest) :
    fields (fuel + 1) close (⟨gap, text, .ident name⟩ :: ts) =
      if sep.token = .comma then (fields fuel close rest).map fun r => ((name, t) :: r.1, r.2)
      else if sep.token = close then .ok ([(name, t)], rest)
      else .error .unterminatedRow :=
  fields_named rfl ht hb hd

end Field

theorem word_of_type {l : Lexeme} {ts rest : List Lexeme} {t : LogicalType} {fuel : Nat}
    (h : type fuel (l :: ts) = .ok (t, rest)) : ∃ w, l.token = .word w := by
  cases fuel with
  | zero => rw [type] at h; cases h
  | succ fuel =>
    rw [type] at h
    split at h
    next w hw => exact ⟨w, hw⟩
    next => cases h

/-- The lexemes of a field in front of a separator: its name, and lexemes from which its type is
read and what is said beside it is dropped. -/
theorem scans_field (f : FieldText) (hf : Reads f.type f.text) {c : Char} {tok : TypeToken}
    (hc : Separates c tok) {rest : List Char} {ls : List Lexeme} (hs : Scans rest ls) :
    ∃ ms, Scans (f.chars ++ c :: rest)
        (⟨f.before, Sql.enclose '\x60' f.name.toList, .ident f.name⟩ ::
          (ms ++ mark f.after c tok :: ls)) ∧
      ∀ fuel, (ms ++ mark f.after c tok :: ls).length ≤ fuel → ∃ ts b ts',
        type fuel (ms ++ mark f.after c tok :: ls) = .ok (f.type, ts) ∧
        nullability ts = .ok (b, ts') ∧ dropLiteral ts' = mark f.after c tok :: ls := by
  obtain ⟨ks, hcomment, hstop, hdrop, hne⟩ := dropLiteral_text f.comment f.known hc f.after hs
  have hhead : ∀ b ∈ (f.comment.chars ++ (f.after ++ c :: rest)).head?, isWordChar b = false := by
    cases f.comment with
    | unsaid => exact head_blanks f.after hc.isWordChar_eq rest
    | literal g content =>
      rw [CommentText.chars, List.append_assoc]
      exact head_blanks g rfl _
  obtain ⟨ns, hnull, hstop, hread⟩ := nullability_text f.nullness hcomment hhead hstop hne
  obtain ⟨ms, htext, htype⟩ := hf _ _ hnull (apart_append f.apart hhead) hstop f.between
  refine ⟨ms ++ (ns ++ ks), ?_, fun fuel hl => ?_⟩
  · -- The name ends there: a type begins with a word, so no other back quote follows.
    have hend : Ends (.ident f.name) (f.between ++ (f.text ++ (f.nullness.chars ++
        (f.comment.chars ++ (f.after ++ c :: rest))))) := by
      have hread := htype _ (Nat.le_refl _)
      generalize ms ++ (ns ++ (ks ++ mark f.after c tok :: ls)) = whole at htext hread
      cases whole with
      | nil => rw [type] at hread; cases hread
      | cons l whole =>
        obtain ⟨w, hw⟩ := word_of_type hread
        refine htext.ends_quoted (.inl rfl) ?_
        rintro _ ⟨⟩
        rw [hw]
        rfl
    have hname := htext.spelled f.before.blank (.ident f.name.toList)
      (by rw [String.ofList_toList]; exact hend)
    rw [String.ofList_toList] at hname
    simpa [FieldText.chars] using hname
  · simp only [List.append_assoc] at hl ⊢
    exact ⟨_, _, _, htype fuel hl, hread, hdrop⟩

theorem scans_join (fs : List FieldText) (hne : fs ≠ []) (hf : ∀ f ∈ fs, Reads f.type f.text)
    {c : Char} {close : TypeToken} (hc : Separates c close) (hcomma : close ≠ .comma)
    {rest : List Char} {ls : List Lexeme} (hs : Scans rest ls) :
    ∃ ms, Scans (FieldText.join fs ++ c :: rest) (ms ++ ls) ∧ peek (ms ++ ls) ≠ some close ∧
      ∀ fuel, (ms ++ ls).length ≤ fuel →
        fields fuel close (ms ++ ls) = .ok (fs.map FieldText.field, ls) := by
  induction fs with
  | nil => exact absurd rfl hne
  | cons f fs ih =>
    have hfirst := hf f (by simp)
    cases fs with
    | nil =>
      obtain ⟨ms, hscan, hread⟩ := scans_field f hfirst hc hs
      refine ⟨⟨f.before, Sql.enclose '\x60' f.name.toList, .ident f.name⟩ ::
        (ms ++ [mark f.after c close]), ?_, ?_, fun fuel hl => ?_⟩
      · simpa [FieldText.join] using hscan
      · cases hc <;> rintro ⟨⟩
      · simp only [List.cons_append, List.append_assoc, List.nil_append, List.length_cons] at hl ⊢
        cases fuel with
        | zero => cases hl
        | succ fuel =>
          obtain ⟨ts, b, ts', ht, hb, hd⟩ := hread fuel (by omega)
          rw [fields_field ht hb hd]
          simp [mark, hcomma, FieldText.field]
    | cons f' fs =>
      obtain ⟨ks, hmore, -, hfields⟩ := ih (by simp) fun g hg => hf g (by simp [hg])
      obtain ⟨ms, hscan, hread⟩ := scans_field f hfirst .comma hmore
      refine ⟨⟨f.before, Sql.enclose '\x60' f.name.toList, .ident f.name⟩ ::
        (ms ++ mark f.after ',' .comma :: ks), ?_, ?_, fun fuel hl => ?_⟩
      · simpa [FieldText.join] using hscan
      · cases hc <;> rintro ⟨⟩
      · simp only [List.cons_append, List.append_assoc, List.length_cons,
          List.length_append] at hl ⊢
        cases fuel with
        | zero => cases hl
        | succ fuel =>
          obtain ⟨ts, b, ts', ht, hb, hd⟩ := hread fuel (by simp; omega)
          rw [fields_field ht hb hd]
          simp [mark, hfields fuel (by simp; omega), FieldText.field, Except.map]

/-- The opening bracket of a row, and the closing one that it asks for. -/
theorem scans_brackets {o c : Char} (hb : RowBrackets o c) : ∃ open_ close : TypeToken,
    (open_ = .lt ∧ close = .gt ∨ open_ = .lparen ∧ close = .rparen) ∧ Separates c close ∧
    isWordChar o = false ∧ ∀ (g : Blanks) {rest : List Char} {ls : List Lexeme}, Scans rest ls →
      Scans (g ++ o :: rest) (mark g o open_ :: ls) := by
  cases hb with
  | angle =>
    exact ⟨.lt, .gt, .inl ⟨rfl, rfl⟩, .angle, rfl,
      fun g _ _ hs => scans_mark g .lt (fun _ => rfl) hs⟩
  | round =>
    exact ⟨.lparen, .rparen, .inr ⟨rfl, rfl⟩, .round, rfl,
      fun g _ _ hs => scans_mark g .lparen (fun _ => rfl) hs⟩

theorem reads_emptyRow (g₁ g₂ : Blanks) {o c : Char} (hb : RowBrackets o c) :
    Reads (.row []) ("ROW".toList ++ (g₁ ++ o :: (g₂ ++ [c]))) := by
  intro rest ls hs _ _ g
  obtain ⟨open_, close, hpair, hc, ho, hopen⟩ := scans_brackets hb
  have hword := scans_keyword g (w := "ROW") rfl (head_blanks g₁ ho _) (hopen g₁ (hc.scans g₂ hs))
  refine ⟨[keyword g "ROW", mark g₁ o open_, mark g₂ c close], by simpa using hword,
    fun fuel hf => ?_⟩
  cases fuel with
  | zero => cases hf
  | succ fuel =>
    rw [List.cons_append, List.cons_append, type_row rfl hpair, row]
    simp [peek, mark]

theorem reads_row {fs : List FieldText} (hne : fs ≠ []) (hf : ∀ f ∈ fs, Reads f.type f.text)
    (g₁ : Blanks) {o c : Char} (hb : RowBrackets o c) : Reads (.row (fs.map FieldText.field))
      ("ROW".toList ++ (g₁ ++ o :: (FieldText.join fs ++ [c]))) := by
  intro rest ls hs _ _ g
  obtain ⟨open_, close, hpair, hc, ho, hopen⟩ := scans_brackets hb
  have hcomma : close ≠ .comma := by
    rcases hpair with ⟨-, rfl⟩ | ⟨-, rfl⟩ <;> rintro ⟨⟩
  obtain ⟨ms, hjoin, hpeek, hfields⟩ := scans_join fs hne hf hc hcomma hs
  have hword := scans_keyword g (w := "ROW") rfl (head_blanks g₁ ho _) (hopen g₁ hjoin)
  refine ⟨keyword g "ROW" :: mark g₁ o open_ :: ms, by simpa using hword, fun fuel hl => ?_⟩
  simp only [List.cons_append, List.length_cons] at hl ⊢
  cases fuel with
  | zero => cases hl
  | succ fuel =>
    rw [type_row rfl hpair, row, if_neg hpeek, hfields fuel (by omega)]
    rfl

/-! ### All spellings -/

namespace LogicalType

/-- A type whose text can be read: no length stands for an unbounded text, and what is kept as it
was written is read as it stands. -/
def Readable : LogicalType → Prop
  | unsupported raw => Reads (.unsupported raw) raw.toList
  | t => t.Bounded

theorem readable_of_bounded {t : LogicalType} (h : t.Bounded) (hu : ∀ raw, t ≠ .unsupported raw) :
    t.Readable := by
  cases t <;> first | exact h | exact absurd rfl (hu _)

theorem bounded_of_readable {t : LogicalType} (h : t.Readable) : t.Bounded := by
  cases t <;> first | exact h | trivial

/-- Each spelling of a type is read as that type. -/
theorem reads_spelling {t : LogicalType} {cs : List Char} (h : Spelling t cs)
    (ht : ∀ u, Inside u t → u.Readable) : Reads t cs := by
  induction h with
  | word hw => exact reads_word hw
  | sized g₁ g₂ g₃ hs => exact reads_sized g₁ g₂ g₃ hs (bounded_of_readable (ht _ .refl))
  | decimal g₁ g₂ g₃ g₄ g₅ p s => exact reads_decimal g₁ g₂ g₃ g₄ g₅ p s
  | array g₁ g₂ g₃ ns _ ha ih => exact reads_array (ih fun u hu => ht u hu.element) g₁ g₂ g₃ ns ha
  | emptyRow g₁ g₂ hb => exact reads_emptyRow g₁ g₂ hb
  | row g hb hne _ ih =>
    refine reads_row hne (fun f hf => ih f hf fun u hu => ht u ?_) g hb
    exact .field (List.mem_map_of_mem hf) hu
  | unsupported raw => exact ht _ .refl

end LogicalType

end StreamPipeline
