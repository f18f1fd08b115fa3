import StreamPipeline.Proofs.Text.Spans
import StreamPipeline.Schema.TypeToken
import StreamPipeline.Sql.Quote

/-! # The texts of type tokens

Which characters spell a token, and what may follow them. A spelling is read as its token wherever
nothing that follows goes on with it, and nothing else is read.
-/

namespace StreamPipeline

open Text

namespace Lexeme

/-- The characters of a token. -/
inductive Spells : List Char → TypeToken → Prop where
  | lparen : Spells ['('] .lparen
  | rparen : Spells [')'] .rparen
  | comma : Spells [','] .comma
  | lt : Spells ['<'] .lt
  | gt : Spells ['>'] .gt
  | ident (name : List Char) : Spells (Sql.enclose '\x60' name) (.ident (String.ofList name))
  | literal (content : List Char) : Spells (Sql.enclose '\'' content) .literal
  | marker {name : List Char} : '*' ∉ name →
      Spells ('*' :: (name ++ ['*'])) (.marker (upperAscii (String.ofList name)))
  | number {c : Char} {cs : List Char} {n : Nat} : (∀ a ∈ c :: cs, a.isDigit = true) →
      unsignedUpTo? 4294967295 (c :: cs) = some n → Spells (c :: cs) (.number (UInt32.ofNat n))
  | word {c : Char} {cs : List Char} : (c.isAlpha || c == '_') = true →
      (∀ a ∈ cs, isWordChar a = true) →
      Spells (c :: cs) (.word (upperAscii (String.ofList (c :: cs))))

/-- Whether a character would go on with the spelling of a token. -/
def continues : TypeToken → Char → Bool
  | .ident _, c => c == '\x60'
  | .literal, c => c == '\''
  | .number _, c => c.isDigit
  | .word _, c => isWordChar c
  | _, _ => false

/-- A text that does not go on with the spelling of a token. -/
def Ends (t : TypeToken) (rest : List Char) : Prop := ∀ a ∈ rest.head?, continues t a = false

/-! ### Quoted tokens -/

theorem untilQuote_of_ne {quote c : Char} (h : c ≠ quote) (cs : List Char) :
    untilQuote quote (c :: cs) =
      (untilQuote quote cs).map fun (content, read, r) => (c :: content, c :: read, r) := by
  cases cs with
  | nil => simp [untilQuote, h]
  | cons d cs => simp [untilQuote, h]

/-- What is read up to a closing quote: the content with its quotes doubled, and that quote. -/
theorem untilQuote_spelled {quote : Char} {cs content read rest : List Char}
    (h : untilQuote quote cs = some (content, read, rest)) :
    read = doubling quote content ++ [quote] ∧ ∀ a ∈ rest.head?, (a == quote) = false := by
  fun_induction untilQuote quote cs generalizing content read rest with
  | case1 => cases h
  | case2 => cases h; exact ⟨rfl, by simp⟩
  | case3 => cases h
  | case4 r ih =>
    obtain ⟨⟨content, read, rest⟩, hu, he⟩ := Option.map_eq_some_iff.mp h
    cases he
    obtain ⟨rfl, hr⟩ := ih hu
    exact ⟨by simp [doubling_cons_self], hr⟩
  | case5 d r hd =>
    cases h
    exact ⟨rfl, by simpa using hd⟩
  | case6 c d r hc ih =>
    obtain ⟨⟨content, read, rest⟩, hu, he⟩ := Option.map_eq_some_iff.mp h
    cases he
    obtain ⟨rfl, hr⟩ := ih hu
    exact ⟨by simp [doubling_cons_of_ne hc], hr⟩

theorem untilQuote_doubling {quote : Char} (content : List Char) {rest : List Char}
    (hr : ∀ a ∈ rest.head?, (a == quote) = false) :
    untilQuote quote (doubling quote content ++ quote :: rest) =
      some (content, doubling quote content ++ [quote], rest) := by
  induction content with
  | nil =>
    cases rest with
    | nil => simp [doubling, replaceChar, untilQuote]
    | cons d rest =>
      have hd : d ≠ quote := by simpa using hr d rfl
      simp [doubling, replaceChar, untilQuote, hd]
  | cons c content ih =>
    by_cases hc : c = quote
    · subst hc
      rw [doubling_cons_self, List.cons_append, List.cons_append, untilQuote, if_pos rfl,
        if_pos rfl, ih]
      rfl
    · rw [doubling_cons_of_ne hc, List.cons_append, untilQuote_of_ne hc, ih]
      rfl

/-! ### Reading a spelling -/

theorem splitFirstChars_of_notMem {sep : Char} {name : List Char} (h : sep ∉ name)
    (rest : List Char) : splitFirstChars sep (name ++ sep :: rest) = some (name, rest) := by
  induction name with
  | nil => simp [splitFirstChars]
  | cons c name ih =>
    simp only [List.mem_cons, not_or] at h
    simp [splitFirstChars, Ne.symm h.1, ih h.2]

theorem notMem_of_splitFirstChars {sep : Char} {cs name rest : List Char}
    (h : splitFirstChars sep cs = some (name, rest)) : sep ∉ name := by
  induction cs generalizing name with
  | nil => cases h
  | cons c cs ih =>
    unfold splitFirstChars at h
    split at h
    · cases h; simp
    next hc =>
      obtain ⟨⟨b, a⟩, hp, he⟩ := Option.map_eq_some_iff.mp h
      cases he
      simp [Ne.symm hc, ih hp]

theorem isDigit_of_isLetter {c : Char} (h : (c.isAlpha || c == '_') = true) :
    c.isDigit = false := by
  cases hd : c.isDigit with
  | false => rfl
  | true =>
    simp only [Char.isDigit, Bool.and_eq_true, decide_eq_true_eq] at hd
    have hletter : (c.isUpper || c.isLower || c == '_') = true := h
    simp only [Bool.or_eq_true, beq_iff_eq] at hletter
    rcases hletter with (hu | hl) | rfl
    · have hu : decide (c.val ≥ 'A'.val ∧ c.val ≤ 'Z'.val) = true := hu
      exact absurd (UInt32.le_trans (of_decide_eq_true hu).1 hd.2) (by decide)
    · have hl : (decide (c.val ≥ 'a'.val) && decide (c.val ≤ 'z'.val)) = true := hl
      simp only [Bool.and_eq_true, decide_eq_true_eq] at hl
      exact absurd (UInt32.le_trans hl.1 hd.2) (by decide)
    · exact absurd hd (by decide)

/-- The characters that begin neither a number nor a word, and begin a token. -/
def marks : List Char := ['(', ')', ',', '<', '>', '\x60', '\'', '*']

/-- A word ends where no letter, digit or underscore follows. -/
theorem next_word {c : Char} {cs rest : List Char} (hc : (c.isAlpha || c == '_') = true)
    (hs : ∀ a ∈ cs, isWordChar a = true) (hr : ∀ a ∈ rest.head?, isWordChar a = false) :
    next (c :: (cs ++ rest)) =
      .ok (some (c :: cs, .word (upperAscii (String.ofList (c :: cs))), rest)) := by
  have hm : c ∉ marks := notMem_of_any_false (p := fun c => c.isAlpha || c == '_') rfl hc
  simp only [marks, List.mem_cons, List.not_mem_nil, or_false, not_or] at hm
  simp only [next, hm, if_false, isDigit_of_isLetter hc, hc, takeWhile_stop hs hr,
    dropWhile_stop hs hr, Bool.false_eq_true, if_true]

/-- A run of digits ends where no digit follows. -/
theorem next_digits {c : Char} {cs rest : List Char} {n : Nat}
    (hd : ∀ a ∈ c :: cs, a.isDigit = true) (hv : unsignedUpTo? 4294967295 (c :: cs) = some n)
    (hr : ∀ a ∈ rest.head?, a.isDigit = false) :
    next (c :: (cs ++ rest)) = .ok (some (c :: cs, .number (UInt32.ofNat n), rest)) := by
  obtain ⟨hc, hs⟩ := List.forall_mem_cons.mp hd
  have hm : c ∉ marks := notMem_of_any_false (p := Char.isDigit) rfl hc
  simp only [marks, List.mem_cons, List.not_mem_nil, or_false, not_or] at hm
  simp only [next, hm, if_false, hc, if_true, takeWhile_stop hs hr, dropWhile_stop hs hr, hv]

/-- A spelling is read where it ends. -/
theorem next_of_spells {text rest : List Char} {token : TypeToken} (h : Spells text token)
    (hr : Ends token rest) : next (text ++ rest) = .ok (some (text, token, rest)) := by
  cases h with
  | lparen | rparen | comma | lt | gt => rfl
  | ident name => simp [next, Sql.enclose, untilQuote_doubling name hr]
  | literal content => simp [next, Sql.enclose, untilQuote_doubling content hr]
  | marker hm => simp [next, splitFirstChars_of_notMem hm]
  | number hd hn => exact next_digits hd hn hr
  | word hc hs => exact next_word hc hs hr

/-- What is read in front is a spelling, up to where it ends. -/
theorem spells_of_next {cs text rest : List Char} {token : TypeToken} :
    next cs = .ok (some (text, token, rest)) →
      cs = text ++ rest ∧ Spells text token ∧ Ends token rest := by
  have hends {t : TypeToken} (ht : ∀ a, continues t a = false) (rest : List Char) : Ends t rest :=
    fun a _ => ht a
  fun_cases next cs with
  | case2 => rintro ⟨⟩; exact ⟨rfl, .lparen, hends (fun _ => rfl) _⟩
  | case3 => rintro ⟨⟩; exact ⟨rfl, .rparen, hends (fun _ => rfl) _⟩
  | case4 => rintro ⟨⟩; exact ⟨rfl, .comma, hends (fun _ => rfl) _⟩
  | case5 => rintro ⟨⟩; exact ⟨rfl, .lt, hends (fun _ => rfl) _⟩
  | case6 => rintro ⟨⟩; exact ⟨rfl, .gt, hends (fun _ => rfl) _⟩
  | case8 _ name _ _ _ _ _ _ _ hu =>
    rintro ⟨⟩
    obtain ⟨rfl, hr⟩ := untilQuote_spelled hu
    exact ⟨by rw [untilQuote_append hu]; rfl, .ident name, hr⟩
  | case10 _ content _ _ _ _ _ _ _ _ hu =>
    rintro ⟨⟩
    obtain ⟨rfl, hr⟩ := untilQuote_spelled hu
    exact ⟨by rw [untilQuote_append hu]; rfl, .literal content, hr⟩
  | case12 _ name _ hs =>
    rintro ⟨⟩
    refine ⟨?_, .marker (notMem_of_splitFirstChars hs), hends (fun _ => rfl) _⟩
    rw [splitFirstChars_append hs]
    simp
  | case14 c cs _ _ _ _ _ _ _ _ hd digits n hn =>
    subst digits
    rintro ⟨⟩
    refine ⟨by rw [List.cons_append, List.takeWhile_append_dropWhile], .number ?_ hn,
      head_dropWhile _ _⟩
    exact List.forall_mem_cons.mpr ⟨hd, List.all_eq_true.mp List.all_takeWhile⟩
  | case15 c cs _ _ _ _ _ _ _ _ _ hl word =>
    subst word
    rintro ⟨⟩
    refine ⟨by rw [List.cons_append, List.takeWhile_append_dropWhile], .word hl ?_,
      head_dropWhile _ _⟩
    exact List.all_eq_true.mp List.all_takeWhile
  | _ => rintro ⟨⟩

/-- The token that a text begins with is the one that is spelled there. -/
theorem next_iff {cs text rest : List Char} {token : TypeToken} :
    next cs = .ok (some (text, token, rest)) ↔
      cs = text ++ rest ∧ Spells text token ∧ Ends token rest := by
  refine ⟨spells_of_next, ?_⟩
  rintro ⟨rfl, h, hr⟩
  exact next_of_spells h hr

/-- Only where there is no text, there is no token. -/
theorem next_none {cs : List Char} : next cs = .ok none → cs = [] := by
  fun_cases next cs with
  | case1 => exact fun _ => rfl
  | _ => rintro ⟨⟩

/-! ### Ends of spellings -/

theorem not_isGap_of_isWordChar {c : Char} (h : isWordChar c = true) : isGap c = false := by
  cases hg : isGap c with
  | false => rfl
  | true =>
    simp only [isGap, Bool.or_eq_true, beq_iff_eq] at hg
    rcases hg with (((rfl | rfl) | rfl) | rfl) | rfl <;> cases h

theorem isWordChar_of_isDigit {c : Char} (h : c.isDigit = true) : isWordChar c = true := by
  simp only [isWordChar, Char.isAlphanum, h, Bool.or_true, Bool.true_or]

theorem isWordChar_of_isLetter {c : Char} (h : (c.isAlpha || c == '_') = true) :
    isWordChar c = true := by
  rcases Bool.or_eq_true_iff.mp h with h | h
  · simp only [isWordChar, Char.isAlphanum, h, Bool.true_or]
  · simp only [isWordChar, h, Bool.or_true]

/-- A spelling is not empty and begins with no blank. -/
theorem Spells.cons {text : List Char} {token : TypeToken} (h : Spells text token) :
    ∃ c cs, text = c :: cs ∧ isGap c = false := by
  cases h with
  | number hd _ =>
    exact ⟨_, _, rfl, not_isGap_of_isWordChar (isWordChar_of_isDigit (hd _ List.mem_cons_self))⟩
  | word hc _ => exact ⟨_, _, rfl, not_isGap_of_isWordChar (isWordChar_of_isLetter hc)⟩
  | _ => exact ⟨_, _, rfl, rfl⟩

/-- A spelling that letters or digits would go on with ends in one of these. -/
theorem Spells.getLast {text : List Char} {token : TypeToken} (h : Spells text token)
    (ht : (∃ n, token = .number n) ∨ ∃ w, token = .word w) :
    ∃ a ∈ text.getLast?, isWordChar a = true := by
  cases h with
  | @number c cs n hd _ =>
    refine ⟨_, List.getLast?_eq_some_getLast (List.cons_ne_nil c cs), ?_⟩
    exact isWordChar_of_isDigit (hd _ (List.getLast_mem _))
  | @word c cs hc hs =>
    refine ⟨_, List.getLast?_eq_some_getLast (List.cons_ne_nil c cs), ?_⟩
    rcases List.mem_cons.mp (List.getLast_mem (List.cons_ne_nil c cs)) with hl | hl
    · rw [hl]
      exact isWordChar_of_isLetter hc
    · exact hs _ hl
  | _ => rcases ht with ⟨_, ⟨⟩⟩ | ⟨_, ⟨⟩⟩

theorem Spells.continues_of_quote {text : List Char} {token : TypeToken} (h : Spells text token)
    {q : Char} (hq : q = '\x60' ∨ q = '\'') (hc : q ∈ text.head?) : continues token q = true := by
  cases h with
  | number hd _ => cases hc; rcases hq with rfl | rfl <;> cases hd _ List.mem_cons_self
  | word hw _ => cases hc; rcases hq with rfl | rfl <;> cases hw
  | ident _ | literal _ => cases hc; rfl
  | _ => cases hc; rcases hq with ⟨⟨⟩⟩ | ⟨⟨⟩⟩

end Lexeme

end StreamPipeline
