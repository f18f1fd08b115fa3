import Mathlib
import StreamPipeline.Draft.Reader
import StreamPipeline.Proofs.Decimal.ShortForm
import StreamPipeline.Proofs.Text.Spans

/-! # Texts of plain scalars

A plain scalar is kept as the value that it stands for, and its text is that of the value. A truth
value or an integer has its text back only if it was written in the one canonical way, a float only
if it was written as the shortest decimal without an exponent.
-/

namespace StreamPipeline

open Yaml

namespace Text

/-! ### Characters of numbers -/

/-- The characters of numbers and of the words for truth values. -/
def isNumberChar (c : Char) : Bool := c.isAlphanum || c == '+' || c == '-' || c == '.'

theorem isNumberChar_of_isAlphanum {c : Char} (h : c.isAlphanum = true) :
    isNumberChar c = true := by
  simp [isNumberChar, h]

theorem isNumberChar_of_isDigit {c : Char} (h : c.isDigit = true) : isNumberChar c = true :=
  isNumberChar_of_isAlphanum (by simp [Char.isAlphanum, h])

theorem isNumberChar_of_isAlpha {c : Char} (h : c.isAlpha = true) : isNumberChar c = true :=
  isNumberChar_of_isAlphanum (by simp [Char.isAlphanum, h])

theorem not_isBlank_of_isNumberChar {c : Char} (h : isNumberChar c = true) : isBlank c = false := by
  simp only [isNumberChar, Char.isAlphanum, Char.isAlpha, Char.isUpper, Char.isLower, Char.isDigit,
    Bool.or_eq_true, Bool.and_eq_true, decide_eq_true_eq, beq_iff_eq, ge_iff_le,
    UInt32.le_iff_toNat_le] at h
  change (((((65 ≤ c.toNat ∧ c.toNat ≤ 90) ∨ (97 ≤ c.toNat ∧ c.toNat ≤ 122)) ∨
    (48 ≤ c.toNat ∧ c.toNat ≤ 57)) ∨ c = '+') ∨ c = '-') ∨ c = '.' at h
  rcases h with ((h | rfl) | rfl) | rfl
  · simp only [isBlank, Bool.or_eq_false_iff, Bool.and_eq_false_iff, beq_eq_false_iff_ne,
      decide_eq_false_iff_not]
    omega
  all_goals decide

theorem trim_eq_self {s : String} (h : ∀ c ∈ s.toList, isNumberChar c = true) : trim s = s := by
  have hblank (cs : List Char) (hcs : ∀ c ∈ cs, isNumberChar c = true) :
      cs.dropWhile isBlank = cs := by
    have hstop : ([] ++ cs).dropWhile isBlank = cs := dropWhile_stop (by simp) fun c hc =>
      not_isBlank_of_isNumberChar (hcs c (List.mem_of_mem_head? hc))
    exact hstop
  rw [trim, trimChars, trimEndChars, trimStartChars, hblank _ h,
    hblank _ fun c hc => h c (List.mem_reverse.mp hc), List.reverse_reverse, String.ofList_toList]

end Text

open Text

open Decimal (ShortForm isDigit_toDigits toNat_of_isDigit eq_zero_of_head_toDigits
  toList_toString shortForm_write shortForm_toString)

/-! ### What is read as a number -/

namespace Yaml

theorem isNumberChar_of_digitOf? {base v : Nat} {c : Char} (h : digitOf? base c = some v) :
    isNumberChar c = true := by
  obtain ⟨w, hw, -⟩ := Option.bind_eq_some_iff.mp h
  have hrange : (48 ≤ c.toNat ∧ c.toNat ≤ 57) ∨ (97 ≤ c.toNat ∧ c.toNat ≤ 102) ∨
      (65 ≤ c.toNat ∧ c.toNat ≤ 70) := by
    unfold Json.hexValue? at hw
    split at hw
    next hc => exact .inl hc
    split at hw
    next hc => exact .inr (.inl hc)
    split at hw
    next hc => exact .inr (.inr hc)
    next => cases hw
  refine isNumberChar_of_isAlphanum ?_
  simp only [Char.isAlphanum, Char.isAlpha, Char.isUpper, Char.isLower, Char.isDigit,
    Bool.or_eq_true, Bool.and_eq_true, decide_eq_true_eq, ge_iff_le, UInt32.le_iff_toNat_le]
  change ((65 ≤ c.toNat ∧ c.toNat ≤ 90) ∨ (97 ≤ c.toNat ∧ c.toNat ≤ 122)) ∨
    (48 ≤ c.toNat ∧ c.toNat ≤ 57)
  omega

/-- All characters are of the kind that numbers are made of. -/
def NumberChars (cs : List Char) : Prop := ∀ c ∈ cs, isNumberChar c = true

theorem numberChars_cons {c : Char} {cs : List Char} (hc : isNumberChar c = true)
    (h : NumberChars cs) : NumberChars (c :: cs) :=
  List.forall_mem_cons.mpr ⟨hc, h⟩

theorem numberChars_of_all {cs : List Char} (h : cs.all isNumberChar = true) : NumberChars cs :=
  List.all_eq_true.mp h

theorem numberChars_digits {cs : List Char} (h : ∀ c ∈ cs, c.isDigit = true) : NumberChars cs :=
  fun c hc => isNumberChar_of_isDigit (h c hc)

theorem numberChars_of_digitsIn? {base n : Nat} {cs : List Char} (h : digitsIn? base cs = some n) :
    NumberChars cs := by
  have hfold (cs : List Char) (start : Nat) (h : cs.foldlM
      (fun n c => (digitOf? base c).map fun v => base * n + v) start = some n) :
      NumberChars cs := by
    induction cs generalizing start with
    | nil => rintro _ ⟨⟩
    | cons c cs ih =>
      rw [List.foldlM_cons] at h
      obtain ⟨m, hm, h⟩ := Option.bind_eq_some_iff.mp h
      obtain ⟨v, hv, -⟩ := Option.map_eq_some_iff.mp hm
      exact numberChars_cons (isNumberChar_of_digitOf? hv) (ih m h)
  unfold digitsIn? at h
  split at h
  · cases h
  · exact hfold cs 0 h

theorem numberChars_of_magnitude? {n : Nat} {cs : List Char} (h : magnitude? cs = some n) :
    NumberChars cs := by
  unfold magnitude? at h
  rcases Option.or_eq_some_iff.mp h with h | ⟨-, h⟩
  · unfold marked? at h
    split at h
    case h_4 => cases h
    all_goals
      exact numberChars_cons rfl (numberChars_cons rfl (numberChars_of_digitsIn? h))
  · split at h
    · cases h
    · exact numberChars_of_digitsIn? h

theorem numberChars_of_int? {n : Int} {cs : List Char} (h : int? cs = some n) : NumberChars cs := by
  unfold int? at h
  split at h
  all_goals obtain ⟨m, hm, -⟩ := Option.bind_eq_some_iff.mp h
  · exact numberChars_cons rfl (numberChars_of_magnitude? hm)
  · exact numberChars_cons rfl (numberChars_of_magnitude? hm)
  · exact numberChars_of_magnitude? hm

theorem numberChars_of_exponent? {e : Int} {cs : List Char} (h : Decimal.exponent? cs = some e) :
    NumberChars cs := by
  cases cs with
  | nil => rintro _ ⟨⟩
  | cons c rest =>
    simp only [Decimal.exponent?] at h
    split at h
    next hc =>
      have hmark : isNumberChar c = true := by rcases hc with rfl | rfl <;> rfl
      refine numberChars_cons hmark ?_
      split at h
      all_goals
        split at h
        · cases h
        next hd =>
          simp only [Bool.or_eq_true, Bool.not_eq_true', not_or, Bool.not_eq_false,
            List.all_eq_true] at hd
          first
            | exact numberChars_digits hd.2
            | exact numberChars_cons rfl (numberChars_digits hd.2)
    next => cases h

theorem numberChars_of_unsigned? {x : Float} {cs : List Char}
    (h : Decimal.unsigned? cs = some x) : NumberChars cs := by
  have hdigits (cs : List Char) (hrest : NumberChars (Decimal.takeDigits cs).2) :
      NumberChars cs := by
    intro c hc
    rw [← List.takeWhile_append_dropWhile (p := Char.isDigit) (l := cs)] at hc
    rcases List.mem_append.mp hc with hc | hc
    · exact isNumberChar_of_isDigit (List.all_eq_true.mp List.all_takeWhile c hc)
    · exact hrest c hc
  unfold Decimal.unsigned? at h
  dsimp only at h
  split at h
  next rest hrest =>
    split at h
    · cases h
    · obtain ⟨e, he, -⟩ := Option.map_eq_some_iff.mp h
      refine hdigits cs ?_
      rw [hrest]
      exact numberChars_cons rfl (hdigits rest (numberChars_of_exponent? he))
  next =>
    split at h
    · cases h
    · obtain ⟨e, he, -⟩ := Option.map_eq_some_iff.mp h
      exact hdigits cs (numberChars_of_exponent? he)

/-- A word in any case. -/
theorem numberChars_of_lowerAscii {cs : List Char} {word : String}
    (h : lowerAscii (String.ofList cs) = word) (hw : word.toList.all Char.isAlpha = true) :
    NumberChars cs := by
  intro c hc
  have hl : c.toLower.isAlpha = true := by
    refine List.all_eq_true.mp hw _ ?_
    rw [← h, lowerAscii, String.toList_ofList, String.toList_ofList]
    exact List.mem_map_of_mem hc
  refine isNumberChar_of_isAlpha ?_
  cases hu : c.isUpper with
  | true => simp [Char.isAlpha, hu]
  | false =>
    have hsame : c.toLower = c := dif_neg (of_decide_eq_false hu)
    rwa [hsame] at hl

theorem numberChars_of_parse? {x : Float} {cs : List Char} (h : Decimal.parse? cs = some x) :
    NumberChars cs := by
  have hbody (body : List Char) (y : Float) (h : (if lowerAscii (String.ofList body) == "inf" ||
        lowerAscii (String.ofList body) == "infinity" then some (1.0 / 0.0)
      else if lowerAscii (String.ofList body) == "nan" then some (0.0 / 0.0)
      else Decimal.unsigned? body) = some y) : NumberChars body := by
    split at h
    next hw =>
      simp only [Bool.or_eq_true, beq_iff_eq] at hw
      rcases hw with hw | hw <;> exact numberChars_of_lowerAscii hw (by decide)
    split at h
    next hw => exact numberChars_of_lowerAscii (beq_iff_eq.mp hw) (by decide)
    next => exact numberChars_of_unsigned? h
  unfold Decimal.parse? at h
  split at h
  next negative body hm =>
    obtain ⟨y, hy, -⟩ := Option.map_eq_some_iff.mp h
    have hchars := hbody body y hy
    split at hm
    all_goals cases hm
    · exact numberChars_cons rfl hchars
    · exact numberChars_cons rfl hchars
    · exact hchars

/-- One of a few words that numbers could be written with. -/
theorem numberChars_of_contains {words : List (List Char)} {cs : List Char}
    (h : words.contains cs = true) (hw : words.all (·.all isNumberChar) = true) :
    NumberChars cs :=
  numberChars_of_all (List.all_eq_true.mp hw cs (List.contains_iff_mem.mp h))

theorem numberChars_of_float? {x : Float} {cs : List Char} (h : float? cs = some x) :
    NumberChars cs := by
  have hfinite {cs} (h : finite? cs = some x) : NumberChars cs := by
    obtain ⟨y, hy, -⟩ := Option.bind_eq_some_iff.mp h
    exact numberChars_of_parse? hy
  have hinfinity {cs} (h : isInfinityWord cs = true) : NumberChars cs :=
    numberChars_of_contains h (by decide)
  unfold float? at h
  split at h
  next hn => exact numberChars_of_contains hn (by decide)
  next =>
    split at h
    next rest =>
      refine numberChars_cons rfl ?_
      split at h
      · cases h
      · cases h
      · split at h
        next hi => exact hinfinity hi
        next => exact hfinite h
    next rest =>
      split at h
      next hi => exact numberChars_cons rfl (hinfinity hi)
      next => exact hfinite h
    next =>
      split at h
      next hi => exact hinfinity hi
      next => exact hfinite h

theorem numberChars_of_boolWord? {b : Bool} {cs : List Char} (h : boolWord? cs = some b) :
    NumberChars cs := by
  unfold boolWord? at h
  split at h
  next hw => exact numberChars_of_contains hw (by decide)
  split at h
  next hw => exact numberChars_of_contains hw (by decide)
  next => cases h

/-- What stands for a number or a truth value is written without blanks. -/
theorem numberChars_of_ofPlain {t : String} (hn : Resolved.ofPlain t ≠ .null)
    (ht : Resolved.ofPlain t ≠ .text t) : NumberChars t.toList := by
  unfold Resolved.ofPlain at hn ht
  dsimp only at hn ht
  split at hn
  · exact absurd rfl hn
  next hne =>
  rw [if_neg hne] at ht
  split at ht
  next b hb => exact numberChars_of_boolWord? hb
  next =>
    split at ht
    next n hi => exact numberChars_of_int? hi
    next =>
      split at ht
      · exact absurd rfl ht
      next =>
        split at ht
        next x hx => exact numberChars_of_float? hx
        next => exact absurd rfl ht

/-! ### Integers in their canonical form -/

theorem digitOf?_of_isDigit {c : Char} (h : c.isDigit = true) :
    digitOf? 10 c = some (c.toNat - 48) := by
  have hrange := toNat_of_isDigit h
  have hc : Json.hexValue? c = some (c.toNat - 48) := if_pos hrange
  rw [digitOf?, hc]
  exact if_pos (by omega)

theorem digitsIn?_toDigits (n : Nat) : digitsIn? 10 (Nat.toDigits 10 n) = some n := by
  have hfold (cs : List Char) (start : Nat) (hd : ∀ c ∈ cs, c.isDigit = true) :
      cs.foldlM (fun n c => (digitOf? 10 c).map fun v => 10 * n + v) start =
        some (Nat.ofDigitChars 10 cs start) := by
    induction cs generalizing start with
    | nil => rfl
    | cons c cs ih =>
      rw [List.foldlM_cons, digitOf?_of_isDigit (hd c List.mem_cons_self), Nat.ofDigitChars_cons]
      exact ih _ fun d hm => hd d (List.mem_cons_of_mem c hm)
  have hd := isDigit_toDigits n
  unfold digitsIn?
  rw [if_neg (by simp [Nat.toDigits_ne_nil]), hfold _ _ hd, Nat.ofDigitChars_ten_toDigits]

theorem magnitude?_toDigits (n : Nat) : magnitude? (Nat.toDigits 10 n) = some n := by
  have hd := isDigit_toDigits n
  have hpadded : isZeroPadded (Nat.toDigits 10 n) = false := by
    unfold isZeroPadded
    split
    next d rest he =>
      obtain rfl := eq_zero_of_head_toDigits (congrArg List.head? he)
      cases he
    next => rfl
  have hmarked : marked? (Nat.toDigits 10 n) = none := by
    unfold marked?
    split
    case h_4 => rfl
    all_goals
      rename_i he
      rw [he] at hd
      exact absurd (hd _ (List.mem_cons_of_mem _ List.mem_cons_self)) (by decide)
  rw [magnitude?, hmarked, hpadded, Option.none_or]
  exact digitsIn?_toDigits n

theorem int?_toString {n : Int} (hl : -9223372036854775808 ≤ n) (hu : n < 9223372036854775808) :
    int? (toString n).toList = some n := by
  obtain ⟨hn, hs⟩ | ⟨hn, hs⟩ := toList_toString n
  · have hd := isDigit_toDigits n.toNat
    have hwide : n.toNat < wideLimit := by
      simp only [wideLimit, signedWideLimit]
      omega
    rw [hn]
    unfold int?
    split
    next he => rw [he] at hd; exact absurd (hd _ List.mem_cons_self) (by decide)
    next he => rw [he] at hd; exact absurd (hd _ List.mem_cons_self) (by decide)
    next =>
      rw [magnitude?_toDigits, Option.bind_some, if_pos hwide, Int.toNat_of_nonneg hs]
  · have hwide : (-n).toNat ≤ signedWideLimit := by
      simp only [signedWideLimit]
      omega
    rw [hn, int?, magnitude?_toDigits, Option.bind_some, if_pos hwide]
    congr 1
    omega

/-- An integer in its canonical form stands for itself. -/
theorem ofPlain_toString {n : Int} (hl : -9223372036854775808 ≤ n)
    (hu : n < 9223372036854775808) : Resolved.ofPlain (toString n) = .int n := by
  obtain ⟨c, cs, hcs, hc⟩ : ∃ c cs, (toString n).toList = c :: cs ∧
      (c.isDigit = true ∨ c = '-') := by
    obtain ⟨hn, -⟩ | ⟨hn, -⟩ := toList_toString n
    · obtain ⟨c, cs, hcs⟩ :=
        List.exists_cons_of_ne_nil (Nat.toDigits_ne_nil (n := n.toNat) (b := 10))
      refine ⟨c, cs, hn.trans hcs, .inl ?_⟩
      exact isDigit_toDigits n.toNat c (hcs ▸ List.mem_cons_self)
    · exact ⟨'-', _, hn, .inr rfl⟩
  have hword (words : List (List Char)) (hw : words.all (fun w =>
      w.head?.all fun a => !(a.isDigit || a == '-')) = true) :
      words.contains (c :: cs) = false := by
    cases hm : words.contains (c :: cs) with
    | false => rfl
    | true =>
      have h := List.all_eq_true.mp hw _ (List.contains_iff_mem.mp hm)
      rcases hc with hc | rfl
      · simp [hc] at h
      · cases h
  have hint : Resolved.ofInt n = .int n := if_pos ⟨hl, by simp only [Json.wordLimit]; omega⟩
  have hbool : boolWord? (toString n).toList = none := by
    rw [hcs, boolWord?, hword _ (by decide), hword _ (by decide)]
    rfl
  have hnull : isNullWord (toString n).toList = false := by
    rw [hcs, isNullWord, hword _ (by decide)]
  have hempty : (toString n).toList.isEmpty = false := by rw [hcs]; rfl
  unfold Resolved.ofPlain
  simp only [hempty, hnull, hbool, int?_toString hl hu, hint, Bool.or_self, Bool.false_eq_true,
    if_false]

end Yaml

/-! ### What is written for a number -/

theorem numberChars_of_shortForm {cs : List Char} (h : ShortForm cs) : NumberChars cs := by
  intro c hc
  rcases h.chars c hc with hd | rfl | rfl
  · exact isNumberChar_of_isDigit hd
  · rfl
  · rfl

theorem numberChars_write (x : Float) : NumberChars (Decimal.plain.write x).toList := by
  rcases shortForm_write x with h | h
  · exact numberChars_of_shortForm h
  · simp only [List.mem_cons, List.not_mem_nil, or_false] at h
    rcases h with h | h | h
    all_goals rw [h]; exact numberChars_of_all (by decide)

/-! ### Texts that are kept -/

/-- What a plain scalar is read as, unless it is null or an integer of more than 64 bits. -/
def Scalar.plain? (t : String) : Option Scalar := Scalar.ofResolved (Resolved.ofPlain t)

/-- The plain scalars whose value has their text. -/
inductive Verbatim : String → Prop where
  | text {t : String} : Resolved.ofPlain t = .text t → Verbatim t
  | true : Verbatim "true"
  | false : Verbatim "false"
  | int (n : Int) : -9223372036854775808 ≤ n → n < 9223372036854775808 → Verbatim (toString n)
  | float {x : Float} : Scalar.plain? (Decimal.plain.write x) = some (.float x) →
      Verbatim (Decimal.plain.write x)

theorem Yaml.Resolved.text_of_ofPlain {t s : String} (h : ofPlain t = .text s) : s = t := by
  unfold ofPlain at h
  dsimp only at h
  split at h
  · cases h
  split at h
  · cases h
  split at h
  next n _ => unfold ofInt at h; split at h <;> cases h
  split at h
  · cases h; rfl
  split at h
  · cases h
  · cases h; rfl

theorem Yaml.Resolved.int_of_ofPlain {t : String} {n : Int} (h : ofPlain t = .int n) :
    -9223372036854775808 ≤ n := by
  unfold ofPlain at h
  dsimp only at h
  split at h
  · cases h
  split at h
  · cases h
  split at h
  next m _ =>
    unfold ofInt at h
    split at h
    next hm => cases h; exact hm.1
    next => cases h
  split at h
  · cases h
  split at h <;> cases h

theorem Scalar.text_of_plain? {t s : String} (h : plain? t = some (.text s)) :
    Resolved.ofPlain t = .text t := by
  unfold plain? at h
  cases hr : Resolved.ofPlain t with
  | text r => rw [Resolved.text_of_ofPlain hr]
  | int n =>
    rw [hr, ofResolved, Option.some.injEq] at h
    split at h <;> cases h
  | _ => rw [hr] at h; cases h

/-- The text of a plain scalar is the one that it was written with exactly if that is kept. -/
theorem Scalar.asText_eq_iff {t : String} {v : Scalar} (h : plain? t = some v) :
    v.asText = t ↔ Verbatim t := by
  constructor
  · intro ht
    unfold plain? at h
    cases hr : Resolved.ofPlain t with
    | null => rw [hr] at h; cases h
    | tooLarge => rw [hr] at h; cases h
    | bool b =>
      rw [hr] at h
      cases h
      cases b
      · exact ht ▸ .false
      · exact ht ▸ .true
    | int n =>
      have hl := Resolved.int_of_ofPlain hr
      have h' := h
      rw [hr, ofResolved, Option.some.injEq] at h'
      split at h'
      next hu =>
        subst h'
        exact ht ▸ .int n hl hu
      next =>
        subst h'
        have ht : Decimal.plain.write (Float.ofInt n) = t := ht
        subst ht
        exact .float h
    | float x =>
      have h' := h
      rw [hr] at h'
      cases h'
      have ht : Decimal.plain.write x = t := ht
      subst ht
      exact .float h
    | text s =>
      obtain rfl := Resolved.text_of_ofPlain hr
      exact .text hr
  · intro hv
    cases hv with
    | text hr =>
      rw [plain?, hr] at h
      cases h
      rfl
    | true => cases h; rfl
    | false => cases h; rfl
    | int n hl hu =>
      have hsmall : n < (Json.signedLimit : Int) := hu
      rw [plain?, ofPlain_toString hl hu, ofResolved, Option.some.injEq, if_pos hsmall] at h
      exact h ▸ rfl
    | float hx =>
      rw [hx] at h
      cases h
      rfl

/-- A number or a truth value that is kept was written in the one short form. -/
theorem Verbatim.form {t : String} (h : Verbatim t) : Resolved.ofPlain t = .text t ∨
    ShortForm t.toList ∨ t ∈ ["true", "false", "NaN", "inf", "-inf"] := by
  cases h with
  | text hr => exact .inl hr
  | true => exact .inr (.inr (by simp))
  | false => exact .inr (.inr (by simp))
  | int n => exact .inr (.inl (shortForm_toString n))
  | float =>
    refine .inr ((shortForm_write _).imp_right fun h => ?_)
    exact List.mem_cons_of_mem _ (List.mem_cons_of_mem _ h)

/-- Trimming makes no difference to what is kept: numbers and truth values have no blanks. -/
theorem Scalar.trim_asText_eq_iff {t : String} {v : Scalar} (h : plain? t = some v) :
    trim v.asText = trim t ↔ Verbatim t := by
  rw [← asText_eq_iff h]
  refine ⟨fun htrim => ?_, fun htext => congrArg trim htext⟩
  by_cases ht : Resolved.ofPlain t = .text t
  · rw [plain?, ht] at h
    cases h
    rfl
  · have hn : Resolved.ofPlain t ≠ .null := by
      intro hnull
      rw [plain?, hnull] at h
      cases h
    have hwritten : NumberChars v.asText.toList := by
      cases v with
      | text s => exact absurd (text_of_plain? h) ht
      | int n => exact numberChars_of_shortForm (shortForm_toString n)
      | float x => exact numberChars_write x
      | bool b => cases b <;> exact numberChars_of_all (by decide)
    rwa [trim_eq_self hwritten, trim_eq_self (numberChars_of_ofPlain hn ht)] at htrim

end StreamPipeline
