import Mathlib
import StreamPipeline.Proofs.Schema.GrammarRead

/-! # Phrases of the grammar are read

Each phrase of the grammar is read where nothing follows that could belong to it, so a supported
type is read from exactly the lexemes that the grammar gives it.
-/

namespace StreamPipeline

open Lexeme TypeParser

namespace TypeGrammar

/-! ### What is read -/

theorem exists_cons {ls : List Lexeme} {k : TypeToken} {ks : List TypeToken}
    (h : ls.map Lexeme.token = k :: ks) :
    ∃ gap text ms, ls = ⟨gap, text, k⟩ :: ms ∧ ms.map Lexeme.token = ks := by
  obtain ⟨⟨gap, text, token⟩, ms, rfl, rfl, hms⟩ := List.map_eq_cons_iff.mp h
  exact ⟨gap, text, ms, rfl, hms⟩

section Read

variable {t : LogicalType} {ls rest : List Lexeme}

theorem expectWords_read {words : List String} (h : ls.map Lexeme.token = words.map .word) :
    expectWords words (ls ++ rest) = .ok ((), rest) := by
  induction words generalizing ls with
  | nil =>
    obtain rfl := List.map_eq_nil_iff.mp h
    rfl
  | cons w words ih =>
    obtain ⟨gap, text, ms, rfl, h₁⟩ := exists_cons h
    have hw : expect (.word w) ((⟨gap, text, .word w⟩ :: ms) ++ rest) = .ok ((), ms ++ rest) :=
      if_pos rfl
    exact bind_eq_ok_iff.mpr ⟨_, hw, ih h₁⟩

theorem optLength_unsaid (hr : ∀ l ∈ rest.head?, l.token ≠ .lparen) :
    optLength rest = .ok (none, rest) := by
  unfold optLength
  split
  · exact absurd rfl (hr _ rfl)
  · rfl

theorem optLength_said {n : UInt32}
    (h : ls.map Lexeme.token = [.lparen, .number n, .rparen]) :
    optLength (ls ++ rest) = .ok (some n, rest) := by
  obtain ⟨_, _, ms, rfl, h₁⟩ := exists_cons h
  obtain ⟨_, _, ms, rfl, h₂⟩ := exists_cons h₁
  obtain ⟨_, _, ms, rfl, h₃⟩ := exists_cons h₂
  obtain rfl := List.map_eq_nil_iff.mp h₃
  rfl

theorem optLength_read {n : UInt32} (h : Length n (ls.map Lexeme.token))
    (hr : ∀ l ∈ rest.head?, l.token ≠ .lparen) :
    ∃ o, optLength (ls ++ rest) = .ok (o, rest) ∧ o.getD 1 = n := by
  generalize hk : ls.map Lexeme.token = ks at h
  cases h with
  | unsaid =>
    obtain rfl := List.map_eq_nil_iff.mp hk
    exact ⟨none, optLength_unsaid hr, rfl⟩
  | said n => exact ⟨some n, optLength_said hk, rfl⟩

theorem optPrecision_read {p : Option UInt8} (h : Precision p (ls.map Lexeme.token))
    (hr : ∀ l ∈ rest.head?, l.token ≠ .lparen) : optPrecision (ls ++ rest) = .ok (p, rest) := by
  generalize hk : ls.map Lexeme.token = ks at h
  cases h with
  | unsaid =>
    obtain rfl := List.map_eq_nil_iff.mp hk
    exact bind_eq_ok_iff.mpr ⟨_, optLength_unsaid hr, rfl⟩
  | said p =>
    exact bind_eq_ok_iff.mpr ⟨_, optLength_said hk, by simp [bind, Except.bind]⟩

theorem decimalSize_read {p s : UInt8} (h : Size p s (ls.map Lexeme.token))
    (hr : ∀ l ∈ rest.head?, l.token ≠ .lparen) :
    decimalSize (ls ++ rest) = .ok ((p.toUInt32, s.toUInt32), rest) := by
  generalize hk : ls.map Lexeme.token = ks at h
  cases h with
  | unsaid =>
    obtain rfl := List.map_eq_nil_iff.mp hk
    rw [List.nil_append]
    unfold decimalSize
    split
    · exact absurd rfl (hr _ rfl)
    · rfl
  | precision p =>
    obtain ⟨_, _, ms, rfl, hk₁⟩ := exists_cons hk
    obtain ⟨_, _, ms, rfl, hk₂⟩ := exists_cons hk₁
    obtain ⟨_, _, ms, rfl, hk₃⟩ := exists_cons hk₂
    obtain rfl := List.map_eq_nil_iff.mp hk₃
    rfl
  | both p s =>
    obtain ⟨_, _, ms, rfl, hk₁⟩ := exists_cons hk
    obtain ⟨_, _, ms, rfl, hk₂⟩ := exists_cons hk₁
    obtain ⟨_, _, ms, rfl, hk₃⟩ := exists_cons hk₂
    obtain ⟨_, _, ms, rfl, hk₄⟩ := exists_cons hk₃
    obtain ⟨_, _, ms, rfl, hk₅⟩ := exists_cons hk₄
    obtain rfl := List.map_eq_nil_iff.mp hk₅
    rfl

theorem withoutTimeZone_read {b : Bool} (h : Zone b (ls.map Lexeme.token)) (hs : Stops t rest) :
    withoutTimeZone (ls ++ rest) = .ok (b, rest) := by
  generalize hk : ls.map Lexeme.token = ks at h
  cases h with
  | unsaid =>
    obtain rfl := List.map_eq_nil_iff.mp hk
    exact withoutTimeZone_of_stops hs
  | without =>
    obtain ⟨_, _, ms, rfl, hk₁⟩ := exists_cons hk
    have hw : expectWords ["TIME", "ZONE"] (ms ++ rest) = .ok ((), rest) := expectWords_read hk₁
    simp [withoutTimeZone, takeWord, hw, bind, Except.bind]

theorem ne_lparen_of_stops (hs : Stops t rest) : ∀ l ∈ rest.head?, l.token ≠ .lparen := by
  intro l hl he
  rcases hs l hl with h | ⟨h, -⟩
  · rw [he] at h; cases h
  · rw [he] at h; cases h

/-- Behind a precision stands what is said of a time zone, or what stops the type. -/
theorem ne_lparen_of_zone {b : Bool} (h : Zone b (ls.map Lexeme.token)) (hs : Stops t rest) :
    ∀ l ∈ (ls ++ rest).head?, l.token ≠ .lparen := by
  generalize hk : ls.map Lexeme.token = ks at h
  cases h with
  | unsaid =>
    obtain rfl := List.map_eq_nil_iff.mp hk
    exact ne_lparen_of_stops hs
  | without =>
    obtain ⟨_, _, ms, rfl, hk₁⟩ := exists_cons hk
    rintro _ ⟨⟩ ⟨⟩

theorem simple_of_name {w : String} (h : (w, t) ∈ names) (hs : Stops t rest) (whole : List Lexeme) :
    simple w whole rest = some (.ok (t, rest)) := by
  simp only [names, List.mem_cons, Prod.mk.injEq, List.not_mem_nil, or_false] at h
  rcases h with ⟨rfl, rfl⟩ | ⟨rfl, rfl⟩ | ⟨rfl, rfl⟩ | ⟨rfl, rfl⟩ | ⟨rfl, rfl⟩ | ⟨rfl, rfl⟩ |
    ⟨rfl, rfl⟩ | ⟨rfl, rfl⟩ | ⟨rfl, rfl⟩ | ⟨rfl, rfl⟩ | ⟨rfl, rfl⟩ | ⟨rfl, rfl⟩
  all_goals simp [simple, takeWord_of_stops hs]

/-- What follows a word is read as the type that it makes with it. -/
theorem simple_of_atom {w : String} (h : Atom t (.word w :: ls.map Lexeme.token))
    (hs : Stops t rest) (whole : List Lexeme) :
    simple w whole (ls ++ rest) = some (.ok (t, rest)) := by
  have hr := ne_lparen_of_stops hs
  generalize hk : ls.map Lexeme.token = ks at h
  cases h with
  | name hn =>
    obtain rfl := List.map_eq_nil_iff.mp hk
    exact simple_of_name hn hs whole
  | doublePrecision =>
    obtain ⟨_, _, ms, rfl, hk₁⟩ := exists_cons hk
    obtain rfl := List.map_eq_nil_iff.mp hk₁
    simp [simple, takeWord]
  | decimal hw hd =>
    have hd := decimalSize_read (hk ▸ hd) hr
    simp only [List.mem_cons, List.not_mem_nil, or_false] at hw
    rcases hw with rfl | rfl | rfl
    all_goals simp [simple, hd, bind, Except.bind]
  | time hp hz =>
    obtain ⟨ms, zs, rfl, rfl, rfl⟩ := List.map_eq_append_iff.mp hk
    have hp := optPrecision_read hp (ne_lparen_of_zone hz hs)
    have hz := withoutTimeZone_read hz hs
    simp [simple, hp, hz, bind, Except.bind]
  | timestamp hp hz =>
    obtain ⟨ms, zs, rfl, rfl, rfl⟩ := List.map_eq_append_iff.mp hk
    have hp := optPrecision_read hp (ne_lparen_of_zone hz hs)
    have hz := withoutTimeZone_read hz hs
    have hw : takeWord "WITH" rest = (false, rest) := takeWord_of_stops hs rfl
    simp [simple, timestamp, hp, hz, hw, bind, Except.bind]
  | timestampLocal hp =>
    obtain ⟨ms, zs, rfl, rfl, hz⟩ := List.map_eq_append_iff.mp hk
    obtain ⟨g, x, zs, rfl, hz₁⟩ := exists_cons hz
    obtain ⟨g', y, zs, rfl, hz₂⟩ := exists_cons hz₁
    have hp : optPrecision (ms ++ ⟨g, x, .word "WITH"⟩ :: ⟨g', y, .word "LOCAL"⟩ ::
        (zs ++ rest)) = .ok (_, _) := optPrecision_read hp (by rintro _ ⟨⟩ ⟨⟩)
    have hz : expectWords ["TIME", "ZONE"] (zs ++ rest) = .ok ((), rest) := expectWords_read hz₂
    simp [simple, timestamp, withoutTimeZone, takeWord, hp, hz, bind, Except.bind]
  | timestampLtz hp =>
    have hp := optPrecision_read (hk ▸ hp) hr
    simp [simple, hp, bind, Except.bind]
  | char hn | binary hn =>
    obtain ⟨o, ho, rfl⟩ := optLength_read (hk ▸ hn) hr
    simp [simple, ho, bind, Except.bind]
  | varchar hn hne | varbinary hn hne =>
    obtain ⟨o, ho, rfl⟩ := optLength_read (hk ▸ hn) hr
    simp [simple, ho, boundedLength_of_ne hne, bind, Except.bind]
  | unboundedVarchar hn | unboundedVarbinary hn =>
    obtain ⟨o, ho, hm⟩ := optLength_read (hk ▸ hn) hr
    simp [simple, ho, hm, boundedLength, unbounded, bind, Except.bind]

theorem nullability_read {b : Bool} (h : Nullness b (ls.map Lexeme.token))
    (hr : ∀ l ∈ rest.head?, l.token ≠ .word "NOT" ∧ l.token ≠ .word "NULL") :
    nullability (ls ++ rest) = .ok (b, rest) := by
  generalize hk : ls.map Lexeme.token = ks at h
  cases h with
  | unsaid =>
    obtain rfl := List.map_eq_nil_iff.mp hk
    cases rest with
    | nil => rfl
    | cons l rest =>
      obtain ⟨hnot, hnull⟩ := hr l rfl
      simp [nullability, hnot, hnull]
  | null =>
    obtain ⟨_, _, ms, rfl, hk₁⟩ := exists_cons hk
    obtain rfl := List.map_eq_nil_iff.mp hk₁
    simp [nullability]
  | notNull =>
    obtain ⟨_, _, ms, rfl, hk₁⟩ := exists_cons hk
    obtain ⟨_, _, ms, rfl, hk₂⟩ := exists_cons hk₁
    obtain rfl := List.map_eq_nil_iff.mp hk₂
    simp [nullability, expect, bind, Except.bind]

theorem stops_nullness {b : Bool} (h : Nullness b (ls.map Lexeme.token)) (hs : Stops t rest) :
    Stops t (ls ++ rest) := by
  generalize hk : ls.map Lexeme.token = ks at h
  cases h with
  | unsaid =>
    obtain rfl := List.map_eq_nil_iff.mp hk
    exact hs
  | null | notNull =>
    obtain ⟨_, _, ms, rfl, hk₁⟩ := exists_cons hk
    rintro _ ⟨⟩
    exact .inl rfl

end Read

theorem Atom.head {t : LogicalType} {ks : List TypeToken} (h : Atom t ks) :
    ∃ w, ks.head? = some (.word w) := by
  cases h <;> exact ⟨_, rfl⟩

/-- A type that the grammar has is not kept as it was written. -/
theorem ne_unsupported_of_derives {t : LogicalType} {ls : List Lexeme}
    (h : Derives (.type t) ls) (raw : String) : t ≠ .unsupported raw := by
  rintro rfl
  cases h with
  | scalar ha =>
    generalize ls.map Lexeme.token = ks at ha
    cases ha with
    | name hn => simp [names] at hn

theorem dropLiteral_read {ls rest : List Lexeme} (h : Comment (ls.map Lexeme.token))
    (hr : ∀ l ∈ rest.head?, l.token ≠ .literal) : dropLiteral (ls ++ rest) = rest := by
  generalize hk : ls.map Lexeme.token = ks at h
  cases h with
  | unsaid =>
    obtain rfl := List.map_eq_nil_iff.mp hk
    rw [List.nil_append]
    unfold dropLiteral
    split
    · exact absurd rfl (hr _ rfl)
    · rfl
  | literal =>
    obtain ⟨_, _, ms, rfl, hk₁⟩ := exists_cons hk
    obtain rfl := List.map_eq_nil_iff.mp hk₁
    rfl

/-- A comment is no part of a type and says nothing about null. -/
theorem stops_comment {t : LogicalType} {ls rest : List Lexeme}
    (h : Comment (ls.map Lexeme.token)) (ht : ∀ raw, t ≠ .unsupported raw) {l : Lexeme}
    (he : endsUnknown 0 l.token = true) (hn : l.token ≠ .word "NOT" ∧ l.token ≠ .word "NULL") :
    Stops t (ls ++ l :: rest) ∧
      ∀ m ∈ (ls ++ l :: rest).head?, m.token ≠ .word "NOT" ∧ m.token ≠ .word "NULL" := by
  generalize hk : ls.map Lexeme.token = ks at h
  cases h with
  | unsaid =>
    obtain rfl := List.map_eq_nil_iff.mp hk
    refine ⟨?_, ?_⟩
    · rintro _ ⟨⟩; exact .inl he
    · rintro _ ⟨⟩; exact hn
  | literal =>
    obtain ⟨_, _, ms, rfl, hk₁⟩ := exists_cons hk
    refine ⟨?_, ?_⟩
    · rintro _ ⟨⟩; exact .inr ⟨rfl, ht⟩
    · rintro _ ⟨⟩; exact ⟨by rintro ⟨⟩, by rintro ⟨⟩⟩

theorem fieldName_read {name : String} {l : Lexeme} (h : IsName name l) (rest : List Lexeme) :
    fieldName (l :: rest) = .ok (name, rest) := by
  obtain ⟨gap, text, token⟩ := l
  cases h with
  | quoted hl => cases hl; rfl
  | word hl => cases hl; rfl

/-! ### Whole phrases -/

/-- The phrase is read wherever nothing follows that could belong to it. -/
def IsRead : Phrase → List Lexeme → Prop
  | .type t, ls => ∀ rest, Stops t rest → ∀ fuel, (ls ++ rest).length ≤ fuel →
      type fuel (ls ++ rest) = .ok (t, rest)
  | .fields fs, ls => ∀ o l rest, Brackets o l.token →
      peek (ls ++ l :: rest) ≠ some l.token ∧ ∀ fuel, (ls ++ l :: rest).length ≤ fuel →
        fields fuel l.token (ls ++ l :: rest) = .ok (fs, rest)

theorem isRead_scalar {t : LogicalType} {ls : List Lexeme} (h : Atom t (ls.map Lexeme.token)) :
    IsRead (.type t) ls := by
  intro rest hs fuel hf
  obtain ⟨w, hw⟩ := h.head
  cases ls with
  | nil => cases hw
  | cons l ls =>
    have hl : l.token = .word w := Option.some.inj hw
    rw [List.map_cons, hl] at h
    exact LogicalType.type_of_simple hl (simple_of_atom h hs _) hf

theorem isRead_array {e : LogicalType} {a o c : Lexeme} {es ns : List Lexeme} {b : Bool}
    (ha : a.token = .word "ARRAY") (ho : o.token = .lt) (he : IsRead (.type e) es)
    (hn : Nullness b (ns.map Lexeme.token)) (hc : c.token = .gt) :
    IsRead (.type (.array e)) (a :: o :: (es ++ (ns ++ [c]))) := by
  intro rest _ fuel hf
  have hstop : Stops e (c :: rest) := by
    rintro _ ⟨⟩
    exact .inl (hc ▸ rfl)
  have hnull : nullability (ns ++ c :: rest) = .ok (b, c :: rest) :=
    nullability_read hn (by rintro _ ⟨⟩; simp [hc])
  simp only [List.cons_append, List.append_assoc, List.nil_append, List.length_cons] at hf ⊢
  cases fuel with
  | zero => cases hf
  | succ fuel =>
    exact type_array ha ho hc (he _ (stops_nullness hn hstop) fuel (by omega)) hnull

theorem type_brackets {l o : Lexeme} {close : TypeToken} (hl : l.token = .word "ROW")
    (hb : Brackets o.token close) (fuel : Nat) (ts : List Lexeme) :
    type (fuel + 1) (l :: o :: ts) = row fuel close ts := by
  refine type_row hl ?_
  generalize o.token = k at hb
  cases hb with
  | angle => exact .inl ⟨rfl, rfl⟩
  | round => exact .inr ⟨rfl, rfl⟩

theorem isRead_emptyRow {r o c : Lexeme} (hr : r.token = .word "ROW")
    (hb : Brackets o.token c.token) : IsRead (.type (.row [])) [r, o, c] := by
  intro rest _ fuel hf
  cases fuel with
  | zero => cases hf
  | succ fuel =>
    refine (type_brackets hr hb fuel (c :: rest)).trans ?_
    rw [row]
    exact if_pos rfl

theorem isRead_row {fs : List (String × LogicalType)} {r o c : Lexeme} {ls : List Lexeme}
    (hr : r.token = .word "ROW") (hb : Brackets o.token c.token) (h : IsRead (.fields fs) ls) :
    IsRead (.type (.row fs)) (r :: o :: (ls ++ [c])) := by
  intro rest _ fuel hf
  simp only [List.cons_append, List.append_assoc, List.nil_append, List.length_cons] at hf ⊢
  obtain ⟨hpeek, hfields⟩ := h o.token c rest hb
  cases fuel with
  | zero => cases hf
  | succ fuel =>
    rw [type_brackets hr hb, row, if_neg hpeek, hfields fuel (by omega)]
    rfl

/-- The tokens behind a field: a comma or a closing bracket. -/
theorem brackets_close {o c : TypeToken} (h : Brackets o c) : endsUnknown 0 c = true ∧
    c ≠ .word "NOT" ∧ c ≠ .word "NULL" ∧ c ≠ .literal ∧ c ≠ .comma := by
  cases h <;> simp [endsUnknown]

section Field

variable {name : String} {t : LogicalType} {n c : Lexeme} {ls ns ks rest : List Lexeme} {b : Bool}

theorem peek_of_isName (hn : IsName name n) {o close : TypeToken} (hb : Brackets o close) :
    peek (n :: rest) ≠ some close := by
  cases hn with
  | quoted hl | word hl =>
    rw [peek, List.head?_cons, Option.map_some, hl]
    cases hb <;> rintro ⟨⟩

/-- A field is read up to the token behind it. -/
theorem field_read (hn : IsName name n) (h : IsRead (.type t) ls)
    (ht : ∀ raw, t ≠ .unsupported raw) (hnull : Nullness b (ns.map Lexeme.token))
    (hk : Comment (ks.map Lexeme.token)) (he : endsUnknown 0 c.token = true)
    (hc : c.token ≠ .word "NOT" ∧ c.token ≠ .word "NULL") (hlit : c.token ≠ .literal)
    {close : TypeToken} {fuel : Nat} (hf : (ls ++ (ns ++ (ks ++ c :: rest))).length ≤ fuel) :
    fields (fuel + 1) close (n :: (ls ++ (ns ++ (ks ++ c :: rest)))) =
      if c.token = .comma then (fields fuel close rest).map fun r => ((name, t) :: r.1, r.2)
      else if c.token = close then .ok ([(name, t)], rest)
      else .error .unterminatedRow := by
  have hbehind : Stops t (ks ++ c :: rest) ∧
      ∀ m ∈ (ks ++ c :: rest).head?, m.token ≠ .word "NOT" ∧ m.token ≠ .word "NULL" :=
    stops_comment hk ht he hc
  obtain ⟨hstop, hne⟩ := hbehind
  exact fields_named (fieldName_read hn _) (h _ (stops_nullness hnull hstop) fuel hf)
    (nullability_read hnull hne) (dropLiteral_read hk (by rintro _ ⟨⟩; exact hlit))

end Field

/-- Each phrase of the grammar is read. -/
theorem isRead_of_derives {p : Phrase} {ls : List Lexeme} (h : Derives p ls) : IsRead p ls := by
  induction h with
  | scalar ha => exact isRead_scalar ha
  | array ha ho _ hn hc ih => exact isRead_array ha ho ih hn hc
  | emptyRow hr hb => exact isRead_emptyRow hr hb
  | row hr hb _ ih => exact isRead_row hr hb ih
  | lastField hn ht hnull hk ih =>
    intro o l rest hb
    refine ⟨peek_of_isName hn hb, fun fuel hf => ?_⟩
    obtain ⟨he, hnot, hnul, hlit, hcomma⟩ := brackets_close hb
    simp only [List.cons_append, List.append_assoc, List.length_cons] at hf ⊢
    cases fuel with
    | zero => cases hf
    | succ fuel =>
      rw [field_read hn ih (ne_unsupported_of_derives ht) hnull hk he ⟨hnot, hnul⟩ hlit (by omega),
        if_neg hcomma, if_pos rfl]
  | @field name t fs n c ls ns ks ms b hn ht hnull hk hc _ ih ihs =>
    intro o l rest hb
    refine ⟨peek_of_isName hn hb, fun fuel hf => ?_⟩
    obtain ⟨-, hmore⟩ := ihs o l rest hb
    simp only [List.cons_append, List.append_assoc, List.length_cons] at hf ⊢
    cases fuel with
    | zero => cases hf
    | succ fuel =>
      have hlength : (ms ++ l :: rest).length ≤ fuel := by
        simp only [List.length_append, List.length_cons] at hf ⊢
        omega
      rw [field_read hn ih (ne_unsupported_of_derives ht) hnull hk (by rw [hc]; rfl)
        (by simp [hc]) (by simp [hc]) (by omega), if_pos hc, hmore fuel hlength]
      rfl

/-! ### Columns -/

theorem attributeOf_eq_ok_iff {m : String} {a : TimeAttribute} :
    attributeOf m = .ok a ↔ m = a.marker := by
  constructor
  · intro h
    unfold attributeOf at h
    split at h
    next hm => cases h; exact hm
    split at h
    next hm => cases h; exact hm
    next => cases h
  · rintro rfl
    exact MarkerText.attributeOf_marker a

/-- Markers are read to the end exactly if all of them are known, and the last one counts. -/
theorem attributes_eq_ok_iff {seen a : Option TimeAttribute} {ls : List Lexeme} :
    attributes seen ls = .ok (a, []) ↔ ∃ as : List TimeAttribute,
      ls.map Lexeme.token = as.map (fun a => .marker a.marker) ∧ a = as.getLast?.or seen := by
  induction ls generalizing seen with
  | nil =>
    constructor
    · intro h
      cases h
      exact ⟨[], rfl, rfl⟩
    · rintro ⟨as, has, rfl⟩
      obtain rfl := List.map_eq_nil_iff.mp has.symm
      rfl
  | cons l ls ih =>
    have hlast (first : TimeAttribute) (as : List TimeAttribute) :
        (first :: as).getLast?.or seen = as.getLast?.or (some first) := by
      rw [List.getLast?_cons]
      cases as.getLast? <;> rfl
    constructor
    · intro h
      unfold attributes at h
      split at h
      next gap text m rest hl =>
        cases hl
        split at h
        · cases h
        next first hm =>
          obtain ⟨as, has, rfl⟩ := ih.mp h
          obtain rfl := attributeOf_eq_ok_iff.mp hm
          exact ⟨first :: as, by simp [has], (hlast first as).symm⟩
      next => cases h
    · rintro ⟨as, has, rfl⟩
      obtain ⟨first, as, rfl, hfirst, hrest⟩ := List.map_eq_cons_iff.mp has.symm
      obtain ⟨gap, text, token⟩ := l
      cases hfirst
      have hread : attributes (some first) ls = .ok ((first :: as).getLast?.or seen, []) :=
        ih.mpr ⟨as, hrest.symm, hlast first as⟩
      simp only [attributes, MarkerText.attributeOf_marker, hread]

/-- Markers are no part of a type and say nothing about null. -/
theorem stops_markers (t : LogicalType) {as : List TimeAttribute} {ls : List Lexeme}
    (h : ls.map Lexeme.token = as.map (fun a => .marker a.marker)) : Stops t ls ∧
      ∀ l ∈ ls.head?, l.token ≠ .word "NOT" ∧ l.token ≠ .word "NULL" := by
  cases ls with
  | nil => exact ⟨stops_nil t, by rintro _ ⟨⟩⟩
  | cons l ls =>
    obtain ⟨a, as, rfl, ha, -⟩ := List.map_eq_cons_iff.mp h.symm
    refine ⟨?_, ?_⟩
    · rintro _ ⟨⟩; exact .inl (by rw [← ha]; rfl)
    · rintro _ ⟨⟩; exact ⟨by rw [← ha]; rintro ⟨⟩, by rw [← ha]; rintro ⟨⟩⟩

/-- The lexemes from which a column with a supported type is read. -/
theorem columnType_eq_ok_iff {c : ColumnType} (hc : c.dataType.Supported) {ls : List Lexeme} :
    columnType ls = .ok c ↔ DerivesColumn c ls := by
  constructor
  · intro h
    obtain ⟨⟨t, ts₁⟩, htype, h⟩ := bind_eq_ok_iff.mp h
    obtain ⟨⟨b, ts₂⟩, hnull, h⟩ := bind_eq_ok_iff.mp h
    obtain ⟨⟨a, ts₃⟩, hattr, hend⟩ := bind_eq_ok_iff.mp h
    dsimp only at hend
    split at hend
    next =>
      cases hend
      obtain ⟨ls, rfl, hderives⟩ := (takes _).1 _ _ htype hc
      obtain ⟨ns, rfl, hn⟩ := takes_nullability ts₁ _ hnull
      obtain ⟨as, has, rfl⟩ := attributes_eq_ok_iff.mp hattr
      rw [Option.or_none]
      exact .column hderives hn has
    next => cases hend
  · intro h
    obtain @⟨t, b, as, ls, ns, ms, hderives, hn, has⟩ := h
    obtain ⟨hstop, hne⟩ := stops_markers t has
    have htype := isRead_of_derives hderives _ (stops_nullness hn hstop) _ (Nat.le_refl _)
    have hattr : attributes none ms = .ok (as.getLast?, []) :=
      attributes_eq_ok_iff.mpr ⟨as, has, Option.or_none.symm⟩
    exact bind_eq_ok_iff.mpr ⟨_, htype, bind_eq_ok_iff.mpr ⟨_, nullability_read hn hne,
      bind_eq_ok_iff.mpr ⟨_, hattr, rfl⟩⟩⟩

end TypeGrammar

namespace ColumnType

open TypeGrammar

/-- A column with a supported type is read from the lexemes that the grammar gives it, from no
others, and from the texts that have such lexemes. -/
theorem parse_eq_ok_iff_derives {c : ColumnType} (hc : c.dataType.Supported) :
    (∀ ls, columnType ls = .ok c ↔ DerivesColumn c ls) ∧
      ∀ raw, parse raw = .ok c ↔ ∃ ls, Scans raw.toList ls ∧ DerivesColumn c ls := by
  refine ⟨fun ls => columnType_eq_ok_iff hc, fun raw => ?_⟩
  have hparse : parse raw = .ok c ↔ (Lexeme.ofText raw >>= columnType) = .ok c := by
    unfold parse
    split <;> rename_i h <;> simp [h]
  rw [hparse, bind_eq_ok_iff]
  refine exists_congr fun ls => ?_
  rw [ofText_iff, columnType_eq_ok_iff hc]

/-- A row with a comment, and with names and defaults that its printed text does not have. -/
def aliasedRow : LogicalType :=
  .row [("amount", .decimal 38 0), ("b c", .array (.timestampLtz (some 3)))]

def aliasedText : String :=
  "ROW(amount DEC(38) NULL 'x', `b c` ARRAY<TIMESTAMP(3) WITH LOCAL TIME ZONE NOT NULL>) " ++
    "NOT NULL *rowtime* *PROCTIME*"

theorem parse_eq_ok_iff_derives_aliasedRow : aliasedRow.Supported ∧
    ∃ ls, Scans aliasedText.toList ls ∧ DerivesColumn ⟨aliasedRow, false, some .procTime⟩ ls := by
  have hs : aliasedRow.Supported := by
    intro raw h
    cases h with
    | field hf hi =>
      simp only [List.mem_cons, List.not_mem_nil, or_false] at hf
      rcases hf with rfl | rfl
      · cases hi
      · cases hi with | element hi => cases hi
  exact ⟨hs, ((parse_eq_ok_iff_derives hs).2 _).mp (by cbv)⟩

end ColumnType

end StreamPipeline
