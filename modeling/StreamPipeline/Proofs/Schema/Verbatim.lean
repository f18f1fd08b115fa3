import StreamPipeline.Proofs.Schema.ColumnText
import StreamPipeline.Proofs.Schema.Steps

/-! # Types kept as written

A type outside the supported domain is a run of the lexemes of its text. The run is a piece of that
text, the piece has the same lexemes wherever it stands, and the reader stops behind them again, so
what is printed for a type that was read is read as that type.
-/

namespace StreamPipeline

open Lexeme TypeParser

namespace Lexeme

/-! ### Runs of lexemes -/

@[simp] theorem spelled_cons_cons (l m : Lexeme) (ms : List Lexeme) :
    spelled (l :: m :: ms) = l.text ++ (m.gap ++ spelled (m :: ms)) := by
  simp [spelled]

/-- The first characters of a run do not depend on what comes after it. -/
theorem head_spelled {m : Lexeme} (hm : Spells m.text m.token) (ms : List Lexeme)
    (rest rest' : List Char) : (m.gap ++ (spelled (m :: ms) ++ rest)).head? =
      (m.gap ++ (m.text ++ rest')).head? := by
  obtain ⟨c, cs, hc, -⟩ := hm.cons
  simp [spelled, hc, List.head?_append]

/-- A run of lexemes of a text is a piece of the text, and what comes after it has the lexemes after
it. -/
theorem Scans.run {cs : List Char} {l : Lexeme} {tail ls : List Lexeme}
    (h : Scans cs (l :: (tail ++ ls))) :
    ∃ rest, cs = l.gap ++ (Lexeme.spelled (l :: tail) ++ rest) ∧ Scans rest ls := by
  induction tail generalizing cs l with
  | nil =>
    obtain ⟨rest, hcs, -, -, -, hs⟩ := h.uncons
    exact ⟨rest, by simpa [Lexeme.spelled] using hcs, hs⟩
  | cons m tail ih =>
    obtain ⟨rest, hcs, -, -, -, hs⟩ := h.uncons
    obtain ⟨rest', hrest, hs'⟩ := ih hs
    exact ⟨rest', by rw [hcs, hrest]; simp, hs'⟩

/-- A run of lexemes is found again where its characters stand, if the last of them ends there. -/
theorem Scans.rerun {cs rest : List Char} {l : Lexeme} {tail ls ls' : List Lexeme}
    (h : Scans cs (l :: (tail ++ ls))) (hs : Scans rest ls')
    (he : ∀ m ∈ (l :: tail).getLast?, Ends m.token rest) (g : Blanks) :
    Scans (g ++ (Lexeme.spelled (l :: tail) ++ rest)) (⟨g, l.text, l.token⟩ :: (tail ++ ls')) := by
  induction tail generalizing cs l g with
  | nil =>
    obtain ⟨-, -, -, hl, -, -⟩ := h.uncons
    have hscan := hs.spelled g.blank hl (he l rfl)
    simpa [Lexeme.spelled] using hscan
  | cons m tail ih =>
    obtain ⟨rest₁, -, -, hl, hend, h₁⟩ := h.uncons
    obtain ⟨rest₂, hrest, hgap, hm, -, -⟩ := h₁.uncons
    have hmore := ih h₁ (fun a ha => he a (by simpa using ha)) ⟨m.gap, hgap⟩
    have hend' : Ends l.token (m.gap ++ (Lexeme.spelled (m :: tail) ++ rest)) := by
      unfold Ends
      rw [head_spelled hm tail rest rest₂, ← hrest]
      exact hend
    have hscan := hmore.spelled g.blank hl hend'
    simpa using hscan

theorem Scans.spells {cs : List Char} {ls : List Lexeme} (h : Scans cs ls) :
    ∀ l ∈ ls, Spells l.text l.token := by
  induction ls generalizing cs with
  | nil => rintro _ ⟨⟩
  | cons l ls ih =>
    obtain ⟨rest, -, -, hl, -, hs⟩ := h.uncons
    exact List.forall_mem_cons.mpr ⟨hl, ih hs⟩

/-- An end of the lexemes of a text is that of an end of the text. -/
theorem Scans.suffix {cs : List Char} {ls ms : List Lexeme} (h : Scans cs ls) (hs : ms <:+ ls) :
    ∃ ds, ds <:+ cs ∧ Scans ds ms := by
  induction ls generalizing cs with
  | nil =>
    obtain rfl := List.suffix_nil.mp hs
    exact ⟨cs, List.suffix_rfl, h⟩
  | cons l ls ih =>
    rcases List.suffix_cons_iff.mp hs with rfl | hs
    · exact ⟨cs, List.suffix_rfl, h⟩
    · obtain ⟨rest, hcs, -, -, -, hrest⟩ := h.uncons
      obtain ⟨ds, hds, hscan⟩ := ih hrest hs
      refine ⟨ds, hds.trans ⟨l.gap ++ l.text, ?_⟩, hscan⟩
      rw [hcs, List.append_assoc]

/-- A run ends with the spelling of its last lexeme. -/
theorem getLast_spelled {l m : Lexeme} {tail : List Lexeme} (h : m ∈ (l :: tail).getLast?) :
    m.text <:+ spelled (l :: tail) := by
  induction tail generalizing l with
  | nil => cases h; exact ⟨[], by simp [spelled]⟩
  | cons k tail ih =>
    have hs := ih (l := k) (by simpa using h)
    rw [spelled_cons_cons, ← List.append_assoc]
    exact hs.trans (List.suffix_append _ _)

end Lexeme

namespace TypeParser

/-! ### Unknown types -/

/-- Lexemes behind which an unknown type ends if it ended before others: a type that took all of its
text may still be inside brackets, and ends nowhere else. -/
def EndsAs (others ls : List Lexeme) : Prop :=
  ∀ l ∈ ls.head?, others ≠ [] ∧ endsUnknown 0 l.token = true

theorem endsAs_nil (others : List Lexeme) : EndsAs others [] := by rintro _ ⟨⟩

theorem unknownTail_again {depth : Nat} {ts tail others ls : List Lexeme}
    (h : unknownTail depth ts = (tail, others)) (hl : EndsAs others ls) :
    unknownTail depth (tail ++ ls) = (tail, ls) := by
  induction ts generalizing depth tail with
  | nil =>
    -- The run took all there was, perhaps inside brackets, so only the end may follow it.
    cases h
    cases ls with
    | nil => rfl
    | cons l ls => exact absurd rfl (hl l rfl).1
  | cons l ts ih =>
    rw [unknownTail] at h
    split at h
    next he =>
      cases h
      cases ls with
      | nil => rfl
      | cons m ls =>
        have hz : depth = 0 := by
          simp only [endsUnknown, Bool.and_eq_true, beq_iff_eq] at he
          exact he.1
        subst hz
        rw [List.nil_append, unknownTail, if_pos (hl m rfl).2]
    next he =>
      cases h
      rw [List.cons_append, unknownTail, if_neg he, ih rfl]

/-! ### Time stamps with a time zone -/

theorem takeWord_true {w : String} {ts rest : List Lexeme} (h : takeWord w ts = (true, rest)) :
    ∃ l, l.token = .word w ∧ ts = l :: rest := by
  cases ts with
  | nil => cases h
  | cons l ts =>
    rw [takeWord] at h
    split at h
    next hl => cases h; exact ⟨l, hl, rfl⟩
    next => cases h

theorem takeWord_false {w : String} {ts rest : List Lexeme} (h : takeWord w ts = (false, rest)) :
    ts = rest := by
  cases ts with
  | nil => cases h; rfl
  | cons l ts =>
    rw [takeWord] at h
    split at h
    · cases h
    · cases h; rfl

theorem expect_ok {t : TypeToken} {u : Unit} {ts rest : List Lexeme}
    (h : expect t ts = .ok (u, rest)) : ∃ l, l.token = t ∧ ts = l :: rest := by
  cases ts with
  | nil => cases h
  | cons l ts =>
    rw [expect] at h
    split at h
    next hl => cases h; exact ⟨l, hl, rfl⟩
    next => cases h

theorem number_again {n : UInt32} {ts rest : List Lexeme} (h : number ts = .ok (n, rest)) :
    ∃ l, ts = l :: rest ∧ ∀ ls, number (l :: ls) = .ok (n, ls) := by
  unfold number at h
  split at h
  · cases h; exact ⟨_, rfl, fun _ => rfl⟩
  · cases h

/-- A precision in front of a word, and no precision there, is read the same whatever follows the
word. -/
theorem optPrecision_again {p : Option UInt8} {ts others : List Lexeme} {l : Lexeme} {w : String}
    (h : optPrecision ts = .ok (p, l :: others)) (hl : l.token = .word w) :
    ∃ size, ts = size ++ l :: others ∧
      ∀ ls, optPrecision (size ++ l :: ls) = .ok (p, l :: ls) := by
  unfold optPrecision at h
  obtain ⟨⟨n, ts'⟩, hn, h⟩ := bind_eq_ok_iff.mp h
  unfold optLength at hn
  split at hn
  next gap text rest =>
    obtain ⟨⟨k, rest⟩, hk, hn⟩ := bind_eq_ok_iff.mp hn
    obtain ⟨⟨_, rest⟩, hr, hn⟩ := bind_eq_ok_iff.mp hn
    cases hn
    obtain ⟨q, hq, h⟩ := bind_eq_ok_iff.mp h
    cases h
    obtain ⟨m, rfl, hm⟩ := number_again hk
    obtain ⟨c, hc, rfl⟩ := expect_ok hr
    refine ⟨[⟨gap, text, .lparen⟩, m, c], rfl, fun ls => ?_⟩
    simp [optPrecision, optLength, hm, expect, hc, hq, bind, Except.bind]
  next hp =>
    cases hn
    cases h
    refine ⟨[], rfl, fun ls => ?_⟩
    obtain ⟨gap, text, token⟩ := l
    cases hl
    rfl

theorem consumed_append (l : Lexeme) (tail rest : List Lexeme) :
    consumed (l :: (tail ++ rest)) rest = l :: tail := by
  rw [consumed, ← List.cons_append, List.length_append, Nat.add_sub_cancel, List.take_left]

theorem withoutTimeZone_false {ts rest : List Lexeme}
    (h : withoutTimeZone ts = .ok (false, rest)) : ts = rest := by
  unfold withoutTimeZone at h
  split at h
  · obtain ⟨_, -, h⟩ := bind_eq_ok_iff.mp h
    cases h
  next hw => cases h; exact takeWord_false hw

/-- A time stamp with a time zone is read again up to the same word, whatever follows. -/
theorem timestamp_again {l : Lexeme} {ts others : List Lexeme} {raw : String}
    (h : timestamp (l :: ts) ts = .ok (.unsupported raw, others)) :
    ∃ tail, ts = tail ++ others ∧ raw = String.ofList (spelled (l :: tail)) ∧
      ∀ (m : Lexeme) (ls : List Lexeme), timestamp (m :: (tail ++ ls)) (tail ++ ls) =
        .ok (.unsupported (String.ofList (spelled (m :: tail))), ls) := by
  unfold timestamp at h
  obtain ⟨⟨p, ts₁⟩, hp, h⟩ := bind_eq_ok_iff.mp h
  obtain ⟨⟨without, ts₂⟩, ho, h⟩ := bind_eq_ok_iff.mp h
  dsimp only at h
  split at h
  · cases h
  next hwithout =>
  split at h
  · cases h
  next ts₃ hwith =>
  split at h
  · obtain ⟨_, -, h⟩ := bind_eq_ok_iff.mp h
    cases h
  next ts₄ hlocal =>
  obtain ⟨⟨_, rest⟩, hwords, h⟩ := bind_eq_ok_iff.mp h
  cases h
  obtain ⟨⟨_, ts₅⟩, htime, hwords⟩ := bind_eq_ok_iff.mp hwords
  obtain ⟨⟨_, ts₆⟩, hzone, hwords⟩ := bind_eq_ok_iff.mp hwords
  cases hwords
  obtain ⟨z, hz, rfl⟩ := expect_ok hzone
  obtain ⟨t, ht, rfl⟩ := expect_ok htime
  obtain rfl := takeWord_false hlocal
  obtain ⟨w, hw, rfl⟩ := takeWord_true hwith
  obtain rfl := Bool.eq_false_iff.mpr hwithout
  obtain rfl := withoutTimeZone_false ho
  obtain ⟨size, rfl, hsize⟩ := optPrecision_again hp hw
  have htail : size ++ w :: t :: z :: rest = size ++ [w, t, z] ++ rest := by simp
  rw [htail, consumed_append]
  refine ⟨size ++ [w, t, z], rfl, rfl, fun m ls => ?_⟩
  have hread : withoutTimeZone (w :: t :: z :: ls) = .ok (false, w :: t :: z :: ls) := by
    simp [withoutTimeZone, takeWord, hw]
  have hread' : timestamp (m :: (size ++ [w, t, z] ++ ls)) (size ++ w :: t :: z :: ls) =
      .ok (.unsupported
        (String.ofList (spelled (consumed (m :: (size ++ [w, t, z] ++ ls)) ls))), ls) := by
    unfold timestamp
    rw [hsize]
    simp [bind, Except.bind, hread, takeWord, hw, ht, hz, expectWords, expect]
  rw [consumed_append] at hread'
  simpa using hread'

/-! ### The reader of types -/

theorem simple_none {word : String} {whole whole' ts ts' : List Lexeme}
    (h : simple word whole ts = none) : simple word whole' ts' = none := by
  unfold simple at h ⊢
  split at h <;> first | rfl | cases h

/-- A type that is kept as written is a run of lexemes, and it is kept again where the run ends as
it did. -/
theorem type_unsupported {ts others : List Lexeme} {raw : String} {fuel : Nat}
    (h : type fuel ts = .ok (.unsupported raw, others)) :
    ∃ l tail, ts = l :: (tail ++ others) ∧ raw = String.ofList (spelled (l :: tail)) ∧
      ∀ (gap : List Char) (ls : List Lexeme), EndsAs others ls →
        ∀ fuel, (l :: (tail ++ ls)).length ≤ fuel →
          type fuel (⟨gap, l.text, l.token⟩ :: (tail ++ ls)) = .ok (.unsupported raw, ls) := by
  cases ts with
  | nil => rw [type] at h; cases h
  | cons l ts =>
  cases fuel with
  | zero => rw [type] at h; cases h
  | succ fuel =>
  rw [type] at h
  split at h
  next word hword =>
    split at h
    next x hs =>
      subst h
      obtain rfl := (unparted_of_simple hs _ rfl).2 raw rfl
      obtain ⟨tail, rfl, rfl, hagain⟩ := timestamp_again (Option.some.inj hs)
      refine ⟨l, tail, rfl, rfl, fun gap ls _ fuel hf => ?_⟩
      refine LogicalType.type_of_simple (l := ⟨gap, l.text, l.token⟩) hword ?_ hf
      exact congrArg some (hagain _ ls)
    next hs =>
      split at h
      · obtain ⟨_, -, h⟩ := bind_eq_ok_iff.mp h
        obtain ⟨_, -, h⟩ := bind_eq_ok_iff.mp h
        obtain ⟨_, -, h⟩ := bind_eq_ok_iff.mp h
        obtain ⟨_, -, h⟩ := bind_eq_ok_iff.mp h
        cases h
      next harray =>
      split at h
      · split at h
        · obtain ⟨_, ⟨⟩⟩ := yields_row _ _ _ _ h
        · obtain ⟨_, ⟨⟩⟩ := yields_row _ _ _ _ h
        · cases h
      next hrow =>
      cases hu : unknownTail 0 ts with
      | mk tail rest =>
      rw [hu] at h
      cases h
      refine ⟨l, tail, by rw [← unknownTail_append hu], rfl, fun gap ls hl fuel hf => ?_⟩
      cases fuel with
      | zero => cases hf
      | succ fuel =>
        rw [type]
        simp only [hword, simple_none hs, if_neg harray, if_neg hrow, unknownTail_again hu hl]
        rfl
  next => cases h

end TypeParser

end StreamPipeline
