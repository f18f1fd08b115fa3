import StreamPipeline.Proofs.Schema.TokenText

/-! # Lexemes of type texts

The lexemes of a text as a relation without fuel. A text has the lexemes that are spelled in it and
no others.
-/

namespace StreamPipeline

open Text

namespace Lexeme

/-- The lexemes of a text. -/
inductive Scans : List Char → List Lexeme → Prop where
  | done {cs : List Char} : next (cs.dropWhile isGap) = .ok none → Scans cs []
  | step {cs text rest : List Char} {token : TypeToken} {lexemes : List Lexeme} :
      next (cs.dropWhile isGap) = .ok (some (text, token, rest)) → Scans rest lexemes →
      Scans cs (⟨cs.takeWhile isGap, text, token⟩ :: lexemes)

theorem length_of_next {cs text rest : List Char} {token : TypeToken}
    (h : next (cs.dropWhile isGap) = .ok (some (text, token, rest))) : rest.length < cs.length := by
  obtain ⟨he, hs, -⟩ := spells_of_next h
  obtain ⟨c, text, rfl, -⟩ := hs.cons
  have hl := congrArg List.length he
  have hd := (List.dropWhile_suffix isGap (l := cs)).length_le
  rw [List.length_append, List.length_cons] at hl
  omega

theorem scan_iff {fuel : Nat} {cs : List Char} {lexemes : List Lexeme} (hf : cs.length ≤ fuel) :
    scan fuel cs = .ok lexemes ↔ Scans cs lexemes := by
  induction fuel generalizing cs lexemes with
  | zero =>
    obtain rfl := List.length_eq_zero_iff.mp (Nat.le_zero.mp hf)
    constructor
    · intro h; cases h; exact .done rfl
    · intro h
      cases h with
      | done => rfl
      | step hn => cases hn
  | succ fuel ih =>
    unfold scan
    constructor
    · intro h
      split at h
      · cases h
      next hn => cases h; exact .done hn
      next text token rest hn =>
        split at h
        · cases h
        next ls hs =>
          cases h
          have := length_of_next hn
          exact .step hn ((ih (by omega)).mp hs)
    · intro h
      cases h with
      | done hn => rw [hn]
      | step hn hs =>
        have := length_of_next hn
        simp only [hn, (ih (by omega)).mpr hs]

/-- The lexemes of a text are those of its characters. -/
theorem ofText_iff {raw : String} {lexemes : List Lexeme} :
    ofText raw = .ok lexemes ↔ Scans raw.toList lexemes :=
  scan_iff (Nat.le_of_eq String.length_toList)

/-! ### Lexemes one by one -/

/-- Blanks, a spelling that ends, and the lexemes of what follows it. -/
theorem Scans.spelled {gap text rest : List Char} {token : TypeToken} {lexemes : List Lexeme}
    (hg : ∀ a ∈ gap, isGap a = true) (h : Spells text token) (hr : Ends token rest)
    (hs : Scans rest lexemes) : Scans (gap ++ (text ++ rest)) (⟨gap, text, token⟩ :: lexemes) := by
  have hh : ∀ a ∈ (text ++ rest).head?, isGap a = false := by
    obtain ⟨c, cs, rfl, hc⟩ := h.cons
    rintro a ⟨⟩
    exact hc
  have hn : next ((gap ++ (text ++ rest)).dropWhile isGap) = .ok (some (text, token, rest)) := by
    rw [dropWhile_stop hg hh]
    exact next_of_spells h hr
  have hscan := Scans.step hn hs
  rwa [takeWhile_stop hg hh] at hscan

/-- The first lexeme of a text: its blanks, its spelling and its end. -/
theorem Scans.uncons {cs : List Char} {l : Lexeme} {lexemes : List Lexeme}
    (h : Scans cs (l :: lexemes)) : ∃ rest, cs = l.gap ++ (l.text ++ rest) ∧
      (∀ a ∈ l.gap, isGap a = true) ∧ Spells l.text l.token ∧ Ends l.token rest ∧
        Scans rest lexemes := by
  cases h with
  | step hn hs =>
    obtain ⟨hd, hsp, he⟩ := next_iff.mp hn
    refine ⟨_, ?_, List.all_eq_true.mp List.all_takeWhile, hsp, he, hs⟩
    rw [← hd, List.takeWhile_append_dropWhile]

theorem scans_blank {cs : List Char} (h : ∀ a ∈ cs, isGap a = true) : Scans cs [] := by
  have hd : (cs ++ []).dropWhile isGap = [] := dropWhile_stop h (by simp)
  rw [List.append_nil] at hd
  exact .done (by rw [hd]; rfl)

theorem blank_of_scans_nil {cs : List Char} (h : Scans cs []) : ∀ a ∈ cs, isGap a = true := by
  cases h with
  | done hn =>
    rw [← List.takeWhile_append_dropWhile (p := isGap) (l := cs), next_none hn, List.append_nil]
    exact List.all_eq_true.mp List.all_takeWhile

/-- The first character of a text that is no blank belongs to its first lexeme. -/
theorem Scans.head {cs : List Char} {ls : List Lexeme} (h : Scans cs ls) {c : Char}
    (hc : c ∈ cs.head?) (hg : isGap c = false) :
    ∃ l ∈ ls.head?, c ∈ l.text.head? ∧ Spells l.text l.token := by
  cases ls with
  | nil =>
    rw [blank_of_scans_nil h c (List.mem_of_mem_head? hc)] at hg
    cases hg
  | cons l ls =>
    obtain ⟨rest, rfl, hgap, hs, -, -⟩ := h.uncons
    obtain ⟨d, ds, hd, -⟩ := hs.cons
    refine ⟨l, rfl, ?_, hs⟩
    rw [List.head?_append] at hc
    rcases Option.or_eq_some_iff.mp hc with hc | ⟨-, hc⟩
    · rw [hgap c (List.mem_of_mem_head? hc)] at hg
      cases hg
    · simpa [hd] using hc

/-- A quoted token ends where no token with the same quotes begins. -/
theorem Scans.ends_quoted {cs : List Char} {ls : List Lexeme} (h : Scans cs ls) {q : Char}
    (hq : q = '\x60' ∨ q = '\'') (hl : ∀ l ∈ ls.head?, continues l.token q = false) :
    ∀ c ∈ cs.head?, (c == q) = false := by
  refine fun c hc => beq_false_of_ne ?_
  rintro rfl
  have hg : isGap c = false := by rcases hq with rfl | rfl <;> rfl
  obtain ⟨l, hls, hd, hs⟩ := h.head hc hg
  exact absurd (hs.continues_of_quote hq hd) (by simp [hl l hls])

end Lexeme

end StreamPipeline
