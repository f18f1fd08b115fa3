import StreamPipeline.Proofs.Schema.ByteTokens

/-! # Where tokens stand

The tokens of a type text stand one after the other, each on whole characters, and only blanks stand
outside of them. So a run of tokens is a slice of the text, from where its first token starts to
where its last one stops.
-/

namespace StreamPipeline

open Text

open String (utf8Len)

namespace TypeText

open Guarded

/-! ### Tilings -/

/-- From an offset on, the tokens stand in order on whole characters, and what is in none of them is
blank. -/
structure Tiles (raw : String) (i : Nat) (ts : List Token) : Prop where
  after : ∀ t ∈ ts, i ≤ t.start
  nonempty : ∀ t ∈ ts, t.start < t.stop
  boundary : ∀ t ∈ ts, isBoundary raw t.start ∧ isBoundary raw t.stop
  ordered : ts.Pairwise fun t u => t.stop ≤ u.start
  blank : ∀ k b, i ≤ k → (bytes raw)[k]? = some b → (∀ t ∈ ts, ¬ (t.start ≤ k ∧ k < t.stop)) →
    Lexeme.isGap (byteChar b)

variable {raw : String} {i : Nat} {cs : List Char} {ls : List Lexeme}

theorem isGap_bytes {gap rest : List Char} (h : LeftAt raw i (gap ++ rest))
    (hg : ∀ c ∈ gap, Lexeme.isGap c = true) {k : Nat} {b : UInt8} (hi : i ≤ k)
    (hk : k < i + utf8Len gap) (hb : (bytes raw)[k]? = some b) : Lexeme.isGap (byteChar b) := by
  induction gap generalizing i with
  | nil => exact absurd hk (by simpa using hi)
  | cons c gap ih =>
    obtain ⟨hc, hgap⟩ := List.forall_mem_cons.mp hg
    have ht := h.tail
    rw [String.utf8Len_cons, asciiOnly_isGap.utf8Size hc] at hk
    rw [asciiOnly_isGap.utf8Size hc] at ht
    rcases Nat.eq_or_lt_of_le hi with rfl | hlt
    · obtain ⟨d, hd, hl⟩ := getElem?_bytes h
      rw [hb] at hd
      cases hd
      rwa [hl, asciiOnly_isGap.leadByte]
    · exact ih ht hgap hlt (by omega)

/-- The lexemes of what is left of a text tile it. -/
theorem tiles_placed (h : LeftAt raw i cs) (hs : Lexeme.Scans cs ls) :
    Tiles raw i (placed i ls) := by
  induction ls generalizing i cs with
  | nil =>
    have hg := Lexeme.blank_of_scans_nil hs
    rw [← List.append_nil cs] at h
    refine ⟨by simp [placed], by simp [placed], by simp [placed], .nil, fun k b hi hb _ => ?_⟩
    have hk := (List.getElem?_eq_some_iff.mp hb).1
    have hl := h.length
    rw [List.append_nil] at hl
    exact isGap_bytes h hg hi (by omega) hb
  | cons l ls ih =>
    obtain ⟨rest, rfl, hg, hsp, -, hrest⟩ := hs.uncons
    have hstart := h.advance
    have hstop := hstart.advance
    have hp := ih hstop hrest
    have hpos : 0 < utf8Len l.text := by
      obtain ⟨c, text, ht, -⟩ := hsp.cons
      rw [ht, String.utf8Len_cons]
      exact Nat.add_pos_right _ c.utf8Size_pos
    constructor
    · refine List.forall_mem_cons.mpr ⟨Nat.le_add_right _ _, fun t ht => ?_⟩
      have := hp.after t ht
      omega
    · exact List.forall_mem_cons.mpr ⟨by simpa using hpos, hp.nonempty⟩
    · exact List.forall_mem_cons.mpr ⟨⟨hstart.isBoundary, hstop.isBoundary⟩, hp.boundary⟩
    · exact List.pairwise_cons.mpr ⟨hp.after, hp.ordered⟩
    · intro k b hi hb hout
      obtain ⟨hl, hls⟩ := List.forall_mem_cons.mp hout
      by_cases hk : k < i + utf8Len l.gap
      · exact isGap_bytes h hg hi hk hb
      · have hk' : ¬ k < i + utf8Len l.gap + utf8Len l.text := fun hlt =>
          hl ⟨Nat.not_lt.mp hk, hlt⟩
        exact hp.blank k b (by omega) hb hls

/-! ### Runs of tokens -/

/-- The characters of lexemes, with the blanks before each. -/
def written (ls : List Lexeme) : List Char := ls.flatMap fun l => l.gap ++ l.text

/-- Where the next token starts and stops, after these lexemes. -/
def place (before : List Lexeme) (l : Lexeme) : Token :=
  ⟨l.token, utf8Len (written before) + utf8Len l.gap,
    utf8Len (written before) + utf8Len l.gap + utf8Len l.text⟩

theorem placed_append (i : Nat) (us vs : List Lexeme) :
    placed i (us ++ vs) = placed i us ++ placed (i + utf8Len (written us)) vs := by
  induction us generalizing i with
  | nil => rfl
  | cons u us ih =>
    simp only [List.cons_append, placed, ih, written, List.flatMap_cons, String.utf8Len_append,
      Nat.add_assoc]

theorem length_placed (i : Nat) (ls : List Lexeme) : (placed i ls).length = ls.length := by
  induction ls generalizing i with
  | nil => rfl
  | cons l ls ih => simp [placed, ih]

theorem map_token_placed (i : Nat) (ls : List Lexeme) :
    (placed i ls).map Token.token = ls.map Lexeme.token := by
  induction ls generalizing i with
  | nil => rfl
  | cons l ls ih => simp [placed, ih]

theorem getElem?_placed (before : List Lexeme) (l : Lexeme) (rest : List Lexeme) :
    (placed 0 (before ++ l :: rest))[before.length]? = some (place before l) := by
  rw [placed_append, List.getElem?_append_right (Nat.le_of_eq (length_placed 0 before)),
    length_placed, Nat.sub_self, Nat.zero_add]
  rfl

theorem getElem?_placed_end (ls : List Lexeme) : (placed 0 ls)[ls.length]? = none := by
  rw [List.getElem?_eq_none_iff, length_placed]

theorem stop_place (before : List Lexeme) (l : Lexeme) :
    (place before l).stop = utf8Len (written (before ++ [l])) := by
  simp [place, written, Nat.add_assoc]

theorem written_eq_append (hs : Lexeme.Scans cs ls) : ∃ blanks, cs = written ls ++ blanks := by
  induction ls generalizing cs with
  | nil => exact ⟨cs, rfl⟩
  | cons l ls ih =>
    obtain ⟨rest, rfl, -, -, -, hrest⟩ := hs.uncons
    obtain ⟨blanks, rfl⟩ := ih hrest
    exact ⟨blanks, by simp [written]⟩

/-- The text from where one token starts to where another stops, as it is spelled. -/
theorem slice_placed {before tail rest : List Lexeme} {l : Lexeme}
    (hs : Lexeme.Scans raw.toList (before ++ l :: (tail ++ rest))) :
    slice raw (place before l).start (utf8Len (written (before ++ l :: tail))) =
      result (.ok (String.ofList (Lexeme.spelled (l :: tail)))) := by
  obtain ⟨blanks, he⟩ := written_eq_append hs
  have hraw : raw.toList = written before ++ l.gap ++
      (Lexeme.spelled (l :: tail) ++ (written rest ++ blanks)) := by
    simp [he, written, Lexeme.spelled]
  have hat : LeftAt raw (place before l).start
      (Lexeme.spelled (l :: tail) ++ (written rest ++ blanks)) :=
    ⟨_, hraw, (String.utf8Len_append _ _).symm⟩
  have hstop : utf8Len (written (before ++ l :: tail)) =
      (place before l).start + utf8Len (Lexeme.spelled (l :: tail)) := by
    simp [written, place, Lexeme.spelled, Nat.add_assoc]
  rw [hstop, slice_eq hat]

end TypeText

end StreamPipeline
