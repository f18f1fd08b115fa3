import StreamPipeline.Proofs.Sql.Masking

/-! # Masking a masked text

Masking cuts a text into characters that stay and secret options. A masked text is cut at the same
places, and the value of each of its secret options is the mask, so masking it again finds nothing
that it has not masked already. This holds of any text, whatever its quotes.
-/

namespace StreamPipeline.Sql

/-! ### Where a literal ends -/

/-- A literal goes on for ever only if there is no quote at all. -/
theorem afterLiteral?_eq_none_iff {cs : List Char} : afterLiteral? cs = none ↔ '\'' ∉ cs := by
  fun_induction afterLiteral? cs with
  | case1 => simp
  | case2 => simp
  | case3 c h => simpa using Ne.symm h
  | case4 => simp
  | case5 => simp
  | case6 c d rest h ih => rw [ih, List.mem_cons (b := c), not_or, and_iff_right (Ne.symm h)]

/-- A text in front of which a literal may end: a quote may only follow it if it is the last one. -/
def Closed (rest : List Char) : Prop := ∀ r, rest = '\'' :: r → '\'' ∉ r

theorem exists_of_afterLiteral? {cs rest : List Char} (h : afterLiteral? cs = some rest) :
    ∃ value, cs = value ++ '\'' :: rest ∧ Closed rest := by
  fun_induction afterLiteral? cs generalizing rest with
  | case1 => cases h
  | case2 => cases h; exact ⟨[], rfl, by rintro _ ⟨⟩⟩
  | case3 => cases h
  | case4 r ih =>
    rcases Option.or_eq_some_iff.mp h with h | ⟨hn, h⟩
    · obtain ⟨value, rfl, hr⟩ := ih h
      exact ⟨'\'' :: '\'' :: value, rfl, hr⟩
    · cases h
      refine ⟨[], rfl, ?_⟩
      rintro _ ⟨⟩
      exact afterLiteral?_eq_none_iff.mp hn
  | case5 d r hd => cases h; exact ⟨[], rfl, fun _ he => absurd (List.cons.inj he).1 hd⟩
  | case6 c d r hc ih =>
    obtain ⟨value, hv, hr⟩ := ih h
    exact ⟨c :: value, by rw [hv, List.cons_append], hr⟩

/-- A value without quotes ends at the first quote, if a literal may end there. -/
theorem afterLiteral?_append {value rest : List Char} (hv : '\'' ∉ value) (hr : Closed rest) :
    afterLiteral? (value ++ '\'' :: rest) = some rest := by
  induction value with
  | nil =>
    cases rest with
    | nil => rfl
    | cons d rest =>
      by_cases hd : d = '\''
      · subst hd
        simp [afterLiteral?, afterLiteral?_eq_none_iff.mpr (hr rest rfl)]
      · simp [afterLiteral?, hd]
  | cons c value ih =>
    rw [List.mem_cons, not_or] at hv
    rw [List.cons_append, afterLiteral?_of_ne (Ne.symm hv.1), ih hv.2]

/-! ### Secret options -/

/-- The characters of a secret option up to the opening quote of its value. -/
def IsOption (head : List Char) : Prop :=
  ∃ key before after, IsHead key before after ∧
    head = '\'' :: (key ++ '\'' :: (before ++ '=' :: after))

/-- The key of a secret option is quoted, and there is no other quote in front of its value. -/
theorem IsOption.count_quote {head : List Char} (h : IsOption head) : head.count '\'' = 2 := by
  obtain ⟨key, before, after, hh, rfl⟩ := h
  have hquote : Text.isBlank '\'' ≠ true := by decide
  have hbefore : before.count '\'' = 0 :=
    List.count_eq_zero.mpr fun hm => hquote (hh.blank _ (List.mem_append_left _ hm))
  have hafter : after.count '\'' = 0 :=
    List.count_eq_zero.mpr fun hm => hquote (hh.blank _ (List.mem_append_right _ hm))
  have hkey : key.count '\'' = 0 := List.count_eq_zero.mpr (quote_notMem_key hh.chars)
  simp [List.count_append, hkey, hbefore, hafter]

theorem secretOption?_iff {cs head rest : List Char} :
    secretOption? cs = some (head, rest) ↔ IsOption head ∧
      ∃ more, cs = head ++ '\'' :: more ∧ afterLiteral? more = some rest := by
  constructor
  · intro h
    unfold secretOption? at h
    split at h
    next cs =>
      obtain ⟨⟨key, more⟩, hk, h⟩ := Option.bind_eq_some_iff.mp h
      obtain ⟨rest, hr, h⟩ := Option.bind_eq_some_iff.mp h
      cases h
      obtain ⟨key, before, after, hh, rfl, rfl⟩ := secretHead?_iff.mp hk
      exact ⟨⟨key, before, after, hh, rfl⟩, more, by simp, hr⟩
    next => cases h
  · rintro ⟨⟨key, before, after, hh, rfl⟩, more, rfl, hr⟩
    have hhead : secretHead? (key ++ '\'' :: (before ++ '=' :: (after ++ '\'' :: more))) =
        some (key ++ '\'' :: (before ++ '=' :: after), more) :=
      secretHead?_iff.mpr ⟨key, before, after, hh, rfl, rfl⟩
    simp [secretOption?, hhead, hr]

/-! ### Pieces -/

/-- A piece of a text: a character that stays, or a secret option with the characters up to its
value and the value between its quotes. -/
inductive Piece where
  | kept (c : Char)
  | secret (head value : List Char)
deriving Repr, DecidableEq

namespace Piece

def text : Piece → List Char
  | kept c => [c]
  | secret head value => head ++ '\'' :: (value ++ ['\''])

/-- The piece with its value masked. -/
def masked : Piece → Piece
  | kept c => kept c
  | secret head _ => secret head "***".toList

theorem masked_masked (p : Piece) : p.masked.masked = p.masked := by
  cases p <;> rfl

end Piece

/-- The value of an option, with its head and what follows it. -/
def valueBetween (head rest cs : List Char) : List Char :=
  (cs.drop (head.length + 1)).take (cs.length - (head.length + rest.length + 2))

theorem valueBetween_append (head value rest : List Char) :
    valueBetween head rest (head ++ '\'' :: (value ++ '\'' :: rest)) = value := by
  have hlength : (head ++ '\'' :: (value ++ '\'' :: rest)).length -
      (head.length + rest.length + 2) = value.length := by
    simp only [List.length_append, List.length_cons]
    omega
  have hdrop : (head ++ '\'' :: (value ++ '\'' :: rest)).drop (head.length + 1) =
      value ++ '\'' :: rest := by
    rw [List.append_cons, List.drop_left' (by simp)]
  rw [valueBetween, hlength, hdrop, List.take_left]

/-- The pieces that masking cuts a text into. -/
def pieces : List Char → List Piece
  | [] => []
  | c :: cs =>
    match h : secretOption? (c :: cs) with
    | some (head, rest) =>
      have := length_secretOption? h
      .secret head (valueBetween head rest (c :: cs)) :: pieces rest
    | none => .kept c :: pieces cs
termination_by cs => cs.length
decreasing_by all_goals simp only [List.length_cons] at *; omega

theorem pieces_nil : pieces [] = [] := by
  rw [pieces]

theorem pieces_of_none {c : Char} {cs : List Char} (h : secretOption? (c :: cs) = none) :
    pieces (c :: cs) = .kept c :: pieces cs := by
  rw [pieces]
  split
  next h' => rw [h] at h'; cases h'
  next => rfl

theorem pieces_of_some {head value rest : List Char}
    (h : secretOption? (head ++ '\'' :: (value ++ '\'' :: rest)) = some (head, rest)) :
    pieces (head ++ '\'' :: (value ++ '\'' :: rest)) = .secret head value :: pieces rest := by
  have hvalue := valueBetween_append head value rest
  generalize head ++ '\'' :: (value ++ '\'' :: rest) = cs at h hvalue
  cases cs with
  | nil => cases h
  | cons c cs =>
    rw [pieces]
    split
    next h' =>
      rw [h] at h'
      cases h'
      rw [hvalue]
    next h' => rw [h] at h'; cases h'

/-- A text is empty, or begins with a character that stays, or with a secret option. -/
theorem cut_cases (cs : List Char) :
    cs = [] ∨ (∃ c rest, cs = c :: rest ∧ secretOption? (c :: rest) = none) ∨
      ∃ head value rest, cs = head ++ '\'' :: (value ++ '\'' :: rest) ∧ IsOption head ∧
        Closed rest ∧ secretOption? cs = some (head, rest) := by
  cases cs with
  | nil => exact .inl rfl
  | cons c rest =>
    cases h : secretOption? (c :: rest) with
    | none => exact .inr (.inl ⟨c, rest, rfl, h⟩)
    | some p =>
      obtain ⟨hhead, more, he, hr⟩ := secretOption?_iff.mp h
      obtain ⟨value, rfl, hclosed⟩ := exists_of_afterLiteral? hr
      exact .inr (.inr ⟨p.1, value, p.2, he, hhead, hclosed, rfl⟩)

/-- Induction along the pieces of a text. -/
theorem cut_induction {P : List Char → Prop} (nil : P [])
    (kept : ∀ c rest, secretOption? (c :: rest) = none → P rest → P (c :: rest))
    (secret : ∀ head value rest, IsOption head → Closed rest →
      secretOption? (head ++ '\'' :: (value ++ '\'' :: rest)) = some (head, rest) → P rest →
        P (head ++ '\'' :: (value ++ '\'' :: rest)))
    (cs : List Char) : P cs := by
  induction hn : cs.length using Nat.strongRecOn generalizing cs with
  | _ n ih =>
    subst hn
    rcases cut_cases cs with rfl | ⟨c, rest, rfl, h⟩ | ⟨head, value, rest, rfl, hh, hr, h⟩
    · exact nil
    · exact kept c rest h (ih _ (by simp) rest rfl)
    · exact secret head value rest hh hr h (ih _ (length_secretOption? h) rest rfl)

theorem maskChars_secret {head value rest : List Char}
    (h : secretOption? (head ++ '\'' :: (value ++ '\'' :: rest)) = some (head, rest)) :
    maskChars (head ++ '\'' :: (value ++ '\'' :: rest)) =
      head ++ '\'' :: ("***".toList ++ '\'' :: maskChars rest) := by
  generalize head ++ '\'' :: (value ++ '\'' :: rest) = cs at h
  cases cs with
  | nil => cases h
  | cons c cs => rw [maskChars_of_some h]; simp [mask]

/-- The pieces of a text make it up. -/
theorem flatMap_text_pieces (cs : List Char) : (pieces cs).flatMap Piece.text = cs := by
  induction cs using cut_induction with
  | nil => rw [pieces_nil]; rfl
  | kept c rest h ih => rw [pieces_of_none h, List.flatMap_cons, ih]; rfl
  | secret head value rest _ _ h ih =>
    rw [pieces_of_some h, List.flatMap_cons, ih]
    simp [Piece.text]

/-- Masking a text masks its pieces. -/
theorem maskChars_eq_flatMap (cs : List Char) :
    maskChars cs = (pieces cs).flatMap fun p => p.masked.text := by
  induction cs using cut_induction with
  | nil => rw [pieces_nil]; rfl
  | kept c rest h ih => rw [pieces_of_none h, maskChars_of_none h, List.flatMap_cons, ← ih]; rfl
  | secret head value rest _ _ h ih =>
    rw [pieces_of_some h, maskChars_secret h, List.flatMap_cons, ← ih]
    simp [Piece.text, Piece.masked]

/-! ### The same places -/

/-- There is nothing to mask where there are not four quotes. -/
theorem maskChars_of_count {cs : List Char} (h : cs.count '\'' < 4) : maskChars cs = cs := by
  induction cs using cut_induction with
  | nil => rfl
  | kept c rest hn ih =>
    rw [maskChars_of_none hn, ih]
    exact Nat.lt_of_le_of_lt (List.count_le_count_cons ..) h
  | secret head value rest hh _ hs ih =>
    have hcount := hh.count_quote
    simp only [List.count_append, List.count_cons_self] at h
    omega

/-- Up to the third quote a masked text is as it was: that is the opening quote of the first value
that may be masked. -/
theorem exists_of_maskChars {cs l r : List Char} (h : maskChars cs = l ++ '\'' :: r)
    (hl : l.count '\'' ≤ 2) : ∃ r', cs = l ++ '\'' :: r' := by
  induction cs using cut_induction generalizing l with
  | nil => cases l <;> cases h
  | kept c rest hn ih =>
    rw [maskChars_of_none hn] at h
    cases l with
    | nil =>
      obtain ⟨rfl, -⟩ := List.cons.inj h
      exact ⟨rest, rfl⟩
    | cons x l =>
      obtain ⟨rfl, hrest⟩ := List.cons.inj h
      obtain ⟨r', rfl⟩ := ih hrest (Nat.le_trans (List.count_le_count_cons ..) hl)
      exact ⟨r', rfl⟩
  | secret head value rest hh _ hs ih =>
    have hcount := hh.count_quote
    rw [maskChars_secret hs] at h
    -- Both heads end in front of a quote, and `l` has no more quotes than the other.
    obtain ⟨m, rfl, hm⟩ | ⟨m, rfl, hm⟩ := List.append_eq_append_iff.mp h
    · cases m with
      | nil => exact ⟨value ++ '\'' :: rest, by simp⟩
      | cons x m =>
        obtain ⟨rfl, -⟩ := List.cons.inj hm
        simp only [List.count_append, List.count_cons_self] at hl
        omega
    · cases m with
      | nil => exact ⟨value ++ '\'' :: rest, by simp⟩
      | cons x m =>
        obtain ⟨rfl, -⟩ := List.cons.inj hm
        exact ⟨m ++ '\'' :: (value ++ '\'' :: rest), by simp⟩

/-- A literal may end in front of a masked text where it may end in front of the text. -/
theorem Closed.maskChars {rest : List Char} (h : Closed rest) : Closed (maskChars rest) := by
  intro r hr
  obtain ⟨r', he⟩ := exists_of_maskChars (l := []) hr (by simp)
  rw [List.nil_append] at he
  have hcount : r'.count '\'' = 0 := List.count_eq_zero.mpr (h r' he)
  rw [he, maskChars_of_count (by rw [List.count_cons_self]; omega)] at hr
  rw [← (List.cons.inj hr).2]
  exact h r' he

/-- Where no option begins in a text, none begins when what follows is masked. -/
theorem secretOption?_maskChars_eq_none {c : Char} {cs : List Char}
    (h : secretOption? (c :: cs) = none) : secretOption? (c :: maskChars cs) = none := by
  rw [Option.eq_none_iff_forall_ne_some]
  rintro ⟨head, rest⟩ hs
  obtain ⟨hh, more, he, hr⟩ := secretOption?_iff.mp hs
  have hcount := hh.count_quote
  cases head with
  | nil => cases hcount
  | cons x head =>
    obtain ⟨rfl, hrest⟩ := List.cons.inj he
    obtain ⟨more', rfl⟩ :=
      exists_of_maskChars hrest (hcount ▸ List.count_le_count_cons (a := '\'') (b := c) (l := head))
    cases hm : afterLiteral? more' with
    | some rest' =>
      have hs' := secretOption?_iff.mpr ⟨hh, more', rfl, hm⟩
      rw [List.cons_append, h] at hs'
      cases hs'
    | none =>
      -- The value is open, so nothing follows that could be masked.
      have hmore : more'.count '\'' = 0 :=
        List.count_eq_zero.mpr (afterLiteral?_eq_none_iff.mp hm)
      have hsmall : (head ++ '\'' :: more').count '\'' < 4 := by
        have := List.count_le_count_cons (a := '\'') (b := c) (l := head)
        rw [List.count_append, List.count_cons_self]
        omega
      rw [maskChars_of_count hsmall] at hrest
      obtain rfl := (List.cons.inj (List.append_cancel_left hrest)).2
      rw [hm] at hr
      cases hr

/-- A masked text has the masked pieces of the text. -/
theorem pieces_maskChars (cs : List Char) :
    pieces (maskChars cs) = (pieces cs).map Piece.masked := by
  induction cs using cut_induction with
  | nil => rw [pieces_nil]; exact pieces_nil
  | kept c rest h ih =>
    rw [pieces_of_none h, maskChars_of_none h, pieces_of_none (secretOption?_maskChars_eq_none h),
      ih]
    rfl
  | secret head value rest hh hr h ih =>
    have hvalue : '\'' ∉ "***".toList := by decide
    rw [pieces_of_some h, maskChars_secret h, pieces_of_some, ih]
    · rfl
    · exact secretOption?_iff.mpr ⟨hh, _, rfl, afterLiteral?_append hvalue hr.maskChars⟩

/-- Masking a masked text changes nothing: all that it finds there are the secret options of the
text, each with the mask for its value. -/
theorem redact_redact (sql : String) :
    redact (redact sql) = redact sql ∧
      pieces (redact sql).toList = (pieces sql.toList).map Piece.masked := by
  have hpieces := pieces_maskChars sql.toList
  have htext : maskChars (maskChars sql.toList) = maskChars sql.toList := by
    rw [maskChars_eq_flatMap, hpieces, List.flatMap_map, maskChars_eq_flatMap]
    simp only [Piece.masked_masked]
  simp only [redact_eq, String.toList_ofList]
  exact ⟨congrArg String.ofList htext, hpieces⟩

end StreamPipeline.Sql
