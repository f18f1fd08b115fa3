import StreamPipeline.Proofs.Schema.Grammar

/-! # What the reader of types takes

The lexemes that the reader takes from the front for a supported type are a phrase of the grammar.
By induction on the depth, with one lemma for each step of the reader.
-/

namespace StreamPipeline

open Lexeme TypeParser

/-- No part of the type was kept as it was written. -/
def LogicalType.Supported (t : LogicalType) : Prop := ∀ raw, ¬ Inside (.unsupported raw) t

namespace TypeGrammar

/-! ### What a step takes -/

/-- The step takes lexemes from the front, and their tokens fit its value. -/
def Takes {α : Type} (P : α → List TypeToken → Prop) (ts : List Lexeme)
    (x : Except TypeError (α × List Lexeme)) : Prop :=
  Yields x fun p => ∃ ls, ts = ls ++ p.2 ∧ P p.1 (ls.map Lexeme.token)

section Takes

variable {α β : Type} {P : α → List TypeToken → Prop} {R : β → List TypeToken → Prop}
  {ts : List Lexeme}

theorem takes_nothing {b : β} (h : R b []) : Takes R ts (.ok (b, ts)) := yields_ok ⟨[], rfl, h⟩

/-- What two steps take, one after the other. -/
theorem Takes.bind {x : Except TypeError (α × List Lexeme)}
    {f : α × List Lexeme → Except TypeError (β × List Lexeme)} (hx : Takes P ts x)
    (hf : ∀ a ks, P a ks → ∀ rest, Takes (fun b more => R b (ks ++ more)) rest (f (a, rest))) :
    Takes R ts (x >>= f) := by
  refine Yields.bind hx ?_
  rintro ⟨a, mid⟩ ⟨ls, rfl, hp⟩ ⟨b, rest⟩ hb
  obtain ⟨ms, rfl, hr⟩ := hf a _ hp mid _ hb
  exact ⟨ls ++ ms, (List.append_assoc ..).symm, by rwa [List.map_append]⟩

theorem Takes.mono {Q : α → List TypeToken → Prop} {x : Except TypeError (α × List Lexeme)}
    (hx : Takes P ts x) (h : ∀ a ks, P a ks → Q a ks) : Takes Q ts x := by
  intro p hp
  obtain ⟨ls, hls, hq⟩ := hx p hp
  exact ⟨ls, hls, h _ _ hq⟩

/-- One lexeme, and then what the step takes. -/
theorem Takes.cons {l : Lexeme} {x : Except TypeError (β × List Lexeme)}
    (h : Takes (fun b ks => R b (l.token :: ks)) ts x) : Takes R (l :: ts) x := by
  intro p hp
  obtain ⟨ls, hls, hr⟩ := h p hp
  exact ⟨l :: ls, congrArg (l :: ·) hls, hr⟩

end Takes

theorem takes_expect (t : TypeToken) (ts : List Lexeme) :
    Takes (fun _ ks => ks = [t]) ts (expect t ts) := by
  rintro ⟨_, rest⟩ h
  obtain ⟨l, rfl, rfl⟩ := expect_ok h
  exact ⟨[l], rfl, rfl⟩

theorem takes_expectWords (words : List String) (ts : List Lexeme) :
    Takes (fun _ ks => ks = words.map .word) ts (expectWords words ts) := by
  induction words generalizing ts with
  | nil => exact takes_nothing rfl
  | cons w words ih =>
    refine (takes_expect (.word w) ts).bind ?_
    rintro _ _ rfl rest p hp
    obtain ⟨ls, hls, hr⟩ := ih rest p hp
    exact ⟨ls, hls, congrArg (TypeToken.word w :: ·) hr⟩

theorem takes_number (ts : List Lexeme) : Takes (fun n ks => ks = [.number n]) ts (number ts) := by
  unfold number
  split
  next gap text n rest => exact yields_ok ⟨[⟨gap, text, .number n⟩], rfl, rfl⟩
  next => exact yields_error _

theorem eq_of_small {n : UInt32} {p : UInt8} (h : small n = .ok p) : n = p.toUInt32 := by
  unfold small at h
  split at h
  next hn =>
    cases h
    exact UInt32.toNat_inj.mp (by simp [Nat.mod_eq_of_lt hn])
  next => cases h

/-- A number in parentheses, if there is one. -/
inductive Parenthesised : Option UInt32 → List TypeToken → Prop where
  | unsaid : Parenthesised none []
  | said (n : UInt32) : Parenthesised (some n) [.lparen, .number n, .rparen]

theorem takes_optLength (ts : List Lexeme) : Takes Parenthesised ts (optLength ts) := by
  unfold optLength
  split
  next gap text rest =>
    refine Takes.cons ((takes_number rest).bind ?_)
    rintro n _ rfl rest
    refine (takes_expect .rparen rest).bind ?_
    rintro _ _ rfl _
    exact takes_nothing (.said n)
  next => exact takes_nothing .unsaid

theorem Parenthesised.length {n : Option UInt32} {ks : List TypeToken} (h : Parenthesised n ks) :
    Length (n.getD 1) ks := by
  cases h with
  | unsaid => exact .unsaid
  | said n => exact .said n

theorem takes_optPrecision (ts : List Lexeme) : Takes Precision ts (optPrecision ts) := by
  refine (takes_optLength ts).bind ?_
  rintro _ _ (_ | n) rest
  · exact takes_nothing .unsaid
  · rintro ⟨p, rest'⟩ hp
    obtain ⟨q, hq, hp⟩ := bind_eq_ok_iff.mp hp
    cases hp
    obtain rfl := eq_of_small hq
    exact ⟨[], rfl, .said q⟩

theorem takes_withoutTimeZone (ts : List Lexeme) : Takes Zone ts (withoutTimeZone ts) := by
  unfold withoutTimeZone
  split
  next rest h =>
    obtain ⟨l, hl, rfl⟩ := takeWord_true h
    refine Takes.cons ((takes_expectWords _ rest).bind ?_)
    rintro _ _ rfl _
    rw [hl]
    exact takes_nothing .without
  next rest h =>
    obtain rfl := takeWord_false h
    exact takes_nothing .unsaid

theorem takes_nullability (ts : List Lexeme) : Takes Nullness ts (nullability ts) := by
  cases ts with
  | nil => exact takes_nothing .unsaid
  | cons l rest =>
    rw [nullability]
    split
    next hl =>
      refine Takes.cons ((takes_expect _ rest).bind ?_)
      rintro _ _ rfl _
      rw [hl]
      exact takes_nothing .notNull
    split
    next hl =>
      refine Takes.cons ?_
      rw [hl]
      exact takes_nothing .null
    next => exact takes_nothing .unsaid

theorem takes_decimal (ts : List Lexeme) :
    Takes (fun t ks => ∃ p s, t = .decimal p s ∧ Size p s ks) ts (do
      let ((p, s), ts) ← decimalSize ts
      .ok (LogicalType.decimal (← small p) (← small s), ts)) := by
  -- The numbers are read first and judged behind the closing parenthesis.
  have hsize : Takes (fun n ks => ∀ p s, small n.1 = .ok p → small n.2 = .ok s → Size p s ks) ts
      (decimalSize ts) := by
    unfold decimalSize
    split
    next gap text rest =>
      refine Takes.cons ((takes_number rest).bind ?_)
      rintro n _ rfl rest
      dsimp only
      split
      next gap text rest =>
        refine Takes.cons ((takes_number rest).bind ?_)
        rintro m _ rfl rest
        refine (takes_expect .rparen rest).bind ?_
        rintro _ _ rfl _
        refine takes_nothing fun p s hp hs => ?_
        obtain rfl : n = p.toUInt32 := eq_of_small hp
        obtain rfl : m = s.toUInt32 := eq_of_small hs
        exact .both p s
      next =>
        refine (takes_expect .rparen _).bind ?_
        rintro _ _ rfl _
        refine takes_nothing fun p s hp hs => ?_
        obtain rfl : s = 0 := (Except.ok.inj hs).symm
        obtain rfl : n = p.toUInt32 := eq_of_small hp
        exact .precision p
    next =>
      refine takes_nothing fun p s hp hs => ?_
      obtain rfl : p = 10 := (Except.ok.inj hp).symm
      obtain rfl : s = 0 := (Except.ok.inj hs).symm
      exact .unsaid
  refine hsize.bind ?_
  rintro ⟨n, m⟩ ks hks rest ⟨t, rest'⟩ h
  obtain ⟨p, hp, h⟩ := bind_eq_ok_iff.mp h
  obtain ⟨s, hs, h⟩ := bind_eq_ok_iff.mp h
  cases h
  exact ⟨[], rfl, p, s, rfl, by simpa using hks p s hp hs⟩

theorem takes_timestamp (whole ts : List Lexeme) :
    Takes (fun t ks => (∀ raw, t ≠ .unsupported raw) → Atom t (.word "TIMESTAMP" :: ks)) ts
      (timestamp whole ts) := by
  refine (takes_optPrecision ts).bind ?_
  intro p ks hp rest
  refine (takes_withoutTimeZone rest).bind ?_
  intro without zs hz rest
  dsimp only
  split
  · exact takes_nothing fun _ => by simpa using .timestamp hp hz
  next hwithout =>
    obtain rfl : zs = [] := by
      cases hz with
      | unsaid => rfl
      | without => exact absurd rfl hwithout
    split
    next h =>
      obtain rfl := takeWord_false h
      exact takes_nothing fun _ => .timestamp hp .unsaid
    next rest h =>
      obtain ⟨w, hw, rfl⟩ := takeWord_true h
      split
      next rest h =>
        obtain ⟨l, hl, rfl⟩ := takeWord_true h
        refine Takes.cons (Takes.cons ((takes_expectWords _ rest).bind ?_))
        rintro _ _ rfl _
        rw [hw, hl]
        exact takes_nothing fun _ => .timestampLocal hp
      next rest h =>
        obtain rfl := takeWord_false h
        refine Takes.cons ((takes_expectWords _ _).bind ?_)
        intro _ _ _ _
        exact takes_nothing fun hknown => absurd rfl (hknown _)

theorem takes_double (ts : List Lexeme) :
    Takes (fun t ks => Atom t (.word "DOUBLE" :: ks)) ts
      (.ok (.double, (takeWord "PRECISION" ts).2)) := by
  cases h : takeWord "PRECISION" ts with
  | mk b rest =>
  cases b with
  | true =>
    obtain ⟨l, hl, rfl⟩ := takeWord_true h
    refine Takes.cons ?_
    rw [hl]
    exact takes_nothing .doublePrecision
  | false =>
    obtain rfl := takeWord_false h
    exact takes_nothing (.name (by simp [names]))

theorem takes_time (ts : List Lexeme) :
    Takes (fun t ks => Atom t (.word "TIME" :: ks)) ts (do
      let (precision, ts) ← optPrecision ts
      let (_, ts) ← withoutTimeZone ts
      .ok (LogicalType.time precision, ts)) := by
  refine (takes_optPrecision ts).bind fun p ks hp rest => ?_
  refine (takes_withoutTimeZone rest).bind fun b zs hz rest => ?_
  exact takes_nothing (by simpa using .time hp hz)

theorem takes_timestampLtz (ts : List Lexeme) :
    Takes (fun t ks => Atom t (.word "TIMESTAMP_LTZ" :: ks)) ts (do
      let (precision, ts) ← optPrecision ts
      .ok (LogicalType.timestampLtz precision, ts)) := by
  refine (takes_optPrecision ts).bind fun p ks hp rest => ?_
  exact takes_nothing (by simpa using .timestampLtz hp)

/-- A type with a length, as the length is used. -/
theorem takes_sized {word : String} {f : UInt32 → LogicalType}
    (hf : ∀ n ks, Length n ks → Atom (f n) (.word word :: ks)) (ts : List Lexeme) :
    Takes (fun t ks => Atom t (.word word :: ks)) ts (do
      let (n, ts) ← optLength ts
      .ok (f (n.getD 1), ts)) := by
  refine (takes_optLength ts).bind fun n ks hn rest => ?_
  exact takes_nothing (by simpa using hf _ ks hn.length)

theorem atom_varchar {n : UInt32} {ks : List TypeToken} (h : Length n ks) :
    Atom (.varchar (boundedLength n)) (.word "VARCHAR" :: ks) ∧
      Atom (.varbinary (boundedLength n)) (.word "VARBINARY" :: ks) := by
  unfold boundedLength
  split
  next hn =>
    subst hn
    exact ⟨.unboundedVarchar h, .unboundedVarbinary h⟩
  next hn => exact ⟨.varchar h hn, .varbinary h hn⟩

/-- What follows a word makes a type with it, unless it is kept as it was written. -/
theorem takes_simple {word : String} {whole ts : List Lexeme}
    {x : Except TypeError (LogicalType × List Lexeme)} (h : simple word whole ts = some x) :
    Takes (fun t ks => (∀ raw, t ≠ .unsupported raw) → Atom t (.word word :: ks)) ts x := by
  have known {word : String} {x : Except TypeError (LogicalType × List Lexeme)}
      (hx : Takes (fun t ks => Atom t (.word word :: ks)) ts x) :
      Takes (fun t ks => (∀ raw, t ≠ .unsupported raw) → Atom t (.word word :: ks)) ts x :=
    hx.mono fun _ _ ha _ => ha
  have hdecimal (w : String) (hw : w ∈ ["DECIMAL", "DEC", "NUMERIC"]) :=
    (takes_decimal ts).mono (Q := fun t ks => Atom t (.word w :: ks)) <| by
      rintro _ ks ⟨p, s, rfl, hs⟩
      exact .decimal hw hs
  unfold simple at h
  split at h
  all_goals cases h
  all_goals first
    | exact known (takes_nothing (.name (by simp [names])))
    | exact known (hdecimal _ (by simp))
    | exact known (takes_double ts)
    | exact known (takes_time ts)
    | exact takes_timestamp _ ts
    | exact known (takes_timestampLtz ts)
    | exact known (takes_sized (fun _ _ => .char) ts)
    | exact known (takes_sized (fun _ _ => .binary) ts)
    | exact known (takes_sized (fun _ _ hn => (atom_varchar hn).1) ts)
    | exact known (takes_sized (fun _ _ hn => (atom_varchar hn).2) ts)

/-! ### What the reader takes -/

def TypeTakes (fuel : Nat) : Prop :=
  ∀ ts, Yields (type fuel ts) fun p => p.1.Supported →
    ∃ ls, ts = ls ++ p.2 ∧ Derives (.type p.1) ls

/-- The fields, and the closing bracket behind them. -/
def FieldsTake (fuel : Nat) : Prop :=
  ∀ close ts, Yields (fields fuel close ts) fun p => (∀ f ∈ p.1, f.2.Supported) →
    ∃ ls l, ts = ls ++ l :: p.2 ∧ l.token = close ∧ Derives (.fields p.1) ls

theorem array_takes {fuel : Nat} (ih : TypeTakes fuel) {l : Lexeme}
    (hl : l.token = .word "ARRAY") (ts : List Lexeme) : Yields (do
      let (_, ts) ← expect .lt ts
      let (element, ts) ← type fuel ts
      let (_, ts) ← nullability ts
      let (_, ts) ← expect .gt ts
      .ok (LogicalType.array element, ts)) fun p => p.1.Supported →
        ∃ ls, l :: ts = ls ++ p.2 ∧ Derives (.type p.1) ls := by
  rintro ⟨t, rest⟩ h ht
  obtain ⟨⟨_, ts₁⟩, hopen, h⟩ := bind_eq_ok_iff.mp h
  obtain ⟨⟨e, ts₂⟩, he, h⟩ := bind_eq_ok_iff.mp h
  obtain ⟨⟨b, ts₃⟩, hnull, h⟩ := bind_eq_ok_iff.mp h
  obtain ⟨⟨_, ts₄⟩, hclose, h⟩ := bind_eq_ok_iff.mp h
  cases h
  obtain ⟨o, ho, rfl⟩ := expect_ok hopen
  obtain ⟨es, rfl, hderives⟩ := ih ts₁ _ he fun raw hi => ht raw hi.element
  obtain ⟨ns, rfl, hn⟩ := takes_nullability ts₂ _ hnull
  obtain ⟨c, hc, rfl⟩ := expect_ok hclose
  exact ⟨l :: o :: (es ++ (ns ++ [c])), by simp, .array hl ho hderives hn hc⟩

theorem row_takes {fuel : Nat} (ih : FieldsTake fuel) {l o : Lexeme} {close : TypeToken}
    (hl : l.token = .word "ROW") (hb : Brackets o.token close) (ts : List Lexeme) :
    Yields (row fuel close ts) fun p => p.1.Supported →
      ∃ ls, l :: o :: ts = ls ++ p.2 ∧ Derives (.type p.1) ls := by
  unfold row
  split
  next hpeek =>
    refine yields_ok fun _ => ?_
    cases ts with
    | nil => cases hpeek
    | cons c ts =>
      obtain rfl : c.token = close := Option.some.inj hpeek
      exact ⟨[l, o, c], rfl, .emptyRow hl hb⟩
  next =>
    refine Yields.bind (ih close ts) fun p hp => yields_ok fun ht => ?_
    obtain ⟨ls, c, rfl, rfl, hfields⟩ := hp fun f hf raw hi => ht raw (.field hf hi)
    exact ⟨l :: o :: (ls ++ [c]), by simp, .row hl hb hfields⟩

theorem type_takes_succ {fuel : Nat} (ht : TypeTakes fuel) (hf : FieldsTake fuel) :
    TypeTakes (fuel + 1) := by
  rintro ts ⟨t, rest⟩ h
  cases ts with
  | nil => rw [type] at h; cases h
  | cons l ts =>
  rw [type] at h
  split at h
  next word hword =>
    split at h
    next x hx =>
      intro hs
      obtain ⟨ls, rfl, ha⟩ := takes_simple hx _ h
      refine ⟨l :: ls, rfl, .scalar ?_⟩
      rw [List.map_cons, hword]
      exact ha fun raw hr => hs raw (hr ▸ .refl)
    next =>
      split at h
      next harray => exact array_takes ht (hword.trans (congrArg _ harray)) ts _ h
      split at h
      next hrow =>
        have hl : l.token = .word "ROW" := hword.trans (congrArg _ hrow)
        cases ts with
        | nil => cases h
        | cons o ts =>
          split at h
          next ho =>
            have ho : o.token = .lt := Option.some.inj ho
            exact row_takes hf hl (ho ▸ .angle) ts _ h
          next ho =>
            have ho : o.token = .lparen := Option.some.inj ho
            exact row_takes hf hl (ho ▸ .round) ts _ h
          next => cases h
      next =>
        cases h
        exact fun hs => absurd .refl (hs _)
  next => cases h

theorem isName_of_fieldName {name : String} {ts rest : List Lexeme}
    (h : fieldName ts = .ok (name, rest)) : ∃ l, IsName name l ∧ ts = l :: rest := by
  unfold fieldName at h
  split at h
  next gap text n rest => cases h; exact ⟨⟨gap, text, .ident _⟩, .quoted rfl, rfl⟩
  next gap text w rest => cases h; exact ⟨_, @IsName.word w ⟨gap, text, .word w⟩ rfl, rfl⟩
  next => cases h

theorem comment_of_dropLiteral (ts : List Lexeme) :
    ∃ ks, ts = ks ++ dropLiteral ts ∧ Comment (ks.map Lexeme.token) := by
  unfold dropLiteral
  split
  next gap text rest => exact ⟨[⟨gap, text, .literal⟩], rfl, .literal⟩
  next => exact ⟨[], rfl, .unsaid⟩

theorem fields_take_succ {fuel : Nat} (ht : TypeTakes fuel) (hf : FieldsTake fuel) :
    FieldsTake (fuel + 1) := by
  rintro close ts ⟨fs, rest⟩ h hs
  rw [fields] at h
  obtain ⟨⟨name, ts₁⟩, hname, h⟩ := bind_eq_ok_iff.mp h
  obtain ⟨⟨t, ts₂⟩, htype, h⟩ := bind_eq_ok_iff.mp h
  obtain ⟨⟨b, ts₃⟩, hnull, hend⟩ := bind_eq_ok_iff.mp h
  dsimp only at hend
  obtain ⟨n, hn, rfl⟩ := isName_of_fieldName hname
  obtain ⟨ns, rfl, hnullness⟩ := takes_nullability ts₂ _ hnull
  obtain ⟨ks, hks, hcomment⟩ := comment_of_dropLiteral ts₃
  split at hend
  · cases hend
  next c ts₄ hd =>
  rw [hd] at hks
  subst hks
  have hfield (hsupported : t.Supported) : ∃ ls, n :: ts₁ =
      (n :: (ls ++ (ns ++ ks))) ++ c :: ts₄ ∧ Derives (.type t) ls := by
    obtain ⟨ls, hls, hderives⟩ := ht ts₁ _ htype hsupported
    exact ⟨ls, by simp [hls], hderives⟩
  split at hend
  next hc =>
    obtain ⟨⟨more, ts₅⟩, hmore, hend⟩ := bind_eq_ok_iff.mp hend
    cases hend
    obtain ⟨ls, hls, hderives⟩ := hfield (hs _ List.mem_cons_self)
    obtain ⟨ms, l, rfl, hl, hfields⟩ := hf close ts₄ _ hmore fun f hm => hs f (.tail _ hm)
    refine ⟨n :: (ls ++ (ns ++ (ks ++ c :: ms))), l, ?_, hl, ?_⟩
    · simp [hls]
    · exact .field hn hderives hnullness hcomment hc hfields
  split at hend
  next hc =>
    cases hend
    obtain ⟨ls, hls, hderives⟩ := hfield (hs _ List.mem_cons_self)
    exact ⟨_, c, hls, hc, .lastField hn hderives hnullness hcomment⟩
  next => cases hend

/-- What the reader takes for a supported type are the lexemes of a phrase. -/
theorem takes (fuel : Nat) : TypeTakes fuel ∧ FieldsTake fuel := by
  induction fuel with
  | zero =>
    refine ⟨fun ts => ?_, fun close ts => ?_⟩
    · cases ts <;> (rw [type]; exact yields_error _)
    · rw [fields]; exact yields_error _
  | succ fuel ih => exact ⟨type_takes_succ ih.1 ih.2, fields_take_succ ih.1 ih.2⟩

end TypeGrammar

end StreamPipeline
