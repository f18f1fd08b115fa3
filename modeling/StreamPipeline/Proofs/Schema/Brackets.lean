import Mathlib
import StreamPipeline.Proofs.Schema.GrammarDerived
import StreamPipeline.Proofs.Schema.Nesting
import StreamPipeline.Proofs.Schema.Unsupported

/-! # Brackets of type texts

The reader checks the brackets of the types that it knows, and counts those of a type that it keeps
as written. So the brackets of a text that was read are properly nested as far as those of each type
are that was kept as written.
-/

namespace StreamPipeline

open Lexeme TypeParser

namespace TypeGrammar

/-- The brackets among the tokens of the text are properly nested and all closed, each by its own
kind. -/
def WellBracketed (text : String) : Prop :=
  ∃ ls, ofText text = .ok ls ∧ Nested (ls.map Lexeme.token)

/-- Once the kinds of brackets are forgotten, those of the text are nested with `n` more behind
them. -/
def LeavesOpen (n : Nat) (text : String) : Prop :=
  ∃ ls, ofText text = .ok ls ∧
    Nested ((ls.map Lexeme.token).map round ++ List.replicate n .rparen)

theorem wellBracketed_iff {text : String} {ls : List Lexeme} (h : ofText text = .ok ls) :
    WellBracketed text ↔ Nested (ls.map Lexeme.token) := by
  constructor
  · rintro ⟨ms, hms, hn⟩
    cases h.symm.trans hms
    exact hn
  · exact fun hn => ⟨ls, h, hn⟩

instance : DecidablePred WellBracketed := fun text =>
  match h : ofText text with
  | .ok _ => decidable_of_iff _ (wellBracketed_iff h).symm
  | .error _ => isFalse fun ⟨_, hls, _⟩ => by rw [h] at hls; cases hls

/-! ### Parts without types -/

theorem nested_precision {p : Option UInt8} {ks : List TypeToken} (h : Precision p ks) :
    Nested ks := by
  cases h <;> exact nested_iff_missing.mpr rfl

theorem nested_zone {b : Bool} {ks : List TypeToken} (h : Zone b ks) : Nested ks := by
  cases h <;> exact nested_iff_missing.mpr rfl

theorem nested_length {n : UInt32} {ks : List TypeToken} (h : Length n ks) : Nested ks := by
  cases h <;> exact nested_iff_missing.mpr rfl

theorem nested_size {p s : UInt8} {ks : List TypeToken} (h : Size p s ks) : Nested ks := by
  cases h <;> exact nested_iff_missing.mpr rfl

theorem nested_nullness {b : Bool} {ks : List TypeToken} (h : Nullness b ks) : Nested ks := by
  cases h <;> exact nested_iff_missing.mpr rfl

theorem nested_comment {ks : List TypeToken} (h : Comment ks) : Nested ks := by
  cases h <;> exact nested_iff_missing.mpr rfl

theorem nested_atom {t : LogicalType} {ks : List TypeToken} (h : Atom t ks) : Nested ks := by
  cases h with
  | name _ | doublePrecision => exact nested_iff_missing.mpr rfl
  | decimal _ hs => exact .other rfl (nested_size hs)
  | time hp hz | timestamp hp hz =>
    exact .other rfl ((nested_precision hp).append (nested_zone hz))
  | timestampLocal hp =>
    exact .other rfl ((nested_precision hp).append (nested_iff_missing.mpr rfl))
  | timestampLtz hp => exact .other rfl (nested_precision hp)
  | char hn | binary hn | varchar hn _ | varbinary hn _ | unboundedVarchar hn
  | unboundedVarbinary hn => exact .other rfl (nested_length hn)

theorem nested_markers (as : List TimeAttribute) :
    Nested (as.map fun a => TypeToken.marker a.marker) := by
  induction as with
  | nil => exact .nil
  | cons _ _ ih => exact .other rfl ih

theorem nested_words (words : List String) : Nested (words.map TypeToken.word) := by
  induction words with
  | nil => exact .nil
  | cons _ _ ih => exact .other rfl ih

/-- The brackets of a time stamp are nested, also if it is kept as written. -/
theorem takes_timestamp_nested (whole ts : List Lexeme) :
    Takes (fun _ ks => Nested ks) ts (timestamp whole ts) := by
  have timeZone {R : List TypeToken → Prop} (hR : ∀ more, Nested more → R more)
      (f : List Lexeme → LogicalType) (rest : List Lexeme) : Takes (fun _ more => R more) rest
        (expectWords ["TIME", "ZONE"] rest >>= fun p => .ok (f p.2, p.2)) := by
    refine (takes_expectWords _ rest).bind ?_
    rintro _ _ rfl _
    exact takes_nothing (hR _ (nested_words ["TIME", "ZONE"]))
  refine (takes_optPrecision ts).bind ?_
  intro p ks hp rest
  refine (takes_withoutTimeZone rest).bind ?_
  intro without zs hz rest
  have hbehind (more : List TypeToken) (hm : Nested more) : Nested (ks ++ (zs ++ more)) :=
    (nested_precision hp).append ((nested_zone hz).append hm)
  dsimp only
  split
  · exact takes_nothing (hbehind [] .nil)
  split
  next h =>
    obtain rfl := takeWord_false h
    exact takes_nothing (hbehind [] .nil)
  next rest h =>
    obtain ⟨w, hw, rfl⟩ := takeWord_true h
    refine Takes.cons ?_
    rw [hw]
    split
    next rest h =>
      obtain ⟨l, hl, rfl⟩ := takeWord_true h
      refine Takes.cons ?_
      rw [hl]
      refine timeZone ?_ (fun _ => .timestampLtz p) rest
      exact fun more hm => hbehind _ (.other rfl (.other rfl hm))
    next rest h =>
      obtain rfl := takeWord_false h
      refine timeZone ?_ (fun ts => .unsupported (String.ofList (spelled (consumed whole ts)))) _
      exact fun more hm => hbehind _ (.other rfl hm)

/-! ### Types kept as written -/

theorem missingAfter_depth {depth : Nat} {t : TypeToken} (h : endsUnknown depth t = false) :
    missingAfter (List.replicate depth .rparen) (round t) =
      some (List.replicate (depthAfter depth t) .rparen) := by
  cases t with
  | rparen | gt =>
    cases depth with
    | zero => cases h
    | succ depth => rfl
  | _ => rfl

/-- The depth counts the closing brackets that are missing, all taken for parentheses. Only the end
of the text leaves some missing. -/
theorem missingBehind_unknownTail {depth : Nat} {ts tail rest : List Lexeme}
    (h : unknownTail depth ts = (tail, rest)) : ∃ n, (rest ≠ [] → n = 0) ∧
      missingBehind (List.replicate depth .rparen) ((tail.map Lexeme.token).map round) =
        some (List.replicate n .rparen) := by
  induction ts generalizing depth tail with
  | nil =>
    cases h
    exact ⟨depth, fun hne => absurd rfl hne, rfl⟩
  | cons l ts ih =>
    rw [unknownTail] at h
    split at h
    next he =>
      cases h
      simp only [endsUnknown, Bool.and_eq_true, beq_iff_eq] at he
      exact ⟨depth, fun _ => he.1, rfl⟩
    next he =>
      cases h
      have hrest : unknownTail (depthAfter depth l.token) ts = _ := rfl
      obtain ⟨n, hn, hmissing⟩ := ih hrest
      refine ⟨n, hn, ?_⟩
      rw [List.map_cons, List.map_cons, missingBehind_cons,
        missingAfter_depth (Bool.eq_false_iff.mpr he), Option.bind_some, hmissing]

theorem Nested.round {ts : List TypeToken} (h : Nested ts) : Nested (ts.map round) := by
  induction h with
  | nil => exact .nil
  | @other t _ hb _ ih => exact .other (by rw [isBracket_round, hb]) ih
  | @pair o c inner rest hb _ _ ihi ihr =>
    rw [List.map_cons, List.map_append, List.map_cons]
    cases hb <;> exact .pair .round ihi ihr

/-- Behind a type that is kept as written brackets are missing only at the end of the text. -/
theorem missingBehind_unsupported {ts others : List Lexeme} {raw : String} {fuel : Nat}
    (h : type fuel ts = .ok (.unsupported raw, others)) :
    ∃ ls n, ts = ls ++ others ∧ (others ≠ [] → n = 0) ∧
      missingBehind [] ((ls.map Lexeme.token).map TypeGrammar.round) =
        some (List.replicate n .rparen) := by
  cases ts with
  | nil => rw [type] at h; cases h
  | cons l ts =>
  cases fuel with
  | zero => rw [type] at h; cases h
  | succ fuel =>
  rw [type] at h
  split at h
  next word hword =>
    have hother : missingAfter [] (TypeGrammar.round l.token) = some [] := by rw [hword]; rfl
    split at h
    next x hs =>
      subst h
      obtain rfl := (unparted_of_simple hs _ rfl).2 raw rfl
      obtain ⟨ls, rfl, hn⟩ := takes_timestamp_nested _ _ _ (Option.some.inj hs)
      refine ⟨l :: ls, 0, rfl, fun _ => rfl, ?_⟩
      rw [List.map_cons, List.map_cons, missingBehind_cons, hother, Option.bind_some]
      exact hn.round.missing_eq []
    next hs =>
      split at h
      · obtain ⟨_, -, h⟩ := bind_eq_ok_iff.mp h
        obtain ⟨_, -, h⟩ := bind_eq_ok_iff.mp h
        obtain ⟨_, -, h⟩ := bind_eq_ok_iff.mp h
        obtain ⟨_, -, h⟩ := bind_eq_ok_iff.mp h
        cases h
      split at h
      · split at h
        · obtain ⟨_, ⟨⟩⟩ := yields_row _ _ _ _ h
        · obtain ⟨_, ⟨⟩⟩ := yields_row _ _ _ _ h
        · cases h
      cases hu : unknownTail 0 ts with
      | mk tail rest =>
      rw [hu] at h
      cases h
      obtain ⟨n, hn, hmissing⟩ := missingBehind_unknownTail hu
      refine ⟨l :: tail, n, congrArg (l :: ·) (unknownTail_append hu), hn, ?_⟩
      rw [List.map_cons, List.map_cons, missingBehind_cons, hother, Option.bind_some]
      exact hmissing
  next => cases h

theorem nested_replicate {n : Nat} {ts : List TypeToken}
    (h : missingBehind [] ts = some (List.replicate n .rparen)) :
    Nested (ts ++ List.replicate n .rparen) := by
  rw [nested_iff_missing, missingBehind_append, h, Option.bind_some]
  clear h
  induction n with
  | zero => rfl
  | succ n ih =>
    rw [List.replicate_succ, missingBehind_cons, missingAfter, close, if_pos rfl, Option.bind_some,
      ih]

/-- What is kept as written has its tokens as it was read, and `n` brackets missing at its end. -/
theorem unsupported_nests {cs : List Char} {ts others : List Lexeme} {raw : String} {fuel : Nat}
    (hs : Scans cs ts) (h : type fuel ts = .ok (.unsupported raw, others)) :
    ∃ ls n, ts = ls ++ others ∧ (WellBracketed raw ↔ Nested (ls.map Lexeme.token)) ∧
      LeavesOpen n raw ∧ Nested ((ls.map Lexeme.token).map round ++ List.replicate n .rparen) ∧
        (others ≠ [] → n = 0) := by
  obtain ⟨l, tail, rfl, rfl, -⟩ := type_unsupported h
  obtain ⟨ls, n, hls, hn, hmissing⟩ := missingBehind_unsupported h
  obtain rfl : ls = l :: tail := (List.append_cancel_right hls).symm
  have hend : Scans [] [] := scans_blank (by simp)
  have hscan : Scans (spelled (l :: tail)) (⟨[], l.text, l.token⟩ :: tail) := by
    simpa using hs.rerun hend (by rintro _ _ _ ⟨⟩) ⟨[], by rintro _ ⟨⟩⟩
  have htext : ofText (String.ofList (spelled (l :: tail))) =
      .ok (⟨[], l.text, l.token⟩ :: tail) := by
    rw [ofText_iff, String.toList_ofList]
    exact hscan
  have hfits := wellBracketed_iff htext
  have hnested := nested_replicate hmissing
  exact ⟨l :: tail, n, rfl, hfits, ⟨_, htext, hnested⟩, hnested, hn⟩

/-! ### All types -/

/-- The brackets of the lexemes fit if those of each of the texts do, and no text leaves one open. -/
structure Bracketed (texts : List String) (ls : List Lexeme) : Prop where
  fits : Neutral (∀ text ∈ texts, WellBracketed text) (ls.map Lexeme.token)
  closed : ∀ text ∈ texts, LeavesOpen 0 text

section Bracketed

variable {us vs : List String} {ls ms : List Lexeme} {l o c : Lexeme}

theorem bracketed_of_nested (h : Nested (ls.map Lexeme.token)) : Bracketed [] ls where
  fits := h.neutral (by simp)
  closed := by simp

theorem bracketed_of_unsupported {cs : List Char} {ts others : List Lexeme} {raw : String}
    {fuel : Nat} (hs : Scans cs ts) (h : type fuel ts = .ok (.unsupported raw, others))
    (hne : others ≠ []) : ∃ ls, ts = ls ++ others ∧ Bracketed [raw] ls := by
  obtain ⟨ls, n, hls, hfits, hopen, hround, hn⟩ := unsupported_nests hs h
  obtain rfl := hn hne
  rw [List.replicate_zero, List.append_nil] at hround
  refine ⟨ls, hls, (neutral_of_round hround).congr ?_, ?_⟩
  · rw [List.forall_mem_singleton]
    exact hfits.symm
  · rw [List.forall_mem_singleton]
    exact hopen

theorem Bracketed.append (hu : Bracketed us ls) (hv : Bracketed vs ms) :
    Bracketed (us ++ vs) (ls ++ ms) where
  fits := by
    rw [List.map_append]
    refine (hu.fits.append hv.fits).congr ?_
    rw [List.forall_mem_append]
  closed := List.forall_mem_append.mpr ⟨hu.closed, hv.closed⟩

theorem Bracketed.cons (h : Bracketed us ls) (hl : isBracket l.token = false) :
    Bracketed us (l :: ls) where
  fits := h.fits.cons hl
  closed := h.closed

/-- Behind a type nothing is read that could change what is nested. -/
theorem Bracketed.followed (h : Bracketed us ls) (hm : Nested (ms.map Lexeme.token)) :
    Bracketed us (ls ++ ms) := by
  simpa using h.append (bracketed_of_nested hm)

theorem Bracketed.enclosed (h : Bracketed us ls) (hb : Brackets o.token c.token) :
    Bracketed us (o :: (ls ++ [c])) where
  fits := by
    rw [List.map_cons, List.map_append, List.map_singleton]
    exact h.fits.enclosed hb
  closed := h.closed

end Bracketed

/-- The lexemes of a type are bracketed, except that a type kept as written may run to the end of
the text with brackets open. -/
def TypeNests (fuel : Nat) : Prop := ∀ cs ts, Scans cs ts → Yields (type fuel ts) fun p =>
  (∀ raw, p.1 ≠ .unsupported raw) ∨ p.2 ≠ [] →
    ∃ ls, ts = ls ++ p.2 ∧ Bracketed p.1.unsupportedTexts ls

/-- The fields, and the closing bracket behind them. -/
def FieldsNest (fuel : Nat) : Prop := ∀ close cs ts, Scans cs ts →
  Yields (fields fuel close ts) fun p => ∃ ls l, ts = ls ++ l :: p.2 ∧ l.token = close ∧
    Bracketed (LogicalType.unsupportedFieldTexts p.1) ls

theorem array_nests {fuel : Nat} (ih : TypeNests fuel) {l : Lexeme} (hl : isBracket l.token = false)
    {cs : List Char} {ts : List Lexeme} (hs : Scans cs ts) : Yields (do
      let (_, ts) ← expect .lt ts
      let (element, ts) ← type fuel ts
      let (_, ts) ← nullability ts
      let (_, ts) ← expect .gt ts
      .ok (LogicalType.array element, ts)) fun p =>
        ∃ ls, l :: ts = ls ++ p.2 ∧ Bracketed p.1.unsupportedTexts ls := by
  rintro ⟨t, rest⟩ h
  obtain ⟨⟨_, ts₁⟩, hopen, h⟩ := bind_eq_ok_iff.mp h
  obtain ⟨⟨e, ts₂⟩, he, h⟩ := bind_eq_ok_iff.mp h
  obtain ⟨⟨_, ts₃⟩, hnull, h⟩ := bind_eq_ok_iff.mp h
  obtain ⟨⟨_, ts₄⟩, hclose, h⟩ := bind_eq_ok_iff.mp h
  cases h
  obtain ⟨ds, -, hscan⟩ := hs.suffix (leaves_expect _ _ _ hopen)
  obtain ⟨o, ho, rfl⟩ := expect_ok hopen
  obtain ⟨c, hc, rfl⟩ := expect_ok hclose
  obtain ⟨ns, rfl, hn⟩ := takes_nullability ts₂ _ hnull
  obtain ⟨es, rfl, hes⟩ := ih ds ts₁ hscan _ he (.inr (by simp))
  refine ⟨l :: o :: (es ++ ns ++ [c]), by simp, .cons ?_ hl⟩
  exact (hes.followed (nested_nullness hn)).enclosed (ho ▸ hc ▸ .angle)

theorem row_nests {fuel : Nat} (ih : FieldsNest fuel) {l o : Lexeme} {close : TypeToken}
    (hl : isBracket l.token = false) (hb : Brackets o.token close) {cs : List Char}
    {ts : List Lexeme} (hs : Scans cs ts) : Yields (row fuel close ts) fun p =>
      ∃ ls, l :: o :: ts = ls ++ p.2 ∧ Bracketed p.1.unsupportedTexts ls := by
  unfold row
  split
  next hpeek =>
    cases ts with
    | nil => cases hpeek
    | cons c ts =>
      obtain rfl : c.token = close := Option.some.inj hpeek
      have hempty : Bracketed [] ([] : List Lexeme) := bracketed_of_nested .nil
      exact yields_ok ⟨[l, o, c], rfl, .cons (hempty.enclosed hb) hl⟩
  next =>
    refine Yields.bind (ih close cs ts hs) fun p hp => yields_ok ?_
    obtain ⟨ls, c, rfl, rfl, hfields⟩ := hp
    exact ⟨l :: o :: (ls ++ [c]), by simp, .cons (hfields.enclosed hb) hl⟩

theorem type_nests_succ {fuel : Nat} (ht : TypeNests fuel) (hf : FieldsNest fuel) :
    TypeNests (fuel + 1) := by
  rintro cs ts hs ⟨t, rest⟩ h hend
  by_cases hu : ∃ raw, t = .unsupported raw
  · obtain ⟨raw, rfl⟩ := hu
    exact bracketed_of_unsupported hs h (hend.resolve_left fun hraw => hraw raw rfl)
  have hu (raw : String) : t ≠ .unsupported raw := fun hr => hu ⟨raw, hr⟩
  cases ts with
  | nil => rw [type] at h; cases h
  | cons l ts =>
  obtain ⟨ds, -, hds⟩ := hs.suffix (List.suffix_cons l ts)
  rw [type] at h
  split at h
  next word hword =>
    have hl : isBracket l.token = false := by rw [hword]; rfl
    split at h
    next x hx =>
      obtain ⟨ls, rfl, ha⟩ := takes_simple hx _ h
      have hnested : Nested ((l :: ls).map Lexeme.token) := by
        rw [List.map_cons, hword]
        exact nested_atom (ha hu)
      have htexts : t.unsupportedTexts = [] := by
        have hscalar := (unparted_of_simple hx _ h).1
        cases t with
        | unsupported raw => exact absurd rfl (hu raw)
        | array _ | row _ => cases hscalar
        | _ => rfl
      exact ⟨l :: ls, rfl, htexts ▸ bracketed_of_nested hnested⟩
    next =>
      split at h
      · exact array_nests ht hl hds _ h
      split at h
      · cases ts with
        | nil => cases h
        | cons o ts =>
          obtain ⟨es, -, hes⟩ := hds.suffix (List.suffix_cons o ts)
          split at h
          next ho =>
            have ho : o.token = .lt := Option.some.inj ho
            exact row_nests hf hl (ho ▸ .angle) hes _ h
          next ho =>
            have ho : o.token = .lparen := Option.some.inj ho
            exact row_nests hf hl (ho ▸ .round) hes _ h
          next => cases h
      · cases h
        exact absurd rfl (hu _)
  next => cases h

theorem fields_nest_succ {fuel : Nat} (ht : TypeNests fuel) (hf : FieldsNest fuel) :
    FieldsNest (fuel + 1) := by
  rintro close cs ts hs ⟨fs, rest⟩ h
  rw [fields] at h
  obtain ⟨⟨name, ts₁⟩, hname, h⟩ := bind_eq_ok_iff.mp h
  obtain ⟨⟨t, ts₂⟩, htype, h⟩ := bind_eq_ok_iff.mp h
  obtain ⟨⟨b, ts₃⟩, hnull, hend⟩ := bind_eq_ok_iff.mp h
  dsimp only at hend
  obtain ⟨ds, -, hds⟩ := hs.suffix (leaves_fieldName _ _ hname)
  obtain ⟨n, hn, rfl⟩ := isName_of_fieldName hname
  obtain ⟨ns, rfl, hnullness⟩ := takes_nullability ts₂ _ hnull
  obtain ⟨ks, hks, hcomment⟩ := comment_of_dropLiteral ts₃
  have hnb : isBracket n.token = false := by
    cases hn with
    | quoted hn | word hn => rw [hn]; rfl
  split at hend
  · cases hend
  next c ts₄ hd =>
  rw [hd] at hks
  subst hks
  obtain ⟨ls, rfl, hls⟩ := ht ds ts₁ hds _ htype (.inr (by simp))
  have hbehind : Nested ((ns ++ ks).map Lexeme.token) := by
    rw [List.map_append]
    exact (nested_nullness hnullness).append (nested_comment hcomment)
  have hfield : Bracketed t.unsupportedTexts (n :: (ls ++ (ns ++ ks))) :=
    .cons (hls.followed hbehind) hnb
  split at hend
  next hc =>
    obtain ⟨⟨more, ts₅⟩, hmore, hend⟩ := bind_eq_ok_iff.mp hend
    cases hend
    obtain ⟨es, -, hes⟩ := hds.suffix ((List.suffix_cons c ts₄).trans
      ⟨ls ++ (ns ++ ks), by simp⟩)
    obtain ⟨ms, l, rfl, hl, hms⟩ := hf close es ts₄ hes _ hmore
    refine ⟨n :: (ls ++ (ns ++ ks)) ++ c :: ms, l, by simp, hl, hfield.append (.cons hms ?_)⟩
    rw [hc]; rfl
  split at hend
  next hc =>
    cases hend
    refine ⟨n :: (ls ++ (ns ++ ks)), c, by simp, hc, ?_⟩
    rw [LogicalType.unsupportedFieldTexts, LogicalType.unsupportedFieldTexts, List.append_nil]
    exact hfield
  next => cases hend

theorem nests (fuel : Nat) : TypeNests fuel ∧ FieldsNest fuel := by
  induction fuel with
  | zero =>
    refine ⟨fun cs ts _ => ?_, fun close cs ts _ => ?_⟩
    · cases ts <;> (rw [type]; exact yields_error _)
    · rw [fields]; exact yields_error _
  | succ fuel ih => exact ⟨type_nests_succ ih.1 ih.2, fields_nest_succ ih.1 ih.2⟩

end TypeGrammar

namespace ColumnType

open TypeGrammar

/-- The brackets of a text that was read are properly nested exactly if those of each type are that
was kept as written. They are always nested once their kinds are forgotten, unless the whole text
was kept, which may leave brackets open. -/
theorem parse_brackets {raw : String} {c : ColumnType} (h : parse raw = .ok c) :
    (WellBracketed raw ↔ ∀ text ∈ c.dataType.unsupportedTexts, WellBracketed text) ∧
      ∀ text ∈ c.dataType.unsupportedTexts, ∃ n, LeavesOpen n text ∧
        (n ≠ 0 → c = ⟨.unsupported text, true, none⟩) := by
  unfold parse at h
  split at h
  · cases h
  next c hc =>
  cases h
  obtain ⟨ts, hts, hc⟩ := bind_eq_ok_iff.mp hc
  have hs := ofText_iff.mp hts
  obtain ⟨⟨t, ts₁⟩, htype, hc⟩ := bind_eq_ok_iff.mp hc
  obtain ⟨⟨b, ts₂⟩, hnull, hc⟩ := bind_eq_ok_iff.mp hc
  obtain ⟨⟨a, ts₃⟩, hattr, hend⟩ := bind_eq_ok_iff.mp hc
  dsimp only at hend
  split at hend
  case h_2 => cases hend
  cases hend
  obtain ⟨ns, rfl, hn⟩ := takes_nullability ts₁ _ hnull
  obtain ⟨as, has, -⟩ := attributes_eq_ok_iff.mp hattr
  dsimp only at has ⊢
  have hbehind : Nested ((ns ++ ts₂).map Lexeme.token) := by
    rw [List.map_append, has]
    exact (nested_nullness hn).append (nested_markers as)
  by_cases hall : (∀ raw, t ≠ .unsupported raw) ∨ ns ++ ts₂ ≠ []
  · obtain ⟨ls, hls, hbracketed⟩ := (nests _).1 _ ts hs _ htype hall
    refine ⟨?_, fun text htext => ⟨0, hbracketed.closed text htext, fun hn => absurd rfl hn⟩⟩
    rw [wellBracketed_iff hts, hls]
    exact (hbracketed.followed hbehind).fits.nested_iff
  · -- The whole text is the type, so what it lacks is not found anywhere else.
    simp only [not_or, not_forall, not_not] at hall
    obtain ⟨⟨text, rfl⟩, hrest⟩ := hall
    obtain ⟨rfl, rfl⟩ := List.append_eq_nil_iff.mp hrest
    cases hnull
    cases hattr
    obtain ⟨ls, n, hls, hfits, hopen, -, -⟩ := unsupported_nests hs htype
    obtain rfl : ts = ls := by simpa using hls
    refine ⟨?_, ?_⟩
    · rw [wellBracketed_iff hts, LogicalType.unsupportedTexts, List.forall_mem_singleton]
      exact hfits.symm
    · rw [LogicalType.unsupportedTexts, List.forall_mem_singleton]
      exact ⟨n, hopen, fun _ => rfl⟩

/-- A text with brackets of both kinds around and inside what is kept as written. -/
def nestedText : String :=
  "ROW(a MAP<STRING, INT(2)> NOT NULL, b ARRAY<TIMESTAMP(3) WITH TIME ZONE> '>') NULL *ROWTIME*"

def nestedRow : LogicalType :=
  .row [("a", .unsupported "MAP<STRING, INT(2)>"),
    ("b", .array (.unsupported "TIMESTAMP(3) WITH TIME ZONE"))]

theorem parse_brackets_nestedText : parse nestedText = .ok ⟨nestedRow, true, some .rowTime⟩ ∧
    nestedRow.unsupportedTexts = ["MAP<STRING, INT(2)>", "TIMESTAMP(3) WITH TIME ZONE"] ∧
    WellBracketed nestedText ∧ ∀ text ∈ nestedRow.unsupportedTexts, LeavesOpen 0 text := by
  have h : parse nestedText = .ok ⟨nestedRow, true, some .rowTime⟩ := by cbv
  have htexts : nestedRow.unsupportedTexts =
      ["MAP<STRING, INT(2)>", "TIMESTAMP(3) WITH TIME ZONE"] := rfl
  obtain ⟨hwell, hopen⟩ := parse_brackets h
  refine ⟨h, htexts, hwell.mpr ?_, fun text htext => ?_⟩
  · rw [htexts]
    decide +kernel
  · obtain ⟨n, hn, hwhole⟩ := hopen text htext
    by_cases hz : n = 0
    · rwa [hz] at hn
    · cases hwhole hz

/-- Texts are read whose brackets are closed by the other kind, or never. -/
theorem parse_misbracketed :
    (parse "MAP<STRING, INT)" = .ok ⟨.unsupported "MAP<STRING, INT)", true, none⟩ ∧
      ¬ WellBracketed "MAP<STRING, INT)") ∧
    (parse "MAP<STRING, INT" = .ok ⟨.unsupported "MAP<STRING, INT", true, none⟩ ∧
      ¬ WellBracketed "MAP<STRING, INT") ∧
    (parse "ARRAY<MAP(INT>>" = .ok ⟨.array (.unsupported "MAP(INT>"), true, none⟩ ∧
      ¬ WellBracketed "ARRAY<MAP(INT>>") :=
  ⟨⟨by cbv, by decide +kernel⟩, ⟨by cbv, by decide +kernel⟩, ⟨by cbv, by decide +kernel⟩⟩

end ColumnType

end StreamPipeline
