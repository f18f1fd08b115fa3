import Mathlib
import StreamPipeline.Proofs.Schema.Verbatim

/-! # Printed types read again

Every type that is read from a text is read again from the text that this library prints for it. The
parts of the type are readable one by one, and what was kept as written is a piece of the text.
-/

namespace StreamPipeline

open Lexeme TypeParser

namespace TypeParser

/-! ### Types kept as written -/

theorem continues_of_endsUnknown {depth : Nat} {t : TypeToken} (h : endsUnknown depth t = true)
    {q : Char} (hq : q = '\x60' ∨ q = '\'') : continues t q = false := by
  cases t with
  | ident _ | literal | number _ => simp [endsUnknown] at h
  | word w => rcases hq with rfl | rfl <;> rfl
  | _ => rfl

/-- Nothing that stops a type kept as written goes on with its last lexeme. -/
theorem ends_of_stops {text rest : List Char} {token : TypeToken} {ls : List Lexeme} {raw : String}
    (h : Spells text token) (ha : Apart text rest) (hs : Scans rest ls)
    (hstop : Stops (.unsupported raw) ls) : Ends token rest := by
  have hquoted (q : Char) (hq : q = '\x60' ∨ q = '\'') : ∀ c ∈ rest.head?, (c == q) = false := by
    refine hs.ends_quoted hq fun l hl => ?_
    rcases hstop l hl with he | ⟨-, hne⟩
    · exact continues_of_endsUnknown he hq
    · exact absurd rfl (hne raw)
  cases token with
  | ident name => exact hquoted _ (.inl rfl)
  | literal => exact hquoted _ (.inr rfl)
  | number n =>
    obtain ⟨a, hl, hw⟩ := h.getLast (.inl ⟨n, rfl⟩)
    intro b hb
    cases hd : b.isDigit with
    | false => exact hd
    | true => exact absurd (isWordChar_of_isDigit hd) (by simp [ha a hl hw b hb])
  | word w =>
    obtain ⟨a, hl, hw⟩ := h.getLast (.inr ⟨w, rfl⟩)
    exact ha a hl hw
  | _ => exact fun _ _ => rfl

/-- What is kept as written is a piece of the text, and it is read again where it ends as it did. -/
theorem unsupported_again {cs : List Char} {ts others : List Lexeme} {raw : String} {fuel : Nat}
    (hs : Scans cs ts) (h : type fuel ts = .ok (.unsupported raw, others)) :
    raw.toList <:+: cs ∧ ∀ rest ls, Scans rest ls → Apart raw.toList rest →
      Stops (.unsupported raw) ls → EndsAs others ls →
        ReadsBefore (.unsupported raw) raw.toList rest ls := by
  obtain ⟨l, tail, rfl, rfl, hagain⟩ := type_unsupported h
  rw [String.toList_ofList]
  obtain ⟨behind, hcs, -⟩ := hs.run
  refine ⟨⟨l.gap, behind, by rw [hcs, List.append_assoc]⟩, fun rest ls hrest ha hstop hends g => ?_⟩
  have hlast : ∀ m ∈ (l :: tail).getLast?, Ends m.token rest := by
    intro m hm
    have hmem : m ∈ l :: (tail ++ others) := by
      rw [← List.cons_append]
      exact List.mem_append_left _ (List.mem_of_getLast? hm)
    have hspells := hs.spells m hmem
    obtain ⟨c, text, hc, -⟩ := hspells.cons
    obtain ⟨before, hbefore⟩ := getLast_spelled hm
    rw [← hbefore] at ha
    exact ends_of_stops hspells (apart_right ha (by simp [hc])) hrest hstop
  refine ⟨⟨g, l.text, l.token⟩ :: tail, hs.rerun hrest hlast g, fun fuel hf => ?_⟩
  exact hagain g ls hends fuel hf

theorem reads_unsupported {cs : List Char} {ts others : List Lexeme} {raw : String} {fuel : Nat}
    (hs : Scans cs ts) (h : type fuel ts = .ok (.unsupported raw, others)) (hne : others ≠ []) :
    Reads (.unsupported raw) raw.toList := by
  intro rest ls hrest ha hstop
  refine (unsupported_again hs h).2 rest ls hrest ha hstop fun l hl => ⟨hne, ?_⟩
  rcases hstop l hl with he | ⟨-, hraw⟩
  · exact he
  · exact absurd rfl (hraw raw)

end TypeParser

namespace LogicalType

/-! ### The parts of a type -/

/-- Each part of the type can be read from its printed text, and what was kept as written is a piece
of the text. -/
def Kept (cs : List Char) (t : LogicalType) : Prop :=
  ∀ u, Inside u t → u.Readable ∧ ∀ raw, u = .unsupported raw → raw.toList <:+: cs

variable {cs ds : List Char} {t e : LogicalType} {fs : List (String × LogicalType)}

theorem Kept.mono (h : Kept ds t) (hs : ds <:+ cs) : Kept cs t := fun u hu =>
  ⟨(h u hu).1, fun raw hr => ((h u hu).2 raw hr).trans hs.isInfix⟩

theorem kept_array (h : Kept cs e) : Kept cs (.array e) := by
  intro u hu
  cases hu with
  | refl => exact ⟨trivial, by rintro _ ⟨⟩⟩
  | element hu => exact h u hu

theorem kept_row (h : ∀ f ∈ fs, Kept cs f.2) : Kept cs (.row fs) := by
  intro u hu
  cases hu with
  | refl => exact ⟨trivial, by rintro _ ⟨⟩⟩
  | field hf hu => exact h _ hf u hu

theorem kept_scalar (ht : t.isStructured = false) (hb : t.Bounded)
    (hu : ∀ raw, t ≠ .unsupported raw) : Kept cs t := by
  intro u hi
  obtain rfl := eq_of_inside ht hi
  exact ⟨readable_of_bounded hb hu, fun raw hr => absurd hr (hu raw)⟩

theorem kept_unsupported {raw : String} (hr : Reads (.unsupported raw) raw.toList)
    (hs : raw.toList <:+: cs) : Kept cs (.unsupported raw) := by
  intro u hu
  cases hu with
  | refl => exact ⟨hr, by rintro _ ⟨⟩; exact hs⟩

end LogicalType

namespace TypeParser

open LogicalType

/-- What the reader of types does with this fuel: it leaves an end of the lexemes, and the type that
it gives is kept. A type kept as written that took all the lexemes may have been cut off. -/
def TypeKeeps (fuel : Nat) : Prop :=
  ∀ cs ts, Scans cs ts → Yields (type fuel ts) fun p =>
    p.2 <:+ ts ∧ ((∀ raw, p.1 ≠ .unsupported raw) ∨ p.2 ≠ [] → Kept cs p.1)

def FieldsKeep (fuel : Nat) : Prop :=
  ∀ close cs ts, Scans cs ts → Yields (fields fuel close ts) fun p =>
    p.2 <:+ ts ∧ ∀ f ∈ p.1, Kept cs f.2

theorem ne_nil_of_suffix {l : Lexeme} {ts us : List Lexeme} (h : l :: ts <:+ us) : us ≠ [] := by
  rintro rfl
  cases List.suffix_nil.mp h

theorem row_keeps {fuel : Nat} (ih : FieldsKeep fuel) (close : TypeToken) {cs : List Char}
    {ts : List Lexeme} (hs : Scans cs ts) : Yields (row fuel close ts) fun p =>
      p.2 <:+ ts ∧ Kept cs p.1 := by
  unfold row
  split
  · exact yields_ok ⟨List.drop_suffix 1 ts, kept_row (by rintro _ ⟨⟩)⟩
  · exact Yields.bind (ih close cs ts hs) fun p hp => yields_ok ⟨hp.1, kept_row hp.2⟩

theorem unsupported_keeps {cs : List Char} {ts others : List Lexeme} {raw : String} {fuel : Nat}
    (hs : Scans cs ts) (h : type fuel ts = .ok (.unsupported raw, others)) :
    others <:+ ts ∧ (others ≠ [] → Kept cs (.unsupported raw)) := by
  refine ⟨?_, fun hne => kept_unsupported (reads_unsupported hs h hne) (unsupported_again hs h).1⟩
  obtain ⟨l, tail, rfl, -, -⟩ := type_unsupported h
  exact ⟨l :: tail, rfl⟩

theorem array_keeps {fuel : Nat} (ih : TypeKeeps fuel) {cs : List Char} {ts : List Lexeme}
    (hs : Scans cs ts) : Yields (do
      let (_, ts) ← expect .lt ts
      let (element, ts) ← type fuel ts
      let (_, ts) ← nullability ts
      let (_, ts) ← expect .gt ts
      .ok (LogicalType.array element, ts)) fun p => p.2 <:+ ts ∧ Kept cs p.1 := by
  rintro ⟨t, rest⟩ h
  obtain ⟨⟨_, ts₁⟩, hopen, h⟩ := bind_eq_ok_iff.mp h
  obtain ⟨⟨e, ts₂⟩, he, h⟩ := bind_eq_ok_iff.mp h
  obtain ⟨⟨_, ts₃⟩, hnull, h⟩ := bind_eq_ok_iff.mp h
  obtain ⟨⟨_, ts₄⟩, hclose, h⟩ := bind_eq_ok_iff.mp h
  cases h
  have h₁ := leaves_expect _ _ _ hopen
  obtain ⟨ds, hds, hscan⟩ := hs.suffix h₁
  obtain ⟨h₂, hkept⟩ := ih ds ts₁ hscan _ he
  have h₃ := leaves_nullability _ _ hnull
  obtain ⟨m, -, rfl⟩ := expect_ok hclose
  refine ⟨(List.suffix_cons m _).trans (h₃.trans (h₂.trans h₁)), kept_array ?_⟩
  exact (hkept (.inr (ne_nil_of_suffix h₃))).mono hds

theorem type_succ {fuel : Nat} (ht : TypeKeeps fuel) (hf : FieldsKeep fuel) :
    TypeKeeps (fuel + 1) := by
  rintro cs ts hs ⟨t, rest⟩ h
  -- Only a type kept as written can have lost its end, so it is settled before the others.
  by_cases hu : ∃ raw, t = .unsupported raw
  · obtain ⟨raw, rfl⟩ := hu
    obtain ⟨hsuffix, hkept⟩ := unsupported_keeps hs h
    exact ⟨hsuffix, fun hkeep => hkept (hkeep.resolve_left fun hraw => hraw raw rfl)⟩
  cases ts with
  | nil => rw [type] at h; cases h
  | cons l ts =>
  have hl := List.suffix_cons l ts
  rw [type] at h
  split at h
  next word hword =>
    split at h
    next x hx =>
      refine ⟨(leaves_simple hx _ h).trans hl, fun _ => ?_⟩
      have hscalar := (unparted_of_simple hx _ h).1
      exact kept_scalar hscalar (bounds_simple hx _ h) fun raw hr => hu ⟨raw, hr⟩
    next =>
      have hinside {ts' : List Lexeme} (hts : ts' <:+ ts) (hk : ∀ ds, Scans ds ts' →
          rest <:+ ts' ∧ Kept ds t) :
          rest <:+ l :: ts ∧ ((∀ raw, t ≠ .unsupported raw) ∨ rest ≠ [] → Kept cs t) := by
        obtain ⟨ds, hds, hscan⟩ := hs.suffix (hts.trans hl)
        obtain ⟨hsuffix, hkept⟩ := hk ds hscan
        exact ⟨hsuffix.trans (hts.trans hl), fun _ => hkept.mono hds⟩
      split at h
      · exact hinside List.suffix_rfl fun ds hd => array_keeps ht hd _ h
      split at h
      · split at h
        · exact hinside (List.drop_suffix 1 ts) fun ds hd => row_keeps hf _ hd _ h
        · exact hinside (List.drop_suffix 1 ts) fun ds hd => row_keeps hf _ hd _ h
        · cases h
      · cases h
        exact absurd ⟨_, rfl⟩ hu
  next => cases h

theorem fields_succ {fuel : Nat} (ht : TypeKeeps fuel) (hf : FieldsKeep fuel) :
    FieldsKeep (fuel + 1) := by
  rintro close cs ts hs ⟨fs, rest⟩ h
  rw [fields] at h
  obtain ⟨⟨name, ts₁⟩, hname, h⟩ := bind_eq_ok_iff.mp h
  obtain ⟨⟨t, ts₂⟩, htype, h⟩ := bind_eq_ok_iff.mp h
  obtain ⟨⟨_, ts₃⟩, hnull, h⟩ := bind_eq_ok_iff.mp h
  dsimp only at h
  have h₁ := leaves_fieldName _ _ hname
  obtain ⟨ds, hds, hscan⟩ := hs.suffix h₁
  obtain ⟨h₂, hkept⟩ := ht ds ts₁ hscan _ htype
  have h₃ := leaves_nullability _ _ hnull
  have h₄ := dropLiteral_suffix ts₃
  split at h
  · cases h
  next m ts₄ hd =>
  rw [hd] at h₄
  have hfield : Kept cs t := (hkept (.inr (ne_nil_of_suffix (h₄.trans h₃)))).mono hds
  have hrest : ts₄ <:+ ts := (List.suffix_cons m ts₄).trans (h₄.trans (h₃.trans (h₂.trans h₁)))
  split at h
  · obtain ⟨⟨more, ts₅⟩, hmore, h⟩ := bind_eq_ok_iff.mp h
    cases h
    obtain ⟨es, hes, hscan⟩ := hs.suffix hrest
    obtain ⟨h₅, hfields⟩ := hf close es ts₄ hscan _ hmore
    refine ⟨h₅.trans hrest, List.forall_mem_cons.mpr ⟨hfield, fun f hm => ?_⟩⟩
    exact (hfields f hm).mono hes
  split at h
  · cases h
    exact ⟨hrest, by simpa using hfield⟩
  · cases h

/-- The reader keeps every type. -/
theorem keeps (fuel : Nat) : TypeKeeps fuel ∧ FieldsKeep fuel := by
  induction fuel with
  | zero =>
    refine ⟨fun cs ts _ => ?_, fun close cs ts _ => ?_⟩
    · cases ts <;> (rw [type]; exact yields_error _)
    · rw [fields]; exact yields_error _
  | succ fuel ih => exact ⟨type_succ ih.1 ih.2, fields_succ ih.1 ih.2⟩

end TypeParser

namespace ColumnType

/-- What is printed for a type that was read is read as that type, and each type inside it that was
kept as written is a piece of the text. -/
theorem parse_printed {raw : String} {c : ColumnType} (h : parse raw = .ok c) :
    parse c.dataType.render = .ok ⟨c.dataType, true, none⟩ ∧
      ∀ text, LogicalType.Inside (.unsupported text) c.dataType → text.toList <:+: raw.toList := by
  obtain ⟨ts, rest, hs, ht⟩ := type_of_parse h
  obtain ⟨-, hkept⟩ := (keeps ts.length).1 _ ts hs _ ht
  have hprinted : ReadsBefore c.dataType c.dataType.render.toList [] [] ∧
      ∀ text, LogicalType.Inside (.unsupported text) c.dataType → text.toList <:+: raw.toList := by
    by_cases hu : ∃ text, c.dataType = .unsupported text
    · -- It may have lost its end, but nothing follows its text here either.
      obtain ⟨text, hu⟩ := hu
      rw [hu] at ht ⊢
      obtain ⟨hpiece, hagain⟩ := unsupported_again hs ht
      refine ⟨?_, ?_⟩
      · exact hagain [] [] (scans_blank (by simp)) (by rintro _ _ _ _ ⟨⟩) (stops_nil _)
          (endsAs_nil _)
      · rintro _ ⟨⟩; exact hpiece
    · have hkept := hkept (.inl fun text ht => hu ⟨text, ht⟩)
      refine ⟨?_, fun text hi => (hkept _ hi).2 text rfl⟩
      exact LogicalType.reads_spelling (LogicalType.spelling_render _) (fun u hi => (hkept u hi).1)
        [] [] (scans_blank (by simp)) (by rintro _ _ _ _ ⟨⟩) (stops_nil _)
  refine ⟨?_, hprinted.2⟩
  simpa using parse_of_reads_all hprinted.1

/-- A row with a map, and with a time stamp that has a time zone. -/
def zonedRow : LogicalType :=
  .row [("a", .unsupported "MAP<STRING, INT>"), ("b", .unsupported "TIMESTAMP(3) WITH TIME ZONE")]

theorem parse_printed_zonedRow :
    parse "ROW(a MAP<STRING, INT> NOT NULL, b TIMESTAMP(3) WITH TIME ZONE 'c') NULL *ROWTIME*" =
      .ok ⟨zonedRow, true, some .rowTime⟩ ∧
    parse "ROW<`a` MAP<STRING, INT>, `b` TIMESTAMP(3) WITH TIME ZONE>" =
      .ok ⟨zonedRow, true, none⟩ ∧
    ∀ text, LogicalType.Inside (.unsupported text) zonedRow → text.toList <:+: String.toList
      "ROW(a MAP<STRING, INT> NOT NULL, b TIMESTAMP(3) WITH TIME ZONE 'c') NULL *ROWTIME*" := by
  have h : parse
      "ROW(a MAP<STRING, INT> NOT NULL, b TIMESTAMP(3) WITH TIME ZONE 'c') NULL *ROWTIME*" =
        .ok ⟨zonedRow, true, some .rowTime⟩ := by cbv
  have hrender : zonedRow.render =
      "ROW<`a` MAP<STRING, INT>, `b` TIMESTAMP(3) WITH TIME ZONE>" := rfl
  obtain ⟨hprinted, hpieces⟩ := parse_printed h
  rw [hrender] at hprinted
  exact ⟨h, hprinted, hpieces⟩

end ColumnType

end StreamPipeline
