import StreamPipeline.Proofs.Schema.SpellingRead

/-! # Texts of a column

A type, what is said about null, and markers of time. Every spelling of a type, the printed text
among them, gives back the type in front of any of these, and the last marker counts.
-/

namespace StreamPipeline

open Lexeme TypeParser

def TimeAttribute.marker : TimeAttribute → String
  | procTime => "PROCTIME"
  | rowTime => "ROWTIME"

/-- A marker, with its name in any case. -/
structure MarkerText where
  gap : Blanks
  time : TimeAttribute
  name : List Char
  upper : name.map Char.toUpper = time.marker.toList

namespace MarkerText

def chars (m : MarkerText) : List Char := m.gap ++ '*' :: (m.name ++ ['*'])

def lexeme (m : MarkerText) : Lexeme :=
  ⟨m.gap, '*' :: (m.name ++ ['*']), .marker m.time.marker⟩

theorem notMem_name (m : MarkerText) : '*' ∉ m.name := by
  intro h
  have hm : '*' ∈ m.time.marker.toList := m.upper ▸ List.mem_map_of_mem (f := Char.toUpper) h
  revert hm
  cases m.time <;> decide

theorem spells (m : MarkerText) : Spells ('*' :: (m.name ++ ['*'])) (.marker m.time.marker) := by
  have hu : Text.upperAscii (String.ofList m.name) = m.time.marker := by
    rw [Text.upperAscii, String.toList_ofList, m.upper, String.ofList_toList]
  exact hu ▸ Spells.marker m.notMem_name

theorem attributeOf_marker (a : TimeAttribute) : attributeOf a.marker = .ok a := by
  cases a <;> rfl

theorem scans (ms : List MarkerText) (after : Blanks) :
    Scans (ms.flatMap chars ++ after) (ms.map lexeme) := by
  induction ms with
  | nil => exact scans_blank after.blank
  | cons m ms ih =>
    have h := ih.spelled m.gap.blank m.spells fun _ _ => rfl
    simpa [chars, lexeme] using h

theorem attributes_lexemes (seen : Option TimeAttribute) (ms : List MarkerText) :
    attributes seen (ms.map lexeme) = .ok ((ms.getLast?.map time).or seen, []) := by
  induction ms generalizing seen with
  | nil => rfl
  | cons m ms ih =>
    have hm : attributes seen ((m :: ms).map lexeme) =
        attributes (some m.time) (ms.map lexeme) := by
      simp [lexeme, attributes, attributeOf_marker]
    rw [hm, ih]
    cases ms with
    | nil => rfl
    | cons m' ms =>
      rw [List.getLast?_cons_cons]
      cases hl : (m' :: ms).getLast? with
      | none => simp at hl
      | some l => rfl

theorem head_chars (ms : List MarkerText) (after : Blanks) :
    ∀ b ∈ (ms.flatMap chars ++ after).head?, isWordChar b = false := by
  cases ms with
  | nil => exact head_of_blanks after
  | cons m ms =>
    have h := head_blanks m.gap (c := '*') rfl (m.name ++ ['*'] ++ (ms.flatMap chars ++ after))
    simpa [chars] using h

theorem stops_lexemes (t : LogicalType) (ms : List MarkerText) : Stops t (ms.map lexeme) ∧
    ∀ l ∈ (ms.map lexeme).head?, l.token ≠ .word "NOT" ∧ l.token ≠ .word "NULL" := by
  cases ms with
  | nil => exact ⟨stops_nil t, by rintro _ ⟨⟩⟩
  | cons m ms =>
    refine ⟨?_, ?_⟩
    · rintro _ ⟨⟩; exact .inl rfl
    · rintro _ ⟨⟩; exact ⟨by rintro ⟨⟩, by rintro ⟨⟩⟩

end MarkerText

namespace ColumnType

/-- A text that is read as a type gives a column when the rest is read to its end. -/
theorem parse_of_reads {t : LogicalType} {cs rest : List Char} {ls ls' : List Lexeme} {b : Bool}
    {a : Option TimeAttribute} (h : ReadsBefore t cs rest ls) (hb : nullability ls = .ok (b, ls'))
    (ha : attributes none ls' = .ok (a, [])) (before : Blanks) :
    parse (String.ofList (before ++ (cs ++ rest))) = .ok ⟨t, b, a⟩ := by
  obtain ⟨ms, hscan, htype⟩ := h before
  have hls : ofText (String.ofList (before ++ (cs ++ rest))) = .ok (ms ++ ls) := by
    rw [ofText_iff, String.toList_ofList]
    exact hscan
  have hcolumn : columnType (ms ++ ls) = .ok ⟨t, b, a⟩ :=
    bind_eq_ok_iff.mpr ⟨(t, ls), htype _ (Nat.le_refl _),
      bind_eq_ok_iff.mpr ⟨(b, ls'), hb, bind_eq_ok_iff.mpr ⟨(a, []), ha, rfl⟩⟩⟩
  unfold parse
  rw [bind_eq_ok_iff.mpr ⟨ms ++ ls, hls, hcolumn⟩]

/-- A text that is all of a type is a column that may be null. -/
theorem parse_of_reads_all {t : LogicalType} {cs : List Char} (h : ReadsBefore t cs [] []) :
    parse (String.ofList cs) = .ok ⟨t, true, none⟩ := by
  have hparse := parse_of_reads h (b := true) rfl rfl .none
  simpa using hparse

end ColumnType

namespace LogicalType

/-- A type that its text can say: it is known, and no length stands for an unbounded text. -/
def Plain : LogicalType → Prop
  | unsupported _ => False
  | t => t.Bounded

theorem readable_of_plain {t : LogicalType} (h : t.Plain) : t.Readable := by
  cases t <;> first | exact h | exact h.elim

/-- A scalar type is read back from its text. -/
theorem parse_render (t : LogicalType) (hs : t.isStructured = false)
    (hu : t.findUnsupported = none) (hb : t.Bounded) :
    ColumnType.parse t.render = .ok ⟨t, true, none⟩ := by
  have hknown : ∀ raw, t ≠ .unsupported raw := by
    rintro raw rfl
    rw [findUnsupported] at hu
    cases hu
  have hinside : ∀ u, Inside u t → u.Readable := fun u hi =>
    eq_of_inside hs hi ▸ readable_of_bounded hb hknown
  have hreads := reads_spelling (spelling_render t) hinside [] [] (scans_blank (by simp))
    (by rintro _ _ _ _ ⟨⟩) (stops_nil t)
  simpa using ColumnType.parse_of_reads_all hreads

/-- The printed text of a type is one of its spellings, and each of its spellings gives the type
back, with the nullability that is said behind it and the attribute of the last marker. -/
theorem parse_spelling {t : LogicalType} (h : ∀ u, Inside u t → u.Plain) :
    Spelling t t.render.toList ∧
      ∀ (cs : List Char) (ns : NullText) (ms : List MarkerText) (before after : Blanks),
        Spelling t cs → Apart cs ns.chars →
        ColumnType.parse (String.ofList (before ++ (cs ++ (ns.chars ++
          (ms.flatMap MarkerText.chars ++ after))))) =
            .ok ⟨t, ns.nullable, ms.getLast?.map MarkerText.time⟩ := by
  refine ⟨spelling_render t, fun cs ns ms before after hs ha => ?_⟩
  obtain ⟨hstop, hne⟩ := MarkerText.stops_lexemes t ms
  have hhead := MarkerText.head_chars ms after
  obtain ⟨ks, hnull, hstop, hread⟩ :=
    nullability_text ns (MarkerText.scans ms after) hhead hstop hne
  have hreads := reads_spelling hs fun u hu => readable_of_plain (h u hu)
  have hattr := MarkerText.attributes_lexemes none ms
  rw [Option.or_none] at hattr
  have hbefore := hreads _ _ hnull (apart_append ha hhead) hstop
  exact ColumnType.parse_of_reads hbefore hread hattr before

/-- A field with a quoted name, a nullable array and a comment. -/
def tagsField : FieldText where
  name := "a`b"
  type := .array (.varchar none)
  text := "ARRAY <STRING NOT NULL>".toList
  before := .space
  between := .space
  after := .none
  nullness := .null .space
  comment := .literal .space "it's".toList
  apart := by rintro _ _ _ _ ⟨⟩; rfl
  known := by rintro - _ ⟨⟩

/-- A field without a name, written without blanks. -/
def amountField : FieldText where
  name := ""
  type := .decimal 38 18
  text := "DECIMAL(38,18)".toList
  before := .space
  between := .space
  after := .none
  nullness := .unsaid
  comment := .unsaid
  apart := by rintro _ _ _ _ ⟨⟩
  known h := absurd rfl h

theorem parse_spelling_commentedRow :
    (∀ u, Inside u (.row [("a`b", .array (.varchar none)), ("", .decimal 38 18)]) → u.Plain) ∧
    ColumnType.parse
        "ROW( `a``b` ARRAY <STRING NOT NULL> NULL 'it''s', `` DECIMAL(38,18)) NOT NULL *rowtime* *ProcTime*" =
      .ok ⟨.row [("a`b", .array (.varchar none)), ("", .decimal 38 18)], false,
        some .procTime⟩ := by
  have hplain : ∀ u, Inside u (.row [("a`b", .array (.varchar none)), ("", .decimal 38 18)]) →
      u.Plain := by
    intro u hu
    cases hu with
    | refl => trivial
    | field hf hu =>
      simp only [List.mem_cons, List.not_mem_nil, or_false] at hf
      rcases hf with rfl | rfl
      · cases hu with
        | refl => trivial
        | element hu => cases hu with | refl => trivial
      · cases hu with | refl => trivial
  have htags : Spelling tagsField.type tagsField.text :=
    @Spelling.array (.varchar none) "STRING".toList .space .none .none
      (.notNull .space .space (by simp)) (.word rfl) (by rintro _ _ _ _ ⟨⟩; rfl)
  have hamount : Spelling amountField.type amountField.text :=
    .decimal .none .none .none .none .none 38 18
  have hrow : Spelling (.row [("a`b", .array (.varchar none)), ("", .decimal 38 18)])
      "ROW( `a``b` ARRAY <STRING NOT NULL> NULL 'it''s', `` DECIMAL(38,18))".toList :=
    @Spelling.row _ _ [tagsField, amountField] .none .round (by simp) (by simp [htags, hamount])
  refine ⟨hplain, ?_⟩
  have h := (parse_spelling hplain).2 _ (.notNull .space .space (by simp))
    [⟨.space, .rowTime, "rowtime".toList, by decide⟩,
      ⟨.space, .procTime, "ProcTime".toList, by decide⟩]
    .none .none hrow (by rintro _ _ _ _ ⟨⟩; rfl)
  refine (congrArg ColumnType.parse ?_).trans h
  rfl

end LogicalType

end StreamPipeline
