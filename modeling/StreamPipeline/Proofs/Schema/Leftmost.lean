import StreamPipeline.Proofs.Schema.ColumnText
import StreamPipeline.Proofs.Schema.Unsupported

/-! # Types that both destinations refuse

The relational destination and the sink tables of the runtime refuse the same types for the same
reason: the unsupported type that comes first in the printed text. A type that both take and that is
stored as it is can be read back from its text in the sink table.
-/

namespace StreamPipeline

namespace LogicalType

/-! ### Places in a type -/

/-- The way to a place inside a type, with what the type has beside it. -/
inductive Place where
  | here
  | element (inner : Place)
  | field (before : List (String × LogicalType)) (name : String) (inner : Place)
      (after : List (String × LogicalType))

/-- Fields as they are printed in front of another one. -/
def fieldsAhead : List (String × LogicalType) → String
  | [] => ""
  | (name, t) :: rest => backquoted name ++ " " ++ t.render ++ ", " ++ fieldsAhead rest

/-- Fields as they are printed behind another one. -/
def fieldsBehind : List (String × LogicalType) → String
  | [] => ""
  | field :: rest => ", " ++ renderFields (field :: rest)

theorem fieldsAhead_append (fs gs : List (String × LogicalType)) :
    fieldsAhead (fs ++ gs) = fieldsAhead fs ++ fieldsAhead gs := by
  induction fs with
  | nil => simp [fieldsAhead]
  | cons f fs ih => simp [fieldsAhead, ih, String.append_assoc]

theorem renderFields_append (before : List (String × LogicalType)) (name : String)
    (t : LogicalType) (after : List (String × LogicalType)) :
    renderFields (before ++ (name, t) :: after) =
      fieldsAhead before ++ backquoted name ++ " " ++ t.render ++ fieldsBehind after := by
  induction before with
  | nil => cases after <;> simp [renderFields, fieldsAhead, fieldsBehind, String.append_assoc]
  | cons f before ih =>
    obtain ⟨g, gs, hg⟩ := List.exists_cons_of_ne_nil
      (List.append_ne_nil_of_right_ne_nil before (List.cons_ne_nil (name, t) after))
    rw [List.cons_append, hg, renderFields, ← hg, ih]
    simp [fieldsAhead, String.append_assoc]

namespace Place

/-- The type that has `t` at the place. -/
def fill : Place → LogicalType → LogicalType
  | here, t => t
  | element p, t => .array (p.fill t)
  | field before name p after, t => .row (before ++ (name, p.fill t) :: after)

/-- What is printed in front of the place. -/
def ahead : Place → String
  | here => ""
  | element p => "ARRAY<" ++ p.ahead
  | field before name p _ => "ROW<" ++ fieldsAhead before ++ backquoted name ++ " " ++ p.ahead

/-- What is printed behind the place. -/
def behind : Place → String
  | here => ""
  | element p => p.behind ++ ">"
  | field _ _ p after => p.behind ++ fieldsBehind after ++ ">"

theorem render_fill (p : Place) (t : LogicalType) :
    (p.fill t).render = p.ahead ++ t.render ++ p.behind := by
  induction p with
  | here => simp [fill, ahead, behind]
  | element p ih => simp [fill, ahead, behind, render, ih, String.append_assoc]
  | field before name p after ih =>
    rw [fill, render, renderFields_append, ih]
    simp [ahead, behind, String.append_assoc]

theorem inside_fill (p : Place) (t : LogicalType) : Inside t (p.fill t) := by
  induction p with
  | here => exact .refl
  | element p ih => exact .element ih
  | field before name p after ih => exact .field (f := (name, p.fill t)) (by simp) ih

end Place

/-- The unsupported type `raw` stands at the place `p` of `t`, and in the printed text of `t` every
other one stands behind it. -/
structure Leftmost (p : Place) (raw : String) (t : LogicalType) : Prop where
  stands : p.fill (.unsupported raw) = t
  printed : t.render = p.ahead ++ raw ++ p.behind
  first : ∀ q other, q.fill (.unsupported other) = t →
    q = p ∨ ∃ between, q.ahead = p.ahead ++ raw ++ between

/-! ### The type that is reported -/

theorem findUnsupported_eq_none_iff {t : LogicalType} :
    t.findUnsupported = none ↔ ∀ raw, ¬ Inside (.unsupported raw) t := by
  rw [findUnsupported_eq_head?, List.head?_eq_none_iff, List.eq_nil_iff_forall_not_mem]
  exact forall_congr' fun raw => not_congr mem_unsupportedTexts

/-- The first field with an unsupported type is searched. -/
theorem exists_of_findUnsupportedField {fields : List (String × LogicalType)} {raw : String}
    (h : findUnsupportedField fields = some raw) : ∃ before name t after,
      fields = before ++ (name, t) :: after ∧ (∀ f ∈ before, f.2.findUnsupported = none) ∧
        t.findUnsupported = some raw := by
  induction fields with
  | nil => cases h
  | cons f rest ih =>
    obtain ⟨name, t⟩ := f
    rw [findUnsupportedField] at h
    rcases Option.or_eq_some_iff.mp h with ht | ⟨ht, hrest⟩
    · exact ⟨[], name, t, rest, rfl, by simp, ht⟩
    · obtain ⟨before, name', t', after, rfl, hb, ht'⟩ := ih hrest
      exact ⟨(name, t) :: before, name', t', after, rfl, List.forall_mem_cons.mpr ⟨ht, hb⟩, ht'⟩

/-- Two entries of a list are the same, or one of them comes first. -/
theorem append_cons_cases {α : Type} {before before' after after' : List α} {a a' : α}
    (h : before' ++ a' :: after' = before ++ a :: after) :
    (before' = before ∧ a' = a ∧ after' = after) ∨ a' ∈ before ∨
      ∃ between, before' = before ++ a :: between := by
  rcases List.append_eq_append_iff.mp h with ⟨m, rfl, hm⟩ | ⟨m, rfl, hm⟩
  · cases m with
    | nil =>
      obtain ⟨ha, hafter⟩ := List.cons.inj hm
      exact .inl ⟨by simp, ha, hafter⟩
    | cons b m =>
      obtain ⟨rfl, -⟩ := List.cons.inj hm
      exact .inr (.inl (by simp))
  · cases m with
    | nil =>
      obtain ⟨ha, hafter⟩ := List.cons.inj hm
      exact .inl ⟨by simp, ha.symm, hafter.symm⟩
    | cons b m =>
      obtain ⟨rfl, -⟩ := List.cons.inj hm
      exact .inr (.inr ⟨m, rfl⟩)

theorem leftmost_here (raw : String) : Leftmost .here raw (.unsupported raw) where
  stands := rfl
  printed := by simp [render, Place.ahead, Place.behind]
  first q other hq := by
    left
    cases q with
    | here => rfl
    | element _ | field _ _ _ _ => cases hq

theorem Leftmost.element {p : Place} {raw : String} {e : LogicalType} (h : Leftmost p raw e) :
    Leftmost (.element p) raw (.array e) := by
  obtain ⟨rfl, -, hfirst⟩ := h
  refine ⟨rfl, Place.render_fill (.element p) _, fun q other hq => ?_⟩
  cases q with
  | here | field _ _ _ _ => cases hq
  | element q =>
    rcases hfirst q other (LogicalType.array.inj hq) with rfl | ⟨between, hb⟩
    · exact .inl rfl
    · exact .inr ⟨between, by simp [Place.ahead, hb, String.append_assoc]⟩

theorem Leftmost.field {p : Place} {raw : String} {t : LogicalType} (h : Leftmost p raw t)
    {before : List (String × LogicalType)} (hnone : ∀ f ∈ before, f.2.findUnsupported = none)
    (name : String) (after : List (String × LogicalType)) :
    Leftmost (.field before name p after) raw (.row (before ++ (name, t) :: after)) := by
  obtain ⟨rfl, hprinted, hfirst⟩ := h
  refine ⟨rfl, Place.render_fill (.field before name p after) _, fun q other hq => ?_⟩
  cases q with
  | here | element _ => cases hq
  | field before' name' q after' =>
    rcases append_cons_cases (LogicalType.row.inj hq) with ⟨rfl, hf, rfl⟩ | hm | ⟨between, rfl⟩
    · -- Both stand in the same field.
      obtain ⟨rfl, hfield⟩ := Prod.mk.inj hf
      rcases hfirst q other hfield with rfl | ⟨between, hb⟩
      · exact .inl rfl
      · exact .inr ⟨between, by simp [Place.ahead, hb, String.append_assoc]⟩
    · exact absurd (q.inside_fill _) (findUnsupported_eq_none_iff.mp (hnone _ hm) other)
    · right
      use p.behind ++ ", " ++ fieldsAhead between ++ backquoted name' ++ " " ++ q.ahead
      rw [Place.ahead, fieldsAhead_append, fieldsAhead, hprinted]
      simp [Place.ahead, String.append_assoc]

/-- What the search finds is the leftmost unsupported type of the printed text. -/
theorem exists_leftmost {t : LogicalType} {raw : String} (h : t.findUnsupported = some raw) :
    ∃ p, Leftmost p raw t := by
  induction t using induction with
  | scalar t ht =>
    cases t with
    | unsupported text =>
      obtain rfl : text = raw := by simpa [findUnsupported] using h
      exact ⟨.here, leftmost_here text⟩
    | array _ | row _ => cases ht
    | _ => cases h
  | array e ih =>
    rw [findUnsupported] at h
    obtain ⟨p, hp⟩ := ih h
    exact ⟨.element p, hp.element⟩
  | row fields ih =>
    rw [findUnsupported] at h
    obtain ⟨before, name, t, after, rfl, hnone, hfind⟩ := exists_of_findUnsupportedField h
    obtain ⟨p, hp⟩ := ih (name, t) (by simp) hfind
    exact ⟨.field before name p after, hp.field hnone name after⟩

/-! ### Types that both take -/

/-- A type that was read from a type text and that a sink table stores as it is. -/
structure Direct (t : LogicalType) : Prop where
  read : ∃ raw c, ColumnType.parse raw = .ok c ∧ c.dataType = t
  supported : ∀ raw, ¬ Inside (.unsupported raw) t
  scalar : t.isStructured = false

theorem Direct.runtimeType {t : LogicalType} (h : t.Direct) : t.runtimeType = .ok t.render := by
  rw [LogicalType.runtimeType, findUnsupported_eq_none_iff.mpr h.supported]
  simp [h.scalar]

theorem Direct.parse_render {t : LogicalType} (h : t.Direct) :
    ColumnType.parse t.render = .ok ⟨t, true, none⟩ := by
  obtain ⟨raw, c, hc, rfl⟩ := h.read
  exact LogicalType.parse_render _ h.scalar (findUnsupported_eq_none_iff.mpr h.supported)
    (ColumnType.bounded_of_parse hc)

/-- A type of column definitions fails where the search finds something, and with that. -/
theorem error_iff_of_refuses {type : LogicalType → Except String String} (hr : Column.Refuses type)
    {t : LogicalType} {raw : String} : type t = .error raw ↔ t.findUnsupported = some raw := by
  obtain ⟨herror, hok⟩ := hr t
  rw [findUnsupported_eq_head?]
  refine ⟨fun h => ?_, herror raw⟩
  cases hu : t.unsupportedTexts.head? with
  | none =>
    obtain ⟨text, ht⟩ := hok hu
    rw [ht] at h
    cases h
  | some other =>
    rw [herror other hu] at h
    cases h
    rfl

theorem exists_error_iff_of_refuses {type : LogicalType → Except String String}
    (hr : Column.Refuses type) {t : LogicalType} :
    (∃ raw, type t = .error raw) ↔ ∃ raw, Inside (.unsupported raw) t := by
  simp only [error_iff_of_refuses hr]
  constructor
  · rintro ⟨raw, h⟩
    rw [findUnsupported_eq_head?] at h
    exact ⟨raw, mem_unsupportedTexts.mp (List.mem_of_head? h)⟩
  · rintro ⟨raw, h⟩
    cases hf : t.findUnsupported with
    | none => exact absurd h (findUnsupported_eq_none_iff.mp hf raw)
    | some other => exact ⟨other, rfl⟩

/-- A column type is refused by one destination exactly if it is refused by the other, which is if
an unsupported type stands anywhere in it. Both report the one that comes first in the printed text.
A type that was read from a type text and that is neither refused nor structured is read back from
the text that the sink table declares, so no other such type has that text. -/
theorem destinations_refuse_alike (t : LogicalType) :
    ((∃ raw, t.postgresType = .error raw) ↔ ∃ raw, Inside (.unsupported raw) t) ∧
      ((∃ raw, t.runtimeType = .error raw) ↔ ∃ raw, Inside (.unsupported raw) t) ∧
      (∀ raw, t.postgresType = .error raw ∨ t.runtimeType = .error raw →
        t.postgresType = .error raw ∧ t.runtimeType = .error raw ∧ ∃ p, Leftmost p raw t) ∧
      (t.Direct → ∃ text, t.runtimeType = .ok text ∧
        ColumnType.parse text = .ok ⟨t, true, none⟩ ∧
          ∀ u : LogicalType, u.Direct → u.runtimeType = .ok text → u = t) := by
  have hp := Column.refuses_postgresType
  have hr := Column.refuses_runtimeType
  refine ⟨exists_error_iff_of_refuses hp, exists_error_iff_of_refuses hr, fun raw h => ?_,
    fun h => ⟨t.render, h.runtimeType, h.parse_render, fun u hu htext => ?_⟩⟩
  · rw [error_iff_of_refuses hp, error_iff_of_refuses hr, or_self] at h
    exact ⟨(error_iff_of_refuses hp).mpr h, (error_iff_of_refuses hr).mpr h, exists_leftmost h⟩
  · have hrender : u.render = t.render := Except.ok.inj (hu.runtimeType.symm.trans htext)
    have hparse := hu.parse_render
    rw [hrender, h.parse_render] at hparse
    exact (congrArg ColumnType.dataType (Except.ok.inj hparse)).symm

/-- A row with two unsupported types, the first of them inside an array. -/
def shapesType : LogicalType :=
  .row [("id", .int), ("shape, MAP", .array (.unsupported "MAP<STRING, INT>")),
    ("raw", .unsupported "RAW('a', 'b')")]

theorem destinations_refuse_alike_shapes :
    (shapesType.postgresType = .error "MAP<STRING, INT>" ∧
      shapesType.runtimeType = .error "MAP<STRING, INT>" ∧
      ∃ p, Leftmost p "MAP<STRING, INT>" shapesType) ∧
    (decimal 10 2).Direct ∧ ∃ text, (decimal 10 2).runtimeType = .ok text ∧
      ColumnType.parse text = .ok ⟨decimal 10 2, true, none⟩ := by
  obtain ⟨-, -, hrefused, -⟩ := destinations_refuse_alike shapesType
  obtain ⟨-, -, -, htaken⟩ := destinations_refuse_alike (decimal 10 2)
  have hdirect : (decimal 10 2).Direct :=
    ⟨⟨_, _, parse_render (decimal 10 2) rfl rfl trivial, rfl⟩,
      fun raw h => absurd (eq_of_inside rfl h) (by simp), rfl⟩
  obtain ⟨text, htext, hparse, -⟩ := htaken hdirect
  exact ⟨hrefused _ (.inl rfl), hdirect, text, htext, hparse⟩

end LogicalType

end StreamPipeline
