import Mathlib.Data.List.Forall2
import StreamPipeline.Proofs.Schema.Spelling
import StreamPipeline.Schema.Mapping

/-! # Types that cannot be mapped

An unsupported type anywhere inside the type of a column leaves the column without a definition. The
error names the first such column of the view, and the leftmost unsupported type inside it.
-/

namespace StreamPipeline

/-! ### Inside a type -/

namespace LogicalType

mutual

/-- The unsupported types inside a type, from left to right. -/
def unsupportedTexts : LogicalType → List String
  | unsupported raw => [raw]
  | array element => unsupportedTexts element
  | row fields => unsupportedFieldTexts fields
  | _ => []

def unsupportedFieldTexts : List (String × LogicalType) → List String
  | [] => []
  | (_, t) :: rest => unsupportedTexts t ++ unsupportedFieldTexts rest

end

theorem unsupportedTexts_scalar {t : LogicalType} (ht : t.isStructured = false) {raw : String} :
    raw ∈ t.unsupportedTexts ↔ Inside (.unsupported raw) t := by
  constructor
  · intro h
    cases t with
    | unsupported text =>
      obtain rfl := List.mem_singleton.mp h
      exact .refl
    | array _ | row _ => cases ht
    | _ => cases h
  · intro h
    obtain rfl := eq_of_inside ht h
    exact List.mem_singleton_self _

theorem mem_unsupportedFieldTexts {fields : List (String × LogicalType)} {raw : String} :
    raw ∈ unsupportedFieldTexts fields ↔ ∃ f ∈ fields, raw ∈ f.2.unsupportedTexts := by
  induction fields with
  | nil => simp [unsupportedFieldTexts]
  | cons f rest ih =>
    obtain ⟨name, t⟩ := f
    simp [unsupportedFieldTexts, ih]

/-- Unsupported types count at any depth. -/
theorem mem_unsupportedTexts {t : LogicalType} {raw : String} :
    raw ∈ t.unsupportedTexts ↔ Inside (.unsupported raw) t := by
  induction t using induction with
  | scalar t ht => exact unsupportedTexts_scalar ht
  | array e ih =>
    rw [unsupportedTexts, ih]
    exact ⟨.element, fun h => by cases h with | element h => exact h⟩
  | row fields ih =>
    rw [unsupportedTexts, mem_unsupportedFieldTexts]
    constructor
    · rintro ⟨f, hf, h⟩
      exact .field hf ((ih f hf).mp h)
    · intro h
      cases h with
      | field hf h => exact ⟨_, hf, (ih _ hf).mpr h⟩

mutual

/-- What the search finds is the leftmost of them. -/
theorem findUnsupported_eq_head? (t : LogicalType) :
    t.findUnsupported = t.unsupportedTexts.head? := by
  cases t with
  | array e => exact findUnsupported_eq_head? e
  | row fields => exact findUnsupportedField_eq_head? fields
  | _ => rfl

theorem findUnsupportedField_eq_head? (fields : List (String × LogicalType)) :
    findUnsupportedField fields = (unsupportedFieldTexts fields).head? := by
  match fields with
  | [] => rfl
  | (name, t) :: rest =>
    rw [findUnsupportedField, unsupportedFieldTexts, List.head?_append,
      findUnsupported_eq_head? t, findUnsupportedField_eq_head? rest]

end

end LogicalType

/-! ### In the columns of a view -/

namespace Column

/-- The column would be written to a sink and cannot be: it is none of processing time, and `raw` is
the leftmost unsupported type in it. -/
structure Unmappable (c : Column) (raw : String) : Prop where
  written : c.isProcessingTime = false
  leftmost : c.dataType.unsupportedTexts.head? = some raw

theorem exists_unmappable_iff {c : Column} : (∃ raw, c.Unmappable raw) ↔
    c.isProcessingTime = false ∧ ∃ raw, LogicalType.Inside (.unsupported raw) c.dataType := by
  constructor
  · rintro ⟨raw, hw, hl⟩
    exact ⟨hw, raw, LogicalType.mem_unsupportedTexts.mp (List.mem_of_head? hl)⟩
  · rintro ⟨hw, raw, hi⟩
    have hm := LogicalType.mem_unsupportedTexts.mpr hi
    cases hl : c.dataType.unsupportedTexts with
    | nil => rw [hl] at hm; cases hm
    | cons first _ => exact ⟨first, hw, congrArg List.head? hl⟩

/-- Every column of the view that is written to a sink can be mapped. -/
def Mappable (columns : List Column) : Prop := ∀ c ∈ columns, ∀ raw, ¬ c.Unmappable raw

/-- The first column of the view that cannot be mapped has the name `column` and the leftmost
unsupported type `raw`. -/
def FirstUnmappable (columns : List Column) (column raw : String) : Prop :=
  ∃ before c after, columns = before ++ c :: after ∧ Mappable before ∧ c.name = column ∧
    c.Unmappable raw

theorem mappable_nil : Mappable [] := by simp [Mappable]

theorem Mappable.cons {c : Column} {columns : List Column} (hc : ∀ raw, ¬ c.Unmappable raw)
    (h : Mappable columns) : Mappable (c :: columns) :=
  List.forall_mem_cons.mpr ⟨hc, h⟩

theorem FirstUnmappable.cons {c : Column} {columns : List Column} {column raw : String}
    (hc : ∀ raw, ¬ c.Unmappable raw) (h : FirstUnmappable columns column raw) :
    FirstUnmappable (c :: columns) column raw := by
  obtain ⟨before, d, after, rfl, hb, hd⟩ := h
  exact ⟨c :: before, d, after, rfl, hb.cons hc, hd⟩

theorem FirstUnmappable.not_mappable {columns : List Column} {column raw : String}
    (h : FirstUnmappable columns column raw) : ¬ Mappable columns := by
  obtain ⟨before, c, after, rfl, -, -, hc⟩ := h
  exact fun hm => hm c (by simp) raw hc

/-- A type of column definitions that knows all but the unsupported types. -/
def Refuses (type : LogicalType → Except String String) : Prop :=
  ∀ t, (∀ raw, t.unsupportedTexts.head? = some raw → type t = .error raw) ∧
    (t.unsupportedTexts.head? = none → ∃ text, type t = .ok text)

theorem refuses_runtimeType : Refuses LogicalType.runtimeType := by
  intro t
  unfold LogicalType.runtimeType
  rw [LogicalType.findUnsupported_eq_head?]
  cases t.unsupportedTexts.head? <;> simp

theorem refuses_postgresType : Refuses LogicalType.postgresType := by
  intro t
  unfold LogicalType.postgresType
  rw [LogicalType.findUnsupported_eq_head?]
  cases t.unsupportedTexts.head? <;> simp

section Define

variable {view : String} {type : LogicalType → Except String String}
  {write : Column → String → String}

/-- Every column has the definition of its type. -/
theorem forall₂_of_define {columns : List Column} {defs : List String}
    (h : define view type write columns = .ok defs) :
    List.Forall₂ (fun c d => ∃ text, type c.dataType = .ok text ∧ d = write c text)
      columns defs := by
  induction columns generalizing defs with
  | nil => cases h; exact .nil
  | cons c rest ih =>
    unfold define at h
    split at h
    · cases h
    next text ht =>
      cases hr : define view type write rest with
      | error e => rw [hr] at h; cases h
      | ok more =>
        rw [hr] at h
        cases h
        exact .cons ⟨text, ht, rfl⟩ (ih hr)

/-- The visible columns of a view have definitions, or the first one without a definition is
reported. -/
theorem define_visible (hr : Refuses type) (columns : List Column) :
    (Mappable columns ∧ ∃ defs, define view type write (visible columns) = .ok defs) ∨
      ∃ column raw, FirstUnmappable columns column raw ∧
        define view type write (visible columns) = .error (.unsupportedType view column raw) := by
  induction columns with
  | nil => exact .inl ⟨mappable_nil, [], rfl⟩
  | cons c rest ih =>
    cases ht : c.isProcessingTime with
    | true =>
      have hc : ∀ raw, ¬ c.Unmappable raw := fun raw h => by simp [h.written] at ht
      have hv : visible (c :: rest) = visible rest := by simp [visible, ht]
      rw [hv]
      obtain ⟨hm, hd⟩ | ⟨column, raw, hf, hd⟩ := ih
      · exact .inl ⟨hm.cons hc, hd⟩
      · exact .inr ⟨column, raw, hf.cons hc, hd⟩
    | false =>
      have hv : visible (c :: rest) = c :: visible rest := by simp [visible, ht]
      rw [hv, define]
      cases hl : c.dataType.unsupportedTexts.head? with
      | some raw =>
        rw [(hr c.dataType).1 raw hl]
        exact .inr ⟨c.name, raw, ⟨[], c, rest, rfl, mappable_nil, rfl, ht, hl⟩, rfl⟩
      | none =>
        have hc : ∀ raw, ¬ c.Unmappable raw := fun raw h => by simp [h.leftmost] at hl
        obtain ⟨text, htext⟩ := (hr c.dataType).2 hl
        rw [htext]
        obtain ⟨hm, defs, hd⟩ | ⟨column, raw, hf, hd⟩ := ih
        · exact .inl ⟨hm.cons hc, write c text :: defs, by rw [hd]; rfl⟩
        · exact .inr ⟨column, raw, hf.cons hc, by rw [hd]; rfl⟩

end Define

end Column

end StreamPipeline
