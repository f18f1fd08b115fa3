import Mathlib
import StreamPipeline.Gateway.Message
import StreamPipeline.Proofs.Results

/-! # Descriptions of views

A description is a header and rows of cells. A column is read off a row by the labels of the header
in any letter case, so the order of the header does not matter where no label occurs twice: the same
columns are read when the header and every row are put into another order.
-/

namespace StreamPipeline.Gateway

open Text (lowerAscii)

/-! ### Cells -/

/-- The header has the label, in any letter case. -/
def Labelled (names : List String) (label : String) : Prop :=
  lowerAscii label ∈ names.map lowerAscii

/-- The value stands in the row under the label, in any letter case. -/
def Cell (names : List String) (row : List Json) (label : String) (v : Json) : Prop :=
  (lowerAscii label, v) ∈ (names.map lowerAscii).zip row

/-- What the cells of a row say about its column. Whether the column may be null is what the cell
for it says, if it says so, and else what the text of the type says. -/
structure DescribedAs (cell : String → Json → Prop) (raw : String) (t : ColumnType) (c : Column) :
    Prop where
  name : cell "name" (.string c.name)
  type : cell "type" (.string raw)
  parsed : ColumnType.parse raw = .ok t
  dataType : c.dataType = t.dataType
  timeAttribute : c.timeAttribute = t.timeAttribute
  nullable : ∀ b, cell "null" (.bool b) → c.nullable = b
  nullable_default : (∀ b, ¬ cell "null" (.bool b)) → c.nullable = t.nullable

def Described (names : List String) (row : List Json) (c : Column) : Prop :=
  ∃ raw t, DescribedAs (Cell names row) raw t c

section Reading

variable {names : List String} {row : List Json} {label : String} {i : Nat}

theorem position?_isSome_iff : (position? label names).isSome = true ↔ Labelled names label := by
  simp only [position?, List.findIdx?_isSome, List.any_eq_true, Text.eqIgnoreCase, beq_iff_eq,
    Labelled, List.mem_map]
  exact exists_congr fun n => and_congr_right fun _ => eq_comm

theorem position?_getElem? (h : position? label names = some i) :
    (names.map lowerAscii)[i]? = some (lowerAscii label) := by
  obtain ⟨hi, hlabel, -⟩ := List.findIdx?_eq_some_iff_getElem.mp h
  rw [List.getElem?_map, List.getElem?_eq_getElem hi, Option.map_some]
  exact congrArg some (beq_iff_eq.mp hlabel).symm

/-- In a header without repetitions the cell under a label is the one at its first place. -/
theorem cell_iff (hdistinct : (names.map lowerAscii).Nodup) {v : Json} :
    Cell names row label v ↔ ((position? label names).bind fun i => row[i]?) = some v := by
  rw [Option.bind_eq_some_iff]
  constructor
  · intro h
    obtain ⟨j, hj⟩ := List.mem_iff_getElem?.mp h
    obtain ⟨hname, hv⟩ := List.getElem?_zip_eq_some.mp hj
    have hlabelled : Labelled names label := List.mem_of_getElem? hname
    obtain ⟨i, hi⟩ := Option.isSome_iff_exists.mp (position?_isSome_iff.mpr hlabelled)
    obtain ⟨hlt, -⟩ := List.getElem?_eq_some_iff.mp (position?_getElem? hi)
    have hij : i = j :=
      (List.getElem?_inj hlt hdistinct).mp ((position?_getElem? hi).trans hname.symm)
    exact ⟨i, hi, hij ▸ hv⟩
  · rintro ⟨i, hi, hv⟩
    exact List.mem_of_getElem? (List.getElem?_zip_eq_some.mpr ⟨position?_getElem? hi, hv⟩)

/-! ### Rows -/

theorem string?_eq_some_iff {v : Json} {s : String} : v.string? = some s ↔ v = .string s := by
  cases v <;> simp [Json.string?]

theorem bool?_eq_some_iff {v : Json} {b : Bool} : v.bool? = some b ↔ v = .bool b := by
  cases v <;> simp [Json.bool?]

theorem textAt?_eq_some_iff (hdistinct : (names.map lowerAscii).Nodup)
    (hi : position? label names = some i) {s : String} :
    textAt? row i = some s ↔ Cell names row label (.string s) := by
  simp only [textAt?, cell_iff hdistinct, hi, Option.bind_some, Option.bind_eq_some_iff,
    string?_eq_some_iff, exists_eq_right]

/-- The boolean that a row has for whether its column may be null. -/
def nullable? (at? : Option Nat) (row : List Json) : Option Bool :=
  (at?.bind fun i => row[i]?).bind Json.bool?

theorem nullable?_eq_some_iff (hdistinct : (names.map lowerAscii).Nodup) {b : Bool} :
    nullable? (position? label names) row = some b ↔ Cell names row label (.bool b) := by
  simp only [nullable?, cell_iff hdistinct, Option.bind_eq_some_iff, bool?_eq_some_iff,
    exists_eq_right]

theorem eq_getD_nullable?_iff (hdistinct : (names.map lowerAscii).Nodup) {b d : Bool} :
    b = (nullable? (position? label names) row).getD d ↔
      (∀ b', Cell names row label (.bool b') → b = b') ∧
        ((∀ b', ¬ Cell names row label (.bool b')) → b = d) := by
  simp only [← nullable?_eq_some_iff hdistinct]
  cases nullable? (position? label names) row <;> simp

theorem columnOfRow_eq_ok_iff {n t : Nat} {at? : Option Nat} {c : Column} :
    columnOfRow n t at? row = .ok c ↔
      ∃ name raw p, textAt? row n = some name ∧ textAt? row t = some raw ∧
        ColumnType.parse raw = .ok p ∧
        c = ⟨name, p.dataType, (nullable? at? row).getD p.nullable, p.timeAttribute⟩ := by
  unfold columnOfRow
  cases hname : textAt? row n with
  | none => simp
  | some name =>
    cases hraw : textAt? row t with
    | none => simp
    | some raw =>
      cases hparsed : ColumnType.parse raw with
      | error e => simp [Column.ofTypeText, hparsed, Except.map]
      | ok p =>
        simp only [Column.ofTypeText, hparsed, Except.map, nullable?]
        cases (at?.bind fun i => row[i]?).bind Json.bool? <;> simp [hparsed, eq_comm]

theorem columnOfRow_iff_described (hdistinct : (names.map lowerAscii).Nodup) {n t : Nat}
    (hn : position? "name" names = some n) (ht : position? "type" names = some t) {c : Column} :
    columnOfRow n t (position? "null" names) row = .ok c ↔ Described names row c := by
  rw [columnOfRow_eq_ok_iff]
  simp only [textAt?_eq_some_iff hdistinct hn, textAt?_eq_some_iff hdistinct ht]
  constructor
  · rintro ⟨name, raw, p, hname, hraw, hparsed, rfl⟩
    obtain ⟨hcell, hdefault⟩ := (eq_getD_nullable?_iff hdistinct).mp rfl
    exact ⟨raw, p, hname, hraw, hparsed, rfl, rfl, hcell, hdefault⟩
  · rintro ⟨raw, p, h⟩
    refine ⟨c.name, raw, p, h.name, h.type, h.parsed, ?_⟩
    rw [← h.dataType, ← h.timeAttribute,
      ← (eq_getD_nullable?_iff hdistinct).mpr ⟨h.nullable, h.nullable_default⟩]

end Reading

/-- With labels that differ, the columns are read if the header has what is needed and every row
describes a column. -/
theorem columnsOf_eq_ok_iff {names : List String} (hdistinct : (names.map lowerAscii).Nodup)
    {rows : List (List Json)} {columns : List Column} :
    columnsOf names rows = .ok columns ↔
      Labelled names "name" ∧ Labelled names "type" ∧
        List.Forall₂ (Described names) rows columns := by
  rw [← position?_isSome_iff, ← position?_isSome_iff, columnsOf]
  cases hn : position? "name" names with
  | none => simp
  | some n =>
    cases ht : position? "type" names with
    | none => simp
    | some t => simp [mapM_eq_ok_iff, columnOfRow_iff_described hdistinct hn ht]

/-! ### Other orders -/

/-- The members of a list at the given places. -/
def arrange {α : Type} (order : List Nat) (l : List α) : List α := order.filterMap (l[·]?)

section Orders

variable {α β : Type} {order : List Nat}

theorem arrange_map (f : α → β) (l : List α) :
    arrange order (l.map f) = (arrange order l).map f := by
  simp [arrange, List.map_filterMap]

theorem arrange_range (l : List α) : arrange (List.range l.length) l = l := by
  induction l with
  | nil => rfl
  | cons a l ih =>
    rw [List.length_cons, List.range_succ_eq_map, arrange,
      List.filterMap_cons_some (show (a :: l)[0]? = some a from rfl), List.filterMap_map]
    exact congrArg (a :: ·) ih

theorem arrange_perm {l : List α} (h : order.Perm (List.range l.length)) :
    (arrange order l).Perm l := by
  have hperm := h.filterMap (l[·]?)
  rwa [← arrange, ← arrange, arrange_range] at hperm

theorem zip_arrange {a : List α} {b : List β} (h : a.length = b.length) :
    (arrange order a).zip (arrange order b) = arrange order (a.zip b) := by
  unfold arrange
  induction order with
  | nil => rfl
  | cons i order ih =>
    by_cases hi : i < a.length
    · have hb : i < b.length := h ▸ hi
      have hz : i < (a.zip b).length := by rw [List.length_zip]; omega
      rw [List.filterMap_cons_some (List.getElem?_eq_getElem hi),
        List.filterMap_cons_some (List.getElem?_eq_getElem hb),
        List.filterMap_cons_some (List.getElem?_eq_getElem hz), List.zip_cons_cons, ih,
        List.getElem_zip]
    · have hb : b.length ≤ i := by omega
      have hz : (a.zip b).length ≤ i := by rw [List.length_zip]; omega
      rw [List.filterMap_cons_none (List.getElem?_eq_none (Nat.le_of_not_lt hi)),
        List.filterMap_cons_none (List.getElem?_eq_none hb),
        List.filterMap_cons_none (List.getElem?_eq_none hz), ih]

end Orders

section Reordered

variable {names names' : List String} {order : List Nat} {row : List Json} {label : String}
  (horder : order.Perm (List.range names.length))
  (hcase : names'.map lowerAscii = (arrange order names).map lowerAscii)

include horder hcase

theorem labels_perm : (names'.map lowerAscii).Perm (names.map lowerAscii) :=
  hcase ▸ (arrange_perm horder).map lowerAscii

theorem labelled_arranged : Labelled names' label ↔ Labelled names label :=
  (labels_perm horder hcase).mem_iff

theorem cell_arranged (hrow : row.length = names.length) {v : Json} :
    Cell names' (arrange order row) label v ↔ Cell names row label v := by
  have hlabels : (names.map lowerAscii).length = row.length := by rw [List.length_map, hrow]
  have hzip : ((names.map lowerAscii).zip row).length = names.length := by
    rw [List.length_zip, hlabels, Nat.min_self, hrow]
  rw [Cell, hcase, ← arrange_map, zip_arrange hlabels]
  exact (arrange_perm (hzip ▸ horder)).mem_iff

theorem described_arranged (hrow : row.length = names.length) {c : Column} :
    Described names' (arrange order row) c ↔ Described names row c := by
  have hcells : Cell names' (arrange order row) = Cell names row :=
    funext₂ fun _ _ => propext (cell_arranged horder hcase hrow)
  rw [Described, hcells, ← Described]

theorem forall₂_described_arranged {rows : List (List Json)}
    (hrows : ∀ row ∈ rows, row.length = names.length) {columns : List Column} :
    List.Forall₂ (Described names') (rows.map (arrange order)) columns ↔
      List.Forall₂ (Described names) rows columns := by
  rw [List.forall₂_map_left_iff]
  have hboth (P : List Json → Column → Prop) :
      List.Forall₂ P rows columns ↔
        List.Forall₂ (fun row c => row.length = names.length ∧ P row c) rows columns := by
    rw [List.forall₂_and_left]
    exact (and_iff_right hrows).symm
  rw [hboth, hboth (Described names)]
  simp only [and_congr_right_iff.mpr fun hrow => described_arranged horder hcase hrow]

end Reordered

/-- The order of a description and the case of its labels do not matter, and every row describes
its column. -/
theorem columnsOf_reordered {names names' : List String} {order : List Nat}
    {rows : List (List Json)} (hdistinct : (names.map lowerAscii).Nodup)
    (hrows : ∀ row ∈ rows, row.length = names.length)
    (horder : order.Perm (List.range names.length))
    (hcase : names'.map lowerAscii = (arrange order names).map lowerAscii) :
    (columnsOf names' (rows.map (arrange order))).toOption = (columnsOf names rows).toOption ∧
      ∀ columns, columnsOf names rows = .ok columns ↔
        Labelled names "name" ∧ Labelled names "type" ∧
          List.Forall₂ (Described names) rows columns := by
  refine ⟨Option.ext fun columns => ?_, fun columns => columnsOf_eq_ok_iff hdistinct⟩
  have hdistinct' : (names'.map lowerAscii).Nodup :=
    (labels_perm horder hcase).nodup_iff.mpr hdistinct
  rw [toOption_eq_some_iff, toOption_eq_some_iff, columnsOf_eq_ok_iff hdistinct',
    columnsOf_eq_ok_iff hdistinct, labelled_arranged horder hcase, labelled_arranged horder hcase,
    forall₂_described_arranged horder hcase hrows]

theorem columnsOf_reordered_typeFirst :
    (["null", "name", "type"].map lowerAscii).Nodup ∧
      [2, 0, 1].Perm (List.range 3) ∧
      ["TYPE", "Null", "name"].map lowerAscii =
        (arrange [2, 0, 1] ["null", "name", "type"]).map lowerAscii ∧
      (columnsOf ["TYPE", "Null", "name"]
        [[.string "BIGINT NOT NULL", .null, .string "id"],
          [.string "TIMESTAMP_LTZ(3) *PROCTIME*", .bool false, .string "at"]]).toOption =
        some [⟨"id", .bigInt, false, none⟩,
          ⟨"at", .timestampLtz (some 3), false, some .procTime⟩] := by
  have hdistinct : (["null", "name", "type"].map lowerAscii).Nodup := by decide
  have horder : [2, 0, 1].Perm (List.range 3) := by decide
  have hcase : ["TYPE", "Null", "name"].map lowerAscii =
      (arrange [2, 0, 1] ["null", "name", "type"]).map lowerAscii := by decide
  have hid : ColumnType.parse "BIGINT NOT NULL" = .ok ⟨.bigInt, false, none⟩ := by cbv
  have hat : ColumnType.parse "TIMESTAMP_LTZ(3) *PROCTIME*" =
      .ok ⟨.timestampLtz (some 3), true, some .procTime⟩ := by cbv
  obtain ⟨hsame, hread⟩ := @columnsOf_reordered _ _ _
    [[.null, .string "id", .string "BIGINT NOT NULL"],
      [.bool false, .string "at", .string "TIMESTAMP_LTZ(3) *PROCTIME*"]]
    hdistinct (by decide) horder hcase
  refine ⟨hdistinct, horder, hcase, hsame.trans (toOption_eq_some_iff.mpr ((hread _).mpr ?_))⟩
  have hlower : lowerAscii "null" = "null" ∧ lowerAscii "name" = "name" ∧
      lowerAscii "type" = "type" := by decide
  refine ⟨by simp [Labelled], by simp [Labelled], .cons ?_ (.cons ?_ .nil)⟩
  · -- The cell for `null` says nothing here, and the text does.
    exact ⟨_, _, by simp [Cell, hlower], by simp [Cell, hlower], hid, rfl, rfl,
      by simp [Cell, hlower], fun _ => rfl⟩
  · exact ⟨_, _, by simp [Cell, hlower], by simp [Cell, hlower], hat, rfl, rfl,
      by simp [Cell, hlower], fun h => (h false (by simp [Cell, hlower])).elim⟩

end StreamPipeline.Gateway
