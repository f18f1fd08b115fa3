import StreamPipeline.Compile.Build

/-! # The two parts of the registry

The registry keeps the order of its names apart from their columns. A view that is registered
changes one after the other, and they stay in step: a name is listed exactly if it has columns, and
it is listed once.
-/

namespace StreamPipeline.ViewRegistry

variable {r : ViewRegistry} {name other : String} {columns known : List Column}

/-- The names that are listed are those that have columns, each of them listed once. -/
structure InStep (r : ViewRegistry) : Prop where
  listed : ∀ name, name ∈ r.names ↔ (r.get? name).isSome
  nodup : r.names.Nodup

@[simp] theorem names_add : (r.add name columns).names = r.names ++ [name] := rfl

theorem get?_add : (r.add name columns).get? other =
    if other = name then some columns else r.get? other := rfl

@[simp] theorem get?_add_self : (r.add name columns).get? name = some columns := by
  rw [get?_add, if_pos rfl]

/-- A new name takes nobody's columns. -/
theorem get?_add_of_some (hn : r.get? name = none) (ho : r.get? other = some known) :
    (r.add name columns).get? other = some known := by
  have hne : other ≠ name := by
    rintro rfl
    rw [hn] at ho
    cases ho
  rw [get?_add, if_neg hne, ho]

/-- The columns that a name has after another was added. -/
theorem get?_add_eq_some_iff : (r.add name columns).get? other = some known ↔
    (other = name ∧ known = columns) ∨ (other ≠ name ∧ r.get? other = some known) := by
  rw [get?_add]
  split
  next h => simp [h, eq_comm]
  next h => simp [h]

namespace InStep

theorem empty : ViewRegistry.empty.InStep :=
  ⟨fun _ => by simp [names, get?, ViewRegistry.empty], List.nodup_nil⟩

theorem exists_get? (h : r.InStep) (hn : name ∈ r.names) : ∃ columns, r.get? name = some columns :=
  Option.isSome_iff_exists.mp ((h.listed name).mp hn)

theorem get?_eq_none_iff (h : r.InStep) : r.get? name = none ↔ name ∉ r.names := by
  rw [h.listed, Option.not_isSome_iff_eq_none]

/-- The views are the names with the columns that they have, and no other. -/
theorem mem_views_iff (h : r.InStep) : (name, columns) ∈ r.views ↔ r.get? name = some columns := by
  rw [views, List.mem_map]
  constructor
  · rintro ⟨other, hother, he⟩
    obtain ⟨known, hknown⟩ := h.exists_get? hother
    obtain ⟨rfl, rfl⟩ := Prod.mk.inj he
    rw [hknown, Option.getD_some]
  · intro hn
    exact ⟨name, (h.listed name).mpr (Option.isSome_of_eq_some hn), by rw [hn, Option.getD_some]⟩

/-- Both parts get the new name. A known one would be listed twice. -/
theorem add (h : r.InStep) (hn : r.get? name = none) (columns : List Column) :
    (r.add name columns).InStep := by
  have hnew : name ∉ r.names := h.get?_eq_none_iff.mp hn
  constructor
  · intro other
    rw [names_add, List.mem_append, List.mem_singleton, h.listed, get?_add]
    by_cases ho : other = name <;> simp [ho]
  · rw [names_add]
    refine List.nodup_append.mpr ⟨h.nodup, List.pairwise_singleton _ _, ?_⟩
    rintro known hk _ ha rfl
    exact hnew (List.mem_singleton.mp ha ▸ hk)

end InStep

end StreamPipeline.ViewRegistry
