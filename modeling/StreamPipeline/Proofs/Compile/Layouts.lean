import StreamPipeline.Proofs.Compile.Runs
import StreamPipeline.Proofs.Schema.Unsupported

/-! # Mapping the sinks

To map the columns of the sinks asks nobody anything and changes nothing. It fails over the first
column of the first sink that cannot be mapped, and over nothing else.
-/

namespace StreamPipeline

namespace ViewRegistry

/-- Every column that a sink writes can be mapped. -/
def AllMappable (r : ViewRegistry) (sinks : List Sink) : Prop :=
  ∀ a ∈ sinks, ∀ columns, r.get? a.input = some columns → Column.Mappable columns

/-- The first of the sinks with a column that cannot be mapped reads `view`, where the first such
column is `column`, with the leftmost unsupported type `raw`. -/
def FirstUnmappable (r : ViewRegistry) (sinks : List Sink) (view column raw : String) : Prop :=
  ∃ before a after columns, sinks = before ++ a :: after ∧ r.AllMappable before ∧
    a.input = view ∧ r.get? view = some columns ∧ Column.FirstUnmappable columns column raw

theorem AllMappable.cons {r : ViewRegistry} {a : Sink} {sinks : List Sink} {columns : List Column}
    (hg : r.get? a.input = some columns) (hc : Column.Mappable columns)
    (h : r.AllMappable sinks) : r.AllMappable (a :: sinks) := by
  refine List.forall_mem_cons.mpr ⟨fun columns' hg' => ?_, h⟩
  obtain rfl := Option.some.inj (hg.symm.trans hg')
  exact hc

theorem FirstUnmappable.cons {r : ViewRegistry} {a : Sink} {sinks : List Sink}
    {columns : List Column} {view column raw : String} (hg : r.get? a.input = some columns)
    (hc : Column.Mappable columns) (h : r.FirstUnmappable sinks view column raw) :
    r.FirstUnmappable (a :: sinks) view column raw := by
  obtain ⟨before, b, after, rest, rfl, hb, hrest⟩ := h
  exact ⟨a :: before, b, after, rest, rfl, hb.cons hg hc, hrest⟩

end ViewRegistry

namespace Build

open ViewRegistry

variable {s s' : BuildState} {t : List Call.Exchange}

/-- The outcome of a step that maps columns of `view`. -/
def Maps {α : Type} (columns : List Column) (view : String) (r : Except PipelineError α) : Prop :=
  (Column.Mappable columns ∧ r.isOk = true) ∨ ∃ column raw,
    Column.FirstUnmappable columns column raw ∧ r = .error (.unsupportedType view column raw)

theorem Maps.mappable {α : Type} {columns : List Column} {view : String} {a : α}
    (h : Maps columns view (.ok a : Except PipelineError α)) : Column.Mappable columns := by
  obtain ⟨hm, -⟩ | ⟨column, raw, -, he⟩ := h
  · exact hm
  · cases he

theorem Maps.unmappable {α : Type} {columns : List Column} {view : String} {e : PipelineError}
    (h : Maps columns view (.error e : Except PipelineError α)) : ∃ column raw,
      Column.FirstUnmappable columns column raw ∧ e = .unsupportedType view column raw := by
  obtain ⟨-, he⟩ | ⟨column, raw, hf, he⟩ := h
  · cases he
  · exact ⟨column, raw, hf, Except.error.inj he⟩

theorem runs_define {type : LogicalType → Except String String} {write : Column → String → String}
    (hr : Column.Refuses type) {view : String} {columns : List Column}
    {r : Except PipelineError (List String)}
    (h : Runs (orThrow id (Column.define view type write (Column.visible columns))) s t r s') :
    t = [] ∧ s' = s ∧ Maps columns view r := by
  obtain ⟨rfl, rfl, rfl⟩ := runs_orThrow_iff.mp h
  refine ⟨rfl, rfl, ?_⟩
  obtain ⟨hm, defs, hd⟩ | ⟨column, raw, hf, hd⟩ :
      (Column.Mappable columns ∧ ∃ defs,
        Column.define view type write (Column.visible columns) = .ok defs) ∨ _ :=
    Column.define_visible hr columns
  · rw [hd]
    exact .inl ⟨hm, rfl⟩
  · rw [hd]
    exact .inr ⟨column, raw, hf, rfl⟩

theorem runs_layout {a : Sink} {columns : List Column} {r : Except PipelineError SinkLayout}
    (hg : s.registry.get? a.input = some columns) (h : Runs (layout a) s t r s') :
    t = [] ∧ s' = s ∧ Maps columns a.input r := by
  have hschema {t : List Call.Exchange} {r : Except PipelineError (List Column)}
      {s' : BuildState} (h : Runs (schema a.input) s t r s') :
      t = [] ∧ s' = s ∧ r = .ok columns := by
    obtain ⟨rfl, rfl, rfl⟩ := runs_schema_iff.mp h
    rw [hg]
    exact ⟨rfl, rfl, rfl⟩
  unfold layout at h
  obtain ⟨_, _, _, _, rfl, h₀, g₀⟩ | ⟨e, -, h₀⟩ := runs_bind_iff.mp h
  swap
  · cases (hschema h₀).2.2
  obtain ⟨rfl, rfl, hc⟩ := hschema h₀
  cases hc
  obtain ⟨_, _, runtimeDefs, _, rfl, h₁, g₁⟩ | ⟨e, rfl, h₁⟩ := runs_bind_iff.mp g₀
  swap
  · obtain ⟨rfl, rfl, hm⟩ := runs_define Column.refuses_runtimeType h₁
    obtain ⟨column, raw, hf, rfl⟩ := hm.unmappable
    exact ⟨rfl, rfl, .inr ⟨column, raw, hf, rfl⟩⟩
  obtain ⟨rfl, rfl, hm⟩ := runs_define Column.refuses_runtimeType h₁
  split at g₁
  · obtain ⟨_, _, postgresDefs, _, rfl, h₂, g₂⟩ | ⟨e, rfl, h₂⟩ := runs_bind_iff.mp g₁
    · obtain ⟨rfl, rfl, -⟩ := runs_define Column.refuses_postgresType h₂
      obtain ⟨rfl, rfl, rfl⟩ := runs_pure_iff.mp g₂
      exact ⟨rfl, rfl, .inl ⟨hm.mappable, rfl⟩⟩
    · -- both destinations refuse the same types
      obtain ⟨-, -, hm'⟩ := runs_define Column.refuses_postgresType h₂
      obtain ⟨column, raw, hf, -⟩ := hm'.unmappable
      exact absurd hm.mappable hf.not_mappable
  · obtain ⟨rfl, rfl, rfl⟩ := runs_pure_iff.mp g₁
    exact ⟨rfl, rfl, .inl ⟨hm.mappable, rfl⟩⟩

/-- Sinks whose inputs are registered are all mapped, or the first column that cannot be is
reported. -/
theorem runs_layouts {sinks : List Sink} {r : Except PipelineError (List SinkLayout)}
    (hi : s.registry.InStep) (hk : ∀ a ∈ sinks, a.input ∈ s.registry.names)
    (h : Runs (sinks.mapM layout) s t r s') :
    t = [] ∧ s' = s ∧ ((s.registry.AllMappable sinks ∧ r.isOk = true) ∨
      ∃ view column raw, s.registry.FirstUnmappable sinks view column raw ∧
        r = .error (.unsupportedType view column raw)) := by
  induction sinks generalizing t r s' with
  | nil =>
    obtain ⟨rfl, rfl, rfl⟩ := runs_pure_iff.mp h
    exact ⟨rfl, rfl, .inl ⟨by simp [AllMappable], rfl⟩⟩
  | cons a sinks ih =>
    obtain ⟨ha, hk⟩ := List.forall_mem_cons.mp hk
    obtain ⟨columns, hg⟩ := hi.exists_get? ha
    rw [List.mapM_cons] at h
    obtain ⟨_, _, l, _, rfl, h₁, g₁⟩ | ⟨e, rfl, h₁⟩ := runs_bind_iff.mp h
    swap
    · obtain ⟨rfl, rfl, hm⟩ := runs_layout hg h₁
      obtain ⟨column, raw, hf, rfl⟩ := hm.unmappable
      exact ⟨rfl, rfl, .inr ⟨a.input, column, raw,
        ⟨[], a, sinks, columns, rfl, by simp [AllMappable], rfl, hg, hf⟩, rfl⟩⟩
    obtain ⟨rfl, rfl, hm⟩ := runs_layout hg h₁
    obtain ⟨_, _, ls, _, rfl, h₂, g₂⟩ | ⟨e, rfl, h₂⟩ := runs_bind_iff.mp g₁
    · obtain ⟨rfl, rfl, ⟨hall, -⟩ | ⟨_, _, _, -, he⟩⟩ := ih hk h₂
      · obtain ⟨rfl, rfl, rfl⟩ := runs_pure_iff.mp g₂
        exact ⟨rfl, rfl, .inl ⟨hall.cons hg hm.mappable, rfl⟩⟩
      · cases he
    · obtain ⟨rfl, rfl, ⟨-, he⟩ | ⟨view, column, raw, hf, he⟩⟩ := ih hk h₂
      · cases he
      · cases he
        exact ⟨rfl, rfl, .inr ⟨view, column, raw, hf.cons hg hm.mappable, rfl⟩⟩

theorem length_of_layouts {sinks : List Sink} {layouts : List SinkLayout}
    (h : Runs (sinks.mapM layout) s t (.ok layouts) s') : layouts.length = sinks.length :=
  ((runs_mapM_ok_iff.mp h).forall₂ (R := fun _ _ => True)
    fun _ _ _ _ _ _ => trivial).length_eq.symm

end Build

end StreamPipeline
