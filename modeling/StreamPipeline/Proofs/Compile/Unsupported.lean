import StreamPipeline.Proofs.Compile.Columns
import StreamPipeline.Proofs.Compile.Objects
import StreamPipeline.Proofs.Compile.Phases

/-! # Types that end a run

A type that no sink can store ends a run after its views and before its sinks: nothing outside the
runtime has been touched, nothing has been submitted, and the error names the first such column.
-/

namespace StreamPipeline

open Sql

/-! ### Calls before the sinks -/

/-- How a statement begins. -/
def opening (sql : String) : List Char := sql.toList.take 9

theorem opening_append {a : String} (h : 9 ≤ a.toList.length) (b : String) :
    opening (a ++ b) = opening a := by
  unfold opening
  rw [String.toList_append, List.take_append_of_le_length h]

/-- The call asks for no table of a sink, for nothing that concerns its jobs, and for nothing at the
destination of a sink. -/
def Call.BeforeSinks : Call → Prop
  | .execute sql => (∀ settings name kind defs, sql ≠ sinkTableStatement settings name kind defs) ∧
      ∀ name, sql ≠ nameStatement name
  | .describe _ => True
  | _ => False

theorem beforeSinks_of_opening {sql : String} (ht : opening sql ≠ "CREATE TA".toList)
    (hn : opening sql ≠ "SET 'pipe".toList) : (Call.execute sql).BeforeSinks := by
  refine ⟨?_, ?_⟩
  · rintro settings name kind defs rfl
    refine ht ?_
    unfold sinkTableStatement
    simp only [String.append_assoc]
    exact opening_append (by decide) _
  · rintro name rfl
    refine hn ?_
    have hset : nameStatement name =
        ("SET " ++ literal "pipeline.name") ++ (" = " ++ literal name) := by
      simp only [nameStatement, setStatement, String.append_assoc]
    rw [hset, opening_append (by decide)]
    decide

theorem beforeSinks_view (rest : String) :
    (Call.execute ("CREATE TEMPORARY VIEW " ++ rest)).BeforeSinks := by
  refine beforeSinks_of_opening ?_ ?_ <;> rw [opening_append (by decide)] <;> decide

theorem beforeSinks_setting {p : Pipeline} {e : String × String} (he : e ∈ p.sessionSettings) :
    (Call.execute (setStatement e.1 e.2)).BeforeSinks := by
  have hkey : 9 ≤ ("SET " ++ literal e.1).toList.length ∧
      opening ("SET " ++ literal e.1) ≠ "CREATE TA".toList ∧
      opening ("SET " ++ literal e.1) ≠ "SET 'pipe".toList := by
    simp only [Pipeline.sessionSettings, List.mem_cons, List.not_mem_nil, or_false] at he
    rcases he with rfl | rfl | rfl | rfl | rfl | rfl | rfl | rfl | rfl | rfl | rfl | rfl | rfl | rfl
    all_goals dsimp only; decide +kernel
  have hset : setStatement e.1 e.2 = ("SET " ++ literal e.1) ++ (" = " ++ literal e.2) := by
    simp only [setStatement, String.append_assoc]
  rw [hset]
  refine beforeSinks_of_opening ?_ ?_ <;> rw [opening_append hkey.1]
  · exact hkey.2.1
  · exact hkey.2.2

theorem beforeSinks_catalog (settings : Settings) :
    (Call.execute settings.catalogStatement).BeforeSinks := by
  unfold Settings.catalogStatement
  simp only [String.append_assoc]
  refine beforeSinks_of_opening ?_ ?_ <;> rw [opening_append (by decide)] <;> decide

theorem beforeSinks_function (f : FunctionDef) : (Call.execute f.statement).BeforeSinks := by
  unfold FunctionDef.statement
  simp only [String.append_assoc]
  refine beforeSinks_of_opening ?_ ?_ <;> rw [opening_append (by decide)] <;> decide

namespace Build

open ViewRegistry

variable {ctx : Context} {p : Pipeline} {prepared : Prepared} {s s' s₁ : BuildState}
  {t t₁ t₂ : List Call.Exchange}

theorem guided_views : Guided (views ctx prepared)
    (prepared.pipeline.sessionSteps ctx.settings
      ++ (prepared.pipeline.sources.flatMap (Source.steps ctx)
        ++ (prepared.pipeline.transforms.zip prepared.queries).flatMap fun e =>
          transformSteps e.1.name e.2)) :=
  guided_session.bind fun _ => (guided_forM guided_source).bind fun _ =>
    guided_forM fun e => guided_transform e.1.name e.2

/-- Session and views touch no sink. -/
theorem beforeSinks_of_views {r : Except PipelineError Unit}
    (h : Runs (views ctx prepared) s t r s') : ∀ e ∈ t, e.question.BeforeSinks := by
  intro e he
  obtain ⟨step, hs, hm⟩ := (guided_views _ _ _ _ h).exists_step he
  simp only [Pipeline.sessionSteps, Source.steps, transformSteps, List.mem_append, List.mem_map,
    List.mem_cons, List.mem_flatMap, List.not_mem_nil, or_false] at hs
  rcases hs with (⟨setting, hsetting, rfl⟩ | rfl | ⟨f, -, rfl⟩) | ⟨a, -, rfl | rfl⟩ |
    ⟨a, -, rfl | rfl | rfl⟩
  · cases hm; exact beforeSinks_setting hsetting
  · cases hm; exact beforeSinks_catalog _
  · cases hm; exact beforeSinks_function f
  · cases hm
    unfold Source.viewStatement
    simp only [String.append_assoc]
    exact beforeSinks_view _
  · cases hm; trivial
  · cases hm
    unfold intermediateStatement
    simp only [String.append_assoc]
    exact beforeSinks_view _
  · cases hm; trivial
  · cases hm
    unfold projectionStatement
    simp only [String.append_assoc]
    exact beforeSinks_view _

/-- The views of a compilation have the columns that the runtime described. -/
theorem described_of_views (hp : p.prepare = .ok prepared)
    (h : Runs (views ctx prepared) .start t (.ok ()) s') {name : String} {columns : List Column}
    (hg : s'.registry.get? name = some columns) : Described p t name columns := by
  unfold views at h
  rw [(Pipeline.of_prepare hp).1] at h
  obtain ⟨_, _, _, _, rfl, hsession, h⟩ := runs_bind_ok_iff.mp h
  obtain ⟨_, _, _, _, rfl, hsources, htransforms⟩ := runs_bind_ok_iff.mp h
  have hstart : Known p [] .start := fun _ _ hg => by cases hg
  have hknown := (known_transforms hp htransforms
    (known_sources hsources (known_session hsession hstart))).1
  simpa using hknown name columns hg

/-- A sink reads a view with a column that cannot be mapped: one that is not of processing time, and
whose type has an unsupported type inside it, at any depth. -/
def Unstorable (r : ViewRegistry) (sinks : List Sink) : Prop :=
  ∃ a ∈ sinks, ∃ columns, r.get? a.input = some columns ∧ ∃ c ∈ columns,
    c.isProcessingTime = false ∧ ∃ raw, LogicalType.Inside (.unsupported raw) c.dataType

theorem Unstorable.not_allMappable {r : ViewRegistry} {sinks : List Sink}
    (h : Unstorable r sinks) : ¬ r.AllMappable sinks := by
  obtain ⟨a, ha, columns, hg, c, hc, hunmappable⟩ := h
  obtain ⟨raw, hraw⟩ := Column.exists_unmappable_iff.mpr hunmappable
  exact fun hall => hall a ha columns hg c hc raw hraw

theorem unstorable_of_firstUnmappable {r : ViewRegistry} {sinks : List Sink}
    {view column raw : String} (h : r.FirstUnmappable sinks view column raw) :
    Unstorable r sinks := by
  obtain ⟨before, a, after, columns, rfl, -, rfl, hg, first, c, rest, rfl, -, -, hc⟩ := h
  exact ⟨a, by simp, _, hg, c, by simp, Column.exists_unmappable_iff.mp ⟨raw, hc⟩⟩

/-- Once the views are compiled, the inputs of the sinks are registered. -/
theorem inputs_of_views (hp : p.prepare = .ok prepared)
    (h : Runs (views ctx prepared) .start t (.ok ()) s') :
    s'.registry.InStep ∧ ∀ a ∈ p.sinks, a.input ∈ s'.registry.names := by
  have hviews := introduces_views hp _ _ _ _ .empty (List.nil_subset _) h
  refine ⟨hviews.inStep, fun a ha => ?_⟩
  rw [hviews.registered () rfl]
  exact List.mem_append_right _ (Pipeline.inputs_of_prepare hp a ha)

theorem not_unsupportedType {α : Type} {b : Build α} {k o v : List String}
    (hb : Introduces PipelineError.OfStep k b o v) (hi : s.registry.InStep)
    (hk : k ⊆ s.registry.names)
    {view column raw : String}
    (h : Runs b s t (.error (.unsupportedType view column raw)) s') : False := by
  obtain he | ⟨⟨_, he | he⟩, -⟩ := (hb _ _ _ _ hi hk h).failure _ rfl <;> cases he

/-- Whatever the runtime answers: if all views compile and a sink would write a column with an
unsupported type, the run ends there. It has called nobody since the views, it has touched no sink,
and its error names the first such column. In no other case does a run report an unsupported
type. -/
theorem run_unsupportedType (hp : p.prepare = .ok prepared) {dryRun : Bool}
    {r : Except PipelineError Outcome} (h : Runs (run ctx dryRun p) .start t r s') :
    (∀ t₁ t₂ s₁, t = t₁ ++ t₂ → Runs (views ctx prepared) .start t₁ (.ok ()) s₁ →
      (∀ name columns, s₁.registry.get? name = some columns → Described p t₁ name columns) ∧
      (Unstorable s₁.registry p.sinks → t₂ = [] ∧ s' = s₁ ∧ (∀ e ∈ t, e.question.BeforeSinks) ∧
        ∃ view column raw, s₁.registry.FirstUnmappable p.sinks view column raw ∧
          r = .error (.unsupportedType view column raw))) ∧
    ∀ view column raw, r = .error (.unsupportedType view column raw) →
      ∃ s₁, Runs (views ctx prepared) .start t (.ok ()) s₁ ∧
        s₁.registry.FirstUnmappable p.sinks view column raw := by
  rw [run_eq hp] at h
  constructor
  · rintro t₁ t₂ s₁ rfl hviews
    refine ⟨fun name columns hg => described_of_views hp hviews hg, fun hu => ?_⟩
    obtain ⟨hi, hinputs⟩ := inputs_of_views hp hviews
    obtain ⟨_, _, _, _, rfl, hl, -⟩ | ⟨e, rfl, hl⟩ := runs_bind_iff.mp (h.rest hviews)
    · obtain ⟨rfl, rfl, ⟨hall, -⟩ | ⟨_, _, _, -, he⟩⟩ := runs_layouts hi hinputs hl
      · exact absurd hall hu.not_allMappable
      · cases he
    · obtain ⟨rfl, rfl, ⟨-, hok⟩ | ⟨view, column, raw, hf, he⟩⟩ := runs_layouts hi hinputs hl
      · cases hok
      · cases he
        refine ⟨rfl, rfl, ?_, view, column, raw, hf, rfl⟩
        rw [List.append_nil]
        exact beforeSinks_of_views hviews
  · rintro view column raw rfl
    obtain ⟨t₁, t₂, _, s₁, rfl, hviews, h⟩ | ⟨e, he, hviews⟩ := runs_bind_iff.mp h
    · obtain ⟨hi, hinputs⟩ := inputs_of_views hp hviews
      obtain ⟨_, _, layouts, _, rfl, hl, hf⟩ | ⟨e, he, hl⟩ := runs_bind_iff.mp h
      · have hlength := length_of_layouts hl
        obtain ⟨-, rfl, -⟩ := runs_layouts hi hinputs hl
        exact (not_unsupportedType (introduces_finish hlength) hi (List.nil_subset _) hf).elim
      · cases he
        obtain ⟨rfl, rfl, ⟨-, hok⟩ | ⟨view', column', raw', hf, he⟩⟩ := runs_layouts hi hinputs hl
        · cases hok
        · cases he
          rw [List.append_nil]
          exact ⟨_, hviews, hf⟩
    · cases he
      exact (not_unsupportedType (introduces_views hp) .empty (List.nil_subset _) hviews).elim

/-- Two sinks, of which the second reads a view with types that cannot be stored. -/
def shapesToPostgres : Pipeline :=
  { ordersToPostgres with
    sources := ordersToPostgres.sources ++ [⟨"shapes", "shop.shapes", none, 1, .dataset⟩]
    sinks := [⟨"log", "orders", .print⟩, ⟨"outlines", "shapes",
      .postgres ⟨"db", 5432, ⟨"writer", "secret"⟩, "shop", "public", "shapes", ["id"]⟩⟩] }

/-- A column of processing time does not count, nor does what stands further right. -/
def describingShapes : (c : Call) → Unit → c.Answer × Unit
  | .describe "shapes", u =>
    (.ok [⟨"proc_time", .unsupported "MULTISET<INT>", true, none⟩, ⟨"id", .bigInt, false, none⟩,
      ⟨"outline", .row [("area", .double), ("points", .array (.unsupported "GEOMETRY")),
        ("raw", .unsupported "RAW")], true, none⟩, ⟨"raw", .unsupported "RAW", true, none⟩], u)
  | c, u => obliging c u

theorem run_unsupportedType_shapesToPostgres : ∃ prepared t s',
    shapesToPostgres.prepare = .ok prepared ∧
    Runs (run ⟨{}, 0⟩ false shapesToPostgres) .start t
      (.error (.unsupportedType "shapes" "outline" "GEOMETRY")) s' ∧
    Runs (views ⟨{}, 0⟩ prepared) .start t (.ok ()) s' ∧
    Unstorable s'.registry shapesToPostgres.sinks ∧ ∀ e ∈ t, e.question.BeforeSinks := by
  obtain ⟨t, r, s', hr, rfl⟩ : ∃ t r s', Runs (run ⟨{}, 0⟩ false shapesToPostgres) .start t r s' ∧
      r = .error (.unsupportedType "shapes" "outline" "GEOMETRY") :=
    ⟨_, _, _, runs_transcript describingShapes _ _ (), rfl⟩
  obtain ⟨prepared, hp⟩ : ∃ prepared, shapesToPostgres.prepare = .ok prepared := ⟨_, rfl⟩
  obtain ⟨hends, hcause⟩ := run_unsupportedType hp hr
  obtain ⟨s₁, hviews, hf⟩ := hcause _ _ _ rfl
  have hu := unstorable_of_firstUnmappable hf
  obtain ⟨-, rfl, hcalls, -⟩ := (hends _ [] s₁ (List.append_nil _).symm hviews).2 hu
  exact ⟨prepared, _, _, hp, hr, hviews, hu, hcalls⟩

end Build

end StreamPipeline
