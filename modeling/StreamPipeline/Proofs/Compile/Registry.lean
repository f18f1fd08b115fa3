import StreamPipeline.Proofs.Compile.Runs

/-! # The registry of views

Views are registered one after the other, and one that is refused does not keep the next one from
being tried. Whatever is tried, the registry lists the views that were accepted, in their order and
each once, with the columns that they were accepted with, and nothing is ever taken back.
-/

namespace StreamPipeline

namespace Build

section Attempt

variable {α : Type} {b : Build α} {s s' : BuildState} {t : List Call.Exchange}

/-- A step whose error is its result: what follows goes on from the state that it has left. -/
def attempt (b : Build α) : Build (Except PipelineError α) := ExceptT.lift (ExceptT.run b)

theorem runs_attempt_iff {r : Except PipelineError (Except PipelineError α)} :
    Runs (attempt b) s t r s' ↔ ∃ q, r = .ok q ∧ Runs b s t q s' := by
  refine Dialogue.run_bind_iff.trans ?_
  constructor
  · rintro ⟨t₁, t₂, ⟨q, s₁⟩, rfl, hb, hp⟩
    obtain ⟨rfl, he⟩ := Dialogue.run_done_iff.mp hp
    cases he
    rw [List.append_nil]
    exact ⟨q, rfl, hb⟩
  · rintro ⟨q, rfl, hb⟩
    exact ⟨t, [], (q, s'), by simp, hb, .done _⟩

end Attempt

/-! ### Calls -/

/-- Tries to register one view after the other. -/
def registerAll (calls : List (String × List Column)) : Build (List (Except PipelineError Unit)) :=
  calls.mapM fun c => attempt (register c.1 c.2)

/-- The calls that were accepted, in their order. -/
def acceptedViews (calls : List (String × List Column))
    (results : List (Except PipelineError Unit)) : List (String × List Column) :=
  ((calls.zip results).filter fun p => p.2.isOk).map Prod.fst

/-- What has become of some calls on an empty registry: they have asked nobody anything, and have
these results and this state. -/
abbrev Registers (plan : List Statement) (handles : Handles) (calls : List (String × List Column))
    (results : List (Except PipelineError Unit)) (s : BuildState) : Prop :=
  Runs (registerAll calls) ⟨.empty, plan, handles⟩ [] (.ok results) s

variable {plan : List Statement} {handles : Handles} {calls : List (String × List Column)}
  {name : String}
  {columns : List Column} {results : List (Except PipelineError Unit)} {s s' : BuildState}

/-- Calls that ask nobody anything can only end in one way. -/
theorem Registers.runs_iff (h : Registers plan handles calls results s) {t : List Call.Exchange}
    {r : Except PipelineError (List (Except PipelineError Unit))} :
    Runs (registerAll calls) ⟨.empty, plan, handles⟩ t r s' ↔
      t = [] ∧ r = .ok results ∧ s' = s := by
  constructor
  · intro hr
    obtain ⟨rfl, rfl, rfl⟩ := h.unique hr (List.append_nil t).symm
    exact ⟨rfl, rfl, rfl⟩
  · rintro ⟨rfl, rfl, rfl⟩
    exact h

/-- One more call goes on from the state that the others have left. -/
theorem Registers.snoc {q : Except PipelineError Unit} (h : Registers plan handles calls results s)
    (hq : Runs (register name columns) s [] q s') :
    Registers plan handles (calls ++ [(name, columns)]) (results ++ [q]) s' := by
  have hone : Runs (registerAll [(name, columns)]) s [] (.ok [q]) s' := by
    have hq' : Runs (attempt (register name columns)) s [] (.ok q) s' :=
      runs_attempt_iff.mpr ⟨q, rfl, hq⟩
    have hchain : Chain (fun c => attempt (register c.1 c.2)) [(name, columns)] s ([] ++ []) [q]
        s' := .cons hq' (.nil s')
    exact runs_mapM_ok_iff.mpr hchain
  unfold Registers registerAll
  rw [List.mapM_append, runs_bind_ok_iff]
  refine ⟨[], [], results, s, rfl, h, runs_bind_ok_iff.mpr ?_⟩
  exact ⟨[], [], [q], s', rfl, hone, runs_pure_iff.mpr ⟨rfl, rfl, rfl⟩⟩

/-! ### What is kept -/

/-- The registry holds the accepted calls, its two parts are in step, and nothing else has
changed. -/
structure Holds (plan : List Statement) (handles : Handles) (calls : List (String × List Column))
    (results : List (Except PipelineError Unit)) (s : BuildState) : Prop where
  length : results.length = calls.length
  plan : s.plan = plan
  handles : s.handles = handles
  names : s.registry.names = (acceptedViews calls results).map Prod.fst
  get?_iff : ∀ name columns,
    s.registry.get? name = some columns ↔ (name, columns) ∈ acceptedViews calls results
  inStep : s.registry.InStep

theorem acceptedViews_snoc (h : results.length = calls.length) (q : Except PipelineError Unit) :
    acceptedViews (calls ++ [(name, columns)]) (results ++ [q]) =
      acceptedViews calls results ++ if q.isOk then [(name, columns)] else [] := by
  unfold acceptedViews
  rw [List.zip_append h.symm, List.filter_append, List.map_append]
  cases q <;> rfl

/-- A call fails if its name is known, and then leaves everything as it is; otherwise its view is
added to both parts of the registry. -/
theorem Holds.call (h : Holds plan handles calls results s) (name : String)
    (columns : List Column) : ∃ q s', Runs (register name columns) s [] q s' ∧
      Holds plan handles (calls ++ [(name, columns)]) (results ++ [q]) s' ∧ Extends s s' ∧
        ((name ∈ s.registry.names ∧ q = .error (.config (.alreadyRegistered name)) ∧ s' = s) ∨
          (name ∉ s.registry.names ∧ q = .ok ())) := by
  by_cases hn : name ∈ s.registry.names
  · have hsnoc : acceptedViews (calls ++ [(name, columns)])
        (results ++ [.error (.config (.alreadyRegistered name))]) = acceptedViews calls results := by
      rw [acceptedViews_snoc h.length]
      simp [Except.isOk, Except.toBool]
    refine ⟨_, s, runs_register_iff.mpr ⟨rfl, .inr ⟨(h.inStep.listed name).mp hn, rfl, rfl⟩⟩, ?_,
      .refl s, .inl ⟨hn, rfl, rfl⟩⟩
    constructor
    · simp [h.length]
    · exact h.plan
    · exact h.handles
    · rw [hsnoc, h.names]
    · rw [hsnoc]
      exact h.get?_iff
    · exact h.inStep
  · have hg := h.inStep.get?_eq_none_iff.mpr hn
    have hr : Runs (register name columns) s [] (.ok ())
        { s with registry := s.registry.add name columns } :=
      runs_register_iff.mpr ⟨rfl, .inl ⟨hg, rfl, rfl⟩⟩
    have hsnoc : acceptedViews (calls ++ [(name, columns)]) (results ++ [.ok ()]) =
        acceptedViews calls results ++ [(name, columns)] := acceptedViews_snoc h.length _
    refine ⟨_, _, hr, ?_, grows_register name columns _ _ _ _ hr, .inr ⟨hn, rfl⟩⟩
    constructor
    · simp [h.length]
    · exact h.plan
    · exact h.handles
    · rw [hsnoc, ViewRegistry.names_add, h.names, List.map_append]
      rfl
    · intro other known
      rw [hsnoc, ViewRegistry.get?_add_eq_some_iff, h.get?_iff, List.mem_append,
        List.mem_singleton, Prod.mk.injEq, or_comm]
      refine or_congr_left (and_iff_right_of_imp fun hm hother => hn ?_)
      rw [← hother, h.names]
      exact List.mem_map_of_mem hm
    · exact h.inStep.add hg columns

/-- Whatever is tried after some calls, nothing of what they left is lost. -/
theorem Holds.later (h : Holds plan handles calls results s)
    (hr : Registers plan handles calls results s) (more : List (String × List Column)) :
    ∃ later s', Registers plan handles (calls ++ more) (results ++ later) s' ∧
      Holds plan handles (calls ++ more) (results ++ later) s' ∧ Extends s s' := by
  induction more generalizing calls results s with
  | nil => exact ⟨[], s, by simpa using hr, by simpa using h, .refl s⟩
  | cons c more ih =>
    obtain ⟨q, s₁, hc, h₁, he, -⟩ := h.call c.1 c.2
    obtain ⟨later, s', hr', h', he'⟩ := ih h₁ (hr.snoc hc)
    rw [List.append_assoc, List.append_assoc] at hr' h'
    exact ⟨q :: later, s', hr', h', he.trans he'⟩

theorem exists_holds (plan : List Statement) (handles : Handles)
    (calls : List (String × List Column)) :
    ∃ results s, Registers plan handles calls results s ∧ Holds plan handles calls results s := by
  have hnil : Registers plan handles [] [] ⟨.empty, plan, handles⟩ :=
    runs_pure_iff.mpr ⟨rfl, rfl, rfl⟩
  have hstart : Holds plan handles [] [] ⟨.empty, plan, handles⟩ :=
    ⟨rfl, rfl, rfl, rfl, fun _ _ => ⟨nofun, nofun⟩, .empty⟩
  obtain ⟨results, s, hr, h, -⟩ := hstart.later hnil calls
  exact ⟨results, s, by simpa using hr, by simpa using h⟩

/-- Any calls on an empty registry end, and in one way. The registry then lists the names of the
accepted calls, in their order and each once, and its two parts are in step; it gives the columns of
the accepted call for such a name and nothing for others. One more call fails exactly if its name is
listed, and then the state is as it was. Whatever is called later, the list goes on, and what a name
had it keeps. -/
theorem register_append_only (plan : List Statement) (handles : Handles)
    (calls : List (String × List Column)) :
    ∃ results s,
      (∀ t r s', Runs (registerAll calls) ⟨.empty, plan, handles⟩ t r s' ↔
        t = [] ∧ r = .ok results ∧ s' = s) ∧
      results.length = calls.length ∧ s.plan = plan ∧ s.handles = handles ∧
      s.registry.names = (acceptedViews calls results).map Prod.fst ∧ s.registry.names.Nodup ∧
      s.registry.InStep ∧
      (∀ name columns,
        s.registry.get? name = some columns ↔ (name, columns) ∈ acceptedViews calls results) ∧
      (∀ name columns, ∃ q s',
        (∀ t r u, Runs (registerAll (calls ++ [(name, columns)])) ⟨.empty, plan, handles⟩ t r u ↔
          t = [] ∧ r = .ok (results ++ [q]) ∧ u = s') ∧
        ((name ∈ s.registry.names ∧ q = .error (.config (.alreadyRegistered name)) ∧ s' = s) ∨
          (name ∉ s.registry.names ∧ q = .ok ()))) ∧
      ∀ more, ∃ later s',
        (∀ t r u, Runs (registerAll (calls ++ more)) ⟨.empty, plan, handles⟩ t r u ↔
          t = [] ∧ r = .ok (results ++ later) ∧ u = s') ∧
        s.registry.names <+: s'.registry.names ∧
        ∀ name columns, s.registry.get? name = some columns →
          s'.registry.get? name = some columns := by
  obtain ⟨results, s, hr, h⟩ := exists_holds plan handles calls
  refine ⟨results, s, fun _ _ _ => hr.runs_iff, h.length, h.plan, h.handles, h.names,
    h.inStep.nodup, h.inStep, h.get?_iff, ?_, ?_⟩
  · intro name columns
    obtain ⟨q, s', hc, -, -, hq⟩ := h.call name columns
    exact ⟨q, s', fun _ _ _ => (hr.snoc hc).runs_iff, hq⟩
  · intro more
    obtain ⟨later, s', hr', -, he⟩ := h.later hr more
    exact ⟨later, s', fun _ _ _ => hr'.runs_iff, he.names, fun _ _ => he.get?⟩

end Build

end StreamPipeline
