import StreamPipeline.Proofs.Compile.Outcomes

/-! # Invariants of a run

A step keeps an invariant of the state and makes calls of one kind, as long as the exchanges are
among given ones. So what a call may be is told from the whole run, also where it depends on earlier
answers. One rule for each way to put steps together.
-/

namespace StreamPipeline.Build

variable {α β : Type} {T : List Call.Exchange} {C : Call → Prop} {P P' I I' : BuildState → Prop}
  {b : Build α} {f : α → Build β}

/-- With exchanges among `T`, the step makes calls of `C` only, and comes from `P` to `I`, however
it ends. -/
def Keeps (T : List Call.Exchange) (C : Call → Prop) (P I : BuildState → Prop) (b : Build α) :
    Prop :=
  ∀ s t r s', t ⊆ T → P s → Runs b s t r s' → (∀ e ∈ t, C e.question) ∧ I s'

theorem Keeps.imp (h : Keeps T C P I b) (hP : ∀ s, P' s → P s) (hI : ∀ s, I s → I' s) :
    Keeps T C P' I' b := by
  intro s t r s' ht hs hr
  obtain ⟨hc, hi⟩ := h _ _ _ _ ht (hP s hs) hr
  exact ⟨hc, hI s' hi⟩

/-- What follows a part starts from what the part establishes when it ends well. -/
theorem Keeps.bind_of {Q : α → BuildState → Prop} (hb : Keeps T C P I b)
    (hQ : ∀ s t a s', t ⊆ T → P s → Runs b s t (.ok a) s' → Q a s')
    (hf : ∀ a, Keeps T C (Q a) I (f a)) : Keeps T C P I (b >>= f) := by
  intro s t r s' ht hs h
  obtain ⟨t₁, t₂, a, s₁, rfl, h₁, h₂⟩ | ⟨e, rfl, h₁⟩ := runs_bind_iff.mp h
  · obtain ⟨ht₁, ht₂⟩ := List.append_subset.mp ht
    obtain ⟨hc₁, -⟩ := hb _ _ _ _ ht₁ hs h₁
    obtain ⟨hc₂, hi⟩ := hf a _ _ _ _ ht₂ (hQ _ _ _ _ ht₁ hs h₁) h₂
    refine ⟨fun e he => ?_, hi⟩
    rcases List.mem_append.mp he with he | he
    · exact hc₁ e he
    · exact hc₂ e he
  · exact hb _ _ _ _ ht hs h₁

/-- A fact that does not depend on the state is a hypothesis. -/
theorem keeps_of_fact {F : Prop} (h : F → Keeps T C P I b) :
    Keeps T C (fun s => P s ∧ F) I b := by
  intro s t r s' ht hs hr
  exact h hs.2 _ _ _ _ ht hs.1 hr

theorem Keeps.bind (hb : Keeps T C P I b) (hf : ∀ a, Keeps T C I I (f a)) :
    Keeps T C P I (b >>= f) :=
  hb.bind_of (fun _ _ _ _ ht hs h => (hb _ _ _ _ ht hs h).2) hf

/-- A step without calls that leaves the state alone. -/
theorem keeps_nothing (h : ∀ s t r s', Runs b s t r s' → t = [] ∧ s' = s) : Keeps T C I I b := by
  intro s t r s' _ hs hr
  obtain ⟨rfl, rfl⟩ := h _ _ _ _ hr
  exact ⟨by simp, hs⟩

theorem keeps_pure (a : α) : Keeps T C I I (pure a) := by
  refine keeps_nothing fun s t r s' h => ?_
  obtain ⟨rfl, -, rfl⟩ := runs_pure_iff.mp h
  exact ⟨rfl, rfl⟩

theorem keeps_throw (e : PipelineError) : Keeps T C I I (throw e : Build α) := by
  refine keeps_nothing fun s t r s' h => ?_
  obtain ⟨rfl, -, rfl⟩ := runs_throw_iff.mp h
  exact ⟨rfl, rfl⟩

theorem keeps_orThrow {ε : Type} (wrap : ε → PipelineError) (x : Except ε α) :
    Keeps T C I I (orThrow wrap x) := by
  refine keeps_nothing fun s t r s' h => ?_
  obtain ⟨rfl, -, rfl⟩ := runs_orThrow_iff.mp h
  exact ⟨rfl, rfl⟩

theorem keeps_schema (name : String) : Keeps T C I I (schema name) := by
  refine keeps_nothing fun s t r s' h => ?_
  obtain ⟨rfl, rfl, -⟩ := runs_schema_iff.mp h
  exact ⟨rfl, rfl⟩

theorem keeps_get {g : BuildState → Build α} (hg : ∀ s, Keeps T C P I (g s)) :
    Keeps T C P I (get >>= g) := by
  intro s t r s' ht hs h
  exact hg s _ _ _ _ ht hs (runs_get_bind_iff.mp h)

theorem keeps_ask_bind {c : Call} (hc : C c) {g : c.Answer → Build α}
    (hg : ∀ a, Keeps T C P I (g a)) : Keeps T C P I (ask c >>= g) := by
  intro s t r s' ht hs h
  obtain ⟨a, u, rfl, hu⟩ := runs_ask_bind_iff.mp h
  obtain ⟨hcs, hi⟩ := hg a _ _ _ _ (List.cons_subset.mp ht).2 hs hu
  refine ⟨fun e he => ?_, hi⟩
  rcases List.mem_cons.mp he with rfl | he
  · exact hc
  · exact hcs e he

theorem keeps_count {f : Handles → Handles} (hI : ∀ s, P s → I { s with handles := f s.handles }) :
    Keeps T C P I (count f) := by
  intro s t r s' _ hs h
  obtain ⟨rfl, -, rfl⟩ := runs_count_iff.mp h
  exact ⟨by simp, hI s hs⟩

theorem keeps_holding (hI : ∀ s h, I s → I { s with handles := h }) (hb : Keeps T C I I b) :
    Keeps T C I I (holding b) := by
  intro s t r s' ht hs h
  obtain ⟨s₁, h₁, rfl⟩ := runs_holding_iff.mp h
  obtain ⟨hc, hi⟩ := hb _ _ _ _ ht (hI s _ hs) h₁
  exact ⟨hc, hI s₁ _ hi⟩

/-! ### Basic steps -/

variable {stage : Stage} {kind : StatementKind} {target sql : String}

theorem keeps_record
    (hI : ∀ s, P s → I { s with plan := s.plan ++ [⟨stage, kind, target, sql⟩] }) :
    Keeps T C P I (record stage kind target sql) := by
  intro s t r s' _ hs h
  obtain ⟨rfl, -, rfl⟩ := runs_record_iff.mp h
  exact ⟨by simp, hI s hs⟩

theorem keeps_issue (hc : C (.execute sql))
    (hI : ∀ s, I s → I { s with plan := s.plan ++ [⟨stage, kind, target, Sql.redact sql⟩] }) :
    Keeps T C I I (issue stage kind target sql) :=
  keeps_ask_bind hc fun _ => (keeps_orThrow _ _).bind fun _ => keeps_record hI

theorem keeps_describe {view : String} (hc : C (.describe view)) :
    Keeps T C I I (describe stage target view) :=
  keeps_ask_bind hc fun _ => keeps_orThrow _ _

/-- A description is one of the exchanges. -/
theorem Keeps.describe_bind {view : String} {g : List Column → Build β} (hc : C (.describe view))
    (hg : ∀ columns, ⟨.describe view, .ok columns⟩ ∈ T → Keeps T C I I (g columns)) :
    Keeps T C I I (describe stage target view >>= g) := by
  refine (keeps_describe hc).bind_of
    (Q := fun columns s => I s ∧ ⟨.describe view, .ok columns⟩ ∈ T) ?_
    fun columns => keeps_of_fact (hg columns)
  intro s t columns s' ht hs h
  obtain ⟨rfl, rfl⟩ := of_describe h
  exact ⟨hs, ht List.mem_cons_self⟩

theorem keeps_register {name : String} {columns : List Column} (hI : ∀ s, I s →
      I { s with registry := s.registry.add name columns }) :
    Keeps T C I I (register name columns) := by
  intro s t r s' _ hs h
  obtain ⟨rfl, ⟨-, -, rfl⟩ | ⟨-, -, rfl⟩⟩ := runs_register_iff.mp h
  · exact ⟨by simp, hI s hs⟩
  · exact ⟨by simp, hs⟩

/-! ### Loops -/

theorem keeps_forM {l : List α} {g : α → Build Unit} (hg : ∀ a ∈ l, Keeps T C I I (g a)) :
    Keeps T C I I (l.forM g) := by
  induction l with
  | nil => exact keeps_pure _
  | cons a l ih =>
    refine (hg a List.mem_cons_self).bind fun _ => ?_
    exact ih fun a ha => hg a (List.mem_cons_of_mem _ ha)

theorem keeps_mapM {l : List α} {g : α → Build β} (hg : ∀ a ∈ l, Keeps T C I I (g a)) :
    Keeps T C I I (l.mapM g) := by
  induction l with
  | nil => exact keeps_pure _
  | cons a l ih =>
    rw [List.mapM_cons]
    refine (hg a List.mem_cons_self).bind fun _ => ?_
    exact (ih fun a ha => hg a (List.mem_cons_of_mem _ ha)).bind fun _ => keeps_pure _

end StreamPipeline.Build
