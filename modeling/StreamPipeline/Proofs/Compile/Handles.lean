import StreamPipeline.Proofs.Compile.Acceptance

/-! # Handles to the runtime

Whatever the collaborators answer and however a run ends, it has given back the handles that it has
taken. The waits for its inserts have given back theirs when it ends well; those that were aborted
may still have them when it fails.
-/

namespace StreamPipeline.Build

variable {α β : Type} {b : Build α} {f : α → Build β} {s s' : BuildState}
  {t : List Call.Exchange} {r : Except PipelineError α}

/-- The handles after a step that has ended with `r`: it has given back its own, and if it has ended
well, so has every wait. -/
structure GivenBack (r : Except PipelineError α) (h h' : Handles) : Prop where
  held : h'.held = h.held
  waits : ∀ a, r = .ok a → h'.waits = h.waits

/-- Every run of the step gives back what it has taken. -/
def Restores (b : Build α) : Prop :=
  ∀ s t r s', Runs b s t r s' → GivenBack r s.handles s'.handles

/-! ### Rules -/

theorem Grows.restores (hb : Grows b) : Restores b := by
  intro s t r s' h
  rw [(hb _ _ _ _ h).handles]
  exact ⟨rfl, fun _ _ => rfl⟩

theorem Restores.bind (hb : Restores b) (hf : ∀ a, Restores (f a)) : Restores (b >>= f) := by
  intro s t r s' h
  obtain ⟨_, _, a, s₁, _, h₁, h₂⟩ | ⟨e, rfl, h₁⟩ := runs_bind_iff.mp h
  · have hfirst := hb _ _ _ _ h₁
    have hrest := hf a _ _ _ _ h₂
    constructor
    · exact hrest.held.trans hfirst.held
    · exact fun c hc => (hrest.waits c hc).trans (hfirst.waits a rfl)
  · exact ⟨(hb _ _ _ _ h₁).held, nofun⟩

theorem restores_get {g : BuildState → Build α} (h : ∀ s, Restores (g s)) :
    Restores (get >>= g) :=
  fun s _ _ _ hr => h s _ _ _ _ (runs_get_bind_iff.mp hr)

/-- The handle that a step has taken for itself is given back at its end. -/
theorem Restores.holding (hb : Restores b) : Restores (holding b) := by
  intro s t r s' h
  obtain ⟨s₁, h₁, rfl⟩ := runs_holding_iff.mp h
  have hgiven := hb _ _ _ _ h₁
  have hheld : s₁.handles.held = s.handles.held + 1 := hgiven.held
  exact ⟨Nat.sub_eq_of_eq_add hheld, hgiven.waits⟩

/-! ### Waits -/

/-- Each wait that has ended has given back its handle, and nobody else has given back any. -/
theorem handles_of_acceptAll {pending : List PendingJob} {accepted : List (Nat × JobId)}
    {r : Except PipelineError (List JobId)}
    (h : Runs (acceptAll pending.length pending accepted) s t r s') :
    s'.handles.held = s.handles.held ∧
      ∀ jobs, r = .ok jobs → s'.handles.waits = s.handles.waits - pending.length := by
  generalize hn : pending.length = n at h
  induction n generalizing pending accepted s t with
  | zero =>
    obtain rfl := List.length_eq_zero_iff.mp hn
    obtain ⟨-, -, rfl⟩ := runs_pure_iff.mp h
    exact ⟨rfl, fun _ _ => rfl⟩
  | succ n ih =>
    cases pending with
    | nil => cases hn
    | cons first rest =>
      obtain ⟨place, _, u, -, ⟨e, -, -, rfl, rfl⟩ | ⟨job, -, hu⟩⟩ := runs_acceptAll_succ_iff.mp h
      · exact ⟨rfl, nofun⟩
      · have hl := length_eraseIdx_place first rest place
        obtain ⟨hheld, hwaits⟩ := ih (hl.trans (Nat.succ.inj hn)) hu
        refine ⟨hheld, fun jobs hj => ?_⟩
        rw [hwaits jobs hj]
        change s.handles.waits - 1 - n = s.handles.waits - (n + 1)
        omega

/-- As many waits end as were started, unless one of them fails. -/
theorem restores_waits {pending : List PendingJob} {g : List JobId → Build α}
    (hg : ∀ jobs, Restores (g jobs)) : Restores (do
      count (.spawn pending.length)
      let jobs ← acceptAll pending.length pending []
      g jobs) := by
  intro s t r s' h
  obtain ⟨_, _, jobs, s₁, _, h₁, h₂⟩ | ⟨e, rfl, h₁⟩ :=
    runs_bind_iff.mp (runs_count_bind_iff.mp h)
  · obtain ⟨hheld, hwaits⟩ := handles_of_acceptAll h₁
    have hrest := hg jobs _ _ _ _ h₂
    constructor
    · exact hrest.held.trans hheld
    · intro a ha
      rw [hrest.waits a ha, hwaits jobs rfl]
      exact Nat.add_sub_cancel _ _
  · exact ⟨(handles_of_acceptAll h₁).1, nofun⟩

/-! ### Runs -/

theorem grows_submitAll (index : Nat) (inserts : List PendingInsert) :
    Grows (submitAll index inserts) := by
  induction inserts generalizing index with
  | nil => exact grows_pure _
  | cons i rest ih =>
    refine (grows_ask _).bind fun _ => (grows_orThrow _ _).bind fun _ => ?_
    exact (ih _).bind fun _ => grows_pure _

theorem grows_completion (pipeline : String) (jobs : List JobId) :
    Grows (completion pipeline jobs) := by
  intro s t r s' h
  obtain ⟨_, -, -, rfl⟩ := runs_completion_iff.mp h
  exact .refl _

theorem restores_submit (pipeline : String) (inserts : List PendingInsert) :
    Restores (submit pipeline inserts) := by
  rw [submit_eq]
  refine .holding ((grows_issue _ _ _ _).restores.bind fun _ => ?_)
  refine (grows_submitAll _ _).restores.bind fun pending => ?_
  exact restores_waits fun jobs => (grows_completion pipeline jobs).restores

/-- A run takes handles and gives them back, at whatever call it fails. -/
theorem restores_run (ctx : Context) (dryRun : Bool) (p : Pipeline) :
    Restores (run ctx dryRun p) := by
  cases hp : p.prepare with
  | error e =>
    rw [run_of_prepare_error hp]
    exact (grows_throw e).restores
  | ok prepared =>
    unfold run
    rw [hp]
    refine (grows_compile hp dryRun).restores.bind fun inserts => ?_
    split
    · refine (grows_record _ _ _ _).restores.bind fun _ => ?_
      exact restores_get fun _ => (grows_pure _).restores
    · refine (restores_submit p.name inserts).bind fun done => ?_
      exact restores_get fun _ => (grows_pure _).restores

end StreamPipeline.Build
