import StreamPipeline.Proofs.Compile.Phases

/-! # The calls of a step

Which calls a step may make. Each of them may fail, and then the run has ended: the state shows what
was done before. So a run has a state after any number of its exchanges.
-/

namespace StreamPipeline

/-- A call to the server of a sink. -/
def Call.isAdministrative : Call → Bool
  | .databaseExists _ _ | .createDatabase _ _ | .executeIn _ _ _ => true
  | _ => false

/-- The calls of a compilation. A dry run leaves the servers of the sinks alone. -/
def Call.Compiling (dryRun : Bool) (c : Call) : Prop :=
  (∃ sql, c = .execute sql) ∨ (∃ view, c = .describe view) ∨
    dryRun = false ∧ c.isAdministrative = true

theorem Call.exists_failed (c : Call) : ∃ a, c.Failed a := by
  cases c with
  | execute => exact ⟨.error (.rejected ""), _, rfl⟩
  | describe => exact ⟨.error (.rejected ""), _, rfl⟩
  | submit => exact ⟨.error (.rejected ""), _, rfl⟩
  | nextAccepted first rest =>
    exact ⟨(⟨⟨0, Nat.zero_lt_succ _⟩, .error (.rejected "")⟩ : Decision (first :: rest)), _, rfl⟩
  | wait => exact ⟨.error (.rejected ""), _, rfl⟩
  | databaseExists => exact ⟨.error "", _, rfl⟩
  | createDatabase => exact ⟨.error "", _, rfl⟩
  | executeIn => exact ⟨.error "", _, rfl⟩

namespace Build

variable {α β : Type} {b : Build α} {f : α → Build β} {C : Call → Prop} {s s' : BuildState}
  {t u : List Call.Exchange} {r : Except PipelineError α}

/-- Every call of the step is one of `C`. Where a run has come to a call, there is one state that
all runs end in for which this call fails. -/
def Calls (C : Call → Prop) (b : Build α) : Prop :=
  ∀ s t r s', Runs b s t r s' → ∀ v c a u, t = v ++ ⟨c, a⟩ :: u →
    C c ∧ ∃ s₁, ∀ a', c.Failed a' → ∃ e, Runs b s (v ++ [⟨c, a'⟩]) (.error e) s₁

/-- After the exchanges `t` the state is `s'`: the run has ended in it, or would end in it if the
call that comes next failed. -/
def Stands (b : Build α) (s : BuildState) (t : List Call.Exchange) (s' : BuildState) : Prop :=
  (∃ r, Runs b s t r s') ∨ ∃ c, ∀ a, c.Failed a → ∃ e, Runs b s (t ++ [⟨c, a⟩]) (.error e) s'

theorem Calls.forall_mem (h : Calls C b) (hr : Runs b s t r s') : ∀ e ∈ t, C e.question := by
  intro e he
  obtain ⟨v, u, rfl⟩ := List.append_of_mem he
  exact (h _ _ _ _ hr v e.question e.answer u rfl).1

theorem Stands.unique {s₁ s₂ : BuildState} (h : Stands b s t s₁) (h' : Stands b s t s₂) :
    s₁ = s₂ := by
  -- a run that has ended does not go on
  have hended {s₁ s₂ : BuildState} {r : Except PipelineError α} {x : Call.Exchange}
      {e : PipelineError} (h : Runs b s t r s₁) (h' : Runs b s (t ++ [x]) (.error e) s₂) :
      False := by
    obtain ⟨ht, -⟩ := h.unique h' (u := [x]) (List.append_nil _).symm
    simp at ht
  obtain ⟨r, hr⟩ | ⟨c, hc⟩ := h
  · obtain ⟨r', hr'⟩ | ⟨c', hc'⟩ := h'
    · exact (hr.unique hr' (u := []) rfl).2.2
    · obtain ⟨a, ha⟩ := c'.exists_failed
      obtain ⟨e, he⟩ := hc' a ha
      exact (hended hr he).elim
  · obtain ⟨a, ha⟩ := c.exists_failed
    obtain ⟨e, he⟩ := hc a ha
    obtain ⟨r', hr'⟩ | ⟨c', hc'⟩ := h'
    · exact (hended hr' he).elim
    · obtain ⟨a', ha'⟩ := c'.exists_failed
      obtain ⟨e', he'⟩ := hc' a' ha'
      obtain rfl : c = c' := Dialogue.Run.question_eq he he'
      obtain ⟨e', he'⟩ := hc' a ha
      exact (he.unique he' (u := []) rfl).2.2

/-- A run has a state after any number of its exchanges. -/
theorem Calls.existsUnique_stands (h : Calls C b) (hr : Runs b s t r s') (hu : u <+: t) :
    ∃! s₁, Stands b s u s₁ := by
  suffices hs : ∃ s₁, Stands b s u s₁ by
    obtain ⟨s₁, hs⟩ := hs
    exact ⟨s₁, hs, fun _ h => h.unique hs⟩
  obtain ⟨_ | ⟨⟨c, a⟩, v⟩, rfl⟩ := hu
  · rw [List.append_nil] at hr
    exact ⟨s', .inl ⟨r, hr⟩⟩
  · obtain ⟨-, s₁, hs⟩ := h _ _ _ _ hr u c a v rfl
    exact ⟨s₁, .inr ⟨c, hs⟩⟩

/-! ### Rules -/

theorem calls_of_silent (h : ∀ s t r s', Runs b s t r s' → t = []) : Calls C b := by
  intro s t r s' hr v c a u he
  simp [h _ _ _ _ hr] at he

theorem calls_of_guided (h : Guided b []) : Calls C b := by
  refine calls_of_silent fun s t r s' hr => ?_
  have ha := h s t r s' hr
  generalize r.isOk = ok at ha
  cases ha <;> rfl

/-- A call that ends the run if it fails. -/
theorem calls_ask_of {c : Call} {g : c.Answer → Build α} (left : BuildState → BuildState)
    (hc : C c) (hf : ∀ a, c.Failed a → FailsAtOnce left (g a)) (hg : ∀ a, Calls C (g a)) :
    Calls C (ask c >>= g) := by
  intro s t r s' h v c' a' u he
  obtain ⟨a, t, rfl, ht⟩ := runs_ask_bind_iff.mp h
  cases v with
  | nil =>
    cases he
    refine ⟨hc, left s, fun a' ha => ?_⟩
    obtain ⟨e, he⟩ := hf a' ha s
    exact ⟨e, runs_ask_bind_iff.mpr ⟨a', [], rfl, he⟩⟩
  | cons x v =>
    obtain ⟨rfl, rfl⟩ := List.cons.inj he
    obtain ⟨hc', s₁, hs⟩ := hg a _ _ _ _ ht v c' a' u rfl
    refine ⟨hc', s₁, fun a'' ha => ?_⟩
    obtain ⟨e, hr⟩ := hs a'' ha
    exact ⟨e, runs_ask_bind_iff.mpr ⟨a, _, rfl, hr⟩⟩

theorem calls_ask {c : Call} {g : c.Answer → Build α} (hc : C c)
    (hf : ∀ a, c.Failed a → ∃ e, g a = throw e) (hg : ∀ a, Calls C (g a)) :
    Calls C (ask c >>= g) := by
  refine calls_ask_of id hc (fun a ha => ?_) hg
  obtain ⟨e, he⟩ := hf a ha
  exact he ▸ failsAtOnce_throw e

theorem Calls.bind (hb : Calls C b) (hf : ∀ a, Calls C (f a)) : Calls C (b >>= f) := by
  intro s t r s' h v c a u he
  obtain ⟨t₁, t₂, x, s₁, rfl, h₁, h₂⟩ | ⟨e, rfl, h₁⟩ := runs_bind_iff.mp h
  · rcases List.append_eq_append_iff.mp he with ⟨w, rfl, rfl⟩ | ⟨w, rfl, hw⟩
    · obtain ⟨hc, s₂, hs⟩ := hf x _ _ _ _ h₂ w c a u rfl
      refine ⟨hc, s₂, fun a' ha => ?_⟩
      obtain ⟨e, hr⟩ := hs a' ha
      rw [List.append_assoc]
      exact ⟨e, runs_bind_iff.mpr (.inl ⟨_, _, x, s₁, rfl, h₁, hr⟩)⟩
    · cases w with
      | nil =>
        obtain ⟨hc, s₂, hs⟩ := hf x _ _ _ _ h₂ [] c a u hw.symm
        refine ⟨hc, s₂, fun a' ha => ?_⟩
        obtain ⟨e, hr⟩ := hs a' ha
        rw [List.append_nil] at h₁
        exact ⟨e, runs_bind_iff.mpr (.inl ⟨_, _, x, s₁, rfl, h₁, hr⟩)⟩
      | cons y w =>
        obtain ⟨rfl, rfl⟩ := List.cons.inj hw
        obtain ⟨hc, s₂, hs⟩ := hb _ _ _ _ h₁ v c a w rfl
        refine ⟨hc, s₂, fun a' ha => ?_⟩
        obtain ⟨e, hr⟩ := hs a' ha
        exact ⟨e, runs_bind_iff.mpr (.inr ⟨e, rfl, hr⟩)⟩
  · obtain ⟨hc, s₂, hs⟩ := hb _ _ _ _ h₁ v c a u he
    refine ⟨hc, s₂, fun a' ha => ?_⟩
    obtain ⟨e', hr⟩ := hs a' ha
    exact ⟨e', runs_bind_iff.mpr (.inr ⟨e', rfl, hr⟩)⟩

theorem Calls.imp {D : Call → Prop} (h : Calls C b) (hC : ∀ c, C c → D c) : Calls D b := by
  intro s t r s' hr v c a u he
  obtain ⟨hc, hs⟩ := h _ _ _ _ hr v c a u he
  exact ⟨hC c hc, hs⟩

theorem Calls.holding (h : Calls C b) : Calls C (holding b) := by
  intro s t r s' hr v c a u he
  obtain ⟨_, hb, -⟩ := runs_holding_iff.mp hr
  obtain ⟨hc, s₁, hs⟩ := h _ _ _ _ hb v c a u he
  refine ⟨hc, { s₁ with handles := s₁.handles.giveBack }, fun a' ha => ?_⟩
  obtain ⟨e, he⟩ := hs a' ha
  exact ⟨e, runs_holding_iff.mpr ⟨s₁, he, rfl⟩⟩

/-- A part without calls, and what follows it. -/
theorem Calls.silent (hb : Guided b []) (hf : ∀ a, Calls C (f a)) : Calls C (b >>= f) :=
  (calls_of_guided hb).bind hf

theorem calls_issue {stage : Stage} {kind : StatementKind} {target sql : String}
    (hc : C (.execute sql)) : Calls C (issue stage kind target sql) := by
  refine calls_ask hc ?_ fun _ => ?_
  · rintro _ ⟨e, rfl⟩
    exact ⟨_, rfl⟩
  · exact .silent (guided_orThrow _ _) fun _ => calls_of_guided (guided_record _ _ _ _)

theorem calls_describe {stage : Stage} {target view : String} (hc : C (.describe view)) :
    Calls C (describe stage target view) := by
  refine calls_ask hc ?_ fun _ => calls_of_guided (guided_orThrow _ _)
  rintro _ ⟨e, rfl⟩
  exact ⟨_, rfl⟩

theorem calls_forM {l : List α} {g : α → Build Unit} (hg : ∀ a, Calls C (g a)) :
    Calls C (l.forM g) := by
  induction l with
  | nil => exact calls_of_guided (guided_pure _)
  | cons a l ih => exact (hg a).bind fun _ => ih

theorem calls_mapM {l : List α} {g : α → Build β} (hg : ∀ a, Calls C (g a)) :
    Calls C (l.mapM g) := by
  induction l with
  | nil => exact calls_of_guided (guided_pure _)
  | cons a l ih =>
    rw [List.mapM_cons]
    exact (hg a).bind fun _ => ih.bind fun _ => calls_of_guided (guided_pure _)

/-! ### Compilation -/

variable {ctx : Context} {dryRun : Bool} {prepared : Prepared}

theorem compiling_issue {stage : Stage} {kind : StatementKind} {target sql : String} :
    Calls (Call.Compiling dryRun) (issue stage kind target sql) :=
  calls_issue (.inl ⟨sql, rfl⟩)

theorem compiling_describe {stage : Stage} {target view : String} :
    Calls (Call.Compiling dryRun) (describe stage target view) :=
  calls_describe (.inr (.inl ⟨view, rfl⟩))

theorem calls_session (p : Pipeline) : Calls (Call.Compiling dryRun) (session ctx p) := by
  refine (calls_forM fun _ => compiling_issue).bind fun _ => ?_
  exact compiling_issue.bind fun _ => calls_forM fun _ => compiling_issue

theorem calls_source (a : Source) : Calls (Call.Compiling dryRun) (source ctx a) := by
  refine compiling_issue.bind fun _ => compiling_describe.bind fun _ => ?_
  exact calls_of_guided (guided_register _ _)

theorem calls_transform (name sql : String) :
    Calls (Call.Compiling dryRun) (transform name sql) := by
  refine compiling_issue.bind fun _ => compiling_describe.bind fun columns => ?_
  dsimp only
  split
  · exact calls_of_guided (guided_throw _ _)
  · exact compiling_issue.bind fun _ => calls_of_guided (guided_register _ _)

theorem calls_view (e : Entity) : Calls (Call.Compiling dryRun) (view ctx prepared e) := by
  cases e with
  | source i =>
    cases hs : prepared.pipeline.sources[i]? with
    | none => simpa [view, hs] using calls_of_guided (guided_pure _)
    | some a => simpa [view, hs] using calls_source a
  | transform i =>
    dsimp only [view]
    split
    · exact calls_transform _ _
    · exact calls_of_guided (guided_pure _)
  | sink i => exact calls_of_guided (guided_pure _)

theorem calls_destination (sink : String) (pg : PostgresSink) (defs : List String) :
    Calls (fun c => c.isAdministrative = true) (destination sink pg defs) := by
  have hexecute (sql : String) : Calls (fun c => c.isAdministrative = true) (do
      orThrow (PipelineError.provisioning sink (some sql))
        (← ask (.executeIn pg pg.database sql))) := by
    refine calls_ask rfl ?_ fun _ => calls_of_guided (guided_orThrow _ _)
    rintro _ ⟨e, rfl⟩
    exact ⟨_, rfl⟩
  have hrest := (hexecute (Sql.createSchema pg.schema)).bind fun _ =>
    hexecute (pg.tableStatement defs)
  refine calls_ask rfl ?_ fun _ => .silent (guided_orThrow _ _) fun found => ?_
  · rintro _ ⟨e, rfl⟩
    exact ⟨_, rfl⟩
  dsimp only
  split
  · refine calls_ask rfl ?_ fun _ => .silent (guided_orThrow _ _) fun _ => hrest
    rintro _ ⟨e, rfl⟩
    exact ⟨_, rfl⟩
  · exact hrest

theorem calls_destinationOf (a : Sink) (l : SinkLayout) :
    Calls (Call.Compiling dryRun) (destinationOf dryRun a l) := by
  unfold destinationOf
  split
  · cases dryRun with
    | true => exact calls_of_guided (guided_pure _)
    | false => exact (calls_destination _ _ _).imp fun _ hc => .inr (.inr ⟨rfl, hc⟩)
  · exact calls_of_guided (guided_pure _)

theorem calls_sink (a : Sink) (l : SinkLayout) :
    Calls (Call.Compiling dryRun) (sink ctx dryRun a l) := by
  unfold sink
  rw [provision_eq]
  refine .bind ?_ fun _ => .silent (guided_schema _) fun _ =>
    .silent (guided_record _ _ _ _) fun _ => calls_of_guided (guided_pure _)
  refine (calls_destinationOf _ _).bind fun _ => compiling_issue.bind fun _ => ?_
  exact calls_of_guided (guided_register _ _)

/-- A compilation executes statements and describes views. The servers of the sinks are asked for
something only if it is no dry run. -/
theorem calls_compile : Calls (Call.Compiling dryRun) (compile ctx dryRun prepared) := by
  refine (calls_session _).bind fun _ => (calls_forM calls_view).bind fun _ => ?_
  refine .silent (guided_mapM guided_layout) fun _ => ?_
  exact calls_mapM fun e => calls_sink e.1 e.2

/-! ### Submission -/

theorem calls_submitAll (index : Nat) (inserts : List PendingInsert) :
    Calls (fun _ => True) (submitAll index inserts) := by
  induction inserts generalizing index with
  | nil => exact calls_of_guided (guided_pure _)
  | cons i rest ih =>
    refine calls_ask trivial ?_ fun _ => .silent (guided_orThrow _ _) fun _ =>
      (ih _).bind fun _ => calls_of_guided (guided_pure _)
    rintro _ ⟨e, rfl⟩
    exact ⟨_, rfl⟩

theorem calls_acceptAll (n : Nat) (pending : List PendingJob) (accepted : List (Nat × JobId)) :
    Calls (fun _ => True) (acceptAll n pending accepted) := by
  induction n generalizing pending accepted with
  | zero => exact calls_of_guided (guided_pure _)
  | succ n ih =>
    cases pending with
    | nil => exact calls_of_guided (guided_pure _)
    | cons first rest =>
      refine calls_ask_of (fun s => { s with handles := s.handles.ended }) trivial ?_ fun _ =>
        .silent (guided_count _) fun _ => .silent (guided_orThrow _ _) fun _ => ih _ _
      rintro d ⟨e, he⟩
      dsimp only
      rw [he]
      exact (failsAtOnce_throw _).count_bind _

theorem calls_submit (pipeline : String) (inserts : List PendingInsert) :
    Calls (fun _ => True) (submit pipeline inserts) := by
  refine .holding ((calls_issue trivial).bind fun _ => (calls_submitAll _ _).bind fun _ => ?_)
  refine .silent (guided_count _) fun _ => (calls_acceptAll _ _ _).bind fun jobs => ?_
  refine calls_ask trivial ?_ fun _ => .silent (guided_orThrow _ _) fun state => ?_
  · rintro _ ⟨e, rfl⟩
    exact ⟨_, rfl⟩
  · split
    · exact calls_of_guided (guided_throw _ _)
    · exact calls_of_guided (guided_pure _)

end Build

end StreamPipeline
