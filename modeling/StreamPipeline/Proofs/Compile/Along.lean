import StreamPipeline.Proofs.Compile.Runs

/-! # Runs along a sequence of steps

A step allows some calls, with some of their answers. A run goes along a sequence of steps if its
exchanges are those of a prefix, and if it stops at the first failed call. One rule for each way to
put parts of a run together.
-/

namespace StreamPipeline

/-- The collaborator did not do what it was asked. -/
def Call.Failed : (c : Call) → c.Answer → Prop
  | .execute _, a => ∃ e : RuntimeError, a = .error e
  | .describe _, a => ∃ e : RuntimeError, a = .error e
  | .submit _, a => ∃ e : RuntimeError, a = .error e
  | .nextAccepted first rest, d => ∃ e, (d : Decision (first :: rest)).result = .error e
  | .wait _ _, a => ∃ e : RuntimeError, a = .error e
  | .databaseExists _ _, a => ∃ e : String, a = .error e
  | .createDatabase _ _, a => ∃ e : String, a = .error e
  | .executeIn _ _ _, a => ∃ e : String, a = .error e

def Failed (e : Call.Exchange) : Prop := e.question.Failed e.answer

/-- What may happen next. A text that depends on columns is known up to those columns. -/
inductive Step where
  | exactly (call : Call)
  | database (pg : PostgresSink) (found : Bool)
  | table (pg : PostgresSink)
  | projection (transform : String)
  | sinkTable (settings : Settings) (s : Sink)
  | submission (s : Sink)
  | acceptance
  | completion (pipeline : String)

/-- The exchanges of a step. A database is looked for with the stated answer, unless that fails. -/
inductive Step.Makes : Step → Call.Exchange → Prop where
  | exactly (call : Call) (a : call.Answer) : Makes (.exactly call) ⟨call, a⟩
  | database (pg : PostgresSink) (found : Bool) :
      Makes (.database pg found) ⟨.databaseExists pg pg.database, .ok found⟩
  | noDatabase (pg : PostgresSink) (found : Bool) (e : String) :
      Makes (.database pg found) ⟨.databaseExists pg pg.database, .error e⟩
  | table (pg : PostgresSink) (defs : List String) (a : Except String Unit) :
      Makes (.table pg) ⟨.executeIn pg pg.database (pg.tableStatement defs), a⟩
  | projection (transform : String) (columns : List Column) (a : Except RuntimeError Unit) :
      Makes (.projection transform) ⟨.execute (projectionStatement transform columns), a⟩
  | sinkTable (settings : Settings) (s : Sink) (defs : List String) (a : Except RuntimeError Unit) :
      Makes (.sinkTable settings s) ⟨.execute (sinkTableStatement settings s.name s.kind defs), a⟩
  | submission (s : Sink) (columns : List Column) (a : Except RuntimeError JobHandle) :
      Makes (.submission s) ⟨.submit (insertStatement s.name s.input columns), a⟩
  | acceptance (first : PendingJob) (rest : List PendingJob) (d : Decision (first :: rest)) :
      Makes .acceptance ⟨.nextAccepted first rest, d⟩
  | completion (pipeline : String) (jobs : List JobId) (a : Except RuntimeError JobState) :
      Makes (.completion pipeline) ⟨.wait pipeline jobs, a⟩

/-- The steps that wait for the jobs. -/
def Step.isWait : Step → Bool
  | .exactly (.wait _ _) | .completion _ => true
  | _ => false

theorem Step.isWait_of_makes {step : Step} {pipeline : String} {jobs : List JobId}
    {a : Except RuntimeError JobState} (h : step.Makes ⟨.wait pipeline jobs, a⟩) :
    step.isWait = true := by
  cases h <;> rfl

/-- The exchanges follow the steps, up to the first failed one or to the end of the run. The flag
tells whether the run ended well, which it does only after all steps. -/
inductive Along : List Step → List Call.Exchange → Bool → Prop where
  | finished : Along [] [] true
  | stopped (steps : List Step) : Along steps [] false
  | failed {step : Step} {steps : List Step} {e : Call.Exchange} :
      step.Makes e → Failed e → Along (step :: steps) [e] false
  | next {step : Step} {steps : List Step} {e : Call.Exchange} {t : List Call.Exchange}
      {ok : Bool} :
      step.Makes e → ¬ Failed e → Along steps t ok → Along (step :: steps) (e :: t) ok

namespace Along

variable {steps more : List Step} {t u : List Call.Exchange} {ok : Bool}

theorem append (h : Along steps t true) (h' : Along more u ok) :
    Along (steps ++ more) (t ++ u) ok := by
  generalize hb : true = b at h
  induction h with
  | finished => exact h'
  | stopped => cases hb
  | failed => cases hb
  | next hm hf _ ih => exact .next hm hf (ih hb)

theorem weaken (h : Along steps t false) : Along (steps ++ more) t false := by
  generalize hb : false = b at h
  induction h with
  | finished => cases hb
  | stopped => exact .stopped _
  | failed hm hf => exact .failed hm hf
  | next hm hf _ ih => subst hb; exact .next hm hf (ih rfl)

/-- The exchanges are made by a prefix of the steps. -/
theorem of_prefix (h : Along steps t ok) : ∃ taken, taken <+: steps ∧
    List.Forall₂ Step.Makes taken t ∧ (ok = true → taken = steps) := by
  induction h with
  | finished => exact ⟨[], List.prefix_refl _, .nil, fun _ => rfl⟩
  | stopped steps => exact ⟨[], List.nil_prefix, .nil, fun h => by cases h⟩
  | @failed step _ _ hm _ =>
    exact ⟨[step], ⟨_, rfl⟩, .cons hm .nil, fun h => by cases h⟩
  | @next step _ _ _ _ hm _ _ ih =>
    obtain ⟨taken, hp, ht, he⟩ := ih
    exact ⟨step :: taken, List.cons_prefix_cons.mpr ⟨rfl, hp⟩, .cons hm ht, fun h => by rw [he h]⟩

/-- No call is made after a failed one, which also fails the run. -/
theorem last_of_failed (h : Along steps t ok) {e : Call.Exchange} (he : e ∈ t) (hf : Failed e) :
    ok = false ∧ ∃ before, t = before ++ [e] ∧ ∀ e' ∈ before, ¬ Failed e' := by
  induction h with
  | finished => cases he
  | stopped => cases he
  | failed =>
    obtain rfl := List.mem_singleton.mp he
    exact ⟨rfl, [], rfl, by simp⟩
  | @next _ _ e' t _ _ hn _ ih =>
    rcases List.mem_cons.mp he with rfl | he
    · exact absurd hf hn
    · obtain ⟨hb, before, rfl, hl⟩ := ih he
      refine ⟨hb, e' :: before, rfl, fun x hx => ?_⟩
      rcases List.mem_cons.mp hx with rfl | hx
      · exact hn
      · exact hl x hx

theorem exists_step (h : Along steps t ok) {e : Call.Exchange} (he : e ∈ t) :
    ∃ step ∈ steps, step.Makes e := by
  induction h with
  | finished => cases he
  | stopped => cases he
  | @failed step _ _ hm _ =>
    obtain rfl := List.mem_singleton.mp he
    exact ⟨step, by simp, hm⟩
  | @next step _ _ _ _ hm _ _ ih =>
    rcases List.mem_cons.mp he with rfl | he
    · exact ⟨step, by simp, hm⟩
    · obtain ⟨step', hs, hm'⟩ := ih he
      exact ⟨step', by simp [hs], hm'⟩

theorem not_wait (h : Along steps t ok) (hs : ∀ step ∈ steps, step.isWait = false)
    (pipeline : String) (jobs : List JobId) (a : Except RuntimeError JobState) :
    ⟨.wait pipeline jobs, a⟩ ∉ t := by
  intro he
  obtain ⟨step, hm, hmakes⟩ := h.exists_step he
  simpa [hs step hm] using Step.isWait_of_makes hmakes

end Along

namespace Build

variable {α β : Type} {b : Build α} {f : α → Build β} {steps more : List Step}

/-- Every run of the build goes along the steps. -/
def Guided (b : Build α) (steps : List Step) : Prop :=
  ∀ s t r s', Runs b s t r s' → Along steps t r.isOk

theorem guided_pure (a : α) : Guided (pure a) [] := by
  intro s t r s' h
  obtain ⟨rfl, rfl, -⟩ := runs_pure_iff.mp h
  exact .finished

theorem guided_throw (e : PipelineError) (steps : List Step) :
    Guided (throw e : Build α) steps := by
  intro s t r s' h
  obtain ⟨rfl, rfl, -⟩ := runs_throw_iff.mp h
  exact .stopped _

/-- What follows a part need only be guided for the results that the part can have. -/
theorem Guided.bind_of {P : α → Prop} (hb : Guided b steps)
    (hp : ∀ s t a s', Runs b s t (.ok a) s' → P a) (hf : ∀ a, P a → Guided (f a) more) :
    Guided (b >>= f) (steps ++ more) := by
  intro s t r s' h
  obtain ⟨t₁, t₂, a, s₁, rfl, h₁, h₂⟩ | ⟨e, rfl, he⟩ := runs_bind_iff.mp h
  · exact (hb _ _ _ _ h₁).append (hf a (hp _ _ _ _ h₁) _ _ _ _ h₂)
  · exact (hb _ _ _ _ he).weaken

theorem Guided.bind (hb : Guided b steps) (hf : ∀ a, Guided (f a) more) :
    Guided (b >>= f) (steps ++ more) :=
  hb.bind_of (fun _ _ _ _ _ => trivial) fun a _ => hf a

/-- Where the jobs are waited for, the parts that do not wait have ended well before. -/
theorem Guided.passed (hb : Guided b steps) (hs : ∀ step ∈ steps, step.isWait = false)
    {s s' : BuildState} {t : List Call.Exchange} {r : Except PipelineError β}
    (h : Runs (b >>= f) s t r s') {pipeline : String} {jobs : List JobId}
    {a : Except RuntimeError JobState} (hw : ⟨.wait pipeline jobs, a⟩ ∈ t) :
    ∃ t₁ t₂ x s₁, t = t₁ ++ t₂ ∧ Runs b s t₁ (.ok x) s₁ ∧ Runs (f x) s₁ t₂ r s' ∧
      ⟨.wait pipeline jobs, a⟩ ∈ t₂ := by
  obtain ⟨t₁, t₂, x, s₁, rfl, h₁, h₂⟩ | ⟨e, rfl, he⟩ := runs_bind_iff.mp h
  · refine ⟨t₁, t₂, x, s₁, rfl, h₁, h₂, ?_⟩
    exact (List.mem_append.mp hw).resolve_left ((hb _ _ _ _ h₁).not_wait hs _ _ _)
  · exact absurd hw ((hb _ _ _ _ he).not_wait hs _ _ _)

/-- A part without calls, and what follows it. -/
theorem Guided.silent (hb : Guided b []) (hf : ∀ a, Guided (f a) steps) :
    Guided (b >>= f) steps := hb.bind hf

theorem guided_orThrow {ε : Type} (wrap : ε → PipelineError) (x : Except ε α) :
    Guided (orThrow wrap x) [] := by
  cases x with
  | ok a => exact guided_pure a
  | error e => exact guided_throw _ _

/-- A call that its step allows, and that ends the run if it fails. -/
theorem guided_ask_of {c : Call} {g : c.Answer → Build α} {step : Step}
    (left : BuildState → BuildState) (hm : ∀ a, step.Makes ⟨c, a⟩)
    (hf : ∀ a, c.Failed a → FailsAtOnce left (g a))
    (hg : ∀ a, ¬ c.Failed a → Guided (g a) steps) : Guided (ask c >>= g) (step :: steps) := by
  intro s t r s' h
  obtain ⟨a, u, rfl, hu⟩ := runs_ask_bind_iff.mp h
  by_cases ha : c.Failed a
  · obtain ⟨e, he⟩ := hf a ha s
    obtain ⟨rfl, rfl, -⟩ := he.unique hu (List.append_nil u).symm
    exact .failed (hm a) ha
  · exact .next (hm a) ha (hg a ha _ _ _ _ hu)

theorem guided_ask {c : Call} {g : c.Answer → Build α} {step : Step}
    (hm : ∀ a, step.Makes ⟨c, a⟩) (hf : ∀ a, c.Failed a → ∃ e, g a = throw e)
    (hg : ∀ a, ¬ c.Failed a → Guided (g a) steps) : Guided (ask c >>= g) (step :: steps) := by
  refine guided_ask_of id hm (fun a ha => ?_) hg
  obtain ⟨e, he⟩ := hf a ha
  exact he ▸ failsAtOnce_throw e

theorem guided_count (g : Handles → Handles) : Guided (count g) [] := by
  intro s t r s' h
  obtain ⟨rfl, rfl, -⟩ := runs_count_iff.mp h
  exact .finished

theorem Guided.holding (h : Guided b steps) : Guided (holding b) steps := by
  intro s t r s' hr
  obtain ⟨_, hb, -⟩ := runs_holding_iff.mp hr
  exact h _ _ _ _ hb

theorem guided_get {g : BuildState → Build α} (h : ∀ s, Guided (g s) steps) :
    Guided (get >>= g) steps := by
  intro s t r s' hr
  exact h s _ _ _ _ (runs_get_bind_iff.mp hr)

theorem guided_record (stage : Stage) (kind : StatementKind) (target sql : String) :
    Guided (record stage kind target sql) [] := by
  intro s t r s' h
  obtain ⟨rfl, rfl, -⟩ := runs_record_iff.mp h
  exact .finished

theorem guided_issue {stage : Stage} {kind : StatementKind} {target sql : String} {step : Step}
    (hm : ∀ a, step.Makes ⟨.execute sql, a⟩) : Guided (issue stage kind target sql) [step] := by
  refine guided_ask hm ?_ fun a _ => ?_
  · rintro a ⟨e, rfl⟩
    exact ⟨_, rfl⟩
  · exact (guided_orThrow _ _).silent fun _ => guided_record _ _ _ _

theorem guided_describe (stage : Stage) (target view : String) :
    Guided (describe stage target view) [.exactly (.describe view)] := by
  refine guided_ask (.exactly _) ?_ fun a _ => guided_orThrow _ _
  rintro a ⟨e, rfl⟩
  exact ⟨_, rfl⟩

theorem guided_register (name : String) (columns : List Column) :
    Guided (register name columns) [] := by
  intro s t r s' h
  obtain ⟨rfl, ⟨-, rfl, -⟩ | ⟨-, rfl, -⟩⟩ := runs_register_iff.mp h
  · exact .finished
  · exact .stopped _

theorem guided_schema (name : String) : Guided (schema name) [] := by
  intro s t r s' h
  obtain ⟨rfl, -, rfl⟩ := runs_schema_iff.mp h
  cases s.registry.get? name with
  | none => exact .stopped _
  | some _ => exact .finished

theorem guided_forM {l : List α} {g : α → Build Unit} {each : α → List Step}
    (hg : ∀ a, Guided (g a) (each a)) : Guided (l.forM g) (l.flatMap each) := by
  induction l with
  | nil => exact guided_pure _
  | cons a l ih => exact (hg a).bind fun _ => ih

theorem guided_mapM {l : List α} {g : α → Build β} (hg : ∀ a, Guided (g a) []) :
    Guided (l.mapM g) [] := by
  induction l with
  | nil => exact guided_pure _
  | cons a l ih =>
    rw [List.mapM_cons]
    exact (hg a).silent fun _ => ih.silent fun _ => guided_pure _

end Build

end StreamPipeline
