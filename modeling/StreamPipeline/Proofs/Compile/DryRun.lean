import StreamPipeline.Proofs.Compile.Acceptance
import StreamPipeline.Proofs.Compile.Calls
import StreamPipeline.Proofs.Compile.Outline
import StreamPipeline.Proofs.Sql.Masking

/-! # Dry runs

What the runtime is asked in a run that ends well, it is asked in a dry run, up to the submission.
So a dry run that gets the same answers has the same plan, with the name of the pipeline as it is.
-/

namespace StreamPipeline

open Sql

/-- A setting whose key names no secret is shown as it is, whatever its value looks like. -/
theorem redact_setStatement {key : String} (hk : ∀ c ∈ key.toList, isKeyChar c = true)
    (hs : isSecretKey key.toList = false) (value : String) :
    redact (setStatement key value) = setStatement key value := by
  have hset : (setStatement key value).toList =
      "SET ".toList ++ optionChars key.toList value.toList := by
    simp [setStatement, literal, optionChars]
  have hends : Ends [] := by rintro _ ⟨⟩
  rw [redact_eq, hset, maskChars_append _ (by decide), ← List.append_nil (optionChars _ _),
    maskChars_option hk _ hends, maskedValue, hs]
  refine String.toList_injective ?_
  simp [hset, maskChars, redactChars]

/-- The exchanges with the runtime, without those with the servers of the sinks. -/
def withRuntime (t : List Call.Exchange) : List Call.Exchange :=
  t.filter fun e => !e.question.isAdministrative

theorem withRuntime_append (t u : List Call.Exchange) :
    withRuntime (t ++ u) = withRuntime t ++ withRuntime u := List.filter_append ..

namespace Build

/-- What `b` does when it ends well, `b'` does without the servers of the sinks. -/
def Foretold {α : Type} (b b' : Build α) : Prop :=
  ∀ s t a s', Runs b s t (.ok a) s' → Runs b' s (withRuntime t) (.ok a) s'

variable {α β : Type} {b b' : Build α} {f f' : α → Build β} {ctx : Context} {p : Pipeline}
  {prepared : Prepared} {s s' : BuildState} {t : List Call.Exchange}

/-! ### Rules -/

theorem foretold_of_calls (h : Calls (Call.Compiling true) b) : Foretold b b := by
  intro s t a s' hr
  have ht : withRuntime t = t := by
    refine List.filter_eq_self.mpr fun e he => ?_
    obtain ⟨sql, hc⟩ | ⟨view, hc⟩ | ⟨hc, -⟩ := h.forall_mem hr e he
    · rw [hc]; rfl
    · rw [hc]; rfl
    · cases hc
  rwa [ht]

theorem Foretold.bind (hb : Foretold b b') (hf : ∀ a, Foretold (f a) (f' a)) :
    Foretold (b >>= f) (b' >>= f') := by
  intro s t c s' h
  obtain ⟨t₁, t₂, a, s₁, rfl, h₁, h₂⟩ := runs_bind_ok_iff.mp h
  rw [withRuntime_append]
  exact runs_bind_ok_iff.mpr ⟨_, _, a, s₁, rfl, hb _ _ _ _ h₁, hf a _ _ _ _ h₂⟩

theorem foretold_mapM {l : List α} (hf : ∀ a, Foretold (f a) (f' a)) :
    Foretold (l.mapM f) (l.mapM f') := by
  induction l with
  | nil => exact foretold_of_calls (calls_of_guided (guided_pure _))
  | cons a l ih =>
    rw [List.mapM_cons, List.mapM_cons]
    exact (hf a).bind fun _ => ih.bind fun _ => foretold_of_calls (calls_of_guided (guided_pure _))

/-! ### Compilation -/

theorem foretold_destinationOf (a : Sink) (l : SinkLayout) :
    Foretold (destinationOf false a l) (destinationOf true a l) := by
  have hdry : destinationOf true a l = pure () := by
    unfold destinationOf
    split <;> rfl
  have hcalls : Calls (fun c => c.isAdministrative = true) (destinationOf false a l) := by
    unfold destinationOf
    split
    · exact calls_destination _ _ _
    · exact calls_of_guided (guided_pure _)
  intro s t _ s' h
  have ht : withRuntime t = [] :=
    List.filter_eq_nil_iff.mpr fun e he => by simp [hcalls.forall_mem h e he]
  rw [ht, hdry]
  exact runs_pure_iff.mpr ⟨rfl, rfl, (of_destinationOf h).1⟩

theorem foretold_sink (a : Sink) (l : SinkLayout) :
    Foretold (sink ctx false a l) (sink ctx true a l) := by
  unfold sink
  rw [provision_eq, provision_eq]
  refine .bind ?_ fun _ => foretold_of_calls ?_
  · refine (foretold_destinationOf a l).bind fun _ => foretold_of_calls ?_
    exact compiling_issue.bind fun _ => calls_of_guided (guided_register _ _)
  · exact .silent (guided_schema _) fun _ => .silent (guided_record _ _ _ _) fun _ =>
      calls_of_guided (guided_pure _)

/-- A compilation goes on in a dry run as it does otherwise. -/
theorem foretold_compile : Foretold (compile ctx false prepared) (compile ctx true prepared) := by
  refine (foretold_of_calls (calls_session _)).bind fun _ => ?_
  refine (foretold_of_calls (calls_forM calls_view)).bind fun _ => ?_
  refine (foretold_of_calls (calls_of_guided (guided_mapM guided_layout))).bind fun _ => ?_
  exact foretold_mapM fun e => foretold_sink e.1 e.2

/-! ### Whole runs -/

/-- The plan of a submission ends with the name of the pipeline, shown as it is. -/
theorem plan_of_submit {pipeline : String} {inserts : List PendingInsert}
    {c : List JobId × JobState} (h : Runs (submit pipeline inserts) s t (.ok c) s') :
    s'.plan = s.plan ++ [⟨.submit, .sessionConfig, pipeline, nameStatement pipeline⟩] := by
  have hname : redact (nameStatement pipeline) = nameStatement pipeline :=
    redact_setStatement (List.all_eq_true.mp (by decide)) (by decide) pipeline
  rw [submit_eq] at h
  obtain ⟨_, hsubmit, rfl⟩ := runs_holding_iff.mp h
  obtain ⟨_, _, _, s₁, rfl, h₁, h₂⟩ := runs_bind_ok_iff.mp hsubmit
  obtain ⟨_, _, _, s₂, rfl, h₃, h₄⟩ := runs_bind_ok_iff.mp h₂
  obtain ⟨_, _, _, s₃, rfl, h₅, h₆⟩ := runs_bind_ok_iff.mp (runs_count_bind_iff.mp h₄)
  obtain ⟨-, -, -, rfl⟩ := runs_completion_iff.mp h₆
  rw [(leaves_acceptAll _ _ _ _ _ _ _ h₅).plan.eq_of_nil,
    (leaves_submitAll _ _ _ _ _ _ h₃).plan.eq_of_nil]
  obtain ⟨-, -, rfl⟩ | ⟨e, -, he, -⟩ := runs_issue_iff.mp h₁
  · rw [hname]
  · cases he

/-- What is left of a run once its pipeline is compiled. -/
def conclusion (dryRun : Bool) (pipeline : String) (inserts : List PendingInsert) :
    Build Outcome := do
  if dryRun then
    record .submit .sessionConfig pipeline (nameStatement pipeline)
    return .dryRun (← get).plan
  else
    let (jobs, state) ← submit pipeline inserts
    return .run (← get).plan jobs state

theorem run_eq_conclusion (hp : p.prepare = .ok prepared) (dryRun : Bool) :
    run ctx dryRun p = compile ctx dryRun prepared >>= conclusion dryRun p.name := by
  unfold run
  rw [hp]
  rfl

theorem runs_conclusion_dryRun (pipeline : String) (inserts : List PendingInsert)
    (s : BuildState) : ∃ s', Runs (conclusion true pipeline inserts) s [] (.ok (.dryRun (s.plan
      ++ [⟨.submit, .sessionConfig, pipeline, nameStatement pipeline⟩]))) s' :=
  ⟨_, runs_bind_ok_iff.mpr ⟨[], [], (), _, rfl, runs_record_iff.mpr ⟨rfl, rfl, rfl⟩,
    runs_get_bind_iff.mpr (runs_pure_iff.mpr ⟨rfl, rfl, rfl⟩)⟩⟩

theorem plan_of_conclusion {dryRun : Bool} {pipeline : String} {inserts : List PendingInsert}
    {outcome : Outcome} (h : Runs (conclusion dryRun pipeline inserts) s t (.ok outcome) s') :
    outcome.plan =
      s.plan ++ [⟨.submit, .sessionConfig, pipeline, nameStatement pipeline⟩] := by
  cases dryRun with
  | true =>
    obtain ⟨_, _, _, s₁, rfl, h₁, h₂⟩ := (runs_bind_ok_iff
      (b := record .submit .sessionConfig pipeline (nameStatement pipeline))).mp h
    obtain ⟨-, -, rfl⟩ := runs_record_iff.mp h₁
    have h₂ : Runs (pure (Outcome.dryRun _)) _ _ (.ok outcome) s' := h₂
    obtain ⟨-, he, -⟩ := runs_pure_iff.mp h₂
    cases he
    rfl
  | false =>
    have h : Runs (submit pipeline inserts >>= fun c => get >>= fun s =>
      pure (Outcome.run s.plan c.1 c.2)) s t (.ok outcome) s' := h
    obtain ⟨_, _, c, s₁, rfl, h₁, h₂⟩ := runs_bind_ok_iff.mp h
    have h₂ : Runs (pure (Outcome.run s₁.plan c.1 c.2)) s₁ _ (.ok outcome) s' := h₂
    obtain ⟨-, he, -⟩ := runs_pure_iff.mp h₂
    cases he
    exact plan_of_submit h₁

/-- A run that ends well has compiled its pipeline, and its plan ends with the name. -/
theorem plan_of_run {dryRun : Bool} {outcome : Outcome}
    (h : Runs (run ctx dryRun p) s t (.ok outcome) s') : ∃ prepared inserts t₁ t₂ s₁,
      p.prepare = .ok prepared ∧ t = t₁ ++ t₂ ∧
      Runs (compile ctx dryRun prepared) s t₁ (.ok inserts) s₁ ∧
      outcome.plan = s₁.plan ++ [⟨.submit, .sessionConfig, p.name, nameStatement p.name⟩] := by
  cases hp : p.prepare with
  | error e =>
    unfold run at h
    rw [hp] at h
    cases (runs_throw_iff.mp h).2.1
  | ok prepared =>
    rw [run_eq_conclusion hp] at h
    obtain ⟨t₁, t₂, inserts, s₁, rfl, h₁, h₂⟩ := runs_bind_ok_iff.mp h
    exact ⟨prepared, inserts, t₁, t₂, s₁, rfl, rfl, h₁, plan_of_conclusion h₂⟩

theorem calls_dryRun : Calls (Call.Compiling true) (run ctx true p) := by
  refine .silent (guided_orThrow _ _) fun _ => calls_compile.bind fun _ => ?_
  exact .silent (guided_record _ _ _ _) fun _ =>
    calls_of_guided (guided_get fun _ => guided_pure _)

/-- A run that ends well has the plan that a dry run has under the same answers of the runtime, for
every pipeline and all settings. The dry run is asked a beginning of what the runtime was asked, and
whatever the answers, it only has statements executed and views described. -/
theorem run_foretold (ctx : Context) (p : Pipeline) (s : BuildState) :
    (∀ t outcome s', Runs (run ctx false p) s t (.ok outcome) s' →
      (∃ t' s'', Runs (run ctx true p) s t' (.ok (.dryRun outcome.plan)) s'' ∧
        t' <+: withRuntime t) ∧
      ∀ t' r s'', Runs (run ctx true p) s t' r s'' →
        Dialogue.AnsweredAlike t' (withRuntime t) → r = .ok (.dryRun outcome.plan)) ∧
    ∀ t r s', Runs (run ctx true p) s t r s' → ∀ e ∈ t,
      (∃ sql, e.question = .execute sql) ∨ ∃ view, e.question = .describe view := by
  refine ⟨fun t outcome s' h => ?_, fun t r s' h e he => ?_⟩
  · obtain ⟨prepared, inserts, t₁, t₂, s₁, hp, rfl, hc, hplan⟩ := plan_of_run h
    obtain ⟨s₂, hend⟩ := runs_conclusion_dryRun p.name inserts s₁
    rw [← hplan] at hend
    have hdry : Runs (run ctx true p) s (withRuntime t₁) (.ok (.dryRun outcome.plan)) s₂ := by
      rw [run_eq_conclusion hp]
      exact runs_bind_ok_iff.mpr ⟨_, [], inserts, s₁, (List.append_nil _).symm,
        foretold_compile _ _ _ _ hc, hend⟩
    have hfirst : withRuntime t₁ <+: withRuntime (t₁ ++ t₂) := by
      rw [withRuntime_append]
      exact List.prefix_append _ _
    refine ⟨⟨_, s₂, hdry, hfirst⟩, fun t' r s'' h' ha => ?_⟩
    obtain ⟨-, hr⟩ := Dialogue.Run.eq_of_answeredAlike h' hdry (ha.of_prefix hfirst)
    exact congrArg Prod.fst hr
  · obtain hsql | hview | ⟨hd, -⟩ := calls_dryRun.forall_mem h e he
    · exact .inl hsql
    · exact .inr hview
    · cases hd

/-- The name of a pipeline may have quotes, and text that looks like a password. -/
theorem run_foretold_quotedName : ∃ t outcome s' t' s'',
    let p : Pipeline := { ordersToPostgres with name := "it's \x27password\x27 = \x27x\x27" }
    Runs (run ⟨{}, 0⟩ false p) .start t (.ok outcome) s' ∧
    outcome.plan.getLast?.map (·.sql) =
      some "SET 'pipeline.name' = 'it\x27\x27s \x27\x27password\x27\x27 = \x27\x27x\x27\x27'" ∧
    Runs (run ⟨{}, 0⟩ true p) .start t' (.ok (.dryRun outcome.plan)) s'' ∧
    t' <+: withRuntime t := by
  let p : Pipeline := { ordersToPostgres with name := "it's \x27password\x27 = \x27x\x27" }
  have hr := runs_transcript obliging (run ⟨{}, 0⟩ false p) .start ()
  have hplan : ((Dialogue.answer obliging (StateT.run (ExceptT.run (run ⟨{}, 0⟩ false p))
      BuildState.start) ()).1.1.toOption.any fun outcome =>
        outcome.plan.getLast?.map (·.sql) ==
          some "SET 'pipeline.name' = 'it\x27\x27s \x27\x27password\x27\x27 = \x27\x27x\x27\x27'")
      = true := by decide +kernel
  generalize (Dialogue.answer obliging (StateT.run (ExceptT.run (run ⟨{}, 0⟩ false p))
    BuildState.start) ()).1.1 = r at hr hplan
  cases r with
  | error e => cases hplan
  | ok outcome =>
    obtain ⟨⟨t', s'', hdry, hfirst⟩, -⟩ := (run_foretold ⟨{}, 0⟩ p .start).1 _ _ _ hr
    exact ⟨_, outcome, _, t', s'', hr, eq_of_beq hplan, hdry, hfirst⟩

end Build

end StreamPipeline
