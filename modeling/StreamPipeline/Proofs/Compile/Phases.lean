import StreamPipeline.Proofs.Compile.Along
import StreamPipeline.Proofs.Compile.Outcomes

/-! # The phases of a run

The calls of a run follow one sequence, which the pipeline fixes up to the columns that the runtime
reports and the databases that exist. The first failed call is the last one, and the jobs are only
waited for once every insert is submitted and accepted.
-/

namespace StreamPipeline

/-! ### The sequence -/

def Pipeline.sessionSteps (settings : Settings) (p : Pipeline) : List Step :=
  (p.sessionSettings.map fun (key, value) => .exactly (.execute (setStatement key value)))
    ++ .exactly (.execute settings.catalogStatement)
    :: settings.functions.map fun f => .exactly (.execute f.statement)

def Source.steps (ctx : Context) (s : Source) : List Step :=
  [.exactly (.execute (s.viewStatement ctx.settings.catalog ctx.now)), .exactly (.describe s.name)]

def transformSteps (name sql : String) : List Step :=
  [.exactly (.execute (intermediateStatement name sql)),
    .exactly (.describe (intermediateName name)),
    .projection name]

/-- The database is created only where it was not found. -/
def PostgresSink.steps (pg : PostgresSink) (found : Bool) : List Step :=
  .database pg found :: ((if found then [] else [.exactly (.createDatabase pg pg.database)])
    ++ [.exactly (.executeIn pg pg.database (Sql.createSchema pg.schema)), .table pg])

def SinkKind.steps (found : Bool) : SinkKind → List Step
  | postgres pg => pg.steps found
  | _ => []

def Sink.steps (settings : Settings) (s : Sink) (found : Bool) : List Step :=
  s.kind.steps found ++ [.sinkTable settings s]

namespace Prepared

def compileSteps (ctx : Context) (prepared : Prepared) (found : List Bool) : List Step :=
  let p := prepared.pipeline
  p.sessionSteps ctx.settings ++ (p.sources.flatMap (Source.steps ctx)
    ++ ((p.transforms.zip prepared.queries).flatMap (fun e => transformSteps e.1.name e.2)
      ++ (p.sinks.zip found).flatMap fun e => e.1.steps ctx.settings e.2))

def submitSteps (prepared : Prepared) : List Step :=
  let p := prepared.pipeline
  .exactly (.execute (nameStatement p.name)) :: (p.sinks.map .submission
    ++ (List.replicate p.sinks.length .acceptance ++ [.completion p.name]))

/-- The steps of a whole run, given which databases were found. -/
def steps (ctx : Context) (prepared : Prepared) (found : List Bool) : List Step :=
  prepared.compileSteps ctx found ++ prepared.submitSteps

end Prepared

namespace Build

variable {ctx : Context} {p : Pipeline} {prepared : Prepared} {s s' : BuildState}
  {t : List Call.Exchange}

/-! ### Session and views -/

theorem guided_session : Guided (session ctx p) (p.sessionSteps ctx.settings) := by
  unfold session Pipeline.sessionSteps
  rw [List.map_eq_flatMap, List.map_eq_flatMap]
  refine (guided_forM fun _ => guided_issue (.exactly _)).bind fun _ => ?_
  refine (guided_issue (.exactly _)).bind fun _ => ?_
  exact guided_forM fun _ => guided_issue (.exactly _)

theorem guided_source (a : Source) : Guided (source ctx a) (a.steps ctx) := by
  refine (guided_issue (.exactly _)).bind fun _ => ?_
  exact (guided_describe _ _ _).bind fun _ => guided_register _ _

theorem guided_transform (name sql : String) :
    Guided (transform name sql) (transformSteps name sql) := by
  refine (guided_issue (.exactly _)).bind fun _ => ?_
  refine (guided_describe _ _ _).bind fun columns => ?_
  dsimp only
  split
  · exact guided_throw _ _
  · refine (guided_issue (.projection name _)).bind fun _ => ?_
    exact guided_register _ _

/-! ### Sinks -/

theorem guided_layout (a : Sink) : Guided (layout a) [] := by
  unfold layout
  refine (guided_schema _).silent fun columns => ?_
  refine (guided_orThrow _ _).silent fun defs => ?_
  split
  · exact (guided_orThrow _ _).silent fun _ => guided_pure _
  · exact guided_pure _

/-- The layout of a relational sink has the definitions of its destination. -/
def Complete (a : Sink) (l : SinkLayout) : Prop :=
  ∀ pg, a.kind = .postgres pg → ∃ defs, l.postgresDefs = some defs

theorem complete_of_layouts {sinks : List Sink} {layouts : List SinkLayout}
    (h : Runs (sinks.mapM layout) s t (.ok layouts) s') : List.Forall₂ Complete sinks layouts :=
  (runs_mapM_ok_iff.mp h).forall₂ fun a s t l s' hl pg hk => by
    obtain ⟨-, -, hlaid⟩ := of_layout hl
    obtain ⟨defs, hd, -⟩ := hlaid.postgres pg hk
    exact ⟨defs, hd⟩

theorem guided_executeIn (sink : String) (pg : PostgresSink) (sql : String) {step : Step}
    (hm : ∀ a, step.Makes ⟨.executeIn pg pg.database sql, a⟩) :
    Guided (do
      orThrow (PipelineError.provisioning sink (some sql))
        (← ask (.executeIn pg pg.database sql))) [step] := by
  refine guided_ask hm ?_ fun a _ => guided_orThrow _ _
  rintro a ⟨e, rfl⟩
  exact ⟨_, rfl⟩

/-- The database is looked for first; what follows depends on whether it was found. -/
theorem along_destination {sink : String} {pg : PostgresSink} {defs : List String}
    {r : Except PipelineError Unit} (h : Runs (destination sink pg defs) s t r s') :
    ∃ found, Along (pg.steps found) t r.isOk := by
  have hrest := (guided_executeIn sink pg (Sql.createSchema pg.schema) (.exactly _)).bind fun _ =>
    guided_executeIn sink pg (pg.tableStatement defs) (.table pg defs)
  obtain ⟨e | found, u, rfl, hu⟩ := runs_ask_bind_iff.mp h
  · obtain ⟨rfl, rfl, -⟩ := runs_throw_iff.mp hu
    exact ⟨true, .failed (.noDatabase pg _ e) ⟨e, rfl⟩⟩
  · refine ⟨found, .next (.database pg found) (by rintro ⟨e, he⟩; cases he) ?_⟩
    cases found with
    | true => exact hrest _ _ _ _ hu
    | false =>
      refine guided_ask (.exactly (.createDatabase pg pg.database)) ?_
        (fun a _ => (guided_orThrow _ _).silent fun _ => hrest) _ _ _ _ hu
      rintro a ⟨e, rfl⟩
      exact ⟨_, rfl⟩

/-- The insert that fills a sink. -/
def Fills (a : Sink) (i : PendingInsert) : Prop :=
  i.sink = a.name ∧ ∃ columns, i.sql = insertStatement a.name a.input columns

theorem along_provision {a : Sink} {l : SinkLayout} (hl : Complete a l)
    {r : Except PipelineError Unit} (h : Runs (provision ctx false a l) s t r s') :
    ∃ found, Along (a.steps ctx.settings found) t r.isOk := by
  have hdest {t r s s'} (h : Runs (destinationOf false a l) s t r s') :
      ∃ found, Along (a.kind.steps found) t r.isOk := by
    unfold destinationOf at h
    split at h
    next pg defs hk _ => rw [hk]; exact along_destination h
    next hn =>
      obtain ⟨rfl, rfl, -⟩ := runs_pure_iff.mp h
      refine ⟨true, ?_⟩
      cases hk : a.kind with
      | postgres pg =>
        obtain ⟨defs, hd⟩ := hl pg hk
        exact absurd hd (hn pg defs hk)
      | _ => exact .finished
  have htable : Guided (do
      issue .sink .sinkTable a.name (sinkTableStatement ctx.settings a.name a.kind l.runtimeDefs)
      register a.name l.columns) [.sinkTable ctx.settings a] :=
    (guided_issue (.sinkTable _ _ _)).bind fun _ => guided_register _ _
  rw [provision_eq] at h
  obtain ⟨t₁, t₂, _, s₁, rfl, h₁, h₂⟩ | ⟨e, rfl, he⟩ := runs_bind_iff.mp h
  · obtain ⟨found, hf⟩ := hdest h₁
    exact ⟨found, hf.append (htable _ _ _ _ h₂)⟩
  · obtain ⟨found, hf⟩ := hdest he
    exact ⟨found, hf.weaken⟩

theorem along_sink {a : Sink} {l : SinkLayout} (hl : Complete a l)
    {r : Except PipelineError PendingInsert} (h : Runs (sink ctx false a l) s t r s') :
    ∃ found, Along (a.steps ctx.settings found) t r.isOk := by
  have hrest : Guided (do
      let sql := insertStatement a.name a.input (← schema a.name)
      record .submit .insert a.name sql
      return (⟨a.name, sql⟩ : PendingInsert)) [] :=
    (guided_schema _).silent fun _ => (guided_record _ _ _ _).silent fun _ => guided_pure _
  unfold sink at h
  obtain ⟨t₁, t₂, _, s₁, rfl, h₁, h₂⟩ | ⟨e, rfl, he⟩ := runs_bind_iff.mp h
  · obtain ⟨found, hf⟩ := along_provision hl h₁
    refine ⟨found, ?_⟩
    simpa using hf.append (hrest _ _ _ _ h₂)
  · exact along_provision hl he

theorem fills_of_sink {dryRun : Bool} {a : Sink} {l : SinkLayout} {i : PendingInsert}
    (h : Runs (sink ctx dryRun a l) s t (.ok i) s') : Fills a i := by
  rw [(of_sink h).insert]
  exact ⟨rfl, l.columns, rfl⟩

theorem along_sinks {sinks : List Sink} {layouts : List SinkLayout}
    (hl : List.Forall₂ Complete sinks layouts) {r : Except PipelineError (List PendingInsert)}
    (h : Runs ((sinks.zip layouts).mapM fun e => sink ctx false e.1 e.2) s t r s') :
    ∃ found : List Bool, found.length = sinks.length ∧
      Along ((sinks.zip found).flatMap fun e => e.1.steps ctx.settings e.2) t r.isOk := by
  induction hl generalizing s t r s' with
  | nil =>
    obtain ⟨rfl, rfl, -⟩ := runs_pure_iff.mp h
    exact ⟨[], rfl, .finished⟩
  | @cons a l sinks layouts ha _ ih =>
    rw [List.zip_cons_cons, List.mapM_cons] at h
    obtain ⟨t₁, t₂, i, s₁, rfl, h₁, h₂⟩ | ⟨e, rfl, he⟩ := runs_bind_iff.mp h
    · obtain ⟨first, hf⟩ := along_sink ha h₁
      have hrest {q}
          (h : Runs ((sinks.zip layouts).mapM fun e => sink ctx false e.1 e.2) s₁ t₂ q s') :
          ∃ found : List Bool, found.length = (a :: sinks).length ∧
            Along (((a :: sinks).zip found).flatMap fun e => e.1.steps ctx.settings e.2)
              (t₁ ++ t₂) q.isOk := by
        obtain ⟨found, hl, hr⟩ := ih h
        exact ⟨first :: found, by simp [hl], hf.append hr⟩
      obtain ⟨u₁, u₂, is, s₂, rfl, h₃, h₄⟩ | ⟨e, rfl, he⟩ := runs_bind_iff.mp h₂
      · obtain ⟨rfl, rfl, rfl⟩ := runs_pure_iff.mp h₄
        rw [List.append_nil] at hrest ⊢
        have hok := hrest h₃
        exact hok
      · exact hrest he
    · obtain ⟨first, hf⟩ := along_sink ha he
      exact ⟨first :: List.replicate sinks.length true, by simp, hf.weaken⟩

/-- Every run of a compilation goes along its phases. -/
theorem along_compile (hp : p.prepare = .ok prepared)
    {r : Except PipelineError (List PendingInsert)}
    (h : Runs (compile ctx false prepared) s t r s') :
    ∃ found : List Bool, found.length = p.sinks.length ∧
      Along (prepared.compileSteps ctx found) t r.isOk := by
  have hviews : Guided (do
      session ctx p
      p.sources.forM (source ctx)
      (p.transforms.zip prepared.queries).forM fun e => transform e.1.name e.2
      p.sinks.mapM layout)
      (p.sessionSteps ctx.settings ++ (p.sources.flatMap (Source.steps ctx)
        ++ (p.transforms.zip prepared.queries).flatMap fun e => transformSteps e.1.name e.2)) := by
    refine guided_session.bind fun _ => ?_
    refine (guided_forM guided_source).bind fun _ => ?_
    have ht := (guided_forM (l := p.transforms.zip prepared.queries)
      fun e => guided_transform e.1.name e.2).bind fun _ => guided_mapM guided_layout (l := p.sinks)
    rwa [List.append_nil] at ht
  have hc : Runs ((do
      session ctx p
      p.sources.forM (source ctx)
      (p.transforms.zip prepared.queries).forM fun e => transform e.1.name e.2
      p.sinks.mapM layout) >>= fun layouts =>
        (p.sinks.zip layouts).mapM fun e => sink ctx false e.1 e.2) s t r s' := by
    rw [compile_eq hp] at h
    simpa only [bind_assoc] using h
  have hsteps (found : List Bool) : prepared.compileSteps ctx found =
      (p.sessionSteps ctx.settings ++ (p.sources.flatMap (Source.steps ctx)
        ++ (p.transforms.zip prepared.queries).flatMap fun e => transformSteps e.1.name e.2))
      ++ (p.sinks.zip found).flatMap fun e => e.1.steps ctx.settings e.2 := by
    unfold Prepared.compileSteps
    rw [(Pipeline.of_prepare hp).1]
    simp only [List.append_assoc]
  obtain ⟨t₁, t₂, layouts, s₁, rfl, h₁, h₂⟩ | ⟨e, rfl, he⟩ := runs_bind_iff.mp hc
  · obtain ⟨_, _, _, _, -, -, hv⟩ := runs_bind_ok_iff.mp h₁
    obtain ⟨_, _, _, _, -, -, hv⟩ := runs_bind_ok_iff.mp hv
    obtain ⟨_, _, _, _, -, -, hv⟩ := runs_bind_ok_iff.mp hv
    obtain ⟨found, hl, hf⟩ := along_sinks (complete_of_layouts hv) h₂
    refine ⟨found, hl, ?_⟩
    rw [hsteps]
    exact (hviews _ _ _ _ h₁).append hf
  · refine ⟨List.replicate p.sinks.length true, by simp, ?_⟩
    rw [hsteps]
    exact (hviews _ _ _ _ he).weaken

theorem fills_of_compile {dryRun : Bool} {inserts : List PendingInsert}
    (hp : p.prepare = .ok prepared) (h : Runs (compile ctx dryRun prepared) s t (.ok inserts) s') :
    List.Forall₂ Fills p.sinks inserts := by
  rw [compile_eq hp] at h
  obtain ⟨_, _, _, _, rfl, -, h⟩ := runs_bind_ok_iff.mp h
  obtain ⟨_, _, _, _, rfl, -, h⟩ := runs_bind_ok_iff.mp h
  obtain ⟨_, _, _, _, rfl, -, h⟩ := runs_bind_ok_iff.mp h
  obtain ⟨_, _, layouts, _, rfl, hl, h⟩ := runs_bind_ok_iff.mp h
  have hlen : p.sinks.length = layouts.length :=
    ((runs_mapM_ok_iff.mp hl).forall₂ (R := fun _ _ => True) fun _ _ _ _ _ _ => trivial).length_eq
  have hf := (runs_mapM_ok_iff.mp h).forall₂ (R := fun e i => Fills e.1 i)
    fun _ _ _ _ _ hi => fills_of_sink hi
  rwa [← List.forall₂_map_left_iff (f := Prod.fst), List.map_fst_zip (by omega)] at hf

/-! ### Submission -/

theorem guided_submitAll {sinks : List Sink} {inserts : List PendingInsert}
    (hf : List.Forall₂ Fills sinks inserts) (index : Nat) :
    Guided (submitAll index inserts) (sinks.map .submission) := by
  induction hf generalizing index with
  | nil => exact guided_pure _
  | @cons a i sinks inserts ha _ ih =>
    obtain ⟨-, columns, hsql⟩ := ha
    unfold submitAll
    refine guided_ask ?_ ?_ fun x _ => (guided_orThrow _ _).silent fun handle => ?_
    · rw [hsql]
      exact .submission a columns
    · rintro x ⟨e, rfl⟩
      exact ⟨_, rfl⟩
    · have := (ih (index + 1)).bind fun rest => guided_pure (⟨index, handle⟩ :: rest)
      rwa [List.append_nil] at this

theorem guided_acceptAll (pending : List PendingJob) (accepted : List (Nat × JobId)) :
    Guided (acceptAll pending.length pending accepted)
      (List.replicate pending.length .acceptance) := by
  generalize hn : pending.length = n
  induction n generalizing pending accepted with
  | zero => exact guided_pure _
  | succ n ih =>
    cases pending with
    | nil => cases hn
    | cons first rest =>
      unfold acceptAll
      rw [List.replicate_succ]
      refine guided_ask_of (fun s => { s with handles := s.handles.ended })
        (.acceptance first rest) ?_ fun d _ =>
          (guided_count _).silent fun _ => (guided_orThrow _ _).silent fun job => ?_
      · rintro d ⟨e, he⟩
        dsimp only
        rw [he]
        exact (failsAtOnce_throw _).count_bind _
      · refine ih _ _ ?_
        rw [List.length_eraseIdx_of_lt d.place.isLt, hn]
        rfl

/-- Every insert was submitted, and its job was accepted. -/
def Accepted (sinks : List Sink) (t : List Call.Exchange) : Prop :=
  ∃ pending : List PendingJob, pending.map (·.index) = List.range sinks.length ∧
    List.Forall₂ (fun a j => ∃ columns,
      ⟨.submit (insertStatement a.name a.input columns), .ok j.handle⟩ ∈ t) sinks pending ∧
    ∀ j ∈ pending, ∃ first rest, ∃ d : Decision (first :: rest), ∃ job,
      ⟨.nextAccepted first rest, d⟩ ∈ t ∧ (first :: rest)[d.place] = j ∧ d.result = .ok job

theorem of_submitAll {index : Nat} {inserts : List PendingInsert} {pending : List PendingJob}
    (h : Runs (submitAll index inserts) s t (.ok pending) s') :
    pending.map (·.index) = List.range' index inserts.length ∧
      List.Forall₂ (fun i j => (⟨.submit i.sql, .ok j.handle⟩ : Call.Exchange) ∈ t)
        inserts pending := by
  induction inserts generalizing index s t pending with
  | nil =>
    obtain ⟨-, h, -⟩ := runs_pure_iff.mp h
    cases h
    exact ⟨rfl, .nil⟩
  | cons i rest ih =>
    unfold submitAll at h
    obtain ⟨e | handle, u, rfl, hu⟩ := runs_ask_bind_iff.mp h
    · obtain ⟨-, h, -⟩ := runs_throw_iff.mp hu
      cases h
    · have hu : Runs (submitAll (index + 1) rest >>= fun more => pure (⟨index, handle⟩ :: more))
          s u (.ok pending) s' := hu
      obtain ⟨u₁, u₂, more, s₁, rfl, hm, hp⟩ := runs_bind_ok_iff.mp hu
      obtain ⟨rfl, hp, rfl⟩ := runs_pure_iff.mp hp
      cases hp
      obtain ⟨hi, hf⟩ := ih hm
      refine ⟨?_, .cons (by simp) (hf.imp fun _ _ hx => by simp [hx])⟩
      rw [List.map_cons, hi, List.length_cons, List.range'_succ]

theorem of_acceptAll {pending : List PendingJob} {accepted : List (Nat × JobId)}
    {jobs : List JobId}
    (h : Runs (acceptAll pending.length pending accepted) s t (.ok jobs) s') :
    ∀ j ∈ pending, ∃ first rest, ∃ d : Decision (first :: rest), ∃ job,
      ⟨.nextAccepted first rest, d⟩ ∈ t ∧ (first :: rest)[d.place] = j ∧ d.result = .ok job := by
  generalize hn : pending.length = n at h
  induction n generalizing pending accepted s t with
  | zero => simp [List.length_eq_zero_iff.mp hn]
  | succ n ih =>
    cases pending with
    | nil => cases hn
    | cons first rest =>
      unfold acceptAll at h
      obtain ⟨⟨place, result⟩, u, rfl, hu⟩ := runs_ask_bind_iff.mp h
      have hu := runs_count_bind_iff.mp hu
      cases result with
      | error e =>
        obtain ⟨-, h, -⟩ := runs_throw_iff.mp hu
        cases h
      | ok job =>
        intro j hj
        by_cases he : (first :: rest)[place] = j
        · exact ⟨first, rest, ⟨place, .ok job⟩, job, by simp, he, rfl⟩
        · have hl : ((first :: rest).eraseIdx place).length = n := by
            rw [List.length_eraseIdx_of_lt place.isLt, hn]
            rfl
          have hr : j ∈ (first :: rest).eraseIdx place := by
            obtain ⟨i, hi⟩ := List.mem_iff_getElem?.mp hj
            refine List.mem_eraseIdx_iff_getElem?.mpr ⟨i, ?_, hi⟩
            rintro rfl
            exact he (Option.some.inj ((List.getElem?_eq_getElem place.isLt).symm.trans hi))
          obtain ⟨first', rest', d, job', hm, hd⟩ := ih hl hu j hr
          exact ⟨first', rest', d, job', by simp [hm], hd⟩

theorem guided_submit (hp : p.prepare = .ok prepared) {inserts : List PendingInsert}
    (hf : List.Forall₂ Fills p.sinks inserts) :
    Guided (submit p.name inserts) prepared.submitSteps := by
  unfold submit Prepared.submitSteps
  rw [(Pipeline.of_prepare hp).1]
  refine .holding ((guided_issue (.exactly _)).bind fun _ => ?_)
  refine (guided_submitAll hf 0).bind_of (P := fun pending => pending.length = p.sinks.length)
    (fun _ _ pending _ h => ?_) fun pending hl => ?_
  · rw [← (of_submitAll h).2.length_eq, hf.length_eq]
  · rw [← hl]
    refine (guided_count _).silent fun _ => (guided_acceptAll pending []).bind fun jobs => ?_
    refine guided_ask (.completion _ _) ?_ fun a _ => (guided_orThrow _ _).silent fun state => ?_
    · rintro a ⟨e, rfl⟩
      exact ⟨_, rfl⟩
    · split
      · exact guided_throw _ _
      · exact guided_pure _

theorem isWait_sinkSteps (settings : Settings) (a : Sink) (found : Bool) :
    ∀ step ∈ a.steps settings found, step.isWait = false := by
  obtain ⟨name, input, kind⟩ := a
  cases kind <;> cases found <;> simp [Sink.steps, SinkKind.steps, PostgresSink.steps, Step.isWait]

theorem isWait_compileSteps (found : List Bool) :
    ∀ step ∈ prepared.compileSteps ctx found, step.isWait = false := by
  intro step h
  simp only [Prepared.compileSteps, Pipeline.sessionSteps, List.mem_append, List.mem_cons,
    List.mem_map, List.mem_flatMap] at h
  rcases h with (⟨_, -, rfl⟩ | rfl | ⟨_, -, rfl⟩) | ⟨_, -, h⟩ | ⟨_, -, h⟩ | ⟨_, -, h⟩
  · rfl
  · rfl
  · rfl
  · simp only [Source.steps, List.mem_cons, List.not_mem_nil, or_false] at h
    rcases h with rfl | rfl <;> rfl
  · simp only [transformSteps, List.mem_cons, List.not_mem_nil, or_false] at h
    rcases h with rfl | rfl | rfl <;> rfl
  · exact isWait_sinkSteps _ _ _ step h

theorem Accepted.mono {sinks : List Sink} {u : List Call.Exchange} (h : Accepted sinks t)
    (hs : t ⊆ u) : Accepted sinks u := by
  obtain ⟨pending, hi, hf, ha⟩ := h
  refine ⟨pending, hi, hf.imp fun _ _ ⟨columns, hm⟩ => ⟨columns, hs hm⟩, fun j hj => ?_⟩
  obtain ⟨first, rest, d, job, hm, hd⟩ := ha j hj
  exact ⟨first, rest, d, job, hs hm, hd⟩

theorem accepted_of_wait {inserts : List PendingInsert} (hf : List.Forall₂ Fills p.sinks inserts)
    {r : Except PipelineError (List JobId × JobState)}
    (h : Runs (submit p.name inserts) s t r s') {pipeline : String} {jobs : List JobId}
    {a : Except RuntimeError JobState} (hw : ⟨.wait pipeline jobs, a⟩ ∈ t) :
    Accepted p.sinks t := by
  have hname : Guided (issue .submit .sessionConfig p.name (nameStatement p.name))
      [.exactly (.execute (nameStatement p.name))] := guided_issue (.exactly _)
  obtain ⟨_, h, -⟩ := runs_holding_iff.mp h
  obtain ⟨t₁, u, _, s₁, rfl, -, h, hw⟩ := hname.passed (by simp [Step.isWait]) h hw
  obtain ⟨t₂, u, pending, s₂, rfl, h₂, h, hw⟩ :=
    (guided_submitAll hf 0).passed (by simp [Step.isWait]) h hw
  obtain ⟨t₃, u, _, s₃, rfl, h₃, -, -⟩ :=
    (guided_acceptAll pending []).passed (by simp [Step.isWait]) (runs_count_bind_iff.mp h) hw
  obtain ⟨hi, hp⟩ := of_submitAll h₂
  refine ⟨pending, ?_, ?_, fun j hj => ?_⟩
  · rw [hi, hf.length_eq, List.range_eq_range']
  · refine forall₂_trans (fun a i j ⟨_, columns, hsql⟩ hm => ⟨columns, ?_⟩) hf hp
    rw [← hsql]
    simp [hm]
  · obtain ⟨first, rest, d, job, hm, hd⟩ := of_acceptAll h₃ j hj
    exact ⟨first, rest, d, job, by simp [hm], hd⟩

/-- The exchanges of a run in their order: they are made by a prefix of the steps, and by all of
them if the run ended well. No exchange follows a failed one, which also fails the run. The jobs are
waited for only if every insert was submitted and accepted. -/
def InPhases (ctx : Context) (prepared : Prepared) (t : List Call.Exchange) (ok : Bool) : Prop :=
  ∃ found : List Bool, found.length = prepared.pipeline.sinks.length ∧
    (∃ taken, taken <+: prepared.steps ctx found ∧ List.Forall₂ Step.Makes taken t ∧
      (ok = true → taken = prepared.steps ctx found)) ∧
    (∀ e ∈ t, Failed e → ok = false ∧
      ∃ before, t = before ++ [e] ∧ ∀ e' ∈ before, ¬ Failed e') ∧
    ∀ pipeline jobs a, ⟨.wait pipeline jobs, a⟩ ∈ t → Accepted prepared.pipeline.sinks t

/-- Whatever the collaborators answer, a run calls them in the order of its phases and stops at the
first failed call. A pipeline that cannot be prepared calls nobody. -/
theorem run_phases {r : Except PipelineError Outcome} (h : Runs (run ctx false p) s t r s') :
    (∀ e, p.prepare = .error e → t = [] ∧ r = .error e) ∧
      ∀ prepared, p.prepare = .ok prepared → InPhases ctx prepared t r.isOk := by
  unfold run at h
  constructor
  · intro e hp
    rw [hp] at h
    obtain ⟨rfl, rfl, -⟩ := runs_throw_iff.mp h
    exact ⟨rfl, rfl⟩
  · intro prepared hp
    rw [hp] at h
    have hc : Runs (compile ctx false prepared >>= fun inserts => do
        let done ← submit p.name inserts
        return .run (← get).plan done.1 done.2) s t r s' := h
    suffices hs : ∃ found : List Bool, found.length = p.sinks.length ∧
        Along (prepared.steps ctx found) t r.isOk ∧
        ∀ pipeline jobs a, ⟨.wait pipeline jobs, a⟩ ∈ t → Accepted p.sinks t by
      obtain ⟨found, hl, ha, hw⟩ := hs
      unfold InPhases
      rw [(Pipeline.of_prepare hp).1]
      exact ⟨found, hl, ha.of_prefix, fun e he hf => ha.last_of_failed he hf, hw⟩
    obtain ⟨t₁, t₂, inserts, s₁, rfl, h₁, h₂⟩ | ⟨e, rfl, he⟩ := runs_bind_iff.mp hc
    · obtain ⟨found, hl, hf⟩ := along_compile hp h₁
      have hi := fills_of_compile hp h₁
      have hg : Guided (do
          let done ← submit p.name inserts
          return Outcome.run (← get).plan done.1 done.2) (prepared.submitSteps ++ []) :=
        (guided_submit hp hi).bind fun _ => guided_get fun _ => guided_pure _
      refine ⟨found, hl, ?_, fun pipeline jobs a hw => ?_⟩
      · have ha := hf.append (hg _ _ _ _ h₂)
        rwa [List.append_nil] at ha
      · have hn := hf.not_wait (isWait_compileSteps found) pipeline jobs a
        have hw := (List.mem_append.mp hw).resolve_left hn
        obtain ⟨u₁, u₂, done, s₂, rfl, h₃, h₄⟩ | ⟨e, rfl, he⟩ := runs_bind_iff.mp h₂
        · have h₄ : Runs (pure (Outcome.run s₂.plan done.1 done.2)) s₂ u₂ r s' := h₄
          obtain ⟨rfl, -, -⟩ := runs_pure_iff.mp h₄
          rw [List.append_nil] at hw ⊢
          exact (accepted_of_wait hi h₃ hw).mono (List.subset_append_right _ _)
        · exact (accepted_of_wait hi he hw).mono (List.subset_append_right _ _)
    · obtain ⟨found, hl, hf⟩ := along_compile hp he
      exact ⟨found, hl, hf.weaken, fun _ _ _ hw =>
        absurd hw (hf.not_wait (isWait_compileSteps found) _ _ _)⟩

theorem run_phases_ordersToPostgres : ∃ prepared t r s',
    ordersToPostgres.prepare = .ok prepared ∧
    Runs (run ⟨{}, 0⟩ false ordersToPostgres) .start t r s' ∧ r.isOk = true ∧
    InPhases ⟨{}, 0⟩ prepared t r.isOk := by
  have hr : Runs (run ⟨{}, 0⟩ false ordersToPostgres) .start _ _ _ :=
    Dialogue.run_transcript obliging _ ()
  have h := (run_phases hr).2 _ rfl
  exact ⟨_, _, _, _, rfl, hr, rfl, h⟩

end Build

end StreamPipeline
