import StreamPipeline.Proofs.Compile.Outcomes
import StreamPipeline.Proofs.Compile.Twins
import StreamPipeline.Proofs.Sql.Masking

/-! # Secrets stay out of a run

The values of passwords decide nothing that a run shows. Two pipelines that differ in them alone,
with the same answers of the collaborators, lead to the same plan and the same end.
-/

namespace StreamPipeline

/-! ### Pipelines without their secrets -/

def Credentials.withoutSecrets (c : Credentials) : Credentials := { c with password := "" }

def PostgresSink.withoutSecrets (s : PostgresSink) : PostgresSink :=
  { s with credentials := s.credentials.withoutSecrets }

def StarrocksSink.withoutSecrets (s : StarrocksSink) : StarrocksSink :=
  { s with credentials := s.credentials.withoutSecrets }

/-- Whether there is a password for the truststore is no secret. -/
def KafkaSink.withoutSecrets (s : KafkaSink) : KafkaSink :=
  { s with
    truststorePassword := s.truststorePassword.map fun _ => ""
    credentials := s.credentials.withoutSecrets }

def SinkKind.withoutSecrets : SinkKind → SinkKind
  | postgres s => postgres s.withoutSecrets
  | starrocks s => starrocks s.withoutSecrets
  | print => print
  | filesystem fileName => filesystem fileName
  | kafka s => kafka s.withoutSecrets

def Sink.withoutSecrets (s : Sink) : Sink := { s with kind := s.kind.withoutSecrets }

def Pipeline.withoutSecrets (p : Pipeline) : Pipeline :=
  { p with sinks := p.sinks.map Sink.withoutSecrets }

/-! ### What is shown of a sink table -/

namespace SinkKind

variable (settings : Settings) (k : SinkKind)

theorem plainKeys_options : Sql.PlainKeys (k.options settings) := by
  refine Sql.plainKeys_of_all ?_
  cases k with
  | kafka s =>
    simp only [options, KafkaSink.options, List.map_append, List.all_append, Bool.and_eq_true,
      List.map_cons, List.map_nil]
    refine ⟨⟨⟨rfl, ?_⟩, ?_⟩, rfl⟩
    · cases s.truststoreLocation with
      | none => rfl
      | some l => simp only [Option.toList_some, List.map_cons, List.map_nil]; rfl
    · cases s.truststorePassword with
      | none => rfl
      | some p => simp only [Option.toList_some, List.map_cons, List.map_nil]; rfl
  | _ =>
    simp only [options, PostgresSink.options, StarrocksSink.options, List.map_cons, List.map_nil]
    rfl

/-- The secrets of a sink are values of secret keys. -/
theorem maskOption_options : (k.withoutSecrets.options settings).map Sql.maskOption =
    (k.options settings).map Sql.maskOption := by
  have hpassword := Sql.maskOption_secret "password" (by decide)
  have htruststore := Sql.maskOption_secret "properties.ssl.truststore.password" (by decide)
  have hlogin := Sql.maskOption_secret "properties.sasl.jaas.config" (by decide)
  cases k with
  | postgres s =>
    simp only [withoutSecrets, options, PostgresSink.options, PostgresSink.withoutSecrets,
      Credentials.withoutSecrets, List.map_cons, List.map_nil]
    rw [hpassword "" s.credentials.password]
  | starrocks s =>
    simp only [withoutSecrets, options, StarrocksSink.options, StarrocksSink.withoutSecrets,
      Credentials.withoutSecrets, List.map_cons, List.map_nil]
    rw [hpassword "" s.credentials.password]
  | print => rfl
  | filesystem fileName => rfl
  | kafka s =>
    simp only [withoutSecrets, options, KafkaSink.options, KafkaSink.withoutSecrets,
      List.map_append, List.map_cons, List.map_nil]
    rw [hlogin _ (KafkaSink.loginConfig s.credentials)]
    cases s.truststorePassword with
    | none => rfl
    | some password =>
      simp only [Option.map_some, Option.toList_some, List.map_cons, List.map_nil]
      rw [htruststore "" password]

theorem options_connector : ∃ connector more more',
    k.options settings = ("connector", connector) :: more ∧
      k.withoutSecrets.options settings = ("connector", connector) :: more' := by
  cases k <;> exact ⟨_, _, _, rfl, rfl⟩

theorem keyClause_withoutSecrets : k.withoutSecrets.keyClause = k.keyClause := by
  cases k <;> rfl

end SinkKind

/-- What is shown of a sink table does not depend on the secrets of the sink, whatever the names,
the columns and the other options are. -/
theorem redact_sinkTableStatement (settings : Settings) (sink : String) (k : SinkKind)
    (defs : List String) : Sql.redact (sinkTableStatement settings sink k.withoutSecrets defs) =
      Sql.redact (sinkTableStatement settings sink k defs) := by
  have htext (k' : SinkKind) (hk : k'.keyClause = k.keyClause) :
      sinkTableStatement settings sink k' defs = "CREATE TABLE " ++ Sql.quoteIdent sink ++ " ("
        ++ Text.join ", " (defs ++ k.keyClause) ++ ") WITH " ++ "("
        ++ Sql.renderOptions (k'.options settings) ++ ")" := by
    unfold sinkTableStatement
    have hopen : ") WITH (" = ") WITH " ++ "(" := rfl
    rw [hk, hopen]
    simp only [String.append_assoc]
  rw [htext _ k.keyClause_withoutSecrets, htext _ rfl]
  obtain ⟨connector, more, more', hk, hk'⟩ := k.options_connector settings
  have hplain := k.plainKeys_options settings
  have hplain' := k.withoutSecrets.plainKeys_options settings
  have hmask := k.maskOption_options settings
  rw [hk] at hplain hmask ⊢
  rw [hk'] at hplain' hmask ⊢
  exact Sql.redact_options hplain' hplain (by decide) (by decide) Sql.ends_bracket
    (List.cons.inj hmask).2

/-! ### Preparation -/

namespace DependencyGraph

theorem sinkEdges_withoutSecrets (views : List String) (node : Nat) (sinks : List Sink) :
    sinkEdges views node (sinks.map Sink.withoutSecrets) = sinkEdges views node sinks := by
  induction sinks generalizing node with
  | nil => rfl
  | cons a sinks ih =>
    rw [List.map_cons, sinkEdges, sinkEdges, ih]
    rfl

theorem build_withoutSecrets (p : Pipeline) (queries : List String) :
    build p.withoutSecrets queries = build p queries := by
  have hnames : p.withoutSecrets.sinkNames = p.sinkNames := by
    simp [Pipeline.sinkNames, Pipeline.withoutSecrets, Sink.withoutSecrets, Function.comp_def]
  have hentities : p.withoutSecrets.entities = p.entities := by
    simp [Pipeline.entities, Pipeline.withoutSecrets]
  unfold build
  rw [hnames, hentities]
  simp only [Pipeline.withoutSecrets, sinkEdges_withoutSecrets]
  rfl

end DependencyGraph

/-- Preparing does not look at secrets. -/
theorem Pipeline.prepare_withoutSecrets (p : Pipeline) : p.withoutSecrets.prepare =
    p.prepare.map fun x => { x with pipeline := p.withoutSecrets } := by
  unfold prepare
  rw [show p.withoutSecrets.transforms = p.transforms from rfl]
  cases renderTransforms p.transforms with
  | error e => rfl
  | ok queries =>
    have h := DependencyGraph.build_withoutSecrets p queries
    dsimp only [bind, Except.bind]
    rw [h]
    cases DependencyGraph.build p queries <;> rfl

namespace Build

variable {ctx : Context} {dryRun : Bool} {p q : Pipeline}

/-! ### Steps of a compilation -/

theorem layout_withoutSecrets (a : Sink) : layout a.withoutSecrets = layout a := by
  obtain ⟨name, input, kind⟩ := a
  cases kind <;> rfl

theorem twins_layout (a : Sink) : Twins Eq (layout a) (layout a) := by
  unfold layout
  refine (twins_schema _).bind ?_
  rintro view _ rfl
  refine (twins_computed _ _).bind ?_
  rintro defs _ rfl
  split
  · refine (twins_computed _ _).bind ?_
    rintro postgresDefs _ rfl
    exact twins_pure rfl
  · exact twins_pure rfl

theorem twins_executeIn {pg pg' : PostgresSink} {database sql : String}
    {wrap : String → PipelineError} (hw : ∀ e e', SameError (wrap e) (wrap e')) :
    Twins Eq (do orThrow wrap (← ask (.executeIn pg database sql)))
      (do orThrow wrap (← ask (.executeIn pg' database sql))) :=
  (twins_ask _ _).bind fun _ _ ha => twins_orThrow ha hw

/-- The credentials of a destination are not shown. -/
theorem twins_destination (sink : String) (pg : PostgresSink) (c : Credentials)
    (defs : List String) : Twins Eq (destination sink pg defs)
      (destination sink { pg with credentials := c } defs) := by
  have hw (sql : Option String) (e e' : String) :
      SameError (.provisioning sink sql e) (.provisioning sink sql e') := ⟨rfl, rfl, rfl⟩
  unfold destination
  refine (twins_ask _ _).bind fun a a' ha => ?_
  refine (twins_orThrow ha (hw _)).bind ?_
  rintro found _ rfl
  cases found with
  | true => exact (twins_executeIn (hw _)).bind fun _ _ _ => twins_executeIn (hw _)
  | false =>
    refine (twins_ask _ _).bind fun a a' ha => ?_
    refine (twins_orThrow ha (hw _)).bind fun _ _ _ => ?_
    exact (twins_executeIn (hw _)).bind fun _ _ _ => twins_executeIn (hw _)

theorem twins_destinationOf {a a' : Sink} (h : a.withoutSecrets = a'.withoutSecrets)
    (l : SinkLayout) : Twins Eq (destinationOf dryRun a l) (destinationOf dryRun a' l) := by
  obtain ⟨name, input, kind⟩ := a
  obtain ⟨name', input', kind'⟩ := a'
  obtain ⟨rfl, -, hk⟩ : name = name' ∧ input = input' ∧
      kind.withoutSecrets = kind'.withoutSecrets := (Sink.mk.injEq ..).mp h
  unfold destinationOf
  cases kind with
  | postgres pg =>
    cases kind' with
    | postgres pg' =>
      obtain ⟨credentials, rfl⟩ : ∃ c, pg' = { pg with credentials := c } := by
        refine ⟨pg'.credentials, ?_⟩
        have hpg := SinkKind.postgres.inj hk
        simp only [PostgresSink.withoutSecrets, PostgresSink.mk.injEq] at hpg
        cases pg'
        simp [hpg]
      cases l.postgresDefs with
      | none => exact twins_pure rfl
      | some defs =>
        cases dryRun with
        | true => exact twins_pure rfl
        | false => exact twins_destination _ _ _ _
    | _ => cases hk
  | _ =>
    cases kind' with
    | postgres pg' => cases hk
    | _ => exact twins_pure rfl

theorem twins_sink {a a' : Sink} (h : a.withoutSecrets = a'.withoutSecrets) (l : SinkLayout) :
    Twins Eq (sink ctx dryRun a l) (sink ctx dryRun a' l) := by
  have hname : a.name = a'.name := (congrArg Sink.name h :)
  have hinput : a.input = a'.input := (congrArg Sink.input h :)
  have hkind : a.kind.withoutSecrets = a'.kind.withoutSecrets := (congrArg Sink.kind h :)
  have htable := redact_sinkTableStatement ctx.settings a.name a.kind l.runtimeDefs
  rw [hkind, redact_sinkTableStatement] at htable
  unfold sink
  rw [provision_eq, provision_eq, ← hname, ← hinput]
  refine Twins.bind (R := Eq) ?_ fun _ _ _ => ?_
  · refine (twins_destinationOf h l).bind fun _ _ _ => ?_
    refine (twins_issue htable.symm _ _ _).bind fun _ _ _ => ?_
    exact twins_register _ _
  · refine (twins_schema _).bind ?_
    rintro columns _ rfl
    refine (twins_record _ _ _ _).bind fun _ _ _ => ?_
    exact twins_pure rfl

theorem twins_session (p : Pipeline) : Twins Eq (session ctx p) (session ctx p) := by
  unfold session
  refine (twins_forM (fun _ => twins_issue rfl _ _ _) _).bind fun _ _ _ => ?_
  refine (twins_issue rfl _ _ _).bind fun _ _ _ => ?_
  exact twins_forM (fun _ => twins_issue rfl _ _ _) _

theorem twins_source (a : Source) : Twins Eq (source ctx a) (source ctx a) := by
  unfold source
  refine (twins_issue rfl _ _ _).bind fun _ _ _ => ?_
  refine (twins_describe _ _ _).bind ?_
  rintro columns _ rfl
  exact twins_register _ _

theorem twins_transform (name sql : String) :
    Twins Eq (transform name sql) (transform name sql) := by
  unfold transform
  refine (twins_issue rfl _ _ _).bind fun _ _ _ => ?_
  refine (twins_describe _ _ _).bind ?_
  rintro columns _ rfl
  dsimp only
  split
  · exact twins_throw (.refl _)
  · refine (twins_issue rfl _ _ _).bind fun _ _ _ => ?_
    exact twins_register _ _

theorem forall₂_zip {α β γ : Type} {P : α → β → Prop} {l : List α} {l' : List β}
    (h : List.Forall₂ P l l') (m : List γ) :
    List.Forall₂ (fun e e' => P e.1 e'.1 ∧ e.2 = e'.2) (l.zip m) (l'.zip m) := by
  induction h generalizing m with
  | nil => exact .nil
  | cons hp _ ih =>
    cases m with
    | nil => exact .nil
    | cons c m => exact .cons ⟨hp, rfl⟩ (ih m)

theorem twins_compile (h : p.withoutSecrets = q.withoutSecrets) {x y : Prepared}
    (hp : p.prepare = .ok x) (hq : q.prepare = .ok y) (hxy : x.queries = y.queries) :
    Twins Eq (compile ctx dryRun x) (compile ctx dryRun y) := by
  have hsession : session ctx p = session ctx q := (congrArg (session ctx) h :)
  have hsources : p.sources = q.sources := (congrArg Pipeline.sources h :)
  have htransforms : p.transforms = q.transforms := (congrArg Pipeline.transforms h :)
  have hsinks : List.Forall₂ (fun a a' => a.withoutSecrets = a'.withoutSecrets)
      p.sinks q.sinks := by
    have hmap : p.sinks.map Sink.withoutSecrets = q.sinks.map Sink.withoutSecrets :=
      (congrArg Pipeline.sinks h :)
    rw [← List.forall₂_eq_eq_eq, List.forall₂_map_left_iff, List.forall₂_map_right_iff] at hmap
    exact hmap
  rw [compile_eq hp, compile_eq hq, hsession, hsources, htransforms, hxy]
  refine (twins_session q).bind fun _ _ _ => ?_
  refine (twins_forM twins_source _).bind fun _ _ _ => ?_
  refine (twins_forM (fun _ => twins_transform _ _) _).bind fun _ _ _ => ?_
  have hlayouts (a a' : Sink) (h : a.withoutSecrets = a'.withoutSecrets) :
      Twins Eq (layout a) (layout a') := by
    rw [← layout_withoutSecrets a, h, layout_withoutSecrets]
    exact twins_layout a'
  have heq {α : Type} : List.Forall₂ (Eq : α → α → Prop) = Eq := List.forall₂_eq_eq_eq
  rw [← heq]
  -- The layouts are equal, so only the sinks of the zipped lists differ.
  refine (twins_mapM hlayouts hsinks).bind fun layouts layouts' hl => ?_
  rw [heq] at hl
  subst hl
  refine twins_mapM ?_ (forall₂_zip hsinks layouts)
  rintro ⟨a, l⟩ ⟨a', l'⟩ ⟨ha, rfl⟩
  exact twins_sink ha l

/-! ### Submission -/

theorem sameError_submitFailed (statement : Option String) (e e' : RuntimeError) :
    SameError (submitFailed statement e) (submitFailed statement e') := ⟨rfl, rfl, rfl⟩

theorem twins_submitAll (index : Nat) (inserts : List PendingInsert) :
    Twins Eq (submitAll index inserts) (submitAll index inserts) := by
  induction inserts generalizing index with
  | nil => exact twins_pure rfl
  | cons i inserts ih =>
    unfold submitAll
    refine (twins_ask _ _).bind fun a a' ha => ?_
    refine (twins_orThrow ha (sameError_submitFailed _)).bind ?_
    rintro handle _ rfl
    refine (ih (index + 1)).bind ?_
    rintro pending _ rfl
    exact twins_pure rfl

theorem twins_acceptAll (n : Nat) (pending : List PendingJob) (accepted : List (Nat × JobId)) :
    Twins Eq (acceptAll n pending accepted) (acceptAll n pending accepted) := by
  induction n generalizing pending accepted with
  | zero => exact twins_pure rfl
  | succ n ih =>
    cases pending with
    | nil => exact twins_pure rfl
    | cons first rest =>
      unfold acceptAll
      refine (twins_ask (.nextAccepted first rest) (.nextAccepted first rest)).bind ?_
      rintro ⟨place, result⟩ ⟨place', result'⟩ ⟨hplace, hresult⟩
      obtain rfl : place = place' := Fin.ext hplace
      refine (twins_count _).bind fun _ _ _ => ?_
      refine (twins_orThrow hresult (sameError_submitFailed _)).bind ?_
      rintro job _ rfl
      exact ih _ _

theorem twins_submit (pipeline : String) (inserts : List PendingInsert) :
    Twins Eq (submit pipeline inserts) (submit pipeline inserts) := by
  unfold submit
  refine .holding ((twins_issue rfl _ _ _).bind fun _ _ _ => ?_)
  refine (twins_submitAll _ _).bind ?_
  rintro pending _ rfl
  refine (twins_count _).bind fun _ _ _ => ?_
  refine (twins_acceptAll _ _ _).bind ?_
  rintro jobs _ rfl
  refine (twins_ask (.wait pipeline jobs) (.wait pipeline jobs)).bind fun a a' ha => ?_
  have hfailed (e e' : RuntimeError) : SameError (.execution .execute none e.message)
      (.execution .execute none e'.message) := ⟨rfl, rfl, rfl⟩
  refine (twins_orThrow ha hfailed).bind ?_
  rintro state _ rfl
  cases state with
  | failed job reason => exact twins_throw (.refl _)
  | _ => exact twins_pure rfl

/-! ### Runs -/

theorem twins_run (h : p.withoutSecrets = q.withoutSecrets) :
    Twins Eq (run ctx dryRun p) (run ctx dryRun q) := by
  have hname : p.name = q.name := (congrArg Pipeline.name h :)
  have hprepare : p.withoutSecrets.prepare = q.withoutSecrets.prepare := by rw [h]
  rw [p.prepare_withoutSecrets, q.prepare_withoutSecrets] at hprepare
  unfold run
  cases hp : p.prepare with
  | error e =>
    cases hq : q.prepare with
    | error e' =>
      simp only [hp, hq, Except.map, Except.error.injEq] at hprepare
      subst hprepare
      exact twins_throw (.refl _)
    | ok y => simp [hp, hq, Except.map] at hprepare
  | ok x =>
    cases hq : q.prepare with
    | error e => simp [hp, hq, Except.map] at hprepare
    | ok y =>
      simp only [hp, hq, Except.map, Except.ok.injEq, Prepared.mk.injEq] at hprepare
      rw [hname]
      refine (twins_compile h hp hq hprepare.2.1).bind ?_
      rintro inserts _ rfl
      cases dryRun with
      | true =>
        refine (twins_record _ _ _ _).bind fun _ _ _ => ?_
        refine twins_get.bind ?_
        rintro s _ rfl
        exact twins_pure rfl
      | false =>
        refine (twins_submit _ _).bind ?_
        rintro ⟨jobs, state⟩ _ rfl
        refine twins_get.bind ?_
        rintro s _ rfl
        exact twins_pure rfl

/-- Two runs of pipelines that differ in their secrets alone, with the same successes and failures
of the collaborators, leave the same plan and the same views. Both end well with the same outcome,
or both fail with errors of one kind, stage and statement. -/
theorem run_hides_secrets {t t' : List Call.Exchange} {r r' : Except PipelineError Outcome}
    {s s' : BuildState} (h : p.withoutSecrets = q.withoutSecrets)
    (hp : Runs (run ctx dryRun p) .start t r s) (hq : Runs (run ctx dryRun q) .start t' r' s')
    (ht : SameAnswers t t') : SameEnd Eq r r' ∧ s = s' :=
  (twins_run h _ _ _ _ _ _ _ hp hq ht).2

theorem sameAnswers_of_respond {respond : (c : Call) → Unit → c.Answer × Unit}
    (h : ∀ c c', Call.SameAnswer c c' (respond c ()).1 (respond c' ()).1) {α β : Type}
    (d : Dialogue Call Call.Answer α) (d' : Dialogue Call Call.Answer β) :
    SameAnswers (d.transcript respond ()) (d'.transcript respond ()) := by
  intro i e e' he he'
  obtain ⟨_, ha⟩ := Dialogue.answer_of_mem_transcript (List.mem_of_getElem? he)
  obtain ⟨_, ha'⟩ := Dialogue.answer_of_mem_transcript (List.mem_of_getElem? he')
  rw [ha, ha']
  exact h _ _

/-- The pipeline of the example, with a password that looks like an option. -/
def ordersWithOtherPassword : Pipeline :=
  { ordersToPostgres with
    sinks := [⟨"copy", "orders", .postgres
      ⟨"db", 5432, ⟨"writer", "', 'password' = '"⟩, "shop", "public", "orders", ["id"]⟩⟩] }

theorem sameAnswer_obliging (c c' : Call) :
    Call.SameAnswer c c' (obliging c ()).1 (obliging c' ()).1 := by
  cases c <;> cases c' <;> first | exact trivial | exact rfl | exact ⟨rfl, rfl⟩

theorem run_hides_secrets_ordersWithOtherPassword : ∃ t t' r r' s s',
    ordersToPostgres.withoutSecrets = ordersWithOtherPassword.withoutSecrets ∧
    Runs (run ⟨{}, 0⟩ false ordersToPostgres) .start t r s ∧
    Runs (run ⟨{}, 0⟩ false ordersWithOtherPassword) .start t' r' s' ∧ SameAnswers t t' ∧
    r.isOk = true ∧ SameEnd Eq r r' ∧ s = s' := by
  have hpq : ordersToPostgres.withoutSecrets = ordersWithOtherPassword.withoutSecrets := rfl
  have hr : Runs (run ⟨{}, 0⟩ false ordersToPostgres) .start _ _ _ :=
    Dialogue.run_transcript obliging _ ()
  have hr' : Runs (run ⟨{}, 0⟩ false ordersWithOtherPassword) .start _ _ _ :=
    Dialogue.run_transcript obliging _ ()
  have ht := sameAnswers_of_respond sameAnswer_obliging
    (StateT.run (ExceptT.run (run ⟨{}, 0⟩ false ordersToPostgres)) .start)
    (StateT.run (ExceptT.run (run ⟨{}, 0⟩ false ordersWithOtherPassword)) .start)
  have h := run_hides_secrets hpq hr hr' ht
  exact ⟨_, _, _, _, _, _, hpq, hr, hr', ht, rfl, h⟩

end Build

end StreamPipeline
