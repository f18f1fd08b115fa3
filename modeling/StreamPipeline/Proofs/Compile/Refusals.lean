import StreamPipeline.Proofs.Compile.DryRun
import StreamPipeline.Proofs.Compile.Secrets
import StreamPipeline.Proofs.Draft.Entities

/-! # Messages of refusals

A message of the runtime is passed on as it is. Two pipelines that differ in their passwords alone
fail with the same error, unless the runtime refused the table of a sink. Then the errors differ
exactly if its two messages do, and a message may quote the table with its password.
-/

namespace StreamPipeline

theorem PipelineError.provisioning_message_inj {sink : String} {statement : Option String}
    {m m' : String} : (provisioning sink statement m).message =
      (provisioning sink statement m').message ↔ m = m' := by
  unfold message
  simp only [String.append_left_inj, String.append_right_inj]

/-- Servers of sinks know the passwords. The runtime sees them in its statements only. -/
def Call.withoutSecrets : Call → Call
  | databaseExists sink database => databaseExists sink.withoutSecrets database
  | createDatabase sink database => createDatabase sink.withoutSecrets database
  | executeIn sink database sql => executeIn sink.withoutSecrets database sql
  | c => c

/-- The same decision, and the same answer to calls that differ in no text. So the messages about
two statements may each quote their own. -/
def Call.SameReply (c c' : Call) (a : c.Answer) (a' : c'.Answer) : Prop :=
  Call.SameAnswer c c' a a' ∧ (c.withoutSecrets = c'.withoutSecrets → HEq a a')

/-- Corresponding calls get the same replies. -/
def SameReplies (t t' : List Call.Exchange) : Prop :=
  ∀ (i : Nat) (e e' : Call.Exchange), t[i]? = some e → t'[i]? = some e' →
    Call.SameReply e.question e'.question e.answer e'.answer

theorem SameReplies.left {t t' u u' : List Call.Exchange} (h : SameReplies (t ++ u) (t' ++ u')) :
    SameReplies t t' := by
  intro i e e' he he'
  obtain ⟨hi, -⟩ := List.getElem?_eq_some_iff.mp he
  obtain ⟨hi', -⟩ := List.getElem?_eq_some_iff.mp he'
  refine h i e e' ?_ ?_
  · rwa [List.getElem?_append_left hi]
  · rwa [List.getElem?_append_left hi']

theorem SameReplies.right {t t' u u' : List Call.Exchange} (h : SameReplies (t ++ u) (t' ++ u'))
    (hl : t.length = t'.length) : SameReplies u u' := by
  intro i e e' he he'
  refine h (t.length + i) e e' ?_ ?_
  · rwa [List.getElem?_append_right (by omega), Nat.add_sub_cancel_left]
  · rwa [hl, List.getElem?_append_right (by omega), Nat.add_sub_cancel_left]

/-- The same questions with the same replies have the same answers. -/
theorem SameReplies.answeredAlike {t t' : List Call.Exchange} (h : SameReplies t t') :
    Dialogue.AnsweredAlike t t' := by
  rintro v q a a' u u' rfl rfl
  have hr := h v.length ⟨q, a⟩ ⟨q, a'⟩ (by simp) (by simp)
  exact eq_of_heq (hr.2 rfl)

theorem PostgresSink.exists_credentials {pg pg' : PostgresSink}
    (h : pg.withoutSecrets = pg'.withoutSecrets) :
    ∃ c : Credentials, pg' = { pg with credentials := c } := by
  obtain ⟨host, port, credentials, database, schema, table, key⟩ := pg
  obtain ⟨host', port', credentials', database', schema', table', key'⟩ := pg'
  simp only [PostgresSink.withoutSecrets, PostgresSink.mk.injEq] at h
  obtain ⟨rfl, rfl, -, rfl, rfl, rfl, rfl⟩ := h
  exact ⟨credentials', rfl⟩

namespace Build

/-- Both runs end when the runtime refuses a statement of `T`, with the same error but for the
messages `x` and `x'` of the runtime. -/
def Refused {α : Type} (T : String → String → String → Prop) (t t' : List Call.Exchange)
    (r r' : Except PipelineError α) (x x' : RuntimeError) : Prop :=
  ∃ target sql sql', T target sql sql' ∧
    [⟨.execute sql, .error x⟩] <:+ t ∧ [⟨.execute sql', .error x'⟩] <:+ t' ∧
    r = .error (.provisioning target (some (Sql.redact sql)) x.message) ∧
    r' = .error (.provisioning target (some (Sql.redact sql)) x'.message)

/-- From one state and with the same replies, the steps ask equally often and leave the same state.
They end the same way, unless a statement of `T` is refused. -/
def Alike {α : Type} (T : String → String → String → Prop) (b b' : Build α) : Prop :=
  ∀ s t r s₁ t' r' s₁', Runs b s t r s₁ → Runs b' s t' r' s₁' → SameReplies t t' →
    t.length = t'.length ∧ s₁ = s₁' ∧ (r = r' ∨ ∃ x x', Refused T t t' r r' x x')

variable {α β : Type} {T : String → String → String → Prop} {b b' : Build α}
  {f f' : α → Build β} {ctx : Context} {dryRun : Bool} {p q : Pipeline}

/-! ### Rules -/

/-- One step with the same replies has one run. -/
theorem alike_refl (b : Build α) : Alike T b b := by
  intro s t r s₁ t' r' s₁' h h' ht
  obtain ⟨rfl, he⟩ := Dialogue.Run.eq_of_answeredAlike h h' ht.answeredAlike
  obtain ⟨rfl, rfl⟩ := Prod.mk.inj he
  exact ⟨rfl, rfl, .inl rfl⟩

theorem Refused.after {r r' : Except PipelineError α} {t t' : List Call.Exchange}
    {x x' : RuntimeError} (h : Refused T t t' r r' x x') (u u' : List Call.Exchange) :
    Refused T (u ++ t) (u' ++ t') r r' x x' := by
  obtain ⟨target, sql, sql', hT, hs, hs', hr, hr'⟩ := h
  refine ⟨target, sql, sql', hT, ?_, ?_, hr, hr'⟩
  · exact hs.trans (List.suffix_append u t)
  · exact hs'.trans (List.suffix_append u' t')

theorem Refused.through {r r' : Except PipelineError α} {t t' : List Call.Exchange}
    {x x' : RuntimeError} (h : Refused T t t' r r' x x') : ∃ e e', r = .error e ∧ r' = .error e' ∧
      Refused T t t' (.error e : Except PipelineError β) (.error e') x x' := by
  obtain ⟨target, sql, sql', hT, hs, hs', rfl, rfl⟩ := h
  exact ⟨_, _, rfl, rfl, target, sql, sql', hT, hs, hs', rfl, rfl⟩

theorem Alike.bind (hb : Alike T b b') (hf : ∀ a, Alike T (f a) (f' a)) :
    Alike T (b >>= f) (b' >>= f') := by
  intro s t r s₁ t' r' s₁' hr hr' ht
  obtain ⟨t₁, t₂, a, u, rfl, h₁, h₂⟩ | ⟨e, rfl, he⟩ := runs_bind_iff.mp hr <;>
    obtain ⟨t₁', t₂', a', u', rfl, h₁', h₂'⟩ | ⟨e', rfl, he'⟩ := runs_bind_iff.mp hr'
  · obtain ⟨hl, rfl, ha | ⟨x, x', hx⟩⟩ := hb _ _ _ _ _ _ _ h₁ h₁' ht.left
    · obtain rfl := Except.ok.inj ha
      obtain ⟨hl', hs, hend⟩ := hf a _ _ _ _ _ _ _ h₂ h₂' (ht.right hl)
      refine ⟨by rw [List.length_append, List.length_append, hl, hl'], hs, ?_⟩
      exact hend.imp_right fun ⟨x, x', hx⟩ => ⟨x, x', hx.after _ _⟩
    · obtain ⟨_, _, hc, -⟩ := hx.through (β := β)
      cases hc
  · rw [← List.append_nil t'] at ht
    obtain ⟨-, -, hc | ⟨_, _, hx⟩⟩ := hb _ _ _ _ _ _ _ h₁ he' ht.left
    · cases hc
    · obtain ⟨_, _, hc, -⟩ := hx.through (β := β)
      cases hc
  · rw [← List.append_nil t] at ht
    obtain ⟨-, -, hc | ⟨_, _, hx⟩⟩ := hb _ _ _ _ _ _ _ he h₁' ht.left
    · cases hc
    · obtain ⟨_, _, -, hc, -⟩ := hx.through (β := β)
      cases hc
  · obtain ⟨hl, hs, hc | ⟨x, x', hx⟩⟩ := hb _ _ _ _ _ _ _ he he' ht
    · cases hc
      exact ⟨hl, hs, .inl rfl⟩
    · obtain ⟨_, _, hc, hc', hx'⟩ := hx.through (β := β)
      cases hc
      cases hc'
      exact ⟨hl, hs, .inr ⟨x, x', hx'⟩⟩

/-- Calls that differ in the passwords of a server alone get the same answer. -/
theorem alike_ask_bind {c c' : Call} (h : c.withoutSecrets = c'.withoutSecrets)
    {g : c.Answer → Build α} {g' : c'.Answer → Build α}
    (hg : ∀ a a', HEq a a' → Alike T (g a) (g' a')) : Alike T (ask c >>= g) (ask c' >>= g') := by
  intro s t r s₁ t' r' s₁' hr hr' ht
  obtain ⟨a, u, rfl, hu⟩ := runs_ask_bind_iff.mp hr
  obtain ⟨a', u', rfl, hu'⟩ := runs_ask_bind_iff.mp hr'
  have ha : HEq a a' := (ht 0 _ _ rfl rfl).2 h
  have hcons : SameReplies ([⟨c, a⟩] ++ u) ([⟨c', a'⟩] ++ u') := ht
  have hrest : SameReplies u u' := hcons.right rfl
  obtain ⟨hl, hs, hend⟩ := hg a a' ha _ _ _ _ _ _ _ hu hu' hrest
  refine ⟨by rw [List.length_cons, List.length_cons, hl], hs, ?_⟩
  exact hend.imp_right fun ⟨x, x', hx⟩ => ⟨x, x', hx.after [_] [_]⟩

theorem alike_mapM {γ : Type} {P : α → γ → Prop} {g : γ → Build β}
    {l : List α} {m : List γ} (h : List.Forall₂ P l m)
    (hf : ∀ a ∈ l, ∀ c ∈ m, P a c → Alike T (f a) (g c)) : Alike T (l.mapM f) (m.mapM g) := by
  induction h with
  | nil => exact alike_refl _
  | cons ha _ ih =>
    rw [List.mapM_cons, List.mapM_cons]
    refine (hf _ List.mem_cons_self _ List.mem_cons_self ha).bind fun b => ?_
    refine (ih fun a ha c hc => ?_).bind fun bs => alike_refl _
    exact hf a (List.mem_cons_of_mem _ ha) c (List.mem_cons_of_mem _ hc)

/-- Statements that are shown alike are accepted alike or refused with a message each. -/
theorem alike_issue {target sql sql' : String} (h : Sql.redact sql = Sql.redact sql')
    (hT : T target sql sql') (kind : StatementKind) :
    Alike T (issue .sink kind target sql) (issue .sink kind target sql') := by
  intro s t r s₁ t' r' s₁' hr hr' ht
  obtain ⟨rfl, rfl, rfl⟩ | ⟨x, rfl, rfl, rfl⟩ := runs_issue_iff.mp hr <;>
    obtain ⟨rfl, rfl, rfl⟩ | ⟨x', rfl, rfl, rfl⟩ := runs_issue_iff.mp hr'
  · exact ⟨rfl, by rw [h], .inl rfl⟩
  · cases (ht 0 _ _ rfl rfl).1
  · cases (ht 0 _ _ rfl rfl).1
  · refine ⟨rfl, rfl, .inr ⟨x, x', target, sql, sql', hT, ?_, ?_, rfl, ?_⟩⟩
    · exact List.suffix_refl _
    · exact List.suffix_refl _
    · rw [h]
      rfl

/-! ### Sinks -/

theorem alike_destination {sink : String} {pg pg' : PostgresSink}
    (h : pg.withoutSecrets = pg'.withoutSecrets) (defs : List String) :
    Alike T (destination sink pg defs) (destination sink pg' defs) := by
  obtain ⟨c, rfl⟩ := PostgresSink.exists_credentials h
  have hexecute (wrap : String → PipelineError) (sql : String) :
      Alike T (do orThrow wrap (← ask (.executeIn pg pg.database sql)))
        (do orThrow wrap (← ask (.executeIn { pg with credentials := c } pg.database sql))) := by
    refine alike_ask_bind (by simp only [Call.withoutSecrets, h]) fun a a' ha => ?_
    obtain rfl : a = a' := eq_of_heq (α := Except String Unit) ha
    exact alike_refl _
  unfold destination
  refine alike_ask_bind (by simp only [Call.withoutSecrets, h]) fun a a' ha => ?_
  obtain rfl : a = a' := eq_of_heq (α := Except String Bool) ha
  refine (alike_refl _).bind fun found => ?_
  cases found with
  | true => exact (hexecute _ _).bind fun _ => hexecute _ _
  | false =>
    refine alike_ask_bind (by simp only [Call.withoutSecrets, h]) fun a a' ha => ?_
    obtain rfl : a = a' := eq_of_heq (α := Except String Unit) ha
    refine (alike_refl _).bind fun _ => ?_
    exact (hexecute _ _).bind fun _ => hexecute _ _

theorem alike_destinationOf {a a' : Sink} (h : a.withoutSecrets = a'.withoutSecrets)
    (l : SinkLayout) : Alike T (destinationOf dryRun a l) (destinationOf dryRun a' l) := by
  obtain ⟨name, input, kind⟩ := a
  obtain ⟨name', input', kind'⟩ := a'
  obtain ⟨rfl, -, hk⟩ : name = name' ∧ input = input' ∧
      kind.withoutSecrets = kind'.withoutSecrets := (Sink.mk.injEq ..).mp h
  unfold destinationOf
  cases kind with
  | postgres pg =>
    cases kind' with
    | postgres pg' =>
      have hpg : pg.withoutSecrets = pg'.withoutSecrets := SinkKind.postgres.inj hk
      cases l.postgresDefs with
      | none => exact alike_refl (pure ())
      | some defs =>
        cases dryRun with
        | true => exact alike_refl (pure ())
        | false => exact alike_destination hpg defs
    | _ => cases hk
  | _ =>
    cases kind' with
    | postgres pg' => cases hk
    | _ => exact alike_refl (pure ())

/-- The tables of two sinks that differ in their passwords alone. -/
inductive SecretTables (ctx : Context) (p q : Pipeline) : String → String → String → Prop where
  | table {a a' : Sink} (defs : List String) : a ∈ p.sinks → a' ∈ q.sinks →
      a.withoutSecrets = a'.withoutSecrets →
      SecretTables ctx p q a.name (sinkTableStatement ctx.settings a.name a.kind defs)
        (sinkTableStatement ctx.settings a'.name a'.kind defs)

theorem alike_sink {a a' : Sink} (ha : a ∈ p.sinks) (ha' : a' ∈ q.sinks)
    (h : a.withoutSecrets = a'.withoutSecrets) (l : SinkLayout) :
    Alike (SecretTables ctx p q) (sink ctx dryRun a l) (sink ctx dryRun a' l) := by
  have hname : a.name = a'.name := (congrArg Sink.name h :)
  have hinput : a.input = a'.input := (congrArg Sink.input h :)
  have hkind : a.kind.withoutSecrets = a'.kind.withoutSecrets := (congrArg Sink.kind h :)
  have htable := redact_sinkTableStatement ctx.settings a.name a.kind l.runtimeDefs
  rw [hkind, redact_sinkTableStatement] at htable
  have htables : SecretTables ctx p q a.name
      (sinkTableStatement ctx.settings a.name a.kind l.runtimeDefs)
      (sinkTableStatement ctx.settings a'.name a'.kind l.runtimeDefs) := .table _ ha ha' h
  unfold sink
  rw [provision_eq, provision_eq]
  rw [← hname] at htables ⊢
  rw [← hinput]
  refine Alike.bind ?_ fun _ => alike_refl _
  refine (alike_destinationOf h l).bind fun _ => ?_
  exact (alike_issue htable.symm htables _).bind fun _ => alike_refl _

/-! ### Whole runs -/

theorem alike_compile (h : p.withoutSecrets = q.withoutSecrets) {x y : Prepared}
    (hp : p.prepare = .ok x) (hq : q.prepare = .ok y) (hxy : x.queries = y.queries) :
    Alike (SecretTables ctx p q) (compile ctx dryRun x) (compile ctx dryRun y) := by
  have hsession : session ctx p = session ctx q := (congrArg (session ctx) h :)
  have hsources : p.sources = q.sources := (congrArg Pipeline.sources h :)
  have htransforms : p.transforms = q.transforms := (congrArg Pipeline.transforms h :)
  have hsinks : List.Forall₂ (fun a a' => a.withoutSecrets = a'.withoutSecrets)
      p.sinks q.sinks := by
    have hmap : p.sinks.map Sink.withoutSecrets = q.sinks.map Sink.withoutSecrets :=
      (congrArg Pipeline.sinks h :)
    rw [← List.forall₂_eq_eq_eq, List.forall₂_map_left_iff, List.forall₂_map_right_iff] at hmap
    exact hmap
  rw [compile_eq hp, compile_eq hq, hsession, hsources, htransforms, hxy]
  refine (alike_refl _).bind fun _ => ?_
  refine (alike_refl _).bind fun _ => ?_
  refine (alike_refl _).bind fun _ => ?_
  refine (alike_mapM hsinks fun a _ a' _ h => ?_).bind fun layouts => ?_
  · rw [← layout_withoutSecrets a, h, layout_withoutSecrets]
    exact alike_refl _
  · refine alike_mapM (forall₂_zip hsinks layouts) ?_
    rintro ⟨a, l⟩ ha ⟨a', l'⟩ ha' ⟨h, rfl⟩
    exact alike_sink (List.of_mem_zip ha).1 (List.of_mem_zip ha').1 h l

theorem alike_run (h : p.withoutSecrets = q.withoutSecrets) :
    Alike (SecretTables ctx p q) (run ctx dryRun p) (run ctx dryRun q) := by
  have hname : p.name = q.name := (congrArg Pipeline.name h :)
  have hprepare : p.withoutSecrets.prepare = q.withoutSecrets.prepare := by rw [h]
  rw [p.prepare_withoutSecrets, q.prepare_withoutSecrets] at hprepare
  cases hp : p.prepare with
  | error e =>
    cases hq : q.prepare with
    | error e' =>
      simp only [hp, hq, Except.map, Except.error.injEq] at hprepare
      rw [run_of_prepare_error hp, run_of_prepare_error hq, hprepare]
      exact alike_refl _
    | ok y => simp [hp, hq, Except.map] at hprepare
  | ok x =>
    cases hq : q.prepare with
    | error e => simp [hp, hq, Except.map] at hprepare
    | ok y =>
      simp only [hp, hq, Except.map, Except.ok.injEq, Prepared.mk.injEq] at hprepare
      rw [run_eq_conclusion hp, run_eq_conclusion hq, hname]
      exact (alike_compile h hp hq hprepare.2.1).bind fun inserts => alike_refl _

/-- The errors of a refused table have the same text exactly if its messages do. -/
theorem Refused.text_iff {r r' : Except PipelineError α} {t t' : List Call.Exchange}
    {x x' : RuntimeError} (h : Refused T t t' r r' x x') :
    r.mapError PipelineError.message = r'.mapError PipelineError.message ↔
      x.message = x'.message := by
  obtain ⟨target, sql, sql', -, -, -, rfl, rfl⟩ := h
  simp only [Except.mapError, Except.error.injEq, PipelineError.provisioning_message_inj]

/-- Two pipelines that differ in their secrets alone, with the same decisions of the collaborators,
leave the same plan and the same views. They end with the same outcome or the same error, unless
both end when the runtime refuses the table of a sink, and then the errors differ in the message of
the runtime alone. So an error text tells the secrets apart exactly if these messages do. -/
theorem run_error_texts {t t' : List Call.Exchange} {r r' : Except PipelineError Outcome}
    {s s' : BuildState} (h : p.withoutSecrets = q.withoutSecrets)
    (hp : Runs (run ctx dryRun p) .start t r s) (hq : Runs (run ctx dryRun q) .start t' r' s')
    (ht : SameReplies t t') :
    s = s' ∧ (r = r' ∨ ∃ x x', Refused (SecretTables ctx p q) t t' r r' x x') ∧
      (r.mapError PipelineError.message = r'.mapError PipelineError.message ↔
        ∀ x x', Refused (SecretTables ctx p q) t t' r r' x x' → x.message = x'.message) := by
  obtain ⟨-, hs, hend⟩ := alike_run h _ _ _ _ _ _ _ hp hq ht
  refine ⟨hs, hend, ?_, ?_⟩
  · intro hm x x' hx
    exact hx.text_iff.mp hm
  · intro hall
    obtain rfl | ⟨x, x', hx⟩ := hend
    · rfl
    · exact hx.text_iff.mpr (hall x x' hx)

/-! ### An example -/

/-- Collaborators that do what they are asked until the runtime refuses the statement that comes
after `n` other calls, and quotes it. -/
def quoting (n : Nat) : (c : Call) → Nat → c.Answer × Nat
  | .execute sql, k => (if k = n then .error (.rejected ("cannot run " ++ sql)) else .ok (), k + 1)
  | c, k => ((obliging c ()).1, k + 1)

theorem sameReply_quoting (n k : Nat) (c c' : Call) :
    Call.SameReply c c' (quoting n c k).1 (quoting n c' k).1 ∧
      (quoting n c k).2 = (quoting n c' k).2 := by
  have hexecute (sql sql' : String) : Call.SameReply (.execute sql) (.execute sql')
      (quoting n (.execute sql) k).1 (quoting n (.execute sql') k).1 := by
    constructor
    · show SameSuccess (if k = n then Except.error _ else .ok ())
        (if k = n then Except.error _ else .ok ())
      split
      · rfl
      · rfl
    · intro h
      cases h
      exact .rfl
  have hnext (first first' : PendingJob) (rest rest' : List PendingJob) :
      Call.SameReply (.nextAccepted first rest) (.nextAccepted first' rest')
        (quoting n (.nextAccepted first rest) k).1
        (quoting n (.nextAccepted first' rest') k).1 := by
    refine ⟨⟨rfl, rfl⟩, fun h => ?_⟩
    cases h
    exact .rfl
  cases c <;> cases c' <;> refine ⟨?_, rfl⟩ <;>
    first
      | exact hexecute _ _
      | exact hnext _ _ _ _
      | exact ⟨rfl, fun _ => .rfl⟩
      | exact ⟨trivial, nofun⟩

theorem sameReplies_of_quoting (n k : Nat) {α β : Type} (d : Dialogue Call Call.Answer α)
    (d' : Dialogue Call Call.Answer β) :
    SameReplies (d.transcript (quoting n) k) (d'.transcript (quoting n) k) := by
  induction d generalizing d' k with
  | done a => intro i e e' he _; cases he
  | ask c next ih =>
    cases d' with
    | done b => intro i e e' _ he'; cases he'
    | ask c' next' =>
      intro i e e' he he'
      obtain ⟨hreply, hstate⟩ := sameReply_quoting n k c c'
      cases i with
      | zero =>
        cases he
        cases he'
        exact hreply
      | succ i =>
        have h := ih (quoting n c k).1 (quoting n c k).2 (next' (quoting n c' k).1)
        rw [hstate] at h
        exact h i e e' (hstate ▸ he) he'

theorem run_error_texts_quoted : ∃ t t' r r' s s',
    ordersToPostgres.withoutSecrets = ordersWithOtherPassword.withoutSecrets ∧
    Runs (run ⟨{}, 0⟩ false ordersToPostgres) .start t r s ∧
    Runs (run ⟨{}, 0⟩ false ordersWithOtherPassword) .start t' r' s' ∧ SameReplies t t' ∧
    r.isOk = false ∧ s = s' ∧ (r = r' ∨ ∃ x x', Refused
      (SecretTables ⟨{}, 0⟩ ordersToPostgres ordersWithOtherPassword) t t' r r' x x') := by
  have hpq : ordersToPostgres.withoutSecrets = ordersWithOtherPassword.withoutSecrets := rfl
  have hr : Runs (run ⟨{}, 0⟩ false ordersToPostgres) .start _ _ _ :=
    Dialogue.run_transcript (quoting 21) _ 0
  have hr' : Runs (run ⟨{}, 0⟩ false ordersWithOtherPassword) .start _ _ _ :=
    Dialogue.run_transcript (quoting 21) _ 0
  have ht := sameReplies_of_quoting 21 0
    (StateT.run (ExceptT.run (run ⟨{}, 0⟩ false ordersToPostgres)) .start)
    (StateT.run (ExceptT.run (run ⟨{}, 0⟩ false ordersWithOtherPassword)) .start)
  have h := run_error_texts hpq hr hr' ht
  exact ⟨_, _, _, _, _, _, hpq, hr, hr', ht, rfl, h.1, h.2.1⟩

/-- The documents of the two pipelines. -/
def ordersDraft (password : String) : Draft where
  name := some "orders"
  specVersion := some (.text "1")
  parallelism := some (.int 1)
  checkpointDir := some "file:///checkpoints"
  savepointDir := some "file:///savepoints"
  sources := [{ name := some "orders", tag := some "dataset", dataset := some "shop.orders" }]
  sinks := [
    { name := some "copy", tag := some "postgres", input := some "orders"
      database := some "shop", schema := some "public", table := some "orders"
      primaryKey := some (.one "id")
      config := some {
        host := some "db", username := some (.text "writer"), password := some (.text password) } }]

/-- The table that a refusal quotes shows the password in the text of the error. -/
theorem error_text_with_password : ¬ ∀ (ctx : Context) (dryRun : Bool) (d d' : Draft)
    (p q : Pipeline) (t t' : List Call.Exchange) (r r' : Except PipelineError Outcome)
    (s s' : BuildState), d.validate = .ok p → d'.validate = .ok q →
    p.withoutSecrets = q.withoutSecrets → Runs (run ctx dryRun p) .start t r s →
    Runs (run ctx dryRun q) .start t' r' s' → SameReplies t t' →
    r.mapError PipelineError.message = r'.mapError PipelineError.message := by
  intro h
  let b := StateT.run (ExceptT.run (run ⟨{}, 0⟩ false ordersToPostgres)) .start
  let b' := StateT.run (ExceptT.run (run ⟨{}, 0⟩ false ordersWithOtherPassword)) .start
  obtain ⟨m, m', s, s', ha, ha', hne⟩ : ∃ m m' s s',
      (b.answer (quoting 21) 0).1 = (.error m, s) ∧
        (b'.answer (quoting 21) 0).1 = (.error m', s') ∧ m.message ≠ m'.message :=
    ⟨_, _, _, _, rfl, rfl, by decide +kernel⟩
  have hr : Dialogue.Run b _ _ := Dialogue.run_transcript (quoting 21) b 0
  have hr' : Dialogue.Run b' _ _ := Dialogue.run_transcript (quoting 21) b' 0
  rw [ha] at hr
  rw [ha'] at hr'
  have hm := h ⟨{}, 0⟩ false (ordersDraft "secret") (ordersDraft "', 'password' = '") _ _ _ _ _ _
    _ _ rfl rfl rfl hr hr' (sameReplies_of_quoting 21 0 b b')
  exact hne (Except.error.inj hm)

end Build

end StreamPipeline
