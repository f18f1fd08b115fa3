import StreamPipeline.Proofs.Compile.Acceptance
import StreamPipeline.Proofs.Compile.Calls
import StreamPipeline.Proofs.Compile.Outline

/-! # The plan and what was executed

At every point of a run the plan shows what the runtime has executed, and one insert for each sink
that is provisioned. A statement that was refused is not in it, and neither is what comes after it.
-/

namespace StreamPipeline

def Call.submitted? : Call → Option String
  | .submit sql => some sql
  | _ => none

/-- The inserts that were submitted, whatever the answers. -/
def submitted (t : List Call.Exchange) : List String := t.filterMap (·.question.submitted?)

theorem submitted_append (t u : List Call.Exchange) :
    submitted (t ++ u) = submitted t ++ submitted u := List.filterMap_append

/-- An insert as the plan shows it. -/
def PendingInsert.statement (i : PendingInsert) : Statement := ⟨.submit, .insert, i.sink, i.sql⟩

/-- The sinks that are provisioned so far. Each is registered once it is, behind all views. -/
def BuildState.provisioned (p : Pipeline) (s : BuildState) : List Sink :=
  p.sinks.take (s.registry.names.length - p.viewNames.length)

namespace Build

/-- The insert that fills a provisioned sink. It selects the columns of the sink, and the runtime
has created the table of the sink. -/
structure Entered (ctx : Context) (t : List Call.Exchange) (registry : ViewRegistry) (a : Sink)
    (i : PendingInsert) : Prop where
  insert : ∃ columns, registry.get? a.name = some columns ∧
    i = ⟨a.name, insertStatement a.name a.input columns⟩
  table : ∃ defs, sinkTableStatement ctx.settings a.name a.kind defs ∈ accepted t

/-- What the state shows of a pipeline after the exchanges `t`: the statements that the runtime has
executed, with their secrets masked, and the inserts into the sinks that are provisioned so far.
Only these are submitted, in their order. -/
structure Logged (ctx : Context) (p : Pipeline) (t : List Call.Exchange) (s : BuildState)
    (pending : List PendingInsert) : Prop where
  executed : s.executed = (accepted t).map Sql.redact
  registered : s.registry.names <+: p.viewNames ++ p.sinkNames
  inserts : s.inserts = pending.map PendingInsert.statement
  entered : List.Forall₂ (Entered ctx t s.registry) (s.provisioned p) pending
  submitted : submitted t <+: pending.map (·.sql)

variable {ctx : Context} {p : Pipeline} {prepared : Prepared} {dryRun : Bool} {s s' : BuildState}
  {t u : List Call.Exchange} {pending inserts : List PendingInsert} {pipeline : String}

theorem Entered.mono {registry registry' : ViewRegistry} {a : Sink} {i : PendingInsert}
    (h : Entered ctx t registry a i) (ht : accepted t ⊆ accepted u)
    (hr : ∀ {columns}, registry.get? a.name = some columns →
      registry'.get? a.name = some columns) : Entered ctx u registry' a i := by
  obtain ⟨⟨columns, hg, rfl⟩, defs, hd⟩ := h
  exact ⟨⟨columns, hr hg, rfl⟩, defs, ht hd⟩

/-! ### Sinks -/

/-- A sink that could not be provisioned is not registered. -/
theorem names_of_provision {a : Sink} {l : SinkLayout} {e : PipelineError}
    (h : Runs (provision ctx dryRun a l) s t (.error e) s') :
    s'.registry.names = s.registry.names := by
  rw [provision_eq] at h
  obtain ⟨_, _, _, _, rfl, h₁, h⟩ | ⟨_, _, h₁⟩ := runs_bind_iff.mp h
  · rw [← (leaves_destinationOf _ _ _ _ _ _ _ h₁).names.eq_of_nil]
    obtain ⟨_, _, _, _, rfl, h₂, h⟩ | ⟨_, _, h₂⟩ := runs_bind_iff.mp h
    · rw [← (leaves_issue (by simp) _ _ _ _ h₂).names.eq_of_nil]
      obtain ⟨-, ⟨-, he, -⟩ | ⟨-, -, rfl⟩⟩ := runs_register_iff.mp h
      · cases he
      · rfl
    · rw [(leaves_issue (by simp) _ _ _ _ h₂).names.eq_of_nil]
  · rw [(leaves_destinationOf _ _ _ _ _ _ _ h₁).names.eq_of_nil]

/-- A sink is provisioned, registered and given its insert, or none of that. -/
theorem runs_sink {a : Sink} {l : SinkLayout} {r : Except PipelineError PendingInsert}
    (h : Runs (sink ctx dryRun a l) s t r s') :
    (∃ e, r = .error e ∧ s'.registry.names = s.registry.names ∧ s'.inserts = s.inserts) ∨
      ∃ i, r = .ok i ∧ s'.registry.names = s.registry.names ++ [a.name] ∧
        s'.inserts = s.inserts ++ [i.statement] ∧ Entered ctx t s'.registry a i := by
  obtain ⟨t₁, t₂, _, s₁, rfl, h₁, h₂⟩ | ⟨e, rfl, h₁⟩ := runs_bind_iff.mp h
  · have hleft := leaves_provision _ _ _ _ _ _ _ h₁
    have hnames : s₁.registry.names = s.registry.names ++ [a.name] := hleft.names_eq
    have hg : s₁.registry.get? a.name = some l.columns := get?_of_provision h₁
    have hschema {u : List Call.Exchange} {q : Except PipelineError (List Column)}
        {s₂ : BuildState} (hs : Runs (schema a.name) s₁ u q s₂) :
        u = [] ∧ s₂ = s₁ ∧ q = .ok l.columns := by
      obtain ⟨rfl, rfl, rfl⟩ := runs_schema_iff.mp hs
      rw [hg]
      exact ⟨rfl, rfl, rfl⟩
    obtain ⟨_, _, _, _, rfl, hs, h₃⟩ | ⟨e, -, hs⟩ := runs_bind_iff.mp h₂
    swap
    · cases (hschema hs).2.2
    obtain ⟨rfl, rfl, hc⟩ := hschema hs
    cases hc
    obtain ⟨_, _, _, _, rfl, hr, h₄⟩ | ⟨e, -, hr⟩ := runs_bind_iff.mp h₃
    swap
    · cases (runs_record_iff.mp hr).2.1
    obtain ⟨rfl, -, rfl⟩ := runs_record_iff.mp hr
    obtain ⟨rfl, rfl, rfl⟩ := runs_pure_iff.mp h₄
    have hsink := of_sink h
    refine .inr ⟨_, rfl, hnames, ?_, ⟨l.columns, hg, rfl⟩, l.runtimeDefs,
      mem_accepted_iff.mpr hsink.table⟩
    have hin := hleft.inserts_eq (by simp)
    unfold BuildState.inserts at hin ⊢
    rw [List.filter_append, hin]
    rfl
  · have hin := (leaves_provision _ _ _ _ _ _ _ h₁).inserts_eq (by simp)
    exact .inl ⟨e, rfl, names_of_provision h₁, hin⟩

/-- Each sink that a loop has registered has its insert, up to the one that stopped it. -/
theorem runs_sinks {sinks : List Sink} {layouts : List SinkLayout}
    (hl : layouts.length = sinks.length) {r : Except PipelineError (List PendingInsert)}
    (h : Runs ((sinks.zip layouts).mapM fun e => sink ctx dryRun e.1 e.2) s t r s') :
    ∃ done pending, done <+: sinks ∧ s'.registry.names = s.registry.names ++ done.map (·.name) ∧
      s'.inserts = s.inserts ++ pending.map PendingInsert.statement ∧
      List.Forall₂ (Entered ctx t s'.registry) done pending ∧
      ∀ inserts, r = .ok inserts → done = sinks ∧ pending = inserts := by
  induction sinks generalizing layouts s t r s' with
  | nil =>
    obtain ⟨rfl, rfl, rfl⟩ := runs_pure_iff.mp h
    exact ⟨[], [], List.prefix_refl _, by simp, by simp, .nil, fun _ he => ⟨rfl, by cases he; rfl⟩⟩
  | cons a sinks ih =>
    cases layouts with
    | nil => cases hl
    | cons l layouts =>
      rw [List.zip_cons_cons, List.mapM_cons] at h
      obtain ⟨t₁, t₂, i, s₁, rfl, h₁, h₂⟩ | ⟨e, rfl, h₁⟩ := runs_bind_iff.mp h
      · obtain ⟨_, he, -⟩ | ⟨_, he, hnames, hin, hentered⟩ := runs_sink h₁
        · cases he
        cases he
        -- the rest of the loop only adds to what the first sink has
        have hrest {u : List Call.Exchange} {q : Except PipelineError (List PendingInsert)}
            {s₂ : BuildState} (hu : Runs ((sinks.zip layouts).mapM fun e =>
              sink ctx dryRun e.1 e.2) s₁ u q s₂) : ∃ done pending, done <+: a :: sinks ∧
            s₂.registry.names = s.registry.names ++ done.map (·.name) ∧
            s₂.inserts = s.inserts ++ pending.map PendingInsert.statement ∧
            List.Forall₂ (Entered ctx (t₁ ++ u) s₂.registry) done pending ∧
            ∀ inserts, q = .ok inserts → done = a :: sinks ∧ pending = i :: inserts := by
          obtain ⟨done, pending, hd, hnames', hin', hall, hok⟩ := ih (Nat.succ.inj hl) hu
          have hleft := leaves_sinks dryRun (Nat.succ.inj hl) _ _ _ _ hu
          refine ⟨a :: done, i :: pending, List.cons_prefix_cons.mpr ⟨rfl, hd⟩, ?_, ?_, ?_, ?_⟩
          · rw [hnames', hnames, List.append_assoc]
            rfl
          · rw [hin', hin, List.append_assoc]
            rfl
          · exact .cons (hentered.mono (by simp) hleft.known)
              (hall.imp fun _ _ hx => hx.mono (by simp) id)
          · intro inserts he
            obtain ⟨rfl, rfl⟩ := hok inserts he
            exact ⟨rfl, rfl⟩
        obtain ⟨u₁, u₂, is, s₂, rfl, h₃, h₄⟩ | ⟨e, rfl, h₃⟩ := runs_bind_iff.mp h₂
        · obtain ⟨rfl, rfl, rfl⟩ := runs_pure_iff.mp h₄
          rw [List.append_nil]
          obtain ⟨done, pending, hd, hnames, hin, hall, hok⟩ := hrest h₃
          refine ⟨done, pending, hd, hnames, hin, hall, ?_⟩
          rintro _ ⟨⟩
          exact hok is rfl
        · obtain ⟨done, pending, hd, hnames, hin, hall, -⟩ := hrest h₃
          exact ⟨done, pending, hd, hnames, hin, hall, nofun⟩
      · obtain ⟨_, -, hnames, hin⟩ | ⟨_, he, -⟩ := runs_sink h₁
        · exact ⟨[], [], List.nil_prefix, by simp [hnames], by simp [hin], .nil, nofun⟩
        · cases he

/-! ### Compilation and submission -/

theorem submitted_of_calls {α : Type} {r : Except PipelineError α} {b : Build α} {C : Call → Prop}
    (hb : Calls C b) (hC : ∀ c, C c → c.submitted? = none) (h : Runs b s t r s') :
    submitted t = [] :=
  List.filterMap_eq_nil_iff.mpr fun e he => hC _ (hb.forall_mem h e he)

theorem submitted_of_compile {r : Except PipelineError (List PendingInsert)}
    (h : Runs (compile ctx dryRun prepared) s t r s') : submitted t = [] := by
  refine submitted_of_calls calls_compile (fun c hc => ?_) h
  obtain ⟨sql, rfl⟩ | ⟨view, rfl⟩ | ⟨-, hc⟩ := hc
  · rfl
  · rfl
  · cases c <;> first | rfl | cases hc

/-- At the end of a compilation, good or bad, the plan shows what was executed. -/
theorem logged_of_compile (hp : p.prepare = .ok prepared)
    {r : Except PipelineError (List PendingInsert)}
    (h : Runs (compile ctx dryRun prepared) .start t r s') :
    ∃ pending, Logged ctx p t s' pending ∧
      ∀ inserts, r = .ok inserts → pending = inserts ∧ s'.provisioned p = p.sinks := by
  have hleft := leaves_compile hp dryRun _ _ _ _ h
  have hexecuted : s'.executed = (accepted t).map Sql.redact := hleft.executed
  have hregistered : s'.registry.names <+: p.viewNames ++ p.sinkNames := hleft.names_prefix
  have hsubmitted := submitted_of_compile h
  have hviewsOnly := Pipeline.ne_insert_of_mem_viewsOutline ctx.settings p
  -- a compilation that ends before the sinks has registered views only
  have hearly (hn : s'.registry.names <+: p.viewNames) (hin : s'.inserts = []) :
      Logged ctx p t s' [] := by
    refine ⟨hexecuted, hregistered, hin, ?_, by simp [hsubmitted]⟩
    rw [BuildState.provisioned, Nat.sub_eq_zero_of_le hn.length_le, List.take_zero]
    exact .nil
  rw [compile_eq_views hp] at h
  obtain ⟨t₁, t₂, _, s₁, rfl, h₁, h₂⟩ | ⟨e, rfl, h₁⟩ := runs_bind_iff.mp h
  swap
  · have hviews := leaves_views hp _ _ _ _ h₁
    exact ⟨[], hearly hviews.names_prefix (hviews.inserts_eq hviewsOnly), nofun⟩
  have hviews := leaves_views hp _ _ _ _ h₁
  have hnames : s₁.registry.names = p.viewNames := hviews.names_eq
  have hin₁ : s₁.inserts = [] := hviews.inserts_eq hviewsOnly
  obtain ⟨u₁, u₂, layouts, s₂, rfl, h₃, h₄⟩ | ⟨e, rfl, h₃⟩ := runs_bind_iff.mp h₂
  swap
  · have hlayouts := leaves_layouts _ _ _ _ _ h₃
    refine ⟨[], hearly ?_ ?_, nofun⟩
    · exact (hlayouts.names.eq_of_nil.trans hnames) ▸ List.prefix_refl _
    · rw [hlayouts.inserts_eq (by simp), hin₁]
  have hlayouts := leaves_layouts _ _ _ _ _ h₃
  obtain ⟨done, pending, hd, hnames', hin, hall, hok⟩ := runs_sinks (length_of_layouts h₃) h₄
  have hnames₂ : s₂.registry.names = p.viewNames := by
    rw [hlayouts.names.eq_of_nil, hnames]
  have hprovisioned : s'.provisioned p = done := by
    rw [BuildState.provisioned, hnames', hnames₂, List.length_append, List.length_map,
      Nat.add_sub_cancel_left]
    exact (List.prefix_iff_eq_take.mp hd).symm
  refine ⟨pending, ⟨hexecuted, hregistered, ?_, ?_, by simp [hsubmitted]⟩, fun inserts he => ?_⟩
  · rw [hin, hlayouts.inserts_eq (by simp), hin₁, List.nil_append]
  · rw [hprovisioned]
    exact hall.imp fun _ _ hx => hx.mono (by simp) id
  · obtain ⟨rfl, rfl⟩ := hok inserts he
    exact ⟨rfl, hprovisioned⟩

/-- The inserts are submitted in their order, all of them unless a submission fails. -/
def InOrder (inserts : List PendingInsert) (t : List Call.Exchange) : Prop :=
  submitted t <+: inserts.map (·.sql) ∧
    ((∀ e ∈ t, Failed e → e.question.submitted? = none) → submitted t = inserts.map (·.sql))

theorem InOrder.append (h : InOrder inserts t) (hu : submitted u = []) :
    InOrder inserts (t ++ u) := by
  unfold InOrder
  rw [submitted_append, hu, List.append_nil]
  exact ⟨h.1, fun hn => h.2 fun e he => hn e (List.mem_append_left _ he)⟩

theorem inOrder_of_submitAll {index : Nat} {r : Except PipelineError (List PendingJob)}
    (h : Runs (submitAll index inserts) s t r s') : InOrder inserts t := by
  induction inserts generalizing index s t r s' with
  | nil =>
    obtain ⟨rfl, -, -⟩ := runs_pure_iff.mp h
    exact ⟨List.prefix_refl _, fun _ => rfl⟩
  | cons i inserts ih =>
    have hcons (a : Except RuntimeError JobHandle) (u : List Call.Exchange) :
        submitted (⟨.submit i.sql, a⟩ :: u) = i.sql :: submitted u := rfl
    rw [submitAll] at h
    obtain ⟨e | handle, u, rfl, hu⟩ := runs_ask_bind_iff.mp h
    · obtain ⟨rfl, -, -⟩ := runs_throw_iff.mp hu
      refine ⟨List.cons_prefix_cons.mpr ⟨rfl, List.nil_prefix⟩, fun hn => ?_⟩
      cases hn _ (List.mem_cons_self ..) ⟨e, rfl⟩
    · have hu : Runs (submitAll (index + 1) inserts >>= fun rest => pure (⟨index, handle⟩ :: rest))
          s u r s' := hu
      have hrest : InOrder inserts u := by
        obtain ⟨u₁, u₂, _, _, rfl, h₁, h₂⟩ | ⟨_, -, h₁⟩ := runs_bind_iff.mp hu
        · obtain ⟨rfl, -, -⟩ := runs_pure_iff.mp h₂
          rw [List.append_nil]
          exact ih h₁
        · exact ih h₁
      unfold InOrder
      rw [hcons]
      refine ⟨List.cons_prefix_cons.mpr ⟨rfl, hrest.1⟩, fun hn => ?_⟩
      rw [hrest.2 fun e he => hn e (List.mem_cons_of_mem _ he)]
      rfl

/-- While the jobs are waited for, nothing is submitted. -/
theorem submitted_of_waits {pending : List PendingJob}
    {r : Except PipelineError (List JobId × JobState)}
    (h : Runs (acceptAll pending.length pending [] >>= completion pipeline) s t r s') :
    submitted t = [] := by
  have haccept {t : List Call.Exchange} {q : Except PipelineError (List JobId)} {s₁ : BuildState}
      (ht : Runs (acceptAll pending.length pending []) s t q s₁) : submitted t = [] := by
    refine List.filterMap_eq_nil_iff.mpr fun e he => ?_
    obtain ⟨first, rest, d, rfl⟩ := acceptance_of_acceptAll ht e he
    rfl
  obtain ⟨_, _, _, _, rfl, h₁, h₂⟩ | ⟨_, -, h₁⟩ := runs_bind_iff.mp h
  · obtain ⟨a, rfl, -, -⟩ := runs_completion_iff.mp h₂
    rw [submitted_append, haccept h₁]
    rfl
  · exact haccept h₁

/-- Once the name is set, the inserts are submitted in their order, until one fails. -/
theorem submitted_of_submit {r : Except PipelineError (List JobId × JobState)}
    (h : Runs (submit pipeline inserts) s t r s') : submitted t <+: inserts.map (·.sql) ∧
      (nameStatement pipeline ∈ accepted t →
        (∀ e ∈ t, Failed e → e.question.submitted? = none) →
          submitted t = inserts.map (·.sql)) := by
  rw [submit_eq] at h
  obtain ⟨_, hsubmit, -⟩ := runs_holding_iff.mp h
  obtain ⟨t₁, u, _, s₁, rfl, h₁, h₂⟩ | ⟨e, -, h₁⟩ := runs_bind_iff.mp hsubmit
  · obtain ⟨rfl, -⟩ := of_issue h₁
    suffices hu : InOrder inserts u from
      ⟨hu.1, fun _ hn => hu.2 fun e he => hn e (List.mem_append_right _ he)⟩
    obtain ⟨u₁, u₂, _, _, rfl, h₃, h₄⟩ | ⟨_, -, h₃⟩ := runs_bind_iff.mp h₂
    · exact (inOrder_of_submitAll h₃).append (submitted_of_waits (runs_count_bind_iff.mp h₄))
    · exact inOrder_of_submitAll h₃
  · obtain ⟨-, he, -⟩ | ⟨e, rfl, -, -⟩ := runs_issue_iff.mp h₁
    · cases he
    · exact ⟨List.nil_prefix, nofun⟩

/-- A submission adds its first statement to the plan, once that is accepted. -/
theorem logged_of_submit (hlog : Logged ctx p t s inserts) (ht : submitted t = [])
    {r : Except PipelineError (List JobId × JobState)}
    (h : Runs (submit pipeline inserts) s u r s') : Logged ctx p (t ++ u) s' inserts := by
  have hleft := leaves_submit _ _ _ _ _ _ h
  have hnames : s'.registry.names = s.registry.names := hleft.names.eq_of_nil
  refine ⟨?_, ?_, ?_, ?_, ?_⟩
  · rw [hleft.executed, hlog.executed, accepted_append, List.map_append]
  · rw [hnames]
    exact hlog.registered
  · rw [hleft.inserts_eq (by simp), hlog.inserts]
  · rw [BuildState.provisioned, hnames]
    exact hlog.entered.imp fun _ _ hx => hx.mono (by simp) hleft.known
  · rw [submitted_append, ht]
    exact (submitted_of_submit h).1

/-! ### Every point of a run -/

/-- The failure of a call changes nothing in the plan. -/
theorem Logged.of_failed {c : Call} {a : c.Answer} (h : Logged ctx p (t ++ [⟨c, a⟩]) s pending)
    (ha : c.Failed a) : Logged ctx p t s pending := by
  have haccepted : accepted (t ++ [⟨c, a⟩]) = accepted t := by
    have hone : c.accepted? a = none := by
      cases c with
      | execute sql => obtain ⟨e, rfl⟩ := ha; rfl
      | _ => rfl
    simp [accepted, hone]
  refine ⟨haccepted ▸ h.executed, h.registered, h.inserts, ?_, ?_⟩
  · exact h.entered.imp fun _ _ hx => hx.mono (haccepted ▸ List.Subset.refl _) id
  · refine List.IsPrefix.trans ?_ h.submitted
    rw [submitted_append]
    exact List.prefix_append _ _

theorem exists_logged (hp : p.prepare = .ok prepared)
    {r : Except PipelineError (List JobId × JobState)}
    (h : Runs (compile ctx dryRun prepared >>= submit pipeline) .start t r s') :
    ∃ pending, Logged ctx p t s' pending := by
  obtain ⟨t₁, t₂, inserts, s₁, rfl, h₁, h₂⟩ | ⟨e, rfl, h₁⟩ := runs_bind_iff.mp h
  · obtain ⟨pending, hlog, hok⟩ := logged_of_compile hp h₁
    obtain ⟨rfl, -⟩ := hok inserts rfl
    exact ⟨pending, logged_of_submit hlog (submitted_of_compile h₁) h₂⟩
  · obtain ⟨pending, hlog, -⟩ := logged_of_compile hp h₁
    exact ⟨pending, hlog⟩

/-- Whatever the collaborators answer. At every point of a compilation and of the submission that
follows it, the plan shows what the runtime has executed and the inserts of the sinks provisioned
so far, and there is one such point after any number of exchanges. After a compilation that ended
well these are the inserts that it returned, one for each sink. They are then submitted in their
order, all of them unless a submission fails. -/
theorem logged_at_every_point (hp : p.prepare = .ok prepared) (ctx : Context) (dryRun : Bool)
    (pipeline : String) :
    (∀ t s, Stands (compile ctx dryRun prepared >>= submit pipeline) .start t s →
      ∃ pending, Logged ctx p t s pending) ∧
    (∀ t r s, Runs (compile ctx dryRun prepared >>= submit pipeline) .start t r s →
      ∀ u, u <+: t →
        ∃! s₁, Stands (compile ctx dryRun prepared >>= submit pipeline) .start u s₁) ∧
    ∀ t inserts s, Runs (compile ctx dryRun prepared) .start t (.ok inserts) s →
      Logged ctx p t s inserts ∧ s.provisioned p = p.sinks ∧
      ∀ u r s', Runs (submit pipeline inserts) s u r s' → Logged ctx p (t ++ u) s' inserts ∧
        (nameStatement pipeline ∈ accepted u →
          (∀ e ∈ u, Failed e → e.question.submitted? = none) →
            submitted (t ++ u) = inserts.map (·.sql)) := by
  refine ⟨fun t s h => ?_, fun t r s h u hu => ?_, fun t inserts s h => ?_⟩
  · obtain ⟨r, hr⟩ | ⟨c, hc⟩ := h
    · exact exists_logged hp hr
    · obtain ⟨a, ha⟩ := c.exists_failed
      obtain ⟨e, he⟩ := hc a ha
      obtain ⟨pending, hlog⟩ := exists_logged hp he
      exact ⟨pending, hlog.of_failed ha⟩
  · have hcalls : Calls (fun _ => True) (compile ctx dryRun prepared >>= submit pipeline) :=
      (calls_compile.imp fun _ _ => trivial).bind (calls_submit pipeline)
    exact hcalls.existsUnique_stands h hu
  · obtain ⟨pending, hlog, hok⟩ := logged_of_compile hp h
    obtain ⟨rfl, hall⟩ := hok inserts rfl
    have ht := submitted_of_compile h
    refine ⟨hlog, hall, fun u r s' hu => ⟨logged_of_submit hlog ht hu, fun hname hn => ?_⟩⟩
    rw [submitted_append, ht]
    exact (submitted_of_submit hu).2 hname hn

theorem logged_at_every_point_ordersToPostgres : ∃ prepared t r s pending,
    ordersToPostgres.prepare = .ok prepared ∧
    Runs (compile ⟨{}, 0⟩ false prepared >>= submit "orders") .start t r s ∧ r.isOk = true ∧
    Logged ⟨{}, 0⟩ ordersToPostgres t s pending ∧ (accepted t).length = 18 ∧
    s.inserts.map (·.sql) = submitted t ∧
    submitted t = ["INSERT INTO \x60copy\x60 SELECT \x60id\x60 FROM \x60orders\x60"] := by
  let graph : DependencyGraph := ⟨ordersToPostgres.entities, ["orders", "copy"], [(0, 1)]⟩
  have hp : ordersToPostgres.prepare = .ok ⟨ordersToPostgres, [], graph⟩ := rfl
  have hr := runs_transcript obliging
    (compile ⟨{}, 0⟩ false ⟨ordersToPostgres, [], graph⟩ >>= submit "orders") .start ()
  obtain ⟨pending, hlog⟩ := (logged_at_every_point hp ⟨{}, 0⟩ false "orders").1 _ _ (.inl ⟨_, hr⟩)
  exact ⟨_, _, _, _, pending, hp, hr, by decide +kernel, hlog, by decide +kernel,
    by decide +kernel, by decide +kernel⟩

end Build

end StreamPipeline
