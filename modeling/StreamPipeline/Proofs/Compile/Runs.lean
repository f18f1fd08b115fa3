import Mathlib.Data.List.Forall2
import StreamPipeline.Compile.Run
import StreamPipeline.Proofs.Compile.InStep
import StreamPipeline.Proofs.Dialogue.Run

/-! # Runs of a build

What a step of a run can do, under any answers: the exchanges it takes part in, its result, and the
state it leaves. One rule for each way to put steps together, and one for each basic step.
-/

namespace StreamPipeline

theorem forall₂_trans {α β γ : Type} {R : α → β → Prop} {S : β → γ → Prop} {T : α → γ → Prop}
    (hT : ∀ a b c, R a b → S b c → T a c) {l : List α} {m : List β} {n : List γ}
    (h : List.Forall₂ R l m) (h' : List.Forall₂ S m n) : List.Forall₂ T l n := by
  induction h generalizing n with
  | nil => cases h'; exact .nil
  | cons hr _ ih => cases h' with | cons hs h' => exact .cons (hT _ _ _ hr hs) (ih h')

theorem forall₂_of_zip {α β γ : Type} {R : α → β → Prop} {S : α × β → γ → Prop} {l : List α}
    {m : List β} {n : List γ} (h : List.Forall₂ R l m) (h' : List.Forall₂ S (l.zip m) n) :
    List.Forall₂ (fun a c => ∃ b, R a b ∧ S (a, b) c) l n := by
  induction h generalizing n with
  | nil => cases h'; exact .nil
  | cons hr _ ih => cases h' with | cons hs h' => exact .cons ⟨_, hr, hs⟩ (ih h')

theorem exists_of_forall₂ {α β : Type} {R : α → β → Prop} {l : List α} {m : List β}
    (h : List.Forall₂ R l m) {a : α} (ha : a ∈ l) : ∃ b, R a b := by
  induction h with
  | nil => cases ha
  | cons hr _ ih =>
    rcases List.mem_cons.mp ha with rfl | ha
    · exact ⟨_, hr⟩
    · exact ih ha

/-- A call and the answer of the collaborator. -/
abbrev Call.Exchange := Dialogue.Exchange Call Call.Answer

namespace Build

/-- From the state `s`, the step can take part in the exchanges `t`, and ends with `r` in `s'`. -/
def Runs {α : Type} (b : Build α) (s : BuildState) (t : List Call.Exchange)
    (r : Except PipelineError α) (s' : BuildState) : Prop :=
  Dialogue.Run (StateT.run (ExceptT.run b) s) t (r, s')

variable {α β : Type} {b : Build α} {f : α → Build β} {s s' : BuildState} {t : List Call.Exchange}
  {r : Except PipelineError α} {q : Except PipelineError β}

/-! ### Rules of the monad -/

theorem runs_pure_iff {a : α} : Runs (pure a) s t r s' ↔ t = [] ∧ r = .ok a ∧ s' = s := by
  refine Dialogue.run_done_iff.trans ?_
  simp

theorem runs_throw_iff {e : PipelineError} :
    Runs (throw e : Build α) s t r s' ↔ t = [] ∧ r = .error e ∧ s' = s := by
  refine Dialogue.run_done_iff.trans ?_
  simp

theorem runs_bind_iff : Runs (b >>= f) s t q s' ↔
    (∃ t₁ t₂ a s₁, t = t₁ ++ t₂ ∧ Runs b s t₁ (.ok a) s₁ ∧ Runs (f a) s₁ t₂ q s') ∨
      ∃ e, q = .error e ∧ Runs b s t (.error e) s' := by
  refine Dialogue.run_bind_iff.trans ⟨?_, ?_⟩
  · rintro ⟨t₁, t₂, ⟨a | a, s₁⟩, rfl, h₁, h₂⟩
    · obtain ⟨rfl, he⟩ := Dialogue.run_done_iff.mp h₂
      obtain ⟨rfl, rfl⟩ := Prod.mk.injEq .. ▸ he
      exact .inr ⟨a, rfl, by rwa [List.append_nil]⟩
    · exact .inl ⟨t₁, t₂, a, s₁, rfl, h₁, h₂⟩
  · rintro (⟨t₁, t₂, a, s₁, rfl, h₁, h₂⟩ | ⟨e, rfl, h⟩)
    · exact ⟨t₁, t₂, (.ok a, s₁), rfl, h₁, h₂⟩
    · exact ⟨t, [], (.error e, s'), by simp, h, .done _⟩

/-- A run that ends well ends well in its first part. -/
theorem runs_bind_ok_iff {a : β} : Runs (b >>= f) s t (.ok a) s' ↔
    ∃ t₁ t₂ c s₁, t = t₁ ++ t₂ ∧ Runs b s t₁ (.ok c) s₁ ∧ Runs (f c) s₁ t₂ (.ok a) s' := by
  simp [runs_bind_iff]

theorem Runs.unique {t' u u' : List Call.Exchange} {r' : Except PipelineError α}
    {s₁ : BuildState} (h : Runs b s t r s₁) (h' : Runs b s t' r' s') (he : t ++ u = t' ++ u') :
    t = t' ∧ r = r' ∧ s₁ = s' := by
  obtain ⟨rfl, h⟩ := Dialogue.Run.unique h h' he
  exact ⟨rfl, Prod.mk.inj h⟩

/-- A run that has begun with its first part goes on with what follows it. -/
theorem Runs.rest {u : List Call.Exchange} {a : α} {s₁ : BuildState}
    (h : Runs (b >>= f) s (t ++ u) q s') (hb : Runs b s t (.ok a) s₁) :
    Runs (f a) s₁ u q s' := by
  obtain ⟨t₁, t₂, c, s₂, he, h₁, h₂⟩ | ⟨e, -, h₁⟩ := runs_bind_iff.mp h
  · obtain ⟨rfl, hc, rfl⟩ := hb.unique h₁ he
    cases hc
    rwa [List.append_cancel_left he]
  · obtain ⟨-, hc, -⟩ := hb.unique h₁ (List.append_nil _).symm
    cases hc

/-- Every way to answer gives a run. -/
theorem runs_transcript {σ : Type} (respond : (c : Call) → σ → c.Answer × σ) (b : Build α)
    (s : BuildState) (u : σ) :
    Runs b s (Dialogue.transcript respond (StateT.run (ExceptT.run b) s) u)
      (Dialogue.answer respond (StateT.run (ExceptT.run b) s) u).1.1
      (Dialogue.answer respond (StateT.run (ExceptT.run b) s) u).1.2 :=
  Dialogue.run_transcript respond _ u

theorem runs_set_iff {u : BuildState} {r : Except PipelineError PUnit} :
    Runs (set u) s t r s' ↔ t = [] ∧ r = .ok ⟨⟩ ∧ s' = u := by
  refine Dialogue.run_done_iff.trans ?_
  simp

theorem runs_modify_iff {g : BuildState → BuildState} {r : Except PipelineError PUnit} :
    Runs (modify g) s t r s' ↔ t = [] ∧ r = .ok ⟨⟩ ∧ s' = g s := by
  refine Dialogue.run_done_iff.trans ?_
  simp

theorem runs_ask_iff {c : Call} {r : Except PipelineError c.Answer} :
    Runs (ask c) s t r s' ↔ ∃ a, t = [⟨c, a⟩] ∧ r = .ok a ∧ s' = s := by
  refine Dialogue.run_ask_iff.trans ⟨?_, ?_⟩
  · rintro ⟨a, u, rfl, h⟩
    obtain ⟨rfl, he⟩ := Dialogue.run_done_iff.mp h
    cases he
    exact ⟨a, rfl, rfl, rfl⟩
  · rintro ⟨a, rfl, rfl, rfl⟩
    exact ⟨a, [], rfl, .done _⟩

theorem runs_ask_bind_iff {c : Call} {g : c.Answer → Build β} :
    Runs (ask c >>= g) s t q s' ↔ ∃ a u, t = ⟨c, a⟩ :: u ∧ Runs (g a) s u q s' := by
  rw [runs_bind_iff]
  constructor
  · rintro (⟨t₁, t₂, a, s₁, rfl, h₁, h₂⟩ | ⟨e, rfl, h⟩)
    · obtain ⟨b, rfl, hb, rfl⟩ := runs_ask_iff.mp h₁
      cases hb
      exact ⟨a, t₂, rfl, h₂⟩
    · obtain ⟨b, -, hb, -⟩ := runs_ask_iff.mp h
      cases hb
  · rintro ⟨a, u, rfl, h⟩
    exact .inl ⟨[⟨c, a⟩], u, a, s, rfl, runs_ask_iff.mpr ⟨a, rfl, rfl, rfl⟩, h⟩

theorem runs_get_bind_iff {g : BuildState → Build β} :
    Runs (get >>= g) s t q s' ↔ Runs (g s) s t q s' := Iff.rfl

/-- Handles are counted without asking anybody. -/
theorem runs_count_iff {g : Handles → Handles} {r : Except PipelineError Unit} :
    Runs (count g) s t r s' ↔ t = [] ∧ r = .ok () ∧ s' = { s with handles := g s.handles } :=
  runs_modify_iff

theorem runs_count_bind_iff {g : Handles → Handles} : Runs (count g >>= fun _ => b) s t r s' ↔
    Runs b { s with handles := g s.handles } t r s' := Iff.rfl

/-- The handle is given back at every end. -/
theorem runs_holding_iff : Runs (holding b) s t r s' ↔
    ∃ s₁, Runs b { s with handles := s.handles.take } t r s₁ ∧
      s' = { s₁ with handles := s₁.handles.giveBack } := by
  have hrun : StateT.run (ExceptT.run (holding b)) s =
      (StateT.run (ExceptT.run b) { s with handles := s.handles.take }).bind fun p =>
        .done (p.1, { p.2 with handles := p.2.handles.giveBack }) := rfl
  rw [Runs, hrun, Dialogue.run_bind_iff]
  constructor
  · rintro ⟨t₁, t₂, ⟨q, s₁⟩, rfl, hb, hp⟩
    obtain ⟨rfl, he⟩ := Dialogue.run_done_iff.mp hp
    cases he
    rw [List.append_nil]
    exact ⟨s₁, hb, rfl⟩
  · rintro ⟨s₁, hb, rfl⟩
    exact ⟨t, [], (r, s₁), (List.append_nil t).symm, hb, .done _⟩

/-- The step fails at once, and leaves what `g` makes of the state. -/
def FailsAtOnce (g : BuildState → BuildState) (b : Build α) : Prop :=
  ∀ s, ∃ e, Runs b s [] (.error e) (g s)

theorem failsAtOnce_throw (e : PipelineError) : FailsAtOnce id (throw e : Build α) :=
  fun _ => ⟨e, runs_throw_iff.mpr ⟨rfl, rfl, rfl⟩⟩

theorem FailsAtOnce.count_bind (h : FailsAtOnce id b) (g : Handles → Handles) :
    FailsAtOnce (fun s => { s with handles := g s.handles }) (count g >>= fun _ => b) := by
  intro s
  obtain ⟨e, hb⟩ := h { s with handles := g s.handles }
  exact ⟨e, runs_count_bind_iff.mpr hb⟩

theorem runs_orThrow_iff {ε : Type} {wrap : ε → PipelineError} {x : Except ε α} :
    Runs (orThrow wrap x) s t r s' ↔ t = [] ∧ r = x.mapError wrap ∧ s' = s := by
  cases x with
  | ok a => exact runs_pure_iff
  | error e => exact runs_throw_iff

/-! ### Basic steps -/

theorem runs_record_iff {stage : Stage} {kind : StatementKind} {target sql : String}
    {r : Except PipelineError Unit} :
    Runs (record stage kind target sql) s t r s' ↔
      t = [] ∧ r = .ok () ∧ s' = { s with plan := s.plan ++ [⟨stage, kind, target, sql⟩] } :=
  runs_modify_iff

/-- An accepted statement is added to the plan, a refused one ends the run. -/
theorem runs_issue_iff {stage : Stage} {kind : StatementKind} {target sql : String}
    {r : Except PipelineError Unit} :
    Runs (issue stage kind target sql) s t r s' ↔
      (t = [⟨.execute sql, .ok ()⟩] ∧ r = .ok () ∧
        s' = { s with plan := s.plan ++ [⟨stage, kind, target, Sql.redact sql⟩] }) ∨
      ∃ e, t = [⟨.execute sql, .error e⟩] ∧
        r = .error (refused stage target (Sql.redact sql) e) ∧ s' = s := by
  unfold issue
  rw [runs_ask_bind_iff]
  constructor
  · rintro ⟨(e | ⟨⟩), u, rfl, h⟩
    · obtain ⟨rfl, rfl, rfl⟩ := runs_throw_iff.mp h
      exact .inr ⟨e, rfl, rfl, rfl⟩
    · obtain ⟨rfl, rfl, rfl⟩ := runs_record_iff.mp h
      exact .inl ⟨rfl, rfl, rfl⟩
  · rintro (⟨rfl, rfl, rfl⟩ | ⟨e, rfl, rfl, rfl⟩)
    · exact ⟨.ok (), [], rfl, runs_record_iff.mpr ⟨rfl, rfl, rfl⟩⟩
    · exact ⟨.error e, [], rfl, runs_throw_iff.mpr ⟨rfl, rfl, rfl⟩⟩

theorem runs_describe_iff {stage : Stage} {target view : String}
    {r : Except PipelineError (List Column)} :
    Runs (describe stage target view) s t r s' ↔
      ∃ a : Except RuntimeError (List Column), t = [⟨.describe view, a⟩] ∧
        r = a.mapError (refused stage target ("DESCRIBE " ++ Sql.quoteIdent view)) ∧ s' = s := by
  unfold describe
  rw [runs_ask_bind_iff]
  constructor
  · rintro ⟨a, u, rfl, h⟩
    obtain ⟨rfl, rfl, rfl⟩ := runs_orThrow_iff.mp h
    exact ⟨a, rfl, rfl, rfl⟩
  · rintro ⟨a, rfl, rfl, rfl⟩
    exact ⟨a, [], rfl, runs_orThrow_iff.mpr ⟨rfl, rfl, rfl⟩⟩

/-- A new name is registered behind the others, a known one ends the run. -/
theorem runs_register_iff {name : String} {columns : List Column}
    {r : Except PipelineError Unit} :
    Runs (register name columns) s t r s' ↔ t = [] ∧
      ((s.registry.get? name = none ∧ r = .ok () ∧
          s' = { s with registry := s.registry.add name columns }) ∨
        ((s.registry.get? name).isSome ∧ r = .error (.config (.alreadyRegistered name)) ∧
          s' = s)) := by
  unfold register ViewRegistry.register
  rw [runs_get_bind_iff]
  cases h : s.registry.get? name with
  | none =>
    refine (runs_set_iff (u := { s with registry := _ })).trans ?_
    simp
  | some _ =>
    refine runs_throw_iff.trans ?_
    simp

theorem runs_schema_iff {name : String} {r : Except PipelineError (List Column)} :
    Runs (schema name) s t r s' ↔ t = [] ∧ s' = s ∧
      r = (s.registry.get? name).elim (.error (.config (.unknownView name))) .ok := by
  unfold schema
  rw [runs_get_bind_iff]
  cases h : s.registry.get? name with
  | none => refine runs_throw_iff.trans ?_; simp [and_comm]
  | some _ => refine runs_pure_iff.trans ?_; simp [and_comm]

/-! ### Loops -/

/-- The runs of a step for one element after the other, all of which end well. -/
inductive Chain (f : α → Build β) :
    List α → BuildState → List Call.Exchange → List β → BuildState → Prop where
  | nil (s : BuildState) : Chain f [] s [] [] s
  | cons {a : α} {l : List α} {b : β} {bs : List β} {s s₁ s' : BuildState}
      {t u : List Call.Exchange} :
      Runs (f a) s t (.ok b) s₁ → Chain f l s₁ u bs s' → Chain f (a :: l) s (t ++ u) (b :: bs) s'

theorem Chain.forall₂ {R : α → β → Prop} {l : List α} {bs : List β} (h : Chain f l s t bs s')
    (hR : ∀ a s t b s', Runs (f a) s t (.ok b) s' → R a b) : List.Forall₂ R l bs := by
  induction h with
  | nil => exact .nil
  | cons ha _ ih => exact .cons (hR _ _ _ _ _ ha) ih

theorem runs_mapM_ok_iff {l : List α} {bs : List β} :
    Runs (l.mapM f) s t (.ok bs) s' ↔ Chain f l s t bs s' := by
  induction l generalizing s t bs with
  | nil =>
    rw [List.mapM_nil, runs_pure_iff]
    constructor
    · rintro ⟨rfl, h, rfl⟩; cases h; exact .nil s'
    · intro h; cases h; exact ⟨rfl, rfl, rfl⟩
  | cons a l ih =>
    rw [List.mapM_cons, runs_bind_ok_iff]
    constructor
    · rintro ⟨t₁, t₂, b, s₁, rfl, hb, h⟩
      obtain ⟨u₁, u₂, cs, s₂, rfl, hl, hp⟩ := runs_bind_ok_iff.mp h
      obtain ⟨rfl, he, rfl⟩ := runs_pure_iff.mp hp
      cases he
      rw [List.append_nil]
      exact .cons hb (ih.mp hl)
    · intro h
      cases h with
      | @cons _ _ b bs _ s₁ _ t u hb hl =>
        refine ⟨t, u, b, s₁, rfl, hb, runs_bind_ok_iff.mpr ⟨u, [], bs, s', ?_, ih.mpr hl, ?_⟩⟩
        · rw [List.append_nil]
        · exact runs_pure_iff.mpr ⟨rfl, rfl, rfl⟩

theorem runs_forM_ok_iff {l : List α} {g : α → Build Unit} :
    Runs (l.forM g) s t (.ok ()) s' ↔ ∃ us, Chain g l s t us s' := by
  induction l generalizing s t with
  | nil =>
    refine runs_pure_iff.trans ⟨?_, ?_⟩
    · rintro ⟨rfl, -, rfl⟩; exact ⟨[], .nil s'⟩
    · rintro ⟨us, h⟩; cases h; exact ⟨rfl, rfl, rfl⟩
  | cons a l ih =>
    rw [List.forM_eq_forM, List.forM_cons, runs_bind_ok_iff]
    constructor
    · rintro ⟨t₁, t₂, u, s₁, rfl, ha, h⟩
      obtain ⟨us, h⟩ := ih.mp h
      exact ⟨u :: us, .cons ha h⟩
    · rintro ⟨us, h⟩
      cases h with
      | cons ha h => exact ⟨_, _, _, _, rfl, ha, ih.mpr ⟨_, h⟩⟩

/-! ### Growth -/

/-- Nothing registered or recorded is lost, and no handle is taken or given back. -/
structure Extends (s s' : BuildState) : Prop where
  names : s.registry.names <+: s'.registry.names
  get? : ∀ {name columns}, s.registry.get? name = some columns →
    s'.registry.get? name = some columns
  plan : s.plan <+: s'.plan
  handles : s'.handles = s.handles

theorem Extends.refl (s : BuildState) : Extends s s :=
  ⟨List.prefix_refl _, id, List.prefix_refl _, rfl⟩

theorem Extends.trans {s₁ s₂ s₃ : BuildState} (h : Extends s₁ s₂) (h' : Extends s₂ s₃) :
    Extends s₁ s₃ :=
  ⟨h.names.trans h'.names, h'.get? ∘ h.get?, h.plan.trans h'.plan, h'.handles.trans h.handles⟩

/-- Whatever the answers, the step only adds to the state. -/
def Grows (b : Build α) : Prop := ∀ s t r s', Runs b s t r s' → Extends s s'

theorem grows_pure (a : α) : Grows (pure a) := by
  intro s t r s' h
  obtain ⟨-, -, rfl⟩ := runs_pure_iff.mp h
  exact .refl _

theorem grows_throw (e : PipelineError) : Grows (throw e : Build α) := by
  intro s t r s' h
  obtain ⟨-, -, rfl⟩ := runs_throw_iff.mp h
  exact .refl _

theorem Grows.bind (hb : Grows b) (hf : ∀ a, Grows (f a)) : Grows (b >>= f) := by
  intro s t r s' h
  obtain ⟨_, _, a, _, _, h₁, h₂⟩ | ⟨_, _, h⟩ := runs_bind_iff.mp h
  · exact (hb _ _ _ _ h₁).trans (hf a _ _ _ _ h₂)
  · exact hb _ _ _ _ h

theorem grows_orThrow {ε : Type} (wrap : ε → PipelineError) (x : Except ε α) :
    Grows (orThrow wrap x) := by
  cases x with
  | ok a => exact grows_pure a
  | error e => exact grows_throw _

theorem grows_ask (c : Call) : Grows (ask c) := by
  intro s t r s' h
  obtain ⟨_, -, -, rfl⟩ := runs_ask_iff.mp h
  exact .refl _

theorem grows_record (stage : Stage) (kind : StatementKind) (target sql : String) :
    Grows (record stage kind target sql) := by
  intro s t r s' h
  obtain ⟨-, -, rfl⟩ := runs_record_iff.mp h
  exact ⟨List.prefix_refl _, id, List.prefix_append _ _, rfl⟩

theorem grows_issue (stage : Stage) (kind : StatementKind) (target sql : String) :
    Grows (issue stage kind target sql) :=
  (grows_ask _).bind fun _ => (grows_orThrow _ _).bind fun _ => grows_record _ _ _ _

theorem grows_describe (stage : Stage) (target view : String) :
    Grows (describe stage target view) :=
  (grows_ask _).bind fun _ => grows_orThrow _ _

theorem grows_register (name : String) (columns : List Column) : Grows (register name columns) := by
  intro s t r s' h
  obtain ⟨-, ⟨hn, -, rfl⟩ | ⟨-, -, rfl⟩⟩ := runs_register_iff.mp h
  · exact ⟨List.prefix_append _ _, ViewRegistry.get?_add_of_some hn, List.prefix_refl _, rfl⟩
  · exact .refl _

theorem grows_schema (name : String) : Grows (schema name) := by
  intro s t r s' h
  obtain ⟨-, rfl, -⟩ := runs_schema_iff.mp h
  exact .refl _

theorem grows_forM {l : List α} {g : α → Build Unit} (hg : ∀ a, Grows (g a)) :
    Grows (l.forM g) := by
  induction l with
  | nil => exact grows_pure _
  | cons a l ih => exact (hg a).bind fun _ => ih

theorem grows_mapM {l : List α} (hf : ∀ a, Grows (f a)) : Grows (l.mapM f) := by
  induction l with
  | nil => exact grows_pure _
  | cons a l ih =>
    rw [List.mapM_cons]
    exact (hf a).bind fun _ => ih.bind fun _ => grows_pure _

/-- What every element of a loop establishes, from an invariant of what was exchanged so far and of
the state, holds at the end of the loop if it is not lost on the way. -/
theorem Chain.facts {I : List Call.Exchange → BuildState → Prop}
    {R : α → β → List Call.Exchange → BuildState → Prop} {l : List α} {bs : List β}
    {u : List Call.Exchange} (hf : ∀ a, Grows (f a))
    (hR : ∀ a b u v s s', R a b u s → u <+: v → Extends s s' → R a b v s')
    (hstep : ∀ a ∈ l, ∀ u s t b s', I u s → Runs (f a) s t (.ok b) s' →
      I (u ++ t) s' ∧ R a b (u ++ t) s')
    (h : Chain f l s t bs s') (hI : I u s) :
    I (u ++ t) s' ∧ List.Forall₂ (fun a b => R a b (u ++ t) s') l bs := by
  have hgrows {l s t bs s'} (h : Chain f l s t bs s') : Extends s s' := by
    induction h with
    | nil => exact .refl _
    | cons ha _ ih => exact (hf _ _ _ _ _ ha).trans ih
  induction h generalizing u with
  | nil => simpa using hI
  | @cons a l b bs s s₁ s' t t' ha hl ih =>
    obtain ⟨hI₁, hr⟩ := hstep a (by simp) u s t b s₁ hI ha
    obtain ⟨hI₂, hrs⟩ := ih (fun a ha => hstep a (by simp [ha])) hI₁
    rw [List.append_assoc] at hI₂ hrs
    exact ⟨hI₂, .cons (hR _ _ _ _ _ _ hr ⟨t', by simp⟩ (hgrows hl)) hrs⟩

end Build

end StreamPipeline
