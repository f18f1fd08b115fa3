import StreamPipeline.Proofs.Compile.Runs

/-! # Two runs side by side

Two steps that get the same successes and failures end the same way in the same state, although
what they ask may differ and the texts of the failures may too. One rule for each way to put steps
together, so that a pair of programs is followed through its own shape.
-/

namespace StreamPipeline

/-- The same success in both, or a failure in both. -/
def SameSuccess {ε ε' α : Type} (x : Except ε α) (y : Except ε' α) : Prop :=
  x.toOption = y.toOption

/-- Calls of the same kind get the same success or both fail. -/
def Call.SameAnswer : (c c' : Call) → c.Answer → c'.Answer → Prop
  | .execute _, .execute _, a, b => SameSuccess a b
  | .describe _, .describe _, a, b => SameSuccess a b
  | .submit _, .submit _, a, b => SameSuccess a b
  | .nextAccepted _ _, .nextAccepted _ _, a, b =>
    a.place.val = b.place.val ∧ SameSuccess a.result b.result
  | .wait _ _, .wait _ _, a, b => SameSuccess a b
  | .databaseExists _ _, .databaseExists _ _, a, b => SameSuccess a b
  | .createDatabase _ _, .createDatabase _ _, a, b => SameSuccess a b
  | .executeIn _ _ _, .executeIn _ _ _, a, b => SameSuccess a b
  | _, _, _, _ => True

/-- Corresponding calls get the same answers. -/
def SameAnswers (t t' : List Call.Exchange) : Prop :=
  ∀ (i : Nat) (e e' : Call.Exchange), t[i]? = some e → t'[i]? = some e' →
    Call.SameAnswer e.question e'.question e.answer e'.answer

/-- Errors of one kind that name the same stage and the same statement. -/
structure SameError (e e' : PipelineError) : Prop where
  kind : e.ctorIdx = e'.ctorIdx
  stage : e.stage = e'.stage
  statement : e.statement = e'.statement

theorem SameError.refl (e : PipelineError) : SameError e e := ⟨rfl, rfl, rfl⟩

/-- Related results, or errors that differ in their texts at most. -/
inductive SameEnd {α β : Type} (R : α → β → Prop) :
    Except PipelineError α → Except PipelineError β → Prop where
  | ok {a : α} {b : β} : R a b → SameEnd R (.ok a) (.ok b)
  | error {e e' : PipelineError} : SameError e e' → SameEnd R (.error e) (.error e')

theorem SameEnd.refl {α : Type} (r : Except PipelineError α) : SameEnd Eq r r := by
  cases r with
  | error e => exact .error (.refl e)
  | ok a => exact .ok rfl

/-! ### Answers of parts -/

theorem SameAnswers.left {t t' u u' : List Call.Exchange} (h : SameAnswers (t ++ u) (t' ++ u')) :
    SameAnswers t t' := by
  intro i e e' he he'
  obtain ⟨hi, -⟩ := List.getElem?_eq_some_iff.mp he
  obtain ⟨hi', -⟩ := List.getElem?_eq_some_iff.mp he'
  refine h i e e' ?_ ?_
  · rwa [List.getElem?_append_left hi]
  · rwa [List.getElem?_append_left hi']

theorem SameAnswers.right {t t' u u' : List Call.Exchange} (h : SameAnswers (t ++ u) (t' ++ u'))
    (hl : t.length = t'.length) : SameAnswers u u' := by
  intro i e e' he he'
  refine h (t.length + i) e e' ?_ ?_
  · rwa [List.getElem?_append_right (by omega), Nat.add_sub_cancel_left]
  · rwa [hl, List.getElem?_append_right (by omega), Nat.add_sub_cancel_left]

namespace Build

variable {α β γ δ : Type} {b : Build α} {b' : Build β} {f : α → Build γ} {f' : β → Build δ}
  {R : α → β → Prop} {S : γ → δ → Prop}

/-- From one state and with the same answers, the steps ask equally often, end the same way and
leave the same state. -/
def Twins (R : α → β → Prop) (b : Build α) (b' : Build β) : Prop :=
  ∀ s t r s₁ t' r' s₁', Runs b s t r s₁ → Runs b' s t' r' s₁' → SameAnswers t t' →
    t.length = t'.length ∧ SameEnd R r r' ∧ s₁ = s₁'

theorem twins_pure {a : α} {a' : β} (h : R a a') : Twins R (pure a) (pure a') := by
  intro s t r s₁ t' r' s₁' hr hr' _
  obtain ⟨rfl, rfl, rfl⟩ := runs_pure_iff.mp hr
  obtain ⟨rfl, rfl, rfl⟩ := runs_pure_iff.mp hr'
  exact ⟨rfl, .ok h, rfl⟩

theorem twins_throw {e e' : PipelineError} (h : SameError e e') :
    Twins R (throw e) (throw e') := by
  intro s t r s₁ t' r' s₁' hr hr' _
  obtain ⟨rfl, rfl, rfl⟩ := runs_throw_iff.mp hr
  obtain ⟨rfl, rfl, rfl⟩ := runs_throw_iff.mp hr'
  exact ⟨rfl, .error h, rfl⟩

/-- The first parts ask equally often, so the answers to the second parts correspond again. -/
theorem Twins.bind (hb : Twins R b b') (hf : ∀ a a', R a a' → Twins S (f a) (f' a')) :
    Twins S (b >>= f) (b' >>= f') := by
  intro s t r s₁ t' r' s₁' hr hr' ht
  obtain ⟨t₁, t₂, a, u, rfl, h₁, h₂⟩ | ⟨e, rfl, he⟩ := runs_bind_iff.mp hr <;>
    obtain ⟨t₁', t₂', a', u', rfl, h₁', h₂'⟩ | ⟨e', rfl, he'⟩ := runs_bind_iff.mp hr'
  · obtain ⟨hl, ⟨ha⟩ | _, rfl⟩ := hb _ _ _ _ _ _ _ h₁ h₁' ht.left
    obtain ⟨hl', hend, hs⟩ := hf _ _ ha _ _ _ _ _ _ _ h₂ h₂' (ht.right hl)
    exact ⟨by rw [List.length_append, List.length_append, hl, hl'], hend, hs⟩
  · rw [← List.append_nil t'] at ht
    obtain ⟨-, hend, -⟩ := hb _ _ _ _ _ _ _ h₁ he' ht.left
    cases hend
  · rw [← List.append_nil t] at ht
    obtain ⟨-, hend, -⟩ := hb _ _ _ _ _ _ _ he h₁' ht.left
    cases hend
  · obtain ⟨hl, hend, hs⟩ := hb _ _ _ _ _ _ _ he he' ht
    cases hend with | error h => exact ⟨hl, .error h, hs⟩

/-- A step that asks nobody ends one way. -/
theorem twins_of_done {b : Build α} {g : BuildState → Except PipelineError α × BuildState}
    (h : ∀ s, StateT.run (ExceptT.run b) s = Dialogue.done (g s)) : Twins Eq b b := by
  intro s t r s₁ t' r' s₁' hr hr' _
  unfold Runs at hr hr'
  rw [h s] at hr hr'
  obtain ⟨rfl, hg⟩ := Dialogue.run_done_iff.mp hr
  obtain ⟨rfl, hg'⟩ := Dialogue.run_done_iff.mp hr'
  obtain ⟨rfl, rfl⟩ := Prod.mk.inj (hg.trans hg'.symm)
  exact ⟨rfl, .refl _, rfl⟩

theorem twins_get : Twins Eq (get : Build BuildState) get := twins_of_done fun _ => rfl

theorem twins_record (stage : Stage) (kind : StatementKind) (target sql : String) :
    Twins Eq (record stage kind target sql) (record stage kind target sql) :=
  twins_of_done fun _ => rfl

theorem twins_count (g : Handles → Handles) : Twins Eq (count g) (count g) :=
  twins_of_done fun _ => rfl

theorem Twins.holding (h : Twins R b b') : Twins R (holding b) (holding b') := by
  intro s t r s₁ t' r' s₁' hr hr' ht
  obtain ⟨u, hu, rfl⟩ := runs_holding_iff.mp hr
  obtain ⟨u', hu', rfl⟩ := runs_holding_iff.mp hr'
  obtain ⟨hl, hend, rfl⟩ := h _ _ _ _ _ _ _ hu hu' ht
  exact ⟨hl, hend, rfl⟩

/-- What is computed alike fails alike. -/
theorem twins_computed {ε : Type} (wrap : ε → PipelineError) (x : Except ε α) :
    Twins Eq (orThrow wrap x) (orThrow wrap x) := by
  cases x with
  | ok a => exact twins_pure rfl
  | error e => exact twins_throw (.refl _)

theorem twins_register (name : String) (columns : List Column) :
    Twins Eq (register name columns) (register name columns) := by
  unfold register
  refine twins_get.bind ?_
  rintro s _ rfl
  refine (twins_computed _ _).bind ?_
  rintro registry _ rfl
  exact twins_of_done fun _ => rfl

theorem twins_schema (name : String) : Twins Eq (schema name) (schema name) := by
  unfold schema
  refine twins_get.bind ?_
  rintro s _ rfl
  cases s.registry.get? name with
  | some columns => exact twins_pure rfl
  | none => exact twins_throw (.refl _)

/-! ### Calls -/

theorem twins_ask (c c' : Call) : Twins (Call.SameAnswer c c') (ask c) (ask c') := by
  intro s t r s₁ t' r' s₁' hr hr' ht
  obtain ⟨a, rfl, rfl, rfl⟩ := runs_ask_iff.mp hr
  obtain ⟨a', rfl, rfl, rfl⟩ := runs_ask_iff.mp hr'
  exact ⟨rfl, .ok (ht 0 _ _ rfl rfl), rfl⟩

/-- A success is passed on, and the errors of a failure differ in their texts at most. -/
theorem twins_orThrow {ε ε' : Type} {wrap : ε → PipelineError} {wrap' : ε' → PipelineError}
    {x : Except ε α} {y : Except ε' α} (h : SameSuccess x y)
    (hw : ∀ e e', SameError (wrap e) (wrap' e')) : Twins Eq (orThrow wrap x) (orThrow wrap' y) := by
  cases x with
  | ok a =>
    cases y with
    | ok b => cases h; exact twins_pure rfl
    | error e => cases h
  | error e =>
    cases y with
    | ok b => cases h
    | error e' => exact twins_throw (hw e e')

theorem sameError_refused (stage : Stage) (target statement : String) (e e' : RuntimeError) :
    SameError (refused stage target statement e) (refused stage target statement e') := by
  cases stage <;> exact ⟨rfl, rfl, rfl⟩

/-- Only what is shown of a statement decides how it is issued. -/
theorem twins_issue {sql sql' : String} (h : Sql.redact sql = Sql.redact sql') (stage : Stage)
    (kind : StatementKind) (target : String) :
    Twins Eq (issue stage kind target sql) (issue stage kind target sql') := by
  unfold issue
  rw [← h]
  refine (twins_ask (.execute sql) (.execute sql')).bind fun a a' ha => ?_
  refine (twins_orThrow ha (sameError_refused _ _ _)).bind fun _ _ _ => ?_
  exact twins_record _ _ _ _

theorem twins_describe (stage : Stage) (target view : String) :
    Twins Eq (describe stage target view) (describe stage target view) := by
  unfold describe
  refine (twins_ask (.describe view) (.describe view)).bind fun a a' ha => ?_
  exact twins_orThrow ha (sameError_refused _ _ _)

/-! ### Loops -/

theorem twins_forM {g : α → Build Unit} (hg : ∀ a, Twins Eq (g a) (g a)) (l : List α) :
    Twins Eq (l.forM g) (l.forM g) := by
  induction l with
  | nil => exact twins_pure rfl
  | cons a l ih => exact (hg a).bind fun _ _ _ => ih

theorem twins_mapM {P : α → β → Prop} (hf : ∀ a a', P a a' → Twins S (f a) (f' a')) {l : List α}
    {l' : List β} (h : List.Forall₂ P l l') :
    Twins (List.Forall₂ S) (l.mapM f) (l'.mapM f') := by
  induction h with
  | nil => exact twins_pure .nil
  | cons ha _ ih =>
    rw [List.mapM_cons, List.mapM_cons]
    refine (hf _ _ ha).bind fun b b' hb => ?_
    refine ih.bind fun bs bs' hbs => ?_
    exact twins_pure (.cons hb hbs)

end Build

end StreamPipeline
