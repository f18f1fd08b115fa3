import StreamPipeline.Dialogue.Basic

/-! # Runs of a dialogue

A run is the list of questions with the answers that they got, and the result. Every way to answer
gives a run, and a run of a sequence is a run of its first part followed by one of the second.
-/

namespace StreamPipeline.Dialogue

variable {Q : Type} {A : Q → Type} {α β σ : Type}

/-- A question and the answer that it got. -/
structure Exchange (Q : Type) (A : Q → Type) where
  question : Q
  answer : A question

inductive Run : Dialogue Q A α → List (Exchange Q A) → α → Prop where
  | done (a : α) : Run (done a) [] a
  | ask {q : Q} {next : A q → Dialogue Q A α} {t : List (Exchange Q A)} {b : α} (a : A q) :
      Run (next a) t b → Run (ask q next) (⟨q, a⟩ :: t) b

theorem run_done_iff {a b : α} {t : List (Exchange Q A)} :
    Run (done a : Dialogue Q A α) t b ↔ t = [] ∧ b = a := by
  constructor
  · intro h; cases h; exact ⟨rfl, rfl⟩
  · rintro ⟨rfl, rfl⟩; exact .done _

theorem run_ask_iff {q : Q} {next : A q → Dialogue Q A α} {t : List (Exchange Q A)} {b : α} :
    Run (.ask q next) t b ↔ ∃ a u, t = ⟨q, a⟩ :: u ∧ Run (next a) u b := by
  constructor
  · intro h; cases h with | ask a h => exact ⟨a, _, rfl, h⟩
  · rintro ⟨a, u, rfl, h⟩; exact .ask a h

theorem Run.bind {d : Dialogue Q A α} {f : α → Dialogue Q A β} {t u : List (Exchange Q A)} {a : α}
    {b : β} (hd : Run d t a) (hf : Run (f a) u b) : Run (d.bind f) (t ++ u) b := by
  induction hd with
  | done => exact hf
  | ask a _ ih => exact .ask a (ih hf)

theorem run_bind_iff {d : Dialogue Q A α} {f : α → Dialogue Q A β} {t : List (Exchange Q A)}
    {b : β} :
    Run (d.bind f) t b ↔ ∃ t₁ t₂ a, t = t₁ ++ t₂ ∧ Run d t₁ a ∧ Run (f a) t₂ b := by
  constructor
  · intro h
    induction d generalizing t with
    | done a => exact ⟨[], t, a, rfl, .done a, h⟩
    | ask q next ih =>
      obtain ⟨a, u, rfl, hu⟩ := run_ask_iff.mp h
      obtain ⟨t₁, t₂, c, rfl, h₁, h₂⟩ := ih a hu
      exact ⟨⟨q, a⟩ :: t₁, t₂, c, rfl, .ask a h₁, h₂⟩
  · rintro ⟨t₁, t₂, a, rfl, h₁, h₂⟩
    exact h₁.bind h₂

/-- The answers decide the run: of two runs that are answered alike, neither goes on after the
other has ended. -/
theorem Run.unique {d : Dialogue Q A α} {t t' u u' : List (Exchange Q A)} {a a' : α}
    (h : Run d t a) (h' : Run d t' a') (he : t ++ u = t' ++ u') : t = t' ∧ a = a' := by
  induction h generalizing t' with
  | done a =>
    obtain ⟨rfl, rfl⟩ := run_done_iff.mp h'
    exact ⟨rfl, rfl⟩
  | ask a h ih =>
    obtain ⟨b, v, rfl, hv⟩ := run_ask_iff.mp h'
    simp only [List.cons_append, List.cons.injEq, Exchange.mk.injEq, true_and] at he
    obtain ⟨hab, he⟩ := he
    obtain rfl := eq_of_heq hab
    obtain ⟨rfl, rfl⟩ := ih hv he
    exact ⟨rfl, rfl⟩

/-- What was answered so far decides what is asked next. -/
theorem Run.question_eq {d : Dialogue Q A α} {t u u' : List (Exchange Q A)} {e e' : Exchange Q A}
    {b b' : α} (h : Run d (t ++ e :: u) b) (h' : Run d (t ++ e' :: u') b') :
    e.question = e'.question := by
  induction t generalizing d with
  | nil =>
    cases h with
    | ask a _ => cases h' with | ask a' _ => rfl
  | cons x t ih =>
    cases h with
    | ask a h => cases h' with | ask a' h' => exact ih h h'

/-- After the same exchanges the same question got the same answer. -/
def AnsweredAlike (t t' : List (Exchange Q A)) : Prop :=
  ∀ v q (a a' : A q) u u', t = v ++ ⟨q, a⟩ :: u → t' = v ++ ⟨q, a'⟩ :: u' → a = a'

theorem AnsweredAlike.tail {e : Exchange Q A} {t t' : List (Exchange Q A)}
    (h : AnsweredAlike (e :: t) (e :: t')) : AnsweredAlike t t' := by
  rintro v q a a' u u' rfl rfl
  exact h (e :: v) q a a' u u' rfl rfl

theorem AnsweredAlike.of_prefix {t t' w : List (Exchange Q A)} (h : AnsweredAlike t w)
    (hw : t' <+: w) : AnsweredAlike t t' := by
  rintro v q a a' u u' rfl rfl
  obtain ⟨x, rfl⟩ := hw
  exact h v q a a' u (u' ++ x) rfl (by simp)

/-- Two runs that are answered alike are the same. -/
theorem Run.eq_of_answeredAlike {d : Dialogue Q A α} {t t' : List (Exchange Q A)} {b b' : α}
    (h : Run d t b) (h' : Run d t' b') (ha : AnsweredAlike t t') : t = t' ∧ b = b' := by
  induction h generalizing t' with
  | done b =>
    obtain ⟨rfl, rfl⟩ := run_done_iff.mp h'
    exact ⟨rfl, rfl⟩
  | @ask q next t b a h ih =>
    obtain ⟨a', u, rfl, hu⟩ := run_ask_iff.mp h'
    obtain rfl : a = a' := ha [] q a a' t u rfl rfl
    obtain ⟨rfl, rfl⟩ := ih hu ha.tail
    exact ⟨rfl, rfl⟩

/-- The exchanges under answers that may depend on what was asked before. -/
def transcript (respond : (q : Q) → σ → A q × σ) : Dialogue Q A α → σ → List (Exchange Q A)
  | done _, _ => []
  | ask q next, s =>
    let r := respond q s
    ⟨q, r.1⟩ :: transcript respond (next r.1) r.2

theorem answer_of_mem_transcript {respond : (q : Q) → σ → A q × σ} {d : Dialogue Q A α} {s : σ}
    {e : Exchange Q A} (h : e ∈ d.transcript respond s) :
    ∃ s', e.answer = (respond e.question s').1 := by
  induction d generalizing s with
  | done a => cases h
  | ask q next ih =>
    rcases List.mem_cons.mp h with rfl | h
    · exact ⟨s, rfl⟩
    · exact ih _ h

/-- Every way to answer gives a run. -/
theorem run_transcript (respond : (q : Q) → σ → A q × σ) (d : Dialogue Q A α) (s : σ) :
    Run d (d.transcript respond s) (d.answer respond s).1 := by
  induction d generalizing s with
  | done a => exact .done a
  | ask q next ih => exact .ask _ (ih _ _)

end StreamPipeline.Dialogue
