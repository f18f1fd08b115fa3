/-! # Dialogues

A computation that asks questions and goes on with the answers. Whoever answers decides nothing but
the answers, so a statement over all answers holds of every collaborator.
-/

namespace StreamPipeline

inductive Dialogue (Q : Type) (A : Q → Type) (α : Type) where
  | done (a : α)
  | ask (q : Q) (next : A q → Dialogue Q A α)

namespace Dialogue

variable {Q : Type} {A : Q → Type} {α β σ : Type}

def bind : Dialogue Q A α → (α → Dialogue Q A β) → Dialogue Q A β
  | done a, f => f a
  | ask q next, f => ask q fun a => bind (next a) f

instance : Monad (Dialogue Q A) where
  pure := done
  bind := bind

/-- A single question. -/
def call (q : Q) : Dialogue Q A (A q) := ask q done

/-- The result under answers that may depend on what was asked before. -/
def answer (respond : (q : Q) → σ → A q × σ) : Dialogue Q A α → σ → α × σ
  | done a, s => (a, s)
  | ask q next, s =>
    let r := respond q s
    answer respond (next r.1) r.2

/-- The result when every question is answered by an action. -/
def interpret {m : Type → Type} [Monad m] (handle : (q : Q) → m (A q)) : Dialogue Q A α → m α
  | done a => pure a
  | ask q next => handle q >>= fun a => interpret handle (next a)

@[simp] theorem done_bind (a : α) (f : α → Dialogue Q A β) : bind (done a) f = f a := rfl

@[simp] theorem ask_bind (q : Q) (next : A q → Dialogue Q A α) (f : α → Dialogue Q A β) :
    bind (ask q next) f = ask q fun a => bind (next a) f := rfl

@[simp] theorem bind_done (d : Dialogue Q A α) : bind d done = d := by
  induction d with
  | done a => rfl
  | ask q next ih => simp [ih]

theorem bind_assoc {γ : Type} (d : Dialogue Q A α) (f : α → Dialogue Q A β)
    (g : β → Dialogue Q A γ) : bind (bind d f) g = bind d fun a => bind (f a) g := by
  induction d with
  | done a => rfl
  | ask q next ih => simp [ih]

instance : LawfulMonad (Dialogue Q A) :=
  LawfulMonad.mk' (Dialogue Q A) bind_done (fun _ _ => rfl) bind_assoc

/-- Answers to a whole are answers to its parts in turn. -/
theorem answer_bind (respond : (q : Q) → σ → A q × σ) (d : Dialogue Q A α)
    (f : α → Dialogue Q A β) (s : σ) :
    answer respond (bind d f) s =
      answer respond (f (answer respond d s).1) (answer respond d s).2 := by
  induction d generalizing s with
  | done a => rfl
  | ask q next ih => exact ih _ _

end Dialogue

end StreamPipeline
