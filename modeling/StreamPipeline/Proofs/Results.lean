import Mathlib.Data.List.Forall2

/-! # Results that may be errors

When a result is the one that was wanted, and when all results of a list are.
-/

namespace StreamPipeline

variable {ε α β : Type}

theorem toOption_eq_some_iff {x : Except ε α} {a : α} : x.toOption = some a ↔ x = .ok a := by
  cases x <;> simp [Except.toOption]

theorem exists_ok_iff_forall_ne_error {x : Except ε α} : (∃ a, x = .ok a) ↔ ∀ e, x ≠ .error e := by
  cases x <;> simp

/-- A loop has a result exactly if each of its steps has. -/
theorem mapM_eq_ok_iff {f : α → Except ε β} {l : List α} {bs : List β} :
    l.mapM f = .ok bs ↔ List.Forall₂ (fun a b => f a = .ok b) l bs := by
  induction l generalizing bs with
  | nil =>
    rw [List.mapM_nil, List.forall₂_nil_left_iff]
    exact ⟨fun h => (Except.ok.inj h).symm, fun h => congrArg Except.ok h.symm⟩
  | cons a l ih =>
    rw [List.mapM_cons, List.forall₂_cons_left_iff]
    cases ha : f a with
    | error e => simp [bind, Except.bind]
    | ok b =>
      cases hl : l.mapM f with
      | error e =>
        have hno : ∀ cs, ¬ List.Forall₂ (fun a b => f a = .ok b) l cs := fun cs hcs => by
          rw [ih.mpr hcs] at hl
          cases hl
        simp [bind, Except.bind, hno]
      | ok cs =>
        have hcs (ds : List β) : List.Forall₂ (fun a b => f a = .ok b) l ds ↔ cs = ds := by
          rw [← ih, hl, Except.ok.injEq]
        simp [bind, Except.bind, pure, Except.pure, hcs, eq_comm]

end StreamPipeline
