import Mathlib.Order.Defs.PartialOrder
import StreamPipeline.Dialogue.Basic

/-! # Dialogues side by side

Several dialogues are answered from one state that they share, a question at a time and in any
order. A dialogue that only adds to the shared state, below a goal and whatever the others add in
between, can be followed alone: any number of such dialogues end as each of them ends.
-/

namespace StreamPipeline.Dialogue

variable {Q : Type} {A : Q → Type} {σ κ τ α β : Type}

/-- What a question leads to: its answer, the shared state, and the state of the one who asked. -/
structure Reply (A : Q → Type) (σ κ : Type) (q : Q) where
  answer : A q
  shared : σ
  own : κ

/-- How questions are answered. The choice stands for what their answerer is free to do. -/
abbrev Responder (A : Q → Type) (σ κ τ : Type) := τ → σ → κ → (q : Q) → Reply A σ κ q

/-- A dialogue with the state that the answerer keeps for it. -/
structure Party (A : Q → Type) (κ α : Type) where
  own : κ
  dialogue : Dialogue Q A α

def Party.result? (p : Party A κ α) : Option α :=
  match p.dialogue with
  | .done a => some a
  | .ask _ _ => none

structure Meeting (A : Q → Type) (σ κ α : Type) where
  shared : σ
  parties : List (Party A κ α)

/-- Whose question is answered next, and with which choice. -/
structure Turn (τ : Type) where
  party : Nat
  choice : τ

namespace Meeting

/-- One answer. Nothing happens on the turn of a party that has ended. -/
def turn (respond : Responder A σ κ τ) (w : Meeting A σ κ α) (t : Turn τ) : Meeting A σ κ α :=
  match w.parties[t.party]? with
  | some ⟨own, .ask q next⟩ =>
    let reply := respond t.choice w.shared own q
    ⟨reply.shared, w.parties.set t.party ⟨reply.own, next reply.answer⟩⟩
  | _ => w

def run (respond : Responder A σ κ τ) (w : Meeting A σ κ α) (turns : List (Turn τ)) :
    Meeting A σ κ α := turns.foldl (turn respond) w

theorem length_turn (respond : Responder A σ κ τ) (w : Meeting A σ κ α) (t : Turn τ) :
    (w.turn respond t).parties.length = w.parties.length := by
  unfold turn
  split
  · simp
  · rfl

theorem length_run (respond : Responder A σ κ τ) (w : Meeting A σ κ α) (turns : List (Turn τ)) :
    (w.run respond turns).parties.length = w.parties.length := by
  induction turns generalizing w with
  | nil => rfl
  | cons t turns ih => exact (ih _).trans (length_turn respond w t)

end Meeting

/-! ### One dialogue -/

/-- How questions are answered, by which choices, and how far the shared state may grow. -/
structure Setting (A : Q → Type) (σ κ τ : Type) where
  respond : Responder A σ κ τ
  allowed : τ → Prop
  goal : σ

namespace Setting

variable [Preorder σ]

/-- Whatever is added to the shared state before each question, the dialogue asks at most so many
questions, only adds to the shared state itself, and ends as `post` says. -/
def Settles (S : Setting A σ κ τ) (post : α → σ → κ → Prop) : Nat → Dialogue Q A α → σ → κ → Prop
  | _, .done a, s, k => ∀ s', s ≤ s' → s' ≤ S.goal → post a s' k
  | 0, .ask _ _, _, _ => False
  | n + 1, .ask q next, s, k => ∀ s', s ≤ s' → s' ≤ S.goal → ∀ c, S.allowed c →
      s' ≤ (S.respond c s' k q).shared ∧ (S.respond c s' k q).shared ≤ S.goal ∧
        S.Settles post n (next (S.respond c s' k q).answer) (S.respond c s' k q).shared
          (S.respond c s' k q).own

variable {S : Setting A σ κ τ} {post : α → σ → κ → Prop} {post' : β → σ → κ → Prop} {n m : Nat}
  {d : Dialogue Q A α} {s s' : σ} {k : κ}

theorem settles_done {a : α} : S.Settles post n (.done a) s k ↔
    ∀ s', s ≤ s' → s' ≤ S.goal → post a s' k := by
  cases n <;> rfl

theorem settles_ask {q : Q} {next : A q → Dialogue Q A α} :
    S.Settles post (n + 1) (.ask q next) s k ↔ ∀ s', s ≤ s' → s' ≤ S.goal → ∀ c, S.allowed c →
      s' ≤ (S.respond c s' k q).shared ∧ (S.respond c s' k q).shared ≤ S.goal ∧
        S.Settles post n (next (S.respond c s' k q).answer) (S.respond c s' k q).shared
          (S.respond c s' k q).own := Iff.rfl

theorem Settles.later (h : S.Settles post n d s k) (hs : s ≤ s') : S.Settles post n d s' k := by
  cases d with
  | done a =>
    rw [settles_done] at h ⊢
    exact fun t ht => h t (le_trans hs ht)
  | ask q next =>
    cases n with
    | zero => exact h
    | succ n => exact fun t ht => h t (le_trans hs ht)

theorem Settles.mono (h : S.Settles post n d s k) (hn : n ≤ m) : S.Settles post m d s k := by
  induction n generalizing m d s k with
  | zero =>
    cases d with
    | done a => exact settles_done.mpr (settles_done.mp h)
    | ask q next => exact h.elim
  | succ n ih =>
    cases d with
    | done a => exact settles_done.mpr (settles_done.mp h)
    | ask q next =>
      cases m with
      | zero => exact absurd hn (Nat.not_succ_le_zero n)
      | succ m =>
        intro t ht hg c hc
        obtain ⟨hgrows, hgoal, hnext⟩ := h t ht hg c hc
        exact ⟨hgrows, hgoal, ih hnext (Nat.le_of_succ_le_succ hn)⟩

/-- One dialogue after the other. What the first ends with lasts while the shared state grows. -/
theorem Settles.bind {f : α → Dialogue Q A β} (h : S.Settles post n d s k) (hs : s ≤ S.goal)
    (hf : ∀ a s' k', s ≤ s' → s' ≤ S.goal → (∀ t, s' ≤ t → t ≤ S.goal → post a t k') →
      S.Settles post' m (f a) s' k') :
    S.Settles post' (n + m) (d.bind f) s k := by
  induction n generalizing d s k with
  | zero =>
    cases d with
    | done a =>
      rw [Nat.zero_add]
      exact hf a s k le_rfl hs (settles_done.mp h)
    | ask q next => exact h.elim
  | succ n ih =>
    cases d with
    | done a =>
      have hend := hf a s k le_rfl hs (settles_done.mp h)
      exact hend.mono (Nat.le_add_left _ _)
    | ask q next =>
      rw [ask_bind, Nat.succ_add, settles_ask]
      intro t ht hg c hc
      obtain ⟨hgrows, hgoal, hnext⟩ := h t ht hg c hc
      refine ⟨hgrows, hgoal, ih hnext hgoal fun a s' k' hle => ?_⟩
      exact hf a s' k' (le_trans ht (le_trans hgrows hle))

theorem Settles.imp {post' : α → σ → κ → Prop} (h : S.Settles post n d s k) (hs : s ≤ S.goal)
    (hpost : ∀ a t k', s ≤ t → t ≤ S.goal → post a t k' → post' a t k') :
    S.Settles post' n d s k := by
  rw [← bind_done d]
  refine Settles.bind (m := 0) h hs fun a s' k' hle _ hlast => settles_done.mpr fun t ht hg => ?_
  exact hpost a t k' (le_trans hle ht) hg (hlast t ht hg)

/-- A result that is only passed on. -/
theorem Settles.map {f : α → β} (h : S.Settles post n d s k) (hs : s ≤ S.goal)
    (hf : ∀ a s' k', post a s' k' → post' (f a) s' k') :
    S.Settles post' n (d.bind fun a => .done (f a)) s k := by
  refine Settles.bind (m := 0) h hs fun a s' k' _ _ hpost => ?_
  exact settles_done.mpr fun t ht hg => hf a t k' (hpost t ht hg)

/-! ### Dialogues that may fail -/

/-- The dialogue settles without an error. -/
def Succeeds {ε : Type} (S : Setting A σ κ τ) (post : α → σ → κ → Prop) (n : Nat)
    (x : ExceptT ε (Dialogue Q A) α) (s : σ) (k : κ) : Prop :=
  S.Settles (fun r s k => ∃ a, r = .ok a ∧ post a s k) n x.run s k

section Succeeds

variable {ε ε' : Type} {x : ExceptT ε (Dialogue Q A) α} {f : α → ExceptT ε (Dialogue Q A) β}

theorem succeeds_pure {a : α} (h : ∀ s', s ≤ s' → s' ≤ S.goal → post a s' k) :
    S.Succeeds post n (pure a : ExceptT ε (Dialogue Q A) α) s k :=
  settles_done.mpr fun s' hs hg => ⟨a, rfl, h s' hs hg⟩

theorem Succeeds.bind (h : S.Succeeds post n x s k) (hs : s ≤ S.goal)
    (hf : ∀ a s' k', s ≤ s' → s' ≤ S.goal → (∀ t, s' ≤ t → t ≤ S.goal → post a t k') →
      S.Succeeds post' m (f a) s' k') :
    S.Succeeds post' (n + m) (x >>= f) s k := by
  refine Settles.bind h hs fun r s' k' hle hg hpost => ?_
  obtain ⟨a, rfl, -⟩ := hpost s' le_rfl hg
  refine hf a s' k' hle hg fun t ht hgt => ?_
  obtain ⟨b, hb, hp⟩ := hpost t ht hgt
  cases hb
  exact hp

/-- How an error would be reported does not matter. -/
theorem Succeeds.adapt (h : S.Succeeds post n x s k) (hs : s ≤ S.goal) (g : ε → ε') :
    S.Succeeds post n (x.adapt g) s k := by
  refine Settles.map (f := Except.mapError g) h hs ?_
  rintro r s' k' ⟨a, rfl, hp⟩
  exact ⟨a, rfl, hp⟩

end Succeeds

end Setting

/-! ### All dialogues -/

namespace Meeting

variable [Preorder σ] {S : Setting A σ κ τ} {post : α → σ → κ → Prop} {budget : Nat → Nat}
  {start : σ} {w : Meeting A σ κ α}

/-- The shared state has grown, and each party settles with the questions that it has left. -/
structure Settled (S : Setting A σ κ τ) (post : α → σ → κ → Prop) (start : σ) (budget : Nat → Nat)
    (w : Meeting A σ κ α) : Prop where
  grown : start ≤ w.shared
  below : w.shared ≤ S.goal
  parties : ∀ i p, w.parties[i]? = some p → S.Settles post (budget i) p.dialogue w.shared p.own

/-- A turn takes a question from the party that it belongs to, and from the others nothing. -/
theorem Settled.turn (h : w.Settled S post start budget) {t : Turn τ} (ht : S.allowed t.choice) :
    (w.turn S.respond t).Settled S post start
      fun i => budget i - if i = t.party then 1 else 0 := by
  unfold Meeting.turn
  split
  next own q next hp =>
    have hparty := h.parties t.party _ hp
    cases hb : budget t.party with
    | zero => rw [hb] at hparty; exact hparty.elim
    | succ n =>
      rw [hb] at hparty
      obtain ⟨hgrows, hgoal, hnext⟩ := hparty w.shared le_rfl h.below t.choice ht
      refine ⟨le_trans h.grown hgrows, hgoal, fun i p hi => ?_⟩
      rw [List.getElem?_set] at hi
      split at hi
      next hti =>
        subst hti
        split at hi
        · cases hi
          rw [if_pos rfl, hb]
          exact hnext
        · cases hi
      next hti =>
        rw [if_neg (Ne.symm hti)]
        exact (h.parties i p hi).later hgrows
  next hnot =>
    refine ⟨h.grown, h.below, fun i p hi => ?_⟩
    split
    next hti =>
      -- The party has ended, so it needs no question any more.
      subst hti
      obtain ⟨own, d⟩ := p
      cases d with
      | done a => exact Setting.settles_done.mpr (Setting.settles_done.mp (h.parties _ _ hi))
      | ask q next => exact absurd hi (hnot own q next)
    next => exact h.parties i p hi

/-- However the questions are answered in turn, the parties settle. -/
theorem Settled.run (h : w.Settled S post start budget) {turns : List (Turn τ)}
    (ht : ∀ t ∈ turns, S.allowed t.choice) :
    (w.run S.respond turns).Settled S post start
      fun i => budget i - (turns.map Turn.party).count i := by
  induction turns generalizing w budget with
  | nil => exact h
  | cons t turns ih =>
    obtain ⟨hfirst, hrest⟩ := List.forall_mem_cons.mp ht
    have hrun := ih (h.turn hfirst) hrest
    have hcount (i : Nat) : budget i - ((t :: turns).map Turn.party).count i =
        budget i - (if i = t.party then 1 else 0) - (turns.map Turn.party).count i := by
      rw [List.map_cons, List.count_cons]
      by_cases hi : i = t.party
      · simp [hi]; omega
      · simp [hi, Ne.symm hi]
    simp only [hcount]
    exact hrun

theorem Settled.result (h : w.Settled S post start budget) {p : Party A κ α} (hp : p ∈ w.parties)
    {a : α} (ha : p.result? = some a) : post a w.shared p.own := by
  obtain ⟨i, hi⟩ := List.mem_iff_getElem?.mp hp
  have hsettles := h.parties i p hi
  obtain ⟨own, d⟩ := p
  cases d with
  | done b =>
    cases ha
    exact Setting.settles_done.mp hsettles w.shared le_rfl h.below
  | ask q next => cases ha

/-- A party without questions left has ended. -/
theorem Settled.ended (h : w.Settled S post start budget) {i : Nat} {p : Party A κ α}
    (hp : w.parties[i]? = some p) (hb : budget i = 0) : ∃ a, p.result? = some a := by
  have hsettles := h.parties i p hp
  rw [hb] at hsettles
  obtain ⟨own, d⟩ := p
  cases d with
  | done a => exact ⟨a, rfl⟩
  | ask q next => exact hsettles.elim

end Meeting

end StreamPipeline.Dialogue
