import StreamPipeline.Gateway.Turns
import StreamPipeline.Proofs.Gateway.Requests

/-! # Waits whose turns are open

Whoever has the next turn, each request is one that some wait sends alone, and an insert is decided
as its wait decides alone on the replies that it has heard.
-/

namespace StreamPipeline

open Http

namespace Http.Exchange

variable {α : Type} {P : Request → Prop} {x : Exchange α}

theorem sends_emit {request : Request} (h : P request) : Sends P (emit request) := by
  intro replies r hr
  obtain rfl := List.mem_singleton.mp hr
  exact h

theorem sends_receive : Sends P receive := by
  rintro (_ | ⟨reply, rest⟩) r ⟨⟩

namespace Progress

theorem sends_turn (h : Sends P x) (p : Progress) : Sends P (p.turn x) := by
  unfold turn
  split
  next request hr =>
    exact (sends_emit (h p.heard request (List.mem_of_getElem? hr))).bind fun _ => sends_pure _
  next =>
    split
    · exact sends_pure _
    · exact sends_receive.bind fun _ => sends_pure _

theorem sends_finish (h : Sends P x) (p : Progress) : Sends P (p.finish x) := by
  intro replies r hr
  exact h (p.heard ++ replies) r (List.mem_of_mem_drop hr)

/-- An exchange ends in its turn with what it ends with on the replies that it has heard. -/
theorem of_turn_stop {p : Progress} {replies left : List Reply} {a : α}
    (h : (p.turn x replies).2 = some (.stop a, left)) :
    ∃ rest, (x p.heard).2 = some (a, rest) := by
  unfold turn at h
  cases hr : (x p.heard).1[p.sent]? with
  | some request => rw [hr] at h; cases h
  | none =>
    cases hx : (x p.heard).2 with
    | some r => rw [hr, hx] at h; cases h; exact ⟨_, rfl⟩
    | none => rw [hr, hx] at h; cases replies <;> cases h

end Progress

end Http.Exchange

namespace Gateway.Session

open Http.Exchange (Sends Progress)

variable (s : Session) (first : PendingJob) (rest : List PendingJob) (turns : List Nat)
  (progress : Nat → Progress)

/-- In whatever turns the waits go on, what they send is what they send alone. -/
theorem sends_next {P : Request → Prop} (h : ∀ job ∈ first :: rest, Sends P (s.awaiting job)) :
    Sends P (s.next first rest turns progress) := by
  induction turns generalizing progress with
  | nil =>
    have hfirst := h first List.mem_cons_self
    exact (Progress.sends_finish hfirst _).bind fun _ => Exchange.sends_pure _
  | cons turn turns ih =>
    have hjob := h _ (List.getElem_mem (Fin.ofNat (rest.length + 1) turn).isLt)
    refine (Progress.sends_turn hjob _).bind fun step => ?_
    cases step with
    | stop result => exact Exchange.sends_pure _
    | again p => exact ih _

/-- An insert is decided as its wait decides alone, on replies that it has heard in its turns. -/
theorem result_of_next {replies left : List Reply} {d : Decision (first :: rest)} {waits : Waits}
    (h : (s.next first rest turns progress replies).2 = some ((d, waits), left)) :
    ∃ heard unheard,
      (s.awaiting ((first :: rest).get d.place) heard).2 = some (d.result, unheard) := by
  induction turns generalizing progress replies with
  | nil =>
    obtain ⟨result, left₁, hx, hd⟩ := Exchange.exists_of_bind h
    cases hd
    exact ⟨_, _, hx⟩
  | cons turn turns ih =>
    obtain ⟨step, left₁, hx, hd⟩ := Exchange.exists_of_bind h
    cases step with
    | again p => exact ih _ hd
    | stop result =>
      cases hd
      obtain ⟨unheard, hr⟩ := Progress.of_turn_stop hx
      exact ⟨_, unheard, hr⟩

/-- Without turns the inserts are awaited one after the other. -/
theorem next_nil : s.next first rest [] (fun _ => .start) = do
    let result ← s.awaiting first
    return (⟨⟨0, Nat.zero_lt_succ _⟩, result⟩, .start []) := rfl

end Gateway.Session

end StreamPipeline
