import StreamPipeline.Dialogue.Call
import StreamPipeline.Gateway.Operation

/-! # Waits in turns

The waits for submitted inserts go on at the same time, and whose turn it is is open. In its turn a
wait sends one request, hears one reply or ends, so the requests of all waits mix.
-/

namespace StreamPipeline

namespace Http.Exchange

/-- How far an exchange is: the replies that it has heard, and how many requests it has sent. -/
structure Progress where
  heard : List Reply
  sent : Nat

namespace Progress

variable {α : Type}

def start : Progress := ⟨[], 0⟩

/-- One turn of an exchange. What it has to send comes first, and a reply is heard only if it needs
one to go on. -/
def turn (x : Exchange α) (p : Progress) : Exchange (Step Progress α) :=
  match (x p.heard).1[p.sent]? with
  | some request => do
    emit request
    return .again { p with sent := p.sent + 1 }
  | none =>
    match (x p.heard).2 with
    | some (a, _) => return .stop a
    | none => do
      let reply ← receive
      return .again { p with heard := p.heard ++ [reply] }

/-- The rest of an exchange without a pause. -/
def finish (x : Exchange α) (p : Progress) : Exchange α := fun replies =>
  let whole := x (p.heard ++ replies)
  (whole.1.drop p.sent, whole.2)

end Progress

end Http.Exchange

namespace Gateway

open Http (Exchange)
open Http.Exchange (Progress)

/-- Who has the next turns, and how far each wait is, by the place of its insert. -/
structure Waits where
  turns : List Nat
  progress : Nat → Progress

def Waits.start (turns : List Nat) : Waits := ⟨turns, fun _ => .start⟩

namespace Session

/-- The wait for one insert. -/
def awaiting (s : Session) (job : PendingJob) : Exchange (Except RuntimeError JobId) :=
  (s.accepted job.handle.operation).run

/-- Waits in turns until one of the waits ends. Where there are no turns left, the first wait goes
on alone. -/
def next (s : Session) (first : PendingJob) (rest : List PendingJob) :
    List Nat → (Nat → Progress) → Exchange (Decision (first :: rest) × Waits)
  | [], progress => do
    let result ← (progress first.index).finish (s.awaiting first)
    return (⟨⟨0, Nat.zero_lt_succ _⟩, result⟩, ⟨[], progress⟩)
  | turn :: turns, progress => do
    let place := Fin.ofNat (rest.length + 1) turn
    let job := (first :: rest)[place]
    match ← (progress job.index).turn (s.awaiting job) with
    | .stop result => return (⟨place, result⟩, ⟨turns, progress⟩)
    | .again p => next s first rest turns fun i => if i = job.index then p else progress i

end Session

end Gateway

end StreamPipeline
