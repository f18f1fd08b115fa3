import StreamPipeline.Http.Url
import StreamPipeline.Json.Value

/-! # Exchanges

A client that sends requests and reads the replies in their order. Under a list of replies it has
sent some requests, and it has either a result and the replies that are left, or it waits for one
more.
-/

namespace StreamPipeline.Http

inductive Method where
  | get
  | post
  | delete
deriving Repr, DecidableEq

structure Request where
  method : Method
  url : Url
  body : Option Json

/-- A reply with its status and its body, or a connection that was closed. -/
inductive Reply where
  | dropped
  | response (status : Nat) (body : String)
deriving Repr, DecidableEq

def Exchange (α : Type) := List Reply → List Request × Option (α × List Reply)

namespace Exchange

variable {α β ε σ : Type}

def pure (a : α) : Exchange α := fun replies => ([], some (a, replies))

def bind (x : Exchange α) (f : α → Exchange β) : Exchange β := fun replies =>
  match x replies with
  | (sent, none) => (sent, none)
  | (sent, some (a, rest)) =>
    let next := f a rest
    (sent ++ next.1, next.2)

instance : Monad Exchange where
  pure := pure
  bind := bind

/-- Sends one request and takes the next reply. -/
def send (r : Request) : Exchange Reply
  | [] => ([r], none)
  | reply :: rest => ([r], some (reply, rest))

/-- Sends a request without waiting for the reply to it. -/
def emit (r : Request) : Exchange Unit := fun replies => ([r], some ((), replies))

/-- Waits for the next reply. -/
def receive : Exchange Reply
  | [] => ([], none)
  | reply :: rest => ([], some (reply, rest))

/-- The request that waits for its reply once the given ones are used up. -/
def pending? (x : Exchange α) (replies : List Reply) : Option Request :=
  match x replies with
  | (sent, none) => sent.getLast?
  | (_, some _) => none

/-- Whether a loop goes on. -/
inductive Step (σ α : Type) where
  | again (s : σ)
  | stop (a : α)

/-- Sends requests until a step stops. A request that cannot be made and a step that fails end the
loop as well. -/
def loop (request : σ → Except ε Request) (step : σ → Request → Reply → Except ε (Step σ α)) :
    σ → Exchange (Except ε α)
  | s, [] =>
    match request s with
    | .error e => ([], some (.error e, []))
    | .ok r => ([r], none)
  | s, reply :: rest =>
    match request s with
    | .error e => ([], some (.error e, reply :: rest))
    | .ok r =>
      match step s r reply with
      | .error e => ([r], some (.error e, rest))
      | .ok (.stop a) => ([r], some (.ok a, rest))
      | .ok (.again s') =>
        let next := loop request step s' rest
        (r :: next.1, next.2)

end Exchange

end StreamPipeline.Http
