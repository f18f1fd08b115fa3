import StreamPipeline.Gateway.Client

/-! # Jobs

The jobs of a pipeline are polled in their order, round after round. The first job that failed or
was canceled decides; otherwise a round in which all of them have finished does.
-/

namespace StreamPipeline.Gateway

open Http.Exchange (Step)

/-- A round of polling: the job that is asked about next, those after it, and whether all before it
have finished. -/
structure Round where
  job : JobId
  rest : List JobId
  finished : Bool
deriving Repr, DecidableEq

/-- How polling ends. -/
inductive Verdict where
  | finished
  | canceled
  | failed (job : JobId)
deriving Repr, DecidableEq

/-- What follows the state of a job. A round starts with `first` and goes on with `others`. -/
def Round.step (first : JobId) (others : List JobId) (r : Round) (state : String) :
    Step Round Verdict :=
  match state with
  | "FAILED" => .stop (.failed r.job)
  | "CANCELED" | "CANCELLING" => .stop .canceled
  | _ =>
    let finished := r.finished && state == "FINISHED"
    match r.rest with
    | next :: rest => .again ⟨next, rest, finished⟩
    | [] => if finished then .stop .finished else .again ⟨first, others, true⟩

namespace Session

def jobUrl (s : Session) (job : JobId) : String := s.jobmanager ++ "/jobs/" ++ job.text

/-- Polls the jobs until they have ended; without jobs there is nothing to wait for. -/
def verdict (s : Session) : List JobId → Client Verdict
  | [] => return .finished
  | first :: others =>
    Client.fetch (textField? "state") (fun r : Round => s.jobUrl r.job)
      (fun r state => .ok (r.step first others state)) ⟨first, others, true⟩

/-- Why a job failed, as far as that can be told. -/
def cause (s : Session) (job : JobId) : Http.Exchange String := do
  match ← (Client.ask rootException? .get (s.jobUrl job ++ "/exceptions") none).run with
  | .ok (some cause) => return cause
  | .ok none => return "job failed without a reported cause"
  | .error e => return "job failed; cause unavailable: " ++ e.message

def wait (s : Session) (jobs : List JobId) : Client JobState := do
  match ← s.verdict jobs with
  | .finished => return .finished
  | .canceled => return .canceled
  | .failed job => return .failed job (← ExceptT.lift (s.cause job))

end Session

end StreamPipeline.Gateway
