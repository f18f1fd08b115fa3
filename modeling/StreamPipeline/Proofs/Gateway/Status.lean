import StreamPipeline.Gateway.Operation
import StreamPipeline.Proofs.Gateway.Fetching

/-! # Waiting for an operation

An operation is asked for its status until it has left its running states. Only a status that says
that it has finished leads on; every other end is an error.
-/

namespace StreamPipeline.Gateway

open Http
open Http.Exchange (Step)
open Client (Asks Leads Followed)

/-! ### Names of states -/

def runningNames : List String := ["INITIALIZED", "PENDING", "RUNNING"]

/-- A state in which an operation has ended without a result. -/
def EndedName (name : String) : Prop := name ≠ "FINISHED" ∧ name ≠ "ERROR" ∧ name ∉ runningNames

namespace OperationState

theorem ofName_cases (name : String) :
    (name = "FINISHED" ∧ ofName name = finished) ∨
      (name ∈ runningNames ∧ ofName name = running) ∨
      (name = "ERROR" ∧ ofName name = failed) ∨
      (EndedName name ∧ ofName name = ended name) := by
  unfold ofName
  split
  · exact .inl ⟨rfl, rfl⟩
  · exact .inr (.inl ⟨by simp [runningNames], rfl⟩)
  · exact .inr (.inl ⟨by simp [runningNames], rfl⟩)
  · exact .inr (.inl ⟨by simp [runningNames], rfl⟩)
  · exact .inr (.inr (.inl ⟨rfl, rfl⟩))
  · next hf hi hp hr he =>
    exact .inr (.inr (.inr ⟨⟨hf, he, by simpa [runningNames] using ⟨hi, hp, hr⟩⟩, rfl⟩))

theorem ofName_of_running {name : String} (h : name ∈ runningNames) : ofName name = running := by
  simp only [runningNames, List.mem_cons, List.not_mem_nil, or_false] at h
  rcases h with rfl | rfl | rfl <;> rfl

theorem ofName_of_ended {name : String} (h : EndedName name) : ofName name = ended name := by
  obtain ⟨hf, he, hr⟩ := h
  rcases ofName_cases name with ⟨rfl, -⟩ | ⟨hn, -⟩ | ⟨rfl, -⟩ | ⟨-, h⟩
  · exact absurd rfl hf
  · exact absurd hn hr
  · exact absurd rfl he
  · exact h

end OperationState

namespace Session

variable {α : Type} {s : Session} {operation : String} {next : Client α}
  {replies rest : List Reply} {requests : List Request}

/-! ### The last status -/

def statusUrl (s : Session) (operation : String) : String := s.operationUrl operation ++ "/status"

/-- The names that an operation has for its status when it is asked again and again. -/
def statuses (s : Session) (operation : String) (names : List String) :
    List (String × Except RuntimeError String) :=
  names.map fun name => (s.statusUrl operation, .ok name)

def statusStep (_ : Unit) (name : String) : Step Unit OperationState :=
  match OperationState.ofName name with
  | .running => .again ()
  | state => .stop state

theorem lastState_eq :
    s.lastState operation =
      Client.follow (textField? "status") (fun _ => s.statusUrl operation) statusStep () := by
  unfold lastState Client.follow
  congr 1
  funext _ name
  unfold statusStep
  cases OperationState.ofName name <;> rfl

theorem statusStep_again {name : String} {u : Unit} (h : statusStep () name = .again u) :
    name ∈ runningNames := by
  unfold statusStep at h
  rcases OperationState.ofName_cases name with ⟨-, hn⟩ | ⟨hr, -⟩ | ⟨-, hn⟩ | ⟨-, hn⟩
  · rw [hn] at h; cases h
  · exact hr
  · rw [hn] at h; cases h
  · rw [hn] at h; cases h

theorem running_of_leads {trail : List (Unit × String)} {u v : Unit}
    (h : Leads statusStep u trail v) : ∀ name ∈ trail.map Prod.snd, name ∈ runningNames := by
  induction h with
  | refl => simp
  | cons hn _ ih =>
    rw [List.map_cons, List.forall_mem_cons]
    exact ⟨statusStep_again hn, ih⟩

theorem leads_of_running {names : List String} (h : ∀ name ∈ names, name ∈ runningNames) :
    Leads statusStep () (names.map fun name => ((), name)) () := by
  induction names with
  | nil => exact .refl ()
  | cons name names ih =>
    obtain ⟨hname, hnames⟩ := List.forall_mem_cons.mp h
    refine .cons ?_ (ih hnames)
    simp only [statusStep, OperationState.ofName_of_running hname]

theorem answers_eq_statuses {trail : List (Unit × String)} :
    Client.answers (fun _ => s.statusUrl operation) trail =
      s.statuses operation (trail.map Prod.snd) := by
  simp [Client.answers, statuses]

/-! ### Going on once it has finished -/

/-- What comes of an operation that is waited for and of what goes on once it has finished. Its
status is asked for until it is not one of a running operation; a failed one is asked for its first
page, which tells the cause. -/
inductive Awaited (s : Session) (operation : String) (next : Client α) :
    List Reply → Client.Result α → Prop where
  | finished {names : List String} {requests : List Request} {used : List Reply}
      (rest : List Reply) :
      (∀ name ∈ names, name ∈ runningNames) →
      Asks (textField? "status") (s.statuses operation (names ++ ["FINISHED"])) requests used →
      Awaited s operation next (used ++ rest) (requests ++ (next rest).1, (next rest).2)
  | failed {names : List String} {requests asked : List Request} {used taken : List Reply}
      {e : RuntimeError} (rest : List Reply) :
      (∀ name ∈ names, name ∈ runningNames) →
      Asks (textField? "status") (s.statuses operation (names ++ ["ERROR"])) requests used →
      Asks Page.read? [(s.firstPage operation, .error e)] asked taken →
      Awaited s operation next (used ++ taken ++ rest) (requests ++ asked, some (.error e, rest))
  | unexplained {names : List String} {page : Page} {requests asked : List Request}
      {used taken : List Reply} (rest : List Reply) :
      (∀ name ∈ names, name ∈ runningNames) →
      Asks (textField? "status") (s.statuses operation (names ++ ["ERROR"])) requests used →
      Asks Page.read? [(s.firstPage operation, .ok page)] asked taken →
      Awaited s operation next (used ++ taken ++ rest) (requests ++ asked,
        some (.error (.rejected ("operation " ++ operation ++ " failed")), rest))
  | failing {names : List String} {request : Request} {requests : List Request}
      {used : List Reply} :
      (∀ name ∈ names, name ∈ runningNames) →
      Asks (textField? "status") (s.statuses operation (names ++ ["ERROR"])) requests used →
      requestTo .get (s.firstPage operation) none = .ok request →
      Awaited s operation next used (requests ++ [request], none)
  | ended {names : List String} {name : String} {requests : List Request} {used : List Reply}
      (rest : List Reply) :
      (∀ name ∈ names, name ∈ runningNames) → EndedName name →
      Asks (textField? "status") (s.statuses operation (names ++ [name])) requests used →
      Awaited s operation next (used ++ rest) (requests,
        some (.error (.rejected ("operation " ++ operation ++ " ended in state " ++ name)), rest))
  | broken {names : List String} {e : RuntimeError} {requests : List Request} {used : List Reply}
      (rest : List Reply) :
      (∀ name ∈ names, name ∈ runningNames) →
      Asks (textField? "status")
        (s.statuses operation names ++ [(s.statusUrl operation, .error e)]) requests used →
      Awaited s operation next (used ++ rest) (requests, some (.error e, rest))
  | waiting {names : List String} {request : Request} {requests : List Request}
      {used : List Reply} :
      (∀ name ∈ names, name ∈ runningNames) →
      Asks (textField? "status") (s.statuses operation names) requests used →
      requestTo .get (s.statusUrl operation) none = .ok request →
      Awaited s operation next used (requests ++ [request], none)

/-- What follows the last status of an operation. -/
def settles (s : Session) (operation : String) (next : Client α) : OperationState → Client α
  | .finished | .running => next
  | .failed => do
    let _ ← Client.ask Page.read? .get (s.firstPage operation) none
    throw (.rejected ("operation " ++ operation ++ " failed"))
  | .ended name => throw (.rejected ("operation " ++ operation ++ " ended in state " ++ name))

theorem finish_bind :
    (s.finish operation >>= fun _ => next) =
      s.lastState operation >>= s.settles operation next := by
  unfold finish
  rw [bind_assoc]
  congr 1
  funext state
  cases state with
  | finished => exact pure_bind _ _
  | running => exact pure_bind _ _
  | failed =>
    simp only [settles]
    rw [bind_assoc]
    congr 1
  | ended name => rfl

section Last

variable {names : List String} {name : String} {used : List Reply}

/-- Running states lead to the one that ends the waiting. -/
theorem lastState_stopped {state : OperationState} (hnames : ∀ name ∈ names, name ∈ runningNames)
    (hstop : statusStep () name = .stop state)
    (ha : Asks (textField? "status") (s.statuses operation (names ++ [name])) requests used) :
    s.lastState operation (used ++ rest) = (requests, some (.ok state, rest)) := by
  rw [lastState_eq, Client.follow_iff]
  refine .stopped rest (leads_of_running hnames) hstop ?_
  simpa [answers_eq_statuses, Function.comp_def] using ha

theorem statusStep_finished : statusStep () "FINISHED" = .stop .finished := rfl

theorem statusStep_failed : statusStep () "ERROR" = .stop .failed := rfl

theorem statusStep_of_ended (h : EndedName name) : statusStep () name = .stop (.ended name) := by
  unfold statusStep
  rw [OperationState.ofName_of_ended h]

theorem statusStep_stop {state : OperationState} (h : statusStep () name = .stop state) :
    (name = "FINISHED" ∧ state = .finished) ∨ (name = "ERROR" ∧ state = .failed) ∨
      (EndedName name ∧ state = .ended name) := by
  unfold statusStep at h
  rcases OperationState.ofName_cases name with ⟨hn, hs⟩ | ⟨-, hs⟩ | ⟨hn, hs⟩ | ⟨hn, hs⟩
  · rw [hs] at h; cases h; exact .inl ⟨hn, rfl⟩
  · rw [hs] at h; cases h
  · rw [hs] at h; cases h; exact .inr (.inl ⟨hn, rfl⟩)
  · rw [hs] at h; cases h; exact .inr (.inr ⟨hn, rfl⟩)

end Last

/-- Waiting for an operation comes to such an end, whatever goes on. -/
theorem awaited_bind (s : Session) (operation : String) (next : Client α) (replies : List Reply) :
    Awaited s operation next replies ((s.finish operation >>= fun _ => next) replies) := by
  rw [finish_bind]
  have h : Followed (textField? "status") (fun _ => s.statusUrl operation) statusStep () replies
      (s.lastState operation replies) := by
    rw [lastState_eq]
    exact Client.followed_follow () replies
  generalize hl : s.lastState operation replies = result at h
  cases h with
  | @stopped trail u name state requests used rest hlead hstop ha =>
    have hnames := running_of_leads hlead
    rw [Client.bind_ok hl]
    rw [answers_eq_statuses, List.map_append] at ha
    rcases statusStep_stop hstop with ⟨rfl, rfl⟩ | ⟨rfl, rfl⟩ | ⟨hname, rfl⟩
    · exact .finished rest hnames ha
    · simp only [settles]
      rcases Client.asks_ask Page.read? (s.firstPage operation) rest with
        ⟨e | page, asked, taken, rest, rfl, hpage⟩ | ⟨request, rfl, hr⟩
      · rw [Client.bind_error (Client.ask_of_asks hpage), ← List.append_assoc]
        exact .failed rest hnames ha hpage
      · rw [Client.bind_ok (Client.ask_of_asks hpage), ← List.append_assoc]
        rw [Client.throw_apply, List.append_nil]
        exact .unexplained rest hnames ha hpage
      · rw [Client.bind_waiting (Client.ask_waiting hr), List.append_nil]
        exact .failing hnames ha hr
    · rw [settles, Client.throw_apply, List.append_nil]
      exact .ended rest hnames hname ha
  | @broken trail u e requests used rest hlead ha =>
    rw [Client.bind_error hl]
    rw [answers_eq_statuses] at ha
    exact .broken rest (running_of_leads hlead) ha
  | @waiting trail u request requests used hlead ha hr =>
    rw [Client.bind_waiting hl]
    rw [answers_eq_statuses] at ha
    exact .waiting (running_of_leads hlead) ha hr

theorem bind_of_awaited {result : Client.Result α} (h : Awaited s operation next replies result) :
    (s.finish operation >>= fun _ => next) replies = result := by
  rw [finish_bind]
  cases h with
  | finished rest hnames ha =>
    rw [Client.bind_ok (lastState_stopped hnames statusStep_finished ha), settles]
  | failed rest hnames ha hpage =>
    rw [List.append_assoc, Client.bind_ok (lastState_stopped hnames statusStep_failed ha), settles,
      Client.bind_error (Client.ask_of_asks hpage)]
  | unexplained rest hnames ha hpage =>
    rw [List.append_assoc, Client.bind_ok (lastState_stopped hnames statusStep_failed ha), settles,
      Client.bind_ok (Client.ask_of_asks hpage), Client.throw_apply, List.append_nil]
  | failing hnames ha hr =>
    rw [← List.append_nil replies,
      Client.bind_ok (lastState_stopped hnames statusStep_failed ha), settles,
      Client.bind_waiting (Client.ask_waiting hr)]
  | ended rest hnames hname ha =>
    rw [Client.bind_ok (lastState_stopped hnames (statusStep_of_ended hname) ha), settles,
      Client.throw_apply, List.append_nil]
  | broken rest hnames ha =>
    refine Client.bind_error ?_
    rw [lastState_eq, Client.follow_iff]
    refine .broken rest (leads_of_running hnames) ?_
    simpa [answers_eq_statuses, Function.comp_def] using ha
  | waiting hnames ha hr =>
    refine Client.bind_waiting ?_
    rw [lastState_eq, Client.follow_iff]
    refine .waiting (leads_of_running hnames) ?_ hr
    simpa [answers_eq_statuses, Function.comp_def] using ha

end Session

end StreamPipeline.Gateway
