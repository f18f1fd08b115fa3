import StreamPipeline.Proofs.Compile.Handles
import StreamPipeline.Proofs.Gateway.Turns

/-! # Closing the session

The run command loads a document, opens a session, runs the pipeline in it and closes it once
nobody else has a handle to it. A run gives back the handles that it has taken, so only waits that
were aborted can keep the session open. If they are gone, the last request is the one that closes
the session, however the run has ended, and the reply to it changes nothing.
-/

namespace StreamPipeline.Command

open Http
open Http.Exchange (Sends)

variable {σ α β ε : Type}

/-! ### What is sent -/

section Keeps

variable {ω : Type}

/-- An action that deletes nothing, whatever the states. -/
def Keeps (x : StateT ω (StateT σ Exchange) α) : Prop :=
  ∀ w s, Sends Request.Keeps ((x.run w).run s)

theorem keeps_pure (a : α) : Keeps (pure a : StateT ω (StateT σ Exchange) α) :=
  fun _ _ => Exchange.sends_pure _

theorem Keeps.bind {x : StateT ω (StateT σ Exchange) α} {f : α → StateT ω (StateT σ Exchange) β}
    (hx : Keeps x) (hf : ∀ a, Keeps (f a)) : Keeps (x >>= f) := fun w s =>
  Exchange.Sends.bind (hx w s) fun p => hf p.1.1 p.1.2 p.2

theorem keeps_lift {x : Exchange α} (h : Sends Request.Keeps x) :
    Keeps (StateT.lift (StateT.lift x) : StateT ω (StateT σ Exchange) α) := fun _ _ =>
  (h.bind fun _ => Exchange.sends_pure _).bind fun _ => Exchange.sends_pure _

variable {Q : Type} {A : Q → Type} {handle : (q : Q) → StateT ω (StateT σ Exchange) (A q)}

/-- A dialogue deletes nothing if no answer to it does. -/
theorem keeps_interpret (h : ∀ q, Keeps (handle q)) (d : Dialogue Q A α) :
    Keeps (d.interpret handle) := by
  induction d with
  | done a => exact keeps_pure a
  | ask q next ih => exact (h q).bind ih

/-- What an interpreted dialogue gives is the result of one of its runs. -/
theorem exists_run_of_interpret {d : Dialogue Q A α} {w w' : ω} {s s' : σ}
    {replies left : List Reply} {a : α}
    (h : (((d.interpret handle).run w).run s replies).2 = some (((a, w'), s'), left)) :
    ∃ t, d.Run t a := by
  induction d generalizing w s replies with
  | done b =>
    cases h
    exact ⟨[], .done _⟩
  | ask q next ih =>
    obtain ⟨⟨⟨answer, w₁⟩, s₁⟩, left₁, -, hnext⟩ := Exchange.exists_of_bind h
    obtain ⟨t, ht⟩ := ih answer hnext
    exact ⟨_, .ask answer ht⟩

end Keeps

/-! ### A run within a session -/

section Within

variable (servers : PostgresSink → (message : Postgres.Message) → σ → message.Answer × σ)
  (turns : List Nat) (lingering : (aborted : Nat) → σ → Fin (aborted + 1))
  (session : Gateway.Session) (ctx : Context) (dryRun : Bool) (p : Pipeline)

/-- In whatever turns the waits go on, a run deletes nothing. -/
theorem keeps_performInTurns (call : Call) :
    Keeps (performInTurns (.scheduled servers turns lingering) session call) := by
  have hpostgres (sink : PostgresSink) (message : Postgres.Message) :
      Keeps ((Network.scheduled servers turns lingering).lift.postgres sink message
        : StateT Gateway.Waits (StateT σ Exchange) _) :=
    fun _ _ => Exchange.sends_pure _
  cases call with
  | execute sql => exact keeps_lift (session.keeps_execute sql)
  | describe view => exact keeps_lift (session.keeps_describe view)
  | submit sql => exact keeps_lift (session.keeps_submit sql)
  | nextAccepted first rest =>
    have hnext (waits : Gateway.Waits) :=
      session.sends_next first rest waits.turns waits.progress fun job _ =>
        session.keeps_accepted job.handle.operation
    exact fun waits _ => (hnext waits).bind fun _ => Exchange.sends_pure _
  | wait pipeline jobs => exact keeps_lift (session.keeps_wait jobs)
  | databaseExists sink database => exact keeps_interpret (hpostgres sink) _
  | createDatabase sink database => exact keeps_interpret (hpostgres sink) _
  | executeIn sink database sql => exact keeps_interpret (hpostgres sink) _

theorem sends_runIn (s : σ) : Sends Request.Keeps
    ((runIn (.scheduled servers turns lingering) session ctx dryRun p).run s) :=
  (keeps_interpret (keeps_performInTurns servers turns lingering session) _ _ s).bind
    fun _ => Exchange.sends_pure _

/-- When a run returns, nobody has a handle but waits that were aborted, and after one that has
succeeded there are none. -/
theorem handles_of_runIn {s s' : σ} {replies left : List Reply}
    {outcome : Except PipelineError Outcome} {handles : Handles}
    (h : ((runIn (.scheduled servers turns lingering) session ctx dryRun p).run s replies).2 =
      some (((outcome, handles), s'), left)) :
    handles.held = 0 ∧ ∀ o, outcome = .ok o → handles.waits = 0 := by
  obtain ⟨⟨⟨⟨r, final⟩, waits⟩, s₁⟩, left₁, hrun, hend⟩ := Exchange.exists_of_bind h
  obtain ⟨t, ht⟩ := exists_run_of_interpret hrun
  have hgiven := Build.restores_run ctx dryRun p .start t r final ht
  cases hend
  constructor
  · exact congrArg (· - 1) hgiven.held
  · exact hgiven.waits

end Within

/-! ### Loading -/

/-- A request that fetches the document. -/
def Fetches (location : String) (r : Request) : Prop :=
  Url.parse? location = some r.url ∧ r.method = .get

theorem parse_remote {location url : String} (h : Location.parse location = .ok (.remote url)) :
    url = location := by
  unfold Location.parse at h
  split at h
  · cases h
    rfl
  · split at h
    · cases h
    · split at h <;> cases h

theorem sends_fetchText (location : String) :
    Sends (Fetches location) (Http.fetchText location) := by
  unfold fetchText
  cases hurl : Url.parse? location with
  | none => exact Exchange.sends_pure _
  | some url =>
    exact (Exchange.sends_send ⟨hurl, rfl⟩).bind fun _ => Exchange.sends_pure _

/-- The text at a location on a server. -/
def remoteText (url : String) : ExceptT PipelineError Exchange String := do
  match ← ExceptT.lift (fetchText url) with
  | .ok text => return text
  | .error reason => throw (.config (.failedFetch url reason))

theorem sends_remoteText (url : String) : Sends (Fetches url) (remoteText url).run := by
  refine Exchange.Sends.andThen (Exchange.sends_lift (sends_fetchText url)) fun result => ?_
  cases result with
  | ok text => exact Exchange.sends_ok text
  | error reason => exact Exchange.sends_throw _

theorem documentText_eq (files : Files) (location : String) : documentText files location =
    match Location.parse location with
    | .error e => throw (.config e)
    | .ok (.file path) => liftM ((files.read path).mapError PipelineError.config)
    | .ok (.remote url) => remoteText url := by
  rw [documentText]
  cases Location.parse location with
  | error e => rfl
  | ok place =>
    change (pure place : ExceptT PipelineError Exchange Location) >>= _ = _
    rw [pure_bind]
    cases place <;> rfl

theorem sends_documentText (files : Files) (location : String) :
    Sends (Fetches location) (documentText files location).run := by
  rw [documentText_eq]
  cases hplace : Location.parse location with
  | error e => exact Exchange.sends_throw _
  | ok place =>
    cases place with
    | file path => exact Exchange.sends_except _
    | remote url =>
      obtain rfl := parse_remote hplace
      exact sends_remoteText url

/-- Loading a document asks for nothing but the document. -/
theorem sends_load (environment : Environment) (files : Files) (location : String) :
    Sends (Fetches location) (Pipeline.load environment files location).run :=
  Exchange.Sends.andThen (sends_documentText files location) fun _ => Exchange.sends_except _

/-! ### The course of the command -/

/-- The result of the command where a run has this outcome. -/
def concluded (p : Pipeline) : Except PipelineError Outcome → Except Complaint (String × Outcome)
  | .ok o => .ok (p.name, o)
  | .error e => .error ⟨none, e.message⟩

def refused (t : Task) (e : RuntimeError) : Complaint :=
  ⟨some ("Failed to open a session on " ++ t.context.settings.gatewayUrl), e.message⟩

/-- The exchange of a part of the command, with its errors as complaints. -/
def part (complain : ε → Complaint) (x : ExceptT ε Exchange α) :
    ExceptT Complaint (StateT σ Exchange) α :=
  (ExceptT.mk (StateT.lift x.run)).adapt complain

/-- What the command says of a run. -/
def report (p : Pipeline) (outcome : Except PipelineError Outcome) :
    ExceptT Complaint (StateT σ Exchange) (String × Outcome) :=
  match outcome with
  | .ok o => return (p.name, o)
  | .error e => throw ⟨none, e.message⟩

section Network

variable (servers : PostgresSink → (message : Postgres.Message) → σ → message.Answer × σ)
  (turns : List Nat) (lingering : (aborted : Nat) → σ → Fin (aborted + 1))

/-- The end of the command: it closes the session if nobody has a handle to it, and reports the
outcome. -/
def conclude (session : Gateway.Session) (p : Pipeline) (outcome : Except PipelineError Outcome)
    (handles : Handles) : ExceptT Complaint (StateT σ Exchange) (String × Outcome) := do
  let lingering ← ExceptT.lift fun s => return (lingering handles.waits s, s)
  if handles.held + lingering = 0 then
    let _ ← ExceptT.lift (StateT.lift session.close.run : StateT σ Exchange _)
  report p outcome

/-- What follows once a session is open. -/
def inSession (t : Task) (p : Pipeline) (session : Gateway.Session) :
    ExceptT Complaint (StateT σ Exchange) (String × Outcome) := do
  let (outcome, handles) ← ExceptT.lift
    (runIn (.scheduled servers turns lingering) session t.context t.dryRun p)
  conclude lingering session p outcome handles

theorem runTask_eq (t : Task) : runTask (.scheduled servers turns lingering) t =
    (part (loadFailed t.location) (Pipeline.load t.environment t.files t.location) >>= fun p =>
      part (refused t) (Gateway.Session.connect t.context.settings) >>= fun session =>
        inSession servers turns lingering t p session) := by
  rfl

end Network

/-! ### One part after the other -/

section Parts

theorem stateLift_run (x : Exchange α) (s : σ) :
    (StateT.lift x : StateT σ Exchange α).run s =
      Exchange.bind x fun a => Exchange.pure (a, s) := rfl

theorem part_run (complain : ε → Complaint) (x : ExceptT ε Exchange α) (s : σ)
    (replies : List Reply) :
    ((part complain x).run.run s) replies =
      ((x.run replies).1,
        (x.run replies).2.map fun (r, left) => ((r.mapError complain, s), left)) := by
  change Exchange.bind (Exchange.bind x.run fun r => Exchange.pure (r, s))
    (fun p => Exchange.pure (p.1.mapError complain, p.2)) replies = _
  unfold Exchange.bind
  rcases x.run replies with ⟨sent, _ | ⟨r, left⟩⟩
  · rfl
  · simp [Exchange.pure]

theorem lift_run (x : StateT σ Exchange α) (s : σ) (replies : List Reply) :
    ((ExceptT.lift x : ExceptT Complaint (StateT σ Exchange) α).run.run s) replies =
      ((x.run s replies).1,
        (x.run s replies).2.map fun ((a, s'), left) => ((.ok a, s'), left)) := by
  change Exchange.bind (x.run s) (fun p => Exchange.pure (Except.ok p.1, p.2)) replies = _
  unfold Exchange.bind
  rcases x.run s replies with ⟨sent, _ | ⟨⟨a, s'⟩, left⟩⟩
  · rfl
  · simp [Exchange.pure]

variable {s s' : σ} {replies left : List Reply} {sent : List Request}
  {x : ExceptT Complaint (StateT σ Exchange) α} {f : α → ExceptT Complaint (StateT σ Exchange) β}

theorem bind_run : (x >>= f).run.run s = Exchange.bind (x.run.run s) fun p =>
    match p.1 with
    | .ok a => (f a).run.run p.2
    | .error e => Exchange.pure (.error e, p.2) := by
  change Exchange.bind (x.run.run s) (fun p => ExceptT.bindCont f p.1 p.2) = _
  congr 1
  funext p
  rcases p with ⟨e | a, s⟩ <;> rfl

theorem bind_waiting (h : (x.run.run s) replies = (sent, none)) :
    ((x >>= f).run.run s) replies = (sent, none) := by
  rw [bind_run, Exchange.bind, h]

theorem bind_error {e : Complaint}
    (h : (x.run.run s) replies = (sent, some ((.error e, s'), left))) :
    ((x >>= f).run.run s) replies = (sent, some ((.error e, s'), left)) := by
  rw [bind_run, Exchange.bind, h]
  simp [Exchange.pure]

theorem bind_ok {a : α} (h : (x.run.run s) replies = (sent, some ((.ok a, s'), left))) :
    ((x >>= f).run.run s) replies =
      (sent ++ ((f a).run.run s' left).1, ((f a).run.run s' left).2) := by
  rw [bind_run, Exchange.bind, h]

end Parts

/-! ### How the command goes -/

/-- What loading the document has sent, and unless it waits for a reply, its result and the replies
that are left. -/
def Loading (t : Task) (replies : List Reply) (fetching : List Request)
    (loaded : Option (Except PipelineError Pipeline × List Reply)) : Prop :=
  (Pipeline.load t.environment t.files t.location).run replies = (fetching, loaded) ∧
    ∀ r ∈ fetching, Fetches t.location r

/-- The same of opening the session. -/
def Opening (t : Task) (replies : List Reply) (opening : List Request)
    (opened : Option (Except RuntimeError Gateway.Session × List Reply)) : Prop :=
  (Gateway.Session.connect t.context.settings).run replies = (opening, opened) ∧
    ∀ r ∈ opening, Gateway.Session.Opens t.context.settings r

/-- The waits that were aborted are gone when a run returns. -/
def DropsAborted (lingering : (aborted : Nat) → σ → Fin (aborted + 1)) : Prop :=
  ∀ aborted s, (lingering aborted s).val = 0

variable (servers : PostgresSink → (message : Postgres.Message) → σ → message.Answer × σ)
  (turns : List Nat) (lingering : (aborted : Nat) → σ → Fin (aborted + 1))

/-- The same of a run within a session, whose result comes with the number of waits that were
aborted. They are all that can have a handle when it returns, and there are none if it has
succeeded. -/
structure Running (t : Task) (session : Gateway.Session) (p : Pipeline) (s : σ)
    (replies : List Reply) (within : List Request)
    (ran : Option (((Except PipelineError Outcome × Nat) × σ) × List Reply)) : Prop where
  run : (runIn (.scheduled servers turns lingering) session t.context t.dryRun p).run s replies =
    (within, ran.map fun (((outcome, aborted), s'), left) =>
      (((outcome, ⟨0, aborted⟩), s'), left))
  keeps : ∀ r ∈ within, r.Keeps
  aborted : ∀ {o : Outcome} {aborted : Nat} {s' : σ} {left : List Reply},
    ran = some (((.ok o, aborted), s'), left) → aborted = 0

/-- How the command goes: what it has sent and, unless it waits for a reply, its result and the
replies that are left. -/
inductive Course (t : Task) (s : σ) (replies : List Reply) :
    List Request × Option ((Except Complaint (String × Outcome) × σ) × List Reply) → Prop where
  /-- Without a pipeline there is no request but the one for the document. -/
  | notLoaded {fetching : List Request} (failure : Option (PipelineError × List Reply)) :
      Loading t replies fetching (failure.map fun (e, left) => (.error e, left)) →
      Course t s replies
        (fetching, failure.map fun (e, left) => ((.error (loadFailed t.location e), s), left))
  /-- A session that is not opened is not closed. -/
  | notOpened {fetching opening : List Request} {p : Pipeline} {rest : List Reply}
      (failure : Option (RuntimeError × List Reply)) :
      Loading t replies fetching (some (.ok p, rest)) →
      Opening t rest opening (failure.map fun (e, left) => (.error e, left)) →
      Course t s replies
        (fetching ++ opening, failure.map fun (e, left) => ((.error (refused t e), s), left))
  | running {fetching opening within : List Request} {p : Pipeline} {session : Gateway.Session}
      {rest left : List Reply} :
      Loading t replies fetching (some (.ok p, rest)) →
      Opening t rest opening (some (.ok session, left)) →
      Running servers turns lingering t session p s left within none →
      Course t s replies (fetching ++ (opening ++ within), none)
  /-- A run that has ended is followed by the request that closes the session. The reply to it is
  awaited, but the result is that of the run. -/
  | closed {fetching opening within : List Request} {p : Pipeline} {session : Gateway.Session}
      {url : Url} {rest left final : List Reply} {outcome : Except PipelineError Outcome}
      {aborted : Nat} {s' : σ} :
      Loading t replies fetching (some (.ok p, rest)) →
      Opening t rest opening (some (.ok session, left)) →
      Running servers turns lingering t session p s left within
        (some (((outcome, aborted), s'), final)) →
      Url.parse? session.url = some url →
      Course t s replies
        (fetching ++ (opening ++ (within ++ [⟨.delete, url, none⟩])),
          final.head?.map fun _ => ((concluded p outcome, s'), final.tail))

variable {servers turns lingering}

theorem running_of_runIn {t : Task} {session : Gateway.Session} {p : Pipeline} {s : σ}
    {replies : List Reply} {within : List Request}
    {ran : Option (((Except PipelineError Outcome × Handles) × σ) × List Reply)}
    (h : (runIn (.scheduled servers turns lingering) session t.context t.dryRun p).run s replies =
      (within, ran)) :
    Running servers turns lingering t session p s replies within
      (ran.map fun (((outcome, handles), s'), left) => (((outcome, handles.waits), s'), left)) := by
  have hkeeps := sends_runIn servers turns lingering session t.context t.dryRun p s replies
  rw [h] at hkeeps
  rcases ran with _ | ⟨⟨⟨outcome, held, waits⟩, s'⟩, left⟩
  · exact ⟨h, hkeeps, nofun⟩
  · obtain ⟨hheld, hwaits⟩ := handles_of_runIn _ _ _ _ _ _ _ (congrArg Prod.snd h)
    obtain rfl : held = 0 := hheld
    refine ⟨h, hkeeps, fun hran => ?_⟩
    cases hran
    exact hwaits _ rfl

theorem report_run (p : Pipeline) (outcome : Except PipelineError Outcome) (s : σ)
    (replies : List Reply) :
    ((report p outcome : ExceptT Complaint (StateT σ Exchange) _).run.run s) replies =
      ([], some ((concluded p outcome, s), replies)) := by
  cases outcome <;> rfl

theorem conclude_run (session : Gateway.Session) (p : Pipeline)
    (outcome : Except PipelineError Outcome) (handles : Handles) (s : σ) :
    (conclude lingering session p outcome handles).run.run s =
      (if handles.held + lingering handles.waits s = 0 then
        ExceptT.lift (StateT.lift session.close.run) >>= fun _ => report p outcome
      else report p outcome).run.run s := rfl

/-- Where nobody has a handle, the session is closed. -/
theorem conclude_closed {session : Gateway.Session} {url : Url}
    (hurl : Url.parse? session.url = some url) (p : Pipeline)
    (outcome : Except PipelineError Outcome) {aborted : Nat} {s : σ}
    (hgone : (lingering aborted s).val = 0) (replies : List Reply) :
    ((conclude lingering session p outcome ⟨0, aborted⟩).run.run s) replies =
      ([⟨.delete, url, none⟩],
        replies.head?.map fun _ => ((concluded p outcome, s), replies.tail)) := by
  have hclose : ((StateT.lift session.close.run : StateT σ Exchange _).run s) replies =
      ([⟨.delete, url, none⟩], replies.head?.map fun reply =>
        (((Gateway.body url reply).map fun _ => (), s), replies.tail)) := by
    rw [stateLift_run, Exchange.bind, session.close_run hurl]
    cases replies <;> rfl
  have hlift := lift_run (StateT.lift session.close.run) s replies
  rw [hclose] at hlift
  have hcount : 0 + (lingering aborted s).val = 0 := (Nat.zero_add _).trans hgone
  rw [conclude_run, if_pos hcount]
  cases replies with
  | nil => exact bind_waiting hlift
  | cons reply rest => exact (bind_ok hlift).trans (by rw [report_run]; rfl)

/-- Where a wait still has its handle, the session stays open. -/
theorem conclude_open (session : Gateway.Session) (p : Pipeline)
    (outcome : Except PipelineError Outcome) {aborted : Nat} {s : σ}
    (hlingers : (lingering aborted s).val ≠ 0) (replies : List Reply) :
    ((conclude lingering session p outcome ⟨0, aborted⟩).run.run s) replies =
      ([], some ((concluded p outcome, s), replies)) := by
  have hcount : 0 + (lingering aborted s).val ≠ 0 := (Nat.zero_add _).trans_ne hlingers
  rw [conclude_run, if_neg hcount]
  exact report_run p outcome s replies

section Open

variable {t : Task} {s s' : σ} {replies rest left final : List Reply}
  {fetching opening within : List Request} {p : Pipeline} {session : Gateway.Session}
  {outcome : Except PipelineError Outcome} {aborted : Nat}

/-- What the command has sent and how far it is, once the session is open. -/
theorem runTask_run (hload : Loading t replies fetching (some (.ok p, rest)))
    (hopen : Opening t rest opening (some (.ok session, left))) :
    (runTask (.scheduled servers turns lingering) t).run.run s replies =
      (fetching ++ (opening ++
          ((inSession servers turns lingering t p session).run.run s left).1),
        ((inSession servers turns lingering t p session).run.run s left).2) := by
  have hloaded := part_run (loadFailed t.location)
    (Pipeline.load t.environment t.files t.location) s replies
  have hconnect := part_run (refused t) (Gateway.Session.connect t.context.settings) s rest
  rw [hload.1] at hloaded
  rw [hopen.1] at hconnect
  rw [runTask_eq, bind_ok hloaded, bind_ok hconnect]

theorem Running.lift {ran : Option (((Except PipelineError Outcome × Nat) × σ) × List Reply)}
    (h : Running servers turns lingering t session p s left within ran) :
    ((ExceptT.lift (runIn (.scheduled servers turns lingering) session t.context t.dryRun p) :
        ExceptT Complaint (StateT σ Exchange) _).run.run s) left =
      (within, ran.map fun (((outcome, aborted), s'), final) =>
        ((.ok (outcome, ⟨0, aborted⟩), s'), final)) := by
  rw [lift_run, h.run]
  cases ran <;> rfl

/-- Where no wait has a handle when the run returns, the session is closed. -/
theorem runTask_closed {url : Url} (hload : Loading t replies fetching (some (.ok p, rest)))
    (hopen : Opening t rest opening (some (.ok session, left)))
    (hrun : Running servers turns lingering t session p s left within
      (some (((outcome, aborted), s'), final)))
    (hurl : Url.parse? session.url = some url) (hgone : (lingering aborted s').val = 0) :
    (runTask (.scheduled servers turns lingering) t).run.run s replies =
      (fetching ++ (opening ++ (within ++ [⟨.delete, url, none⟩])),
        final.head?.map fun _ => ((concluded p outcome, s'), final.tail)) := by
  rw [runTask_run hload hopen, inSession, bind_ok hrun.lift, conclude_closed hurl p outcome hgone]

/-- A run that has succeeded leaves no wait behind, so the session is closed after it in any
case. -/
theorem session_closed_after_success {url : Url} {o : Outcome}
    (hload : Loading t replies fetching (some (.ok p, rest)))
    (hopen : Opening t rest opening (some (.ok session, left)))
    (hrun : Running servers turns lingering t session p s left within
      (some (((.ok o, aborted), s'), final)))
    (hurl : Url.parse? session.url = some url) :
    (runTask (.scheduled servers turns lingering) t).run.run s replies =
      (fetching ++ (opening ++ (within ++ [⟨.delete, url, none⟩])),
        final.head?.map fun _ => ((.ok (p.name, o), s'), final.tail)) := by
  apply runTask_closed hload hopen hrun hurl
  obtain rfl : aborted = 0 := hrun.aborted rfl
  exact Nat.lt_one_iff.mp (lingering 0 s').isLt

/-- Where a wait that was aborted still has its handle when the run returns, nothing closes the
session. -/
theorem session_left_open (hload : Loading t replies fetching (some (.ok p, rest)))
    (hopen : Opening t rest opening (some (.ok session, left)))
    (hrun : Running servers turns lingering t session p s left within
      (some (((outcome, aborted), s'), final)))
    (hlingers : (lingering aborted s').val ≠ 0) :
    (runTask (.scheduled servers turns lingering) t).run.run s replies =
        (fetching ++ (opening ++ within), some ((concluded p outcome, s'), final)) ∧
      ∀ r ∈ fetching ++ (opening ++ within), r.Keeps := by
  constructor
  · rw [runTask_run hload hopen, inSession, bind_ok hrun.lift,
      conclude_open session p outcome hlingers, List.append_nil]
  · intro r hr
    rcases List.mem_append.mp hr with hr | hr
    · exact Request.keeps_of_method (hload.2 r hr).2 (by decide)
    · rcases List.mem_append.mp hr with hr | hr
      · exact Request.keeps_of_method (hopen.2 r hr).2 (by decide)
      · exact hrun.keeps r hr

/-- What follows the opening of a session. -/
theorem course_of_opening (hdropped : DropsAborted lingering) (s : σ)
    (hload : Loading t replies fetching (some (.ok p, rest)))
    (hopen : Opening t rest opening (some (.ok session, left))) :
    Course servers turns lingering t s replies
      ((runTask (.scheduled servers turns lingering) t).run.run s replies) := by
  obtain ⟨url, hurl⟩ := Gateway.Session.exists_url_of_connect hopen.1
  rcases hr : (runIn (.scheduled servers turns lingering) session t.context t.dryRun p).run s left
    with ⟨within, ran⟩
  have hrun := running_of_runIn hr
  rcases ran with _ | ⟨⟨⟨outcome, handles⟩, s'⟩, final⟩
  · rw [runTask_run hload hopen, inSession, bind_waiting hrun.lift]
    exact .running hload hopen hrun
  · rw [runTask_closed hload hopen hrun hurl (hdropped _ _)]
    exact .closed hload hopen hrun hurl

end Open

variable (servers turns)

/-- A session that was opened is closed by the last request, however its run has ended and in
whatever turns its inserts were awaited, if the waits that were aborted are gone by then. Nothing
else is ever deleted, and a command whose pipeline is not loaded never turns to the gateway. -/
theorem session_closed_last (hdropped : DropsAborted lingering) (t : Task) (s : σ)
    (replies : List Reply) :
    Course servers turns lingering t s replies
      ((runTask (.scheduled servers turns lingering) t).run.run s replies) := by
  have hfetching := sends_load t.environment t.files t.location replies
  have hloaded := part_run (loadFailed t.location)
    (Pipeline.load t.environment t.files t.location) s replies
  rcases hl : (Pipeline.load t.environment t.files t.location).run replies with
    ⟨fetching, _ | ⟨e | p, rest⟩⟩
  · rw [hl] at hloaded hfetching
    rw [runTask_eq, bind_waiting hloaded]
    exact .notLoaded none ⟨hl, hfetching⟩
  · rw [hl] at hloaded hfetching
    rw [runTask_eq, bind_error hloaded]
    exact .notLoaded (some (e, rest)) ⟨hl, hfetching⟩
  · rw [hl] at hloaded hfetching
    have hopening := Gateway.Session.sends_connect t.context.settings rest
    have hconnect := part_run (refused t) (Gateway.Session.connect t.context.settings) s rest
    rcases hc : (Gateway.Session.connect t.context.settings).run rest with
      ⟨opening, _ | ⟨e | session, left⟩⟩
    · rw [hc] at hconnect hopening
      rw [runTask_eq, bind_ok hloaded, bind_waiting hconnect]
      exact .notOpened none ⟨hl, hfetching⟩ ⟨hc, hopening⟩
    · rw [hc] at hconnect hopening
      rw [runTask_eq, bind_ok hloaded, bind_error hconnect]
      exact .notOpened (some (e, left)) ⟨hl, hfetching⟩ ⟨hc, hopening⟩
    · rw [hc] at hopening
      exact course_of_opening hdropped s ⟨hl, hfetching⟩ ⟨hc, hopening⟩

/-- A run whose first statement is lost with the connection is followed by the request that closes
the session, and that this one is lost as well changes nothing. -/
theorem session_closed_last_lostStatement :
    let servers := fun (_ : PostgresSink) (message : Postgres.Message) (s : Unit) =>
      (message.closed, s)
    let gone (aborted : Nat) (_ : Unit) : Fin (aborted + 1) := ⟨0, aborted.succ_pos⟩
    let text := "name: p\nspecVersion: v1\nparallelism: 1\n" ++
      "sources:\n- name: e\n  type: dataset\n  dataset: d.t\n" ++
      "sinks:\n- name: a\n  type: print\n  from: e\n"
    let t : Task := ⟨"p.yml", false, [], fun _ => .ok text.toUTF8, ⟨{}, 0⟩⟩
    let replies := [.response 200 "\x7b\"sessionHandle\":\"s\"\x7d", .dropped, .dropped]
    let went := (runTask (.scheduled servers [1, 0] gone) t).run.run () replies
    DropsAborted gone ∧ Course servers [1, 0] gone t () replies went ∧
      went.1.map (·.method) = [.post, .post, .delete] := by
  intro servers gone text t replies went
  have hgone : DropsAborted gone := fun _ _ => rfl
  exact ⟨hgone, session_closed_last servers [1, 0] hgone t () replies, by decide +kernel⟩

end StreamPipeline.Command
