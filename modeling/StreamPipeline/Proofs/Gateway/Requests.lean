import StreamPipeline.Command.Run
import StreamPipeline.Proofs.Gateway.Fetching
import StreamPipeline.Proofs.Http.Server

/-! # The requests of a session

Which requests an exchange can send at all. Within a session nothing is ever deleted; only closing
it is a request to delete, and that one can always be sent.
-/

namespace StreamPipeline

open Http

namespace Http.Exchange

section Sends

variable {α β ε σ : Type} {P : Request → Prop}

/-- Whatever the replies are, each request that is sent has the property. -/
def Sends (P : Request → Prop) (x : Exchange α) : Prop := ∀ replies, ∀ r ∈ (x replies).1, P r

theorem sends_pure (a : α) : Sends P (pure a) := by
  rintro replies r ⟨⟩

theorem Sends.bind {x : Exchange α} {f : α → Exchange β} (hx : Sends P x)
    (hf : ∀ a, Sends P (f a)) : Sends P (bind x f) := by
  intro replies r hr
  have h := hx replies
  unfold Exchange.bind at hr
  rcases hq : x replies with ⟨sent, _ | ⟨a, rest⟩⟩
  · rw [hq] at hr h
    exact h r hr
  · rw [hq] at hr h
    rcases List.mem_append.mp hr with hr | hr
    · exact h r hr
    · exact hf a rest r hr

/-- What a sequence gives comes from what its first part gave. -/
theorem exists_of_bind {x : Exchange α} {f : α → Exchange β} {replies left : List Reply}
    {b : β} (h : (bind x f replies).2 = some (b, left)) :
    ∃ a rest, (x replies).2 = some (a, rest) ∧ (f a rest).2 = some (b, left) := by
  unfold bind at h
  rcases hx : x replies with ⟨first, _ | ⟨a, rest⟩⟩
  · rw [hx] at h
    cases h
  · rw [hx] at h
    exact ⟨a, rest, rfl, h⟩

theorem sends_send {request : Request} (h : P request) : Sends P (send request) := by
  intro replies r hr
  cases replies <;> obtain rfl := List.mem_singleton.mp hr <;> exact h

theorem sends_loop {request : σ → Except ε Request}
    {step : σ → Request → Reply → Except ε (Step σ α)}
    (h : ∀ s r, request s = .ok r → P r) (s : σ) : Sends P (loop request step s) := by
  intro replies
  induction replies generalizing s with
  | nil =>
    rw [loop]
    cases hr : request s with
    | error e => exact List.forall_mem_nil P
    | ok r => exact List.forall_mem_singleton.mpr (h s r hr)
  | cons reply rest ih =>
    rw [loop]
    cases hr : request s with
    | error e => exact List.forall_mem_nil P
    | ok r =>
      have hfirst : ∀ q ∈ [r], P q := List.forall_mem_singleton.mpr (h s r hr)
      dsimp only
      cases step s r reply with
      | error e => exact hfirst
      | ok next =>
        cases next with
        | stop a => exact hfirst
        | again s' => exact List.forall_mem_cons.mpr ⟨h s r hr, ih s'⟩

/-! Exchanges that can fail. -/

theorem Sends.andThen {x : ExceptT ε Exchange α} {f : α → ExceptT ε Exchange β}
    (hx : Sends P x.run) (hf : ∀ a, Sends P (f a).run) : Sends P (x >>= f).run := by
  apply Sends.bind hx
  intro r
  cases r with
  | error e => exact sends_pure (Except.error e)
  | ok a => exact hf a

theorem sends_except (x : Except ε α) : Sends P (liftM x : ExceptT ε Exchange α).run :=
  sends_pure x

theorem sends_lift {x : Exchange α} (h : Sends P x) :
    Sends P (ExceptT.lift x : ExceptT ε Exchange α).run :=
  h.bind fun a => sends_pure (Except.ok a)

theorem sends_ok (a : α) : Sends P (Pure.pure a : ExceptT ε Exchange α).run :=
  sends_pure (Except.ok a)

theorem sends_throw (e : ε) : Sends P (throw e : ExceptT ε Exchange α).run :=
  sends_pure (Except.error e)

end Sends

end Http.Exchange

/-- A request that deletes nothing. -/
def Http.Request.Keeps (r : Request) : Prop := r.method ≠ .delete

theorem Http.Request.keeps_of_method {r : Request} {method : Method} (h : r.method = method)
    (hmethod : method ≠ .delete) : r.Keeps := by
  rwa [Request.Keeps, h]

namespace Gateway

open Exchange (Sends)

namespace Client

variable {α β σ : Type} {P : Request → Prop}

/-- What a sequence gives comes from what its first part gave. -/
theorem exists_of_bind {x : Client α} {f : α → Client β} {replies left : List Reply}
    {sent : List Request} {b : β} (h : (x >>= f) replies = (sent, some (.ok b, left))) :
    ∃ first a rest, x replies = (first, some (.ok a, rest)) ∧
      (f a rest).2 = some (.ok b, left) := by
  rcases hx : x replies with ⟨first, _ | ⟨e | a, rest⟩⟩
  · cases (bind_waiting hx).symm.trans h
  · cases (bind_error hx).symm.trans h
  · exact ⟨first, a, rest, rfl, congrArg Prod.snd ((bind_ok hx).symm.trans h)⟩

theorem requestTo_eq_ok {method : Method} {location : String} {body : Option Json} {r : Request}
    (h : requestTo method location body = .ok r) :
    Url.parse? location = some r.url ∧ r.method = method := by
  unfold requestTo at h
  split at h
  next hurl =>
    cases h
    exact ⟨hurl, rfl⟩
  next => cases h

theorem keeps_requestTo {method : Method} {location : String} {body : Option Json} {r : Request}
    (hmethod : method ≠ .delete) (h : requestTo method location body = .ok r) : r.Keeps :=
  Request.keeps_of_method (requestTo_eq_ok h).2 hmethod

theorem sends_ask {read : Json → Option α} {method : Method} {location : String}
    {body : Option Json} (h : ∀ r, requestTo method location body = .ok r → P r) :
    Sends P (ask read method location body).run := by
  intro replies r hr
  change r ∈ (ask read method location body replies).1 at hr
  rw [ask_sent] at hr
  cases hm : requestTo method location body with
  | error e => rw [hm] at hr; cases hr
  | ok q =>
    rw [hm] at hr
    obtain rfl := List.mem_singleton.mp hr
    exact h r hm

theorem keeps_ask {read : Json → Option α} {method : Method} {location : String}
    {body : Option Json} (hmethod : method ≠ .delete) :
    Sends Request.Keeps (ask read method location body).run :=
  sends_ask fun _ => keeps_requestTo hmethod

theorem keeps_fetch {read : Json → Option α} {location : σ → String}
    {step : σ → α → Except RuntimeError (Exchange.Step σ β)} (start : σ) :
    Sends Request.Keeps (fetch read location step start).run :=
  have hget : Method.get ≠ .delete := nofun
  Exchange.sends_loop (fun _ _ => keeps_requestTo hget) start

end Client

namespace Session

open Client
open Exchange (sends_ok sends_except sends_throw)

variable (s : Session)

theorem keeps_start (sql : String) : Sends Request.Keeps (s.start sql).run := keeps_ask nofun

theorem keeps_finish (operation : String) : Sends Request.Keeps (s.finish operation).run := by
  refine Sends.andThen (keeps_fetch ()) fun state => ?_
  cases state with
  | finished => exact sends_ok ()
  | running => exact sends_ok ()
  | failed => exact Sends.andThen (keeps_ask nofun) fun _ => sends_throw _
  | ended name => exact sends_throw _

theorem keeps_rows (operation : String) : Sends Request.Keeps (s.rows operation).run :=
  keeps_fetch _

theorem keeps_execute (sql : String) : Sends Request.Keeps (s.execute sql).run :=
  Sends.andThen (s.keeps_start sql) s.keeps_finish

theorem keeps_describe (view : String) : Sends Request.Keeps (s.describe view).run := by
  refine Sends.andThen (s.keeps_start _) fun operation => ?_
  refine Sends.andThen (s.keeps_finish operation) fun _ => ?_
  exact Sends.andThen (s.keeps_rows operation) fun r => sends_except _

theorem keeps_submit (sql : String) : Sends Request.Keeps (s.submit sql).run :=
  Sends.andThen (s.keeps_start sql) fun _ => sends_ok _

theorem keeps_accepted (operation : String) : Sends Request.Keeps (s.accepted operation).run := by
  refine Sends.andThen (s.keeps_finish operation) fun _ => ?_
  refine Sends.andThen (s.keeps_rows operation) fun r => ?_
  cases r.reportedJob? with
  | some job => exact sends_ok job
  | none => exact sends_throw _

theorem keeps_cause (job : JobId) : Sends Request.Keeps (s.cause job) := by
  refine Exchange.Sends.bind (keeps_ask nofun) fun result => ?_
  rcases result with e | _ | cause <;> exact Exchange.sends_pure _

theorem keeps_wait (jobs : List JobId) : Sends Request.Keeps (s.wait jobs).run := by
  refine Sends.andThen ?_ fun verdict => ?_
  · cases jobs with
    | nil => exact sends_ok Verdict.finished
    | cons first others => exact keeps_fetch _
  · cases verdict with
    | finished => exact sends_ok JobState.finished
    | canceled => exact sends_ok JobState.canceled
    | failed job =>
      exact Sends.andThen (Exchange.sends_lift (s.keeps_cause job)) fun _ => sends_ok _

/-! ### Opening and closing -/

/-- A request that opens a session. -/
def Opens (settings : Settings) (r : Request) : Prop :=
  Url.parse? (Text.trimEndOf '/' settings.gatewayUrl ++ "/v1/sessions") = some r.url ∧
    r.method = .post

theorem sends_connect (settings : Settings) : Sends (Opens settings) (connect settings).run :=
  Sends.andThen (sends_ask fun _ => requestTo_eq_ok) fun _ => sends_ok _

theorem url_eq : s.url = s.gateway ++ "/v1/sessions" ++ ("/" ++ s.id) := by
  have hslash : "/v1/sessions/" = "/v1/sessions" ++ "/" := rfl
  rw [url, hslash]
  simp only [String.append_assoc]

/-- A session that was opened has a location, at which it can be closed. -/
theorem exists_url_of_connect {settings : Settings} {replies left : List Reply}
    {sent : List Request} {session : Session}
    (h : (connect settings).run replies = (sent, some (.ok session, left))) :
    ∃ url, Url.parse? session.url = some url := by
  unfold connect at h
  obtain ⟨_, id, _, hid, hsession⟩ := exists_of_bind h
  cases hsession
  cases hr : requestTo .post (Text.trimEndOf '/' settings.gatewayUrl ++ "/v1/sessions")
      (some (.object [("sessionName", .string "manuscript")])) with
  | error e => cases (ask_unsent hr replies).symm.trans hid
  | ok request =>
    obtain ⟨url, hurl, -, -⟩ := Url.parse?_longer (requestTo_eq_ok hr).1 ("/" ++ id)
    exact ⟨url, (congrArg Url.parse? (url_eq _)).trans hurl⟩

/-- Closing takes one request and at most one reply. -/
theorem close_run {url : Url} (h : Url.parse? s.url = some url) (replies : List Reply) :
    s.close.run replies =
      ([⟨.delete, url, none⟩],
        replies.head?.map fun reply => ((body url reply).map fun _ => (), replies.tail)) := by
  have hr : requestTo .delete s.url none = .ok ⟨.delete, url, none⟩ := by rw [requestTo, h]
  cases replies with
  | nil =>
    have hsend : send .delete s.url none [] = ([⟨.delete, url, none⟩], none) := by
      rw [send, hr]
      rfl
    exact bind_waiting hsend
  | cons reply rest =>
    have hsend : send .delete s.url none (reply :: rest) =
        ([⟨.delete, url, none⟩], some (.ok (⟨.delete, url, none⟩, reply), rest)) := by
      rw [send, hr]
      rfl
    have hread : (do let _ ← body url reply : Client Unit) rest =
        ([], some ((body url reply).map fun _ => (), rest)) := by
      cases body url reply <;> rfl
    exact (bind_ok hsend).trans
      (congrArg (fun p => ([⟨.delete, url, none⟩] ++ p.1, p.2)) hread)

end Session

end Gateway

end StreamPipeline
