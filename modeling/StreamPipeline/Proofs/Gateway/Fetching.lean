import StreamPipeline.Gateway.Client

/-! # Fetching one body after the other

A client that fetches bodies passes through states. In each it asks at one location, and the answer
leads on to the next state or ends the whole. Under any replies it has come along a trail of states
and either stopped, met an error, or waits for a reply.
-/

namespace StreamPipeline.Http.Exchange

section Sequence

variable {α β γ : Type}

theorem bind_pure (x : Exchange α) : bind x pure = x := by
  funext replies
  unfold bind
  rcases x replies with ⟨sent, _ | ⟨a, rest⟩⟩
  · rfl
  · simp [pure]

theorem pure_bind (a : α) (f : α → Exchange β) : bind (pure a) f = f a := by
  funext replies
  simp [bind, pure]

theorem bind_assoc (x : Exchange α) (f : α → Exchange β) (g : β → Exchange γ) :
    bind (bind x f) g = bind x fun a => bind (f a) g := by
  funext replies
  unfold bind
  rcases x replies with ⟨sent, _ | ⟨a, rest⟩⟩
  · rfl
  · rcases hf : f a rest with ⟨later, _ | ⟨b, left⟩⟩ <;> simp [hf]

end Sequence

instance : LawfulMonad Exchange :=
  LawfulMonad.mk' Exchange bind_pure pure_bind bind_assoc

end StreamPipeline.Http.Exchange

namespace StreamPipeline.Gateway

open Http
open Http.Exchange (Step)

namespace Client

/-- What a client has sent and, unless it waits for the reply to the last request, its result with
the replies that are left. -/
abbrev Result (α : Type) := List Request × Option (Except RuntimeError α × List Reply)

/-! ### One after the other -/

section Sequence

variable {α β : Type} {x : Client α} {f : α → Client β} {replies rest : List Reply}
  {sent : List Request}

theorem bind_ok {a : α} (h : x replies = (sent, some (.ok a, rest))) :
    (x >>= f) replies = (sent ++ (f a rest).1, (f a rest).2) := by
  change Exchange.bind x (ExceptT.bindCont f) replies = _
  simp only [Exchange.bind, h]
  rfl

theorem bind_error {e : RuntimeError} (h : x replies = (sent, some (.error e, rest))) :
    (x >>= f) replies = (sent, some (.error e, rest)) := by
  change Exchange.bind x (ExceptT.bindCont f) replies = _
  simp only [Exchange.bind, h]
  simp [ExceptT.bindCont, pure, Exchange.pure]

theorem bind_waiting (h : x replies = (sent, none)) : (x >>= f) replies = (sent, none) := by
  change Exchange.bind x (ExceptT.bindCont f) replies = _
  simp only [Exchange.bind, h]

theorem pure_apply {a : α} : (pure a : Client α) replies = ([], some (.ok a, replies)) := rfl

theorem throw_apply {e : RuntimeError} :
    (throw e : Client α) replies = ([], some (.error e, replies)) :=
  rfl

/-- An exchange that cannot fail, with its result in another form. -/
theorem bind_lift {x : Exchange α} {g : α → β} :
    ((ExceptT.lift x >>= fun a => pure (g a) : Client β) : Exchange _) replies =
      ((x replies).1, (x replies).2.map fun (a, left) => (.ok (g a), left)) := by
  change Exchange.bind (Exchange.bind x fun a => Exchange.pure (.ok a))
    (ExceptT.bindCont fun a => (pure (g a) : Client β)) replies = _
  unfold Exchange.bind
  rcases x replies with ⟨sent, _ | ⟨a, left⟩⟩
  · rfl
  · simp [Exchange.pure, ExceptT.bindCont, pure, ExceptT.pure, ExceptT.mk]

end Sequence

/-! ### Answers -/

section Asks

variable {α : Type} {read : Json → Option α}

/-- The locations are asked one after the other and give these answers. A location that makes no
request has its error at once and takes no reply. -/
inductive Asks (read : Json → Option α) :
    List (String × Except RuntimeError α) → List Request → List Reply → Prop where
  | nil : Asks read [] [] []
  | answered {location : String} {request : Request} {reply : Reply}
      {answer : Except RuntimeError α} {answers : List (String × Except RuntimeError α)}
      {requests : List Request} {replies : List Reply} :
      requestTo .get location none = .ok request → decoded read request.url reply = answer →
      Asks read answers requests replies →
      Asks read ((location, answer) :: answers) (request :: requests) (reply :: replies)
  | unsent {location : String} {e : RuntimeError}
      {answers : List (String × Except RuntimeError α)} {requests : List Request}
      {replies : List Reply} :
      requestTo .get location none = .error e → Asks read answers requests replies →
      Asks read ((location, .error e) :: answers) requests replies

theorem asks_append_iff {l m : List (String × Except RuntimeError α)} {requests : List Request}
    {replies : List Reply} :
    Asks read (l ++ m) requests replies ↔
      ∃ r₁ r₂ u₁ u₂, requests = r₁ ++ r₂ ∧ replies = u₁ ++ u₂ ∧ Asks read l r₁ u₁ ∧
        Asks read m r₂ u₂ := by
  constructor
  · intro h
    induction l generalizing requests replies with
    | nil => exact ⟨[], requests, [], replies, rfl, rfl, .nil, h⟩
    | cons a l ih =>
      cases h with
      | answered hr ha h =>
        obtain ⟨r₁, r₂, u₁, u₂, rfl, rfl, hl, hm⟩ := ih h
        exact ⟨_ :: r₁, r₂, _ :: u₁, u₂, rfl, rfl, .answered hr ha hl, hm⟩
      | unsent hr h =>
        obtain ⟨r₁, r₂, u₁, u₂, rfl, rfl, hl, hm⟩ := ih h
        exact ⟨r₁, r₂, u₁, u₂, rfl, rfl, .unsent hr hl, hm⟩
  · rintro ⟨r₁, r₂, u₁, u₂, rfl, rfl, hl, hm⟩
    induction hl with
    | nil => exact hm
    | answered hr ha _ ih => exact .answered hr ha ih
    | unsent hr _ ih => exact .unsent hr ih

/-- What a location gave was read from one of the replies. -/
theorem Asks.exists_decoded {l : List (String × Except RuntimeError α)} {requests : List Request}
    {replies : List Reply} (h : Asks read l requests replies) {location : String} {a : α}
    (ha : (location, .ok a) ∈ l) : ∃ url, ∃ reply ∈ replies, decoded read url reply = .ok a := by
  induction h with
  | nil => cases ha
  | @answered _ request reply answer _ _ _ _ hanswer _ ih =>
    rcases List.mem_cons.mp ha with heq | hlater
    · cases heq
      exact ⟨request.url, reply, List.mem_cons_self, hanswer⟩
    · obtain ⟨url, reply', hreply, hread⟩ := ih hlater
      exact ⟨url, reply', List.mem_cons_of_mem _ hreply, hread⟩
  | unsent _ _ ih =>
    rcases List.mem_cons.mp ha with heq | hlater
    · cases heq
    · exact ih hlater

end Asks

/-! ### A single body -/

section Ask

variable {α : Type} {read : Json → Option α} {method : Method} {location : String}
  {body : Option Json} {request : Request}

theorem ask_unsent {e : RuntimeError} (h : requestTo method location body = .error e)
    (replies : List Reply) :
    ask read method location body replies = ([], some (.error e, replies)) := by
  unfold ask send
  rw [h]
  rfl

theorem ask_waiting (h : requestTo method location body = .ok request) :
    ask read method location body [] = ([request], none) := by
  unfold ask send
  rw [h]
  rfl

theorem ask_answered (h : requestTo method location body = .ok request) (reply : Reply)
    (rest : List Reply) :
    ask read method location body (reply :: rest) =
      ([request], some (decoded read request.url reply, rest)) := by
  unfold ask send
  rw [h]
  rfl

/-- One body takes one request, if the location can be asked at all. -/
theorem ask_sent (replies : List Reply) :
    (ask read method location body replies).1 =
      (requestTo method location body).toOption.toList := by
  cases h : requestTo method location body with
  | error e => rw [ask_unsent h]; rfl
  | ok request =>
    cases replies with
    | nil => rw [ask_waiting h]; rfl
    | cons reply rest => rw [ask_answered h]; rfl

theorem ask_of_asks {answer : Except RuntimeError α} {asked : List Request}
    {taken rest : List Reply} (h : Asks read [(location, answer)] asked taken) :
    ask read .get location none (taken ++ rest) = (asked, some (answer, rest)) := by
  cases h with
  | answered hr ha h =>
    cases h
    rw [List.singleton_append, ask_answered hr, ha]
  | unsent hr h =>
    cases h
    exact ask_unsent hr rest

/-- A body that is asked for has an answer, or its request waits for one. -/
theorem asks_ask (read : Json → Option α) (location : String) (replies : List Reply) :
    (∃ answer asked taken rest, replies = taken ++ rest ∧
        Asks read [(location, answer)] asked taken) ∨
      ∃ request, replies = [] ∧ requestTo .get location none = .ok request := by
  cases hr : requestTo .get location none with
  | error e => exact .inl ⟨.error e, [], [], replies, rfl, .unsent hr .nil⟩
  | ok request =>
    cases replies with
    | nil => exact .inr ⟨request, rfl, rfl⟩
    | cons reply rest => exact .inl ⟨_, [request], [reply], rest, rfl, .answered hr rfl .nil⟩

end Ask

/-! ### Trails -/

section Trails

variable {α β σ : Type} {next : σ → α → Step σ β}

/-- The answers that lead from one state to another, each with the state in which it came. -/
inductive Leads (next : σ → α → Step σ β) : σ → List (σ × α) → σ → Prop where
  | refl (s : σ) : Leads next s [] s
  | cons {s s' t : σ} {a : α} {trail : List (σ × α)} :
      next s a = .again s' → Leads next s' trail t → Leads next s ((s, a) :: trail) t

theorem Leads.append {s t u : σ} {l m : List (σ × α)} (h : Leads next s l t)
    (h' : Leads next t m u) : Leads next s (l ++ m) u := by
  induction h with
  | refl => exact h'
  | cons hn _ ih => exact .cons hn (ih h')

theorem Leads.snoc {s t u : σ} {a : α} {l : List (σ × α)} (h : Leads next s l t)
    (hn : next t a = .again u) : Leads next s (l ++ [(t, a)]) u :=
  h.append (.cons hn (.refl u))

/-- What holds at the start and is kept by every answer that leads on holds along every trail. -/
theorem Leads.invariant {P : List (σ × α) → σ → Prop} {s t : σ} {l : List (σ × α)}
    (h : Leads next s l t) (hstart : P [] s)
    (hstep : ∀ l t a u, P l t → next t a = .again u → P (l ++ [(t, a)]) u) : P l t := by
  suffices hall : ∀ before, P before s → P (before ++ l) t from hall [] hstart
  clear hstart
  induction h with
  | refl => simp
  | @cons s s' t a l hn _ ih =>
    intro before hp
    simpa using ih (before ++ [(s, a)]) (hstep before s a s' hp hn)

end Trails

/-! ### The loop -/

section Loop

variable {α β σ : Type} {read : Json → Option α} {location : σ → String}
  {next : σ → α → Step σ β} {start s : σ} {replies rest : List Reply}

/-- A loop whose steps cannot fail themselves. -/
def follow (read : Json → Option α) (location : σ → String) (next : σ → α → Step σ β)
    (start : σ) : Client β :=
  fetch read location (fun s a => .ok (next s a)) start

theorem follow_unsent {e : RuntimeError} (h : requestTo .get (location s) none = .error e) :
    follow read location next s replies = ([], some (.error e, replies)) := by
  unfold follow fetch
  cases replies <;> rw [Exchange.loop, h]

theorem follow_waiting {request : Request} (h : requestTo .get (location s) none = .ok request) :
    follow read location next s [] = ([request], none) := by
  unfold follow fetch
  rw [Exchange.loop, h]

section Answered

variable {request : Request} {reply : Reply}

theorem follow_error {e : RuntimeError} (h : requestTo .get (location s) none = .ok request)
    (hd : decoded read request.url reply = .error e) :
    follow read location next s (reply :: rest) = ([request], some (.error e, rest)) := by
  unfold follow fetch
  rw [Exchange.loop, h]
  simp only [hd, bind, Except.bind]

theorem follow_stop {a : α} {b : β} (h : requestTo .get (location s) none = .ok request)
    (hd : decoded read request.url reply = .ok a) (hn : next s a = .stop b) :
    follow read location next s (reply :: rest) = ([request], some (.ok b, rest)) := by
  unfold follow fetch
  rw [Exchange.loop, h]
  simp only [hd, bind, Except.bind, hn]

theorem follow_again {a : α} {s' : σ} (h : requestTo .get (location s) none = .ok request)
    (hd : decoded read request.url reply = .ok a) (hn : next s a = .again s') :
    follow read location next s (reply :: rest) =
      (request :: (follow read location next s' rest).1,
        (follow read location next s' rest).2) := by
  unfold follow fetch
  rw [Exchange.loop, h]
  simp only [hd, bind, Except.bind, hn]

end Answered

/-- The locations along a trail with the answers that they gave. -/
def answers (location : σ → String) (trail : List (σ × α)) :
    List (String × Except RuntimeError α) :=
  trail.map fun place => (location place.1, .ok place.2)

/-- What has become of a loop under some replies: the answer of the last state has stopped it, that
state has no answer but an error, or it waits for a reply. -/
inductive Followed (read : Json → Option α) (location : σ → String) (next : σ → α → Step σ β)
    (start : σ) : List Reply → Result β → Prop where
  | stopped {trail : List (σ × α)} {s : σ} {a : α} {b : β} {requests : List Request}
      {used : List Reply} (rest : List Reply) :
      Leads next start trail s → next s a = .stop b →
      Asks read (answers location (trail ++ [(s, a)])) requests used →
      Followed read location next start (used ++ rest) (requests, some (.ok b, rest))
  | broken {trail : List (σ × α)} {s : σ} {e : RuntimeError} {requests : List Request}
      {used : List Reply} (rest : List Reply) :
      Leads next start trail s →
      Asks read (answers location trail ++ [(location s, .error e)]) requests used →
      Followed read location next start (used ++ rest) (requests, some (.error e, rest))
  | waiting {trail : List (σ × α)} {s : σ} {request : Request} {requests : List Request}
      {used : List Reply} :
      Leads next start trail s → Asks read (answers location trail) requests used →
      requestTo .get (location s) none = .ok request →
      Followed read location next start used (requests ++ [request], none)

theorem Followed.later {s' : σ} {a : α} {request : Request} {reply : Reply} {result : Result β}
    (hr : requestTo .get (location s) none = .ok request)
    (ha : decoded read request.url reply = .ok a) (hn : next s a = .again s')
    (h : Followed read location next s' rest result) :
    Followed read location next s (reply :: rest) (request :: result.1, result.2) := by
  cases h with
  | stopped rest hl hs h => exact .stopped rest (.cons hn hl) hs (.answered hr ha h)
  | broken rest hl h => exact .broken rest (.cons hn hl) (.answered hr ha h)
  | waiting hl h hw => exact .waiting (.cons hn hl) (.answered hr ha h) hw

theorem followed_follow (start : σ) (replies : List Reply) :
    Followed read location next start replies (follow read location next start replies) := by
  induction replies generalizing start with
  | nil =>
    cases hr : requestTo .get (location start) none with
    | error e =>
      rw [follow_unsent hr]
      exact .broken [] (.refl start) (.unsent hr .nil)
    | ok request =>
      rw [follow_waiting hr]
      exact .waiting (.refl start) .nil hr
  | cons reply rest ih =>
    cases hr : requestTo .get (location start) none with
    | error e =>
      rw [follow_unsent hr]
      exact .broken (reply :: rest) (.refl start) (.unsent hr .nil)
    | ok request =>
      cases ha : decoded read request.url reply with
      | error e =>
        rw [follow_error hr ha]
        exact .broken rest (.refl start) (.answered hr ha .nil)
      | ok a =>
        cases hn : next start a with
        | stop b =>
          rw [follow_stop hr ha hn]
          exact .stopped rest (.refl start) hn (.answered hr ha .nil)
        | again s' =>
          rw [follow_again hr ha hn]
          exact (ih s').later hr ha hn

/-- Answers that lead on are passed. -/
theorem follow_leads {trail : List (σ × α)} {requests : List Request} {used : List Reply}
    (hl : Leads next start trail s) (ha : Asks read (answers location trail) requests used) :
    follow read location next start (used ++ rest) =
      (requests ++ (follow read location next s rest).1,
        (follow read location next s rest).2) := by
  induction hl generalizing requests used with
  | refl => cases ha; rfl
  | cons hn _ ih =>
    cases ha with
    | answered hr hd ha =>
      rw [List.cons_append, follow_again hr hd hn, ih ha, List.cons_append]

/-- A loop has gone wherever its answers lead, and no other way. -/
theorem follow_iff {result : Result β} :
    follow read location next start replies = result ↔
      Followed read location next start replies result := by
  constructor
  · rintro rfl
    exact followed_follow start replies
  · rintro (⟨rest, hl, hs, ha⟩ | ⟨rest, hl, ha⟩ | ⟨hl, ha, hr⟩)
    · rw [answers, List.map_append, asks_append_iff] at ha
      obtain ⟨r₁, r₂, u₁, u₂, rfl, rfl, hbefore, hlast⟩ := ha
      cases hlast with
      | answered hr hd h =>
        cases h
        rw [List.append_assoc, follow_leads hl hbefore, List.singleton_append,
          follow_stop hr hd hs]
    · obtain ⟨r₁, r₂, u₁, u₂, rfl, rfl, hbefore, hlast⟩ := asks_append_iff.mp ha
      rw [List.append_assoc, follow_leads hl hbefore]
      cases hlast with
      | answered hr hd h =>
        cases h
        rw [List.singleton_append, follow_error hr hd]
      | unsent hr h =>
        cases h
        rw [List.nil_append, follow_unsent hr]
    · have h : follow read location next start (_ ++ []) = _ := follow_leads hl ha
      rwa [List.append_nil, follow_waiting hr] at h

end Loop

end Client

end StreamPipeline.Gateway
