import Mathlib
import StreamPipeline.Gateway.Jobs
import StreamPipeline.Proofs.Gateway.Fetching

/-! # Rounds of polling

The jobs are asked for in their order, round after round. A round that is complete and in which some
job has not finished is followed by the next one, unless an answer decides before.
-/

namespace StreamPipeline.Gateway

open Http
open Http.Exchange (Step)
open Client (Asks Leads Followed)

/-- A job that was asked for, and its state or why there is none. -/
structure Poll where
  job : JobId
  answer : Except RuntimeError String

namespace Poll

def Finished (p : Poll) : Prop := p.answer = .ok "FINISHED"

theorem Finished.eq {p : Poll} (h : p.Finished) : p = ⟨p.job, .ok "FINISHED"⟩ := by
  obtain ⟨job, answer⟩ := p
  cases h
  rfl

/-- The answer is a state with which polling goes on. -/
def Undecided (p : Poll) : Prop :=
  ∃ state, p.answer = .ok state ∧ state ∉ ["FAILED", "CANCELED", "CANCELLING"]

end Poll

/-- What was polled so far: the earlier rounds, and the one that has begun. -/
structure Rounds (jobs : List JobId) (earlier : List (List Poll)) (round : List Poll) : Prop where
  complete : ∀ r ∈ earlier, r.map Poll.job = jobs
  unfinished : ∀ r ∈ earlier, ∃ p ∈ r, ¬ p.Finished
  begun : round.map Poll.job <+: jobs
  undecided : ∀ p ∈ earlier.flatten ++ round, p.Undecided

namespace Rounds

variable {jobs : List JobId} {earlier : List (List Poll)} {round : List Poll} {p : Poll}

theorem start : Rounds jobs [] [] := ⟨by simp, by simp, by simp, by simp⟩

theorem poll (h : Rounds jobs earlier round) (hp : p.Undecided)
    (hj : round.map Poll.job ++ [p.job] <+: jobs) : Rounds jobs earlier (round ++ [p]) where
  complete := h.complete
  unfinished := h.unfinished
  begun := by simpa using hj
  undecided := by
    rw [← List.append_assoc]
    exact List.forall_mem_append.mpr ⟨h.undecided, by simpa using hp⟩

theorem next (h : Rounds jobs earlier round) (hj : round.map Poll.job = jobs)
    (hu : ∃ p ∈ round, ¬ p.Finished) : Rounds jobs (earlier ++ [round]) [] where
  complete := List.forall_mem_append.mpr ⟨h.complete, by simpa using hj⟩
  unfinished := List.forall_mem_append.mpr ⟨h.unfinished, by simpa using hu⟩
  begun := by simp
  undecided := by simpa using h.undecided

theorem before {polls : List Poll} (h : Rounds jobs earlier (round ++ polls)) :
    Rounds jobs earlier round where
  complete := h.complete
  unfinished := h.unfinished
  begun := (List.prefix_append _ _).trans (by simpa using h.begun)
  undecided := (List.forall_mem_append.mp (by simpa using h.undecided)).1

/-- Without jobs no round is polled. -/
theorem of_nil (h : Rounds [] earlier round) : earlier = [] ∧ round = [] := by
  refine ⟨List.eq_nil_iff_forall_not_mem.mpr fun r hr => ?_, by simpa using h.begun⟩
  obtain ⟨p, hp, -⟩ := h.unfinished r hr
  rw [List.map_eq_nil_iff.mp (h.complete r hr)] at hp
  exact List.not_mem_nil hp

end Rounds

/-! ### Steps -/

section Steps

variable {first : JobId} {others : List JobId} {r r' : Round} {state : String}

theorem step_decisive :
    r.step first others "FAILED" = .stop (.failed r.job) ∧
      r.step first others "CANCELED" = .stop .canceled ∧
      r.step first others "CANCELLING" = .stop .canceled :=
  ⟨rfl, rfl, rfl⟩

/-- With any other state the round goes on, or ends with its last job. -/
theorem step_undecided (h : state ∉ ["FAILED", "CANCELED", "CANCELLING"]) :
    r.step first others state =
      match r.rest with
      | next :: rest => .again ⟨next, rest, r.finished && state == "FINISHED"⟩
      | [] =>
        if r.finished && state == "FINISHED" then .stop .finished
        else .again ⟨first, others, true⟩ := by
  simp only [List.mem_cons, List.not_mem_nil, or_false, not_or] at h
  unfold Round.step
  split
  · exact absurd rfl h.1
  · exact absurd rfl h.2.1
  · exact absurd rfl h.2.2
  · rfl

theorem step_again (h : r.step first others state = .again r') :
    state ∉ ["FAILED", "CANCELED", "CANCELLING"] ∧
      ((∃ next rest, r.rest = next :: rest ∧
          r' = ⟨next, rest, r.finished && state == "FINISHED"⟩) ∨
        r.rest = [] ∧ (r.finished && state == "FINISHED") = false ∧
          r' = ⟨first, others, true⟩) := by
  have hu : state ∉ ["FAILED", "CANCELED", "CANCELLING"] := by
    simp only [List.mem_cons, List.not_mem_nil, or_false, not_or]
    refine ⟨?_, ?_, ?_⟩ <;> rintro rfl <;> cases h
  refine ⟨hu, ?_⟩
  rw [step_undecided hu] at h
  cases hr : r.rest with
  | cons next rest =>
    rw [hr] at h
    cases h
    exact .inl ⟨next, rest, rfl, rfl⟩
  | nil =>
    rw [hr] at h
    cases hf : r.finished && state == "FINISHED" with
    | true => simp [hf] at h
    | false =>
      simp only [hf, Bool.false_eq_true, if_false] at h
      cases h
      exact .inr ⟨rfl, rfl, rfl⟩

theorem step_stop {v : Verdict} (h : r.step first others state = .stop v) :
    (state = "FAILED" ∧ v = .failed r.job) ∨
      (state ∈ ["CANCELED", "CANCELLING"] ∧ v = .canceled) ∨
      (state = "FINISHED" ∧ r.finished = true ∧ r.rest = [] ∧ v = .finished) := by
  by_cases hu : state ∈ ["FAILED", "CANCELED", "CANCELLING"]
  · simp only [List.mem_cons, List.not_mem_nil, or_false] at hu
    rcases hu with rfl | rfl | rfl <;> cases h
    · exact .inl ⟨rfl, rfl⟩
    · exact .inr (.inl ⟨by simp, rfl⟩)
    · exact .inr (.inl ⟨by simp, rfl⟩)
  · rw [step_undecided hu] at h
    cases hr : r.rest with
    | cons next rest => rw [hr] at h; cases h
    | nil =>
      rw [hr] at h
      cases hf : r.finished && state == "FINISHED" with
      | false => simp [hf] at h
      | true =>
        simp only [hf, if_true] at h
        cases h
        rw [Bool.and_eq_true, beq_iff_eq] at hf
        exact .inr (.inr ⟨hf.2, hf.1, rfl, rfl⟩)

end Steps

/-! ### Trails in rounds -/

/-- The answer that came in a state of polling. -/
def Poll.ofState (place : Round × String) : Poll := ⟨place.1.job, .ok place.2⟩

section Trails

variable {first : JobId} {others : List JobId}

/-- The polls so far stand in rounds, and `r` is the place in the last one. -/
def Stands (first : JobId) (others : List JobId) (trail : List (Round × String)) (r : Round) :
    Prop :=
  ∃ earlier round, Rounds (first :: others) earlier round ∧
    trail.map Poll.ofState = earlier.flatten ++ round ∧
    round.map Poll.job ++ r.job :: r.rest = first :: others ∧
    (r.finished = true ↔ ∀ p ∈ round, p.Finished)

theorem begun_of_eq {round : List Poll} {jobs rest : List JobId} {job : JobId}
    (h : round.map Poll.job ++ job :: rest = jobs) : round.map Poll.job ++ [job] <+: jobs :=
  ⟨rest, by simpa using h⟩

theorem next_of_begun {round : List Poll} {jobs : List JobId} {job : JobId}
    (h : round.map Poll.job ++ [job] <+: jobs) :
    ∃ first others after, jobs = first :: others ∧
      round.map Poll.job ++ job :: after = first :: others := by
  obtain ⟨after, rfl⟩ := h
  cases round with
  | nil => exact ⟨job, after, after, by simp⟩
  | cons p round => exact ⟨p.job, round.map Poll.job ++ job :: after, after, by simp⟩

theorem exists_last {round : List Poll} (h : round.map Poll.job = first :: others) :
    ∃ before last, round = before ++ [last] := by
  rcases List.eq_nil_or_concat round with rfl | ⟨before, last, hlast⟩
  · cases h
  · exact ⟨before, last, hlast.trans (List.concat_eq_append ..)⟩

theorem ofState_eq {r : Round} {p : Poll} {state : String} (hj : r.job = p.job)
    (ha : p.answer = .ok state) : Poll.ofState (r, state) = p := by
  obtain ⟨job, answer⟩ := p
  cases hj
  cases ha
  rfl

theorem finished_ofState {r : Round} {state : String} :
    (Poll.ofState (r, state)).Finished ↔ state = "FINISHED" := by
  simp [Poll.Finished, Poll.ofState]

/-- Whether all have finished, with the job that is asked now. -/
theorem finished_snoc {r : Round} {round : List Poll} {state : String}
    (h : r.finished = true ↔ ∀ p ∈ round, p.Finished) :
    (r.finished && state == "FINISHED") = true ↔
      ∀ p ∈ round ++ [Poll.ofState (r, state)], p.Finished := by
  rw [Bool.and_eq_true, beq_iff_eq, h, List.forall_mem_append, List.forall_mem_singleton,
    finished_ofState]

/-- Some job has not finished, with the one that is asked now. -/
theorem unfinished_snoc {r : Round} {round : List Poll} {state : String}
    (h : r.finished = true ↔ ∀ p ∈ round, p.Finished) :
    (r.finished && state == "FINISHED") = false ↔
      ∃ p ∈ round ++ [Poll.ofState (r, state)], ¬ p.Finished := by
  rw [← Bool.not_eq_true, finished_snoc h]
  simp only [Classical.not_forall, exists_prop]

theorem stands_start : Stands first others [] ⟨first, others, true⟩ :=
  ⟨[], [], .start, rfl, rfl, by simp⟩

theorem Stands.step {trail : List (Round × String)} {r r' : Round} {state : String}
    (h : Stands first others trail r) (hn : r.step first others state = .again r') :
    Stands first others (trail ++ [(r, state)]) r' := by
  obtain ⟨earlier, round, hrounds, htrail, hjobs, hfinished⟩ := h
  obtain ⟨hstate, hnext⟩ := step_again hn
  have hpolled : Rounds (first :: others) earlier (round ++ [Poll.ofState (r, state)]) :=
    hrounds.poll ⟨state, rfl, hstate⟩ ⟨r.rest, by rw [← hjobs]; simp [Poll.ofState]⟩
  rcases hnext with ⟨next, rest, hrest, rfl⟩ | ⟨hrest, hno, rfl⟩
  · refine ⟨earlier, round ++ [Poll.ofState (r, state)], hpolled, ?_, ?_, finished_snoc hfinished⟩
    · simp [htrail]
    · rw [← hjobs, hrest]
      simp [Poll.ofState]
  · have hall : (round ++ [Poll.ofState (r, state)]).map Poll.job = first :: others := by
      rw [← hjobs, hrest]
      simp [Poll.ofState]
    have hopen := (unfinished_snoc hfinished).mp hno
    refine ⟨earlier ++ [round ++ [Poll.ofState (r, state)]], [], hpolled.next hall hopen, ?_, rfl,
      by simp⟩
    simp [htrail]

/-- Wherever polling has come, the polls stand in rounds. -/
theorem stands_of_leads {trail : List (Round × String)} {r : Round}
    (h : Leads (Round.step first others) ⟨first, others, true⟩ trail r) :
    Stands first others trail r :=
  h.invariant stands_start fun _ _ _ _ hs hn => hs.step hn

/-- Polls within one round lead on to the next job of the round. -/
theorem leads_within {polls : List Poll} (r : Round) {job : JobId} {rest : List JobId}
    (hu : ∀ p ∈ polls, p.Undecided) (hj : polls.map Poll.job ++ job :: rest = r.job :: r.rest) :
    ∃ trail finished, Leads (Round.step first others) r trail ⟨job, rest, finished⟩ ∧
      trail.map Poll.ofState = polls ∧
      (finished = true ↔ r.finished = true ∧ ∀ p ∈ polls, p.Finished) := by
  induction polls generalizing r with
  | nil =>
    obtain ⟨job', rest', finished⟩ := r
    cases hj
    exact ⟨[], finished, .refl _, rfl, by simp⟩
  | cons p polls ih =>
    obtain ⟨job', rest', finished⟩ := r
    obtain ⟨⟨state, hp, hstate⟩, hpolls⟩ := List.forall_mem_cons.mp hu
    obtain ⟨hfirst, hmore⟩ := List.cons.inj hj
    obtain ⟨next, rest'', hnext⟩ : ∃ next rest'', rest' = next :: rest'' := by
      cases polls with
      | nil => exact ⟨_, _, hmore.symm⟩
      | cons q polls => exact ⟨_, _, hmore.symm⟩
    have hstep : Round.step first others ⟨job', rest', finished⟩ state =
        .again ⟨next, rest'', finished && state == "FINISHED"⟩ := by
      rw [step_undecided hstate]
      simp only [hnext]
    obtain ⟨trail, finished', hlead, htrail, hfinished⟩ :=
      ih ⟨next, rest'', finished && state == "FINISHED"⟩ hpolls (hmore.trans hnext)
    have hpoll : Poll.ofState (⟨job', rest', finished⟩, state) = p := ofState_eq hfirst.symm hp
    refine ⟨_, finished', .cons hstep hlead, by simp [hpoll, htrail], ?_⟩
    have hhead : p.Finished ↔ state = "FINISHED" := by rw [← hpoll, finished_ofState]
    rw [hfinished, Bool.and_eq_true, beq_iff_eq, List.forall_mem_cons, hhead, and_assoc]

/-- A complete round in which some job has not finished leads back to the first job. -/
theorem leads_round {polls : List Poll} (hu : ∀ p ∈ polls, p.Undecided)
    (hj : polls.map Poll.job = first :: others) (hopen : ∃ p ∈ polls, ¬ p.Finished) :
    ∃ trail, Leads (Round.step first others) ⟨first, others, true⟩ trail ⟨first, others, true⟩ ∧
      trail.map Poll.ofState = polls := by
  -- Only after the last job the flag counts, so the round is split there.
  obtain ⟨before, last, rfl⟩ := exists_last hj
  obtain ⟨hbefore, hlast⟩ := List.forall_mem_append.mp hu
  obtain ⟨state, hstate, hundecided⟩ := hlast last (by simp)
  have hjobs : before.map Poll.job ++ last.job :: [] = first :: others := by simpa using hj
  obtain ⟨trail, finished, hlead, htrail, hfinished⟩ :=
    leads_within ⟨first, others, true⟩ hbefore hjobs
  have hpoll : Poll.ofState (⟨last.job, [], finished⟩, state) = last := ofState_eq rfl hstate
  have hno : (finished && state == "FINISHED") = false := by
    have hall : finished = true ↔ ∀ p ∈ before, p.Finished := by simpa using hfinished
    rw [← hpoll] at hopen
    exact (unfinished_snoc (r := ⟨last.job, [], finished⟩) hall).mpr hopen
  have hstep : Round.step first others ⟨last.job, [], finished⟩ state =
      .again ⟨first, others, true⟩ := by
    rw [step_undecided hundecided]
    simp only [hno, Bool.false_eq_true, if_false]
  exact ⟨_, hlead.snoc hstep, by simp [htrail, hpoll]⟩

/-- Rounds of polls lead to the next job of the last one. -/
theorem leads_of_rounds {earlier : List (List Poll)} {round : List Poll} {job : JobId}
    {rest : List JobId} (h : Rounds (first :: others) earlier round)
    (hj : round.map Poll.job ++ job :: rest = first :: others) :
    ∃ trail finished,
      Leads (Round.step first others) ⟨first, others, true⟩ trail ⟨job, rest, finished⟩ ∧
        trail.map Poll.ofState = earlier.flatten ++ round ∧
        (finished = true ↔ ∀ p ∈ round, p.Finished) := by
  obtain ⟨hcomplete, hopen, -, hundecided⟩ := h
  induction earlier with
  | nil => simpa using leads_within ⟨first, others, true⟩ hundecided hj
  | cons polls earlier ih =>
    obtain ⟨hpolls, hcomplete⟩ := List.forall_mem_cons.mp hcomplete
    obtain ⟨hpollsOpen, hopen⟩ := List.forall_mem_cons.mp hopen
    rw [List.flatten_cons, List.append_assoc] at hundecided
    obtain ⟨hpollsUndecided, hundecided⟩ := List.forall_mem_append.mp hundecided
    obtain ⟨trail, hlead, htrail⟩ := leads_round hpollsUndecided hpolls hpollsOpen
    obtain ⟨trail', finished, hlead', htrail', hfinished⟩ := ih hcomplete hopen hundecided
    exact ⟨trail ++ trail', finished, hlead.append hlead', by simp [htrail, htrail'], hfinished⟩

end Trails

/-! ### Waiting for jobs -/

namespace Session

variable {s : Session} {jobs : List JobId} {replies rest : List Http.Reply}
  {requests : List Http.Request}

/-- The locations of the polls and what they gave. -/
def polled (s : Session) (polls : List Poll) : List (String × Except RuntimeError String) :=
  polls.map fun p => (s.jobUrl p.job, p.answer)

theorem polled_snoc {polls : List Poll} {p : Poll} :
    s.polled (polls ++ [p]) = s.polled polls ++ [(s.jobUrl p.job, p.answer)] := by
  simp [polled]

/-- What waiting for jobs comes to. Rounds are polled, and the last of them is complete with every
job finished, or stops short at a job that was canceled, failed, could not be asked, or has no reply
yet. -/
inductive Waited (s : Session) (jobs : List JobId) :
    List Http.Reply → Client.Result JobState → Prop where
  | finished {earlier : List (List Poll)} {round : List Poll} {requests : List Http.Request}
      {used : List Http.Reply} (rest : List Http.Reply) :
      Rounds jobs earlier round → round.map Poll.job = jobs → (∀ p ∈ round, p.Finished) →
      Asks (textField? "state") (s.polled (earlier.flatten ++ round)) requests used →
      Waited s jobs (used ++ rest) (requests, some (.ok .finished, rest))
  | canceled {earlier : List (List Poll)} {round : List Poll} {job : JobId} {state : String}
      {requests : List Http.Request} {used : List Http.Reply} (rest : List Http.Reply) :
      Rounds jobs earlier round → round.map Poll.job ++ [job] <+: jobs →
      state ∈ ["CANCELED", "CANCELLING"] →
      Asks (textField? "state") (s.polled (earlier.flatten ++ round ++ [⟨job, .ok state⟩])) requests
        used →
      Waited s jobs (used ++ rest) (requests, some (.ok .canceled, rest))
  | failed {earlier : List (List Poll)} {round : List Poll} {job : JobId}
      {requests : List Http.Request} {used : List Http.Reply} (rest : List Http.Reply) :
      Rounds jobs earlier round → round.map Poll.job ++ [job] <+: jobs →
      Asks (textField? "state") (s.polled (earlier.flatten ++ round ++ [⟨job, .ok "FAILED"⟩]))
        requests used →
      Waited s jobs (used ++ rest) (requests ++ (s.cause job rest).1,
        (s.cause job rest).2.map fun (reason, left) => (.ok (.failed job reason), left))
  | broken {earlier : List (List Poll)} {round : List Poll} {job : JobId} {e : RuntimeError}
      {requests : List Http.Request} {used : List Http.Reply} (rest : List Http.Reply) :
      Rounds jobs earlier round → round.map Poll.job ++ [job] <+: jobs →
      Asks (textField? "state") (s.polled (earlier.flatten ++ round ++ [⟨job, .error e⟩])) requests
        used →
      Waited s jobs (used ++ rest) (requests, some (.error e, rest))
  | waiting {earlier : List (List Poll)} {round : List Poll} {job : JobId} {request : Http.Request}
      {requests : List Http.Request} {used : List Http.Reply} :
      Rounds jobs earlier round → round.map Poll.job ++ [job] <+: jobs →
      Asks (textField? "state") (s.polled (earlier.flatten ++ round)) requests used →
      requestTo .get (s.jobUrl job) none = .ok request →
      Waited s jobs used (requests ++ [request], none)

/-- What a verdict comes to: after a failure the cause is asked for. -/
def concludes (s : Session) : Verdict → Client JobState
  | .finished => return .finished
  | .canceled => return .canceled
  | .failed job => return .failed job (← ExceptT.lift (s.cause job))

theorem wait_eq : s.wait jobs = s.verdict jobs >>= s.concludes := rfl

theorem wait_finished (h : s.verdict jobs replies = (requests, some (.ok .finished, rest))) :
    s.wait jobs replies = (requests, some (.ok .finished, rest)) := by
  rw [wait_eq, Client.bind_ok h, concludes, Client.pure_apply, List.append_nil]

theorem wait_canceled (h : s.verdict jobs replies = (requests, some (.ok .canceled, rest))) :
    s.wait jobs replies = (requests, some (.ok .canceled, rest)) := by
  rw [wait_eq, Client.bind_ok h, concludes, Client.pure_apply, List.append_nil]

theorem wait_failed {job : JobId}
    (h : s.verdict jobs replies = (requests, some (.ok (.failed job), rest))) :
    s.wait jobs replies = (requests ++ (s.cause job rest).1,
      (s.cause job rest).2.map fun (reason, left) => (.ok (.failed job reason), left)) := by
  rw [wait_eq, Client.bind_ok h, concludes, Client.bind_lift]

section Verdict

variable {first : JobId} {others : List JobId}

theorem verdict_eq :
    s.verdict (first :: others) =
      Client.follow (textField? "state") (fun r : Round => s.jobUrl r.job)
        (Round.step first others) ⟨first, others, true⟩ :=
  rfl

theorem answers_eq_polled {trail : List (Round × String)} :
    Client.answers (fun r : Round => s.jobUrl r.job) trail =
      s.polled (trail.map Poll.ofState) := by
  simp [Client.answers, polled, Poll.ofState]

/-- Waiting for some job comes to rounds of polls. -/
theorem waited_wait : Waited s (first :: others) replies (s.wait (first :: others) replies) := by
  have h : Followed (textField? "state") (fun r : Round => s.jobUrl r.job)
      (Round.step first others) ⟨first, others, true⟩ replies
      (s.verdict (first :: others) replies) :=
    Client.followed_follow _ replies
  generalize hv : s.verdict (first :: others) replies = result at h
  cases h with
  | @stopped trail r state v requests used rest hl hstop ha =>
    obtain ⟨earlier, round, hrounds, htrail, hjobs, hfinished⟩ := stands_of_leads hl
    rw [answers_eq_polled, List.map_append, htrail] at ha
    rcases step_stop hstop with ⟨rfl, rfl⟩ | ⟨hstate, rfl⟩ | ⟨rfl, hall, hlast, rfl⟩
    · rw [wait_failed hv]
      exact .failed rest hrounds (begun_of_eq hjobs) ha
    · rw [wait_canceled hv]
      exact .canceled rest hrounds (begun_of_eq hjobs) hstate ha
    · rw [wait_finished hv]
      have hundecided : (Poll.ofState (r, "FINISHED")).Undecided := ⟨_, rfl, by simp⟩
      refine .finished rest (hrounds.poll hundecided (begun_of_eq hjobs)) ?_ ?_
        (by simpa using ha)
      · rw [← hjobs, hlast]
        simp [Poll.ofState]
      · exact (finished_snoc hfinished).mp (by simp [hall])
  | @broken trail r e requests used rest hl ha =>
    obtain ⟨earlier, round, hrounds, htrail, hjobs, -⟩ := stands_of_leads hl
    rw [wait_eq, Client.bind_error hv]
    refine .broken rest hrounds (begun_of_eq hjobs) ?_
    rw [answers_eq_polled, htrail] at ha
    rwa [polled_snoc]
  | @waiting trail r request requests used hl ha hr =>
    obtain ⟨earlier, round, hrounds, htrail, hjobs, -⟩ := stands_of_leads hl
    rw [wait_eq, Client.bind_waiting hv]
    refine .waiting hrounds (begun_of_eq hjobs) ?_ hr
    rwa [answers_eq_polled, htrail] at ha

/-- Polls in rounds lead to the state that stops polling. -/
theorem verdict_stopped {earlier : List (List Poll)} {round : List Poll} {job : JobId}
    {after : List JobId} {state : String} {v : Verdict} {used : List Http.Reply}
    (h : Rounds (first :: others) earlier round)
    (hj : round.map Poll.job ++ job :: after = first :: others)
    (hstop : ∀ finished, (finished = true ↔ ∀ p ∈ round, p.Finished) →
      Round.step first others ⟨job, after, finished⟩ state = .stop v)
    (ha : Asks (textField? "state") (s.polled (earlier.flatten ++ round ++ [⟨job, .ok state⟩]))
      requests used) :
    s.verdict (first :: others) (used ++ rest) = (requests, some (.ok v, rest)) := by
  obtain ⟨trail, finished, hlead, htrail, hfinished⟩ := leads_of_rounds h hj
  rw [verdict_eq, Client.follow_iff]
  refine .stopped rest hlead (hstop finished hfinished) ?_
  rwa [answers_eq_polled, List.map_append, htrail]

end Verdict

theorem wait_of_waited {result : Client.Result JobState} (h : Waited s jobs replies result) :
    s.wait jobs replies = result := by
  cases h with
  | @finished earlier round requests used rest hrounds hjobs hfinished ha =>
    cases jobs with
    | nil =>
      obtain ⟨rfl, rfl⟩ := hrounds.of_nil
      cases ha
      rfl
    | cons first others =>
      -- A round that is complete and finished is no earlier one: its last poll stops polling.
      obtain ⟨before, last, rfl⟩ := exists_last hjobs
      obtain ⟨hbefore, hlast⟩ := List.forall_mem_append.mp hfinished
      have hpoll : last = ⟨last.job, .ok "FINISHED"⟩ := (hlast _ (List.mem_singleton_self _)).eq
      have hj : before.map Poll.job ++ last.job :: [] = first :: others := by simpa using hjobs
      refine wait_finished (verdict_stopped hrounds.before hj (fun finished hall => ?_)
        (by rwa [← hpoll, List.append_assoc]))
      rw [step_undecided (by simp), hall.mpr hbefore]
      rfl
  | @canceled earlier round job state requests used rest hrounds hnext hstate ha =>
    obtain ⟨first, others, after, rfl, hj⟩ := next_of_begun hnext
    refine wait_canceled (verdict_stopped hrounds hj (fun finished _ => ?_) ha)
    simp only [List.mem_cons, List.not_mem_nil, or_false] at hstate
    rcases hstate with rfl | rfl
    · exact step_decisive.2.1
    · exact step_decisive.2.2
  | @failed earlier round job requests used rest hrounds hnext ha =>
    obtain ⟨first, others, after, rfl, hj⟩ := next_of_begun hnext
    exact wait_failed (verdict_stopped hrounds hj (fun finished _ => step_decisive.1) ha)
  | @broken earlier round job e requests used rest hrounds hnext ha =>
    obtain ⟨first, others, after, rfl, hj⟩ := next_of_begun hnext
    obtain ⟨trail, finished, hlead, htrail, -⟩ := leads_of_rounds hrounds hj
    rw [wait_eq]
    refine Client.bind_error ?_
    rw [verdict_eq, Client.follow_iff]
    refine .broken rest hlead ?_
    rwa [answers_eq_polled, htrail, ← polled_snoc (p := ⟨job, .error e⟩)]
  | @waiting earlier round job request requests used hrounds hnext ha hr =>
    obtain ⟨first, others, after, rfl, hj⟩ := next_of_begun hnext
    obtain ⟨trail, finished, hlead, htrail, -⟩ := leads_of_rounds hrounds hj
    rw [wait_eq]
    refine Client.bind_waiting ?_
    rw [verdict_eq, Client.follow_iff]
    refine .waiting hlead ?_ hr
    rwa [answers_eq_polled, htrail]

theorem wait_waited (s : Session) (jobs : List JobId) (replies : List Http.Reply) :
    Waited s jobs replies (s.wait jobs replies) := by
  cases jobs with
  | nil =>
    have h : Asks (textField? "state") (s.polled ([].flatten ++ [])) [] [] := .nil
    exact .finished replies .start rfl (by simp) h
  | cons first others => exact waited_wait

/-- The cause of a failure takes one request at most. -/
theorem cause_asks (job : JobId) (replies : List Http.Reply) :
    (s.cause job replies).1 =
      (requestTo .get (s.jobUrl job ++ "/exceptions") none).toOption.toList := by
  have hask : (Client.ask rootException? .get (s.jobUrl job ++ "/exceptions") none replies).1 = _ :=
    Client.ask_sent replies
  unfold cause ExceptT.run
  rw [← hask]
  change (Http.Exchange.bind (Client.ask rootException? .get (s.jobUrl job ++ "/exceptions") none)
    _ replies).1 = _
  unfold Http.Exchange.bind
  rcases Client.ask rootException? .get (s.jobUrl job ++ "/exceptions") none replies with
    ⟨sent, _ | ⟨⟨e⟩ | ⟨⟨⟩ | cause⟩, left⟩⟩ <;> simp [pure, Http.Exchange.pure]

/-- The last answers before the end are those of the last round. -/
theorem last_of_rounds {earlier : List (List Poll)} {round : List Poll} {job : JobId}
    (hjob : job ∈ round.map Poll.job) (h : ∀ p ∈ round, p.Finished) :
    ((earlier.flatten ++ round).filter fun p => p.job = job).getLast? =
      some ⟨job, .ok "FINISHED"⟩ := by
  obtain ⟨p, hp, rfl⟩ := List.mem_map.mp hjob
  have hne : (round.filter fun q => q.job = p.job) ≠ [] :=
    List.ne_nil_of_mem (List.mem_filter.mpr ⟨hp, by simp⟩)
  rw [List.filter_append, List.getLast?_append, List.getLast?_eq_some_getLast hne, Option.some_or]
  obtain ⟨hlast, hjob⟩ := List.mem_filter.mp (List.getLast_mem hne)
  rw [(h _ hlast).eq, of_decide_eq_true hjob]

/-- Waiting for jobs polls them in their order, round after round, until an answer decides or a
round finds all of them finished; the cause of a failure is asked for and no further job. So jobs
have finished only if that is the last that was heard of each of them. -/
theorem wait_polls_in_rounds (s : Session) (jobs : List JobId) (replies : List Http.Reply) :
    (∀ result, s.wait jobs replies = result ↔ Waited s jobs replies result) ∧
      (∀ job rest, (s.cause job rest).1 =
        (requestTo .get (s.jobUrl job ++ "/exceptions") none).toOption.toList) ∧
      ∀ rest, (s.wait jobs replies).2 = some (.ok .finished, rest) →
        ∃ rounds polls used, replies = used ++ rest ∧
          polls.map Poll.job = (List.replicate rounds jobs).flatten ∧
          Asks (textField? "state") (s.polled polls) (s.wait jobs replies).1 used ∧
          ∀ job ∈ jobs, (polls.filter fun p => p.job = job).getLast? =
            some ⟨job, .ok "FINISHED"⟩ := by
  refine ⟨fun result => ⟨?_, wait_of_waited⟩, fun job rest => cause_asks job rest, ?_⟩
  · rintro rfl
    exact wait_waited s jobs replies
  · intro rest hend
    have h := wait_waited s jobs replies
    generalize s.wait jobs replies = result at h hend
    cases h with
    | @finished earlier round requests used rest hrounds hjobs hfinished ha =>
      cases hend
      refine ⟨earlier.length + 1, _, used, rfl, ?_, ha, fun job hjob =>
        last_of_rounds (hjobs ▸ hjob) hfinished⟩
      rw [List.map_append, List.map_flatten, List.map_eq_replicate_iff.mpr hrounds.complete, hjobs,
        List.replicate_succ', List.flatten_append, List.flatten_singleton]
    | canceled => cases hend
    | failed rest =>
      obtain ⟨⟨reason, left⟩, -, hreason⟩ := Option.map_eq_some_iff.mp hend
      cases hreason
    | broken => cases hend
    | waiting => cases hend

theorem wait_polls_in_rounds_twoJobs :
    let s : Session := ⟨"http://localhost:8083", "http://localhost:8081", "s"⟩
    let jobs : List JobId := [⟨"a"⟩, ⟨"b"⟩]
    let replies : List Http.Reply :=
      ["FINISHED", "RUNNING", "FINISHED", "FINISHED"].map fun state =>
        .response 200 ("\x7b\"state\":\"" ++ state ++ "\"\x7d")
    (s.wait jobs replies).2 = some (.ok .finished, []) ∧
      ∃ rounds polls used, replies = used ++ [] ∧
        polls.map Poll.job = (List.replicate rounds jobs).flatten ∧
        Asks (textField? "state") (s.polled polls) (s.wait jobs replies).1 used ∧
        ∀ job ∈ jobs, (polls.filter fun p => p.job = job).getLast? =
          some ⟨job, .ok "FINISHED"⟩ := by
  intro s jobs replies
  have hend : (s.wait jobs replies).2 = some (.ok .finished, []) := by cbv
  exact ⟨hend, (wait_polls_in_rounds s jobs replies).2.2 [] hend⟩

end Session

end StreamPipeline.Gateway
