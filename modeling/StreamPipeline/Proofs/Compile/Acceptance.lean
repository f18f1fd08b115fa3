import Mathlib.Data.List.Perm.Basic
import StreamPipeline.Proofs.Compile.Phases

/-! # Acceptance in any order

The waits for the submitted inserts may end in any order. Where all of them end well, the jobs are
passed on in the order of the inserts; otherwise the first wait to fail ends the run, and the jobs
are not waited for.
-/

namespace StreamPipeline

/-- A wait that is over: the pending job that it was for, and how it ended. -/
structure Completion where
  job : PendingJob
  result : Except RuntimeError JobId

def Call.completion? : (c : Call) → c.Answer → Option Completion
  | .nextAccepted first rest, d =>
    let d : Decision (first :: rest) := d
    some ⟨(first :: rest).get d.place, d.result⟩
  | _, _ => none

/-- The waits of a run that are over, in the order in which they ended. -/
def completions (t : List Call.Exchange) : List Completion :=
  t.filterMap fun e => e.question.completion? e.answer

/-- The inserts whose waits are over, by their places among the inserts. -/
def completionOrder (t : List Call.Exchange) : List Nat := (completions t).map (·.job.index)

/-- Inserts that are submitted one after the other, each answered with its handle. -/
def submissions (inserts : List PendingInsert) (handles : List JobHandle) : List Call.Exchange :=
  List.zipWith (fun i handle => ⟨.submit i.sql, .ok handle⟩) inserts handles

/-- The submitted inserts with their places, counted from `start`. -/
def pendingJobs (start : Nat) (handles : List JobHandle) : List PendingJob :=
  (handles.zipIdx start).map fun e => ⟨e.2, e.1⟩

theorem map_index_pendingJobs (handles : List JobHandle) :
    (pendingJobs 0 handles).map (·.index) = List.range handles.length := by
  simp [pendingJobs, Function.comp_def, List.range_eq_range']

theorem getElem?_of_mem_pendingJobs {handles : List JobHandle} {j : PendingJob}
    (h : j ∈ pendingJobs 0 handles) : handles[j.index]? = some j.handle := by
  obtain ⟨e, he, rfl⟩ := List.mem_map.mp h
  exact List.mem_zipIdx_iff_getElem?.mp he

namespace Build

/-! ### Putting jobs in order -/

theorem insertJob_perm (index : Nat) (job : JobId) (l : List (Nat × JobId)) :
    (insertJob index job l).Perm ((index, job) :: l) := by
  induction l with
  | nil => exact .refl _
  | cons a l ih =>
    unfold insertJob
    split
    · exact .refl _
    · exact (ih.cons a).trans (.swap _ _ _)

theorem insertJob_sorted {index : Nat} {job : JobId} {l : List (Nat × JobId)}
    (hl : l.Pairwise fun a b => a.1 < b.1) (hn : index ∉ l.map (·.1)) :
    (insertJob index job l).Pairwise fun a b => a.1 < b.1 := by
  induction l with
  | nil => exact List.pairwise_singleton _ _
  | cons a l ih =>
    obtain ⟨ha, hl'⟩ := List.pairwise_cons.mp hl
    simp only [List.map_cons, List.mem_cons, not_or] at hn
    unfold insertJob
    split
    next hlt =>
      refine List.pairwise_cons.mpr ⟨fun b hb => ?_, hl⟩
      rcases List.mem_cons.mp hb with rfl | hb
      · exact hlt
      · exact Nat.lt_trans hlt (ha b hb)
    next hge =>
      refine List.pairwise_cons.mpr ⟨fun b hb => ?_, ih hl' hn.2⟩
      rcases List.mem_cons.mp ((insertJob_perm index job l).mem_iff.mp hb) with rfl | hb
      · exact Nat.lt_of_le_of_ne (Nat.not_lt.mp hge) (Ne.symm hn.1)
      · exact ha b hb

/-- The accepted jobs with their places, after those of `accepted`. -/
def collected (accepted : List (Nat × JobId)) (done : List (PendingJob × JobId)) :
    List (Nat × JobId) :=
  done.foldl (fun l c => insertJob c.1.index c.2 l) accepted

theorem collected_perm (accepted : List (Nat × JobId)) (done : List (PendingJob × JobId)) :
    (collected accepted done).Perm (done.map (fun c => (c.1.index, c.2)) ++ accepted) := by
  induction done generalizing accepted with
  | nil => exact .refl _
  | cons c done ih =>
    refine (ih _).trans ?_
    exact ((insertJob_perm _ _ _).append_left _).trans List.perm_middle

theorem collected_sorted {accepted : List (Nat × JobId)} {done : List (PendingJob × JobId)}
    (ha : accepted.Pairwise fun a b => a.1 < b.1)
    (hn : (done.map (fun c => c.1.index) ++ accepted.map (·.1)).Nodup) :
    (collected accepted done).Pairwise fun a b => a.1 < b.1 := by
  induction done generalizing accepted with
  | nil => exact ha
  | cons c done ih =>
    rw [List.map_cons, List.cons_append, List.nodup_cons] at hn
    have hc : c.1.index ∉ accepted.map (·.1) := fun hm => hn.1 (List.mem_append_right _ hm)
    refine ih (insertJob_sorted ha hc) ?_
    have hp := ((insertJob_perm c.1.index c.2 accepted).map (·.1)).append_left
      (done.map fun c => c.1.index)
    refine (hp.trans List.perm_middle).nodup_iff.mpr ?_
    exact List.nodup_cons.mpr hn

/-- However the jobs come in, they are put into the order of their inserts. -/
theorem collected_eq {done : List (PendingJob × JobId)} {n : Nat} {job : Nat → JobId}
    (hp : (done.map fun c => c.1.index).Perm (List.range n))
    (hj : ∀ c ∈ done, c.2 = job c.1.index) :
    collected [] done = (List.range n).map fun i => (i, job i) := by
  have hsorted : (collected [] done).Pairwise fun a b => a.1 < b.1 := by
    refine collected_sorted .nil ?_
    rw [List.map_nil, List.append_nil]
    exact hp.nodup_iff.mpr List.nodup_range
  have hrange : ((List.range n).map fun i => (i, job i)).Pairwise fun a b => a.1 < b.1 := by
    rw [List.pairwise_map]
    exact List.pairwise_lt_range
  have hperm : (collected [] done).Perm ((List.range n).map fun i => (i, job i)) := by
    have hkeys : done.map (fun c => (c.1.index, c.2)) =
        (done.map fun c => c.1.index).map fun i => (i, job i) := by
      rw [List.map_map]
      exact List.map_congr_left fun c hc => by simp [hj c hc]
    refine (collected_perm [] done).trans ?_
    rw [List.append_nil, hkeys]
    exact hp.map _
  refine List.Perm.eq_of_pairwise (fun a b _ _ hab hba => ?_) hsorted hrange hperm
  omega

/-! ### Waiting for acceptance -/

variable {s s' : BuildState} {t : List Call.Exchange} {inserts : List PendingInsert}
  {handles : List JobHandle} {pipeline : String} {outcome : Nat → Except RuntimeError JobId}

/-- What the waits for the pending jobs come to: the jobs in the order of their inserts, or the
error of the first wait that fails. -/
inductive WaitsEnd (pending : List PendingJob) (accepted : List (Nat × JobId)) :
    List Completion → Except PipelineError (List JobId) → Prop where
  | accepted (done : List (PendingJob × JobId)) : (done.map (·.1)).Perm pending →
      WaitsEnd pending accepted (done.map fun c => ⟨c.1, .ok c.2⟩)
        (.ok ((collected accepted done).map (·.2)))
  | failed (done : List (PendingJob × JobId)) (j : PendingJob) (e : RuntimeError) : j ∈ pending →
      WaitsEnd pending accepted ((done.map fun c => ⟨c.1, .ok c.2⟩) ++ [⟨j, .error e⟩])
        (.error (submitFailed (some j.handle.statement) e))

/-- One wait: the runtime decides which of the pending jobs comes next. -/
theorem runs_acceptAll_succ_iff {n : Nat} {first : PendingJob} {rest : List PendingJob}
    {accepted : List (Nat × JobId)} {r : Except PipelineError (List JobId)} :
    Runs (acceptAll (n + 1) (first :: rest) accepted) s t r s' ↔
      ∃ (place : Fin (first :: rest).length) (result : Except RuntimeError JobId) (u : _),
        t = ⟨.nextAccepted first rest, ⟨place, result⟩⟩ :: u ∧
        ((∃ e, result = .error e ∧ u = [] ∧ s' = { s with handles := s.handles.ended } ∧
            r = .error (submitFailed (some (first :: rest)[place].handle.statement) e)) ∨
          ∃ job, result = .ok job ∧ Runs (acceptAll n ((first :: rest).eraseIdx place)
            (insertJob (first :: rest)[place].index job accepted))
            { s with handles := s.handles.ended } u r s') := by
  rw [acceptAll, runs_ask_bind_iff]
  constructor
  · rintro ⟨⟨place, result⟩, u, rfl, hu⟩
    refine ⟨place, result, u, rfl, ?_⟩
    have hu := runs_count_bind_iff.mp hu
    cases result with
    | error e =>
      obtain ⟨rfl, rfl, rfl⟩ := runs_throw_iff.mp hu
      exact .inl ⟨e, rfl, rfl, rfl, rfl⟩
    | ok job => exact .inr ⟨job, rfl, hu⟩
  · rintro ⟨place, _, u, rfl, ⟨e, rfl, rfl, rfl, rfl⟩ | ⟨job, rfl, hu⟩⟩
    · refine ⟨⟨place, .error e⟩, [], rfl, runs_count_bind_iff.mpr ?_⟩
      exact runs_throw_iff.mpr ⟨rfl, rfl, rfl⟩
    · exact ⟨⟨place, .ok job⟩, u, rfl, runs_count_bind_iff.mpr hu⟩

theorem length_eraseIdx_place (first : PendingJob) (rest : List PendingJob)
    (place : Fin (first :: rest).length) :
    ((first :: rest).eraseIdx place).length = rest.length := by
  rw [List.length_eraseIdx_of_lt place.isLt]
  rfl

theorem waitsEnd_of_acceptAll {pending : List PendingJob} {accepted : List (Nat × JobId)}
    {r : Except PipelineError (List JobId)}
    (h : Runs (acceptAll pending.length pending accepted) s t r s') :
    WaitsEnd pending accepted (completions t) r := by
  generalize hn : pending.length = n at h
  induction n generalizing pending accepted s t with
  | zero =>
    obtain rfl := List.length_eq_zero_iff.mp hn
    obtain ⟨rfl, rfl, -⟩ := runs_pure_iff.mp h
    exact .accepted [] (.refl _)
  | succ n ih =>
    cases pending with
    | nil => cases hn
    | cons first rest =>
      obtain ⟨place, _, u, rfl, ⟨e, rfl, rfl, rfl, rfl⟩ | ⟨job, rfl, hu⟩⟩ :=
        runs_acceptAll_succ_iff.mp h
      · exact .failed [] _ e (List.getElem_mem place.isLt)
      · have hperm := List.getElem_cons_eraseIdx_perm (l := first :: rest) place.isLt
        have hl := length_eraseIdx_place first rest place
        have hend := ih (hl.trans (Nat.succ.inj hn)) hu
        generalize hc : completions u = cs at hend
        have hcons : completions (⟨.nextAccepted first rest, ⟨place, .ok job⟩⟩ :: u) =
            ⟨(first :: rest)[place], .ok job⟩ :: cs := congrArg _ hc
        rw [hcons]
        cases hend with
        | accepted done hp =>
          exact .accepted (((first :: rest)[place], job) :: done) ((hp.cons _).trans hperm)
        | failed done j e hj =>
          exact .failed (((first :: rest)[place], job) :: done) j e
            (hperm.subset (List.mem_cons_of_mem _ hj))

/-- Only the runtime's decisions are awaited. -/
theorem acceptance_of_acceptAll {pending : List PendingJob} {accepted : List (Nat × JobId)}
    {r : Except PipelineError (List JobId)}
    (h : Runs (acceptAll pending.length pending accepted) s t r s') :
    ∀ e ∈ t, ∃ first rest d, e = ⟨.nextAccepted first rest, d⟩ := by
  intro e he
  obtain ⟨step, hs, hm⟩ := (guided_acceptAll _ _ _ _ _ _ h).exists_step he
  obtain rfl := List.eq_of_mem_replicate hs
  cases hm with | acceptance first rest d => exact ⟨first, rest, d, rfl⟩

/-- Where all waits end well, the jobs are in the order of their inserts. -/
theorem jobs_of_acceptAll {jobs : List JobId}
    (h : Runs (acceptAll (pendingJobs 0 handles).length (pendingJobs 0 handles) []) s t
      (.ok jobs) s') (hres : ∀ c ∈ completions t, c.result = outcome c.job.index) :
    (completionOrder t).Perm (List.range handles.length) ∧
      (∀ i < handles.length, ∃ job, outcome i = .ok job) ∧
      ∀ job : Nat → JobId, (∀ i < handles.length, outcome i = .ok (job i)) →
        jobs = (List.range handles.length).map job := by
  have hend := waitsEnd_of_acceptAll h
  generalize hc : completions t = cs at hend hres
  cases hend with
  | accepted done hp =>
    have horder : (done.map fun c => c.1.index).Perm (List.range handles.length) := by
      have hi := hp.map (·.index)
      rwa [List.map_map, map_index_pendingJobs] at hi
    have hout : ∀ c ∈ done, outcome c.1.index = .ok c.2 := fun c hc =>
      (hres ⟨c.1, .ok c.2⟩ (List.mem_map_of_mem hc)).symm
    refine ⟨?_, fun i hi => ?_, fun job hjob => ?_⟩
    · rw [completionOrder, hc, List.map_map]
      exact horder
    · obtain ⟨c, hc, rfl⟩ := List.mem_map.mp (horder.mem_iff.mpr (List.mem_range.mpr hi))
      exact ⟨c.2, hout c hc⟩
    · have hj : ∀ c ∈ done, c.2 = job c.1.index := fun c hc => by
        have hi := List.mem_range.mp (horder.mem_iff.mp (List.mem_map_of_mem hc))
        exact Except.ok.inj ((hout c hc).symm.trans (hjob _ hi))
      rw [collected_eq horder hj, List.map_map]
      rfl

/-- The first wait that fails decides the error. -/
theorem failure_of_acceptAll {pending : List PendingJob} {e : PipelineError}
    (h : Runs (acceptAll pending.length pending []) s t (.error e) s')
    (hres : ∀ c ∈ completions t, c.result = outcome c.job.index) : ∃ before, ∃ j ∈ pending, ∃ cause,
      completionOrder t = before ++ [j.index] ∧ (∀ i ∈ before, ∃ job, outcome i = .ok job) ∧
      outcome j.index = .error cause ∧ e = submitFailed (some j.handle.statement) cause := by
  have hend := waitsEnd_of_acceptAll h
  generalize hc : completions t = cs at hend hres
  cases hend with
  | failed done j cause hj =>
    refine ⟨done.map (·.1.index), j, hj, cause, ?_, fun i hi => ?_, ?_, rfl⟩
    · simp [completionOrder, hc, Function.comp_def]
    · obtain ⟨c, hc, rfl⟩ := List.mem_map.mp hi
      exact ⟨c.2, (hres ⟨c.1, .ok c.2⟩ (by simp [hc])).symm⟩
    · exact (hres ⟨j, .error cause⟩ (by simp)).symm

/-- The waits can end in every order, up to the first that fails. -/
theorem exists_acceptAll (outcome : Nat → Except RuntimeError JobId) (s : BuildState)
    {order : List Nat} {pending : List PendingJob} (accepted : List (Nat × JobId))
    (hp : order.Perm (pending.map (·.index))) :
    ∃ t r s', Runs (acceptAll pending.length pending accepted) s t r s' ∧
      (∀ c ∈ completions t, c.result = outcome c.job.index) ∧ completionOrder t <+: order := by
  induction order generalizing pending accepted s with
  | nil =>
    obtain rfl := List.map_eq_nil_iff.mp hp.symm.eq_nil
    exact ⟨[], _, s, runs_pure_iff.mpr ⟨rfl, rfl, rfl⟩, nofun, List.prefix_refl _⟩
  | cons i order ih =>
    obtain ⟨j, hj, rfl⟩ := List.mem_map.mp (hp.subset (List.mem_cons_self ..))
    cases pending with
    | nil => cases hj
    | cons first rest =>
      obtain ⟨place, hlt, rfl⟩ := List.getElem_of_mem hj
      have hperm := List.getElem_cons_eraseIdx_perm (l := first :: rest) hlt
      have hl := length_eraseIdx_place first rest ⟨place, hlt⟩
      cases ho : outcome (first :: rest)[place].index with
      | error e =>
        refine ⟨[⟨.nextAccepted first rest, ⟨⟨place, hlt⟩, .error e⟩⟩], _, _,
          runs_acceptAll_succ_iff.mpr ⟨⟨place, hlt⟩, .error e, [], rfl,
            .inl ⟨e, rfl, rfl, rfl, rfl⟩⟩, ?_, ⟨order, rfl⟩⟩
        rintro c hc
        obtain rfl := List.mem_singleton.mp hc
        exact ho.symm
      | ok job =>
        obtain ⟨t, r, s', hr, hres, hord⟩ := ih { s with handles := s.handles.ended }
          (insertJob (first :: rest)[place].index job accepted)
          ((hp.trans (hperm.map _).symm).cons_inv)
        rw [hl] at hr
        refine ⟨⟨.nextAccepted first rest, ⟨⟨place, hlt⟩, .ok job⟩⟩ :: t, r, s',
          runs_acceptAll_succ_iff.mpr ⟨⟨place, hlt⟩, .ok job, t, rfl, .inr ⟨job, rfl, hr⟩⟩, ?_,
          List.cons_prefix_cons.mpr ⟨rfl, hord⟩⟩
        intro c hc
        rcases List.mem_cons.mp hc with rfl | hc
        · exact ho.symm
        · exact hres c hc

/-! ### Submission -/

theorem runs_submitAll (hl : handles.length = inserts.length) (start : Nat) (s : BuildState) :
    Runs (submitAll start inserts) s (submissions inserts handles)
      (.ok (pendingJobs start handles)) s := by
  induction inserts generalizing start handles with
  | nil =>
    obtain rfl := List.length_eq_zero_iff.mp hl
    exact runs_pure_iff.mpr ⟨rfl, rfl, rfl⟩
  | cons i inserts ih =>
    cases handles with
    | nil => cases hl
    | cons handle handles =>
      rw [submitAll]
      refine runs_ask_bind_iff.mpr ⟨.ok handle, _, rfl, ?_⟩
      refine runs_bind_ok_iff.mpr ⟨[], _, handle, s, rfl, runs_orThrow_iff.mpr ⟨rfl, rfl, rfl⟩, ?_⟩
      refine runs_bind_ok_iff.mpr ⟨_, [], _, s, (List.append_nil _).symm,
        ih (Nat.succ.inj hl) (start + 1), ?_⟩
      exact runs_pure_iff.mpr ⟨rfl, rfl, rfl⟩

/-- The result once the jobs have ended. A failed job fails the run. -/
def concluded (jobs : List JobId) :
    Except RuntimeError JobState → Except PipelineError (List JobId × JobState)
  | .error e => .error (.execution .execute none e.message)
  | .ok (.failed job reason) =>
    .error (.execution .execute none ("job " ++ job.text ++ " failed: " ++ reason))
  | .ok state => .ok (jobs, state)

/-- What is left once all jobs are accepted. -/
def completion (pipeline : String) (jobs : List JobId) : Build (List JobId × JobState) := do
  let failed (message : String) : PipelineError := .execution .execute none message
  match ← orThrow (fun e => failed e.message) (← ask (.wait pipeline jobs)) with
  | .failed job reason => throw (failed ("job " ++ job.text ++ " failed: " ++ reason))
  | state => return (jobs, state)

theorem submit_eq (pipeline : String) (inserts : List PendingInsert) :
    submit pipeline inserts = holding (do
      issue .submit .sessionConfig pipeline (nameStatement pipeline)
      let pending ← submitAll 0 inserts
      count (.spawn pending.length)
      let jobs ← acceptAll pending.length pending []
      completion pipeline jobs) := rfl

theorem runs_completion_iff {jobs : List JobId}
    {r : Except PipelineError (List JobId × JobState)} :
    Runs (completion pipeline jobs) s t r s' ↔
      ∃ a, t = [⟨.wait pipeline jobs, a⟩] ∧ r = concluded jobs a ∧ s' = s := by
  unfold completion
  rw [runs_ask_bind_iff]
  constructor
  · rintro ⟨e | state, u, rfl, hu⟩
    · obtain ⟨rfl, rfl, rfl⟩ := runs_throw_iff.mp hu
      exact ⟨.error e, rfl, rfl, rfl⟩
    · cases state with
      | failed job reason =>
        obtain ⟨rfl, rfl, rfl⟩ := runs_throw_iff.mp hu
        exact ⟨.ok (.failed job reason), rfl, rfl, rfl⟩
      | finished =>
        obtain ⟨rfl, rfl, rfl⟩ := runs_pure_iff.mp hu
        exact ⟨.ok .finished, rfl, rfl, rfl⟩
      | canceled =>
        obtain ⟨rfl, rfl, rfl⟩ := runs_pure_iff.mp hu
        exact ⟨.ok .canceled, rfl, rfl, rfl⟩
  · rintro ⟨e | state, rfl, rfl, rfl⟩
    · exact ⟨.error e, [], rfl, runs_throw_iff.mpr ⟨rfl, rfl, rfl⟩⟩
    · cases state with
      | failed job reason =>
        exact ⟨.ok (.failed job reason), [], rfl, runs_throw_iff.mpr ⟨rfl, rfl, rfl⟩⟩
      | finished => exact ⟨.ok .finished, [], rfl, runs_pure_iff.mpr ⟨rfl, rfl, rfl⟩⟩
      | canceled => exact ⟨.ok .canceled, [], rfl, runs_pure_iff.mpr ⟨rfl, rfl, rfl⟩⟩

theorem exists_named (pipeline : String) (s : BuildState) :
    ∃ s', Runs (issue .submit .sessionConfig pipeline (nameStatement pipeline)) s
      [⟨.execute (nameStatement pipeline), .ok ()⟩] (.ok ()) s' :=
  ⟨_, runs_issue_iff.mpr (.inl ⟨rfl, rfl, rfl⟩)⟩

/-- Where the name was set and all inserts were submitted, the waits follow. -/
theorem runs_submit_iff (hl : handles.length = inserts.length)
    {r : Except PipelineError (List JobId × JobState)} :
    Runs (submit pipeline inserts) s
        (⟨.execute (nameStatement pipeline), .ok ()⟩ :: (submissions inserts handles ++ t)) r s' ↔
      ∃ s₁ s₂, Runs (issue .submit .sessionConfig pipeline (nameStatement pipeline))
          { s with handles := s.handles.take }
          [⟨.execute (nameStatement pipeline), .ok ()⟩] (.ok ()) s₁ ∧
        Runs (do
          let jobs ← acceptAll (pendingJobs 0 handles).length (pendingJobs 0 handles) []
          completion pipeline jobs)
          { s₁ with handles := s₁.handles.spawn (pendingJobs 0 handles).length } t r s₂ ∧
        s' = { s₂ with handles := s₂.handles.giveBack } := by
  obtain ⟨s₁, hname⟩ := exists_named pipeline { s with handles := s.handles.take }
  rw [submit_eq, runs_holding_iff]
  constructor
  · rintro ⟨s₂, h, rfl⟩
    have hsubmit := Runs.rest (t := [_]) h hname
    exact ⟨s₁, s₂, hname, runs_count_bind_iff.mp (hsubmit.rest (runs_submitAll hl 0 s₁)), rfl⟩
  · rintro ⟨s₁, s₂, hname, h, rfl⟩
    refine ⟨s₂, runs_bind_iff.mpr (.inl ⟨[_], _, (), s₁, rfl, hname, ?_⟩), rfl⟩
    refine runs_bind_iff.mpr (.inl ⟨_, _, _, _, rfl, runs_submitAll hl 0 s₁, ?_⟩)
    exact runs_count_bind_iff.mpr h

/-- A run of a submission in which the name was set, all inserts were submitted and got their
handles, and `t` followed. Each wait in it ends as `outcome` says for its insert. -/
structure Submitted (pipeline : String) (inserts : List PendingInsert) (handles : List JobHandle)
    (outcome : Nat → Except RuntimeError JobId) (s : BuildState) (t : List Call.Exchange)
    (r : Except PipelineError (List JobId × JobState)) (s' : BuildState) : Prop where
  run : Runs (submit pipeline inserts) s
    (⟨.execute (nameStatement pipeline), .ok ()⟩ :: (submissions inserts handles ++ t)) r s'
  outcome : ∀ c ∈ completions t, c.result = outcome c.job.index

/-- All waits ended well: the jobs were passed on as they are listed, and that decided the end. -/
def Passed (pipeline : String) (jobs : List JobId) (t : List Call.Exchange)
    (r : Except PipelineError (List JobId × JobState)) : Prop :=
  ∃ u a, t = u ++ [⟨.wait pipeline jobs, a⟩] ∧
    (∀ e ∈ u, ∃ first rest d, e = ⟨.nextAccepted first rest, d⟩) ∧
    (completionOrder u).Perm (List.range jobs.length) ∧ r = concluded jobs a

/-- A wait failed after others that ended well. The error shows the statement in the handle of its
insert, which is the text of the insert if the runtime puts that into its handles. No job was
waited for. -/
def Stopped (inserts : List PendingInsert) (handles : List JobHandle)
    (outcome : Nat → Except RuntimeError JobId) (t : List Call.Exchange)
    (r : Except PipelineError (List JobId × JobState)) : Prop :=
  ∃ before i e insert handle, completionOrder t = before ++ [i] ∧
    (∀ j ∈ before, ∃ job, outcome j = .ok job) ∧ outcome i = .error e ∧
    inserts[i]? = some insert ∧ handles[i]? = some handle ∧
    (handles.map (·.statement) = inserts.map (·.sql) → handle.statement = insert.sql) ∧
    r = .error (.execution .submit (some handle.statement) e.message) ∧
    ∀ e ∈ t, ∃ first rest d, e = ⟨.nextAccepted first rest, d⟩

theorem completions_append_wait (t : List Call.Exchange) (jobs : List JobId)
    (a : (Call.wait pipeline jobs).Answer) :
    completions (t ++ [⟨.wait pipeline jobs, a⟩]) = completions t := by
  simp [completions, Call.completion?]

/-- The waits can end in every order: there is a run for it, up to the first wait that fails. -/
theorem exists_submitted (hl : handles.length = inserts.length) (pipeline : String)
    (outcome : Nat → Except RuntimeError JobId) (s : BuildState) {order : List Nat}
    (ho : order.Perm (List.range inserts.length)) : ∃ t r s',
      Submitted pipeline inserts handles outcome s t r s' ∧ completionOrder t <+: order := by
  obtain ⟨s₁, hname⟩ := exists_named pipeline { s with handles := s.handles.take }
  rw [← hl, ← map_index_pendingJobs] at ho
  obtain ⟨t, r, s₂, hr, hres, hord⟩ := exists_acceptAll outcome
    { s₁ with handles := s₁.handles.spawn (pendingJobs 0 handles).length } [] ho
  cases r with
  | error e =>
    have hwaits := (runs_bind_iff (f := completion pipeline)).mpr (.inr ⟨e, rfl, hr⟩)
    have hsubmit := (runs_submit_iff hl).mpr ⟨s₁, s₂, hname, hwaits, rfl⟩
    exact ⟨t, .error e, _, ⟨hsubmit, hres⟩, hord⟩
  | ok jobs =>
    obtain ⟨a⟩ : Nonempty (Call.wait pipeline jobs).Answer := ⟨Except.ok JobState.finished⟩
    have hc : Runs (completion pipeline jobs) s₂ [⟨.wait pipeline jobs, a⟩] (concluded jobs a) s₂ :=
      runs_completion_iff.mpr ⟨a, rfl, rfl, rfl⟩
    have hwaits := (runs_bind_iff (f := completion pipeline)).mpr
      (.inl ⟨t, _, jobs, s₂, rfl, hr, hc⟩)
    have hsubmit := (runs_submit_iff hl).mpr ⟨s₁, s₂, hname, hwaits, rfl⟩
    refine ⟨_, _, _, ⟨hsubmit, ?_⟩, ?_⟩
    · rwa [completions_append_wait]
    · rwa [completionOrder, completions_append_wait]

/-- Whatever the order in which the waits end. Where all of them end well, the jobs are waited for
and returned in the order of their inserts, each once. Otherwise the first wait to fail ends the
run with an error of its insert. -/
theorem submit_in_any_order (hl : handles.length = inserts.length) (pipeline : String)
    (outcome : Nat → Except RuntimeError JobId) (s : BuildState) :
    (∀ order : List Nat, order.Perm (List.range inserts.length) → ∃ t r s',
      Submitted pipeline inserts handles outcome s t r s' ∧ completionOrder t <+: order) ∧
    ∀ t r s', Submitted pipeline inserts handles outcome s t r s' →
      (∀ job : Nat → JobId, (∀ i < inserts.length, outcome i = .ok (job i)) →
        Passed pipeline ((List.range inserts.length).map job) t r) ∧
      ((∃ i < inserts.length, ∃ e, outcome i = .error e) →
        Stopped inserts handles outcome t r) := by
  refine ⟨fun order ho => exists_submitted hl pipeline outcome s ho, fun t r s' h => ?_⟩
  obtain ⟨s₁, s₂, -, hw, -⟩ := (runs_submit_iff hl).mp h.run
  rw [← hl]
  obtain ⟨t₁, t₂, jobs, s₃, rfl, h₁, h₂⟩ | ⟨e, rfl, h₁⟩ := runs_bind_iff.mp hw
  · obtain ⟨a, rfl, rfl, rfl⟩ := runs_completion_iff.mp h₂
    have hres := h.outcome
    rw [completions_append_wait] at hres
    obtain ⟨horder, hok, hjobs⟩ := jobs_of_acceptAll h₁ hres
    constructor
    · intro job hjob
      rw [hjobs job hjob]
      refine ⟨t₁, a, rfl, acceptance_of_acceptAll h₁, ?_, rfl⟩
      rwa [List.length_map, List.length_range]
    · rintro ⟨i, hi, e, he⟩
      obtain ⟨job, hjob⟩ := hok i hi
      cases hjob.symm.trans he
  · obtain ⟨before, j, hj, e, horder, hbefore, hfail, rfl⟩ := failure_of_acceptAll h₁ h.outcome
    have hhandle := getElem?_of_mem_pendingJobs hj
    have hlt := (List.getElem?_eq_some_iff.mp hhandle).1
    constructor
    · intro job hjob
      cases (hjob _ hlt).symm.trans hfail
    · intro _
      have hinsert := List.getElem?_eq_getElem (hl ▸ hlt)
      refine ⟨before, j.index, e, _, j.handle, horder, hbefore, hfail, hinsert, hhandle,
        fun htexts => ?_, rfl, acceptance_of_acceptAll h₁⟩
      have ht := congrArg (·[j.index]?) htexts
      simpa [hinsert, hhandle] using ht

/-- Three inserts, with the last one decided first: the jobs still come in the order of the
inserts, and a refusal of the last one ends the run. -/
theorem submit_in_any_order_threeInserts :
    let inserts : List PendingInsert := [⟨"a", "INSERT a"⟩, ⟨"b", "INSERT b"⟩, ⟨"c", "INSERT c"⟩]
    let handles : List JobHandle := [⟨"1", "INSERT a"⟩, ⟨"2", "INSERT b"⟩, ⟨"3", "INSERT c"⟩]
    let job (i : Nat) : JobId := ⟨["x", "y", "z"].getD i ""⟩
    let refuseLast (i : Nat) : Except RuntimeError JobId :=
      if i = 2 then .error (.rejected "no slots") else .ok (job i)
    handles.length = inserts.length ∧
    (∃ t r s', Submitted "p" inserts handles (fun i => .ok (job i)) .start t r s' ∧
      completionOrder t <+: [2, 0, 1] ∧ Passed "p" [⟨"x"⟩, ⟨"y"⟩, ⟨"z"⟩] t r) ∧
    ∃ t r s', Submitted "p" inserts handles refuseLast .start t r s' ∧
      completionOrder t <+: [2, 0, 1] ∧ Stopped inserts handles refuseLast t r := by
  intro inserts handles job refuseLast
  have hl : handles.length = inserts.length := rfl
  have ho : [2, 0, 1].Perm (List.range inserts.length) := by decide
  obtain ⟨hruns, hend⟩ := submit_in_any_order hl "p" (fun i => .ok (job i)) .start
  obtain ⟨t, r, s', hs, hord⟩ := hruns _ ho
  obtain ⟨hruns', hend'⟩ := submit_in_any_order hl "p" refuseLast .start
  obtain ⟨t', r', s'', hs', hord'⟩ := hruns' _ ho
  refine ⟨hl, ⟨t, r, s', hs, hord, ?_⟩, ⟨t', r', s'', hs', hord', ?_⟩⟩
  · exact (hend _ _ _ hs).1 job fun _ _ => rfl
  · exact (hend' _ _ _ hs').2 ⟨2, by decide, .rejected "no slots", rfl⟩

end Build

end StreamPipeline
