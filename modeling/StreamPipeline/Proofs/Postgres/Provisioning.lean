import StreamPipeline.Command.Run
import StreamPipeline.Proofs.Postgres.Server

/-! # Concurrent provisioning

Any number of calls provision the destination of one sink at the same time. Each looks up and
creates over connections of its own, so another call may create anything between two of its
messages. All of them succeed, and they leave what one of them would have left.
-/

namespace StreamPipeline.Postgres

open Conversation (send)
open Dialogue

/-! ### Clients -/

/-- The server asks for a password only who has one, and reports a lost race in one of the ways that
servers have for it. -/
def Choice.Allowed (c : Credentials) (choice : Choice) : Prop :=
  (choice.wantsPassword = true → c.password.isEmpty = false) ∧
    ∀ e ∈ choice.report, e.ReportsLostRace

instance (c : Credentials) (choice : Choice) : Decidable (choice.Allowed c) := by
  unfold Choice.Allowed; infer_instance

/-- Clients with these credentials, of whom none creates anything but parts of the goal. -/
def clients (c : Credentials) (goal : Catalog) :
    Setting Message.Answer Catalog Connection Choice where
  respond := respond
  allowed := Choice.Allowed c
  goal := goal

section Clients

variable {α : Type} {c : Credentials} {goal cat : Catalog} {conn : Connection} {n : Nat}
  {post : α → Catalog → Connection → Prop}

theorem succeeds_send {m : Message} (hm : m.canBeSent = true) {f : m.Answer → Conversation α}
    (h : ∀ cat', cat ≤ cat' → cat' ≤ goal → ∀ choice : Choice, choice.Allowed c →
      cat' ≤ (respond choice cat' conn m).shared ∧ (respond choice cat' conn m).shared ≤ goal ∧
        (clients c goal).Succeeds post n (f (respond choice cat' conn m).answer)
          (respond choice cat' conn m).shared (respond choice cat' conn m).own) :
    (clients c goal).Succeeds post (n + 1) (send m >>= f) cat conn := by
  unfold send
  rw [if_pos hm]
  exact h

/-- A client gets into a database that exists. -/
theorem succeeds_connect {database : String}
    (hs : (Message.startup c.username database).canBeSent = true)
    (hp : (Message.password c.password).canBeSent = true)
    (hd : database = maintenanceDatabase ∨ cat.has (.database database) = true) :
    (clients c goal).Succeeds (fun _ _ conn => conn = .ready database false) 2
      (connect c database) cat conn := by
  refine succeeds_send hs fun cat' hle hg choice hc => ?_
  have hd' : database = maintenanceDatabase ∨ cat'.has (.database database) = true :=
    hd.imp_right (Catalog.has_mono hle)
  simp only [respond, if_pos hd']
  by_cases hw : choice.wantsPassword = true
  · simp only [if_pos hw, settle, hc.1 hw]
    refine ⟨le_rfl, hg, succeeds_send hp fun cat' _ hg choice _ => ⟨le_rfl, hg, ?_⟩⟩
    exact Setting.succeeds_pure fun _ _ _ => rfl
  · simp only [if_neg hw]
    refine ⟨le_rfl, hg, ?_⟩
    exact Setting.succeeds_pure fun _ _ _ => rfl

/-- A database that is found exists. -/
theorem succeeds_finds {database name : String} {prepared : Bool} :
    (clients c goal).Succeeds (fun found cat _ => found = true → cat.has (.database name) = true) 2
      (finds existsQuery name) cat (.ready database prepared) := by
  refine succeeds_send rfl fun cat' _ hg choice _ => ⟨le_rfl, hg, ?_⟩
  refine succeeds_send rfl fun cat' _ hg choice _ => ⟨le_rfl, hg, ?_⟩
  refine Setting.succeeds_pure fun cat'' hle _ hfound => ?_
  have hrows : 0 < (cat'.has (.database name)).toNat := of_decide_eq_true hfound
  have hhas : cat'.has (.database name) = true := by
    cases hb : cat'.has (.database name) with
    | true => rfl
    | false => rw [hb] at hrows; cases hrows
  exact Catalog.has_mono hle hhas

/-- What a statement creates exists afterwards, whoever has created it. -/
theorem succeeds_create {database sql : String} {prepared : Bool} {o : Object}
    (hs : (Message.query sql).canBeSent = true) (ho : creates? database sql = some o)
    (hplace : ∀ cat', cat ≤ cat' → o.hasPlace cat' = true)
    (hgoal : ∀ cat', cat ≤ cat' → cat'.has o = false → goal.text? o = some sql) :
    (clients c goal).Succeeds (fun _ cat _ => cat.has o = true) 1 (create sql) cat
      (.ready database prepared) := by
  refine succeeds_send hs fun cat' hle hg choice hc => ?_
  have hlost : ∀ e ∈ choice.report, e.isLostRace = true := fun e he =>
    (hc.2 e he).isLostRace
  obtain ⟨hcat, hanswer⟩ := execute_creates ho (hplace cat' hle) hlost
  have hend {α : Type} (a : α) (conn : Connection) :
      (clients c goal).Succeeds (fun _ cat _ => cat.has o = true) 0 (pure a : Conversation α)
        (execute choice.report cat' database sql).2 conn := by
    rw [hcat]
    exact Setting.succeeds_pure fun _ hle _ => Catalog.has_mono hle Catalog.has_add
  refine ⟨?_, ?_, ?_⟩
  · change cat' ≤ (execute choice.report cat' database sql).2
    rw [hcat]
    exact Catalog.le_add
  · change (execute choice.report cat' database sql).2 ≤ goal
    rw [hcat]
    exact Catalog.add_le hg (hgoal cat' hle)
  · rcases hanswer with ha | ⟨r, ha, hr⟩
    · simp only [respond, ha]
      exact hend () _
    · simp only [respond, ha, if_pos hr]
      exact hend () _

end Clients

/-! ### The destination of a sink -/

/-- What is sent for the sink. -/
def messages (pg : PostgresSink) (defs : List String) : List Message :=
  [.startup pg.credentials.username maintenanceDatabase,
    .startup pg.credentials.username pg.database,
    .password pg.credentials.password,
    .query (Sql.createDatabase pg.database),
    .query (Sql.createSchema pg.schema),
    .query (pg.tableStatement defs)]

/-- The database, the schema and the table of the sink, with the statements that create them. -/
def parts (pg : PostgresSink) (defs : List String) : List (Object × String) :=
  [(.database pg.database, Sql.createDatabase pg.database),
    (.schema pg.database (Text.toLower pg.schema), Sql.createSchema pg.schema),
    (.table pg.database (Text.toLower pg.schema) (Text.toLower pg.table), pg.tableStatement defs)]

/-- The catalog with what it lacks of the destination. -/
def Catalog.provisioned (cat : Catalog) (pg : PostgresSink) (defs : List String) : Catalog :=
  (parts pg defs).foldl (fun cat part => cat.add part.1 part.2) cat

theorem Catalog.text?_addAll (l : List (Object × String)) (cat : Catalog) (o : Object) :
    (l.foldl (fun cat part => cat.add part.1 part.2) cat).text? o =
      (cat.text? o).or (l.lookup o) := by
  induction l generalizing cat with
  | nil => simp
  | cons part l ih =>
    obtain ⟨p, text⟩ := part
    rw [List.foldl_cons, ih, List.lookup_cons, Catalog.add]
    by_cases ho : o = p
    · simp [ho]
    · simp [ho, beq_false_of_ne ho]

section Destination

variable {pg : PostgresSink} {defs : List String} {start cat : Catalog} {conn : Connection}
  {o : Object} {sql : String}

theorem mem_parts_iff : (o, sql) ∈ parts pg defs ↔
    (o = .database pg.database ∧ sql = Sql.createDatabase pg.database) ∨
    (o = .schema pg.database (Text.toLower pg.schema) ∧ sql = Sql.createSchema pg.schema) ∨
    (o = .table pg.database (Text.toLower pg.schema) (Text.toLower pg.table) ∧
      sql = pg.tableStatement defs) := by
  simp only [parts, List.mem_cons, Prod.mk.injEq, List.not_mem_nil, or_false]

theorem creates?_of_mem_parts (h : (o, sql) ∈ parts pg defs) :
    creates? pg.database sql = some o := by
  rcases mem_parts_iff.mp h with ⟨rfl, rfl⟩ | ⟨rfl, rfl⟩ | ⟨rfl, rfl⟩
  · exact creates?_createDatabase _ _
  · exact creates?_createSchema _ _
  · exact creates?_tableStatement _ _

theorem lookup_of_mem_parts (h : (o, sql) ∈ parts pg defs) :
    (parts pg defs).lookup o = some sql := by
  have hschema (d s e : String) : (Object.schema d s == .database e) = false := rfl
  have htable (d s t e : String) : (Object.table d s t == .database e) = false := rfl
  have htable' (d s t e u : String) : (Object.table d s t == .schema e u) = false := rfl
  rcases mem_parts_iff.mp h with ⟨rfl, rfl⟩ | ⟨rfl, rfl⟩ | ⟨rfl, rfl⟩
  · simp [parts]
  · simp [parts, List.lookup_cons, hschema]
  · simp [parts, List.lookup_cons, htable, htable']

namespace Catalog

theorem le_provisioned : start ≤ start.provisioned pg defs := by
  intro o text ho
  rw [provisioned, text?_addAll, ho]
  rfl

theorem text?_of_missing (h : (o, sql) ∈ parts pg defs) (hs : start ≤ cat)
    (ho : cat.has o = false) : (start.provisioned pg defs).text? o = some sql := by
  have hnone : start.text? o = none := by
    cases ht : start.text? o with
    | none => rfl
    | some text =>
      have hhas : start.has o = true := by rw [has, ht]; rfl
      rw [has_mono hs hhas] at ho
      cases ho
  rw [provisioned, text?_addAll, hnone, lookup_of_mem_parts h]
  rfl

/-- Nothing is left to create once the destination exists. -/
theorem eq_provisioned (hs : start ≤ cat) (hg : cat ≤ start.provisioned pg defs)
    (hhas : ∀ part ∈ parts pg defs, cat.has part.1 = true) : cat = start.provisioned pg defs := by
  refine le_antisymm hg fun o text ho => ?_
  have hlookup := ho
  rw [provisioned, text?_addAll] at hlookup
  rcases Option.or_eq_some_iff.mp hlookup with hold | ⟨-, hnew⟩
  · exact hs o text hold
  · have hmem : (o, text) ∈ parts pg defs := by
      obtain ⟨before, after, hparts, -⟩ := List.lookup_eq_some_iff.mp hnew
      rw [hparts]
      exact List.mem_append_right _ List.mem_cons_self
    obtain ⟨u, hu⟩ := Option.isSome_iff_exists.mp (hhas _ hmem)
    rw [hu, ← ho, hg o u hu]

end Catalog

/-! ### Operations -/

/-- What all operations of the sink rely on: all messages can be sent, and what exists lies between
what was there at first and what is to be there. -/
structure Underway (pg : PostgresSink) (defs : List String) (start cat : Catalog) : Prop where
  sendable : ∀ m ∈ messages pg defs, m.canBeSent = true
  grown : start ≤ cat
  below : cat ≤ start.provisioned pg defs

theorem Underway.later {cat' : Catalog} (h : Underway pg defs start cat) (hs : cat ≤ cat')
    (hg : cat' ≤ start.provisioned pg defs) : Underway pg defs start cat' :=
  ⟨h.sendable, le_trans h.grown hs, hg⟩

theorem succeeds_connected {database : String} (h : Underway pg defs start cat)
    (hd : database = maintenanceDatabase ∨
      database = pg.database ∧ cat.has (.database pg.database) = true) :
    (clients pg.credentials (start.provisioned pg defs)).Succeeds
      (fun _ _ conn => conn = .ready database false) 2 (connected pg database) cat conn := by
  refine (succeeds_connect ?_ ?_ ?_).adapt h.below _
  · rcases hd with rfl | ⟨rfl, -⟩ <;> exact h.sendable _ (by simp [messages])
  · exact h.sendable _ (by simp [messages])
  · rcases hd with hd | ⟨rfl, hd⟩
    · exact .inl hd
    · exact .inr hd

/-- An operation on a connection of its own. -/
theorem succeeds_operation {α : Type} {database : String} {n : Nat} {c : Conversation α}
    {context : String} {post : α → Catalog → Connection → Prop} (h : Underway pg defs start cat)
    (hd : database = maintenanceDatabase ∨
      database = pg.database ∧ cat.has (.database pg.database) = true)
    (hc : ∀ cat', cat ≤ cat' → Underway pg defs start cat' →
      (clients pg.credentials (start.provisioned pg defs)).Succeeds post n c cat'
        (.ready database false)) :
    (clients pg.credentials (start.provisioned pg defs)).Succeeds post (2 + n)
      (connected pg database >>= fun _ => report context c) cat conn := by
  refine (succeeds_connected h hd).bind h.below fun _ cat' conn' hle hg hconn => ?_
  obtain rfl := hconn cat' le_rfl hg
  exact (hc cat' hle (h.later hle hg)).adapt hg _

theorem succeeds_databaseExists (h : Underway pg defs start cat) :
    (clients pg.credentials (start.provisioned pg defs)).Succeeds
      (fun found cat _ => found = true → cat.has (.database pg.database) = true) 4
      (databaseExists pg pg.database) cat conn :=
  succeeds_operation h (.inl rfl) fun _ _ _ => succeeds_finds

/-- A part of the destination is there once its statement was run. -/
theorem succeeds_part (h : Underway pg defs start cat) {database : String}
    (hd : database = maintenanceDatabase ∨
      database = pg.database ∧ cat.has (.database pg.database) = true)
    (ho : (o, sql) ∈ parts pg defs) (hread : creates? database sql = some o)
    (hplace : ∀ cat', cat ≤ cat' → o.hasPlace cat' = true) (context : String) :
    (clients pg.credentials (start.provisioned pg defs)).Succeeds
      (fun _ cat _ => cat.has o = true) 3
      (connected pg database >>= fun _ => report context (create sql)) cat conn := by
  refine succeeds_operation (n := 1) h hd fun cat' hle h' => ?_
  have hsend : (Message.query sql).canBeSent = true := by
    refine h.sendable _ ?_
    rcases mem_parts_iff.mp ho with ⟨-, rfl⟩ | ⟨-, rfl⟩ | ⟨-, rfl⟩ <;> simp [messages]
  refine succeeds_create hsend hread (fun _ hle' => hplace _ (le_trans hle hle')) ?_
  exact fun cat'' hle' hno => Catalog.text?_of_missing ho (le_trans h'.grown hle') hno

theorem succeeds_createDatabase (h : Underway pg defs start cat) :
    (clients pg.credentials (start.provisioned pg defs)).Succeeds
      (fun _ cat _ => cat.has (.database pg.database) = true) 3
      (createDatabase pg pg.database) cat conn :=
  have hpart : (Object.database pg.database, Sql.createDatabase pg.database) ∈ parts pg defs := by
    simp [parts]
  succeeds_part h (.inl rfl) hpart (creates?_createDatabase _ _) (fun _ _ => rfl) _

theorem succeeds_executeIn (h : Underway pg defs start cat)
    (hd : cat.has (.database pg.database) = true) (ho : (o, sql) ∈ parts pg defs)
    (hplace : ∀ cat', cat ≤ cat' → o.hasPlace cat' = true) :
    (clients pg.credentials (start.provisioned pg defs)).Succeeds
      (fun _ cat _ => cat.has o = true) 3 (executeIn pg pg.database sql) cat conn :=
  succeeds_part h (.inr ⟨rfl, hd⟩) ho (creates?_of_mem_parts ho) hplace _

end Destination

/-! ### Calls -/

/-- A handler of questions takes the parts of a dialogue one after the other. -/
theorem interpret_bind {Q α β : Type} {A : Q → Type} {m : Type → Type} [Monad m] [LawfulMonad m]
    (handle : (q : Q) → m (A q)) (d : Dialogue Q A α) (f : α → Dialogue Q A β) :
    (d.bind f).interpret handle = d.interpret handle >>= fun a => (f a).interpret handle := by
  induction d with
  | done a => simp [interpret]
  | ask q next ih => simp [interpret, ih]

/-- A network without a gateway, with one server, whose messages are passed on as they come. -/
def network : Command.Network (OptionT (Dialogue Message Message.Answer)) where
  http _ := failure
  postgres _ m := OptionT.lift (call m)
  turns := []
  lingering _ := failure

theorem run_interpret_network {α : Type} (pg : PostgresSink)
    (d : Dialogue Message Message.Answer α) :
    (d.interpret (network.postgres pg)).run = d.bind fun a => .done (some a) := by
  induction d with
  | done a => rfl
  | ask q next ih => exact congrArg (ask q) (funext ih)

section Calls

variable (session : Gateway.Session)

/-- Does what a run asks of the server. -/
def perform : (call : Call) → OptionT (Dialogue Message Message.Answer) call.Answer :=
  Command.perform network session fun _ _ => failure

/-- What a computation of a run sends to the server, from the given state on. There is no result if
it asks the gateway for something. -/
def sends {α : Type} (b : Build α) (s : BuildState) :
    Dialogue Message Message.Answer (Option (Except PipelineError α × BuildState)) :=
  (((ExceptT.run b).run s).interpret (perform session)).run

/-- One call that provisions the destination of a sink. -/
def provision (sink : String) (pg : PostgresSink) (defs : List String) (s : BuildState) :
    Dialogue Message Message.Answer (Option (Except PipelineError Unit)) := do
  let r ← sends session (Build.destination sink pg defs) s
  return r.map Prod.fst

/-- The computation sends so many messages at most, succeeds and leaves its state as it is. -/
def Completes {α : Type} (S : Setting Message.Answer Catalog Connection Choice)
    (post : α → Catalog → Connection → Prop) (n : Nat) (b : Build α) (s : BuildState)
    (cat : Catalog) (conn : Connection) : Prop :=
  S.Settles (fun r cat conn => ∃ a, r = some (.ok a, s) ∧ post a cat conn) n (sends session b s)
    cat conn

section Completes

variable {session} {S : Setting Message.Answer Catalog Connection Choice} {α β : Type}
  {s : BuildState} {post : α → Catalog → Connection → Prop}
  {post' : β → Catalog → Connection → Prop} {n m : Nat} {cat : Catalog} {conn : Connection}
  {b : Build α} {f : α → Build β}

theorem sends_bind : sends session (b >>= f) s =
    (sends session b s).bind fun r => match r with
      | some (.ok a, s') => sends session (f a) s'
      | some (.error e, s') => .done (some (.error e, s'))
      | none => .done none := by
  refine (congrArg OptionT.run (interpret_bind _ ((ExceptT.run b).run s) _)).trans ?_
  refine congrArg (Dialogue.bind _) (funext fun r => ?_)
  obtain _ | ⟨a | a, s'⟩ := r <;> rfl

theorem Completes.bind (h : Completes session S post n b s cat conn) (hs : cat ≤ S.goal)
    (hf : ∀ a cat' conn', cat ≤ cat' → cat' ≤ S.goal →
      (∀ t, cat' ≤ t → t ≤ S.goal → post a t conn') →
        Completes session S post' m (f a) s cat' conn') :
    Completes session S post' (n + m) (b >>= f) s cat conn := by
  unfold Completes
  rw [sends_bind]
  refine Setting.Settles.bind h hs fun r cat' conn' hle hg hpost => ?_
  obtain ⟨a, rfl, -⟩ := hpost cat' le_rfl hg
  refine hf a cat' conn' hle hg fun t ht hgt => ?_
  obtain ⟨b, hb, hp⟩ := hpost t ht hgt
  cases hb
  exact hp

/-- A call that is answered, and what follows it. -/
theorem completes_ask {c : Call} {g : c.Answer → Build β}
    {d : Dialogue Message Message.Answer c.Answer}
    {post : c.Answer → Catalog → Connection → Prop} {pg : PostgresSink}
    (hc : perform session c = d.interpret (network.postgres pg))
    (h : S.Settles post n d cat conn) (hs : cat ≤ S.goal)
    (hg : ∀ a cat' conn', cat ≤ cat' → cat' ≤ S.goal →
      (∀ t, cat' ≤ t → t ≤ S.goal → post a t conn') →
        Completes session S post' m (g a) s cat' conn') :
    Completes session S post' (n + m) (Build.ask c >>= g) s cat conn := by
  have hsends : sends session (Build.ask c >>= g) s = d.bind fun a => sends session (g a) s := by
    change OptionT.run (perform session c >>= fun a =>
      OptionT.mk (sends session (g a) s)) = _
    rw [hc, OptionT.run_bind, run_interpret_network]
    exact Dialogue.bind_assoc _ _ _
  unfold Completes
  rw [hsends]
  exact Setting.Settles.bind h hs hg

end Completes

/-! ### All calls -/

section Destination

variable {session} {pg : PostgresSink} {defs : List String} {start cat : Catalog}
  {conn : Connection} {s : BuildState}

theorem completes_executeIn (sink : String) {o : Object} {sql : String}
    (h : Underway pg defs start cat) (hd : cat.has (.database pg.database) = true)
    (ho : (o, sql) ∈ parts pg defs) (hplace : ∀ cat', cat ≤ cat' → o.hasPlace cat' = true) :
    Completes session (clients pg.credentials (start.provisioned pg defs))
      (fun _ cat _ => cat.has o = true) 3 (do
        Build.orThrow (PipelineError.provisioning sink (some sql))
          (← Build.ask (.executeIn pg pg.database sql))) s cat conn := by
  refine completes_ask (m := 0) rfl (succeeds_executeIn h hd ho hplace) h.below
    fun r cat' conn' _ hg hpost => ?_
  obtain ⟨_, rfl, -⟩ := hpost cat' le_rfl hg
  refine Setting.settles_done.mpr fun t ht hgt => ⟨(), rfl, ?_⟩
  obtain ⟨_, -, hp⟩ := hpost t ht hgt
  exact hp

/-- The schema and then the table, in a database that exists. -/
theorem completes_inDatabase (sink : String) (h : Underway pg defs start cat)
    (hd : cat.has (.database pg.database) = true) :
    Completes session (clients pg.credentials (start.provisioned pg defs))
      (fun _ cat _ => ∀ part ∈ parts pg defs, cat.has part.1 = true) 6 (do
        Build.orThrow (PipelineError.provisioning sink (some (Sql.createSchema pg.schema)))
          (← Build.ask (.executeIn pg pg.database (Sql.createSchema pg.schema)))
        Build.orThrow (PipelineError.provisioning sink (some (pg.tableStatement defs)))
          (← Build.ask (.executeIn pg pg.database (pg.tableStatement defs)))) s cat conn := by
  have hschema : (Object.schema pg.database (Text.toLower pg.schema), Sql.createSchema pg.schema) ∈
      parts pg defs := by simp [parts]
  have htable : (Object.table pg.database (Text.toLower pg.schema) (Text.toLower pg.table),
      pg.tableStatement defs) ∈ parts pg defs := by simp [parts]
  refine (completes_executeIn sink h hd hschema fun _ _ => rfl).bind (m := 3) h.below
    fun _ cat' conn' hle hg hlast => ?_
  have h' := h.later hle hg
  have hd' := Catalog.has_mono hle hd
  have hs' := hlast cat' le_rfl hg
  have hplace : ∀ cat'', cat' ≤ cat'' →
      cat''.has (.schema pg.database (Text.toLower pg.schema)) = true :=
    fun _ hle' => Catalog.has_mono hle' hs'
  refine Setting.Settles.imp (completes_executeIn sink h' hd' htable hplace) h'.below ?_
  · rintro r t k hle' - ⟨_, rfl, ht⟩
    refine ⟨(), rfl, ?_⟩
    simp only [parts, List.forall_mem_cons, List.not_mem_nil, false_imp_iff, implies_true, and_true]
    exact ⟨Catalog.has_mono hle' hd', Catalog.has_mono hle' hs', ht⟩

/-- A call that is made while the destination lies between its first and its final state leaves it
complete. -/
theorem completes_destination (sink : String) (h : Underway pg defs start cat) :
    Completes session (clients pg.credentials (start.provisioned pg defs))
      (fun _ cat _ => ∀ part ∈ parts pg defs, cat.has part.1 = true) 13
      (Build.destination sink pg defs) s cat conn := by
  refine completes_ask (m := 9) rfl (succeeds_databaseExists h) h.below
    fun r cat' conn' hle hg hpost => ?_
  obtain ⟨found, rfl, hfound⟩ := hpost cat' le_rfl hg
  have h' := h.later hle hg
  cases found with
  | true => exact (completes_inDatabase sink h' (hfound rfl)).mono (by decide)
  | false =>
    refine completes_ask (m := 6) rfl (succeeds_createDatabase h') h'.below
      fun r cat'' conn'' hle hg hpost => ?_
    obtain ⟨_, rfl, hd⟩ := hpost cat'' le_rfl hg
    exact completes_inDatabase sink (h'.later hle hg) hd

end Destination

/-- A server, and calls that provision the destination of one sink: the name that the sink has in
each, and the state of the run that it belongs to. -/
def provisions (start : Catalog) (calls : List (String × BuildState)) (pg : PostgresSink)
    (defs : List String) :
    Meeting Message.Answer Catalog Connection (Option (Except PipelineError Unit)) :=
  ⟨start, calls.map fun c => ⟨.closed, provision session c.1 pg defs c.2⟩⟩

/-- Each of `n` parties has had the turns that a call needs. -/
def AllServed (n : Nat) (turns : List (Turn Choice)) : Prop :=
  ∀ i < n, 13 ≤ (turns.map Turn.party).count i

instance (n : Nat) (turns : List (Turn Choice)) : Decidable (AllServed n turns) := by
  unfold AllServed; infer_instance

section Provisions

variable {pg : PostgresSink} {defs : List String} {turns : List (Turn Choice)}
variable (start : Catalog) (calls : List (String × BuildState))

theorem settles_provision (sink : String) (s : BuildState)
    (hsend : ∀ m ∈ messages pg defs, m.canBeSent = true) :
    (clients pg.credentials (start.provisioned pg defs)).Settles
      (fun r cat _ => r = some (.ok ()) ∧ ∀ part ∈ parts pg defs, cat.has part.1 = true) 13
      (provision session sink pg defs s) start .closed := by
  have h : Underway pg defs start start := ⟨hsend, le_rfl, Catalog.le_provisioned⟩
  refine Setting.Settles.map (f := Option.map Prod.fst) (completes_destination sink h) h.below ?_
  rintro r cat conn ⟨_, rfl, hparts⟩
  exact ⟨rfl, hparts⟩

theorem settled_provisions (hsend : ∀ m ∈ messages pg defs, m.canBeSent = true)
    (hturns : ∀ t ∈ turns, t.choice.Allowed pg.credentials) :
    ((provisions session start calls pg defs).run respond turns).Settled
      (clients pg.credentials (start.provisioned pg defs))
      (fun r cat _ => r = some (.ok ()) ∧ ∀ part ∈ parts pg defs, cat.has part.1 = true) start
      fun i => 13 - (turns.map Turn.party).count i := by
  have hstart : (provisions session start calls pg defs).Settled
      (clients pg.credentials (start.provisioned pg defs))
      (fun r cat _ => r = some (.ok ()) ∧ ∀ part ∈ parts pg defs, cat.has part.1 = true) start
      fun _ => 13 := by
    refine ⟨le_rfl, Catalog.le_provisioned, fun i p hp => ?_⟩
    obtain ⟨c, -, rfl⟩ := List.mem_map.mp (List.mem_of_getElem? hp)
    exact settles_provision session start c.1 c.2 hsend
  exact hstart.run hturns

/-- Calls that were served have succeeded. -/
theorem results_provisions (hsend : ∀ m ∈ messages pg defs, m.canBeSent = true)
    (hturns : ∀ t ∈ turns, t.choice.Allowed pg.credentials)
    (hserved : AllServed calls.length turns) :
    ((provisions session start calls pg defs).run respond turns).parties.map Party.result? =
      calls.map fun _ => some (some (.ok ())) := by
  have hlength : ((provisions session start calls pg defs).run respond turns).parties.length =
      calls.length := (Meeting.length_run ..).trans (List.length_map _)
  refine List.ext_getElem (by simp [hlength]) fun i hi _ => ?_
  rw [List.length_map] at hi
  have hparty := List.getElem?_eq_getElem hi
  have hsettled := settled_provisions session start calls hsend hturns
  obtain ⟨r, hr⟩ := hsettled.ended hparty (Nat.sub_eq_zero_of_le (hserved i (hlength ▸ hi)))
  obtain ⟨rfl, -⟩ := hsettled.result (List.getElem_mem hi) hr
  simpa using hr

/-- Once every call was served, nothing is missing. -/
theorem shared_provisions {calls : List (String × BuildState)} (hcalls : calls ≠ [])
    (hsend : ∀ m ∈ messages pg defs, m.canBeSent = true)
    (hturns : ∀ t ∈ turns, t.choice.Allowed pg.credentials)
    (hserved : AllServed calls.length turns) :
    ((provisions session start calls pg defs).run respond turns).shared =
      start.provisioned pg defs := by
  have hsettled := settled_provisions session start calls hsend hturns
  have hresults := results_provisions session start calls hsend hturns hserved
  obtain ⟨call, rest, rfl⟩ := List.exists_cons_of_ne_nil hcalls
  rw [List.map_cons] at hresults
  obtain ⟨p, ps, hparties, hp, -⟩ := List.map_eq_cons_iff.mp hresults
  obtain ⟨-, hhas⟩ := hsettled.result (hparties ▸ List.mem_cons_self) hp
  exact Catalog.eq_provisioned hsettled.grown hsettled.below hhas

/-- However the messages of the calls interleave, and whichever lost races the server reports: a
call that has returned has succeeded, and the database, the schema and the table are there. Once
every call has had its turns, all of them have returned, and what exists is what any one of them
would have left alone. -/
theorem provisions_succeed (hsend : ∀ m ∈ messages pg defs, m.canBeSent = true)
    (hturns : ∀ t ∈ turns, t.choice.Allowed pg.credentials) :
    (∀ p ∈ ((provisions session start calls pg defs).run respond turns).parties, ∀ r,
      p.result? = some r → r = some (.ok ()) ∧ ∀ part ∈ parts pg defs,
        ((provisions session start calls pg defs).run respond turns).shared.has part.1 = true) ∧
    (AllServed calls.length turns →
      ((provisions session start calls pg defs).run respond turns).parties.map Party.result? =
        calls.map fun _ => some (some (.ok ()))) ∧
    (calls ≠ [] → AllServed calls.length turns →
      ((provisions session start calls pg defs).run respond turns).shared =
          start.provisioned pg defs ∧
        ∀ call alone, (∀ t ∈ alone, t.choice.Allowed pg.credentials) → AllServed 1 alone →
          ((provisions session start [call] pg defs).run respond alone).shared =
            start.provisioned pg defs) := by
  refine ⟨fun p hp r hr => ?_, results_provisions session start calls hsend hturns,
    fun hcalls hserved => ⟨?_, ?_⟩⟩
  · exact (settled_provisions session start calls hsend hturns).result hp hr
  · exact shared_provisions session start hcalls hsend hturns hserved
  · intro call alone halone hserved
    exact shared_provisions session start (List.cons_ne_nil _ _) hsend halone hserved

end Provisions

end Calls

/-! ### Two calls that race -/

instance decideExcept {ε α : Type} [DecidableEq ε] [DecidableEq α] : DecidableEq (Except ε α)
  | .ok a, .ok b => decidable_of_iff (a = b) (by simp)
  | .error e, .error f => decidable_of_iff (e = f) (by simp)
  | .ok _, .error _ | .error _, .ok _ => isFalse nofun

def salesSink : PostgresSink :=
  ⟨"db", 5432, ⟨"writer", "s3cr3t"⟩, "Shop", "Sales", "orders", ["id"]⟩

/-- Two calls on a server on which nothing was created. -/
def twoCalls : Meeting Message.Answer Catalog Connection (Option (Except PipelineError Unit)) :=
  provisions ⟨"", "", ""⟩ ⟨fun _ => none⟩ [("copy", .start), ("backup", .start)] salesSink
    ["id bigint"]

/-- The calls take turns, so the second loses every race. The report is of that for the schema. -/
def racingTurns (report : ServerError) : List (Turn Choice) :=
  let round (report : Option ServerError) := [⟨0, true, none⟩, ⟨1, true, report⟩]
  (List.replicate 9 (round none) ++ round report :: List.replicate 3 (round none)).flatten

/-- The index of schemas keeps the name of the schema from being taken twice. -/
def duplicateSchema : ServerError :=
  ⟨"ERROR", "23505",
    "duplicate key value violates unique constraint \"pg_namespace_nspname_index\"",
    some "Key (nspname)=(sales) already exists.", none⟩

theorem provisions_succeed_twoCalls :
    (∀ m ∈ messages salesSink ["id bigint"], m.canBeSent = true) ∧
    (∀ t ∈ racingTurns duplicateSchema, t.choice.Allowed salesSink.credentials) ∧
    AllServed 2 (racingTurns duplicateSchema) ∧
    (twoCalls.run respond (racingTurns duplicateSchema)).parties.map Party.result? =
      [some (some (.ok ())), some (some (.ok ()))] ∧
    (twoCalls.run respond (racingTurns duplicateSchema)).shared.text?
        (.table "Shop" "sales" "orders") =
      some "CREATE TABLE IF NOT EXISTS sales.orders (id bigint, PRIMARY KEY (id))" := by
  have hsend : ∀ m ∈ messages salesSink ["id bigint"], m.canBeSent = true := by decide +kernel
  have hturns : ∀ t ∈ racingTurns duplicateSchema, t.choice.Allowed salesSink.credentials := by
    decide +kernel
  have hserved : AllServed 2 (racingTurns duplicateSchema) := by decide +kernel
  obtain ⟨-, hresults, hshared⟩ := provisions_succeed ⟨"", "", ""⟩ ⟨fun _ => none⟩
    [("copy", .start), ("backup", .start)] hsend hturns
  have hcatalog : (twoCalls.run respond (racingTurns duplicateSchema)).shared =
      Catalog.provisioned ⟨fun _ => none⟩ salesSink ["id bigint"] :=
    (hshared (List.cons_ne_nil _ _) hserved).1
  refine ⟨hsend, hturns, hserved, hresults hserved, ?_⟩
  rw [hcatalog]
  decide +kernel

end StreamPipeline.Postgres
