import Mathlib.Order.Defs.PartialOrder
import StreamPipeline.Postgres.Administration
import StreamPipeline.Proofs.Dialogue.SideBySide
import StreamPipeline.Proofs.Postgres.Statements

/-! # A server with several clients

The databases, schemas and tables of a server, and how it answers the messages of its clients one at
a time. To create what exists already is to lose a race: the server lets that pass, or reports it in
one of several ways.
-/

namespace StreamPipeline.Postgres

open Dialogue

/-! ### Lost races -/

def typeIndex : String := "pg_type_typname_nsp_index"

def namespaceIndex : String := "pg_namespace_nspname_index"

namespace ServerError

/-- The report of a duplicate key names the index in its message; the detail has the key. -/
def Names (e : ServerError) (index : String) : Prop := Text.occursIn index e.message = true

/-- How a server reports that another writer has created the object: as a duplicate database, schema
or table, or as a duplicate key of an index that keeps the names of types or of schemas apart. -/
def ReportsLostRace (e : ServerError) : Prop :=
  e.code ∈ ["42P04", "42P06", "42P07"] ∨
    e.code = "23505" ∧ (e.Names typeIndex ∨ e.Names namespaceIndex)

instance (e : ServerError) (index : String) : Decidable (e.Names index) := by
  unfold Names; infer_instance

instance (e : ServerError) : Decidable e.ReportsLostRace := by
  unfold ReportsLostRace; infer_instance

/-- Every report of a lost race is recognised. -/
theorem ReportsLostRace.isLostRace {e : ServerError} (h : e.ReportsLostRace) :
    e.isLostRace = true := by
  unfold ServerError.isLostRace
  obtain hcode | ⟨hcode, hindex⟩ := h
  · simp only [List.mem_cons, List.not_mem_nil, or_false] at hcode
    rcases hcode with hcode | hcode | hcode <;> rw [hcode] <;> rfl
  · rw [hcode]
    change (Text.occursIn typeIndex e.message || Text.occursIn typeIndex (e.detail.getD "")
      || Text.occursIn namespaceIndex e.message) = true
    rcases hindex with hindex | hindex
    · rw [show Text.occursIn typeIndex e.message = true from hindex, Bool.true_or, Bool.true_or]
    · rw [show Text.occursIn namespaceIndex e.message = true from hindex, Bool.or_true]

end ServerError

/-! ### What exists -/

/-- What exists on a server, each with the statement that it was created by. What is listed for a
database that does not exist is what that database will come with. -/
@[ext]
structure Catalog where
  text? : Object → Option String

namespace Catalog

variable {cat cat' goal : Catalog} {o p : Object} {text : String}

def has (cat : Catalog) (o : Object) : Bool := (cat.text? o).isSome

/-- Creates the object, unless it exists. -/
def add (cat : Catalog) (o : Object) (text : String) : Catalog :=
  ⟨fun p => (cat.text? p).or (if p = o then some text else none)⟩

/-- A catalog grows by objects; none is lost or replaced. -/
instance : PartialOrder Catalog where
  le cat cat' := ∀ o text, cat.text? o = some text → cat'.text? o = some text
  le_refl _ _ _ h := h
  le_trans _ _ _ h h' o text ho := h' o text (h o text ho)
  le_antisymm cat cat' h h' := by
    ext o text
    exact ⟨h o text, h' o text⟩

theorem has_mono (h : cat ≤ cat') (ho : cat.has o = true) : cat'.has o = true := by
  obtain ⟨text, ht⟩ := Option.isSome_iff_exists.mp ho
  exact Option.isSome_iff_exists.mpr ⟨text, h o text ht⟩

theorem le_add : cat ≤ cat.add o text := by
  intro p t hp
  change (cat.text? p).or _ = some t
  rw [hp]
  rfl

theorem has_add : (cat.add o text).has o = true := by
  simp [has, add]

theorem add_of_has (h : cat.has o = true) : cat.add o text = cat := by
  ext p t
  by_cases hp : p = o
  · subst hp
    obtain ⟨u, hu⟩ := Option.isSome_iff_exists.mp h
    simp [add, hu]
  · simp [add, hp]

theorem add_le (h : cat ≤ goal) (hg : cat.has o = false → goal.text? o = some text) :
    cat.add o text ≤ goal := by
  by_cases ho : cat.has o = true
  · rwa [add_of_has ho]
  · intro p t hp
    rw [add] at hp
    rcases Option.or_eq_some_iff.mp hp with hp | ⟨-, hp⟩
    · exact h p t hp
    · split at hp
      next hpo =>
        cases hp
        rw [hpo]
        exact hg (Bool.eq_false_iff.mpr ho)
      next => cases hp

end Catalog

/-! ### Answers -/

/-- What the server knows of a client. -/
inductive Connection where
  | closed
  | greeted (database : String)
  | ready (database : String) (prepared : Bool)
deriving Repr, DecidableEq

/-- What a server is free to do: to ask who connects for a password, and to report a lost race. -/
structure Choice where
  wantsPassword : Bool
  report : Option ServerError
deriving Repr, DecidableEq

def complaint (code message : String) : Refusal := .error ⟨"ERROR", code, message, none, none⟩

/-- A table needs its schema. A schema lies in the database that one is connected to. -/
def Object.hasPlace (cat : Catalog) : Object → Bool
  | .table d s _ => cat.has (.schema d s)
  | _ => true

/-- The answer where the object exists. A database cannot be asked for only if it is missing. -/
def alreadyThere (report : Option ServerError) (o : Object) : Except Refusal Unit :=
  match report, o with
  | some e, _ => .error (.error e)
  | none, .database _ => .error (complaint "42P04" "database already exists")
  | none, _ => .ok ()

/-- Runs one statement. -/
def execute (report : Option ServerError) (cat : Catalog) (database sql : String) :
    Except Refusal Unit × Catalog :=
  match creates? database sql with
  | none => (.error (complaint "42601" "syntax error"), cat)
  | some o =>
    if cat.has o then (alreadyThere report o, cat)
    else if o.hasPlace cat then (.ok (), cat.add o sql)
    else (.error (complaint "3F000" "schema does not exist"), cat)

/-- The answer to a message. The maintenance database is always there. -/
def respond (choice : Choice) (cat : Catalog) (conn : Connection) :
    (m : Message) → Reply Message.Answer Catalog Connection m
  | .startup _ database =>
    if database = maintenanceDatabase ∨ cat.has (.database database) = true then
      if choice.wantsPassword then ⟨Admission.passwordWanted, cat, .greeted database⟩
      else ⟨Admission.accepted, cat, .ready database false⟩
    else ⟨Admission.refused (complaint "3D000" "database does not exist"), cat, .closed⟩
  | .password text =>
    match conn with
    | .greeted database => ⟨Admission.accepted, cat, .ready database false⟩
    | _ => ⟨(Message.password text).closed, cat, .closed⟩
  | .query sql =>
    match conn with
    | .ready database _ =>
      let (answer, cat') := execute choice.report cat database sql
      ⟨answer, cat', conn⟩
    | _ => ⟨(Message.query sql).closed, cat, .closed⟩
  | .parse sql =>
    match conn with
    | .ready database _ =>
      if sql = existsQuery then ⟨Except.ok (), cat, .ready database true⟩
      else ⟨Except.error (complaint "42601" "syntax error"), cat, conn⟩
    | _ => ⟨(Message.parse sql).closed, cat, .closed⟩
  | .bind value =>
    match conn with
    | .ready _ true => ⟨Except.ok (cat.has (.database value)).toNat, cat, conn⟩
    | _ => ⟨(Message.bind value).closed, cat, .closed⟩

/-- After the statement the object exists, and who did not create it has lost a race at most. -/
theorem execute_creates {report : Option ServerError} {cat : Catalog} {database sql : String}
    {o : Object} (ho : creates? database sql = some o) (hplace : o.hasPlace cat = true)
    (hr : ∀ e ∈ report, e.isLostRace = true) :
    (execute report cat database sql).2 = cat.add o sql ∧
      ((execute report cat database sql).1 = .ok () ∨
        ∃ r, (execute report cat database sql).1 = .error r ∧ r.isLostRace = true) := by
  unfold execute
  rw [ho]
  dsimp only
  by_cases hcat : cat.has o = true
  · rw [if_pos hcat]
    refine ⟨(Catalog.add_of_has hcat).symm, ?_⟩
    cases report with
    | some e => exact .inr ⟨.error e, rfl, hr e rfl⟩
    | none =>
      cases o with
      | database _ => exact .inr ⟨_, rfl, by decide⟩
      | schema _ _ | table _ _ _ => exact .inl rfl
  · rw [if_neg hcat, if_pos hplace]
    exact ⟨rfl, .inl rfl⟩

end StreamPipeline.Postgres
