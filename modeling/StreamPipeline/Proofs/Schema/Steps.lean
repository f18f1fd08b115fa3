import StreamPipeline.Schema.TypeParser

/-! # What the steps of a reader leave

Each step of the reader of types leaves an end of the lexemes that it was given. A word and what may
follow it give a type without parts, and only a time stamp with a time zone is kept as written.
-/

namespace StreamPipeline

namespace TypeParser

/-- Every value of a computation has the property. -/
def Yields {ε α : Type} (x : Except ε α) (P : α → Prop) : Prop := ∀ a, x = .ok a → P a

section Yields

variable {ε α β : Type} {x : Except ε α} {f : α → Except ε β} {P : α → Prop} {Q : β → Prop}

theorem bind_eq_ok_iff {b : β} : x >>= f = .ok b ↔ ∃ a, x = .ok a ∧ f a = .ok b := by
  constructor
  · intro h
    cases x with
    | error e => cases h
    | ok a => exact ⟨a, rfl, h⟩
  · rintro ⟨a, rfl, h⟩
    exact h

theorem yields_ok {a : α} (h : P a) : Yields (.ok a : Except ε α) P := by
  rintro _ ⟨⟩
  exact h

theorem yields_error (e : ε) : Yields (.error e : Except ε α) P := by
  rintro _ ⟨⟩

theorem Yields.bind (hx : Yields x P) (hf : ∀ a, P a → Yields (f a) Q) : Yields (x >>= f) Q := by
  intro b hb
  obtain ⟨a, ha, hb⟩ := bind_eq_ok_iff.mp hb
  exact hf a (hx a ha) b hb

theorem yields_bind (hf : ∀ a, Yields (f a) Q) : Yields (x >>= f) Q :=
  Yields.bind (fun _ _ => trivial : Yields x fun _ => True) fun a _ => hf a

end Yields

/-! ### Ends of the lexemes -/

/-- What is left is an end of the lexemes. -/
abbrev Leaves {α : Type} (ts : List Lexeme) (x : Except TypeError (α × List Lexeme)) : Prop :=
  Yields x fun p => p.2 <:+ ts

section Leaves

variable {α β : Type} {ts us : List Lexeme} {x : Except TypeError (α × List Lexeme)}
  {f : α × List Lexeme → Except TypeError (β × List Lexeme)}

theorem Leaves.mono (h : Leaves ts x) (hs : ts <:+ us) : Leaves us x := fun p hp =>
  (h p hp).trans hs

theorem Leaves.andThen (hx : Leaves ts x) (hf : ∀ a rest, Leaves rest (f (a, rest))) :
    Leaves ts (x >>= f) :=
  Yields.bind hx fun p hp => (hf p.1 p.2).mono hp

theorem leaves_all (a : α) (ts : List Lexeme) : Leaves ts (.ok (a, ts)) := yields_ok List.suffix_rfl

theorem leaves_tail (a : α) (l : Lexeme) (ts : List Lexeme) : Leaves (l :: ts) (.ok (a, ts)) :=
  yields_ok (List.suffix_cons l ts)

theorem leaves_expect (t : TypeToken) (ts : List Lexeme) : Leaves ts (expect t ts) := by
  cases ts with
  | nil => exact yields_error _
  | cons l rest =>
    rw [expect]
    split
    · exact leaves_tail _ l rest
    · exact yields_error _

theorem leaves_expectWords (words : List String) (ts : List Lexeme) :
    Leaves ts (expectWords words ts) := by
  induction words generalizing ts with
  | nil => exact leaves_all _ ts
  | cons w words ih => exact (leaves_expect _ ts).andThen fun _ rest => ih rest

theorem leaves_number (ts : List Lexeme) : Leaves ts (number ts) := by
  unfold number
  split
  · exact leaves_tail _ _ _
  · exact yields_error _

theorem leaves_optLength (ts : List Lexeme) : Leaves ts (optLength ts) := by
  unfold optLength
  split
  · refine Leaves.mono ?_ (List.suffix_cons _ _)
    refine (leaves_number _).andThen fun _ rest => ?_
    exact (leaves_expect _ rest).andThen fun _ rest => leaves_all _ rest
  · exact leaves_all _ _

theorem leaves_optPrecision (ts : List Lexeme) : Leaves ts (optPrecision ts) := by
  refine (leaves_optLength ts).andThen fun n rest => ?_
  cases n with
  | none => exact leaves_all _ rest
  | some n => exact yields_bind fun _ => leaves_all _ rest

theorem leaves_nullability (ts : List Lexeme) : Leaves ts (nullability ts) := by
  cases ts with
  | nil => exact leaves_all _ []
  | cons l rest =>
    rw [nullability]
    split
    · refine Leaves.mono ?_ (List.suffix_cons l rest)
      exact (leaves_expect _ rest).andThen fun _ rest => leaves_all _ rest
    split
    · exact leaves_tail _ l rest
    · exact leaves_all _ _

theorem takeWord_suffix (w : String) (ts : List Lexeme) : (takeWord w ts).2 <:+ ts := by
  cases ts with
  | nil => exact List.suffix_rfl
  | cons l rest =>
    rw [takeWord]
    split
    · exact List.suffix_cons l rest
    · exact List.suffix_rfl

theorem suffix_of_takeWord {w : String} {b : Bool} {ts rest : List Lexeme}
    (h : takeWord w ts = (b, rest)) : rest <:+ ts := by
  have hs := takeWord_suffix w ts
  rwa [h] at hs

theorem leaves_withoutTimeZone (ts : List Lexeme) : Leaves ts (withoutTimeZone ts) := by
  unfold withoutTimeZone
  split
  next rest h =>
    refine Leaves.mono ?_ (suffix_of_takeWord h)
    exact (leaves_expectWords _ rest).andThen fun _ rest => leaves_all _ rest
  next rest h => exact yields_ok (suffix_of_takeWord h)

theorem leaves_decimalSize (ts : List Lexeme) : Leaves ts (decimalSize ts) := by
  unfold decimalSize
  split
  next rest =>
    refine Leaves.mono ?_ (List.suffix_cons _ _)
    refine (leaves_number _).andThen fun p rest => ?_
    dsimp only
    split
    · refine Leaves.mono ?_ (List.suffix_cons _ _)
      refine (leaves_number _).andThen fun s rest => ?_
      exact (leaves_expect _ rest).andThen fun _ rest => leaves_all _ rest
    · exact (leaves_expect _ _).andThen fun _ rest => leaves_all _ rest
  next => exact leaves_all _ _

theorem leaves_timestamp (whole ts : List Lexeme) : Leaves ts (timestamp whole ts) := by
  refine (leaves_optPrecision ts).andThen fun p ts => ?_
  refine (leaves_withoutTimeZone ts).andThen fun without ts => ?_
  dsimp only
  split
  · exact leaves_all _ ts
  split
  next h => exact yields_ok (suffix_of_takeWord h)
  next h =>
    refine Leaves.mono ?_ (suffix_of_takeWord h)
    split
    next h =>
      refine Leaves.mono ?_ (suffix_of_takeWord h)
      exact (leaves_expectWords _ _).andThen fun _ rest => leaves_all _ rest
    next h =>
      refine Leaves.mono ?_ (suffix_of_takeWord h)
      exact (leaves_expectWords _ _).andThen fun _ rest => leaves_all _ rest

theorem leaves_simple {word : String} {whole ts : List Lexeme}
    {x : Except TypeError (LogicalType × List Lexeme)} (h : simple word whole ts = some x) :
    Leaves ts x := by
  unfold simple at h
  split at h
  all_goals cases h
  all_goals first
    | exact leaves_all _ ts
    | exact leaves_timestamp _ ts
    | exact yields_ok (takeWord_suffix _ ts)
    | exact (leaves_optLength ts).andThen fun _ rest => leaves_all _ rest
    | exact (leaves_optPrecision ts).andThen fun _ rest => leaves_all _ rest
    | exact (leaves_optPrecision ts).andThen fun _ rest =>
        (leaves_withoutTimeZone rest).andThen fun _ rest => leaves_all _ rest
    | exact (leaves_decimalSize ts).andThen fun _ rest =>
        yields_bind fun _ => yields_bind fun _ => leaves_all _ rest

theorem unknownTail_append {depth : Nat} {ts tail rest : List Lexeme}
    (h : unknownTail depth ts = (tail, rest)) : ts = tail ++ rest := by
  induction ts generalizing depth tail with
  | nil => cases h; rfl
  | cons l ts ih =>
    rw [unknownTail] at h
    split at h
    · cases h; rfl
    next =>
      cases h
      exact congrArg (l :: ·) (ih rfl)

theorem leaves_fieldName (ts : List Lexeme) : Leaves ts (fieldName ts) := by
  unfold fieldName
  split
  · exact leaves_tail _ _ _
  · exact leaves_tail _ _ _
  · exact yields_error _

theorem dropLiteral_suffix (ts : List Lexeme) : dropLiteral ts <:+ ts := by
  unfold dropLiteral
  split
  · exact List.suffix_cons _ _
  · exact List.suffix_rfl

end Leaves

/-! ### Kinds of types -/

theorem yields_row (fuel : Nat) (close : TypeToken) (ts : List Lexeme) :
    Yields (row fuel close ts) fun p => ∃ fs, p.1 = .row fs := by
  unfold row
  split
  · exact yields_ok ⟨[], rfl⟩
  · exact yields_bind fun _ => yields_ok ⟨_, rfl⟩

/-- What is read after a word is no structured type, and known unless it is a time stamp. -/
def Unparted (word : String) (t : LogicalType) : Prop :=
  t.isStructured = false ∧ ∀ raw, t = .unsupported raw → word = "TIMESTAMP"

theorem unparted_of_simple {word : String} {whole ts : List Lexeme}
    {x : Except TypeError (LogicalType × List Lexeme)} (h : simple word whole ts = some x) :
    Yields x fun p => Unparted word p.1 := by
  unfold simple at h
  split at h
  all_goals cases h
  all_goals first
    | exact yields_ok ⟨rfl, by rintro _ ⟨⟩⟩
    | exact yields_bind fun _ => yields_ok ⟨rfl, by rintro _ ⟨⟩⟩
    | exact yields_bind fun _ => yields_bind fun _ => yields_ok ⟨rfl, by rintro _ ⟨⟩⟩
    | exact yields_bind fun _ => yields_bind fun _ => yields_bind fun _ =>
        yields_ok ⟨rfl, by rintro _ ⟨⟩⟩
    | skip
  refine yields_bind fun ⟨p, ts⟩ => yields_bind fun ⟨without, ts⟩ => ?_
  dsimp only
  split
  · exact yields_ok ⟨rfl, fun _ _ => rfl⟩
  split
  · exact yields_ok ⟨rfl, fun _ _ => rfl⟩
  split
  · exact yields_bind fun _ => yields_ok ⟨rfl, fun _ _ => rfl⟩
  · exact yields_bind fun _ => yields_ok ⟨rfl, fun _ _ => rfl⟩

end TypeParser

end StreamPipeline
