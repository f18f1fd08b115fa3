import StreamPipeline.Proofs.Schema.PlacedTokens
import StreamPipeline.Proofs.Schema.PositionReader

/-! # Positions and lexemes

A reading by positions ends as the reading of lexemes does: with the same error, or with the same
value and the position behind the lexemes that were read. The steps that take no slice of the text
are compared first.
-/

namespace StreamPipeline

namespace TypeText

open Guarded

/-! ### Readings that end alike -/

/-- A reading by positions and one of lexemes fail with the same error, or read the same, and then
the position is behind the lexemes that were read. -/
inductive Same {α : Type} (before ls : List Lexeme) :
    Guarded (α × Nat) → Except TypeError (α × List Lexeme) → Prop where
  | error (e : TypeError) : Same before ls (result (.error e)) (.error e)
  | ok (a : α) {read rest : List Lexeme} : ls = read ++ rest →
      Same before ls (result (.ok (a, (before ++ read).length))) (.ok (a, rest))

section Same

variable {α β : Type} {all before ls : List Lexeme} {n : Nat} {p : Positional α}
  {f : α → Positional β} {s : TypeParser.Step α} {y : Except TypeError (α × List Lexeme)}
  {g : α × List Lexeme → Except TypeError (β × List Lexeme)}

theorem Same.pure (a : α) :
    Same before ls ((Pure.pure a : Positional α) before.length) (.ok (a, ls)) := by
  have h : Same before ls _ _ := Same.ok a (List.nil_append ls).symm
  rwa [List.append_nil] at h

theorem Same.mono (read : List Lexeme) {rest : List Lexeme} {x : Guarded (α × Nat)}
    (h : Same (before ++ read) rest x y) (hr : ls = read ++ rest) : Same before ls x y := by
  subst hr
  cases h with
  | error e => exact .error e
  | ok a hr =>
    rw [List.append_assoc]
    exact .ok a (by rw [hr, List.append_assoc])

theorem bind_ok {a : α} {m : Nat} (h : p n = result (.ok (a, m))) : (p >>= f) n = f a m := by
  change p n >>= _ = _
  rw [h]
  rfl

theorem bind_error {e : TypeError} (h : p n = result (.error e)) :
    (p >>= f) n = result (.error e) := by
  change p n >>= _ = _
  rw [h]
  rfl

theorem lift_ok {x : Guarded α} {a : α} (h : x = result (.ok a)) :
    (liftM x : Positional α) n = result (.ok (a, n)) := by
  rw [h]
  rfl

theorem Same.bind (hx : Same before ls (p n) y)
    (hf : ∀ a read rest, ls = read ++ rest →
      Same (before ++ read) rest (f a (before ++ read).length) (g (a, rest))) :
    Same before ls ((p >>= f) n) (y >>= g) := by
  have hb : (p >>= f) n = p n >>= fun r => f r.1 r.2 := rfl
  rw [hb]
  generalize p n = x at hx
  cases hx with
  | error e => exact .error e
  | ok a hr => exact (hf a _ _ hr).mono _ hr

/-- Wherever the two readings begin, they end alike. -/
def Agrees (all : List Lexeme) (p : Positional α) (s : TypeParser.Step α) : Prop :=
  ∀ before ls, all = before ++ ls → Same before ls (p before.length) (s ls)

theorem Same.next (hx : Same before ls (p before.length) y) (h : all = before ++ ls)
    (hf : ∀ a read rest, ls = read ++ rest → all = (before ++ read) ++ rest →
      Same (before ++ read) rest (f a (before ++ read).length) (g (a, rest))) :
    Same before ls ((p >>= f) before.length) (y >>= g) := by
  refine hx.bind fun a read rest hr => hf a read rest hr ?_
  rw [h, hr, List.append_assoc]

theorem Agrees.bind (hp : Agrees all p s) (h : all = before ++ ls)
    (hf : ∀ a read rest, ls = read ++ rest → all = (before ++ read) ++ rest →
      Same (before ++ read) rest (f a (before ++ read).length) (g (a, rest))) :
    Same before ls ((p >>= f) before.length) (s ls >>= g) :=
  (hp before ls h).next h hf

end Same

/-! ### Steps -/

section Steps

variable {raw : String} {all before ls rest : List Lexeme} {l : Lexeme}

theorem peek_cons (h : all = before ++ l :: rest) :
    peek (placed 0 all) before.length = result (.ok (some l.token, before.length)) := by
  have hp := getElem?_placed before l rest
  rw [← h] at hp
  change result (.ok (Option.map _ _, _)) = _
  rw [hp]
  rfl

theorem peek_nil (h : all = before ++ []) :
    peek (placed 0 all) before.length = result (.ok (none, before.length)) := by
  rw [List.append_nil] at h
  change result (.ok (Option.map _ _, _)) = _
  rw [← h, getElem?_placed_end]
  rfl

theorem bump_cons (h : all = before ++ l :: rest) : bump (placed 0 all) before.length =
    result (.ok (some (place before l), (before ++ [l]).length)) := by
  have hp := getElem?_placed before l rest
  rw [← h] at hp
  rw [bump, bind_ok (n := before.length) (m := before.length) rfl, hp, List.length_append]
  rfl

theorem bump_nil (h : all = before ++ []) :
    bump (placed 0 all) before.length = result (.ok (none, before.length)) := by
  have hp := getElem?_placed_end all
  rw [List.append_nil] at h
  rw [h] at hp
  rw [bump, bind_ok (n := before.length) (m := before.length) rfl, h, hp]
  rfl

/-- Behind a token, the token before the position is there. -/
theorem previous_eq (h : all = before ++ l :: rest) :
    previous (placed 0 all) (before ++ [l]).length =
      result (.ok (place before l, (before ++ [l]).length)) := by
  have hp := getElem?_placed before l rest
  rw [← h] at hp
  rw [List.length_append, List.length_singleton]
  change (given (placed 0 all)[before.length]? : Positional Token) (before.length + 1) = _
  rw [hp]
  rfl

/-- Drops the token if it comes next, and tells whether it did. -/
def takeToken (t : TypeToken) : List Lexeme → Bool × List Lexeme
  | [] => (false, [])
  | l :: rest => if l.token = t then (true, rest) else (false, l :: rest)

theorem skip_cases (t : TypeToken) (h : all = before ++ ls) :
    (∃ l rest, ls = l :: rest ∧ l.token = t ∧ takeToken t ls = (true, rest) ∧
      skip (placed 0 all) t before.length = result (.ok (true, (before ++ [l]).length))) ∨
    (TypeParser.peek ls ≠ some t ∧ takeToken t ls = (false, ls) ∧
      skip (placed 0 all) t before.length = result (.ok (false, before.length))) := by
  rw [skip]
  cases ls with
  | nil =>
    rw [bind_ok (peek_nil h), if_neg (by simp)]
    exact .inr ⟨nofun, rfl, rfl⟩
  | cons l rest =>
    rw [bind_ok (peek_cons h), takeToken]
    by_cases ht : l.token = t
    · rw [if_pos (congrArg some ht), bind_ok (bump_cons h), if_pos ht]
      exact .inl ⟨l, rest, rfl, ht, rfl, rfl⟩
    · rw [if_neg (mt Option.some.inj ht), if_neg ht]
      exact .inr ⟨mt Option.some.inj ht, rfl, rfl⟩

theorem agrees_skip (t : TypeToken) :
    Agrees all (skip (placed 0 all) t) fun ls => .ok (takeToken t ls) := by
  intro before ls h
  change Same before ls _ (.ok (takeToken t ls))
  rcases skip_cases t h with ⟨l, rest, rfl, -, ht, hk⟩ | ⟨-, ht, hk⟩
  · rw [ht, hk]
    exact .ok true rfl
  · rw [ht, hk]
    exact .pure false

theorem agrees_expect (t : TypeToken) :
    Agrees all (expect (placed 0 all) t) (TypeParser.expect t) := by
  intro before ls h
  rw [expect]
  cases ls with
  | nil =>
    rw [bind_ok (bump_nil h)]
    exact .error _
  | cons l rest =>
    rw [bind_ok (bump_cons h), TypeParser.expect]
    dsimp only [place]
    split
    · exact .ok () rfl
    · exact .error _

theorem agrees_expectWords (words : List String) :
    Agrees all (expectWords (placed 0 all) words) (TypeParser.expectWords words) := by
  induction words with
  | nil => exact fun before ls _ => .pure ()
  | cons w words ih =>
    intro before ls h
    refine (agrees_expect (.word w)).bind h fun _ read rest _ h => ?_
    exact ih _ _ h

theorem agrees_number : Agrees all (number (placed 0 all)) TypeParser.number := by
  intro before ls h
  rw [number]
  cases ls with
  | nil =>
    rw [bind_ok (bump_nil h)]
    exact .error _
  | cons l rest =>
    obtain ⟨gap, text, token⟩ := l
    rw [bind_ok (bump_cons h)]
    cases token with
    | number n => exact .ok n rfl
    | _ => exact .error _

theorem optLength_eq (ls : List Lexeme) : TypeParser.optLength ls =
    (.ok (takeToken .lparen ls) : Except TypeError _) >>= fun p =>
      if p.1 then do
        let (n, rest) ← TypeParser.number p.2
        let (_, rest) ← TypeParser.expect .rparen rest
        .ok (some n, rest)
      else .ok (none, p.2) := by
  cases ls with
  | nil => rfl
  | cons l rest =>
    obtain ⟨gap, text, token⟩ := l
    cases token <;> rfl

theorem agrees_optLength : Agrees all (optLength (placed 0 all)) TypeParser.optLength := by
  intro before ls h
  rw [optLength_eq]
  refine (agrees_skip .lparen).bind h fun found read rest _ h => ?_
  cases found with
  | false => exact .pure none
  | true =>
    refine agrees_number.bind h fun n read rest _ h => ?_
    refine (agrees_expect .rparen).bind h fun _ read rest _ h => ?_
    exact .pure (some n)

/-- Both go on from what neither position nor lexemes decide. -/
theorem Same.given {α β : Type} {x : Except TypeError α} {f : α → Positional β}
    {g : α → Except TypeError (β × List Lexeme)}
    (hf : ∀ a, Same before ls (f a before.length) (g a)) :
    Same before ls (((result x : Guarded α) >>= f : Positional β) before.length) (x >>= g) := by
  cases x with
  | error e => exact .error e
  | ok a => exact hf a

theorem agrees_optPrecision :
    Agrees all (optPrecision (placed 0 all)) TypeParser.optPrecision := by
  intro before ls h
  refine agrees_optLength.bind h fun n read rest _ h => ?_
  cases n with
  | none => exact .pure none
  | some n => exact Same.given fun k => .pure (some k)

theorem nullability_eq (ls : List Lexeme) : TypeParser.nullability ls =
    (.ok (takeToken (.word "NOT") ls) : Except TypeError _) >>= fun p =>
      if p.1 then do
        let (_, rest) ← TypeParser.expectWords ["NULL"] p.2
        .ok (false, rest)
      else
        (.ok (takeToken (.word "NULL") p.2) : Except TypeError _) >>= fun p => .ok (true, p.2) := by
  cases ls with
  | nil => rfl
  | cons l rest =>
    rw [TypeParser.nullability, takeToken]
    by_cases hn : l.token = .word "NOT"
    · rw [if_pos hn, if_pos hn]
      change _ = TypeParser.expectWords ["NULL"] rest >>= _
      rw [TypeParser.expectWords]
      cases TypeParser.expect (.word "NULL") rest <;> rfl
    · rw [if_neg hn, if_neg hn]
      change _ = Except.ok (true, (takeToken (.word "NULL") (l :: rest)).2)
      rw [takeToken]
      split <;> rfl

theorem agrees_nullability :
    Agrees all (nullability (placed 0 all)) TypeParser.nullability := by
  intro before ls h
  rw [nullability_eq]
  refine (agrees_skip _).bind h fun found read rest _ h => ?_
  cases found with
  | true =>
    refine (agrees_expectWords _).bind h fun _ read rest _ h => ?_
    exact .pure false
  | false =>
    refine (agrees_skip _).bind h fun _ read rest _ h => ?_
    exact .pure true

theorem takeWord_eq (w : String) (ls : List Lexeme) :
    TypeParser.takeWord w ls = takeToken (.word w) ls := by
  cases ls <;> rfl

/-- The scale of a number, zero by default. -/
def scaleOf : TypeParser.Step UInt32
  | ⟨_, _, .comma⟩ :: rest => TypeParser.number rest
  | rest => .ok (0, rest)

theorem scaleOf_eq (ls : List Lexeme) : scaleOf ls =
    (.ok (takeToken .comma ls) : Except TypeError _) >>= fun p =>
      if p.1 then TypeParser.number p.2 else .ok (0, p.2) := by
  cases ls with
  | nil => rfl
  | cons l rest =>
    obtain ⟨gap, text, token⟩ := l
    cases token <;> rfl

theorem agrees_scale : Agrees all (scale (placed 0 all)) scaleOf := by
  intro before ls h
  rw [scaleOf_eq]
  refine (agrees_skip .comma).bind h fun found read rest _ h => ?_
  cases found with
  | false => exact .pure 0
  | true => exact agrees_number _ _ h

theorem decimalSize_eq (ls : List Lexeme) : TypeParser.decimalSize ls =
    (.ok (takeToken .lparen ls) : Except TypeError _) >>= fun p =>
      if p.1 then do
        let (n, rest) ← TypeParser.number p.2
        let (k, rest) ← scaleOf rest
        let (_, rest) ← TypeParser.expect .rparen rest
        .ok ((n, k), rest)
      else .ok ((10, 0), p.2) := by
  cases ls with
  | nil => rfl
  | cons l rest =>
    obtain ⟨gap, text, token⟩ := l
    cases token with
    | lparen =>
      change TypeParser.number rest >>= _ = TypeParser.number rest >>= _
      congr 1
      funext p
      match p with
      | (n, []) => rfl
      | (n, ⟨gap, text, token⟩ :: rest) => cases token <;> rfl
    | _ => rfl

theorem agrees_decimalSize :
    Agrees all (decimalSize (placed 0 all)) TypeParser.decimalSize := by
  intro before ls h
  rw [decimalSize_eq]
  refine (agrees_skip .lparen).bind h fun found read rest _ h => ?_
  cases found with
  | false => exact .pure (10, 0)
  | true =>
    refine agrees_number.bind h fun n read rest _ h => ?_
    refine agrees_scale.bind h fun k read rest _ h => ?_
    refine (agrees_expect .rparen).bind h fun _ read rest _ h => ?_
    exact .pure (n, k)

theorem agrees_withoutTimeZone :
    Agrees all (withoutTimeZone (placed 0 all)) TypeParser.withoutTimeZone := by
  intro before ls h
  have he : TypeParser.withoutTimeZone ls =
      (.ok (takeToken (.word "WITHOUT") ls) : Except TypeError _) >>= fun p =>
        if p.1 then do
          let (_, rest) ← TypeParser.expectWords ["TIME", "ZONE"] p.2
          .ok (true, rest)
        else .ok (false, p.2) := by
    rw [TypeParser.withoutTimeZone, takeWord_eq]
    match takeToken (.word "WITHOUT") ls with
    | (true, rest) => rfl
    | (false, rest) => rfl
  rw [he]
  refine (agrees_skip _).bind h fun found read rest _ h => ?_
  cases found with
  | false => exact .pure false
  | true =>
    refine (agrees_expectWords _).bind h fun _ read rest _ h => ?_
    exact .pure true

end Steps

end TypeText

end StreamPipeline
