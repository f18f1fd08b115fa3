import StreamPipeline.Proofs.Schema.Positions
import StreamPipeline.Proofs.Schema.Verbatim

/-! # Types by positions

A time stamp, a name and an unknown type are sliced out of the text between tokens that were passed,
and the slices are what their lexemes spell. So the whole reading takes only bytes, tokens and
slices that are there, and it reads what the lexemes give.
-/

namespace StreamPipeline

open Text

open String (utf8Len)

namespace TypeText

open Guarded

section Types

variable {raw : String} {all before ls rest : List Lexeme} {l : Lexeme}

/-! ### Slices -/

theorem append_cons_assoc (h : all = before ++ l :: ls) : all = (before ++ [l]) ++ ls := by
  rw [h, List.append_assoc]
  rfl

/-- What was read since a token is sliced out, up to the token before the position. -/
theorem slice_behind {β : Type} {f : String → Positional β} {tail : List Lexeme}
    (hs : Lexeme.Scans raw.toList all) (h : all = before ++ l :: (tail ++ rest)) :
    ((do
      let last ← previous (placed 0 all)
      let text ← slice raw (place before l).start last.stop
      f text) : Positional β) (before ++ l :: tail).length =
        f (String.ofList (Lexeme.spelled (l :: tail))) (before ++ l :: tail).length := by
  obtain ⟨init, m, hm⟩ : ∃ init m, before ++ l :: tail = init ++ [m] :=
    ⟨_, _, (List.dropLast_append_getLast (by simp)).symm⟩
  have hall : all = init ++ m :: rest := by
    rw [h, ← List.cons_append, ← List.append_assoc, hm, List.append_assoc]
    rfl
  have hslice := slice_placed (h ▸ hs)
  rw [hm] at hslice ⊢
  rw [bind_ok (previous_eq hall), stop_place, hslice]
  rfl

theorem same_timestamp (hs : Lexeme.Scans raw.toList all) (h : all = before ++ l :: ls) :
    Same (before ++ [l]) ls
    (timestamp raw (placed 0 all) (place before l).start (before ++ [l]).length)
    (TypeParser.timestamp (l :: ls) ls) := by
  refine agrees_optPrecision.bind (append_cons_assoc h) fun precision r₁ ls₁ hr₁ h₁ => ?_
  refine agrees_withoutTimeZone.bind h₁ fun without r₂ ls₂ hr₂ h₂ => ?_
  cases without with
  | true => exact .pure _
  | false =>
    rw [if_neg Bool.false_ne_true]
    dsimp only
    rw [if_neg Bool.false_ne_true, takeWord_eq]
    rcases skip_cases (.word "WITH") h₂ with ⟨m, ls₃, rfl, -, ht, hk⟩ | ⟨-, ht, hk⟩
    · rw [ht, bind_ok hk, if_pos rfl]
      refine Same.mono [m] ?_ rfl
      have h₃ := append_cons_assoc h₂
      dsimp only
      rw [takeWord_eq]
      rcases skip_cases (.word "LOCAL") h₃ with ⟨k, ls₄, rfl, -, ht, hk⟩ | ⟨-, ht, hk⟩
      · rw [ht, bind_ok hk, if_pos rfl]
        refine Same.mono [k] ?_ rfl
        refine (agrees_expectWords _).bind (append_cons_assoc h₃) fun _ r₅ ls₅ _ _ => ?_
        exact .pure _
      · rw [ht, bind_ok hk, if_neg Bool.false_ne_true]
        refine (agrees_expectWords _).bind h₃ fun _ r₅ ls₅ hr₅ _ => ?_
        -- The slice goes from the word itself to the last token of the time zone.
        obtain ⟨tail, htail⟩ : ∃ tail, tail = r₁ ++ r₂ ++ [m] ++ r₅ := ⟨_, rfl⟩
        have hls : ls = tail ++ ls₅ := by rw [hr₁, hr₂, hr₅, htail]; simp
        have hread : before ++ [l] ++ r₁ ++ r₂ ++ [m] ++ r₅ = before ++ l :: tail := by
          rw [htail]
          simp
        rw [hread, slice_behind hs (by rw [h, hls]), hls, TypeParser.consumed_append]
        exact .pure _
    · rw [ht, bind_ok hk]
      exact .pure _

/-- After the same word, two readings end alike, or there are none. -/
theorem same_simple (hs : Lexeme.Scans raw.toList all) (h : all = before ++ l :: ls)
    (word : String) : Option.Rel (fun p x => Same (before ++ [l]) ls (p (before ++ [l]).length) x)
      (simple raw (placed 0 all) word (place before l).start)
      (TypeParser.simple word (l :: ls) ls) := by
  have h₀ := append_cons_assoc h
  fun_cases TypeParser.simple word (l :: ls) ls with
  | case1 | case2 | case3 | case4 | case5 | case9 | case10 | case12 | case13 | case19 | case22 =>
    exact .some (.pure _)
  | case6 | case7 | case8 =>
    refine .some (agrees_decimalSize.bind h₀ fun size read rest _ h => ?_)
    refine Same.given fun p => ?_
    exact Same.given fun k => .pure _
  | case11 =>
    rw [takeWord_eq]
    refine .some ((agrees_skip (.word "PRECISION")).bind (g := fun p =>
      .ok (LogicalType.double, p.2)) h₀ ?_)
    exact fun _ read rest _ h => .pure _
  | case14 =>
    refine .some (agrees_optPrecision.bind h₀ fun precision read rest _ h => ?_)
    exact agrees_withoutTimeZone.bind h fun _ read rest _ h => .pure _
  | case15 => exact .some (same_timestamp hs h)
  | case16 => exact .some (agrees_optPrecision.bind h₀ fun precision read rest _ h => .pure _)
  | case17 | case18 | case20 | case21 =>
    exact .some (agrees_optLength.bind h₀ fun n read rest _ h => .pure _)
  | case23 =>
    have hn : simple raw (placed 0 all) word (place before l).start = none := by
      unfold simple
      split <;> first | rfl | contradiction
    rw [hn]
    exact .none

/-- The loop over an unknown type ends behind its lexemes, with the offset where they stop. -/
theorem unsupportedEnd_eq {rounds depth : Nat} {tail : List Lexeme} (h : all = before ++ ls)
    (hr : ls.length < rounds) (hu : TypeParser.unknownTail depth ls = (tail, rest)) :
    unsupportedEnd (placed 0 all) rounds depth (utf8Len (written before)) before.length =
      result (.ok (utf8Len (written (before ++ tail)), (before ++ tail).length)) := by
  induction ls generalizing rounds depth tail before with
  | nil =>
    cases hu
    obtain ⟨rounds, rfl⟩ := Nat.exists_eq_add_one.mpr hr
    rw [unsupportedEnd, bind_ok (peek_nil h), List.append_nil]
    rfl
  | cons l ls ih =>
    obtain ⟨rounds, rfl⟩ := Nat.exists_eq_add_one.mpr (Nat.zero_lt_of_lt hr)
    rw [TypeParser.unknownTail] at hu
    rw [unsupportedEnd, bind_ok (peek_cons h)]
    dsimp only
    split at hu
    next he =>
      cases hu
      rw [if_pos he, List.append_nil]
      rfl
    next he =>
      obtain ⟨taken, left, ht⟩ : ∃ taken left, TypeParser.unknownTail
          (TypeParser.depthAfter depth l.token) ls = (taken, left) := ⟨_, _, rfl⟩
      have hp := getElem?_placed before l ls
      rw [ht] at hu
      cases hu
      rw [← h] at hp
      rw [if_neg he]
      have hstep := ih (append_cons_assoc h) (Nat.lt_of_succ_lt_succ hr) ht
      rw [← stop_place, List.append_assoc] at hstep
      rw [bind_ok (n := before.length) (m := before.length) rfl, hp]
      rwa [List.length_append, List.length_singleton] at hstep

theorem same_unsupported (hs : Lexeme.Scans raw.toList all) (h : all = before ++ l :: ls)
    {tail : List Lexeme} (hu : TypeParser.unknownTail 0 ls = (tail, rest)) :
    Same (before ++ [l]) ls
      (unsupported raw (placed 0 all) (place before l).start (before ++ [l]).length)
      (.ok (.unsupported (String.ofList (Lexeme.spelled (l :: tail))), rest)) := by
  have hls := TypeParser.unknownTail_append hu
  have hrounds : ls.length < (placed 0 all).length + 1 := by
    rw [length_placed, h, List.length_append, List.length_cons]
    omega
  have hend := unsupportedEnd_eq (append_cons_assoc h) hrounds hu
  have hread : before ++ [l] ++ tail = before ++ l :: tail := by simp
  rw [unsupported, bind_ok (previous_eq h), stop_place, bind_ok hend, hread,
    slice_placed (by rwa [h, hls] at hs)]
  have hok : Same (before ++ [l]) ls _ _ :=
    Same.ok (LogicalType.unsupported (String.ofList (Lexeme.spelled (l :: tail)))) hls
  rwa [hread] at hok

theorem fieldName_nil (h : all = before ++ []) :
    fieldName raw (placed 0 all) before.length = result (.error .expectedFieldName) := by
  rw [fieldName, bind_ok (bump_nil h)]
  rfl

/-- A name is one token, or there is none. -/
theorem fieldName_cases (hs : Lexeme.Scans raw.toList all) (h : all = before ++ l :: ls) :
    (∃ name, TypeParser.fieldName (l :: ls) = .ok (name, ls) ∧
      fieldName raw (placed 0 all) before.length =
        result (.ok (name, (before ++ [l]).length))) ∨
    (TypeParser.fieldName (l :: ls) = .error .expectedFieldName ∧
      fieldName raw (placed 0 all) before.length = result (.error .expectedFieldName)) := by
  rw [fieldName, bind_ok (bump_cons h)]
  obtain ⟨gap, text, token⟩ := l
  cases token with
  | ident name => exact .inl ⟨name, rfl, rfl⟩
  | word w =>
    have hs' : Lexeme.Scans raw.toList (before ++ ⟨gap, text, .word w⟩ :: ([] ++ ls)) := h ▸ hs
    have hslice := slice_placed hs'
    have hsp : Lexeme.spelled [⟨gap, text, .word w⟩] = text := List.append_nil text
    rw [← stop_place, hsp] at hslice
    dsimp only [place]
    rw [bind_ok (previous_eq h), lift_ok hslice]
    exact .inl ⟨String.ofList text, rfl, rfl⟩
  | _ => exact .inr ⟨rfl, rfl⟩

/-- A row ends alike where its fields do. -/
theorem same_row {fuel : Nat} {close : TypeToken} (h : all = before ++ ls)
    {fields : TypeToken → Positional (List (String × LogicalType))}
    (hf : Same before ls (fields close before.length) (TypeParser.fields fuel close ls)) :
    Same before ls (row (placed 0 all) fields close before.length)
      (TypeParser.row fuel close ls) := by
  rw [row, TypeParser.row]
  rcases skip_cases close h with ⟨l, rest, rfl, hl, -, hk⟩ | ⟨hp, -, hk⟩
  · have hp : TypeParser.peek (l :: rest) = some close := congrArg some hl
    rw [bind_ok hk, if_pos rfl, if_pos hp]
    exact .ok _ rfl
  · rw [bind_ok hk, if_neg Bool.false_ne_true, if_neg hp]
    exact hf.bind fun fields read rest _ => .pure _

/-- Types and the fields of rows end alike, with one round more than the fuel. -/
def SameUpTo (raw : String) (all : List Lexeme) (fuel : Nat) : Prop :=
  ∀ before ls, all = before ++ ls → ls.length ≤ fuel →
    Same before ls (type raw (placed 0 all) (fuel + 1) before.length)
      (TypeParser.type fuel ls) ∧
    ∀ close, Same before ls (fields raw (placed 0 all) (fuel + 1) close before.length)
      (TypeParser.fields fuel close ls)

theorem dropLiteral_eq (ls : List Lexeme) :
    TypeParser.dropLiteral ls = (takeToken .literal ls).2 := by
  cases ls with
  | nil => rfl
  | cons l rest =>
    obtain ⟨gap, text, token⟩ := l
    cases token <;> rfl

/-- What follows a field: another one, or the end of the row. -/
def afterField (fuel : Nat) (close : TypeToken) (field : String × LogicalType) :
    TypeParser.Step (List (String × LogicalType))
  | [] => .error .unterminatedRow
  | l :: ls =>
    if l.token = .comma then do
      let (rest, ls) ← TypeParser.fields fuel close ls
      .ok (field :: rest, ls)
    else if l.token = close then .ok ([field], ls)
    else .error .unterminatedRow

theorem same_afterField {fuel : Nat} {close : TypeToken} (ih : SameUpTo raw all fuel)
    (h : all = before ++ ls) (hl : ls.length ≤ fuel) (field : String × LogicalType) :
    Same before ls
      ((do
        match (← bump (placed 0 all)).map Token.token with
        | none => throw .unterminatedRow
        | some u =>
          if u = .comma then
            let rest ← fields raw (placed 0 all) (fuel + 1) close
            return field :: rest
          else if u = close then return [field]
          else throw .unterminatedRow : Positional (List (String × LogicalType))) before.length)
      (afterField fuel close field ls) := by
  cases ls with
  | nil =>
    rw [bind_ok (bump_nil h)]
    exact .error _
  | cons l ls =>
    rw [bind_ok (bump_cons h)]
    refine Same.mono [l] ?_ rfl
    have h₁ := append_cons_assoc h
    dsimp only [Option.map_some, place, afterField]
    split
    · refine ((ih _ _ h₁ (Nat.le_of_succ_le hl)).2 close).next h₁ fun rest _ _ _ _ => ?_
      exact .pure (field :: rest)
    split
    · exact .pure [field]
    · exact .error _

theorem same_fields_succ {fuel : Nat} {close : TypeToken} (hs : Lexeme.Scans raw.toList all)
    (ih : SameUpTo raw all fuel) (h : all = before ++ ls) (hl : ls.length ≤ fuel + 1) :
    Same before ls (fields raw (placed 0 all) (fuel + 2) close before.length)
      (TypeParser.fields (fuel + 1) close ls) := by
  rw [fields, TypeParser.fields]
  cases ls with
  | nil =>
    rw [bind_error (fieldName_nil h)]
    exact .error _
  | cons l ls =>
    rcases fieldName_cases hs h with ⟨name, hn, hp⟩ | ⟨hn, hp⟩
    · rw [hn, bind_ok hp]
      have h₀ := append_cons_assoc h
      refine Same.mono [l] ?_ rfl
      have hl₀ : ls.length ≤ fuel := Nat.le_of_succ_le_succ hl
      refine (ih _ _ h₀ hl₀).1.next h₀ fun t r₁ ls₁ hr₁ h₁ => ?_
      refine agrees_nullability.bind h₁ fun _ r₂ ls₂ hr₂ h₂ => ?_
      have hl₂ : ls₂.length ≤ fuel := by
        rw [hr₁, hr₂, List.length_append, List.length_append] at hl₀
        omega
      dsimp only
      rw [dropLiteral_eq]
      rcases skip_cases .literal h₂ with ⟨m, ls₃, rfl, -, ht, hk⟩ | ⟨-, ht, hk⟩
      · rw [ht, bind_ok hk]
        refine Same.mono [m] ?_ rfl
        exact same_afterField ih (append_cons_assoc h₂) (Nat.le_of_succ_le hl₂) (name, t)
      · rw [ht, bind_ok hk]
        exact same_afterField ih h₂ hl₂ (name, t)
    · rw [hn, bind_error hp]
      exact .error _

theorem same_type_succ {fuel : Nat} (hs : Lexeme.Scans raw.toList all)
    (ih : SameUpTo raw all fuel) (h : all = before ++ ls) (hl : ls.length ≤ fuel + 1) :
    Same before ls (type raw (placed 0 all) (fuel + 2) before.length)
      (TypeParser.type (fuel + 1) ls) := by
  rw [type]
  cases ls with
  | nil =>
    rw [bind_ok (bump_nil h), TypeParser.type]
    exact .error _
  | cons l ls =>
  rw [bind_ok (bump_cons h), TypeParser.type]
  cases ht : l.token with
  | word word =>
    dsimp only [place]
    rw [ht]
    refine Same.mono [l] ?_ rfl
    have h₀ := append_cons_assoc h
    have hl₀ : ls.length ≤ fuel := Nat.le_of_succ_le_succ hl
    have hw := same_simple hs h word
    dsimp only [place] at hw ⊢
    generalize simple raw (placed 0 all) word _ = p at hw ⊢
    generalize TypeParser.simple word (l :: ls) ls = x at hw ⊢
    cases hw with
    | some hx => exact hx
    | none =>
      dsimp only
      split
      · refine (agrees_expect .lt).bind h₀ fun _ r₁ ls₁ hr₁ h₁ => ?_
        have hl₁ : ls₁.length ≤ fuel := by
          rw [hr₁, List.length_append] at hl₀
          omega
        refine (ih _ _ h₁ hl₁).1.next h₁ fun element r₂ ls₂ _ h₂ => ?_
        refine agrees_nullability.bind h₂ fun _ r₃ ls₃ _ h₃ => ?_
        refine (agrees_expect .gt).bind h₃ fun _ r₄ ls₄ _ h₄ => ?_
        exact .pure (LogicalType.array element)
      split
      · cases ls with
        | nil =>
          rw [bind_ok (bump_nil h₀)]
          exact .error _
        | cons m ls =>
          rw [bind_ok (bump_cons h₀)]
          refine Same.mono [m] ?_ rfl
          have h₁ := append_cons_assoc h₀
          have hf := (ih _ _ h₁ (Nat.le_of_succ_le hl₀)).2
          obtain ⟨gap, text, token⟩ := m
          cases token with
          | lt => exact same_row h₁ (hf .gt)
          | lparen => exact same_row h₁ (hf .rparen)
          | _ => exact .error _
      · exact same_unsupported hs h rfl
  | _ =>
    dsimp only [place]
    rw [ht]
    exact .error _

theorem sameUpTo (hs : Lexeme.Scans raw.toList all) (fuel : Nat) : SameUpTo raw all fuel := by
  induction fuel with
  | zero =>
    intro before ls h hl
    obtain rfl := List.length_eq_zero_iff.mp (Nat.le_zero.mp hl)
    constructor
    · rw [type, bind_ok (bump_nil h), TypeParser.type]
      exact .error _
    · intro close
      rw [fields, bind_error (fieldName_nil h), TypeParser.fields]
      exact .error _
  | succ fuel ih =>
    intro before ls h hl
    exact ⟨same_type_succ hs ih h hl, fun close => same_fields_succ hs ih h hl⟩

theorem same_attributes {rounds : Nat} (seen : Option TimeAttribute) (h : all = before ++ ls)
    (hr : ls.length < rounds) :
    Same before ls (attributes (placed 0 all) rounds seen before.length)
      (TypeParser.attributes seen ls) := by
  induction ls generalizing rounds before seen with
  | nil =>
    obtain ⟨rounds, rfl⟩ := Nat.exists_eq_add_one.mpr hr
    rw [attributes, bind_ok (peek_nil h)]
    exact .pure seen
  | cons l ls ih =>
    obtain ⟨rounds, rfl⟩ := Nat.exists_eq_add_one.mpr (Nat.zero_lt_of_lt hr)
    rw [attributes, bind_ok (peek_cons h)]
    obtain ⟨gap, text, token⟩ := l
    cases token with
    | marker m =>
      rw [TypeParser.attributes]
      dsimp only
      rw [bind_ok (bump_cons h)]
      refine Same.mono [_] ?_ rfl
      cases TypeParser.attributeOf m with
      | error e => exact .error e
      | ok a => exact ih (some a) (append_cons_assoc h) (Nat.lt_of_succ_lt_succ hr)
    | _ => exact .pure seen

/-- A column's type, with the lexemes that are left, which are none. -/
def wholeColumn : TypeParser.Step ColumnType := fun ls => do
  let (dataType, ls) ← TypeParser.type ls.length ls
  let (nullable, ls) ← TypeParser.nullability ls
  let (timeAttribute, ls) ← TypeParser.attributes none ls
  match ls with
  | [] => .ok ({ dataType, nullable, timeAttribute }, [])
  | l :: _ => .error (.trailing l.token)

theorem columnType_eq (ls : List Lexeme) :
    TypeParser.columnType ls = (wholeColumn ls).map Prod.fst := by
  rw [TypeParser.columnType, wholeColumn]
  cases TypeParser.type ls.length ls with
  | error e => rfl
  | ok p =>
    obtain ⟨dataType, ls₁⟩ := p
    change TypeParser.nullability ls₁ >>= _ = (TypeParser.nullability ls₁ >>= _).map _
    cases TypeParser.nullability ls₁ with
    | error e => rfl
    | ok p =>
      obtain ⟨nullable, ls₂⟩ := p
      change TypeParser.attributes none ls₂ >>= _ = (TypeParser.attributes none ls₂ >>= _).map _
      cases TypeParser.attributes none ls₂ with
      | error e => rfl
      | ok p =>
        obtain ⟨timeAttribute, ls₃⟩ := p
        cases ls₃ <;> rfl

theorem same_columnType (hs : Lexeme.Scans raw.toList all) :
    Same [] all (columnType raw (placed 0 all) 0) (wholeColumn all) := by
  have hlength := length_placed 0 all
  have htype : Same [] all (type raw (placed 0 all) ((placed 0 all).length + 1) 0)
      (TypeParser.type all.length all) := by
    rw [hlength]
    exact (sameUpTo hs all.length [] all rfl (Nat.le_refl _)).1
  refine htype.next rfl fun t _ ls₁ _ h₁ => ?_
  refine agrees_nullability.bind h₁ fun nullable _ ls₂ _ h₂ => ?_
  have hrounds : ls₂.length < (placed 0 all).length + 1 := by
    have hall := congrArg List.length h₂
    rw [List.length_append] at hall
    omega
  refine (same_attributes none h₂ hrounds).next h₂ fun seen _ ls₃ _ h₃ => ?_
  cases ls₃ with
  | nil =>
    rw [bind_ok (peek_nil h₃)]
    exact .pure _
  | cons l ls₃ =>
    rw [bind_ok (peek_cons h₃)]
    exact .error _

end Types

/-! ### Type texts -/

/-- Reading by bytes and positions takes nothing that is not there, ends, and reads what is read of
the lexemes. -/
theorem parse_eq (raw : String) :
    parse raw = result (Lexeme.ofText raw >>= TypeParser.columnType) := by
  rw [parse, tokens_eq]
  cases hl : Lexeme.ofText raw with
  | error e => rfl
  | ok ls =>
    have hc := same_columnType (Lexeme.ofText_iff.mp hl)
    change columnType raw (placed 0 ls) 0 >>= _ = result (TypeParser.columnType ls)
    rw [columnType_eq]
    generalize columnType raw (placed 0 ls) 0 = x at hc ⊢
    generalize wholeColumn ls = y at hc ⊢
    cases hc with
    | error e => rfl
    | ok a hr => rfl

/-- Whatever the text, cutting it into tokens and reading these takes only bytes, tokens and slices
that are there, and ends with the tokens and the type that are read of its lexemes. If it has
tokens, they are not empty, stand one after the other and begin and end where characters do, and
each byte outside of them is a blank. -/
theorem tokens_tile_text (raw : String) : ∃ cut read,
    tokens raw = result cut ∧ parse raw = result read ∧
    cut.map (·.map Token.token) = (Lexeme.ofText raw).map (·.map Lexeme.token) ∧
    ColumnType.parse raw = read.mapError (MalformedType.mk raw) ∧
    ∀ ts, cut = .ok ts →
      (∀ t ∈ ts, t.start < t.stop ∧ isBoundary raw t.start ∧ isBoundary raw t.stop) ∧
      ts.Pairwise (fun t u => t.start < u.start ∧ t.stop ≤ u.start) ∧
      ∀ k b, (bytes raw)[k]? = some b → (∀ t ∈ ts, ¬ (t.start ≤ k ∧ k < t.stop)) →
        Lexeme.isGap (byteChar b) := by
  refine ⟨_, _, tokens_eq raw, parse_eq raw, ?_, ?_, ?_⟩
  · cases Lexeme.ofText raw with
    | error e => rfl
    | ok ls => exact congrArg Except.ok (map_token_placed 0 ls)
  · rw [ColumnType.parse]
    split
    next e he => rw [he]; rfl
    next t ht => rw [ht]; rfl
  · intro ts hts
    cases hl : Lexeme.ofText raw with
    | error e => rw [hl] at hts; cases hts
    | ok ls =>
      rw [hl] at hts
      cases hts
      have h := tiles_placed (leftAt_zero raw) (Lexeme.ofText_iff.mp hl)
      refine ⟨fun t ht => ⟨h.nonempty t ht, h.boundary t ht⟩, ?_, ?_⟩
      · refine h.ordered.imp_of_mem fun {t u} ht _ htu => ⟨?_, htu⟩
        exact Nat.lt_of_lt_of_le (h.nonempty t ht) htu
      · exact fun k b hb => h.blank k b (Nat.zero_le k) hb

end TypeText

end StreamPipeline
