import StreamPipeline.Proofs.Schema.Grammar

/-! # Nested brackets

Which brackets among tokens are properly nested, as a predicate and as a run that keeps the closing
brackets still missing. Where the brackets are nested once their kinds are forgotten, nothing around
them decides whether the kinds fit.
-/

namespace StreamPipeline

namespace TypeGrammar

def isBracket : TypeToken → Bool
  | .lparen | .rparen | .lt | .gt => true
  | _ => false

/-- The brackets among the tokens are properly nested and all closed, each by its own kind. -/
inductive Nested : List TypeToken → Prop where
  | nil : Nested []
  | other {t : TypeToken} {ts : List TypeToken} : isBracket t = false → Nested ts → Nested (t :: ts)
  | pair {o c : TypeToken} {inner rest : List TypeToken} : Brackets o c → Nested inner →
      Nested rest → Nested (o :: (inner ++ c :: rest))

theorem Nested.append {ts us : List TypeToken} (ht : Nested ts) (hu : Nested us) :
    Nested (ts ++ us) := by
  induction ht with
  | nil => exact hu
  | other h _ ih => exact .other h ih
  | pair h hi _ _ ih =>
    rw [List.cons_append, List.append_assoc]
    exact .pair h hi ih

/-! ### Missing brackets -/

/-- Takes the bracket from the missing ones if it is the first of them. -/
def close (t : TypeToken) : List TypeToken → Option (List TypeToken)
  | [] => none
  | c :: missing => if c = t then some missing else none

/-- The closing brackets that are missing behind one more token. -/
def missingAfter (missing : List TypeToken) : TypeToken → Option (List TypeToken)
  | .lparen => some (.rparen :: missing)
  | .lt => some (.gt :: missing)
  | .rparen => close .rparen missing
  | .gt => close .gt missing
  | _ => some missing

/-- The closing brackets that are missing behind the tokens, the innermost first. There is no answer
where a bracket is closed that is not the innermost open one. -/
def missingBehind (missing ts : List TypeToken) : Option (List TypeToken) :=
  ts.foldlM missingAfter missing

section Missing

variable {o c t : TypeToken} {ts us missing : List TypeToken}

theorem missingBehind_cons : missingBehind missing (t :: ts) =
    (missingAfter missing t).bind fun more => missingBehind more ts := rfl

theorem missingBehind_append : missingBehind missing (ts ++ us) =
    (missingBehind missing ts).bind fun more => missingBehind more us := List.foldlM_append

theorem missingAfter_other (h : isBracket t = false) : missingAfter missing t = some missing := by
  cases t <;> first | rfl | cases h

theorem missingAfter_open (h : Brackets o c) : missingAfter missing o = some (c :: missing) := by
  cases h <;> rfl

theorem missingAfter_close (h : Brackets o c) : missingAfter missing c = close c missing := by
  cases h <;> rfl

/-- A token is no bracket, or it opens a pair, or it closes one. -/
theorem bracket_cases (t : TypeToken) :
    isBracket t = false ∨ (∃ c, Brackets t c) ∨ ∃ o, Brackets o t := by
  cases t with
  | lparen => exact .inr (.inl ⟨_, .round⟩)
  | lt => exact .inr (.inl ⟨_, .angle⟩)
  | rparen => exact .inr (.inr ⟨_, .round⟩)
  | gt => exact .inr (.inr ⟨_, .angle⟩)
  | _ => exact .inl rfl

/-- Behind nested brackets the same brackets are missing as before them. -/
theorem Nested.missing_eq (h : Nested ts) (missing : List TypeToken) :
    missingBehind missing ts = some missing := by
  induction h generalizing missing with
  | nil => rfl
  | other h _ ih => rw [missingBehind_cons, missingAfter_other h, Option.bind_some, ih]
  | @pair o c inner rest h _ _ ihi ihr =>
    rw [missingBehind_cons, missingAfter_open h, Option.bind_some, missingBehind_append, ihi,
      Option.bind_some, missingBehind_cons, missingAfter_close h, close, if_pos rfl,
      Option.bind_some, ihr]

/-- The tokens close the missing brackets one by one, and what they open besides. -/
def Closes : List TypeToken → List TypeToken → Prop
  | [], ts => Nested ts
  | c :: missing, ts => ∃ inner rest, ts = inner ++ c :: rest ∧ Nested inner ∧ Closes missing rest

theorem Closes.prepend (ht : Nested ts) (hu : Closes missing us) : Closes missing (ts ++ us) := by
  cases missing with
  | nil => exact ht.append hu
  | cons c missing =>
    obtain ⟨inner, rest, rfl, hi, hr⟩ := hu
    exact ⟨ts ++ inner, rest, (List.append_assoc ..).symm, ht.append hi, hr⟩

theorem closes_of_missing (h : missingBehind missing ts = some []) : Closes missing ts := by
  induction ts generalizing missing with
  | nil =>
    cases h
    exact .nil
  | cons t ts ih =>
    obtain ⟨more, ht, hts⟩ := Option.bind_eq_some_iff.mp h
    rcases bracket_cases t with hb | ⟨c, hb⟩ | ⟨o, hb⟩
    · obtain rfl := Option.some.inj ((missingAfter_other hb).symm.trans ht)
      exact (ih hts).prepend (.other hb .nil)
    · obtain rfl := Option.some.inj ((missingAfter_open hb).symm.trans ht)
      obtain ⟨inner, rest, rfl, hi, hr⟩ := ih hts
      have hpair : Nested (t :: (inner ++ [c])) := .pair hb hi .nil
      simpa using hr.prepend hpair
    · rw [missingAfter_close hb] at ht
      cases missing with
      | nil => cases ht
      | cons c missing =>
        rw [close] at ht
        split at ht
        next hc =>
          subst hc
          obtain rfl := Option.some.inj ht
          exact ⟨[], ts, rfl, .nil, ih hts⟩
        next => cases ht

theorem nested_iff_missing : Nested ts ↔ missingBehind [] ts = some [] :=
  ⟨fun h => h.missing_eq [], closes_of_missing⟩

instance : DecidablePred Nested := fun _ => decidable_of_iff _ nested_iff_missing.symm

end Missing

/-! ### Kinds that fit -/

/-- The token with the kind of its bracket forgotten. -/
def round : TypeToken → TypeToken
  | .lt => .lparen
  | .gt => .rparen
  | t => t

/-- Whatever is open before the tokens is open behind them if `p` holds, and if not, then one of
them closes a bracket of the other kind. -/
def Neutral (p : Prop) (ts : List TypeToken) : Prop :=
  ∀ missing, (p → missingBehind missing ts = some missing) ∧
    (¬ p → missingBehind missing ts = none)

section Neutral

variable {p q : Prop} {o c t : TypeToken} {ts us inner : List TypeToken}

theorem Neutral.nested_iff (h : Neutral p ts) : Nested ts ↔ p := by
  rw [nested_iff_missing]
  refine ⟨fun hts => Classical.byContradiction fun hp => ?_, (h []).1⟩
  rw [(h []).2 hp] at hts
  cases hts

theorem Nested.neutral (h : Nested ts) (hp : p) : Neutral p ts := fun missing =>
  ⟨fun _ => h.missing_eq missing, fun hn => absurd hp hn⟩

theorem Neutral.congr (h : Neutral p ts) (hpq : p ↔ q) : Neutral q ts := propext hpq ▸ h

theorem Neutral.append (ht : Neutral p ts) (hu : Neutral q us) : Neutral (p ∧ q) (ts ++ us) := by
  intro missing
  rw [missingBehind_append]
  refine ⟨fun h => ?_, fun h => ?_⟩
  · rw [(ht missing).1 h.1, Option.bind_some, (hu missing).1 h.2]
  · by_cases hp : p
    · rw [(ht missing).1 hp, Option.bind_some, (hu missing).2 fun hq => h ⟨hp, hq⟩]
    · rw [(ht missing).2 hp, Option.bind_none]

theorem Neutral.cons (hb : isBracket t = false) (h : Neutral p ts) : Neutral p (t :: ts) := by
  intro missing
  rw [missingBehind_cons, missingAfter_other hb]
  exact h missing

/-- A pair of one kind around tokens adds nothing that could fail. -/
theorem Neutral.enclosed (hb : Brackets o c) (h : Neutral p inner) :
    Neutral p (o :: (inner ++ [c])) := by
  intro missing
  rw [missingBehind_cons, missingAfter_open hb, Option.bind_some, missingBehind_append]
  refine ⟨fun hp => ?_, fun hp => ?_⟩
  · rw [(h _).1 hp, Option.bind_some, missingBehind_cons, missingAfter_close hb, close, if_pos rfl]
    rfl
  · rw [(h _).2 hp, Option.bind_none]

theorem isBracket_round (t : TypeToken) : isBracket (round t) = isBracket t := by
  cases t <;> rfl

/-- What opens or closes once the kinds are forgotten did so before. -/
theorem opens_of_round {t d : TypeToken} (h : Brackets (round t) d) : ∃ c, Brackets t c := by
  cases t with
  | lparen => exact ⟨_, .round⟩
  | lt => exact ⟨_, .angle⟩
  | _ => cases h

theorem closes_of_round {t d : TypeToken} (h : Brackets d (round t)) : ∃ o, Brackets o t := by
  cases t with
  | rparen => exact ⟨_, .round⟩
  | gt => exact ⟨_, .angle⟩
  | _ => cases h

/-- Brackets that are nested once their kinds are forgotten never close what was open before. -/
theorem neutral_of_round (h : Nested (ts.map round)) : Neutral (Nested ts) ts := by
  have hrun : (∀ missing, missingBehind missing ts = some missing) ∨
      ∀ missing, missingBehind missing ts = none := by
    generalize hk : ts.map round = ks at h
    induction h generalizing ts with
    | nil =>
      obtain rfl := List.map_eq_nil_iff.mp hk
      exact .inl fun _ => rfl
    | other hb _ ih =>
      obtain ⟨t, ts, rfl, rfl, hts⟩ := List.map_eq_cons_iff.mp hk
      rw [isBracket_round] at hb
      simp only [missingBehind_cons, missingAfter_other hb, Option.bind_some]
      exact ih hts
    | pair hb _ _ ihi ihr =>
      obtain ⟨o, ts, rfl, rfl, hts⟩ := List.map_eq_cons_iff.mp hk
      obtain ⟨inner, ts, rfl, hinner, hts⟩ := List.map_eq_append_iff.mp hts
      obtain ⟨c, rest, rfl, rfl, hrest⟩ := List.map_eq_cons_iff.mp hts
      obtain ⟨d, ho⟩ := opens_of_round hb
      obtain ⟨_, hc⟩ := closes_of_round hb
      simp only [missingBehind_cons, missingBehind_append, missingAfter_open ho, Option.bind_some]
      -- A mistake inside stays one, and so does a closing bracket of the other kind.
      rcases ihi hinner with hi | hi
      · simp only [hi, Option.bind_some, missingAfter_close hc, close]
        by_cases hd : d = c
        · simp only [if_pos hd, Option.bind_some]
          exact ihr hrest
        · exact .inr fun _ => by rw [if_neg hd, Option.bind_none]
      · exact .inr fun _ => by rw [hi, Option.bind_none]
  rcases hrun with hrun | hrun
  · have hn : Nested ts := nested_iff_missing.mpr (hrun [])
    exact hn.neutral hn
  · intro missing
    refine ⟨fun hn => ?_, fun _ => hrun missing⟩
    rw [nested_iff_missing, hrun []] at hn
    cases hn

end Neutral

end TypeGrammar

end StreamPipeline
