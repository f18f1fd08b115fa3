import Mathlib.Data.List.Induction
import Mathlib.Data.Nat.Find
import StreamPipeline.Draft.Placeholder
import StreamPipeline.Proofs.Text.Spans

/-! # Placeholders and what they are replaced by

A text is cut at its leftmost placeholders in exactly one way. Replacing writes the values between
the same characters, and the names that have no value are reported in the order in which they occur.
-/

namespace StreamPipeline.Placeholders

/-! ### The cuts of a text -/

/-- The names that a placeholder may have. -/
def IsVariableName (name : String) : Prop := name ≠ "" ∧ ∀ c ∈ name.toList, Text.isWord c = true

/-- The characters of a placeholder. -/
def placeholderChars (name : String) : List Char :=
  "<<<".toList ++ (name.toList ++ ">>>".toList)

/-- A placeholder stands behind the characters `before`. -/
structure PlaceholderAt (cs before : List Char) (name : String) (after : List Char) : Prop where
  isName : IsVariableName name
  text : cs = before ++ (placeholderChars name ++ after)

/-- The text is cut at its first placeholder, and what follows that at its first one again. What is
left has none. -/
inductive Cuts : List Char → List (List Char × String) → List Char → Prop where
  | done {cs : List Char} : (∀ before name after, ¬ PlaceholderAt cs before name after) →
      Cuts cs [] cs
  | cut {cs before after tail : List Char} {name : String} {ps : List (List Char × String)} :
      PlaceholderAt cs before name after →
      (∀ b n a, PlaceholderAt cs b n a → before.length ≤ b.length) → Cuts after ps tail →
      Cuts cs ((before, name) :: ps) tail

/-- The text with something put in at each cut. -/
def fill (f : String → List Char) (ps : List (List Char × String)) (tail : List Char) : List Char :=
  ps.flatMap (fun p => p.1 ++ f p.2) ++ tail

theorem placeholder?_eq_some_iff {cs after : List Char} {name : String} :
    Piece.placeholder? cs = some (name, after) ↔ PlaceholderAt cs [] name after := by
  constructor
  · intro h
    unfold Piece.placeholder? at h
    split at h
    next rest =>
      dsimp only at h
      split at h
      next more hmore =>
        split at h
        · cases h
        next hne =>
          cases h
          refine ⟨⟨?_, fun c hc => ?_⟩, ?_⟩
          · intro he
            rw [String.ofList_eq_empty_iff] at he
            simp [he] at hne
          · rw [String.toList_ofList] at hc
            exact List.all_eq_true.mp List.all_takeWhile c hc
          · have hsplit := List.takeWhile_append_dropWhile (p := Text.isWord) (l := rest)
            rw [hmore] at hsplit
            simpa [placeholderChars] using hsplit.symm
      next => cases h
    next => cases h
  · rintro ⟨⟨hne, hword⟩, rfl⟩
    have hstop : ∀ c ∈ ('>' :: '>' :: '>' :: after).head?, Text.isWord c = false := by
      rintro c ⟨⟩
      decide
    have hname : name.toList ≠ [] := fun h => hne (String.toList_eq_nil_iff.mp h)
    simp [Piece.placeholder?, placeholderChars, Text.takeWhile_stop hword hstop,
      Text.dropWhile_stop hword hstop, hne]

theorem PlaceholderAt.cons {cs before after : List Char} {name : String}
    (h : PlaceholderAt cs before name after) (c : Char) :
    PlaceholderAt (c :: cs) (c :: before) name after :=
  ⟨h.isName, congrArg (c :: ·) h.text⟩

/-- At one place stands one placeholder. -/
theorem PlaceholderAt.unique {cs b b' a a' : List Char} {n n' : String}
    (h : PlaceholderAt cs b n a) (h' : PlaceholderAt cs b' n' a') (hl : b.length = b'.length) :
    b = b' ∧ n = n' ∧ a = a' := by
  obtain ⟨rfl, hrest⟩ := List.append_inj (h.text.symm.trans h'.text) hl
  have hfirst : Piece.placeholder? (placeholderChars n ++ a) = some (n, a) :=
    placeholder?_eq_some_iff.mpr ⟨h.isName, rfl⟩
  have hsecond : Piece.placeholder? (placeholderChars n ++ a) = some (n', a') :=
    placeholder?_eq_some_iff.mpr ⟨h'.isName, hrest⟩
  rw [hfirst] at hsecond
  cases hsecond
  exact ⟨rfl, rfl, rfl⟩

theorem PlaceholderAt.length_lt {cs before after : List Char} {name : String}
    (h : PlaceholderAt cs before name after) : after.length < cs.length := by
  rw [h.text]
  simp [placeholderChars]
  omega

/-- Every text can be cut. -/
theorem exists_cuts (cs : List Char) : ∃ ps tail, Cuts cs ps tail := by
  induction hn : cs.length using Nat.strongRecOn generalizing cs with
  | _ n ih =>
  subst hn
  by_cases h : ∃ k before name after, PlaceholderAt cs before name after ∧ before.length = k
  · classical
    obtain ⟨before, name, after, hat, hk⟩ := Nat.find_spec h
    have hfirst : ∀ b n a, PlaceholderAt cs b n a → before.length ≤ b.length := fun b n a hb =>
      hk ▸ Nat.find_min' h ⟨b, n, a, hb, rfl⟩
    obtain ⟨ps, tail, hcuts⟩ := ih after.length hat.length_lt after rfl
    exact ⟨_, tail, .cut hat hfirst hcuts⟩
  · exact ⟨[], cs, .done fun before name after hat => h ⟨_, before, name, after, hat, rfl⟩⟩

namespace Cuts

/-- A text can be cut in one way. -/
theorem unique {cs tail tail' : List Char} {ps ps' : List (List Char × String)}
    (h : Cuts cs ps tail) (h' : Cuts cs ps' tail') : ps' = ps ∧ tail' = tail := by
  induction h generalizing ps' tail' with
  | done hnone =>
    cases h' with
    | done => exact ⟨rfl, rfl⟩
    | cut hat => exact absurd hat (hnone _ _ _)
  | cut hat hfirst _ ih =>
    cases h' with
    | done hnone => exact absurd hat (hnone _ _ _)
    | cut hat' hfirst' hcuts =>
      have hl := Nat.le_antisymm (hfirst _ _ _ hat') (hfirst' _ _ _ hat)
      obtain ⟨rfl, rfl, rfl⟩ := hat.unique hat' hl
      obtain ⟨rfl, rfl⟩ := ih hcuts
      exact ⟨rfl, rfl⟩

/-- A cut text is what stands between its placeholders, and these. -/
theorem text_eq {cs tail : List Char} {ps : List (List Char × String)} (h : Cuts cs ps tail) :
    cs = fill placeholderChars ps tail := by
  induction h with
  | done => rfl
  | cut hat _ _ ih => simp [hat.text, ih, fill]

end Cuts

/-! ### The pieces of a cut text -/

/-- Characters in front of the first placeholder stay. -/
theorem ofChars_append {before rest : List Char} (h : ∀ b n a,
    PlaceholderAt (before ++ rest) b n a → before.length ≤ b.length) {fuel : Nat}
    (hf : (before ++ rest).length ≤ fuel) : Piece.ofChars fuel (before ++ rest) =
      before.map .char ++ Piece.ofChars (fuel - before.length) rest := by
  induction before generalizing fuel with
  | nil => rfl
  | cons c before ih =>
    have hnone : Piece.placeholder? (c :: (before ++ rest)) = none := by
      cases hp : Piece.placeholder? (c :: (before ++ rest)) with
      | none => rfl
      | some p => exact absurd (h [] _ _ (placeholder?_eq_some_iff.mp hp)) (by simp)
    have hrest : ∀ b n a, PlaceholderAt (before ++ rest) b n a → before.length ≤ b.length :=
      fun b n a hb => by simpa using h _ n a (hb.cons c)
    cases fuel with
    | zero => cases hf
    | succ fuel =>
      rw [List.cons_append, Piece.ofChars, hnone, List.map_cons, List.cons_append,
        List.length_cons, Nat.add_sub_add_right]
      exact congrArg _ (ih hrest (Nat.le_of_succ_le_succ hf))

/-- The pieces of a cut text: its characters, and its placeholders where it is cut. -/
def cutPieces (ps : List (List Char × String)) (tail : List Char) : List Piece :=
  ps.flatMap (fun p => p.1.map .char ++ [.placeholder p.2]) ++ tail.map .char

theorem ofChars_nil (fuel : Nat) : Piece.ofChars fuel [] = [] := by
  cases fuel <;> rfl

theorem ofChars_placeholder {cs after : List Char} {name : String}
    (h : PlaceholderAt cs [] name after) {fuel : Nat} (hf : cs.length ≤ fuel) :
    ∃ k, after.length ≤ k ∧
      Piece.ofChars fuel cs = .placeholder name :: Piece.ofChars k after := by
  have hl := h.length_lt
  cases fuel with
  | zero => omega
  | succ fuel =>
    refine ⟨fuel, by omega, ?_⟩
    cases cs with
    | nil => cases hl
    | cons c cs => rw [Piece.ofChars, placeholder?_eq_some_iff.mpr h]

theorem ofChars_cuts {cs tail : List Char} {ps : List (List Char × String)} (h : Cuts cs ps tail)
    {fuel : Nat} (hf : cs.length ≤ fuel) : Piece.ofChars fuel cs = cutPieces ps tail := by
  induction h generalizing fuel with
  | @done cs hnone =>
    have hnone' : ∀ b n a, PlaceholderAt (cs ++ []) b n a → cs.length ≤ b.length := fun b n a hb =>
      absurd (cs.append_nil ▸ hb) (hnone b n a)
    have hall : Piece.ofChars fuel (cs ++ []) = _ :=
      ofChars_append hnone' (by rwa [List.append_nil])
    rwa [List.append_nil, ofChars_nil, List.append_nil] at hall
  | @cut cs before after tail name ps hat hfirst _ ih =>
    have htext := hat.text
    subst htext
    rw [ofChars_append hfirst hf]
    have hstart : PlaceholderAt (placeholderChars name ++ after) [] name after := ⟨hat.isName, rfl⟩
    have hrest : (placeholderChars name ++ after).length ≤ fuel - before.length := by
      rw [List.length_append] at hf
      omega
    obtain ⟨k, hk, hpieces⟩ := ofChars_placeholder hstart hrest
    rw [hpieces, ih hk]
    simp [cutPieces]

theorem ofText_cuts {text : String} {tail : List Char} {ps : List (List Char × String)}
    (h : Cuts text.toList ps tail) : Piece.ofText text = cutPieces ps tail :=
  ofChars_cuts h (Nat.le_of_eq String.length_toList)

theorem cutPieces_cons (p : List Char × String) (ps : List (List Char × String))
    (tail : List Char) : cutPieces (p :: ps) tail =
      p.1.map .char ++ .placeholder p.2 :: cutPieces ps tail := by
  simp [cutPieces]

theorem names_cutPieces (ps : List (List Char × String)) (tail : List Char) :
    (cutPieces ps tail).filterMap Piece.name? = ps.map (·.2) := by
  have hchars (cs : List Char) : (cs.map Piece.char).filterMap Piece.name? = [] := by
    simp [List.filterMap_map, Function.comp_def, Piece.name?]
  induction ps with
  | nil => exact hchars tail
  | cons p ps ih =>
    rw [cutPieces_cons, List.filterMap_append, hchars, List.nil_append, List.map_cons, ← ih]
    rfl

/-- The pieces as they are written, where each name has a value. -/
theorem write_cutPieces {value? : String → Option String} {value : String → String}
    {ps : List (List Char × String)} (h : ∀ p ∈ ps, value? p.2 = some (value p.2))
    (tail : List Char) : (String.join ((cutPieces ps tail).map (Piece.write value?))).toList =
      fill (fun name => (value name).toList) ps tail := by
  have hchars (cs : List Char) :
      ((cs.map Piece.char).map (Piece.write value?)).flatMap String.toList = cs := by
    simp [List.flatMap_map, Function.comp_def, Piece.write]
  rw [String.toList_join]
  induction ps with
  | nil => exact hchars tail
  | cons p ps ih =>
    have hp : Piece.write value? (.placeholder p.2) = value p.2 := by
      rw [Piece.write, h p List.mem_cons_self, Option.getD_some]
    have hps := ih fun q hq => h q (List.mem_cons_of_mem p hq)
    rw [cutPieces_cons, List.map_append, List.map_cons, List.flatMap_append, List.flatMap_cons,
      hchars, hp, hps]
    simp [fill]

/-! ### Each name once -/

theorem firstOccurrences_concat (names : List String) (n : String) :
    firstOccurrences (names ++ [n]) =
      if n ∈ firstOccurrences names then firstOccurrences names
      else firstOccurrences names ++ [n] := by
  simp [firstOccurrences, List.foldl_append]

theorem mem_firstOccurrences {names : List String} {n : String} :
    n ∈ firstOccurrences names ↔ n ∈ names := by
  induction names using List.reverseRecOn with
  | nil => rfl
  | append_singleton names m ih =>
    rw [firstOccurrences_concat]
    split
    next hm =>
      rw [ih, List.mem_append, List.mem_singleton]
      refine ⟨.inl, fun h => h.elim id ?_⟩
      rintro rfl
      exact ih.mp hm
    next => rw [List.mem_append, List.mem_append, ih]

theorem firstOccurrences_filter (p : String → Bool) (names : List String) :
    firstOccurrences (names.filter p) = (firstOccurrences names).filter p := by
  induction names using List.reverseRecOn with
  | nil => rfl
  | append_singleton names n ih =>
    rw [List.filter_append, firstOccurrences_concat]
    cases hp : p n with
    | true =>
      have hn : n ∈ firstOccurrences (names.filter p) ↔ n ∈ firstOccurrences names := by
        simp [ih, hp]
      rw [List.filter_cons_of_pos hp, List.filter_nil, firstOccurrences_concat]
      by_cases h : n ∈ firstOccurrences names
      · rw [if_pos (hn.mpr h), if_pos h, ih]
      · rw [if_neg (mt hn.mp h), if_neg h, ih, List.filter_append, List.filter_cons_of_pos hp,
          List.filter_nil]
    | false =>
      rw [List.filter_cons_of_neg (by simp [hp]), List.filter_nil, List.append_nil, ih]
      split
      · rfl
      · rw [List.filter_append, List.filter_cons_of_neg (by simp [hp]), List.filter_nil,
          List.append_nil]

/-- Names in the order in which they first occur. -/
theorem pairwise_firstOccurrences (names : List String) :
    (firstOccurrences names).Pairwise fun m n => names.idxOf m < names.idxOf n := by
  induction names using List.reverseRecOn with
  | nil => exact .nil
  | append_singleton names n ih =>
    have hold : (firstOccurrences names).Pairwise
        fun m k => (names ++ [n]).idxOf m < (names ++ [n]).idxOf k := by
      refine ih.imp_of_mem fun hm hk h => ?_
      rwa [List.idxOf_append, List.idxOf_append, if_pos (mem_firstOccurrences.mp hm),
        if_pos (mem_firstOccurrences.mp hk)]
    rw [firstOccurrences_concat]
    split
    · exact hold
    next hn =>
      refine List.pairwise_append.mpr ⟨hold, List.pairwise_singleton .., fun m hm k hk => ?_⟩
      obtain rfl := List.mem_singleton.mp hk
      have hm := mem_firstOccurrences.mp hm
      have hlt := List.idxOf_lt_length_of_mem hm
      rw [List.idxOf_append, List.idxOf_append, if_pos hm, if_neg (mt mem_firstOccurrences.mpr hn)]
      omega

/-- The names that have no value, each once and in the order in which they first occur. -/
structure Unset (env : Environment) (names missing : List String) : Prop where
  mem_iff : ∀ n, n ∈ missing ↔ n ∈ names ∧ env.value? n = none
  nodup : missing.Nodup
  ordered : missing.Pairwise fun m n => names.idxOf m < names.idxOf n

theorem unset_firstOccurrences (env : Environment) (names : List String) : Unset env names
    (firstOccurrences (names.filter fun n => (env.value? n).isNone)) := by
  rw [firstOccurrences_filter]
  have hordered := (pairwise_firstOccurrences names).filter fun n => (env.value? n).isNone
  refine ⟨fun n => ?_, hordered.imp ?_, hordered⟩
  · rw [List.mem_filter, mem_firstOccurrences, Option.isNone_iff_eq_none]
  · rintro m k h rfl
    exact Nat.lt_irrefl _ h

/-! ### Replacing -/

/-- A text is cut at its placeholders in exactly one way. If all their names have values, these
replace them and all other characters stay. Otherwise the names without a value are reported. -/
theorem substitute_cuts (env : Environment) (text : String) : ∃ ps tail,
    Cuts text.toList ps tail ∧
    (∀ ps' tail', Cuts text.toList ps' tail' → ps' = ps ∧ tail' = tail) ∧
    text.toList = fill placeholderChars ps tail ∧
    (∀ value : String → String, (∀ p ∈ ps, env.value? p.2 = some (value p.2)) →
      substitute env text = .ok (String.ofList (fill (fun name => (value name).toList) ps tail))) ∧
    ((∃ p ∈ ps, env.value? p.2 = none) → ∃ missing, Unset env (ps.map (·.2)) missing ∧
      substitute env text = .error (.unresolvedPlaceholders missing)) := by
  obtain ⟨ps, tail, h⟩ := exists_cuts text.toList
  refine ⟨ps, tail, h, fun ps' tail' h' => h.unique h', h.text_eq, fun value hv => ?_, ?_⟩
  · have hset : (ps.map (·.2)).filter (fun n => (env.value? n).isNone) = [] := by
      simp only [List.filter_eq_nil_iff, List.forall_mem_map]
      exact fun p hp => by simp [hv p hp]
    unfold substitute
    simp only [ofText_cuts h, names_cutPieces, hset]
    rw [← write_cutPieces hv, String.ofList_toList]
    rfl
  · rintro ⟨p, hp, hnone⟩
    have hunset := unset_firstOccurrences env (ps.map (·.2))
    refine ⟨_, hunset, ?_⟩
    have hmem := (hunset.mem_iff p.2).mpr ⟨List.mem_map_of_mem hp, hnone⟩
    unfold substitute
    simp only [ofText_cuts h, names_cutPieces]
    split
    next hnil => rw [hnil] at hmem; cases hmem
    next => rfl

-- A value is not read again, even where it completes a placeholder.
example : substitute [("A", "<<<B>>>"), ("B", "b")] "<<<<A>>>> <<<<<<B>>>>>> <<< B>>>" =
    .ok "<<<<B>>>> <<<b>>> <<< B>>>" := by cbv

end StreamPipeline.Placeholders
