import Mathlib
import StreamPipeline.Proofs.Sql.Written
import StreamPipeline.Proofs.Text.Trimming
import StreamPipeline.Sql.Interval

/-! # Units of interval shorthand

A shorthand is a run of digits and a spelling of a unit in any case, with blanks around them. Which
texts are shorthands is decided with the case of Unicode, and which unit is meant with the case of
ASCII alone. The two agree except on the long s, the one letter beyond ASCII in which a unit can be
spelled: with it every unit is read as a day.
-/

namespace StreamPipeline.Sql

open Text

/-- The characters that match a small letter of ASCII when case does not matter: the letter, its
capital, and for two letters a character of their own. -/
inductive SameLetter : Char → Char → Prop
  | small (l : Char) : SameLetter l l
  | capital (l : Char) : SameLetter l.toUpper l
  | longS : SameLetter 'ſ' 's'
  | kelvin : SameLetter '\u212A' 'k'

/-- The text spells the unit, in any case. -/
def IntervalUnit.Spelled (unit : IntervalUnit) (text : List Char) : Prop :=
  ∃ word ∈ unit.spellings, List.Forall₂ SameLetter text word.toList

/-- A value that is a shorthand, with the digits and the spelling of the unit in it. -/
structure Shorthand (value : String) (digits : List Char) (unit : IntervalUnit)
    (spelling : List Char) : Prop where
  parts : ∃ before between after, value.toList = before ++ digits ++ between ++ spelling ++ after ∧
    (∀ c ∈ before, isBlank c = true) ∧ (∀ c ∈ between, isBlank c = true) ∧
    ∀ c ∈ after, isBlank c = true
  some_digit : digits ≠ []
  digits_only : ∀ c ∈ digits, isDigit c = true
  spelled : unit.Spelled spelling

/-- The literal of an interval of so many units. -/
def intervalLiteral (digits : List Char) (unit : IntervalUnit) : String :=
  "INTERVAL '" ++ String.ofList digits ++ "' " ++ unit.name

theorem intervalLiteral_inj {digits : List Char} {unit other : IntervalUnit} :
    intervalLiteral digits unit = intervalLiteral digits other ↔ unit = other := by
  refine ⟨fun h => ?_, fun h => h ▸ rfl⟩
  have hname : unit.name = other.name := by
    have hchars := congrArg String.toList h
    simp only [intervalLiteral, String.toList_append] at hchars
    exact String.toList_inj.mp (List.append_cancel_left hchars)
  revert hname
  cases unit <;> cases other <;> decide

/-! ### Letters -/

theorem isLower_iff {c : Char} : c.isLower = true ↔ 97 ≤ c.toNat ∧ c.toNat ≤ 122 := by
  simp [Char.isLower, UInt32.le_iff_toNat_le]

theorem isUpper_iff {c : Char} : c.isUpper = true ↔ 65 ≤ c.toNat ∧ c.toNat ≤ 90 := by
  simp [Char.isUpper, UInt32.le_iff_toNat_le]

theorem isUpper_toUpper {l : Char} (hl : l.isLower = true) : l.toUpper.isUpper = true := by
  rw [Char.isUpper_toUpper_eq_isAlpha, Char.isAlpha, hl, Bool.or_true]

theorem toLower_eq_iff {c l : Char} (hl : l.isLower = true) :
    c.toLower = l ↔ c = l ∨ c = l.toUpper := by
  have hsmall : l.toLower = l := Char.toLower_eq_of_not_isUpper (Char.not_isUpper_of_isLower hl)
  constructor
  · rintro rfl
    by_cases hc : c.isUpper = true
    · right
      rw [Char.toUpper_toLower_eq_toUpper,
        Char.toUpper_eq_of_not_isLower (Char.not_isLower_of_isUpper hc)]
    · exact .inl (Char.toLower_eq_of_not_isUpper hc).symm
  · rintro (rfl | rfl)
    · exact hsmall
    · rw [Char.toLower_toUpper_eq_toLower, hsmall]

theorem isDigit_of_isBlank {c : Char} (h : isBlank c = true) : isDigit c = false := by
  have hword := Scan.isWordChar_of_isBlank h
  unfold Scan.isWordChar isAlphanumeric at hword
  unfold isDigit
  by_cases hascii : c.toNat < 128
  · simp_all [Char.isAlphanum]
  · simp only [hascii, if_false, Bool.or_eq_false_iff] at hword ⊢
    exact hword.1.1.2

/-- A small letter that units are spelled with; none of them has a `k`. -/
def IsUnitLetter (l : Char) : Prop := l.isLower = true ∧ l ≠ 'k'

instance (l : Char) : Decidable (IsUnitLetter l) := inferInstanceAs (Decidable (_ ∧ _))

theorem fold_eq_iff {c l : Char} (hl : IsUnitLetter l) :
    IntervalUnit.fold c = l ↔ SameLetter c l := by
  obtain ⟨hsmall, hk⟩ := hl
  unfold IntervalUnit.fold
  constructor
  · intro h
    split at h
    next hs =>
      obtain rfl : c = 'ſ' := Char.toNat_inj.mp hs
      rw [← h]
      exact .longS
    next =>
      rcases (toLower_eq_iff hsmall).mp h with rfl | rfl
      · exact .small _
      · exact .capital _
  · intro h
    cases h with
    | small =>
      have hrange := isLower_iff.mp hsmall
      rw [if_neg (by omega)]
      exact (toLower_eq_iff hsmall).mpr (.inl rfl)
    | capital =>
      have hrange := isUpper_iff.mp (isUpper_toUpper hsmall)
      rw [if_neg (by omega)]
      exact (toLower_eq_iff hsmall).mpr (.inr rfl)
    | longS => rfl
    | kelvin => exact absurd rfl hk

theorem SameLetter.toNat_range {c l : Char} (h : SameLetter c l) (hl : IsUnitLetter l) :
    c = 'ſ' ∨ (65 ≤ c.toNat ∧ c.toNat ≤ 122) := by
  obtain ⟨hsmall, hk⟩ := hl
  cases h with
  | small =>
    have hrange := isLower_iff.mp hsmall
    exact .inr (by omega)
  | capital =>
    have hrange := isUpper_iff.mp (isUpper_toUpper hsmall)
    exact .inr (by omega)
  | longS => exact .inl rfl
  | kelvin => exact absurd rfl hk

theorem SameLetter.not_isDigit {c l : Char} (h : SameLetter c l) (hl : IsUnitLetter l) :
    isDigit c = false := by
  rcases h.toNat_range hl with rfl | hc
  · decide
  · have hval : 65 ≤ c.val.toNat := hc.1
    have hascii : c.toNat < 128 := by omega
    simp only [isDigit, hascii, if_true, Char.isDigit, Bool.and_eq_false_iff,
      decide_eq_false_iff_not, ge_iff_le, UInt32.le_iff_toNat_le]
    exact .inr (Nat.not_le.mpr (Nat.lt_of_lt_of_le (by decide) hval))

theorem SameLetter.not_isBlank {c l : Char} (h : SameLetter c l) (hl : IsUnitLetter l) :
    isBlank c = false := by
  rcases h.toNat_range hl with rfl | hc
  · decide
  · simp only [isBlank, Bool.or_eq_false_iff, Bool.and_eq_false_iff, beq_eq_false_iff_ne,
      decide_eq_false_iff_not]
    omega

/-! ### Spellings -/

namespace IntervalUnit

theorem isUnitLetter_of_mem {unit : IntervalUnit} {word : String} (h : word ∈ unit.spellings) :
    ∀ l ∈ word.toList, IsUnitLetter l := by
  have hall : ∀ w ∈ unit.spellings, w.toList.all (fun l => decide (IsUnitLetter l)) = true := by
    cases unit <;> decide
  exact fun l hl => of_decide_eq_true (List.all_eq_true.mp (hall word h) l hl)

theorem mem_allSpellings {word : String} :
    word ∈ allSpellings ↔ ∃ unit : IntervalUnit, word ∈ unit.spellings := by
  simp only [allSpellings, List.mem_append]
  constructor
  · rintro (((h | h) | h) | h) <;> exact ⟨_, h⟩
  · rintro ⟨_ | _ | _ | _, h⟩ <;> simp [h]

theorem map_fold_eq_iff {text word : List Char} (hw : ∀ l ∈ word, IsUnitLetter l) :
    text.map fold = word ↔ List.Forall₂ SameLetter text word := by
  induction word generalizing text with
  | nil => simp
  | cons l word ih =>
    cases text with
    | nil => simp
    | cons c text =>
      rw [List.map_cons, List.cons.injEq, List.forall₂_cons, fold_eq_iff (hw l (by simp)),
        ih fun m hm => hw m (by simp [hm])]

theorem spelled_of_fold {unit : IntervalUnit} {text : List Char} (word : String)
    (hmem : word ∈ unit.spellings) (h : text.map fold = word.toList) : unit.Spelled text :=
  ⟨word, hmem, (map_fold_eq_iff (isUnitLetter_of_mem hmem)).mp h⟩

theorem isSpelling_iff {text : List Char} :
    isSpelling text = true ↔ ∃ unit : IntervalUnit, unit.Spelled text := by
  rw [isSpelling, List.contains_iff_mem, mem_allSpellings]
  refine exists_congr fun unit => ⟨fun h => ?_, fun ⟨word, hmem, hword⟩ => ?_⟩
  · exact spelled_of_fold _ h String.toList_ofList.symm
  · have hfold := (map_fold_eq_iff (isUnitLetter_of_mem hmem)).mpr hword
    rwa [hfold, String.ofList_toList]

theorem Spelled.ne_nil {unit : IntervalUnit} {text : List Char} (h : unit.Spelled text) :
    text ≠ [] := by
  rintro rfl
  obtain ⟨word, hmem, hword⟩ := h
  have hnone : ∀ w ∈ unit.spellings, w.toList ≠ [] := by cases unit <;> decide
  exact hnone word hmem (List.forall₂_nil_left_iff.mp hword)

theorem Spelled.letter {unit : IntervalUnit} {text : List Char} (h : unit.Spelled text) :
    ∀ c ∈ text, isDigit c = false ∧ isBlank c = false := by
  obtain ⟨word, hmem, hword⟩ := h
  intro c hc
  have hfold := (map_fold_eq_iff (isUnitLetter_of_mem hmem)).mpr hword
  have hletter := isUnitLetter_of_mem hmem (fold c) (hfold ▸ List.mem_map_of_mem hc)
  have hsame : SameLetter c (fold c) := (fold_eq_iff hletter).mp rfl
  exact ⟨hsame.not_isDigit hletter, hsame.not_isBlank hletter⟩

/-- The long s has no other case in ASCII, and no spelling has it. -/
theorem ofSpelling_of_longS {text : List Char} (h : 'ſ' ∈ text) : ofSpelling text = day := by
  have hlower : 'ſ' ∈ text.map Char.toLower := List.mem_map.mpr ⟨'ſ', h, by decide⟩
  have hnone : ∀ unit : IntervalUnit,
      unit.spellings.contains (String.ofList (text.map Char.toLower)) = false := by
    intro unit
    by_contra hc
    rw [Bool.not_eq_false, List.contains_iff_mem] at hc
    have hletter := isUnitLetter_of_mem hc 'ſ' (by rwa [String.toList_ofList])
    exact absurd hletter (by decide)
  simp only [ofSpelling, hnone, Bool.false_eq_true, if_false]

theorem ofSpelling_of_spelled {unit : IntervalUnit} {text : List Char} (h : unit.Spelled text)
    (hs : 'ſ' ∉ text) : ofSpelling text = unit := by
  obtain ⟨word, hmem, hword⟩ := h
  have hfold : text.map Char.toLower = text.map fold := by
    refine List.map_congr_left fun c hc => (if_neg fun hn => hs ?_).symm
    rwa [← (Char.toNat_inj.mp hn : c = 'ſ')]
  have hlower : String.ofList (text.map Char.toLower) = word := by
    rw [hfold, (map_fold_eq_iff (isUnitLetter_of_mem hmem)).mpr hword, String.ofList_toList]
  have hunit : ∀ w ∈ unit.spellings, (if second.spellings.contains w then second
      else if minute.spellings.contains w then minute
      else if hour.spellings.contains w then hour else day) = unit := by
    cases unit <;> decide
  simp only [ofSpelling, hlower]
  exact hunit word hmem

end IntervalUnit

/-! ### Shorthands -/

theorem exists_shorthand {value : String} {digits spelling : List Char}
    (h : shorthand? value = some (digits, spelling)) :
    ∃ unit, Shorthand value digits unit spelling := by
  simp only [shorthand?] at h
  split at h
  next hc =>
    simp only [Bool.and_eq_true, Bool.not_eq_true', List.isEmpty_eq_false_iff] at hc
    obtain ⟨hne, hspelling⟩ := hc
    obtain ⟨unit, hunit⟩ := IntervalUnit.isSpelling_iff.mp hspelling
    obtain ⟨hdigits, htext⟩ := Prod.mk.inj (Option.some.inj h)
    subst hdigits htext
    obtain ⟨between, after, hrest, hbetween, hafter, -⟩ :=
      padded_trimChars ((trimStartChars value.toList).dropWhile isDigit)
    refine ⟨unit, ⟨value.toList.takeWhile isBlank, between, after, ?_, ?_, hbetween, hafter⟩,
      hne, ?_, hunit⟩
    · rw [List.append_assoc _ between, List.append_assoc _ (between ++ _), ← hrest,
        List.append_assoc, List.takeWhile_append_dropWhile]
      exact List.takeWhile_append_dropWhile.symm
    · exact fun c hc => List.mem_takeWhile_imp hc
    · exact fun c hc => List.mem_takeWhile_imp hc
  next => cases h

theorem Shorthand.shorthand? {value : String} {digits spelling : List Char} {unit : IntervalUnit}
    (h : Shorthand value digits unit spelling) :
    Sql.shorthand? value = some (digits, spelling) := by
  obtain ⟨⟨before, between, after, hvalue, hbefore, hbetween, hafter⟩, hne, hdigits, hunit⟩ := h
  have htrimmed : Trimmed spelling :=
    ⟨fun c hc => (hunit.letter c (List.mem_of_mem_head? hc)).2,
      fun c hc => (hunit.letter c (List.mem_of_mem_getLast? hc)).2⟩
  have hdigit : ∀ c ∈ digits, isBlank c = false := by
    intro c hc
    by_contra hb
    have hno := isDigit_of_isBlank (Bool.not_eq_false _ ▸ hb)
    rw [hdigits c hc] at hno
    cases hno
  -- What follows the digits starts with a blank or with the spelling.
  have hstop : ∀ c ∈ (between ++ spelling ++ after).head?, isDigit c = false := by
    intro c hc
    cases between with
    | nil =>
      obtain ⟨l, text, rfl⟩ := List.exists_cons_of_ne_nil hunit.ne_nil
      obtain rfl : l = c := Option.some.inj hc
      exact (hunit.letter _ (by simp)).1
    | cons b rest =>
      obtain rfl : b = c := Option.some.inj hc
      exact isDigit_of_isBlank (hbetween _ (by simp))
  have hstart : trimStartChars value.toList = digits ++ (between ++ spelling ++ after) := by
    rw [hvalue, List.append_assoc, List.append_assoc, List.append_assoc,
      ← List.append_assoc between]
    refine dropWhile_stop hbefore fun c hc => ?_
    obtain ⟨d, ds, rfl⟩ := List.exists_cons_of_ne_nil hne
    obtain rfl : d = c := Option.some.inj hc
    exact hdigit _ (by simp)
  have htake := takeWhile_stop hdigits hstop
  have hdrop := dropWhile_stop hdigits hstop
  have hspelling : IntervalUnit.isSpelling spelling = true :=
    IntervalUnit.isSpelling_iff.mpr ⟨unit, hunit⟩
  simp only [Sql.shorthand?, hstart, htake, hdrop, trimChars_padded hbetween htrimmed hafter,
    hspelling, List.isEmpty_eq_false_iff.mpr hne, Bool.not_false, Bool.and_self, if_true]

/-- A shorthand becomes a literal with its digits and its unit if and only if the unit is a day or
is spelled without a long s, and with a day in its place otherwise. Every other text is passed on
trimmed. -/
theorem intervalExpr_unit (value : String) :
    (∀ digits unit spelling, Shorthand value digits unit spelling →
      intervalExpr value = intervalLiteral digits (if 'ſ' ∈ spelling then .day else unit) ∧
      (intervalExpr value = intervalLiteral digits unit ↔ unit = .day ∨ 'ſ' ∉ spelling)) ∧
    ((∀ digits unit spelling, ¬ Shorthand value digits unit spelling) →
      intervalExpr value = trim value) := by
  constructor
  · intro digits unit spelling h
    have hexpr : intervalExpr value =
        intervalLiteral digits (if 'ſ' ∈ spelling then .day else unit) := by
      rw [intervalExpr, h.shorthand?]
      dsimp only
      split
      next hs => rw [IntervalUnit.ofSpelling_of_longS hs]; rfl
      next hs => rw [IntervalUnit.ofSpelling_of_spelled h.spelled hs]; rfl
    refine ⟨hexpr, ?_⟩
    rw [hexpr, intervalLiteral_inj]
    by_cases hs : 'ſ' ∈ spelling <;> simp [hs, eq_comm]
  · intro h
    rw [intervalExpr]
    cases hv : shorthand? value with
    | none => rfl
    | some parts =>
      obtain ⟨digits, spelling⟩ := parts
      obtain ⟨unit, hunit⟩ := exists_shorthand hv
      exact absurd hunit (h digits unit spelling)

theorem intervalExpr_unit_mixedCase :
    Shorthand " 10 Mins " ['1', '0'] .minute ['M', 'i', 'n', 's'] ∧
    intervalExpr " 10 Mins " = "INTERVAL '10' MINUTE" ∧
    Shorthand "2dayſ" ['2'] .day ['d', 'a', 'y', 'ſ'] ∧
    intervalExpr "2dayſ" = "INTERVAL '2' DAY" ∧
    intervalExpr " 10 weeks " = "10 weeks" := by
  have hblank : ∀ c ∈ [' '], isBlank c = true := List.all_eq_true.mp (by decide)
  have hmins : Shorthand " 10 Mins " ['1', '0'] .minute ['M', 'i', 'n', 's'] :=
    ⟨⟨[' '], [' '], [' '], by decide, hblank, hblank, hblank⟩, by decide,
      List.all_eq_true.mp (by decide), IntervalUnit.spelled_of_fold "mins" (by decide) (by decide)⟩
  have hdays : Shorthand "2dayſ" ['2'] .day ['d', 'a', 'y', 'ſ'] :=
    ⟨⟨[], [], [], by decide, by simp, by simp, by simp⟩, by decide,
      List.all_eq_true.mp (by decide), IntervalUnit.spelled_of_fold "days" (by decide) (by decide)⟩
  have hweeks : ∀ digits unit spelling, ¬ Shorthand " 10 weeks " digits unit spelling := by
    intro digits unit spelling h
    have hnone : shorthand? " 10 weeks " = none := by decide
    have hsome := h.shorthand?
    rw [hnone] at hsome
    cases hsome
  refine ⟨hmins, ?_, hdays, ?_, ?_⟩
  · exact ((intervalExpr_unit _).1 _ _ _ hmins).1.trans (by decide)
  · exact (((intervalExpr_unit _).1 _ _ _ hdays).2.mpr (.inl rfl)).trans (by decide)
  · exact ((intervalExpr_unit _).2 hweeks).trans (by decide)

/-- Ten seconds spelled with a long s are read as ten days. -/
theorem intervalExpr_longS : ¬ ∀ value digits unit spelling,
    Shorthand value digits unit spelling → intervalExpr value = intervalLiteral digits unit := by
  intro h
  have hseconds : Shorthand "10ſ" ['1', '0'] .second ['ſ'] :=
    ⟨⟨[], [], [], by decide, by simp, by simp, by simp⟩, by decide,
      List.all_eq_true.mp (by decide), IntervalUnit.spelled_of_fold "s" (by decide) (by decide)⟩
  have hdays : intervalExpr "10ſ" = "INTERVAL '10' DAY" := by decide
  have hliteral := hdays.symm.trans (h _ _ _ _ hseconds)
  revert hliteral
  decide

end StreamPipeline.Sql
