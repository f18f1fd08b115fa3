import Mathlib.Data.List.TakeWhile
import StreamPipeline.Proofs.Text.Spans

/-! # Trimming

Trimming takes the blanks from both ends of a text and nothing else: what is left is the one part of
the text that has no blank at either end and only blanks around it.
-/

namespace StreamPipeline.Text

/-- No blank stands at either end. -/
structure Trimmed (cs : List Char) : Prop where
  start : ∀ c ∈ cs.head?, isBlank c = false
  stop : ∀ c ∈ cs.getLast?, isBlank c = false

variable {before after cs : List Char}

theorem trimChars_of_blank (h : ∀ c ∈ cs, isBlank c = true) : trimChars cs = [] := by
  have hstart : trimStartChars cs = [] := List.dropWhile_eq_nil_iff.mpr h
  rw [trimChars, hstart]
  rfl

/-- Blanks around a trimmed text are what trimming takes. -/
theorem trimChars_padded (hb : ∀ c ∈ before, isBlank c = true) (hcs : Trimmed cs)
    (ha : ∀ c ∈ after, isBlank c = true) : trimChars (before ++ cs ++ after) = cs := by
  cases cs with
  | nil =>
    refine trimChars_of_blank fun c hc => ?_
    rw [List.append_nil, List.mem_append] at hc
    exact hc.elim (hb c) (ha c)
  | cons first rest =>
    have hstart : trimStartChars (before ++ (first :: rest) ++ after) = first :: rest ++ after := by
      rw [List.append_assoc]
      exact dropWhile_stop hb hcs.start
    have hstop : (after.reverse ++ (first :: rest).reverse).dropWhile isBlank =
        (first :: rest).reverse :=
      dropWhile_stop (fun c hc => ha c (List.mem_reverse.mp hc)) fun c hc =>
        hcs.stop c (by rwa [List.head?_reverse] at hc)
    rw [trimChars, hstart, trimEndChars, List.reverse_append, hstop, List.reverse_reverse]

theorem padded_trimChars (cs : List Char) : ∃ before after, cs = before ++ trimChars cs ++ after ∧
    (∀ c ∈ before, isBlank c = true) ∧ (∀ c ∈ after, isBlank c = true) ∧
    Trimmed (trimChars cs) := by
  let rest := cs.dropWhile isBlank
  have hrest : rest.reverse = rest.reverse.takeWhile isBlank ++ rest.reverse.dropWhile isBlank :=
    List.takeWhile_append_dropWhile.symm
  have hsplit : rest = trimChars cs ++ (rest.reverse.takeWhile isBlank).reverse := by
    have h := congrArg List.reverse hrest
    rwa [List.reverse_reverse, List.reverse_append] at h
  refine ⟨cs.takeWhile isBlank, (rest.reverse.takeWhile isBlank).reverse, ?_, ?_, ?_, ?_, ?_⟩
  · rw [List.append_assoc, ← hsplit]
    exact List.takeWhile_append_dropWhile.symm
  · exact fun c hc => List.mem_takeWhile_imp hc
  · exact fun c hc => List.mem_takeWhile_imp (List.mem_reverse.mp hc)
  · intro c hc
    refine head_dropWhile isBlank cs c (?_ : c ∈ rest.head?)
    rw [hsplit]
    cases h : trimChars cs with
    | nil => rw [h] at hc; cases hc
    | cons a t => rwa [h] at hc
  · intro c hc
    refine head_dropWhile isBlank rest.reverse c ?_
    rwa [← List.getLast?_reverse]

theorem trimChars_blank_around (hb : ∀ c ∈ before, isBlank c = true)
    (ha : ∀ c ∈ after, isBlank c = true) : trimChars (before ++ cs ++ after) = trimChars cs := by
  obtain ⟨b, a, hcs, hb', ha', ht⟩ := padded_trimChars cs
  have hpad : before ++ cs ++ after = (before ++ b) ++ trimChars cs ++ (a ++ after) := by
    conv => left; rw [hcs]
    simp only [List.append_assoc]
  rw [hpad]
  refine trimChars_padded (fun c hc => ?_) ht fun c hc => ?_
  · exact (List.mem_append.mp hc).elim (hb c) (hb' c)
  · exact (List.mem_append.mp hc).elim (ha' c) (ha c)

theorem trimChars_eq_self_iff : trimChars cs = cs ↔ Trimmed cs := by
  constructor
  · intro h
    obtain ⟨-, -, -, -, -, ht⟩ := padded_trimChars cs
    rwa [h] at ht
  · intro h
    have hnone : ∀ c ∈ ([] : List Char), isBlank c = true := by simp
    simpa using trimChars_padded hnone h hnone

/-! ### Texts -/

variable {s : String}

@[simp] theorem toList_trim (s : String) : (trim s).toList = trimChars s.toList :=
  String.toList_ofList

theorem trim_eq_self_iff : trim s = s ↔ Trimmed s.toList := by
  rw [← String.toList_inj, toList_trim, trimChars_eq_self_iff]

theorem trimmed_trim (s : String) : Trimmed (trim s).toList := by
  obtain ⟨-, -, -, -, -, ht⟩ := padded_trimChars s.toList
  rwa [toList_trim]

theorem trim_trim (s : String) : trim (trim s) = trim s := trim_eq_self_iff.mpr (trimmed_trim s)

theorem isBlankText_trim (s : String) : isBlankText (trim s) = isBlankText s := by
  obtain ⟨b, a, hs, hb, ha, -⟩ := padded_trimChars s.toList
  have hall : s.toList.all isBlank = (trimChars s.toList).all isBlank := by
    conv => left; rw [hs]
    rw [List.all_append, List.all_append, List.all_eq_true.mpr hb, List.all_eq_true.mpr ha,
      Bool.true_and, Bool.and_true]
  rw [isBlankText, isBlankText, toList_trim, hall]

end StreamPipeline.Text
