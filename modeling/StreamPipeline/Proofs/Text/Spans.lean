import StreamPipeline.Text.Basic

/-! # Spans of characters

What is taken from the front of a text, and where that ends.
-/

namespace StreamPipeline

namespace Text

theorem takeWhile_stop {α : Type} {p : α → Bool} {l rest : List α} (hl : ∀ a ∈ l, p a = true)
    (hr : ∀ a ∈ rest.head?, p a = false) : (l ++ rest).takeWhile p = l := by
  rw [List.takeWhile_append_of_pos hl]
  cases rest with
  | nil => simp
  | cons a rest => simp [hr a rfl]

theorem dropWhile_stop {α : Type} {p : α → Bool} {l rest : List α} (hl : ∀ a ∈ l, p a = true)
    (hr : ∀ a ∈ rest.head?, p a = false) : (l ++ rest).dropWhile p = rest := by
  rw [List.dropWhile_append_of_pos hl]
  cases rest with
  | nil => rfl
  | cons a rest => simp [hr a rfl]

theorem head_dropWhile {α : Type} (p : α → Bool) (l : List α) :
    ∀ a ∈ (l.dropWhile p).head?, p a = false := by
  intro a ha
  have h := List.head?_dropWhile_not p l
  rw [Option.mem_def.mp ha] at h
  simpa using h

theorem notMem_of_any_false {α : Type} {p : α → Bool} {l : List α} (hl : l.any p = false) {a : α}
    (ha : p a = true) : a ∉ l := fun hm => List.any_eq_false.mp hl a hm ha

theorem splitFirstChars_append {sep : Char} {cs before after : List Char}
    (h : splitFirstChars sep cs = some (before, after)) : cs = before ++ sep :: after := by
  induction cs generalizing before with
  | nil => cases h
  | cons c rest ih =>
    unfold splitFirstChars at h
    split at h
    next hc => cases h; simp [hc]
    next =>
      obtain ⟨⟨b, a⟩, hp, he⟩ := Option.map_eq_some_iff.mp h
      cases he
      rw [ih hp, List.cons_append]

theorem afterChars?_eq_some_iff {start cs rest : List Char} :
    afterChars? start cs = some rest ↔ cs = start ++ rest := by
  induction start generalizing cs with
  | nil => simp [afterChars?, eq_comm]
  | cons s start ih =>
    cases cs with
    | nil => simp [afterChars?]
    | cons c cs =>
      by_cases h : s = c
      · simp [afterChars?, h, ih]
      · simp [afterChars?, h, Ne.symm h]

theorem afterChars?_isSome_iff {start cs : List Char} :
    (afterChars? start cs).isSome = true ↔ start <+: cs := by
  rw [Option.isSome_iff_exists]
  exact exists_congr fun rest => afterChars?_eq_some_iff.trans eq_comm

@[simp] theorem doubling_nil (quote : Char) : doubling quote [] = [] := rfl

theorem doubling_cons_of_ne {quote c : Char} (h : c ≠ quote) (cs : List Char) :
    doubling quote (c :: cs) = c :: doubling quote cs := by
  simp [doubling, replaceChar, h]

theorem doubling_cons_self (quote : Char) (cs : List Char) :
    doubling quote (quote :: cs) = quote :: quote :: doubling quote cs := by
  simp [doubling, replaceChar]

theorem digitsValue_toDigits (n : Nat) : digitsValue (Nat.toDigits 10 n) = n := by
  have h := Nat.ofDigitChars_ten_toDigits (n := n)
  rwa [Nat.ofDigitChars_eq_foldl] at h

/-- A number in range is read back from its digits. -/
theorem unsignedUpTo?_toDigits {limit n : Nat} (h : n ≤ limit) :
    unsignedUpTo? limit (Nat.toDigits 10 n) = some n := by
  have hd : ∀ c ∈ Nat.toDigits 10 n, c.isDigit = true := fun c hc =>
    Nat.isDigit_of_mem_toDigits (by omega) (by omega) hc
  have hv := digitsValue_toDigits n
  have hn : Nat.toDigits 10 n ≠ [] := Nat.toDigits_ne_nil
  generalize Nat.toDigits 10 n = cs at hd hv hn
  cases cs with
  | nil => exact absurd rfl hn
  | cons c rest =>
    have hp : c ≠ '+' := by
      rintro rfl
      exact absurd (hd '+' (by simp)) (by decide)
    unfold unsignedUpTo?
    split
    next rest' he => cases he; exact absurd rfl hp
    next => simp [List.all_eq_true.mpr hd, hv, h]

end Text

end StreamPipeline
