import Mathlib.Algebra.Group.Nat.Defs
import Mathlib.Data.List.DropRight
import StreamPipeline.Decimal.Layout

/-! # The form of shortest decimals

The plain text of a number has no exponent and no plus sign, and no zero that could be left out. The
digits found for a number are never all zero, so the first and the last of them can be told.
-/

namespace StreamPipeline.Decimal

/-! ### Forms -/

/-- The digits in front of the point. -/
inductive Whole : List Char → Prop where
  | zero : Whole ['0']
  | digits {c : Char} {cs : List Char} : c ≠ '0' → (∀ a ∈ c :: cs, a.isDigit = true) →
      Whole (c :: cs)

/-- The point and the digits behind it, if there are any. -/
inductive Fraction : List Char → Prop where
  | none : Fraction []
  | digits {cs : List Char} {c : Char} : c ≠ '0' → (∀ a ∈ cs ++ [c], a.isDigit = true) →
      Fraction ('.' :: (cs ++ [c]))

/-- A decimal without an exponent and without a zero that could be left out. -/
inductive ShortForm : List Char → Prop where
  | positive {whole fraction : List Char} : Whole whole → Fraction fraction →
      ShortForm (whole ++ fraction)
  | negative {whole fraction : List Char} : Whole whole → Fraction fraction →
      ShortForm ('-' :: (whole ++ fraction))

/-- Digits of which neither the first nor the last is zero. -/
structure Normal (ds : List Nat) : Prop where
  lt_ten : ∀ d ∈ ds, d < 10
  head : ∃ d ∈ ds.head?, d ≠ 0
  last : ∃ d ∈ ds.getLast?, d ≠ 0

/-! ### The digits of a number -/

theorem isDigit_toDigits (n : Nat) : ∀ c ∈ Nat.toDigits 10 n, c.isDigit = true :=
  fun _ => Nat.isDigit_of_mem_toDigits (by omega) (by omega)

theorem toNat_of_isDigit {c : Char} (h : c.isDigit = true) : 48 ≤ c.toNat ∧ c.toNat ≤ 57 := by
  simp only [Char.isDigit, Bool.and_eq_true, decide_eq_true_eq, ge_iff_le,
    UInt32.le_iff_toNat_le] at h
  exact h

/-- No number but zero begins with a zero. -/
theorem eq_zero_of_head_toDigits {n : Nat} (h : (Nat.toDigits 10 n).head? = some '0') : n = 0 := by
  induction n using Nat.strongRecOn with
  | _ n ih =>
  rw [Nat.toDigits_eq_if (by omega)] at h
  split at h
  next hn =>
    have hdigit : ∀ m < 10, Nat.digitChar m = '0' → m = 0 := by decide
    exact hdigit n hn (Option.some.inj h)
  next hn =>
    obtain ⟨c, cs, hcs⟩ := List.exists_cons_of_ne_nil (Nat.toDigits_ne_nil (n := n / 10) (b := 10))
    rw [hcs] at h
    have hz := ih (n / 10) (by omega) (hcs ▸ h)
    omega

theorem whole_toDigits (n : Nat) : Whole (Nat.toDigits 10 n) := by
  by_cases hn : n = 0
  · subst hn
    exact .zero
  · have hd := isDigit_toDigits n
    have hz := mt (eq_zero_of_head_toDigits (n := n)) hn
    obtain ⟨c, cs, hcs⟩ := List.exists_cons_of_ne_nil (Nat.toDigits_ne_nil (n := n) (b := 10))
    rw [hcs] at hd hz ⊢
    exact .digits (fun h => hz (congrArg some h)) hd

theorem lt_ten_of_mem_digitList {n d : Nat} (h : d ∈ digitList n) : d < 10 := by
  obtain ⟨c, hc, rfl⟩ := List.mem_map.mp h
  have hd := toNat_of_isDigit (isDigit_toDigits n c hc)
  omega

theorem head_digitList {n : Nat} (hn : 0 < n) : ∃ d ∈ (digitList n).head?, d ≠ 0 := by
  have hd := isDigit_toDigits n
  have hz := mt (eq_zero_of_head_toDigits (n := n)) (by omega)
  unfold digitList
  obtain ⟨c, cs, hcs⟩ := List.exists_cons_of_ne_nil (Nat.toDigits_ne_nil (n := n) (b := 10))
  rw [hcs] at hd hz ⊢
  refine ⟨c.toNat - 48, rfl, fun hzero => hz (congrArg some ?_)⟩
  have hc := toNat_of_isDigit (hd c List.mem_cons_self)
  have hc48 : c.toNat = 48 := by omega
  exact Char.toNat_inj.mp hc48

/-- The digits of a positive number, without the zeros at the end. -/
theorem normal_digitList {n : Nat} (hn : 0 < n) : Normal (dropTrailingZeros (digitList n)) := by
  obtain ⟨d, hd, hne⟩ := head_digitList hn
  have hdrop : dropTrailingZeros (digitList n) = (digitList n).rdropWhile (· == 0) := rfl
  have hsub : dropTrailingZeros (digitList n) <+: digitList n := List.rdropWhile_prefix _ _
  have hnil : dropTrailingZeros (digitList n) ≠ [] := by
    rw [hdrop, Ne, List.rdropWhile_eq_nil_iff]
    exact fun h => hne (beq_iff_eq.mp (h d (List.mem_of_mem_head? hd)))
  refine ⟨fun a ha => lt_ten_of_mem_digitList (hsub.subset ha), ⟨d, ?_, hne⟩, ?_⟩
  · obtain ⟨a, as, has⟩ := List.exists_cons_of_ne_nil hnil
    obtain ⟨rest, hrest⟩ := hsub
    rw [has] at hrest ⊢
    rwa [← hrest] at hd
  · have hlast := List.rdropWhile_last_not (· == 0) (digitList n) hnil
    exact ⟨_, List.getLast?_eq_some_getLast hnil, fun h => hlast (beq_iff_eq.mpr h)⟩

/-! ### Numbers are not lost in the search -/

theorem onGrid_pos {c : Nat} (hc : 0 < c) (e g : Int) : 0 < (onGrid c e g).1 ∧
    0 < (onGrid c e g).2 := by
  refine ⟨Nat.mul_pos (Nat.mul_pos hc ?_) ?_, Nat.mul_pos ?_ ?_⟩
  all_goals exact Nat.pow_pos (by omega)

theorem hit?_pos {i : Interval} (hi : 0 < i.low) {tie : Tie} {g : Int} {d : Nat}
    (h : i.hit? tie g = some d) : 0 < d := by
  have hlow := (onGrid_pos hi i.exponent g).1
  -- Zero is below the interval.
  have hbelow : ∀ k, (if i.closed then
        decide ((onGrid i.low i.exponent g).1 ≤ k * (onGrid i.mid i.exponent g).2) &&
          decide (k * (onGrid i.mid i.exponent g).2 ≤ (onGrid i.high i.exponent g).1)
      else decide ((onGrid i.low i.exponent g).1 < k * (onGrid i.mid i.exponent g).2) &&
        decide (k * (onGrid i.mid i.exponent g).2 < (onGrid i.high i.exponent g).1)) = true →
      0 < k := by
    intro k hk
    rcases Nat.eq_zero_or_pos k with rfl | hk'
    · split at hk
      all_goals
        simp only [Nat.zero_mul, Bool.and_eq_true, decide_eq_true_eq] at hk
        omega
    · exact hk'
  unfold Interval.hit? at h
  dsimp only at h
  split at h
  next => cases h
  next hin _ => cases h; exact hbelow _ hin
  next => cases h; exact Nat.succ_pos _
  next hin _ =>
    have hpos := hbelow _ hin
    split at h
    · cases h; exact hpos
    split at h
    · cases h; exact Nat.succ_pos _
    split at h
    · cases h; exact Nat.succ_pos _
    split at h
    · cases h; exact hpos
    · cases h; exact Nat.succ_pos _

theorem pow_le_of_pos {n : Nat} (hn : 0 < n) : 10 ^ ((Nat.toDigits 10 n).length - 1) ≤ n := by
  rcases Nat.eq_zero_or_pos ((Nat.toDigits 10 n).length - 1) with hz | hpos
  · rw [hz]
    exact hn
  · refine Nat.le_of_not_lt fun h => ?_
    have hle := (Nat.length_toDigits_le_iff (by omega) hpos).mpr h
    omega

theorem lt_pow_length (n : Nat) : n < 10 ^ (Nat.toDigits 10 n).length :=
  (Nat.length_toDigits_le_iff (by omega) Nat.length_toDigits_pos).mp (Nat.le_refl _)

/-- A quotient is at least a tenth of the power of ten that bounds it. -/
theorem le_of_magnitude {num den : Nat} (hn : 0 < num) (hd : 0 < den) :
    den * 10 ^ (magnitude num den - 1).toNat ≤ num * 10 ^ (1 - magnitude num den).toNat := by
  unfold magnitude
  split
  next h =>
    have hlen : 0 < (Nat.toDigits 10 (num / den)).length := Nat.length_toDigits_pos
    have hpow := pow_le_of_pos (Nat.div_pos h hd)
    generalize (Nat.toDigits 10 (num / den)).length = len at hlen hpow ⊢
    have hup : ((len : Int) - 1).toNat = len - 1 := by omega
    have hdown : (1 - (len : Int)).toNat = 0 := by omega
    rw [hup, hdown, Nat.pow_zero, Nat.mul_one]
    exact (Nat.mul_le_mul_left den hpow).trans (Nat.mul_div_le num den)
  next h =>
    have hplaces : 0 < (Nat.toDigits 10 (den / num)).length := Nat.length_toDigits_pos
    have hpow := lt_pow_length (den / num)
    dsimp only
    generalize (Nat.toDigits 10 (den / num)).length = places at hplaces hpow ⊢
    split
    next =>
      have hup : (1 - (places : Int) - 1).toNat = 0 := by omega
      have hdown : (1 - (1 - (places : Int))).toNat = places := by omega
      rw [hup, hdown, Nat.pow_zero, Nat.mul_one, Nat.mul_comm]
      exact Nat.le_of_lt ((Nat.div_lt_iff_lt_mul hn).mp hpow)
    next hle =>
      have hup : (2 - (places : Int) - 1).toNat = 0 := by omega
      have hdown : (1 - (2 - (places : Int))).toNat = places - 1 := by omega
      rw [hup, hdown, Nat.pow_zero, Nat.mul_one]
      exact Nat.le_of_not_lt hle

/-- On a grid with at least one digit, a positive number does not vanish. -/
theorem le_onGrid {c : Nat} (hc : 0 < c) (e : Int) {n : Nat} (hn : 1 ≤ n) :
    (onGrid c e (magnitude (onGrid c e 0).1 (onGrid c e 0).2 - n)).2 ≤
      (onGrid c e (magnitude (onGrid c e 0).1 (onGrid c e 0).2 - n)).1 := by
  obtain ⟨hnum, hden⟩ := onGrid_pos hc e 0
  have hbound := le_of_magnitude hnum hden
  generalize magnitude (onGrid c e 0).1 (onGrid c e 0).2 = s at hbound ⊢
  simp only [onGrid, Nat.pow_eq, Int.neg_zero, Int.toNat_zero, Nat.pow_zero,
    Nat.mul_one] at hbound ⊢
  calc 2 ^ (-e).toNat * 10 ^ (s - n).toNat
      ≤ 2 ^ (-e).toNat * 10 ^ (s - 1).toNat :=
        Nat.mul_le_mul_left _ (Nat.pow_le_pow_right (by omega) (by omega))
    _ ≤ c * 2 ^ e.toNat * 10 ^ (1 - s).toNat := hbound
    _ ≤ c * 2 ^ e.toNat * 10 ^ (-(s - n)).toNat :=
        Nat.mul_le_mul_left _ (Nat.pow_le_pow_right (by omega) (by omega))

theorem digits_search {i : Interval} (hlow : 0 < i.low) (hmid : 0 < i.mid) (tie : Tie)
    (fuel : Nat) {n : Nat} (hn : 1 ≤ n) : ∃ k, 0 < k ∧
      (i.search tie (magnitude (onGrid i.mid i.exponent 0).1 (onGrid i.mid i.exponent 0).2)
        fuel n).digits = digitList k := by
  induction fuel generalizing n with
  | zero =>
    refine ⟨_, ?_, rfl⟩
    have hgrid := onGrid_pos hmid i.exponent
      (magnitude (onGrid i.mid i.exponent 0).1 (onGrid i.mid i.exponent 0).2 - n)
    exact Nat.div_pos (le_onGrid hmid i.exponent hn) hgrid.2
  | succ fuel ih =>
    rw [Interval.search]
    split
    next d hd => exact ⟨d, hit?_pos hlow hd, rfl⟩
    next => exact ih (Nat.le_add_left 1 n)

theorem normal_shortest (tie : Tie) {m : Nat} (hm : 0 < m) (q : Int) (lowest : Bool) :
    Normal (shortest tie m q lowest).digits := by
  have hlow : 0 < (Interval.ofBinary m q lowest).low := by
    simp only [Interval.ofBinary]
    split <;> omega
  have hmid : 0 < (Interval.ofBinary m q lowest).mid := by
    simp only [Interval.ofBinary]
    omega
  obtain ⟨k, hk, hdigits⟩ := digits_search hlow hmid tie 17 (Nat.le_refl 1)
  have hnormal := normal_digitList hk
  rw [← hdigits] at hnormal
  exact hnormal

/-! ### Texts -/

/-- The character of a digit. -/
def digitChar (d : Nat) : Char := Char.ofNat (48 + d)

theorem isDigit_digitChar : ∀ d < 10, (digitChar d).isDigit = true := by decide

theorem digitChar_ne_zero : ∀ d < 10, d ≠ 0 → digitChar d ≠ '0' := by decide

theorem toList_digitText (ds : List Nat) : (digitText ds).toList = ds.map digitChar := by
  rw [digitText, String.toList_ofList]
  rfl

theorem toList_zeros (n : Nat) : (zeros n).toList = List.replicate n '0' := by
  rw [zeros, String.toList_ofList]

theorem isDigit_of_mem_digitText {ds : List Nat} (h : ∀ d ∈ ds, d < 10) :
    ∀ c ∈ ds.map digitChar, c.isDigit = true := by
  intro c hc
  obtain ⟨d, hd, rfl⟩ := List.mem_map.mp hc
  exact isDigit_digitChar d (h d hd)

theorem isDigit_of_mem_zeros (n : Nat) : ∀ c ∈ List.replicate n '0', c.isDigit = true := by
  intro c hc
  obtain rfl := List.eq_of_mem_replicate hc
  rfl

theorem whole_digitText {ds : List Nat} (hlt : ∀ d ∈ ds, d < 10) (hhead : ∃ d ∈ ds.head?, d ≠ 0)
    (n : Nat) : Whole (ds.map digitChar ++ List.replicate n '0') := by
  obtain ⟨d, hd, hne⟩ := hhead
  obtain ⟨rest, rfl⟩ : ∃ rest, ds = d :: rest := by
    cases ds with
    | nil => cases hd
    | cons a rest => cases hd; exact ⟨rest, rfl⟩
  refine .digits (digitChar_ne_zero d (hlt d List.mem_cons_self) hne) ?_
  exact List.forall_mem_append.mpr ⟨isDigit_of_mem_digitText hlt, isDigit_of_mem_zeros n⟩

theorem fraction_digitText {ds : List Nat} (hlt : ∀ d ∈ ds, d < 10)
    (hlast : ∃ d ∈ ds.getLast?, d ≠ 0) (n : Nat) :
    Fraction ('.' :: (List.replicate n '0' ++ ds.map digitChar)) := by
  obtain ⟨d, hd, hne⟩ := hlast
  obtain ⟨init, rfl⟩ := List.getLast?_eq_some_iff.mp hd
  rw [List.map_append, List.map_singleton, ← List.append_assoc]
  refine .digits (digitChar_ne_zero d (hlt d (by simp)) hne) ?_
  rw [List.append_assoc, ← List.map_singleton, ← List.map_append]
  exact List.forall_mem_append.mpr ⟨isDigit_of_mem_zeros n, isDigit_of_mem_digitText hlt⟩

theorem positional_eq {d : Digits} (h : Normal d.digits) : ∃ whole fraction,
    Whole whole ∧ Fraction fraction ∧ (positional "" d).toList = whole ++ fraction := by
  unfold positional
  dsimp only
  split
  · refine ⟨['0'], _, .zero, fraction_digitText h.lt_ten h.last (-d.point).toNat, ?_⟩
    rw [String.toList_append, String.toList_append, toList_zeros, toList_digitText]
    rfl
  next hpoint =>
    split
    · refine ⟨_, [], whole_digitText h.lt_ten h.head (d.point.toNat - d.digits.length), .none, ?_⟩
      rw [String.toList_append, String.toList_append, toList_zeros, toList_digitText]
      rfl
    next hlen =>
      have hhead : ∃ a ∈ (d.digits.take d.point.toNat).head?, a ≠ 0 := by
        rw [List.head?_take, if_neg (by omega)]
        exact h.head
      have hlast : ∃ a ∈ (d.digits.drop d.point.toNat).getLast?, a ≠ 0 := by
        rw [List.getLast?_drop, if_neg (by omega)]
        exact h.last
      refine ⟨_, _, whole_digitText (fun a ha => h.lt_ten a (List.mem_of_mem_take ha)) hhead 0,
        fraction_digitText (fun a ha => h.lt_ten a (List.mem_of_mem_drop ha)) hlast 0, ?_⟩
      simp [toList_digitText]

theorem shortForm_sign {cs whole fraction : List Char} (hw : Whole whole) (hf : Fraction fraction)
    (hcs : cs = whole ++ fraction) (negative : Bool) :
    ShortForm ((sign negative).toList ++ cs) := by
  subst hcs
  have hpositive := ShortForm.positive hw hf
  have hnegative := ShortForm.negative hw hf
  cases negative with
  | false => exact hpositive
  | true => exact hnegative

theorem pos_of_ofBits {bits m : Nat} {negative lowest : Bool} {q : Int}
    (h : Parts.ofBits bits = .finite negative m q lowest) : 0 < m := by
  unfold Parts.ofBits at h
  dsimp only at h
  split at h
  · split at h <;> cases h
  split at h
  · split at h
    · cases h
    · cases h; omega
  · cases h
    exact Nat.add_pos_left (by decide) _

/-- The plain text of a number is short, and words stand for what is no number. -/
theorem shortForm_write (x : Float) : ShortForm (plain.write x).toList ∨
    plain.write x ∈ ["NaN", "inf", "-inf"] := by
  unfold Layout.write Layout.parts
  split
  · exact .inr (by simp [plain])
  next negative _ => cases negative <;> exact .inr (by decide)
  next negative _ =>
    refine .inl ?_
    rw [String.append_assoc, String.toList_append]
    exact shortForm_sign .zero .none rfl negative
  next negative m q lowest hparts =>
    obtain ⟨whole, fraction, hw, hf, htext⟩ :=
      positional_eq (normal_shortest .toEven (pos_of_ofBits hparts) q lowest)
    refine .inl ?_
    rw [String.toList_append]
    exact shortForm_sign hw hf htext negative

theorem toList_toString (n : Int) : (toString n).toList = Nat.toDigits 10 n.toNat ∧ 0 ≤ n ∨
    (toString n).toList = '-' :: Nat.toDigits 10 (-n).toNat ∧ n < 0 := by
  cases n with
  | ofNat m => exact .inl ⟨Nat.toList_repr, Int.natCast_nonneg m⟩
  | negSucc m =>
    refine .inr ⟨?_, Int.negSucc_lt_zero m⟩
    have hn : toString (Int.negSucc m) = "-" ++ Nat.repr (m + 1) := rfl
    rw [hn, String.toList_append, Nat.toList_repr]
    rfl

theorem shortForm_toString (n : Int) : ShortForm (toString n).toList := by
  have hw (m : Nat) : ∃ whole, Whole whole ∧ Nat.toDigits 10 m = whole ++ [] :=
    ⟨_, whole_toDigits m, (List.append_nil _).symm⟩
  obtain ⟨hn, -⟩ | ⟨hn, -⟩ := toList_toString n
  · obtain ⟨whole, hwhole, heq⟩ := hw n.toNat
    rw [hn, heq]
    exact .positive hwhole .none
  · obtain ⟨whole, hwhole, heq⟩ := hw (-n).toNat
    rw [hn, heq]
    exact .negative hwhole .none

/-- A short decimal has no exponent and no plus sign. -/
theorem ShortForm.chars {cs : List Char} (h : ShortForm cs) :
    ∀ c ∈ cs, c.isDigit = true ∨ c = '-' ∨ c = '.' := by
  have hwhole {cs} (h : Whole cs) : ∀ c ∈ cs, c.isDigit = true := by
    cases h with
    | zero => exact List.forall_mem_singleton.mpr rfl
    | digits _ hd => exact hd
  have hfraction {cs} (h : Fraction cs) : ∀ c ∈ cs, c.isDigit = true ∨ c = '-' ∨ c = '.' := by
    cases h with
    | none => rintro _ ⟨⟩
    | digits _ hd => exact List.forall_mem_cons.mpr ⟨.inr (.inr rfl), fun c hc => .inl (hd c hc)⟩
  have hboth {whole fraction} (hw : Whole whole) (hf : Fraction fraction) :
      ∀ c ∈ whole ++ fraction, c.isDigit = true ∨ c = '-' ∨ c = '.' :=
    List.forall_mem_append.mpr ⟨fun c hc => .inl (hwhole hw c hc), hfraction hf⟩
  cases h with
  | positive hw hf => exact hboth hw hf
  | negative hw hf => exact List.forall_mem_cons.mpr ⟨.inr (.inl rfl), hboth hw hf⟩

end StreamPipeline.Decimal
