import StreamPipeline.Proofs.Text.Spans
import StreamPipeline.Sql.Quote
import StreamPipeline.Sql.Redact

/-! # What masking sees

Masking an option list replaces the values of its secret keys and nothing else, whatever the values
contain. A list in parentheses keeps that behind any text: an option that begins in that text ends
at the first quote of the list at the latest, so nothing else of the list can change what is shown.
-/

namespace StreamPipeline.Sql

/-! ### Masking without fuel -/

/-- The characters with the values of secret options masked. -/
def maskChars (cs : List Char) : List Char := redactChars cs.length cs

theorem length_afterLiteral? {cs rest : List Char} (h : afterLiteral? cs = some rest) :
    rest.length < cs.length := by
  fun_induction afterLiteral? cs generalizing rest with
  | case1 => cases h
  | case2 => cases h; simp
  | case3 => cases h
  | case4 r ih =>
    simp only [List.length_cons]
    rcases Option.or_eq_some_iff.mp h with h | ⟨-, h⟩
    · have := ih h; omega
    · cases h; simp
  | case5 => cases h; simp
  | case6 c d r _ ih =>
    have := ih h
    simp only [List.length_cons] at this ⊢
    omega

/-- The characters of a secret option up to the opening quote of its value. -/
structure IsHead (key before after : List Char) : Prop where
  chars : ∀ c ∈ key, isKeyChar c = true
  secret : isSecretKey key = true
  blank : ∀ c ∈ before ++ after, Text.isBlank c = true

theorem secretHead?_iff {cs head rest : List Char} : secretHead? cs = some (head, rest) ↔
    ∃ key before after, IsHead key before after ∧ head = key ++ '\'' :: (before ++ '=' :: after) ∧
      cs = key ++ '\'' :: (before ++ '=' :: (after ++ '\'' :: rest)) := by
  constructor
  · intro h
    unfold secretHead? at h
    have hallkey : ∀ c ∈ cs.takeWhile isKeyChar, isKeyChar c = true :=
      List.all_eq_true.mp List.all_takeWhile
    dsimp only at h
    split at h
    next r₁ h₁ =>
      split at h
      next hs =>
        split at h
        next r₂ h₂ =>
          split at h
          next r₃ h₃ =>
            cases h
            refine ⟨_, _, _, ⟨hallkey, hs, fun c hc => ?_⟩, rfl, ?_⟩
            · rcases List.mem_append.mp hc with hc | hc
              · exact List.all_eq_true.mp List.all_takeWhile c hc
              · exact List.all_eq_true.mp List.all_takeWhile c hc
            · rw [← h₃, List.takeWhile_append_dropWhile, ← h₂, List.takeWhile_append_dropWhile,
                ← h₁, List.takeWhile_append_dropWhile]
          next => cases h
        next => cases h
      next => cases h
    next => cases h
  · rintro ⟨key, before, after, hh, rfl, rfl⟩
    have hb : ∀ c ∈ before, Text.isBlank c = true := fun c hc => hh.blank c (by simp [hc])
    have ha : ∀ c ∈ after, Text.isBlank c = true := fun c hc => hh.blank c (by simp [hc])
    have hq : ∀ rest, ∀ c ∈ ('\'' :: rest).head?, isKeyChar c = false := by
      rintro rest c ⟨⟩; decide
    have he : ∀ rest, ∀ c ∈ ('=' :: rest).head?, Text.isBlank c = false := by
      rintro rest c ⟨⟩; decide
    have hq' : ∀ rest, ∀ c ∈ ('\'' :: rest).head?, Text.isBlank c = false := by
      rintro rest c ⟨⟩; decide
    unfold secretHead?
    simp only [Text.takeWhile_stop hh.chars (hq _),
      Text.dropWhile_stop hh.chars (hq _), hh.secret, Text.takeWhile_stop hb (he _),
      Text.dropWhile_stop hb (he _), Text.takeWhile_stop ha (hq' _), Text.dropWhile_stop ha (hq' _),
      if_true]

theorem secretHead?_eq_none {cs : List Char} (h : ∀ key before after rest, IsHead key before after →
    cs ≠ key ++ '\'' :: (before ++ '=' :: (after ++ '\'' :: rest))) : secretHead? cs = none := by
  cases hs : secretHead? cs with
  | none => rfl
  | some p =>
    obtain ⟨key, before, after, hh, -, he⟩ := secretHead?_iff.mp hs
    exact absurd he (h key before after p.2 hh)

theorem length_secretOption? {cs head rest : List Char}
    (h : secretOption? cs = some (head, rest)) : rest.length < cs.length := by
  unfold secretOption? at h
  split at h
  next cs =>
    obtain ⟨⟨key, r⟩, hk, h⟩ := Option.bind_eq_some_iff.mp h
    obtain ⟨r', hr, h⟩ := Option.bind_eq_some_iff.mp h
    cases h
    obtain ⟨_, _, _, -, -, rfl⟩ := secretHead?_iff.mp hk
    have := length_afterLiteral? hr
    simp only [List.length_cons, List.length_append]
    omega
  next => cases h

theorem redactChars_fuel {m n : Nat} {cs : List Char} (hm : cs.length ≤ m) (hn : cs.length ≤ n) :
    redactChars m cs = redactChars n cs := by
  induction m generalizing n cs with
  | zero =>
    obtain rfl := List.length_eq_zero_iff.mp (Nat.le_zero.mp hm)
    cases n <;> rfl
  | succ m ih =>
    cases cs with
    | nil => cases n <;> rfl
    | cons c rest =>
      cases n with
      | zero => cases hn
      | succ n =>
        simp only [List.length_cons] at hm hn
        unfold redactChars
        cases hs : secretOption? (c :: rest) with
        | none =>
          dsimp only
          rw [ih (n := n) (by omega) (by omega)]
        | some p =>
          have hl := length_secretOption? hs
          simp only [List.length_cons] at hl
          dsimp only
          rw [ih (n := n) (by omega) (by omega)]

/-- The first character is masked with the secret option that it opens, or stays. -/
theorem maskChars_cons (c : Char) (cs : List Char) : maskChars (c :: cs) =
    match secretOption? (c :: cs) with
    | some (head, rest) => head ++ mask ++ maskChars rest
    | none => c :: maskChars cs := by
  unfold maskChars
  rw [List.length_cons, redactChars]
  cases hs : secretOption? (c :: cs) with
  | none => rfl
  | some p =>
    have hl := length_secretOption? hs
    simp only [List.length_cons] at hl
    dsimp only
    rw [redactChars_fuel (by omega) (Nat.le_refl _)]

theorem maskChars_of_none {c : Char} {cs : List Char} (h : secretOption? (c :: cs) = none) :
    maskChars (c :: cs) = c :: maskChars cs := by
  rw [maskChars_cons, h]

theorem maskChars_of_some {c : Char} {cs head rest : List Char}
    (h : secretOption? (c :: cs) = some (head, rest)) :
    maskChars (c :: cs) = head ++ mask ++ maskChars rest := by
  rw [maskChars_cons, h]

/-- What is not a quote stays. -/
theorem maskChars_append (l : List Char) (h : '\'' ∉ l) (rest : List Char) :
    maskChars (l ++ rest) = l ++ maskChars rest := by
  induction l with
  | nil => rfl
  | cons c l ih =>
    simp only [List.mem_cons, not_or] at h
    have hn : secretOption? (c :: (l ++ rest)) = none := by
      unfold secretOption?
      split
      next he => cases he; exact absurd rfl h.1
      next => rfl
    rw [List.cons_append, maskChars_of_none hn, ih h.2, List.cons_append]

theorem redact_eq (sql : String) : redact sql = String.ofList (maskChars sql.toList) := by
  unfold redact maskChars
  rw [String.length_toList]

/-! ### Masking an option list -/

/-- A text that cannot go on with a name or a literal, nor with the sign of an option. -/
def Ends (rest : List Char) : Prop :=
  ∀ c ∈ rest.head?, isKeyChar c = false ∧ c ≠ '\'' ∧ Text.isBlank c = false ∧ c ≠ '='

/-- A quote that opens no option stays. -/
theorem maskChars_quote {cs : List Char} (h : secretHead? cs = none) :
    maskChars ('\'' :: cs) = '\'' :: maskChars cs :=
  maskChars_of_none (by simp [secretOption?, h])

theorem secretHead?_cons {c : Char} (hk : isKeyChar c = false) (hq : c ≠ '\'') (cs : List Char) :
    secretHead? (c :: cs) = none := by
  refine secretHead?_eq_none fun key before after rest hh he => ?_
  cases key with
  | nil => exact absurd (List.cons.inj he).1 hq
  | cons x key =>
    obtain ⟨rfl, -⟩ := List.cons.inj he
    simp [hh.chars c (by simp)] at hk

/-- The empty key is no secret. -/
theorem secretHead?_quote (cs : List Char) : secretHead? ('\'' :: cs) = none := by
  refine secretHead?_eq_none fun key before after rest hh he => ?_
  cases key with
  | nil => exact absurd hh.secret (by decide)
  | cons x key =>
    obtain ⟨rfl, -⟩ := List.cons.inj he
    exact absurd (hh.chars '\'' (by simp)) (by decide)

theorem secretHead?_ends {rest : List Char} (hr : Ends rest) : secretHead? rest = none := by
  cases rest with
  | nil => rfl
  | cons c rest =>
    obtain ⟨hk, hq, -, -⟩ := hr c rfl
    exact secretHead?_cons hk hq rest

/-- The rest of a literal that is not the key of an option. -/
def closed (value rest : List Char) : List Char := Text.doubling '\'' value ++ '\'' :: rest

theorem closed_cons_of_ne {c : Char} (h : c ≠ '\'') (value rest : List Char) :
    closed (c :: value) rest = c :: closed value rest := by
  simp [closed, Text.doubling_cons_of_ne h]

theorem closed_cons_quote (value rest : List Char) :
    closed ('\'' :: value) rest = '\'' :: '\'' :: closed value rest := by
  simp [closed, Text.doubling_cons_self]

/-- The first quote of a literal ends it or is doubled. -/
theorem closed_eq_append {value rest key after : List Char} (hk : '\'' ∉ key)
    (h : closed value rest = key ++ '\'' :: after) :
    after = rest ∨ ∃ more, after = '\'' :: more := by
  induction value generalizing key with
  | nil =>
    cases key with
    | nil => cases h; exact .inl rfl
    | cons x k => cases h; simp at hk
  | cons c value ih =>
    by_cases hc : c = '\''
    · subst hc
      rw [closed_cons_quote] at h
      cases key with
      | nil => cases h; exact .inr ⟨_, rfl⟩
      | cons x k =>
        obtain ⟨rfl, -⟩ := List.cons.inj h
        simp at hk
    · rw [closed_cons_of_ne hc] at h
      cases key with
      | nil => cases h; exact absurd rfl hc
      | cons x k =>
        rw [List.cons_append] at h
        exact ih (fun hm => hk (by simp [hm])) (List.cons.inj h).2

theorem quote_notMem_key {key : List Char} (h : ∀ c ∈ key, isKeyChar c = true) : '\'' ∉ key :=
  fun hm => absurd (h _ hm) (by decide)

/-- What follows the key of an option starts with a blank or with the sign. -/
theorem exists_cons_of_isHead {key before after : List Char} (h : IsHead key before after)
    (rest : List Char) : ∃ c more, before ++ '=' :: rest = c :: more ∧
      (Text.isBlank c = true ∨ c = '=') := by
  cases before with
  | nil => exact ⟨_, _, rfl, .inr rfl⟩
  | cons b before => exact ⟨_, _, rfl, .inl (h.blank _ (by simp))⟩

/-- No option begins at the quote that opens a literal. -/
theorem secretHead?_closed (value : List Char) {rest : List Char} (hr : Ends rest) :
    secretHead? (closed value rest) = none := by
  refine secretHead?_eq_none fun key before after rest' hh he => ?_
  obtain ⟨c, more, hc, hfirst⟩ := exists_cons_of_isHead hh (after ++ '\'' :: rest')
  rw [hc] at he
  rcases closed_eq_append (quote_notMem_key hh.chars) he with rfl | ⟨_, hm⟩
  · obtain ⟨-, -, hb, he⟩ := hr c rfl
    simp [hb, he] at hfirst
  · cases hm
    exact absurd hfirst (by decide)

theorem afterLiteral?_of_ne {c : Char} (h : c ≠ '\'') (cs : List Char) :
    afterLiteral? (c :: cs) = afterLiteral? cs := by
  cases cs with
  | nil => simp [afterLiteral?, h]
  | cons d cs => simp [afterLiteral?, h]

theorem afterLiteral?_closed (value : List Char) {rest : List Char} (hr : Ends rest) :
    afterLiteral? (closed value rest) = some rest := by
  induction value with
  | nil =>
    cases rest with
    | nil => rfl
    | cons c rest =>
      have hc : c ≠ '\'' := (hr c rfl).2.1
      simp [closed, Text.doubling, Text.replaceChar, afterLiteral?, hc]
  | cons c value ih =>
    by_cases hc : c = '\''
    · subst hc
      rw [closed_cons_quote]
      simp [afterLiteral?, ih]
    · rw [closed_cons_of_ne hc, afterLiteral?_of_ne hc, ih]

theorem maskChars_closed (value : List Char) {rest : List Char} (hr : Ends rest) :
    maskChars (closed value rest) = closed value (maskChars rest) := by
  induction value with
  | nil => exact maskChars_quote (secretHead?_ends hr)
  | cons c value ih =>
    by_cases hc : c = '\''
    · subst hc
      rw [closed_cons_quote, closed_cons_quote, maskChars_quote (secretHead?_quote _),
        maskChars_quote (secretHead?_closed value hr), ih]
    · have h := maskChars_append [c] (by simpa using Ne.symm hc) (closed value rest)
      rw [closed_cons_of_ne hc, closed_cons_of_ne hc, ← ih]
      exact h

theorem enclose_append (value rest : List Char) :
    enclose '\'' value ++ rest = '\'' :: closed value rest := by
  simp [enclose, closed]

theorem closed_of_notMem {value : List Char} (h : '\'' ∉ value) (rest : List Char) :
    closed value rest = value ++ '\'' :: rest := by
  induction value with
  | nil => rfl
  | cons c value ih =>
    simp only [List.mem_cons, not_or] at h
    rw [closed_cons_of_ne (Ne.symm h.1), ih h.2, List.cons_append]

theorem append_quote_inj {a b x y : List Char} (ha : '\'' ∉ a) (hb : '\'' ∉ b)
    (h : a ++ '\'' :: x = b ++ '\'' :: y) : a = b := by
  induction a generalizing b with
  | nil =>
    cases b with
    | nil => rfl
    | cons d b => obtain ⟨rfl, -⟩ := List.cons.inj h; simp at hb
  | cons c a ih =>
    cases b with
    | nil => obtain ⟨rfl, -⟩ := List.cons.inj h; simp at ha
    | cons d b =>
      rw [List.cons_append, List.cons_append] at h
      obtain ⟨rfl, h₁⟩ := List.cons.inj h
      rw [ih (b := b) (fun hm => ha (by simp [hm])) (fun hm => hb (by simp [hm])) h₁]

/-- A key that is no secret opens no option. -/
theorem secretHead?_key {key : List Char} (hk : ∀ c ∈ key, isKeyChar c = true)
    (hs : isSecretKey key = false) (rest : List Char) :
    secretHead? (key ++ '\'' :: rest) = none := by
  refine secretHead?_eq_none fun key' before after rest' hh he => ?_
  obtain rfl := append_quote_inj (quote_notMem_key hk) (quote_notMem_key hh.chars) he
  simp [hh.secret] at hs

/-- The characters of an option. -/
def optionChars (key value : List Char) : List Char :=
  enclose '\'' key ++ (' ' :: '=' :: ' ' :: enclose '\'' value)

/-- The value of an option as it is shown. -/
def maskedValue (key value : List Char) : List Char :=
  if isSecretKey key then "***".toList else value

theorem optionChars_append {key : List Char} (hk : '\'' ∉ key) (value rest : List Char) :
    optionChars key value ++ rest =
      '\'' :: (key ++ '\'' :: ' ' :: '=' :: ' ' :: '\'' :: closed value rest) := by
  rw [optionChars, List.append_assoc, enclose_append, closed_of_notMem hk, List.cons_append,
    List.cons_append, List.cons_append, enclose_append]

/-- Masking an option replaces the value of a secret key. -/
theorem maskChars_option {key : List Char} (hk : ∀ c ∈ key, isKeyChar c = true)
    (value : List Char) {rest : List Char} (hr : Ends rest) :
    maskChars (optionChars key value ++ rest) =
      optionChars key (maskedValue key value) ++ maskChars rest := by
  have hq := quote_notMem_key hk
  rw [optionChars_append hq, optionChars_append hq]
  unfold maskedValue
  cases hs : isSecretKey key with
  | true =>
    have hh : IsHead key [' '] [' '] := ⟨hk, hs, List.all_eq_true.mp rfl⟩
    have hhead : secretHead? (key ++ '\'' :: ' ' :: '=' :: ' ' :: '\'' :: closed value rest) =
        some (key ++ '\'' :: ' ' :: '=' :: [' '], closed value rest) :=
      secretHead?_iff.mpr ⟨key, [' '], [' '], hh, rfl, rfl⟩
    have ho : secretOption? ('\'' :: (key ++ '\'' :: ' ' :: '=' :: ' ' :: '\'' ::
        closed value rest)) = some ('\'' :: (key ++ '\'' :: ' ' :: '=' :: [' ']), rest) := by
      simp [secretOption?, hhead, afterLiteral?_closed value hr]
    rw [maskChars_of_some ho, if_pos rfl]
    simp [mask, closed, Text.doubling, Text.replaceChar]
  | false =>
    have hvalue : maskChars ('\'' :: closed value rest) =
        '\'' :: closed value (maskChars rest) := by
      rw [maskChars_quote (secretHead?_closed value hr), maskChars_closed value hr]
    have hsign := maskChars_append [' ', '=', ' '] (by decide) ('\'' :: closed value rest)
    rw [hvalue] at hsign
    rw [maskChars_quote (secretHead?_key hk hs _), maskChars_append _ hq,
      maskChars_quote (secretHead?_cons (by decide) (by decide) _), if_neg (by decide)]
    exact congrArg (fun cs => '\'' :: (key ++ '\'' :: cs)) hsign

/-- An option as it is shown. -/
def maskOption (o : String × String) : String × String :=
  (o.1, String.ofList (maskedValue o.1.toList o.2.toList))

/-- The value of a secret option is not shown. -/
theorem maskOption_secret (key : String) (h : isSecretKey key.toList = true)
    (value value' : String) : maskOption (key, value) = maskOption (key, value') := by
  simp [maskOption, maskedValue, h]

/-- Keys are made of the characters that a secret key may have. -/
def PlainKeys (options : List (String × String)) : Prop :=
  ∀ o ∈ options, ∀ c ∈ o.1.toList, isKeyChar c = true

theorem plainKeys_of_all {options : List (String × String)}
    (h : (options.map (·.1)).all (fun key => key.toList.all isKeyChar) = true) :
    PlainKeys options := by
  intro o ho
  exact List.all_eq_true.mp (List.all_eq_true.mp h o.1 (List.mem_map_of_mem ho))

theorem toList_renderOption (o : String × String) :
    (renderOption o).toList = optionChars o.1.toList o.2.toList := by
  simp [renderOption, literal, optionChars]

theorem toList_renderOptions_singleton (o : String × String) :
    (renderOptions [o]).toList = optionChars o.1.toList o.2.toList := toList_renderOption o

theorem toList_renderOptions_cons (o o' : String × String) (options : List (String × String)) :
    (renderOptions (o :: o' :: options)).toList =
      optionChars o.1.toList o.2.toList ++
        (',' :: ' ' :: (renderOptions (o' :: options)).toList) := by
  rw [← toList_renderOption]
  simp [renderOptions, Text.join]

theorem ends_comma (rest : List Char) : Ends (',' :: rest) := by
  rintro c ⟨⟩
  decide

theorem ends_bracket : Ends [')'] := by
  rintro c ⟨⟩
  decide

/-- Masking an option list masks its options one by one. -/
theorem maskChars_renderOptions {options : List (String × String)} (hk : PlainKeys options)
    {rest : List Char} (hr : Ends rest) :
    maskChars ((renderOptions options).toList ++ rest) =
      (renderOptions (options.map maskOption)).toList ++ maskChars rest := by
  induction options with
  | nil => rfl
  | cons o options ih =>
    have ho := hk o (by simp)
    cases options with
    | nil =>
      rw [List.map_singleton, toList_renderOptions_singleton, toList_renderOptions_singleton,
        maskChars_option ho _ hr]
      simp [maskOption]
    | cons o' options =>
      have hrest := ih fun a ha => hk a (by simp [ha])
      have hsep := maskChars_append [',', ' '] (by decide)
        ((renderOptions (o' :: options)).toList ++ rest)
      rw [hrest] at hsep
      rw [List.map_cons, List.map_cons, toList_renderOptions_cons, toList_renderOptions_cons,
        List.append_assoc, List.append_assoc, List.cons_append, List.cons_append,
        maskChars_option ho _ (ends_comma _)]
      simp only [maskOption, String.toList_ofList]
      exact congrArg (optionChars o.1.toList (maskedValue o.1.toList o.2.toList) ++ ·) hsep

/-! ### Any text in front of an option list -/

theorem secretHead?_append_bracket {cs head rest rest' : List Char} :
    secretHead? (cs ++ '(' :: rest') = some (head, rest) ↔
      ∃ r, secretHead? cs = some (head, r) ∧ rest = r ++ '(' :: rest' := by
  constructor
  · intro h
    obtain ⟨key, before, after, hh, rfl, he⟩ := secretHead?_iff.mp h
    have hno : '(' ∉ key ++ '\'' :: (before ++ '=' :: (after ++ ['\''])) := by
      have hb : ∀ c ∈ before ++ after, c ≠ '(' := fun c hc hp => by
        subst hp; exact absurd (hh.blank _ hc) (by decide)
      have hk : '(' ∉ key := fun hc => absurd (hh.chars _ hc) (by decide)
      simp only [List.mem_append] at hb
      simp only [List.mem_append, List.mem_cons, List.not_mem_nil, not_or]
      refine ⟨hk, by decide, fun hc => hb _ (.inl hc) rfl, by decide,
        fun hc => hb _ (.inr hc) rfl, by decide, id⟩
    have he' : cs ++ '(' :: rest' =
        (key ++ '\'' :: (before ++ '=' :: (after ++ ['\'']))) ++ rest := by
      simp [he]
    obtain ⟨l, hl, hr⟩ | ⟨r, rfl, rfl⟩ := List.append_eq_append_iff.mp he'
    · cases l with
      | nil =>
        refine ⟨[], secretHead?_iff.mpr ⟨key, before, after, hh, rfl, ?_⟩, by simpa using hr.symm⟩
        simpa using hl.symm
      | cons c l =>
        obtain ⟨rfl, -⟩ := List.cons.inj hr
        simp [hl] at hno
    · refine ⟨r, secretHead?_iff.mpr ⟨key, before, after, hh, rfl, ?_⟩, rfl⟩
      simp
  · rintro ⟨r, h, rfl⟩
    obtain ⟨key, before, after, hh, rfl, rfl⟩ := secretHead?_iff.mp h
    exact secretHead?_iff.mpr ⟨key, before, after, hh, rfl, by simp⟩

/-- A literal that is open in front of a list ends there, or at the first quote of the list. -/
theorem afterLiteral?_list {c : Char} (hc : c ≠ '\'') (cs : List Char) :
    (∃ r, r.length ≤ cs.length ∧ ∀ tail, afterLiteral? (cs ++ '(' :: '\'' :: c :: tail) =
        some (r ++ '(' :: '\'' :: c :: tail)) ∨
      ∀ tail, afterLiteral? (cs ++ '(' :: '\'' :: c :: tail) = some (c :: tail) := by
  have hlist tail : afterLiteral? ('(' :: '\'' :: c :: tail) = some (c :: tail) := by
    simp [afterLiteral?, hc]
  fun_induction afterLiteral? cs with
  | case1 => exact .inr hlist
  | case2 => exact .inl ⟨[], Nat.zero_le _, fun tail => by simp [afterLiteral?]⟩
  | case3 d hd => exact .inr fun tail => (afterLiteral?_of_ne hd _).trans (hlist tail)
  | case4 r ih =>
    rcases ih with ⟨r', hr, h⟩ | h
    · refine .inl ⟨r', by simp only [List.length_cons]; omega, fun tail => ?_⟩
      simp [afterLiteral?, h tail]
    · exact .inr fun tail => by simp [afterLiteral?, h tail]
  | case5 d r hd => exact .inl ⟨d :: r, by simp, fun tail => by simp [afterLiteral?, hd]⟩
  | case6 d e r hd ih =>
    rcases ih with ⟨r', hr, h⟩ | h
    · refine .inl ⟨r', by simp only [List.length_cons] at hr ⊢; omega, fun tail => ?_⟩
      exact (afterLiteral?_of_ne hd _).trans (h tail)
    · exact .inr fun tail => (afterLiteral?_of_ne hd _).trans (h tail)

/-- An option that begins in front of a list ends there, or at the first quote of the list. -/
theorem secretOption?_list {c : Char} (hc : c ≠ '\'') (x : Char) (cs : List Char) :
    (∀ tail, secretOption? (x :: (cs ++ '(' :: '\'' :: c :: tail)) = none) ∨
      (∃ head r, r.length ≤ cs.length ∧
        ∀ tail, secretOption? (x :: (cs ++ '(' :: '\'' :: c :: tail)) =
          some (head, r ++ '(' :: '\'' :: c :: tail)) ∨
      ∃ head, ∀ tail, secretOption? (x :: (cs ++ '(' :: '\'' :: c :: tail)) =
        some (head, c :: tail) := by
  by_cases hx : x = '\''
  · subst hx
    cases hs : secretHead? cs with
    | none =>
      refine .inl fun tail => ?_
      have hn : secretHead? (cs ++ '(' :: '\'' :: c :: tail) = none := by
        cases h : secretHead? (cs ++ '(' :: '\'' :: c :: tail) with
        | none => rfl
        | some p =>
          obtain ⟨r, hr, -⟩ := secretHead?_append_bracket.mp h
          simp [hs] at hr
      simp [secretOption?, hn]
    | some p =>
      obtain ⟨head, r⟩ := p
      have hhead tail : secretHead? (cs ++ '(' :: '\'' :: c :: tail) =
          some (head, r ++ '(' :: '\'' :: c :: tail) :=
        secretHead?_append_bracket.mpr ⟨r, hs, rfl⟩
      have hr : r.length < cs.length := by
        obtain ⟨_, _, _, -, -, rfl⟩ := secretHead?_iff.mp hs
        simp only [List.length_append, List.length_cons]
        omega
      rcases afterLiteral?_list hc r with ⟨r', hr', h⟩ | h
      · refine .inr (.inl ⟨'\'' :: head, r', by omega, fun tail => ?_⟩)
        simp [secretOption?, hhead tail, h tail]
      · refine .inr (.inr ⟨'\'' :: head, fun tail => ?_⟩)
        simp [secretOption?, hhead tail, h tail]
  · refine .inl fun tail => ?_
    unfold secretOption?
    split
    next he => cases he; exact absurd rfl hx
    next => rfl

/-- Whatever stands in front of a list, masking goes on at its first quote or right behind it. -/
theorem maskChars_list {c : Char} (hc : c ≠ '\'') (cs : List Char) :
    ∃ shown, (∀ tail, maskChars (cs ++ '(' :: '\'' :: c :: tail) =
        shown ++ maskChars ('\'' :: c :: tail)) ∨
      ∀ tail, maskChars (cs ++ '(' :: '\'' :: c :: tail) = shown ++ maskChars (c :: tail) := by
  -- An option of the text leaves a shorter text in front of the list, or swallows the rest of it.
  induction hn : cs.length using Nat.strongRecOn generalizing cs with
  | _ n ih =>
    subst hn
    cases cs with
    | nil =>
      exact ⟨['('], .inl fun tail => maskChars_append ['('] (by decide) _⟩
    | cons x cs =>
      rcases secretOption?_list hc x cs with ho | ⟨head, r, hr, ho⟩ | ⟨head, ho⟩
      · obtain ⟨shown, h⟩ := ih cs.length (by simp) cs rfl
        refine ⟨x :: shown, h.imp (fun h tail => ?_) (fun h tail => ?_)⟩ <;>
          rw [List.cons_append, maskChars_of_none (ho tail), h tail, List.cons_append]
      · obtain ⟨shown, h⟩ := ih r.length (by simp only [List.length_cons]; omega) r rfl
        refine ⟨head ++ mask ++ shown, h.imp (fun h tail => ?_) (fun h tail => ?_)⟩ <;>
          rw [List.cons_append, maskChars_of_some (ho tail), h tail, List.append_assoc _ shown]
      · refine ⟨head ++ mask, .inr fun tail => ?_⟩
        rw [List.cons_append, maskChars_of_some (ho tail)]

theorem toList_renderOptions_start {key : String} (hk : '\'' ∉ key.toList) (value : String)
    (options : List (String × String)) : ∃ more,
      (renderOptions ((key, value) :: options)).toList = '\'' :: (key.toList ++ '\'' :: more) := by
  cases options with
  | nil =>
    have h : (renderOptions [(key, value)]).toList = optionChars key.toList value.toList ++ [] := by
      rw [List.append_nil, toList_renderOptions_singleton]
    exact ⟨_, h.trans (optionChars_append hk _ _)⟩
  | cons o options =>
    exact ⟨_, (toList_renderOptions_cons (key, value) o options).trans (optionChars_append hk _ _)⟩

/-- What is shown of a statement depends on its options only by what is shown of them, whatever
stands in front of them. -/
theorem redact_options {pre post key value : String} {options options' : List (String × String)}
    (hk : PlainKeys ((key, value) :: options)) (hk' : PlainKeys ((key, value) :: options'))
    (hs : isSecretKey key.toList = false) (hne : key ≠ "") (hpost : Ends post.toList)
    (h : options.map maskOption = options'.map maskOption) :
    redact (pre ++ "(" ++ renderOptions ((key, value) :: options) ++ post) =
      redact (pre ++ "(" ++ renderOptions ((key, value) :: options') ++ post) := by
  have hkey : ∀ c ∈ key.toList, isKeyChar c = true := hk (key, value) (by simp)
  have hq := quote_notMem_key hkey
  obtain ⟨more, hm⟩ := toList_renderOptions_start hq value options
  obtain ⟨more', hm'⟩ := toList_renderOptions_start hq value options'
  have hall : maskChars ((renderOptions ((key, value) :: options)).toList ++ post.toList) =
      maskChars ((renderOptions ((key, value) :: options')).toList ++ post.toList) := by
    rw [maskChars_renderOptions hk hpost, maskChars_renderOptions hk' hpost, List.map_cons,
      List.map_cons, h]
  have htext (options : List (String × String)) :
      (pre ++ "(" ++ renderOptions ((key, value) :: options) ++ post).toList =
        pre.toList ++ '(' :: ((renderOptions ((key, value) :: options)).toList ++ post.toList) := by
    simp
  rw [redact_eq, redact_eq, htext, htext]
  refine congrArg String.ofList ?_
  cases hc : key.toList with
  | nil => exact absurd (String.toList_eq_nil_iff.mp hc) hne
  | cons c cs =>
    have hnone (more : List Char) : secretHead? (c :: (cs ++ '\'' :: more)) = none := by
      rw [← List.cons_append, ← hc]
      exact secretHead?_key hkey hs more
    rw [hm, hm', hc] at hall ⊢
    simp only [List.cons_append, List.append_assoc] at hall ⊢
    -- Behind the first quote the rest of the first key is shown as it is, so both ways agree.
    obtain ⟨shown, hl | hl⟩ := maskChars_list (c := c) (by rintro rfl; simp [hc] at hq) pre.toList
    · rw [hl, hl, hall]
    · rw [maskChars_quote (hnone _), maskChars_quote (hnone _)] at hall
      rw [hl, hl, (List.cons.inj hall).2]

/-! ### The options that are masked -/

theorem isSecretKey_iff {key : List Char} : isSecretKey key = true ↔
    "password".toList <:+ key ∨ key = "properties.sasl.jaas.config".toList := by
  rw [isSecretKey, Bool.or_eq_true, Text.afterChars?_isSome_iff, beq_iff_eq, List.reverse_prefix]
  rfl

theorem isKeyChar_iff {c : Char} :
    isKeyChar c = true ↔ Text.isWord c = true ∨ c = '.' ∨ c = '-' := by
  simp [isKeyChar, or_assoc]

/-- The key of a password, or of the login to a message broker. -/
def IsSecret (key : String) : Prop :=
  "password".toList <:+ key.toList ∨ key = "properties.sasl.jaas.config"

instance (key : String) : Decidable (IsSecret key) := inferInstanceAs (Decidable (_ ∨ _))

theorem maskOption_eq (o : String × String) :
    maskOption o = if IsSecret o.1 then (o.1, "***") else o := by
  have hs : isSecretKey o.1.toList = true ↔ IsSecret o.1 :=
    isSecretKey_iff.trans (or_congr_right String.toList_inj)
  by_cases h : IsSecret o.1
  · rw [if_pos h, maskOption, maskedValue, if_pos (hs.mpr h)]
    rfl
  · rw [if_neg h, maskOption, maskedValue, if_neg (mt hs.mp h), String.ofList_toList]

/-- Masking shows an option list as the list of the same options with the values of the secret keys
replaced, whatever the values contain. -/
theorem redact_renderOptions {options : List (String × String)}
    (hk : ∀ o ∈ options, ∀ c ∈ o.1.toList, Text.isWord c = true ∨ c = '.' ∨ c = '-') :
    redact (renderOptions options) =
      renderOptions (options.map fun o => if IsSecret o.1 then (o.1, "***") else o) := by
  have hplain : PlainKeys options := fun o ho c hc => isKeyChar_iff.mpr (hk o ho c hc)
  have hend : Ends [] := by rintro _ ⟨⟩
  have hmask := maskChars_renderOptions hplain hend
  have hempty : maskChars [] = [] := rfl
  rw [hempty, List.append_nil, List.append_nil, List.map_congr_left fun o _ => maskOption_eq o]
    at hmask
  rw [redact_eq, hmask, String.ofList_toList]

/-- Options whose values look like other options. -/
def quotedOptions : List (String × String) :=
  [("connector", "jdbc"), ("db-password", "', 'password' = '"), ("properties.sasl.jaas.config", ""),
    ("url", "x'y\n'password' = 'z'")]

theorem redact_renderOptions_quotedOptions :
    (∀ o ∈ quotedOptions, ∀ c ∈ o.1.toList, Text.isWord c = true ∨ c = '.' ∨ c = '-') ∧
      redact (renderOptions quotedOptions) =
        "'connector' = 'jdbc', 'db-password' = '***', 'properties.sasl.jaas.config' = '***', " ++
          "'url' = 'x''y\n''password'' = ''z'''" := by
  have hplain : PlainKeys quotedOptions := plainKeys_of_all (by decide)
  have hk : ∀ o ∈ quotedOptions, ∀ c ∈ o.1.toList, Text.isWord c = true ∨ c = '.' ∨ c = '-' :=
    fun o ho c hc => isKeyChar_iff.mp (hplain o ho c hc)
  exact ⟨hk, (redact_renderOptions hk).trans (by decide)⟩

end StreamPipeline.Sql
