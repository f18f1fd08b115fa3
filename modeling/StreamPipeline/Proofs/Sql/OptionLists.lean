import StreamPipeline.Proofs.Schema.TokenText
import StreamPipeline.Proofs.Sql.Masking
import StreamPipeline.Proofs.Sql.Written

/-! # Reading option lists

An option list is read back by the rule for literals alone: one begins at a quote, a doubled quote
stands for one, and a single quote ends it. So no key and no value reaches beyond its own quotes,
and different lists have different texts.
-/

namespace StreamPipeline

namespace Sql

open Text

/-! ### Literals, options, lists -/

/-- A literal at the start of a text, and what follows it. -/
def literal? : List Char → Option (String × List Char)
  | '\'' :: cs =>
    (Lexeme.untilQuote '\'' cs).map fun (content, _, rest) => (String.ofList content, rest)
  | _ => none

/-- An option at the start of a text, and what follows it. -/
def option? (cs : List Char) : Option ((String × String) × List Char) := do
  let (key, rest) ← literal? cs
  let rest ← afterChars? [' ', '=', ' '] rest
  let (value, rest) ← literal? rest
  return ((key, value), rest)

theorem length_of_untilQuote {quote : Char} {cs content read rest : List Char}
    (h : Lexeme.untilQuote quote cs = some (content, read, rest)) : rest.length < cs.length := by
  fun_induction Lexeme.untilQuote quote cs generalizing content read rest with
  | case1 => cases h
  | case2 => cases h; simp
  | case3 => cases h
  | case4 r ih | case6 c d r hc ih =>
    obtain ⟨⟨content, read, rest⟩, hu, he⟩ := Option.map_eq_some_iff.mp h
    cases he
    have := ih hu
    simp only [List.length_cons] at this ⊢
    omega
  | case5 d r hd => cases h; simp

theorem length_of_literal? {cs rest : List Char} {value : String}
    (h : literal? cs = some (value, rest)) : rest.length < cs.length := by
  unfold literal? at h
  split at h
  · obtain ⟨⟨content, read, rest⟩, hu, he⟩ := Option.map_eq_some_iff.mp h
    cases he
    have := length_of_untilQuote hu
    simp only [List.length_cons]
    omega
  · cases h

theorem length_of_option? {cs rest : List Char} {o : String × String}
    (h : option? cs = some (o, rest)) : rest.length < cs.length := by
  obtain ⟨⟨key, r₁⟩, hk, h⟩ := Option.bind_eq_some_iff.mp h
  obtain ⟨r₂, hs, h⟩ := Option.bind_eq_some_iff.mp h
  obtain ⟨⟨value, r₃⟩, hv, h⟩ := Option.bind_eq_some_iff.mp h
  cases h
  have hkey := length_of_literal? hk
  have hvalue := length_of_literal? hv
  obtain rfl := afterChars?_eq_some_iff.mp hs
  simp only [List.length_append] at hkey
  omega

/-- One option at the start of a text and those that follow with commas between them. -/
def someOptions? (cs : List Char) : Option (List (String × String) × List Char) :=
  match _h : option? cs with
  | none => none
  | some (o, rest) =>
    match _hc : afterChars? [',', ' '] rest with
    | none => some ([o], rest)
    | some more => (someOptions? more).map fun (options, rest) => (o :: options, rest)
termination_by cs.length
decreasing_by
  have := length_of_option? _h
  obtain rfl := afterChars?_eq_some_iff.mp _hc
  simp only [List.length_append] at this
  omega

/-- The options at the start of a text, and what follows them. -/
def options? (cs : List Char) : Option (List (String × String) × List Char) :=
  if cs.head? = some '\'' then someOptions? cs else some ([], cs)

/-- The options of a text that holds nothing else. -/
def readOptions? (sql : String) : Option (List (String × String)) :=
  match options? sql.toList with
  | some (options, []) => some options
  | _ => none

/-! ### What is read of a list -/

/-- A text that goes on neither with a literal nor with a list. -/
def EndsList (rest : List Char) : Prop := ∀ c ∈ rest.head?, c ≠ '\'' ∧ c ≠ ','

theorem literal?_enclose (value : List Char) {rest : List Char} (hr : '\'' ∉ rest.head?) :
    literal? (enclose '\'' value ++ rest) = some (String.ofList value, rest) := by
  have hu := Lexeme.untilQuote_doubling value (Scan.beq_false_of_head hr)
  simp [enclose, literal?, hu]

theorem option?_optionChars (key value : List Char) {rest : List Char} (hr : '\'' ∉ rest.head?) :
    option? (optionChars key value ++ rest) =
      some ((String.ofList key, String.ofList value), rest) := by
  have hkey : literal? (enclose '\'' key ++ ' ' :: '=' :: ' ' :: (enclose '\'' value ++ rest)) =
      some (String.ofList key, ' ' :: '=' :: ' ' :: (enclose '\'' value ++ rest)) :=
    literal?_enclose key (by simp)
  have hsign : afterChars? [' ', '=', ' '] (' ' :: '=' :: ' ' :: (enclose '\'' value ++ rest)) =
      some (enclose '\'' value ++ rest) := by simp [afterChars?]
  unfold option? optionChars
  simp only [List.append_assoc, List.cons_append, hkey, hsign, literal?_enclose value hr,
    Option.bind_eq_bind, Option.bind_some, Option.pure_def]

theorem head_renderOptions (o : String × String) (options : List (String × String))
    (rest : List Char) : ((renderOptions (o :: options)).toList ++ rest).head? = some '\'' := by
  cases options with
  | nil =>
    rw [toList_renderOptions_singleton]
    simp [optionChars, enclose]
  | cons _ _ =>
    rw [toList_renderOptions_cons]
    simp [optionChars, enclose]

theorem someOptions?_last {cs rest : List Char} {o : String × String}
    (ho : option? cs = some (o, rest)) (hc : afterChars? [',', ' '] rest = none) :
    someOptions? cs = some ([o], rest) := by
  rw [someOptions?]
  split
  next hn => rw [ho] at hn; cases hn
  next hs =>
    rw [ho] at hs
    cases hs
    split
    next => rfl
    next hs => rw [hc] at hs; cases hs

theorem someOptions?_more {cs rest more : List Char} {o : String × String}
    (ho : option? cs = some (o, rest)) (hc : afterChars? [',', ' '] rest = some more) :
    someOptions? cs = (someOptions? more).map fun (options, rest) => (o :: options, rest) := by
  rw [someOptions?]
  split
  next hn => rw [ho] at hn; cases hn
  next hs =>
    rw [ho] at hs
    cases hs
    split
    next hn => rw [hc] at hn; cases hn
    next hs =>
      rw [hc] at hs
      cases hs
      rfl

theorem someOptions?_renderOptions (o : String × String) (options : List (String × String))
    {rest : List Char} (hr : EndsList rest) :
    someOptions? ((renderOptions (o :: options)).toList ++ rest) = some (o :: options, rest) := by
  induction options generalizing o with
  | nil =>
    have hq : '\'' ∉ rest.head? := fun h => (hr _ h).1 rfl
    have hcomma : afterChars? [',', ' '] rest = none := by
      cases rest with
      | nil => rfl
      | cons c rest => simp [afterChars?, Ne.symm (hr c rfl).2]
    refine someOptions?_last ?_ hcomma
    simpa [toList_renderOptions_singleton] using option?_optionChars o.1.toList o.2.toList hq
  | cons o' options ih =>
    have ho : option? ((renderOptions (o :: o' :: options)).toList ++ rest) =
        some (o, ',' :: ' ' :: ((renderOptions (o' :: options)).toList ++ rest)) := by
      rw [toList_renderOptions_cons, List.append_assoc, option?_optionChars _ _ (by simp)]
      simp
    have hcomma : afterChars? [',', ' ']
        (',' :: ' ' :: ((renderOptions (o' :: options)).toList ++ rest)) =
          some ((renderOptions (o' :: options)).toList ++ rest) := by simp [afterChars?]
    rw [someOptions?_more ho hcomma, ih o']
    rfl

/-- Whatever its keys and values contain, a list is read up to its end. -/
theorem options?_renderOptions (options : List (String × String)) {rest : List Char}
    (hr : EndsList rest) :
    options? ((renderOptions options).toList ++ rest) = some (options, rest) := by
  unfold options?
  cases options with
  | nil =>
    have hq : rest.head? ≠ some '\'' := fun h => (hr _ h).1 rfl
    simp [renderOptions, join, hq]
  | cons o options =>
    rw [if_pos (head_renderOptions o options rest), someOptions?_renderOptions o options hr]

theorem readOptions?_renderOptions (options : List (String × String)) :
    readOptions? (renderOptions options) = some options := by
  have h : options? ((renderOptions options).toList ++ []) = some (options, []) :=
    options?_renderOptions options (by rintro _ ⟨⟩)
  rw [List.append_nil] at h
  rw [readOptions?, h]

theorem renderOptions_injective : Function.Injective renderOptions := by
  intro options options' h
  have hread := congrArg readOptions? h
  rw [readOptions?_renderOptions, readOptions?_renderOptions] at hread
  exact Option.some.inj hread

end Sql

end StreamPipeline
