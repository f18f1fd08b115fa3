import StreamPipeline.Proofs.Text.Spans
import StreamPipeline.Sql.Quote
import StreamPipeline.Sql.Token

/-! # Texts of SQL tokens

How tokens are written: words, names in back quotes and marks, with blanks, comments and literals
between them. Every text is written in this way, and its tokens are those that the scanner finds.
-/

namespace StreamPipeline.Sql

open Text

/-- A character that stands for itself. -/
structure IsMark (c : Char) : Prop where
  word : Scan.isWordChar c = false
  blank : isBlank c = false
  quote : c ∉ ['\'', '"', '\x60']

/-- The texts of tokens. What is open at the end of a text is closed there. -/
inductive Written : List Char → List SqlToken → Prop where
  | nil : Written [] []
  | blank {c : Char} {cs : List Char} {ts : List SqlToken} : isBlank c = true → Written cs ts →
      Written (c :: cs) ts
  | word {w cs : List Char} {ts : List SqlToken} : w ≠ [] → (∀ a ∈ w, Scan.isWordChar a = true) →
      (∀ a ∈ cs.head?, Scan.isWordChar a = false) → Written cs ts →
      Written (w ++ cs) (.word (String.ofList w) :: ts)
  | name {n cs : List Char} {ts : List SqlToken} : '\x60' ∉ cs.head? → Written cs ts →
      Written (enclose '\x60' n ++ cs) (.name (String.ofList n) :: ts)
  | literal {q : Char} {v cs : List Char} {ts : List SqlToken} : q ∈ ['\'', '"'] → q ∉ cs.head? →
      Written cs ts → Written (enclose q v ++ cs) ts
  | mark {c : Char} {cs : List Char} {ts : List SqlToken} : IsMark c →
      (c = '-' → '-' ∉ cs.head?) → (c = '/' → '*' ∉ cs.head?) → Written cs ts →
      Written (c :: cs) (.mark c :: ts)
  | lineComment {v cs : List Char} {ts : List SqlToken} : '\n' ∉ v → Written cs ts →
      Written ('-' :: '-' :: (v ++ '\n' :: cs)) ts
  | blockComment {v cs : List Char} {ts : List SqlToken} : ¬ ['*', '/'] <:+: v → Written cs ts →
      Written ('/' :: '*' :: (v ++ '*' :: '/' :: cs)) ts
  | openName (n : List Char) : Written ('\x60' :: doubling '\x60' n) [.name (String.ofList n)]
  | openLiteral {q : Char} (v : List Char) : q ∈ ['\'', '"'] → Written (q :: doubling q v) []
  | openLine {v : List Char} : '\n' ∉ v → Written ('-' :: '-' :: v) []
  | openBlock {v : List Char} : ¬ ['*', '/'] <:+: v → Written ('/' :: '*' :: v) []

namespace Scan

/-! ### Where the scanner stands -/

theorem isWordChar_of_isBlank {c : Char} (h : isBlank c = true) : isWordChar c = false := by
  have hlist : ∀ n ∈ [9, 10, 11, 12, 13, 0x20, 0x85, 0xA0, 0x1680, 0x2000, 0x2001, 0x2002, 0x2003,
      0x2004, 0x2005, 0x2006, 0x2007, 0x2008, 0x2009, 0x200A, 0x2028, 0x2029, 0x202F, 0x205F,
      0x3000], isWordChar (Char.ofNat n) = false := by decide +kernel
  have hmem := hlist c.toNat
  rw [Char.ofNat_toNat] at hmem
  refine hmem ?_
  simp only [isBlank, Bool.or_eq_true, Bool.and_eq_true, decide_eq_true_eq, beq_iff_eq] at h
  simp only [List.mem_cons, List.not_mem_nil, or_false]
  omega

/-- A character that goes on with what the scanner has open. -/
def goesOn : Scan → Char → Bool
  | word _, c => isWordChar c
  | literalQuote q, c => c == q
  | nameQuote _, c => c == '\x60'
  | dash, c => c == '-'
  | slash, c => c == '*'
  | _, _ => false

/-- Scanners that the next character may take back to the plain state. -/
def settles : Scan → Bool
  | plain | word _ | literalQuote _ | nameQuote _ | dash | slash => true
  | _ => false

theorem step_settled {s : Scan} (hs : s.settles = true) {c : Char} (hc : s.goesOn c = false) :
    s.step c = ((enter c).1, s.finish ++ (enter c).2) := by
  cases s with
  | literal _ | name _ | lineComment | blockComment | blockStar => cases hs
  | plain => rfl
  | word _ | literalQuote _ | nameQuote _ | dash | slash => exact if_neg (Bool.eq_false_iff.mp hc)

/-- Where nothing goes on with what is open, it ends, and the scanner starts again. -/
theorem run_settled {s : Scan} (hs : s.settles = true) {cs : List Char}
    (hc : ∀ c ∈ cs.head?, s.goesOn c = false) : run s cs = s.finish ++ run .plain cs := by
  cases cs with
  | nil => simp [run, finish]
  | cons c cs =>
    rw [run, run, step_settled hs (hc c rfl), List.append_assoc]
    rfl

theorem run_word {seen : List Char} (w cs : List Char) (hw : ∀ a ∈ w, isWordChar a = true) :
    run (.word seen) (w ++ cs) = run (.word (w.reverse ++ seen)) cs := by
  induction w generalizing seen with
  | nil => rfl
  | cons a w ih =>
    simp only [List.mem_cons, forall_eq_or_imp] at hw
    simp [run, step, hw.1, ih hw.2]

/-- Quoted content with its quotes doubled is passed: a quote waits for the second one. -/
theorem run_doubling {q : Char} {inside quote : List Char → Scan}
    (hopen : ∀ seen, (inside seen).step q = (quote seen, []))
    (hquote : ∀ seen, (quote seen).step q = (inside (q :: seen), []))
    (hother : ∀ seen a, a ≠ q → (inside seen).step a = (inside (a :: seen), []))
    (v cs : List Char) (seen : List Char) :
    run (inside seen) (doubling q v ++ cs) = run (inside (v.reverse ++ seen)) cs := by
  induction v generalizing seen with
  | nil => rfl
  | cons a v ih =>
    rw [List.reverse_cons, List.append_assoc]
    by_cases ha : a = q
    · subst ha
      simp only [doubling_cons_self, List.cons_append, run, hopen, hquote, List.nil_append, ih]
    · simp only [doubling_cons_of_ne ha, List.cons_append, run, hother _ a ha, List.nil_append, ih]

theorem run_name {seen : List Char} (n cs : List Char) :
    run (.name seen) (doubling '\x60' n ++ cs) = run (.name (n.reverse ++ seen)) cs :=
  @run_doubling '\x60' .name .nameQuote (fun _ => rfl) (fun _ => rfl)
    (fun _ _ ha => if_neg (mt beq_iff_eq.mp ha)) n cs seen

theorem run_literal (q : Char) (v cs : List Char) :
    run (.literal q) (doubling q v ++ cs) = run (.literal q) cs :=
  @run_doubling q (fun _ => .literal q) (fun _ => .literalQuote q)
    (fun _ => if_pos (beq_self_eq_true q)) (fun _ => if_pos (beq_self_eq_true q))
    (fun _ _ ha => if_neg (mt beq_iff_eq.mp ha)) v cs []

theorem run_lineComment {v : List Char} (hv : '\n' ∉ v) (cs : List Char) :
    run .lineComment (v ++ cs) = run .lineComment cs := by
  induction v with
  | nil => rfl
  | cons a v ih =>
    simp only [List.mem_cons, not_or] at hv
    simp [run, step, Ne.symm hv.1, ih hv.2]

/-- Inside a block comment; after a star no slash may come next. -/
theorem run_blockComment {v : List Char} {s : Scan} (hs : s = .blockComment ∧ ¬ ['*', '/'] <:+: v ∨
    s = .blockStar ∧ ¬ ['*', '/'] <:+: '*' :: v) :
    ∃ s', (s' = .blockComment ∨ s' = .blockStar) ∧ ∀ cs, run s (v ++ cs) = run s' cs := by
  induction v generalizing s with
  | nil => exact ⟨s, hs.imp And.left And.left, fun _ => rfl⟩
  | cons a v ih =>
    by_cases ha : a = '*'
    · subst ha
      have hv : ¬ ['*', '/'] <:+: '*' :: v := by
        rcases hs with ⟨-, hv⟩ | ⟨-, hv⟩
        · exact hv
        · exact fun h => hv (h.trans (List.suffix_cons _ _).isInfix)
      obtain ⟨s', hs', hrun⟩ := ih (s := .blockStar) (.inr ⟨rfl, hv⟩)
      refine ⟨s', hs', fun cs => ?_⟩
      rcases hs with ⟨rfl, -⟩ | ⟨rfl, -⟩ <;> simp [run, step, hrun]
    · have hv : ¬ ['*', '/'] <:+: v := by
        rcases hs with ⟨-, hv⟩ | ⟨-, hv⟩ <;> intro h
        · exact hv (h.trans (List.suffix_cons _ _).isInfix)
        · exact hv (h.trans (List.suffix_append ['*', a] v).isInfix)
      obtain ⟨s', hs', hrun⟩ := ih (s := .blockComment) (.inl ⟨rfl, hv⟩)
      refine ⟨s', hs', fun cs => ?_⟩
      rcases hs with ⟨rfl, -⟩ | ⟨rfl, hv'⟩
      · simp [run, step, ha, hrun]
      · have hslash : a ≠ '/' := by
          rintro rfl
          exact hv' (List.prefix_append ['*', '/'] v).isInfix
        simp [run, step, ha, hslash, hrun]

theorem beq_false_of_head {k : Char} {cs : List Char} (h : k ∉ cs.head?) :
    ∀ d ∈ cs.head?, (d == k) = false := by
  refine fun d hd => beq_false_of_ne ?_
  rintro rfl
  exact h hd

/-- A mark is open where a comment might begin, and complete otherwise. -/
theorem run_mark {c : Char} (hc : IsMark c) {cs : List Char} (hdash : c = '-' → '-' ∉ cs.head?)
    (hslash : c = '/' → '*' ∉ cs.head?) : run .plain (c :: cs) = .mark c :: run .plain cs := by
  have hq := hc.quote
  simp only [List.mem_cons, List.not_mem_nil, or_false, not_or] at hq
  by_cases h₁ : c = '-'
  · subst h₁
    exact run_settled (s := .dash) rfl (beq_false_of_head (hdash rfl))
  by_cases h₂ : c = '/'
  · subst h₂
    exact run_settled (s := .slash) rfl (beq_false_of_head (hslash rfl))
  · simp [run, step, enter, hq, h₁, h₂, hc.word, hc.blank]

/-- The characters that open what is no word. -/
def openers : List Char := ['\'', '"', '-', '/', '\x60']

theorem enter_blank {c : Char} (h : isBlank c = true) : enter c = (.plain, []) := by
  have hm : c ∉ openers := notMem_of_any_false (p := isBlank) rfl h
  simp only [openers, List.mem_cons, List.not_mem_nil, or_false, not_or] at hm
  simp [enter, hm, isWordChar_of_isBlank h, h]

theorem enter_word {c : Char} (h : isWordChar c = true) : enter c = (.word [c], []) := by
  have hm : c ∉ openers := notMem_of_any_false (p := isWordChar) rfl h
  simp only [openers, List.mem_cons, List.not_mem_nil, or_false, not_or] at hm
  simp [enter, hm, h]

theorem enter_quote {q : Char} (h : q ∈ ['\'', '"']) : enter q = (.literal q, []) := by
  simp only [List.mem_cons, List.not_mem_nil, or_false] at h
  rcases h with rfl | rfl <;> rfl

end Scan

/-- The scanner finds the tokens that are written. -/
theorem run_of_written {cs : List Char} {ts : List SqlToken} (h : Written cs ts) :
    Scan.run .plain cs = ts := by
  induction h with
  | nil => rfl
  | blank hb _ ih => simpa [Scan.run, Scan.step, Scan.enter_blank hb] using ih
  | @word w cs ts hne hw hr _ ih =>
    obtain ⟨a, w, rfl⟩ := List.exists_cons_of_ne_nil hne
    simp only [List.mem_cons, forall_eq_or_imp] at hw
    have hfirst : Scan.run .plain (a :: w ++ cs) = Scan.run (.word [a]) (w ++ cs) := by
      simp [Scan.run, Scan.step, Scan.enter_word hw.1]
    rw [hfirst, Scan.run_word w cs hw.2, Scan.run_settled rfl hr, ih]
    simp [Scan.finish, Scan.textOf]
  | @name n cs ts hr _ ih =>
    have hfirst : Scan.run .plain (enclose '\x60' n ++ cs) =
        Scan.run (.name []) (doubling '\x60' n ++ '\x60' :: cs) := by
      simp [enclose, Scan.run, Scan.step, Scan.enter]
    have hlast : Scan.run (.name (n.reverse ++ [])) ('\x60' :: cs) =
        Scan.run (.nameQuote (n.reverse ++ [])) cs := by
      simp [Scan.run, Scan.step]
    rw [hfirst, Scan.run_name, hlast, Scan.run_settled rfl (Scan.beq_false_of_head hr), ih]
    simp [Scan.finish, Scan.textOf]
  | @literal q v cs ts hq hr _ ih =>
    have hfirst : Scan.run .plain (enclose q v ++ cs) =
        Scan.run (.literal q) (doubling q v ++ q :: cs) := by
      simp [enclose, Scan.run, Scan.step, Scan.enter_quote hq]
    have hlast : Scan.run (.literal q) (q :: cs) = Scan.run (.literalQuote q) cs := by
      simp [Scan.run, Scan.step]
    rw [hfirst, Scan.run_literal, hlast, Scan.run_settled rfl (Scan.beq_false_of_head hr), ih]
    rfl
  | mark hc hdash hslash _ ih => rw [Scan.run_mark hc hdash hslash, ih]
  | @lineComment v cs ts hv _ ih =>
    change Scan.run .lineComment (v ++ '\n' :: cs) = ts
    rw [Scan.run_lineComment hv]
    exact ih
  | @blockComment v cs ts hv _ ih =>
    obtain ⟨s, hs, hrun⟩ := Scan.run_blockComment (.inl ⟨rfl, hv⟩)
    change Scan.run .blockComment (v ++ '*' :: '/' :: cs) = ts
    rw [hrun]
    rcases hs with rfl | rfl <;> exact ih
  | openName n =>
    have h := @Scan.run_name [] n []
    rw [List.append_nil] at h
    change Scan.run (.name []) (doubling '\x60' n) = _
    simp [h, Scan.run, Scan.finish, Scan.textOf]
  | @openLiteral q v hq =>
    have h := Scan.run_literal q v []
    rw [List.append_nil] at h
    simp [Scan.run, Scan.step, Scan.enter_quote hq, h, Scan.finish]
  | @openLine v hv =>
    have h := Scan.run_lineComment hv []
    rw [List.append_nil] at h
    exact h
  | @openBlock v hv =>
    obtain ⟨s, hs, hrun⟩ := Scan.run_blockComment (.inl ⟨rfl, hv⟩)
    have h := hrun []
    rw [List.append_nil] at h
    change Scan.run .blockComment v = []
    rw [h]
    rcases hs with rfl | rfl <;> rfl

/-! ### Every text is written -/

/-- A quoted text ends at the first quote that is not doubled, or it is open. -/
theorem closed_or_open (q : Char) : ∀ cs : List Char,
    (∃ v rest, cs = doubling q v ++ q :: rest ∧ q ∉ rest.head?) ∨ ∃ v, cs = doubling q v
  | [] => .inr ⟨[], rfl⟩
  | [c] => by
    by_cases hc : c = q
    · exact .inl ⟨[], [], by simp [hc], by simp⟩
    · exact .inr ⟨[c], by simp [doubling_cons_of_ne hc]⟩
  | c :: d :: ds => by
    by_cases hc : c = q
    · by_cases hd : d = q
      · rcases closed_or_open q ds with ⟨v, rest, rfl, hr⟩ | ⟨v, rfl⟩
        · exact .inl ⟨q :: v, rest, by simp [doubling_cons_self, hc, hd], hr⟩
        · exact .inr ⟨q :: v, by simp [doubling_cons_self, hc, hd]⟩
      · exact .inl ⟨[], d :: ds, by simp [hc], by simpa using hd⟩
    · rcases closed_or_open q (d :: ds) with ⟨v, rest, he, hr⟩ | ⟨v, he⟩
      · exact .inl ⟨c :: v, rest, by simp [doubling_cons_of_ne hc, he], hr⟩
      · exact .inr ⟨c :: v, by simp [doubling_cons_of_ne hc, he]⟩

theorem line_or_open (cs : List Char) :
    (∃ v rest, cs = v ++ '\n' :: rest ∧ '\n' ∉ v) ∨ '\n' ∉ cs := by
  by_cases h : '\n' ∈ cs
  · exact .inl (List.eq_append_cons_of_mem h)
  · exact .inr h

theorem block_or_open (cs : List Char) :
    (∃ v rest, cs = v ++ '*' :: '/' :: rest ∧ ¬ ['*', '/'] <:+: v) ∨ ¬ ['*', '/'] <:+: cs := by
  induction cs with
  | nil => exact .inr (by simp)
  | cons c cs ih =>
    by_cases hp : ['*', '/'] <+: c :: cs
    · obtain ⟨rest, hrest⟩ := hp
      exact .inl ⟨[], rest, hrest.symm, by simp⟩
    rcases ih with ⟨v, rest, rfl, hv⟩ | hcs
    · refine .inl ⟨c :: v, rest, rfl, fun h => ?_⟩
      rcases List.infix_cons_iff.mp h with hpre | hinf
      · exact hp (hpre.trans (List.prefix_append (c :: v) _))
      · exact hv hinf
    · refine .inr fun h => ?_
      rcases List.infix_cons_iff.mp h with hpre | hinf
      · exact hp hpre
      · exact hcs hinf

/-- Every text is the text of some tokens. -/
theorem exists_written (cs : List Char) : ∃ ts, Written cs ts := by
  induction hn : cs.length using Nat.strongRecOn generalizing cs with
  | ind n ih =>
  subst hn
  cases cs with
  | nil => exact ⟨[], .nil⟩
  | cons c cs =>
  by_cases hq : c ∈ ['\'', '"']
  · rcases closed_or_open c cs with ⟨v, rest, rfl, hr⟩ | ⟨v, rfl⟩
    · obtain ⟨ts, hts⟩ := ih rest.length (by simp; omega) rest rfl
      exact ⟨ts, by simpa [enclose] using Written.literal (v := v) hq hr hts⟩
    · exact ⟨[], .openLiteral v hq⟩
  by_cases hname : c = '\x60'
  · subst hname
    rcases closed_or_open '\x60' cs with ⟨n, rest, rfl, hr⟩ | ⟨n, rfl⟩
    · obtain ⟨ts, hts⟩ := ih rest.length (by simp; omega) rest rfl
      exact ⟨_, by simpa [enclose] using Written.name (n := n) hr hts⟩
    · exact ⟨_, .openName n⟩
  by_cases hword : Scan.isWordChar c = true
  · have hlen := (List.dropWhile_suffix Scan.isWordChar (l := cs)).length_le
    obtain ⟨ts, hts⟩ := ih (cs.dropWhile Scan.isWordChar).length (by simp; omega) _ rfl
    have hw : ∀ a ∈ c :: cs.takeWhile Scan.isWordChar, Scan.isWordChar a = true :=
      List.forall_mem_cons.mpr ⟨hword, List.all_eq_true.mp List.all_takeWhile⟩
    have h := Written.word (List.cons_ne_nil _ _) hw (head_dropWhile _ _) hts
    rw [List.cons_append, List.takeWhile_append_dropWhile] at h
    exact ⟨_, h⟩
  obtain ⟨ts, hts⟩ := ih cs.length (by simp) cs rfl
  by_cases hblank : isBlank c = true
  · exact ⟨ts, .blank hblank hts⟩
  by_cases hline : c = '-' ∧ '-' ∈ cs.head?
  · obtain ⟨rfl, hd⟩ := hline
    obtain ⟨cs, rfl⟩ := List.head?_eq_some_iff.mp hd
    rcases line_or_open cs with ⟨v, rest, rfl, hv⟩ | hv
    · obtain ⟨ts, hts⟩ := ih rest.length (by simp; omega) rest rfl
      exact ⟨ts, .lineComment hv hts⟩
    · exact ⟨[], .openLine hv⟩
  by_cases hblock : c = '/' ∧ '*' ∈ cs.head?
  · obtain ⟨rfl, hd⟩ := hblock
    obtain ⟨cs, rfl⟩ := List.head?_eq_some_iff.mp hd
    rcases block_or_open cs with ⟨v, rest, rfl, hv⟩ | hv
    · obtain ⟨ts, hts⟩ := ih rest.length (by simp; omega) rest rfl
      exact ⟨ts, .blockComment hv hts⟩
    · exact ⟨[], .openBlock hv⟩
  have hmark : IsMark c :=
    ⟨Bool.eq_false_iff.mpr hword, Bool.eq_false_iff.mpr hblank, by simp_all⟩
  exact ⟨_, .mark hmark (fun hc hd => hline ⟨hc, hd⟩) (fun hc hd => hblock ⟨hc, hd⟩) hts⟩

/-- A text has the tokens that the scanner finds in it and no others. -/
theorem written_iff {cs : List Char} {ts : List SqlToken} :
    Written cs ts ↔ Scan.run .plain cs = ts := by
  refine ⟨run_of_written, ?_⟩
  rintro rfl
  obtain ⟨ts, h⟩ := exists_written cs
  rwa [run_of_written h]

theorem ofText_eq_iff {sql : String} {ts : List SqlToken} :
    SqlToken.ofText sql = ts ↔ Written sql.toList ts := written_iff.symm

end StreamPipeline.Sql
