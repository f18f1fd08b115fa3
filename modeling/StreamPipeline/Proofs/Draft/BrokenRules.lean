import StreamPipeline.Proofs.Draft.Rules

/-! # Broken rules

What it takes to break a rule, in terms of what a document says and not of how it is checked. Each
broken rule has one line, and the lines of an entity are those of its own rules, whatever else the
document says.
-/

namespace StreamPipeline

/-! ### Numbers -/

namespace Scalar

/-- An integer reads as itself. A text reads as its digits, behind a plus sign or none, with blanks
around them. -/
inductive Reads : Scalar → Nat → Prop where
  | int (n : Nat) : Reads (.int n) n
  | text {s : String} {digits : List Char} :
      (Text.trim s).toList = digits ∨ (Text.trim s).toList = '+' :: digits → digits ≠ [] →
      (∀ c ∈ digits, c.isDigit = true) → Reads (.text s) (Text.digitsValue digits)

/-- The scalar reads as a positive number of at most `limit`. -/
def ReadsUpTo (limit : Nat) (v : Scalar) : Prop := ∃ n, v.Reads n ∧ 1 ≤ n ∧ n ≤ limit

/-- Integers of a document have 64 bits. -/
def Sized : Scalar → Prop
  | .int n => n < 18446744073709551616
  | _ => True

end Scalar

theorem Text.unsignedUpTo?_eq_some_iff {limit n : Nat} {cs : List Char} :
    unsignedUpTo? limit cs = some n ↔ ∃ digits, (cs = digits ∨ cs = '+' :: digits) ∧ digits ≠ [] ∧
      (∀ c ∈ digits, c.isDigit = true) ∧ digitsValue digits = n ∧ n ≤ limit := by
  have hbody (body : List Char) : (if body.isEmpty || !body.all Char.isDigit then none
      else if digitsValue body ≤ limit then some (digitsValue body) else none) = some n ↔
        body ≠ [] ∧ (∀ c ∈ body, c.isDigit = true) ∧ digitsValue body = n ∧ n ≤ limit := by
    rw [Option.ite_none_left_eq_some, Option.ite_none_right_eq_some, Option.some.injEq]
    simp only [Bool.or_eq_true, List.isEmpty_iff, Bool.not_eq_true', not_or, Bool.not_eq_false,
      List.all_eq_true, and_assoc]
    constructor
    · rintro ⟨hne, hall, hn, rfl⟩
      exact ⟨hne, hall, rfl, hn⟩
    · rintro ⟨hne, hall, rfl, hn⟩
      exact ⟨hne, hall, hn, rfl⟩
  unfold unsignedUpTo?
  dsimp only
  rw [hbody]
  split
  next rest =>
    constructor
    · exact fun h => ⟨rest, .inr rfl, h⟩
    · rintro ⟨digits, rfl | hd, h⟩
      · cases h.2.1 '+' List.mem_cons_self
      · rwa [(List.cons.inj hd).2]
  next hplus =>
    constructor
    · exact fun h => ⟨cs, .inl rfl, h⟩
    · rintro ⟨digits, rfl | hd, h⟩
      · exact h
      · exact absurd hd (hplus digits)

namespace Scalar

variable {v : Scalar} {n limit : Nat}

theorem reads_of_asNat? (h : v.asNat? = some n) : v.Reads n := by
  cases v with
  | int i =>
    unfold asNat? at h
    dsimp only at h
    split at h
    · obtain rfl := Option.some.inj h
      obtain ⟨m, rfl⟩ := Int.eq_ofNat_of_zero_le ‹_›
      exact .int m
    · cases h
  | text s =>
    obtain ⟨digits, hd, hne, hall, rfl, -⟩ := Text.unsignedUpTo?_eq_some_iff.mp h
    refine .text ?_ hne hall
    simpa [Text.trim] using hd
  | float x => cases h
  | bool b => cases h

theorem asNat?_of_reads (h : v.Reads n) (hn : n ≤ 18446744073709551615) : v.asNat? = some n := by
  cases h with
  | int n => simp [asNat?]
  | text hd hne hall =>
    refine Text.unsignedUpTo?_eq_some_iff.mpr ⟨_, ?_, hne, hall, rfl, hn⟩
    simpa [Text.trim] using hd

theorem le_of_asNat? (hv : v.Sized) (h : v.asNat? = some n) : n ≤ 18446744073709551615 := by
  cases v with
  | int i =>
    cases reads_of_asNat? h with
    | int n => unfold Sized at hv; omega
  | text s =>
    obtain ⟨-, -, -, -, -, hn⟩ := Text.unsignedUpTo?_eq_some_iff.mp h
    exact hn
  | float x => cases h
  | bool b => cases h

theorem readsUpTo_iff (hl : limit ≤ 18446744073709551615) :
    v.ReadsUpTo limit ↔ ∃ n ∈ v.asNat?, 1 ≤ n ∧ n ≤ limit := by
  constructor
  · rintro ⟨n, hr, h1, hn⟩
    exact ⟨n, asNat?_of_reads hr (by omega), h1, hn⟩
  · rintro ⟨n, hr, h1, hn⟩
    exact ⟨n, reads_of_asNat? hr, h1, hn⟩

/-- Reading decides for all limits that a check has. -/
def decidableReadsUpTo (hl : limit ≤ 18446744073709551615) (v : Scalar) :
    Decidable (v.ReadsUpTo limit) :=
  decidable_of_iff _ (readsUpTo_iff hl).symm

end Scalar

/-! ### Rules of fields -/

namespace FieldRule

/-- Missing or blank texts, keys without columns, and numbers out of range are no values. A field of
other types than its own must not be given at all. -/
def Broken : FieldRule → Prop
  | filled _ v => ∀ s ∈ v, Text.trim s = ""
  | given _ v => v.isNone = true
  | keyed v => ∀ k ∈ v, k.toList = []
  | workers v => ∃ s ∈ v, ¬ s.ReadsUpTo 4294967295
  | positive _ v => ∃ s ∈ v, ¬ s.ReadsUpTo 18446744073709551615
  | port _ v => ∃ s ∈ v, ¬ s.ReadsUpTo 65535
  | owned field type present => present = true ∧ field ∉ type.ownFields

instance : DecidablePred Broken := fun rule =>
  match rule with
  | filled _ v => inferInstanceAs (Decidable (∀ s ∈ v, Text.trim s = ""))
  | given _ v => inferInstanceAs (Decidable (v.isNone = true))
  | keyed v => inferInstanceAs (Decidable (∀ k ∈ v, k.toList = []))
  | workers v =>
    have (s : Scalar) : Decidable (s.ReadsUpTo 4294967295) :=
      Scalar.decidableReadsUpTo (by decide) s
    inferInstanceAs (Decidable (∃ s ∈ v, ¬ s.ReadsUpTo 4294967295))
  | positive _ v =>
    have (s : Scalar) : Decidable (s.ReadsUpTo 18446744073709551615) :=
      Scalar.decidableReadsUpTo (by decide) s
    inferInstanceAs (Decidable (∃ s ∈ v, ¬ s.ReadsUpTo 18446744073709551615))
  | port _ v =>
    have (s : Scalar) : Decidable (s.ReadsUpTo 65535) :=
      Scalar.decidableReadsUpTo (by decide) s
    inferInstanceAs (Decidable (∃ s ∈ v, ¬ s.ReadsUpTo 65535))
  | owned field type present =>
    inferInstanceAs (Decidable (present = true ∧ field ∉ type.ownFields))

/-- A value as it is shown. -/
def shown (v : Option Scalar) : String := (v.map Scalar.asText).getD ""

/-- What is reported when the rule is broken. -/
def fault : FieldRule → Fault
  | filled field _ => .missing field
  | given field _ => .missing field
  | keyed _ => .missing "primary_key"
  | workers v => .noParallelism (shown v)
  | positive field v => .notPositive field (shown v)
  | port field v => .invalidPort field (shown v)
  | owned field type _ => .notAllowed field type.tag

def Sized : FieldRule → Prop
  | positive _ v => ∀ s ∈ v, s.Sized
  | _ => True

theorem faults_number {α : Type} {P : Nat → Prop} [DecidablePred P] {o : Option Nat} {f : Fault}
    {a : Nat → α} : (match o with
      | some n => if P n then Checked.ok (a n) else Checked.fault f
      | none => Checked.fault f : Checked α).faults = if ∃ n ∈ o, P n then [] else [f] := by
  cases o with
  | none => simp [Checked.fault]
  | some n => by_cases hn : P n <;> simp [hn, Checked.ok, Checked.fault]

theorem faults_of_number {rule : FieldRule} {P : Nat → Prop} [DecidablePred P] {o : Option Nat}
    (hf : rule.faults = if ∃ n ∈ o, P n then [] else [rule.fault])
    (hb : rule.Broken ↔ ¬ ∃ n ∈ o, P n) :
    rule.faults = if rule.Broken then [rule.fault] else [] := by
  rw [hf]
  by_cases h : ∃ n ∈ o, P n
  · rw [if_pos h, if_neg fun hr => hb.mp hr h]
  · rw [if_neg h, if_pos (hb.mpr h)]

/-- A check reports its rule if it is broken, and nothing else. -/
theorem faults_eq {rule : FieldRule} (h : rule.Sized) :
    rule.faults = if rule.Broken then [rule.fault] else [] := by
  cases rule with
  | filled field v =>
    cases v with
    | none => simp [faults, Broken, fault, Checked.required, Checked.fault]
    | some s =>
      cases hb : Text.isBlankText s with
      | true =>
        simp [faults, Broken, fault, Checked.required, Checked.fault, hb,
          Text.trim_eq_empty_iff]
      | false =>
        simp [faults, Broken, Checked.required, Checked.ok, hb, Text.trim_eq_empty_iff]
  | given field v =>
    cases v with
    | none => simp [faults, Broken, fault, Checked.present, Checked.fault]
    | some s => simp [faults, Broken, Checked.present, Checked.ok]
  | keyed v =>
    cases v with
    | none => simp [faults, Broken, fault, DraftSink.checkKey, Checked.fault]
    | some k =>
      cases hk : k.toList with
      | nil => simp [faults, Broken, fault, DraftSink.checkKey, Checked.fault, hk]
      | cons c rest => simp [faults, Broken, DraftSink.checkKey, Checked.ok, hk]
  | workers v =>
    cases v with
    | none => simp [faults, Broken]
    | some s =>
      refine faults_of_number (P := fun n => 1 ≤ n ∧ n < 4294967296) faults_number ?_
      have hs : s.ReadsUpTo 4294967295 ↔ _ := Scalar.readsUpTo_iff (by decide)
      simp only [Broken, Option.mem_some_iff, exists_eq_left', hs, Nat.lt_succ_iff]
  | positive field v =>
    cases v with
    | none => simp [faults, Broken, Checked.positive, Checked.ok]
    | some s =>
      refine faults_of_number (P := fun n => 1 ≤ n) faults_number ?_
      have hs : s.ReadsUpTo 18446744073709551615 ↔ _ := Scalar.readsUpTo_iff (by decide)
      simp only [Broken, Option.mem_some_iff, exists_eq_left', hs]
      -- The check itself has no upper bound: that of a text is in its reader, that of an integer
      -- in its size.
      refine not_congr ⟨?_, ?_⟩
      · rintro ⟨n, hn, h1, -⟩
        exact ⟨n, hn, h1⟩
      · rintro ⟨n, hn, h1⟩
        exact ⟨n, hn, h1, Scalar.le_of_asNat? (h s rfl) hn⟩
  | port field v =>
    cases v with
    | none => simp [faults, Broken, Checked.port, Checked.ok]
    | some s =>
      refine faults_of_number (P := fun n => 1 ≤ n ∧ n < 65536) faults_number ?_
      have hs : s.ReadsUpTo 65535 ↔ _ := Scalar.readsUpTo_iff (by decide)
      simp only [Broken, Option.mem_some_iff, exists_eq_left', hs, Nat.lt_succ_iff]
  | owned field type present =>
    cases present with
    | false => simp [faults, Broken]
    | true => by_cases hf : field ∈ type.ownFields <;> simp [faults, Broken, fault, hf]

end FieldRule

/-! ### Rules of documents -/

namespace Rule

/-- A name is broken by its repetition, and a transform by an entity that is named like its
intermediate view. -/
def Broken : Rule → Prop
  | field _ rule => rule.Broken
  | unique earlier name => name ∈ earlier
  | free names transform => intermediateName transform ∈ names

instance : DecidablePred Broken := fun rule =>
  match rule with
  | field _ rule => inferInstanceAs (Decidable rule.Broken)
  | unique earlier name => inferInstanceAs (Decidable (name ∈ earlier))
  | free names transform => inferInstanceAs (Decidable (intermediateName transform ∈ names))

/-- The line of a rule that is broken. -/
def line : Rule → Problem
  | field subject rule => .fault subject rule.fault
  | unique _ name => .duplicateName name
  | free _ transform => .collision (intermediateName transform) transform

def Sized : Rule → Prop
  | field _ rule => rule.Sized
  | _ => True

theorem problems_eq {rule : Rule} (h : rule.Sized) :
    rule.problems = if rule.Broken then [rule.line] else [] := by
  cases rule with
  | field subject rule =>
    have hproblems : (field subject rule).problems = rule.faults.map (.fault subject) := rfl
    have hbroken : (field subject rule).Broken ↔ rule.Broken := .rfl
    rw [hproblems, FieldRule.faults_eq h]
    by_cases hb : rule.Broken
    · rw [if_pos hb, if_pos (hbroken.mpr hb)]
      rfl
    · rw [if_neg hb, if_neg (mt hbroken.mp hb)]
      rfl
  | unique earlier name => rfl
  | free names transform => rfl

end Rule

/-- The integers that are checked without an upper bound have 64 bits. -/
def DraftSource.Sized (s : DraftSource) : Prop :=
  (∀ v ∈ s.parallelism, v.Sized) ∧ ∀ v ∈ s.lookup.bind (·.cacheRows), v.Sized

namespace Draft

variable {d : Draft}

def Sized (d : Draft) : Prop := ∀ s ∈ d.sources, s.Sized

theorem sized_of_source {s : DraftSource} (hs : s.Sized) : ∀ rule ∈ s.rules, rule.Sized := by
  have hkind (type : SourceType) : ∀ rule ∈ s.kindRules type, rule.Sized := by
    cases type <;> simp [DraftSource.kindRules, FieldRule.Sized]
    exact fun v hv => hs.2 v (by simpa using hv)
  intro rule h
  rcases mem_append_getD.mp h with h | ⟨type, -, h⟩
  · simp only [List.mem_cons, List.not_mem_nil, or_false] at h
    rcases h with rfl | rfl | rfl | rfl
    · trivial
    · trivial
    · trivial
    · exact hs.1
  · rcases List.mem_append.mp h with h | h
    · obtain ⟨f, -, rfl⟩ := List.mem_map.mp h
      trivial
    · exact hkind type rule h

theorem sized_of_transform (t : DraftTransform) : ∀ rule ∈ t.rules, rule.Sized := by
  simp [DraftTransform.rules, FieldRule.Sized]

theorem sized_of_sink (s : DraftSink) : ∀ rule ∈ s.rules, rule.Sized := by
  have hkind (type : SinkType) : ∀ rule ∈ s.kindRules type, rule.Sized := by
    cases type <;> simp [DraftSink.kindRules, DraftSink.credentialRules, FieldRule.Sized]
  intro rule h
  rcases mem_append_getD.mp h with h | ⟨type, -, h⟩
  · simp only [List.mem_cons, List.not_mem_nil, or_false] at h
    rcases h with rfl | rfl | rfl <;> trivial
  · exact hkind type rule h

theorem sized_of_entities {α : Type} {list : String} {name : α → Option String}
    {rules : α → List FieldRule} {entities : List α}
    (h : ∀ a ∈ entities, ∀ rule ∈ rules a, rule.Sized) :
    ∀ rule ∈ entityRules list name rules entities, rule.Sized := by
  intro rule hr
  obtain ⟨e, he, hr⟩ := List.mem_flatMap.mp hr
  obtain ⟨r, hm, rfl⟩ := List.mem_map.mp hr
  exact h e.1 (List.fst_mem_of_mem_zipIdx he) r hm

theorem Sized.of_mem_rules (hd : d.Sized) : ∀ rule ∈ d.rules, rule.Sized := by
  intro rule h
  simp only [rules, List.mem_append] at h
  rcases h with ((((h | h) | h) | h) | h) | h
  · obtain ⟨r, hr, rfl⟩ := List.mem_map.mp h
    simp only [pipelineRules, List.mem_cons, List.not_mem_nil, or_false] at hr
    rcases hr with rfl | rfl | rfl | rfl <;> trivial
  · exact sized_of_entities (fun s hs => sized_of_source (hd s hs)) rule h
  · exact sized_of_entities (fun t _ => sized_of_transform t) rule h
  · exact sized_of_entities (fun s _ => sized_of_sink s) rule h
  · obtain ⟨e, -, rfl⟩ := List.mem_map.mp h
    trivial
  · obtain ⟨t, -, rfl⟩ := List.mem_map.mp h
    trivial

/-- The lines of the broken rules, in the order of the rules. -/
def brokenLines (rules : List Rule) : List Problem :=
  (rules.filter fun rule => rule.Broken).map Rule.line

theorem flatMap_problems {rules : List Rule} (h : ∀ rule ∈ rules, rule.Sized) :
    rules.flatMap Rule.problems = brokenLines rules := by
  induction rules with
  | nil => rfl
  | cons rule rules ih =>
    have hrest := ih fun r hr => h r (List.mem_cons_of_mem _ hr)
    rw [List.flatMap_cons, hrest, Rule.problems_eq (h rule List.mem_cons_self)]
    unfold brokenLines
    by_cases hb : rule.Broken <;> simp [hb]

theorem problems_eq_brokenLines (hd : d.Sized) : d.problems = brokenLines d.rules := by
  rw [problems_eq, flatMap_problems hd.of_mem_rules]

theorem brokenLines_append (rules rest : List Rule) :
    brokenLines (rules ++ rest) = brokenLines rules ++ brokenLines rest := by
  unfold brokenLines
  rw [List.filter_append, List.map_append]

/-! ### Entities -/

/-- The lines of one entity, or of the pipeline as such. -/
def linesOf (subject : Subject) (rules : List FieldRule) : List Problem :=
  (rules.filter fun rule => rule.Broken).map fun rule => .fault subject rule.fault

theorem brokenLines_field (subject : Subject) (rules : List FieldRule) :
    brokenLines (rules.map (.field subject)) = linesOf subject rules := by
  unfold brokenLines linesOf
  rw [List.filter_map, List.map_map]
  rfl

end Draft

/-- The line is about the entity at this place of the list. -/
def Problem.about (list : String) (index : Nat) : Problem → Bool
  | fault (.entity l i _) _ => l == list && i == index
  | _ => false

namespace Draft

variable {α : Type} {list : String} {name : α → Option String} {rules : α → List FieldRule}
  {index : Nat}

theorem flatMap_zipIdx_of_ne {β : Type} {f : α × Nat → List β} {i k : Nat}
    (hf : ∀ e, e.2 ≠ i → f e = []) (l : List α) :
    (l.zipIdx k).flatMap f = if k ≤ i then ((l[i - k]?).map fun a => f (a, i)).getD [] else [] := by
  induction l generalizing k with
  | nil => simp
  | cons a l ih =>
    rw [List.zipIdx_cons, List.flatMap_cons, ih]
    rcases Nat.lt_trichotomy k i with hlt | rfl | hgt
    · have hi : i - k = i - (k + 1) + 1 := by omega
      rw [hf (a, k) (Nat.ne_of_lt hlt), if_pos (show k + 1 ≤ i from hlt), if_pos hlt.le, hi]
      rfl
    · rw [if_neg (by omega), if_pos (Nat.le_refl k), Nat.sub_self, List.append_nil]
      rfl
    · rw [hf (a, k) (Nat.ne_of_gt hgt), if_neg (by omega), if_neg (by omega)]
      rfl

theorem brokenLines_entityRules (entities : List α) :
    brokenLines (entityRules list name rules entities) =
      entities.zipIdx.flatMap fun e => linesOf (.entity list e.2 (name e.1)) (rules e.1) := by
  unfold entityRules
  induction entities.zipIdx with
  | nil => rfl
  | cons e l ih =>
    rw [List.flatMap_cons, List.flatMap_cons, brokenLines_append, brokenLines_field, ih]

theorem filter_about_linesOf {subject : Subject} (fields : List FieldRule)
    (hs : ∀ n, subject ≠ .entity list index n) :
    (linesOf subject fields).filter (·.about list index) = [] := by
  refine List.filter_eq_nil_iff.mpr fun p hp => ?_
  obtain ⟨rule, -, rfl⟩ := List.mem_map.mp hp
  cases subject with
  | pipeline => simp [Problem.about]
  | entity l i n =>
    have hne : ¬ (l = list ∧ i = index) := fun ⟨hl, hi⟩ => hs n (by rw [hl, hi])
    simpa [Problem.about] using hne

theorem filter_about_self {n : Option String} (fields : List FieldRule) :
    (linesOf (.entity list index n) fields).filter (·.about list index) =
      linesOf (.entity list index n) fields := by
  refine List.filter_eq_self.mpr fun p hp => ?_
  obtain ⟨rule, -, rfl⟩ := List.mem_map.mp hp
  simp [Problem.about]

theorem filter_about_entityRules {a : α} {entities : List α}
    (ha : entities[index]? = some a) :
    (brokenLines (entityRules list name rules entities)).filter (·.about list index) =
      linesOf (.entity list index (name a)) (rules a) := by
  have hne (e : α × Nat) (he : e.2 ≠ index) :
      (linesOf (.entity list e.2 (name e.1)) (rules e.1)).filter (·.about list index) = [] := by
    refine filter_about_linesOf _ fun n h => he ?_
    injection h
  rw [brokenLines_entityRules, List.filter_flatMap, flatMap_zipIdx_of_ne hne]
  simp [ha, filter_about_self]

theorem filter_about_other {other : String} (h : list ≠ other) (entities : List α) :
    (brokenLines (entityRules list name rules entities)).filter (·.about other index) = [] := by
  rw [brokenLines_entityRules, List.filter_flatMap, List.flatMap_eq_nil_iff]
  intro e _
  refine filter_about_linesOf _ fun n hn => h ?_
  injection hn

theorem filter_about_names (d : Draft) :
    (brokenLines (uniqueRules d.names ++ d.freeRules)).filter (·.about list index) = [] := by
  refine List.filter_eq_nil_iff.mpr fun p hp => ?_
  obtain ⟨rule, hr, rfl⟩ := List.mem_map.mp hp
  rcases List.mem_append.mp (List.mem_filter.mp hr).1 with h | h
  · obtain ⟨e, -, rfl⟩ := List.mem_map.mp h
    simp [Rule.line, Problem.about]
  · obtain ⟨t, -, rfl⟩ := List.mem_map.mp h
    simp [Rule.line, Problem.about]

/-- The lines about an entity are those of its own broken rules. -/
theorem filter_about_rules (d : Draft) (index : Nat) :
    (∀ s, d.sources[index]? = some s → (brokenLines d.rules).filter (·.about "sources" index) =
        linesOf (.entity "sources" index s.name) s.rules) ∧
      (∀ t, d.transforms[index]? = some t →
        (brokenLines d.rules).filter (·.about "transforms" index) =
          linesOf (.entity "transforms" index t.name) t.rules) ∧
      ∀ s, d.sinks[index]? = some s → (brokenLines d.rules).filter (·.about "sinks" index) =
        linesOf (.entity "sinks" index s.name) s.rules := by
  have hrules (list : String) : (brokenLines d.rules).filter (·.about list index) =
      (brokenLines (entityRules "sources" (·.name) DraftSource.rules d.sources)).filter
          (·.about list index)
        ++ (brokenLines (entityRules "transforms" (·.name) DraftTransform.rules
          d.transforms)).filter (·.about list index)
        ++ (brokenLines (entityRules "sinks" (·.name) DraftSink.rules d.sinks)).filter
          (·.about list index) := by
    have hpipeline : (linesOf .pipeline d.pipelineRules).filter (·.about list index) = [] :=
      filter_about_linesOf _ fun n h => by cases h
    have hnames : (brokenLines (uniqueRules d.names ++ d.freeRules)).filter
        (·.about list index) = [] := filter_about_names d
    unfold Draft.rules
    rw [List.append_assoc, brokenLines_append, List.filter_append, hnames, List.append_nil]
    simp only [brokenLines_append, List.filter_append, brokenLines_field, hpipeline,
      List.nil_append]
  refine ⟨fun s hs => ?_, fun t ht => ?_, fun s hs => ?_⟩
  · rw [hrules, filter_about_entityRules hs, filter_about_other (by decide),
      filter_about_other (by decide), List.append_nil, List.append_nil]
  · rw [hrules, filter_about_entityRules ht, filter_about_other (by decide),
      filter_about_other (by decide), List.append_nil, List.nil_append]
  · rw [hrules, filter_about_entityRules hs, filter_about_other (by decide),
      filter_about_other (by decide), List.nil_append, List.nil_append]

end Draft

end StreamPipeline
