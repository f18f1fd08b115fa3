import StreamPipeline.Proofs.Draft.Kinds
import StreamPipeline.Proofs.Sql.IntervalUnits
import StreamPipeline.Statement.SourceView

/-! # Calls of window functions

The view of a windowed source calls the function of its window with the time column, the lengths
that the type requires and the offset if there is one. A valid document gives every length a text
that is not blank. The offset is only asked to be given: a blank one leaves a blank argument.
-/

namespace StreamPipeline

open Text

/-! ### Intervals that are not blank -/

theorem Checked.required_not_blank {field : String} {v : Option String} {a : String}
    (h : (required field v).value = some a) : isBlankText a = false := by
  obtain ⟨raw, -, rfl⟩ := Option.map_eq_some_iff.mp (required_value h)
  rw [isBlankText_trim]
  by_contra hb
  exact required_ne_empty h (trim_eq_empty_iff.mpr (Bool.not_eq_false _ ▸ hb))

theorem Sql.isBlankText_intervalExpr (value : String) :
    isBlankText (intervalExpr value) = isBlankText value := by
  unfold intervalExpr
  cases hv : shorthand? value with
  | none => exact isBlankText_trim value
  | some parts =>
    obtain ⟨digits, spelling⟩ := parts
    obtain ⟨unit, ⟨before, between, after, hvalue, -⟩, -, -, hunit⟩ := exists_shorthand hv
    obtain ⟨c, rest, rfl⟩ := List.exists_cons_of_ne_nil hunit.ne_nil
    have hc : isBlank c = false := (hunit.letter c (by simp)).2
    have hblank : isBlankText value = false := by
      rw [isBlankText, hvalue]
      simp [hc]
    have hliteral : isBlankText (intervalLiteral digits (IntervalUnit.ofSpelling (c :: rest))) =
        false := by
      have hi : isBlank 'I' = false := by decide
      simp [intervalLiteral, isBlankText, hi]
    rw [hblank]
    exact hliteral

/-! ### Calls -/

/-- A call of a window function: the function, its time column, the lengths that it requires in the
order of its arguments, and the offset if there is one. -/
structure WindowCall where
  function : String
  timecol : String
  lengths : List String
  offset : Option String
deriving Repr, DecidableEq

namespace WindowCall

def arguments (c : WindowCall) : List String :=
  (c.lengths ++ c.offset.toList).map Sql.intervalExpr

/-- The query that makes the call over a scan. -/
def query (scan : String) (c : WindowCall) : String :=
  "SELECT * FROM TABLE(" ++ c.function ++ "((" ++ scan ++ "), DESCRIPTOR("
    ++ Sql.quoteIdent c.timecol ++ "), " ++ join ", " c.arguments ++ "))"

theorem arguments_not_blank_iff {c : WindowCall}
    (h : ∀ length ∈ c.lengths, isBlankText length = false) :
    (∀ a ∈ c.arguments, isBlankText a = false) ↔ ∀ o ∈ c.offset, isBlankText o = false := by
  simp only [arguments, List.forall_mem_map, Sql.isBlankText_intervalExpr, List.forall_mem_append,
    Option.mem_toList]
  exact ⟨fun ha => ha.2, fun ho => ⟨h, ho⟩⟩

end WindowCall

/-- The call that a kind of source stands for. -/
def SourceKind.call? : SourceKind → Option WindowCall
  | dataset | lookup _ => none
  | tumble timecol size offset => some ⟨"TUMBLE", timecol, [size], offset⟩
  | hop timecol slide size offset => some ⟨"HOP", timecol, [slide, size], offset⟩
  | cumulate timecol step size offset => some ⟨"CUMULATE", timecol, [step, size], offset⟩

theorem Source.viewStatement_of_call? {s : Source} {c : WindowCall} (h : s.kind.call? = some c)
    (catalog : String) (now : Int) : s.viewStatement catalog now =
      "CREATE TEMPORARY VIEW " ++ Sql.quoteIdent s.name ++ " AS "
        ++ c.query (s.scanText catalog now) := by
  have hwindow : s.kind.window? = some ⟨c.function, c.timecol, c.lengths ++ c.offset.toList⟩ := by
    cases hk : s.kind with
    | dataset | lookup _ => rw [hk] at h; cases h
    | tumble timecol size offset | hop timecol slide size offset
    | cumulate timecol step size offset =>
      rw [hk] at h
      obtain rfl := Option.some.inj h
      rfl
  have hbody : s.viewBody catalog now = c.query (s.scanText catalog now) := by
    unfold viewBody
    rw [hwindow]
    rfl
  unfold viewStatement
  rw [hbody]

namespace DraftSource

/-- What a draft gives for the lengths of its type. -/
def givenLengths (s : DraftSource) : SourceType → List (Option Scalar)
  | .dataset | .lookup => []
  | .tumble => [s.size]
  | .hop => [s.slide, s.size]
  | .cumulate => [s.step, s.size]

/-- The call has the time column and the lengths that the draft gives, without the blanks around
them, and the offset that it gives as it was written. -/
structure Gives (s : DraftSource) (type : SourceType) (c : WindowCall) : Prop where
  timecol : s.timecol.map trim = some c.timecol
  lengths : List.Forall₂ (fun given length => (given.map Scalar.asText).map trim = some length)
    (s.givenLengths type) c.lengths
  not_blank : ∀ length ∈ c.lengths, isBlankText length = false
  offset : c.offset = s.offset.map Scalar.asText

theorem gives_of_checkKind {s : DraftSource} {type : SourceType} {kind : SourceKind}
    {c : WindowCall} (h : (s.checkKind type).value = some kind) (hc : kind.call? = some c) :
    s.Gives type c := by
  have hlength {field : String} {given : Option Scalar} {length : String}
      (h : (Checked.requiredScalar field given).value = some length) :
      (given.map Scalar.asText).map trim = some length ∧ isBlankText length = false :=
    ⟨Checked.required_value h, Checked.required_not_blank h⟩
  cases type with
  | dataset => obtain rfl : SourceKind.dataset = kind := Option.some.inj h; cases hc
  | lookup => obtain rfl : SourceKind.lookup _ = kind := Option.some.inj h; cases hc
  | tumble =>
    simp only [checkKind, Option.bind_eq_bind, Option.bind_eq_some_iff, Option.pure_def,
      Option.some.injEq] at h
    obtain ⟨timecol, ht, size, hz, rfl⟩ := h
    obtain rfl := Option.some.inj hc
    obtain ⟨hz, hzb⟩ := hlength hz
    exact ⟨Checked.required_value ht, .cons hz .nil, by simpa using hzb, rfl⟩
  | hop =>
    simp only [checkKind, Option.bind_eq_bind, Option.bind_eq_some_iff, Option.pure_def,
      Option.some.injEq] at h
    obtain ⟨timecol, ht, slide, hs, size, hz, rfl⟩ := h
    obtain rfl := Option.some.inj hc
    obtain ⟨hs, hsb⟩ := hlength hs
    obtain ⟨hz, hzb⟩ := hlength hz
    exact ⟨Checked.required_value ht, .cons hs (.cons hz .nil), by simp [hsb, hzb], rfl⟩
  | cumulate =>
    simp only [checkKind, Option.bind_eq_bind, Option.bind_eq_some_iff, Option.pure_def,
      Option.some.injEq] at h
    obtain ⟨timecol, ht, step, hs, size, hz, rfl⟩ := h
    obtain rfl := Option.some.inj hc
    obtain ⟨hs, hsb⟩ := hlength hs
    obtain ⟨hz, hzb⟩ := hlength hz
    exact ⟨Checked.required_value ht, .cons hs (.cons hz .nil), by simp [hsb, hzb], rfl⟩

end DraftSource

namespace Draft

/-- The view of a windowed source of a valid document calls the function of its type with the
lengths and the offset that the document gives. No length is blank, so an argument is blank if and
only if it is that of an offset that is given as a blank text. -/
theorem window_calls {d : Draft} {p : Pipeline} (h : d.validate = .ok p) {s : Source}
    (hs : s ∈ p.sources) {c : WindowCall} (hc : s.kind.call? = some c) (catalog : String)
    (now : Int) :
    s.viewStatement catalog now =
        "CREATE TEMPORARY VIEW " ++ Sql.quoteIdent s.name ++ " AS "
          ++ c.query (s.scanText catalog now) ∧
      (∃ raw ∈ d.sources, ∃ type, raw.check.value = some s ∧ raw.type? = some type ∧
        raw.Gives type c) ∧
      ((∀ a ∈ c.arguments, isBlankText a = false) ↔ ∀ o ∈ c.offset, isBlankText o = false) := by
  obtain ⟨-, -, hp⟩ := of_validate h
  rw [(entities_of_pipeline? hp).1] at hs
  obtain ⟨raw, hraw, hcheck⟩ := List.mem_filterMap.mp hs
  obtain ⟨type, htype, hkind⟩ := DraftSource.kind_of_check hcheck
  have hgives := DraftSource.gives_of_checkKind hkind hc
  exact ⟨Source.viewStatement_of_call? hc catalog now, ⟨raw, hraw, type, hcheck, htype, hgives⟩,
    WindowCall.arguments_not_blank_iff hgives.not_blank⟩

/-- One sliding window with the offset. -/
def slidingBy (offset : String) : Draft where
  name := some "demo"
  specVersion := some (.text "v1")
  parallelism := some (.int 1)
  sources := [
    { name := some "events", tag := some "hop_window_dataset", dataset := some "zkevm.blocks"
      timecol := some "ts", slide := some (.text " 1min"), size := some (.text "5 min")
      offset := some (.text offset) }]

def slidingSource (offset : String) : Source where
  name := "events"
  dataset := "zkevm.blocks"
  filter := none
  parallelism := 1
  kind := .hop "ts" "1min" "5 min" (some offset)

theorem validate_slidingBy (offset : String) : (slidingBy offset).validate = .ok {
    name := "demo"
    specVersion := "v1"
    parallelism := 1
    checkpointDir := "file:///opt/flink/checkpoint"
    savepointDir := "file:///opt/flink/savepoint"
    sources := [slidingSource offset]
    transforms := []
    sinks := [] } :=
  rfl

theorem window_calls_sliding : ∃ p, (slidingBy "30s").validate = .ok p ∧
    ∃ s ∈ p.sources, ∃ c, s.kind.call? = some c ∧
      s.viewStatement "paimon" 0 =
        "CREATE TEMPORARY VIEW \x60events\x60 AS " ++ c.query (s.scanText "paimon" 0) ∧
      c.arguments = ["INTERVAL '1' MINUTE", "INTERVAL '5' MINUTE", "INTERVAL '30' SECOND"] ∧
      ∀ a ∈ c.arguments, isBlankText a = false := by
  have h := window_calls (validate_slidingBy "30s") (List.mem_singleton_self _)
    (c := ⟨"HOP", "ts", ["1min", "5 min"], some "30s"⟩) rfl "paimon" 0
  refine ⟨_, validate_slidingBy "30s", _, List.mem_singleton_self _, _, rfl, h.1, by decide, ?_⟩
  exact h.2.2.mpr (by decide)

/-- An empty offset is accepted and leaves an empty argument. -/
theorem blank_offset_accepted : ¬ ∀ (d : Draft) (p : Pipeline), d.validate = .ok p →
    ∀ s ∈ p.sources, ∀ c, s.kind.call? = some c → ∀ a ∈ c.arguments, isBlankText a = false := by
  intro h
  have harguments := h _ _ (validate_slidingBy "") _ (List.mem_singleton_self _)
    ⟨"HOP", "ts", ["1min", "5 min"], some ""⟩ rfl
  exact absurd (harguments "" (by decide)) (by decide)

end Draft

end StreamPipeline
