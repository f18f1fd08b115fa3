import StreamPipeline.Proofs.Schema.Unsupported
import StreamPipeline.Proofs.Sql.OptionLists
import StreamPipeline.Statement.Session
import StreamPipeline.Statement.SinkTable
import StreamPipeline.Statement.SourceView

/-! # The options of a statement

A reader that passes the names and literals of a statement finds its options behind the first words
that open them, and reads exactly the options that the statement was made of. Names in front of the
clause and values in it cannot change that.
-/

namespace StreamPipeline

namespace Sql

open Text

/-! ### Finding a clause -/

/-- The options behind the first `opening` that stands outside names and literals, up to the bracket
that closes them. -/
def optionsBehind? (opening cs : List Char) : Option (List (String × String)) :=
  match afterChars? opening cs with
  | some inside =>
    match options? inside with
    | some (options, ')' :: _) => some options
    | _ => none
  | none =>
    match cs with
    | [] => none
    | c :: rest =>
      if c = '\x60' ∨ c = '\'' then
        match _h : Lexeme.untilQuote c rest with
        | some (_, _, more) => optionsBehind? opening more
        | none => none
      else optionsBehind? opening rest
termination_by cs.length
decreasing_by
  · have := length_of_untilQuote _h
    simp only [List.length_cons]
    omega
  · simp

/-- The options of the `WITH` clause of a statement. -/
def withOptions? (sql : String) : Option (List (String × String)) :=
  optionsBehind? "WITH (".toList sql.toList

/-- The options of the `OPTIONS` hint of a statement. -/
def hintOptions? (sql : String) : Option (List (String × String)) :=
  optionsBehind? "/*+ OPTIONS(".toList sql.toList

theorem optionsBehind?_options (opening : List Char) (options : List (String × String))
    (rest : List Char) :
    optionsBehind? opening (opening ++ ((renderOptions options).toList ++ ')' :: rest)) =
      some options := by
  have hends : EndsList (')' :: rest) := by
    rintro c ⟨⟩
    exact ⟨by decide, by decide⟩
  rw [optionsBehind?.eq_def, afterChars?_eq_some_iff.mpr rfl]
  simp only [options?_renderOptions options hends]

section Opening

variable {first : Char} {more : List Char}

theorem afterChars?_of_ne {c : Char} (h : c ≠ first) (rest : List Char) :
    afterChars? (first :: more) (c :: rest) = none := by
  simp [afterChars?, Ne.symm h]

/-- Characters that neither open the clause nor quote anything. -/
def Plain (first : Char) (cs : List Char) : Prop := ∀ c ∈ cs, c ∉ [first, '\x60', '\'']

instance (first : Char) (cs : List Char) : Decidable (Plain first cs) :=
  List.decidableBAll _ cs

theorem Plain.append {cs ds : List Char} (hc : Plain first cs) (hd : Plain first ds) :
    Plain first (cs ++ ds) :=
  List.forall_mem_append.mpr ⟨hc, hd⟩

theorem optionsBehind?_plain {cs : List Char} (h : Plain first cs) (rest : List Char) :
    optionsBehind? (first :: more) (cs ++ rest) = optionsBehind? (first :: more) rest := by
  induction cs with
  | nil => rfl
  | cons c cs ih =>
    obtain ⟨hc, hcs⟩ := List.forall_mem_cons.mp h
    simp only [List.mem_cons, List.not_mem_nil, or_false, not_or] at hc
    rw [List.cons_append, optionsBehind?.eq_def, afterChars?_of_ne hc.1]
    simp only [hc, or_self, if_false]
    exact ih hcs

theorem optionsBehind?_name (hf : first ≠ '\x60') (name : String) {rest : List Char}
    (hr : '\x60' ∉ rest.head?) :
    optionsBehind? (first :: more) ((quoteIdent name).toList ++ rest) =
      optionsBehind? (first :: more) rest := by
  have hu := Lexeme.untilQuote_doubling name.toList (Scan.beq_false_of_head hr)
  rw [quoteIdent, String.toList_ofList, enclose, List.cons_append, List.append_assoc,
    List.singleton_append, optionsBehind?.eq_def, afterChars?_of_ne hf.symm]
  simp only [true_or, if_true]
  split
  next hs =>
    rw [hu] at hs
    cases hs
    rfl
  next hn => rw [hu] at hn; cases hn

/-- A piece of the text in front of the clause. -/
def Passed (first : Char) (more : List Char) (text : String) : Prop :=
  ∀ rest, '\x60' ∉ rest.head? →
    optionsBehind? (first :: more) (text.toList ++ rest) = optionsBehind? (first :: more) rest

theorem passed_join {sep : String} (hs : Plain first sep.toList) (hne : sep ≠ "")
    {pieces : List String} (h : ∀ p ∈ pieces, Passed first more p) :
    Passed first more (join sep pieces) := by
  intro rest hrest
  induction pieces with
  | nil => simp [join]
  | cons p pieces ih =>
    obtain ⟨hp, hpieces⟩ := List.forall_mem_cons.mp h
    cases pieces with
    | nil => exact hp rest hrest
    | cons q pieces =>
      have hsep : '\x60' ∉ (sep.toList ++ ((join sep (q :: pieces)).toList ++ rest)).head? := by
        obtain ⟨c, cs, hc⟩ := List.exists_cons_of_ne_nil (mt String.toList_eq_nil_iff.mp hne)
        rw [hc] at hs ⊢
        rintro ⟨⟩
        exact hs '\x60' (by simp) (by simp)
      simp only [join, String.toList_append, List.append_assoc]
      rw [hp _ hsep, optionsBehind?_plain hs, ih hpieces]

theorem passed_quoteIdent (hf : first ≠ '\x60') (name : String) :
    Passed first more (quoteIdent name) := fun _ hr => optionsBehind?_name hf name hr

end Opening

end Sql

open Sql

/-! ### Sink tables -/

theorem plain_toString (n : Nat) : Plain 'W' (toString n).toList := by
  intro c hc
  have hd : c.isDigit = true := by
    rw [Nat.toString_eq_repr, Nat.toList_repr] at hc
    exact Nat.isDigit_of_mem_toDigits (by omega) (by omega) hc
  intro hm
  simp only [List.mem_cons, List.not_mem_nil, or_false] at hm
  rcases hm with rfl | rfl | rfl <;> exact absurd hd (by decide)

theorem plain_sized {t : LogicalType} {w : String} {n : Nat} (h : t.sized? = some (w, n))
    (hw : Plain 'W' w.toList) : Plain 'W' t.render.toList := by
  rw [LogicalType.render_of_sized? h]
  simp only [String.toList_append]
  exact ((hw.append (by decide)).append (plain_toString n)).append (by decide)

theorem plain_render {t : LogicalType} (hs : t.isStructured = false)
    (hu : t.findUnsupported = none) : Plain 'W' t.render.toList := by
  cases t with
  | array _ | row _ => cases hs
  | unsupported raw => cases hu
  | decimal p s =>
    simp only [LogicalType.render, String.toList_append]
    exact (((Plain.append (by decide) (plain_toString _)).append (by decide)).append
      (plain_toString _)).append (by decide)
  | time p | timestamp p | timestampLtz p | varchar p | varbinary p =>
    cases p with
    | none => decide
    | some n => exact plain_sized rfl (by decide)
  | char n | binary n => exact plain_sized rfl (by decide)
  | _ => decide

/-- No type of a sink table opens a clause or quotes anything. -/
theorem plain_runtimeType {t : LogicalType} {text : String} (h : t.runtimeType = .ok text) :
    Plain 'W' text.toList := by
  unfold LogicalType.runtimeType at h
  split at h
  · cases h
  next hu =>
    cases hs : t.isStructured with
    | true =>
      obtain rfl : text = "STRING" := by simpa [hs] using (Except.ok.inj h).symm
      decide
    | false =>
      obtain rfl : text = t.render := by simpa [hs] using (Except.ok.inj h).symm
      exact plain_render hs hu

variable {more : List Char}

theorem passed_runtimeDef {c : Column} {text : String} (h : c.dataType.runtimeType = .ok text) :
    Passed 'W' more (c.runtimeDef text) := by
  intro rest _
  have hspace : Plain 'W' (" " ++ text).toList := by
    rw [String.toList_append]
    exact Plain.append (by decide) (plain_runtimeType h)
  have htext : (c.runtimeDef text).toList ++ rest =
      (quoteIdent c.name).toList ++ ((" " ++ text).toList ++ rest) := by
    simp [Column.runtimeDef]
  rw [htext, optionsBehind?_name (by decide) _ (by simp), optionsBehind?_plain hspace]

theorem passed_runtimeDefs {view : String} {columns : List Column} {defs : List String}
    (h : Column.runtimeDefs view columns = .ok defs) : ∀ d ∈ defs, Passed 'W' more d := by
  have hall := Column.forall₂_of_define h
  clear h
  induction hall with
  | nil => simp
  | cons hc _ ih =>
    obtain ⟨text, ht, rfl⟩ := hc
    exact List.forall_mem_cons.mpr ⟨passed_runtimeDef ht, ih⟩

theorem passed_keyClause (kind : SinkKind) : ∀ d ∈ kind.keyClause, Passed 'W' more d := by
  cases kind with
  | postgres s =>
    simp only [SinkKind.keyClause, List.mem_singleton, forall_eq]
    intro rest hrest
    have hkey : Passed 'W' more (Text.join ", " (s.primaryKey.map quoteIdent)) :=
      passed_join (by decide) (by decide)
        (by simpa using fun k _ => passed_quoteIdent (by decide) k)
    simp only [String.toList_append, List.append_assoc]
    rw [optionsBehind?_plain (by decide), hkey _ (by simp), optionsBehind?_plain (by decide)]
  | _ => simp [SinkKind.keyClause]

theorem withOptions?_sinkTable (settings : Settings) (sink : String) (kind : SinkKind)
    {view : String} {columns : List Column} {defs : List String}
    (h : Column.runtimeDefs view columns = .ok defs) :
    withOptions? (sinkTableStatement settings sink kind defs) = some (kind.options settings) := by
  have hdefs : Passed 'W' "ITH (".toList (Text.join ", " (defs ++ kind.keyClause)) :=
    passed_join (by decide) (by decide)
      (List.forall_mem_append.mpr ⟨passed_runtimeDefs h, passed_keyClause kind⟩)
  have hopen : ") WITH (" = ") " ++ "WITH (" := by decide
  have hwith : "WITH (".toList = 'W' :: "ITH (".toList := by decide
  unfold withOptions? sinkTableStatement
  rw [hopen]
  simp only [String.toList_append, List.append_assoc]
  rw [hwith, optionsBehind?_plain (by decide), optionsBehind?_name (by decide) _ (by simp),
    optionsBehind?_plain (by decide), hdefs _ (by simp), optionsBehind?_plain (by decide)]
  exact optionsBehind?_options _ _ _

theorem withOptions?_catalog (settings : Settings) :
    withOptions? settings.catalogStatement = some settings.catalogOptions := by
  have hopen : " WITH (" = " " ++ "WITH (" := by decide
  have hwith : "WITH (".toList = 'W' :: "ITH (".toList := by decide
  unfold withOptions? Settings.catalogStatement
  rw [hopen]
  simp only [String.toList_append, List.append_assoc]
  rw [hwith, optionsBehind?_plain (by decide), optionsBehind?_name (by decide) _ (by simp),
    optionsBehind?_plain (by decide)]
  exact optionsBehind?_options _ _ _

/-! ### Source views -/

/-- The options of a scan, as the kind of the source has them. -/
def Source.hintOptions (now : Int) (s : Source) : List (String × String) :=
  match s.kind with
  | .lookup cache => s.lookupOptions cache
  | kind => s.scanOptions (kind.scanMode now)

theorem Source.scanText_eq (catalog : String) (now : Int) (s : Source) :
    s.scanText catalog now = s.scan catalog (s.hintOptions now) := by
  unfold scanText hintOptions
  cases s.kind <;> rfl

theorem passed_quotePath {first : Char} (hf : first ∉ ['\x60', '.']) (path : String) :
    Passed first more (quotePath path) := by
  simp only [List.mem_cons, List.not_mem_nil, or_false, not_or] at hf
  have hdot : Plain first ".".toList := by
    intro c hc
    obtain rfl : c = '.' := by simpa using hc
    simp [Ne.symm hf.2]
  exact passed_join hdot (by decide) (by simpa using fun p _ => passed_quoteIdent hf.1 p)

/-- The hint of a scan is found, whatever follows the scan. -/
theorem optionsBehind?_scan (catalog : String) (s : Source) (options : List (String × String))
    (rest : List Char) :
    optionsBehind? "/*+ OPTIONS(".toList ((s.scan catalog options).toList ++ rest) =
      some options := by
  have hopen : " /*+ OPTIONS(" = " " ++ "/*+ OPTIONS(" := by decide
  have hhint : "/*+ OPTIONS(".toList = '/' :: "*+ OPTIONS(".toList := by decide
  unfold Source.scan
  rw [hopen]
  simp only [String.toList_append, List.append_assoc]
  rw [hhint, optionsBehind?_plain (by decide), optionsBehind?_name (by decide) _ (by simp),
    optionsBehind?_plain (by decide), passed_quotePath (by decide) _ _ (by simp),
    optionsBehind?_plain (by decide)]
  exact optionsBehind?_options _ _ _

theorem function_of_window? {kind : SourceKind} {w : Window} (h : kind.window? = some w) :
    w.function ∈ ["TUMBLE", "HOP", "CUMULATE"] := by
  cases kind <;> cases h <;> simp

theorem hintOptions?_view (catalog : String) (now : Int) (s : Source) :
    hintOptions? (s.viewStatement catalog now) = some (s.hintOptions now) := by
  have hhint : "/*+ OPTIONS(".toList = '/' :: "*+ OPTIONS(".toList := by decide
  unfold hintOptions? Source.viewStatement
  simp only [String.toList_append, List.append_assoc]
  rw [hhint, optionsBehind?_plain (by decide), optionsBehind?_name (by decide) _ (by simp),
    optionsBehind?_plain (by decide)]
  unfold Source.viewBody
  cases hw : s.kind.window? with
  | none =>
    have h := optionsBehind?_scan catalog s (s.hintOptions now) []
    rwa [List.append_nil, ← s.scanText_eq] at h
  | some w =>
    have hfunction : Plain '/' w.function.toList := by
      have hall : ∀ f ∈ ["TUMBLE", "HOP", "CUMULATE"], Plain '/' f.toList := by decide
      exact hall _ (function_of_window? hw)
    unfold Window.apply
    simp only [String.toList_append, List.append_assoc]
    rw [optionsBehind?_plain (by decide), optionsBehind?_plain hfunction,
      optionsBehind?_plain (by decide), s.scanText_eq]
    exact optionsBehind?_scan _ _ _ _

/-- Reading an option list by the rule for literals gives back exactly the list that was rendered,
whatever its keys and values contain. So different lists have different texts, and in the statements
that have options a reader finds exactly those of the sink, of the catalog and of the source. -/
theorem options_read_back :
    (∀ options, readOptions? (renderOptions options) = some options) ∧
      (∀ options options', renderOptions options = renderOptions options' → options = options') ∧
      (∀ settings sink (kind : SinkKind) view columns defs,
        Column.runtimeDefs view columns = .ok defs →
          withOptions? (sinkTableStatement settings sink kind defs) =
            some (kind.options settings)) ∧
      (∀ settings : Settings,
        withOptions? settings.catalogStatement = some settings.catalogOptions) ∧
      ∀ catalog now (s : Source),
        hintOptions? (s.viewStatement catalog now) = some (s.hintOptions now) :=
  ⟨readOptions?_renderOptions, fun _ _ h => renderOptions_injective h,
    fun settings sink kind _ _ _ h => withOptions?_sinkTable settings sink kind h,
    withOptions?_catalog, hintOptions?_view⟩

/-- A sink with values that look like more options. -/
def quotedLogin : SinkKind :=
  .starrocks ⟨"db", 9030, 8030, ⟨"o'neil", "x', 'sink.version' = 'V1"⟩, "shop", "'"⟩

/-- A column with a name that looks like another clause. -/
def clauseColumn : Column := ⟨"note` INT) WITH ('connector' = 'print'", .int, true, none⟩

theorem options_read_back_quotedLogin :
    Column.runtimeDefs "orders" [clauseColumn] =
        .ok ["`note`` INT) WITH ('connector' = 'print'` INT"] ∧
      withOptions? (sinkTableStatement {} "copy` WITH (" quotedLogin
        ["`note`` INT) WITH ('connector' = 'print'` INT"]) =
          some [("connector", "starrocks"), ("jdbc-url", "jdbc:mysql://db:9030/shop"),
            ("load-url", "db:8030"), ("database-name", "shop"), ("table-name", "'"),
            ("username", "o'neil"), ("password", "x', 'sink.version' = 'V1")] := by
  have hdefs : Column.runtimeDefs "orders" [clauseColumn] =
      .ok ["`note`` INT) WITH ('connector' = 'print'` INT"] := rfl
  obtain ⟨-, -, hsinks, -⟩ := options_read_back
  exact ⟨hdefs, (hsinks {} "copy` WITH (" quotedLogin _ _ _ hdefs).trans rfl⟩

end StreamPipeline
