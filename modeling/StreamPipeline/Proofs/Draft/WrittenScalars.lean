import StreamPipeline.Draft.Document
import StreamPipeline.Proofs.Draft.Kinds
import StreamPipeline.Proofs.Draft.Places
import StreamPipeline.Proofs.Results

/-! # Plain scalars of a valid document

Fields that are declared as texts keep the text of a plain scalar. The version and the login of a
sink keep the text of the value that it stands for, which is another one for some spellings of
numbers and truth values.
-/

namespace StreamPipeline

open Yaml Text

/-! ### Texts of what was read -/

/-- The text is that of the value of the plain scalar `t`, and that of the scalar itself exactly if
it is one of those with the text of their value. A number is one of these only in the short form,
without a plus sign, a base, an exponent, or a zero that could be left out. -/
structure Scalar.Kept (clean : String → String) (t kept : String) : Prop where
  value : ∃ v, plain? t = some v ∧ kept = clean v.asText
  eq_iff : kept = clean t ↔ Verbatim t
  form : kept = clean t → Resolved.ofPlain t = .text t ∨
    Decimal.ShortForm t.toList ∨ t ∈ ["true", "false", "NaN", "inf", "-inf"]

namespace Scalar

variable {t s : String} {o : Option Scalar}

theorem ReadFrom.kept (h : ReadFrom t o) (hs : o.map asText = some s) : Kept id t s := by
  obtain ⟨v, hv, rfl⟩ := Option.map_eq_some_iff.mp hs
  have hplain : plain? t = some v := h.eq.symm.trans hv
  have heq := asText_eq_iff hplain
  exact ⟨⟨v, hplain, rfl⟩, heq, fun hk => (heq.mp hk).form⟩

theorem ReadFrom.kept_trim (h : ReadFrom t o) (hs : (o.map asText).map trim = some s) :
    Kept trim t s := by
  obtain ⟨r, hr, rfl⟩ := Option.map_eq_some_iff.mp hs
  obtain ⟨v, hv, rfl⟩ := Option.map_eq_some_iff.mp hr
  have hplain : plain? t = some v := h.eq.symm.trans hv
  have heq := trim_asText_eq_iff hplain
  exact ⟨⟨v, hplain, rfl⟩, heq, fun hk => (heq.mp hk).form⟩

end Scalar

/-! ### Sinks -/

namespace SinkKind

def credentials? : SinkKind → Option Credentials
  | postgres s => some s.credentials
  | starrocks s => some s.credentials
  | kafka s => some s.credentials
  | print | filesystem _ => none

def table? : SinkKind → Option String
  | postgres s => some s.table
  | starrocks s => some s.table
  | print | filesystem _ | kafka _ => none

end SinkKind

namespace DraftSink

variable {s : DraftSink}

theorem credentials_of_check {config : Option DraftConnection} {c : Credentials}
    (h : (checkCredentials config).value = some c) :
    ((config.bind (·.username)).map Scalar.asText).map trim = some c.username ∧
      (config.bind (·.password)).map Scalar.asText = some c.password := by
  simp only [checkCredentials, Option.bind_eq_bind, Option.bind_eq_some_iff, Option.pure_def,
    Option.some.injEq] at h
  obtain ⟨username, hu, password, hp, rfl⟩ := h
  refine ⟨Checked.required_value hu, ?_⟩
  unfold Checked.present at hp
  split at hp
  next v hv => rw [hv]; exact hp
  next => cases hp

/-- A sink with a login has the one of its configuration, and a table that is declared. -/
theorem kept_of_checkKind {type : SinkType} {kind : SinkKind}
    (h : (s.checkKind type).value = some kind) :
    (∀ c, kind.credentials? = some c → (checkCredentials s.config).value = some c) ∧
      ∀ table, kind.table? = some table → s.table.map trim = some table := by
  cases type with
  | postgres =>
    obtain ⟨sink, hs, rfl⟩ : ∃ sink, s.checkPostgres.value = some sink ∧ .postgres sink = kind :=
      Option.map_eq_some_iff.mp h
    simp only [checkPostgres, Option.bind_eq_bind, Option.bind_eq_some_iff, Option.pure_def,
      Option.some.injEq] at hs
    obtain ⟨_, -, _, -, _, hc, _, -, _, -, _, ht, _, -, rfl⟩ := hs
    constructor
    · rintro _ ⟨⟩
      exact hc
    · rintro _ ⟨⟩
      exact Checked.required_value ht
  | starrocks =>
    obtain ⟨sink, hs, rfl⟩ : ∃ sink, s.checkStarrocks.value = some sink ∧ .starrocks sink = kind :=
      Option.map_eq_some_iff.mp h
    simp only [checkStarrocks, Option.bind_eq_bind, Option.bind_eq_some_iff, Option.pure_def,
      Option.some.injEq] at hs
    obtain ⟨_, -, _, -, _, hc, _, -, _, ht, rfl⟩ := hs
    constructor
    · rintro _ ⟨⟩
      exact hc
    · rintro _ ⟨⟩
      exact Checked.required_value ht
  | kafka =>
    obtain ⟨sink, hs, rfl⟩ : ∃ sink, s.checkKafka.value = some sink ∧ .kafka sink = kind :=
      Option.map_eq_some_iff.mp h
    simp only [checkKafka, Option.bind_eq_bind, Option.bind_eq_some_iff, Option.pure_def,
      Option.some.injEq] at hs
    obtain ⟨_, -, _, -, _, hc, rfl⟩ := hs
    constructor
    · rintro _ ⟨⟩
      exact hc
    · rintro _ ⟨⟩
  | print =>
    obtain rfl : SinkKind.print = kind := Option.some.inj h
    constructor <;> rintro _ ⟨⟩
  | filesystem =>
    obtain ⟨name, -, rfl⟩ := Option.map_eq_some_iff.mp h
    constructor <;> rintro _ ⟨⟩

end DraftSink

/-! ### Documents -/

theorem Draft.sinks_of_validate {d : Draft} {p : Pipeline} (h : d.validate = .ok p) :
    List.Forall₂ (fun s k => s.check.value = some k) d.sinks p.sinks := by
  obtain ⟨hu, hp, hq⟩ := of_validate h
  obtain ⟨-, -, hk⟩ := entities_of_pipeline? hq
  obtain ⟨-, huk⟩ := Option.or_eq_none_iff.mp hu
  simp only [problems, List.append_eq_nil_iff] at hp
  rw [hk]
  refine forall₂_filterMap fun s hm => ?_
  obtain ⟨k, hk, -⟩ := DraftSink.check_value (faults_of_problemsOf hp.1.1.2 s hm)
    (known_of_unknownSink huk s hm)
  exact ⟨k, hk, hk⟩

theorem Draft.texts_of_validate {d : Draft} {p : Pipeline} (h : d.validate = .ok p) :
    d.name.map trim = some p.name ∧
      (d.specVersion.map Scalar.asText).map trim = some p.specVersion := by
  obtain ⟨-, -, hp⟩ := of_validate h
  simp only [pipeline?, Option.bind_eq_bind, Option.bind_eq_some_iff, Option.pure_def,
    Option.some.injEq] at hp
  obtain ⟨name, hn, version, hv, _, -, rfl⟩ := hp
  exact ⟨Checked.required_value hn, Checked.required_value hv⟩

namespace Pipeline

theorem ofDocument_of_substitute {env : Environment} {text s : String}
    (hs : substitute env text = .ok s) : ofDocument env text =
      match Draft.ofText? s with
      | some d => d.validate
      | none => .error (.config .unreadableYaml) := by
  rw [ofDocument, Draft.ofDocument, hs]
  change ((match Draft.ofText? s with
    | some d => pure d
    | none => throw (.config .unreadableYaml)) >>= Draft.validate : Except _ _) = _
  cases Draft.ofText? s <;> rfl

/-- What a valid document keeps of plain scalars. A name and a table have their texts without the
blanks around them. The version and the logins have the texts of the values that the scalars stand
for, which are their own texts exactly for the scalars in `Verbatim`. With an integer of more than
64 bits at one of these places a document cannot be read. -/
theorem ofDocument_plain_scalars {env : Environment} {text s : String} {doc : Document}
    (hs : substitute env text = .ok s) (hdoc : Document.ofText? s = some doc) :
    (∀ p, ofDocument env text = .ok p →
      (∀ t, doc.plainAt? [.field "name"] doc.top = some t → p.name = trim t) ∧
      (∀ t, doc.plainAt? [.field "specVersion"] doc.top = some t →
        Scalar.Kept trim t p.specVersion) ∧
      ∀ i n, doc.node? [.field "sinks", .item i] doc.top = some n →
        ∃ k, p.sinks[i]? = some k ∧
          (∀ t table, doc.plainAt? [.field "table"] n = some t → k.kind.table? = some table →
            table = trim t) ∧
          ∀ c, k.kind.credentials? = some c →
            (∀ t, doc.plainAt? [.field "config", .field "username"] n = some t →
              Scalar.Kept trim t c.username) ∧
            ∀ t, doc.plainAt? [.field "config", .field "password"] n = some t →
              Scalar.Kept id t c.password) ∧
    ∀ t, Resolved.ofPlain t = .tooLarge →
      (doc.plainAt? [.field "specVersion"] doc.top = some t ∨
        ∃ i n, doc.node? [.field "sinks", .item i] doc.top = some n ∧
          (doc.plainAt? [.field "config", .field "username"] n = some t ∨
            doc.plainAt? [.field "config", .field "password"] n = some t)) →
      ofDocument env text = .error (.config .unreadableYaml) := by
  rw [ofDocument_of_substitute hs]
  cases hd : Draft.ofText? s with
  | none => exact ⟨fun _ hp => (nomatch hp), fun _ _ _ => rfl⟩
  | some d =>
    obtain ⟨hname, hversion, hsinks⟩ := Draft.gave_decode (Draft.gave_of_ofText? hdoc hd)
    refine ⟨fun p hp => ?valid, fun t hlarge hplace => ?large⟩
    case valid =>
      obtain ⟨hpn, hpv⟩ := Draft.texts_of_validate hp
      refine ⟨fun t ht => ?_, fun t ht => (hversion t ht).kept_trim hpv, fun i n hn => ?_⟩
      · obtain ⟨a, ha, hpn⟩ := Option.map_eq_some_iff.mp hpn
        rw [← hpn, hname t ht a ha]
      · obtain ⟨s, depth, hs, hread⟩ := hsinks i n hn
        obtain ⟨htable, husername, hpassword⟩ := Draft.gave_sink hread
        obtain ⟨k, hk, hcheck⟩ := getElem?_of_forall₂ (Draft.sinks_of_validate hp) hs
        obtain ⟨type, -, hkind⟩ := DraftSink.kind_of_check hcheck
        obtain ⟨hcredentials, hkt⟩ := DraftSink.kept_of_checkKind hkind
        refine ⟨k, hk, fun t table ht hkind => ?_, fun c hc => ?_⟩
        · obtain ⟨a, ha, rfl⟩ := Option.map_eq_some_iff.mp (hkt table hkind)
          rw [htable t ht a ha]
        · obtain ⟨hcu, hcp⟩ := DraftSink.credentials_of_check (hcredentials c hc)
          exact ⟨fun t ht => (husername t ht).kept_trim hcu, fun t ht => (hpassword t ht).kept hcp⟩
    case large =>
      rcases hplace with ht | ⟨i, n, hn, ht⟩
      · exact absurd hlarge (hversion t ht).sized
      · obtain ⟨s, depth, -, hread⟩ := hsinks i n hn
        obtain ⟨-, husername, hpassword⟩ := Draft.gave_sink hread
        rcases ht with ht | ht
        · exact absurd hlarge (husername t ht).sized
        · exact absurd hlarge (hpassword t ht).sized

/-- A document with numbers in the places of texts. -/
def unquotedLogin : String :=
  "name: 1.50\nspecVersion: +5\nparallelism: 1\nsinks:\n- name: out\n  type: kafka\n"
    ++ "  from: events\n  topic: orders\n  kafka_servers: broker\n  config:\n"
    ++ "    username: 007\n    password: <<<PASSWORD>>>\n"

def hexPassword : Environment := [("PASSWORD", "0x10")]

theorem ofDocument_unquotedLogin : ∃ s doc n p k, substitute hexPassword unquotedLogin = .ok s ∧
    Document.ofText? s = some doc ∧ doc.plainAt? [.field "name"] doc.top = some "1.50" ∧
    doc.plainAt? [.field "specVersion"] doc.top = some "+5" ∧
    doc.node? [.field "sinks", .item 0] doc.top = some n ∧
    doc.plainAt? [.field "config", .field "username"] n = some "007" ∧
    doc.plainAt? [.field "config", .field "password"] n = some "0x10" ∧
    ofDocument hexPassword unquotedLogin = .ok p ∧ p.specVersion = "5" ∧ p.sinks[0]? = some k ∧
    k.kind.credentials? = some ⟨"007", "16"⟩ := by
  -- One evaluation of the whole run; every part of the statement is read off it.
  have hrun : ((substitute hexPassword unquotedLogin).toOption.bind fun s =>
      (Document.ofText? s).bind fun doc =>
      (doc.node? [.field "sinks", .item 0] doc.top).bind fun n =>
      (ofDocument hexPassword unquotedLogin).toOption.bind fun p => p.sinks[0]?.bind fun k =>
        some [doc.plainAt? [.field "name"] doc.top, doc.plainAt? [.field "specVersion"] doc.top,
          doc.plainAt? [.field "config", .field "username"] n,
          doc.plainAt? [.field "config", .field "password"] n, some p.specVersion,
          k.kind.credentials?.map (·.username), k.kind.credentials?.map (·.password)]) =
      some [some "1.50", some "+5", some "007", some "0x10", some "5", some "007", some "16"] := by
    decide +kernel
  simp only [Option.bind_eq_some_iff, Option.some.injEq, List.cons.injEq, and_true] at hrun
  obtain ⟨s, hs, doc, hdoc, n, hn, p, hp, k, hk, hname, hversion, hu, hpw, hv, hcu, hcp⟩ := hrun
  obtain ⟨c, hc, hcu⟩ := Option.map_eq_some_iff.mp hcu
  rw [hc] at hcp
  refine ⟨s, doc, n, p, k, toOption_eq_some_iff.mp hs, hdoc, hname, hversion, hn, hu, hpw,
    toOption_eq_some_iff.mp hp, hv, hk, ?_⟩
  rw [hc, ← hcu, ← Option.some.inj hcp]

/-- A version that has more than 64 bits. -/
def wideVersion : String := "specVersion: 18446744073709551616\n"

theorem ofPlain_wide : Resolved.ofPlain "18446744073709551616" = .tooLarge := by
  have hwide : (match Resolved.ofPlain "18446744073709551616" with
    | .tooLarge => true
    | _ => false) = true := by decide +kernel
  split at hwide
  next h => exact h
  next => cases hwide

theorem ofDocument_plain_scalars_unquotedLogin :
    (∃ p k c, ofDocument hexPassword unquotedLogin = .ok p ∧ p.sinks[0]? = some k ∧
      k.kind.credentials? = some c ∧ p.name = "1.50" ∧ Scalar.Kept trim "+5" p.specVersion ∧
      Scalar.Kept trim "007" c.username ∧ Scalar.Kept id "0x10" c.password ∧
      Verbatim "007" ∧ ¬ Verbatim "+5" ∧ ¬ Verbatim "0x10") ∧
    ofDocument [] wideVersion = .error (.config .unreadableYaml) := by
  constructor
  · obtain ⟨s, doc, n, p, k, hs, hdoc, hname, hversion, hn, hu, hpw, hp, hv, hk, hc⟩ :=
      ofDocument_unquotedLogin
    obtain ⟨hpname, hpversion, hsinks⟩ := (ofDocument_plain_scalars hs hdoc).1 p hp
    obtain ⟨k', hk', -, hlogin⟩ := hsinks 0 n hn
    obtain rfl : k = k' := Option.some.inj (hk.symm.trans hk')
    obtain ⟨husername, hpassword⟩ := hlogin _ hc
    have hkept := hpversion _ hversion
    refine ⟨p, k, _, hp, hk, hc, ?_, hkept, husername _ hu, hpassword _ hpw, ?_, ?_, ?_⟩
    · exact (hpname _ hname).trans (by decide)
    · exact (husername _ hu).eq_iff.mp (by decide)
    · rw [← hkept.eq_iff, hv]
      decide
    · rw [← (hpassword _ hpw).eq_iff]
      decide
  · have hs : substitute [] wideVersion = .ok wideVersion :=
      toOption_eq_some_iff.mp (by decide +kernel)
    have hplace : ((Document.ofText? wideVersion).bind fun doc =>
        doc.plainAt? [.field "specVersion"] doc.top) = some "18446744073709551616" := by
      decide +kernel
    obtain ⟨doc, hdoc, ht⟩ := Option.bind_eq_some_iff.mp hplace
    exact (ofDocument_plain_scalars hs hdoc).2 _ ofPlain_wide (.inl ht)

/-- Validation does not keep the texts of plain scalars. -/
theorem password_rewritten : ¬ ∀ (env : Environment) (text s : String) (doc : Document)
    (p : Pipeline), substitute env text = .ok s → Document.ofText? s = some doc →
      ofDocument env text = .ok p → ∀ t, Resolved.ofPlain t ≠ .null →
      (doc.plainAt? [.field "specVersion"] doc.top = some t → p.specVersion = trim t) ∧
      ∀ i n k c, doc.node? [.field "sinks", .item i] doc.top = some n → p.sinks[i]? = some k →
        k.kind.credentials? = some c →
        (doc.plainAt? [.field "config", .field "username"] n = some t → c.username = trim t) ∧
        (doc.plainAt? [.field "config", .field "password"] n = some t → c.password = t) := by
  intro h
  obtain ⟨s, doc, n, p, k, hs, hdoc, -, -, hn, -, hpw, hp, -, hk, hc⟩ := ofDocument_unquotedLogin
  have hnull : Resolved.ofPlain "0x10" ≠ .null := by
    intro hnull
    have hplain : (Scalar.plain? "0x10").isSome = true := by decide +kernel
    rw [Scalar.plain?, hnull] at hplain
    cases hplain
  have hkept := ((h _ _ s doc p hs hdoc hp "0x10" hnull).2 0 n k _ hn hk hc).2 hpw
  exact absurd hkept (by decide)

end Pipeline

end StreamPipeline
