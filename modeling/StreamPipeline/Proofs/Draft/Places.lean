import Mathlib.Data.List.Forall2
import StreamPipeline.Draft.Reader
import StreamPipeline.Proofs.Draft.ScalarText

/-! # Places in documents

A path leads to a node of a document. A reader that gives a value for the whole document gave one
for the node at each place that it reads.
-/

namespace StreamPipeline

theorem getElem?_of_forall₂ {α β : Type} {R : α → β → Prop} {l : List α} {m : List β}
    (h : List.Forall₂ R l m) {i : Nat} {a : α} (ha : l[i]? = some a) :
    ∃ b, m[i]? = some b ∧ R a b := by
  induction h generalizing i with
  | nil => cases ha
  | cons hr _ ih =>
    cases i with
    | zero => exact ⟨_, rfl, Option.some.inj ha ▸ hr⟩
    | succ i => exact ih ha

namespace Yaml

/-- A node that counts as missing. -/
def Node.isNull : Node → Bool
  | .scalar (some "tag:yaml.org,2002:null") true s => isNullWord s.toList
  | .scalar none true s => s.isEmpty || isNullWord s.toList
  | _ => false

/-! ### Paths -/

inductive Step where
  | field (key : String)
  | item (i : Nat)

namespace Document

variable (doc : Document)

/-- The node itself, or what an alias stands for. -/
def target? : Node → Option Node
  | .reference id => doc.resolve? id
  | n => some n

/-- The text of a scalar of any kind. -/
def text? (n : Node) : Option String :=
  match doc.target? n with
  | some (.scalar _ _ s) => some s
  | _ => none

/-- The text of a scalar without quotes and without a tag. -/
def plain? (n : Node) : Option String :=
  match doc.target? n with
  | some (.scalar none true s) => some s
  | _ => none

def step? (n : Node) : Step → Option Node
  | .field key =>
    match doc.target? n with
    | some (.mapping _ entries) =>
      (entries.find? fun e => doc.text? e.1 == some key).map (·.2)
    | _ => none
  | .item i =>
    match doc.target? n with
    | some (.sequence _ items) => items[i]?
    | _ => none

def node? (path : List Step) (n : Node) : Option Node := path.foldlM doc.step? n

/-- The plain scalar at a place. -/
def plainAt? (path : List Step) (n : Node) : Option String := (doc.node? path n).bind doc.plain?

/-- Where paths begin. -/
def top : Node := doc.root.getD .empty

variable {doc}

theorem plainAt?_cons {s : Step} {path : List Step} {n : Node} :
    doc.plainAt? (s :: path) n = (doc.step? n s).bind (doc.plainAt? path) := by
  rw [plainAt?, node?, List.foldlM_cons, Option.bind_eq_bind, Option.bind_assoc]
  rfl

/-- What an alias stands for has the same parts. -/
theorem step?_of_target? {n m v : Node} {s : Step} (hm : doc.target? n = some m)
    (h : doc.step? n s = some v) : m.isNull = false ∧ doc.step? m s = some v := by
  cases s with
  | field key =>
    rw [step?, hm] at h
    cases m with
    | mapping tag entries => exact ⟨rfl, h⟩
    | _ => cases h
  | item i =>
    rw [step?, hm] at h
    cases m with
    | sequence tag items => exact ⟨rfl, h⟩
    | _ => cases h

theorem target?_of_plain? {n : Node} {t : String} (h : doc.plain? n = some t) :
    doc.target? n = some (.scalar none true t) := by
  unfold plain? at h
  split at h
  next ht => obtain rfl := Option.some.inj h; exact ht
  next => cases h

theorem text?_of_target? {n : Node} {tag : Option String} {plain : Bool} {s : String}
    (h : doc.target? n = some (.scalar tag plain s)) : doc.text? n = some s := by
  rw [text?, h]

/-- A plain scalar counts as missing if it stands for null. -/
theorem isNull_plain {t : String} (h : (Node.scalar none true t).isNull = true) :
    Resolved.ofPlain t = .null := by
  rcases Bool.or_eq_true_iff.mp h with h | h
  · obtain rfl : t = "" := by simpa using h
    rfl
  · rw [Resolved.ofPlain, h, Bool.or_true]
    rfl

end Document

/-! ### Values that were given -/

namespace Decode

/-- The reader gave the value, with some number of aliases left. -/
def Gave {α : Type} (doc : Document) (x : Decode α) (a : α) : Prop :=
  ∃ left rest, x doc left = some (a, rest)

variable {α β : Type} {doc : Document} {x : Decode α} {n v m : Node} {fs : List (String × Node)}

theorem Gave.bind {f : α → Decode β} {b : β} (h : Gave doc (x >>= f) b) :
    ∃ a, Gave doc x a ∧ Gave doc (f a) b := by
  obtain ⟨left, rest, h⟩ := h
  obtain ⟨⟨a, mid⟩, ha, hb⟩ := Option.bind_eq_some_iff.mp h
  exact ⟨a, ⟨left, mid, ha⟩, mid, rest, hb⟩

theorem Gave.pure {a b : α} (h : Gave doc (Pure.pure a) b) : a = b := by
  obtain ⟨left, rest, h⟩ := h
  exact (Prod.mk.inj (Option.some.inj h)).1

theorem not_gave_fail {a : α} : ¬ Gave doc fail a := by
  rintro ⟨left, rest, h⟩
  cases h

theorem Gave.ofOption {o : Option α} {a : α} (h : Gave doc (Decode.ofOption o) a) : o = some a := by
  cases o with
  | none => exact absurd h not_gave_fail
  | some b => exact congrArg some h.pure

theorem Gave.mapM {f : α → Decode β} {l : List α} {bs : List β} (h : Gave doc (l.mapM f) bs) :
    List.Forall₂ (fun a b => Gave doc (f a) b) l bs := by
  induction l generalizing bs with
  | nil =>
    rw [List.mapM_nil] at h
    obtain rfl := h.pure
    exact .nil
  | cons a l ih =>
    rw [List.mapM_cons] at h
    obtain ⟨b, hb, h⟩ := h.bind
    obtain ⟨cs, hcs, h⟩ := h.bind
    obtain rfl := h.pure
    exact .cons hb (ih hcs)

theorem Gave.follow (h : Gave doc (Decode.follow n) m) : doc.target? n = some m := by
  cases n with
  | reference id =>
    obtain ⟨left, -, h⟩ := h.bind
    split at h
    · exact absurd h not_gave_fail
    · obtain ⟨-, -, h⟩ := h.bind
      obtain ⟨d, hd, h⟩ := h.bind
      obtain ⟨l, r, hd⟩ := hd
      obtain rfl : doc = d := (Prod.mk.inj (Option.some.inj hd)).1
      split at h
      next target ht => exact ht.trans (congrArg some h.pure)
      next => exact absurd h not_gave_fail
  | _ => exact congrArg some h.pure

theorem Gave.text {s : String} (h : Gave doc (Decode.text n) s) : doc.text? n = some s := by
  obtain ⟨m, hm, h⟩ := h.bind
  split at h
  · rw [Document.text?_of_target? hm.follow, h.pure]
  · exact absurd h not_gave_fail

/-- A value of a node that counts as missing is none, and no other one is. -/
theorem Gave.optional {inner : Node → Decode α} {o : Option α}
    (h : Gave doc (Decode.optional inner n) o) : ∃ m, doc.target? n = some m ∧
      (o = none ∧ m.isNull = true ∨ ∃ a, o = some a ∧ Gave doc (inner m) a) := by
  have hsome {m : Node} (h : Gave doc (do return some (← inner m)) o) :
      ∃ a, o = some a ∧ Gave doc (inner m) a := by
    obtain ⟨a, ha, h⟩ := h.bind
    exact ⟨a, h.pure.symm, ha⟩
  obtain ⟨m, hm, h⟩ := h.bind
  refine ⟨m, hm.follow, ?_⟩
  split at h
  · split at h
    next hn => exact .inl ⟨h.pure.symm, hn⟩
    next => exact absurd h not_gave_fail
  · split at h
    next hn => exact .inl ⟨h.pure.symm, hn⟩
    next => exact .inr (hsome h)
  · exact .inr (hsome h)

/-! ### Values at places -/

theorem Gave.fields {depth : Nat} {key : String} (h : Gave doc (Decode.fields depth n) fs)
    (hv : doc.step? n (.field key) = some v) : (key, v) ∈ fs := by
  obtain ⟨m, hm, h⟩ := h.bind
  rw [Document.step?, hm.follow] at hv
  split at hv
  next tag entries ht =>
    obtain rfl := Option.some.inj ht
    dsimp only at h
    split at h
    · exact absurd h not_gave_fail
    obtain ⟨e, he, rfl⟩ := Option.map_eq_some_iff.mp hv
    obtain ⟨i, hi⟩ := List.getElem?_of_mem (List.mem_of_find?_eq_some he)
    obtain ⟨f, hf, hread⟩ := getElem?_of_forall₂ h.mapM hi
    obtain ⟨k, hk, hread⟩ := hread.bind
    have hkey : doc.text? e.1 = some key := by simpa using List.find?_some he
    obtain rfl : k = key := Option.some.inj (hk.text.symm.trans hkey)
    exact hread.pure ▸ List.mem_of_getElem? hf
  next => cases hv

theorem Gave.field {inner : Node → Decode α} {o : Option α} {key : String} (hv : (key, v) ∈ fs)
    (h : Gave doc (Decode.field [key] inner fs) o) : ∃ a, o = some a ∧ Gave doc (inner v) a := by
  have hm : (key, v) ∈ fs.filter fun f => [key].contains f.1 := by simp [hv]
  unfold Decode.field at h
  split at h
  next hnil => rw [hnil] at hm; cases hm
  next f hone =>
    rw [hone] at hm
    obtain rfl := List.mem_singleton.mp hm
    obtain ⟨a, ha, h⟩ := h.bind
    exact ⟨a, h.pure.symm, ha⟩
  next => exact absurd h not_gave_fail

theorem Gave.optionalField {inner : Node → Decode α} {o : Option α} {key : String}
    (hv : (key, v) ∈ fs) (h : Gave doc (Decode.optionalField [key] inner fs) o) :
    ∃ m, doc.target? v = some m ∧
      (o = none ∧ m.isNull = true ∨ ∃ a, o = some a ∧ Gave doc (inner m) a) := by
  obtain ⟨b, hb, h⟩ := h.bind
  obtain ⟨c, rfl, hc⟩ := hb.field hv
  obtain rfl := h.pure
  exact hc.optional

theorem Gave.list {inner : Node → Decode α} {depth i : Nat} {as : List α}
    (h : Gave doc (Decode.list depth inner n) as) (hv : doc.step? n (.item i) = some v) :
    ∃ a, as[i]? = some a ∧ Gave doc (inner v) a := by
  obtain ⟨nodes, hnodes, h⟩ := h.bind
  obtain ⟨m, hm, hnodes⟩ := hnodes.bind
  rw [Document.step?, hm.follow] at hv
  split at hv
  next tag items ht =>
    obtain rfl := Option.some.inj ht
    dsimp only at hnodes
    split at hnodes
    · exact absurd hnodes not_gave_fail
    obtain rfl := hnodes.pure
    exact getElem?_of_forall₂ h.mapM hv
  next => cases hv

/-- A record at a field of a record. -/
theorem Gave.record {inner : Node → Decode α} {o : Option α} {key : String} {s : Step} {w : Node}
    {depth : Nat} (hfs : Gave doc (Decode.fields depth n) fs)
    (hv : doc.step? n (.field key) = some v) (hw : doc.step? v s = some w)
    (h : Gave doc (Decode.optionalField [key] inner fs) o) :
    ∃ m a, doc.step? m s = some w ∧ o = some a ∧ Gave doc (inner m) a := by
  obtain ⟨m, hm, h⟩ := h.optionalField (hfs.fields hv)
  obtain ⟨hnull, hw⟩ := Document.step?_of_target? hm hw
  rcases h with ⟨-, h⟩ | ⟨a, ha, h⟩
  · rw [hnull] at h
    cases h
  · exact ⟨m, a, hw, ha, h⟩

/-- A plain scalar at a field of a record. -/
theorem Gave.plain {inner : Node → Decode α} {o : Option α} {key t : String} {depth : Nat}
    (hfs : Gave doc (Decode.fields depth n) fs) (ht : doc.plainAt? [.field key] n = some t)
    (h : Gave doc (Decode.optionalField [key] inner fs) o) :
    o = none ∧ Resolved.ofPlain t = .null ∨
      ∃ a, o = some a ∧ Gave doc (inner (.scalar none true t)) a := by
  rw [Document.plainAt?_cons] at ht
  obtain ⟨v, hv, ht⟩ := Option.bind_eq_some_iff.mp ht
  obtain ⟨m, hm, h⟩ := h.optionalField (hfs.fields hv)
  obtain rfl : m = .scalar none true t :=
    Option.some.inj (hm.symm.trans (Document.target?_of_plain? ht))
  exact h.imp_left (And.imp_right Document.isNull_plain)

theorem Gave.plainText {o : Option String} {key t : String} {depth : Nat}
    (hfs : Gave doc (Decode.fields depth n) fs) (ht : doc.plainAt? [.field key] n = some t)
    (h : Gave doc (Decode.optionalField [key] Decode.text fs) o) : ∀ a ∈ o, a = t := by
  rcases hfs.plain ht h with ⟨rfl, -⟩ | ⟨a, rfl, ha⟩
  · rintro _ ⟨⟩
  · rintro _ ⟨⟩
    exact (Option.some.inj ha.text).symm

end Decode

end Yaml

open Yaml Decode

/-- What is read at a field with the plain scalar `t`. -/
structure Scalar.ReadFrom (t : String) (o : Option Scalar) : Prop where
  eq : o = plain? t
  sized : Resolved.ofPlain t ≠ .tooLarge

theorem Scalar.readFrom_of_gave {doc : Document} {n : Node} {fs : List (String × Node)}
    {o : Option Scalar} {key t : String} {depth : Nat} (hfs : Gave doc (fields depth n) fs)
    (ht : doc.plainAt? [.field key] n = some t)
    (h : Gave doc (optionalField [key] Scalar.decode fs) o) : ReadFrom t o := by
  rcases hfs.plain ht h with ⟨rfl, hnull⟩ | ⟨v, rfl, hv⟩
  · refine ⟨?_, ?_⟩ <;> simp [plain?, hnull, ofResolved]
  · obtain ⟨m, hm, hv⟩ := hv.bind
    obtain rfl := Option.some.inj hm.follow
    have hplain : plain? t = some v := hv.ofOption
    refine ⟨hplain.symm, fun hlarge => ?_⟩
    rw [plain?, hlarge] at hplain
    cases hplain

namespace Draft

variable {doc : Document} {n : Node} {depth : Nat}

theorem gave_connection {c : DraftConnection} (h : Gave doc (connection depth n) c) :
    (∀ t, doc.plainAt? [.field "username"] n = some t → Scalar.ReadFrom t c.username) ∧
      ∀ t, doc.plainAt? [.field "password"] n = some t → Scalar.ReadFrom t c.password := by
  obtain ⟨fs, hfs, h⟩ := h.bind
  obtain ⟨host, -, h⟩ := h.bind
  obtain ⟨port, -, h⟩ := h.bind
  obtain ⟨username, hu, h⟩ := h.bind
  obtain ⟨password, hp, h⟩ := h.bind
  obtain rfl := h.pure
  exact ⟨fun t ht => Scalar.readFrom_of_gave hfs ht hu,
    fun t ht => Scalar.readFrom_of_gave hfs ht hp⟩

theorem gave_sink {s : DraftSink} (h : Gave doc (sink depth n) s) :
    (∀ t, doc.plainAt? [.field "table"] n = some t → ∀ a ∈ s.table, a = t) ∧
      (∀ t, doc.plainAt? [.field "config", .field "username"] n = some t →
        Scalar.ReadFrom t (s.config.bind (·.username))) ∧
      ∀ t, doc.plainAt? [.field "config", .field "password"] n = some t →
        Scalar.ReadFrom t (s.config.bind (·.password)) := by
  obtain ⟨fs, hfs, h⟩ := h.bind
  iterate 5 obtain ⟨_, -, h⟩ := h.bind
  obtain ⟨table, htable, h⟩ := h.bind
  iterate 9 obtain ⟨_, -, h⟩ := h.bind
  obtain ⟨config, hconfig, h⟩ := h.bind
  obtain rfl := h.pure
  -- The record of the connection, with the field that the path goes on to.
  have hrecord {key t : String}
      (ht : doc.plainAt? [.field "config", .field key] n = some t) :
      ∃ m c, doc.plainAt? [.field key] m = some t ∧ config = some c ∧
        Gave doc (connection (depth - 1) m) c := by
    rw [Document.plainAt?_cons] at ht
    obtain ⟨v, hv, ht⟩ := Option.bind_eq_some_iff.mp ht
    rw [Document.plainAt?_cons] at ht
    obtain ⟨w, hw, ht⟩ := Option.bind_eq_some_iff.mp ht
    obtain ⟨m, c, hm, hc, h⟩ := hfs.record hv hw hconfig
    exact ⟨m, c, by rw [Document.plainAt?_cons, hm]; exact ht, hc, h⟩
  refine ⟨fun t ht => hfs.plainText ht htable, fun t ht => ?_, fun t ht => ?_⟩
  · obtain ⟨m, c, hm, rfl, hc⟩ := hrecord ht
    exact (gave_connection hc).1 t hm
  · obtain ⟨m, c, hm, rfl, hc⟩ := hrecord ht
    exact (gave_connection hc).2 t hm

theorem gave_entities {α : Type} {inner : Nat → Node → Decode α} {key : String} {as : List α}
    {fs : List (String × Node)} {outer i : Nat} {v : Node} (hfs : Gave doc (fields outer n) fs)
    (hv : doc.node? [.field key, .item i] n = some v)
    (h : Gave doc (entities depth key inner fs) as) :
    ∃ a, as[i]? = some a ∧ Gave doc (inner (depth - 1) v) a := by
  rw [Document.node?, List.foldlM_cons] at hv
  obtain ⟨items, hitems, hv⟩ := Option.bind_eq_some_iff.mp hv
  rw [List.foldlM_cons] at hv
  obtain ⟨w, hw, hv⟩ := Option.bind_eq_some_iff.mp hv
  obtain rfl : w = v := Option.some.inj hv
  obtain ⟨o, ho, h⟩ := h.bind
  obtain ⟨bs, rfl, hbs⟩ := ho.field (hfs.fields hitems)
  obtain rfl := h.pure
  exact hbs.list hw

theorem gave_decode {d : Draft} (h : Gave doc (decode n) d) :
    (∀ t, doc.plainAt? [.field "name"] n = some t → ∀ a ∈ d.name, a = t) ∧
      (∀ t, doc.plainAt? [.field "specVersion"] n = some t → Scalar.ReadFrom t d.specVersion) ∧
      ∀ i v, doc.node? [.field "sinks", .item i] n = some v →
        ∃ s depth, d.sinks[i]? = some s ∧ Gave doc (sink depth v) s := by
  obtain ⟨fs, hfs, h⟩ := h.bind
  obtain ⟨name, hname, h⟩ := h.bind
  obtain ⟨version, hversion, h⟩ := h.bind
  iterate 5 obtain ⟨_, -, h⟩ := h.bind
  obtain ⟨sinks, hsinks, h⟩ := h.bind
  obtain rfl := h.pure
  refine ⟨fun t ht => hfs.plainText ht hname,
    fun t ht => Scalar.readFrom_of_gave hfs ht hversion, fun i v hv => ?_⟩
  obtain ⟨s, hs, h⟩ := gave_entities hfs hv hsinks
  exact ⟨s, _, hs, h⟩

/-- The draft of a text is read from the top of its document. -/
theorem gave_of_ofText? {text : String} {d : Draft} (hdoc : Document.ofText? text = some doc)
    (h : ofText? text = some d) : Gave doc (decode doc.top) d := by
  rw [ofText?, hdoc] at h
  obtain ⟨⟨d, rest⟩, hd, rfl⟩ := Option.map_eq_some_iff.mp h
  exact ⟨_, rest, hd⟩

end Draft

end StreamPipeline
