import StreamPipeline.Draft.Reader
import StreamPipeline.Proofs.Draft.BrokenRules

/-! # Integers of documents that were read

What a reader gives is what its parts give, so the range of a single scalar is that of all the
scalars of a document. Integers above the signed range have become floats.
-/

namespace StreamPipeline

namespace Yaml.Decode

/-- Whatever the reader gives has the property. -/
def Gives {α : Type} (P : α → Prop) (x : Decode α) : Prop :=
  ∀ doc left a rest, x doc left = some (a, rest) → P a

variable {α β : Type} {P : α → Prop} {Q : β → Prop}

theorem gives_pure {a : α} (h : P a) : Gives P (pure a) := by
  intro doc left b rest hb
  obtain ⟨rfl, -⟩ : a = b ∧ left = rest := Prod.mk.inj (Option.some.inj hb)
  exact h

theorem gives_fail : Gives P fail := fun _ _ _ _ h => by cases h

theorem gives_ofOption {o : Option α} (h : ∀ a ∈ o, P a) : Gives P (ofOption o) := by
  cases o with
  | none => exact gives_fail
  | some a => exact gives_pure (h a rfl)

theorem Gives.bind {x : Decode α} {f : α → Decode β} (hx : Gives P x)
    (hf : ∀ a, P a → Gives Q (f a)) : Gives Q (x >>= f) := by
  intro doc left b rest h
  obtain ⟨⟨a, mid⟩, ha, hb⟩ := Option.bind_eq_some_iff.mp h
  exact hf a (hx doc left a mid ha) doc mid b rest hb

theorem gives_bind {x : Decode α} {f : α → Decode β} (hf : ∀ a, Gives Q (f a)) :
    Gives Q (x >>= f) :=
  Gives.bind (P := fun _ => True) (fun _ _ _ _ _ => trivial) fun a _ => hf a

theorem gives_mapM {f : α → Decode β} (hf : ∀ a, Gives Q (f a)) (l : List α) :
    Gives (fun bs => ∀ b ∈ bs, Q b) (l.mapM f) := by
  induction l with
  | nil =>
    rw [List.mapM_nil]
    exact gives_pure (by simp)
  | cons a l ih =>
    rw [List.mapM_cons]
    exact (hf a).bind fun b hb => ih.bind fun bs hbs =>
      gives_pure (List.forall_mem_cons.mpr ⟨hb, hbs⟩)

variable {inner : Node → Decode α}

theorem gives_list (depth : Nat) (h : ∀ n, Gives P (inner n)) (n : Node) :
    Gives (fun as => ∀ a ∈ as, P a) (list depth inner n) :=
  gives_bind fun items => gives_mapM h items

theorem gives_field (names : List String) (h : ∀ n, Gives P (inner n)) (fs : List (String × Node)) :
    Gives (fun o => ∀ a ∈ o, P a) (field names inner fs) := by
  unfold field
  split
  · exact gives_pure (by simp)
  · exact (h _).bind fun a ha => gives_pure (by simpa using ha)
  · exact gives_fail

theorem gives_optional (h : ∀ n, Gives P (inner n)) (n : Node) :
    Gives (fun o => ∀ a ∈ o, P a) (optional inner n) := by
  have hsome (n : Node) : Gives (fun o => ∀ a ∈ o, P a) (do return some (← inner n)) :=
    (h n).bind fun a ha => gives_pure (by simpa using ha)
  unfold optional
  refine gives_bind fun n => ?_
  split
  · split
    · exact gives_pure (by simp)
    · exact gives_fail
  · split
    · exact gives_pure (by simp)
    · exact hsome _
  · exact hsome _

theorem gives_optionalField (names : List String) (h : ∀ n, Gives P (inner n))
    (fs : List (String × Node)) : Gives (fun o => ∀ a ∈ o, P a) (optionalField names inner fs) := by
  unfold optionalField
  refine (gives_field names (gives_optional h) fs).bind fun o ho => gives_pure fun a ha => ?_
  exact ho (some a) (Option.join_eq_some_iff.mp ha) a rfl

end Yaml.Decode

open Yaml Decode

theorem Scalar.gives_decode (n : Node) : Gives Scalar.Sized (Scalar.decode n) := by
  have hresolved (r : Resolved) : ∀ v ∈ Scalar.ofResolved r, v.Sized := by
    intro v hv
    cases r with
    | int n =>
      obtain rfl := Option.some.inj hv
      split
      next h =>
        have hlimit : (Json.signedLimit : Int) ≤ 18446744073709551616 := by decide
        exact Int.lt_of_lt_of_le h hlimit
      next => trivial
    | null => cases hv
    | tooLarge => cases hv
    | bool b => obtain rfl := Option.some.inj hv; trivial
    | float x => obtain rfl := Option.some.inj hv; trivial
    | text s => obtain rfl := Option.some.inj hv; trivial
  unfold Scalar.decode
  refine gives_bind fun n => ?_
  split
  · refine gives_ofOption fun v hv => ?_
    obtain ⟨r, -, hr⟩ := Option.bind_eq_some_iff.mp hv
    exact hresolved r v hr
  · exact gives_fail

namespace Draft

theorem gives_lookup (depth : Nat) (n : Node) :
    Gives (fun l => ∀ v ∈ l.cacheRows, v.Sized) (lookup depth n) := by
  unfold lookup
  refine gives_bind fun fs => ?_
  refine (gives_optionalField _ Scalar.gives_decode fs).bind fun rows hrows => ?_
  exact gives_bind fun ttl => gives_pure hrows

theorem gives_source (depth : Nat) (n : Node) : Gives DraftSource.Sized (source depth n) := by
  unfold source
  refine gives_bind fun fs => ?_
  refine gives_bind fun name => gives_bind fun tag => gives_bind fun dataset =>
    gives_bind fun filter => ?_
  refine (gives_optionalField _ Scalar.gives_decode fs).bind fun parallelism hparallelism => ?_
  refine gives_bind fun timecol => gives_bind fun size => gives_bind fun slide =>
    gives_bind fun step => gives_bind fun offset => ?_
  refine (gives_optionalField _ (gives_lookup (depth - 1)) fs).bind fun l hl => ?_
  refine gives_pure ⟨hparallelism, fun v hv => ?_⟩
  obtain ⟨r, hr, hv⟩ := Option.bind_eq_some_iff.mp hv
  exact hl r hr v hv

/-- The integers of a document that was read have 64 bits. -/
theorem sized_of_ofText? {text : String} {d : Draft} (h : ofText? text = some d) : d.Sized := by
  have hdecode (n : Node) : Gives Draft.Sized (decode n) := by
    unfold decode
    refine gives_bind fun fs => gives_bind fun name => gives_bind fun version =>
      gives_bind fun parallelism => gives_bind fun checkpoints => gives_bind fun savepoints => ?_
    have hsources : Gives (fun sources => ∀ s ∈ sources, DraftSource.Sized s)
        (entities (maxDepth - 1) "sources" source fs) := by
      refine (gives_field _ (gives_list _ (gives_source _)) fs).bind fun o ho => gives_pure ?_
      cases o with
      | none => simp
      | some sources => exact ho sources rfl
    refine hsources.bind fun sources hs => gives_bind fun transforms => gives_bind fun sinks => ?_
    exact gives_pure hs
  obtain ⟨doc, -, hd⟩ := Option.bind_eq_some_iff.mp h
  unfold Decode.ofDocument at hd
  obtain ⟨r, hr, rfl⟩ := Option.map_eq_some_iff.mp hd
  exact hdecode _ _ _ _ r.2 hr

end Draft

end StreamPipeline
