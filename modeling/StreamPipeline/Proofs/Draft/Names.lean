import Mathlib.Data.List.Nodup
import Mathlib.Data.List.Perm.Basic
import Mathlib.Data.List.TakeWhile
import StreamPipeline.Pipeline.Dependencies
import StreamPipeline.Proofs.Draft.Entities

/-! # Names of a valid draft

A transform takes two names: its own and that of its intermediate view. A draft without problems
gives no name twice, and none of its entities has the name of an intermediate view.
-/

namespace StreamPipeline

/-- The names that a pipeline takes, in the order of its declarations. -/
def Pipeline.objectNames (p : Pipeline) : List String :=
  p.sourceNames ++ p.transformNames.flatMap (fun n => [intermediateName n, n]) ++ p.sinkNames

theorem intermediateName_injective : Function.Injective intermediateName := by
  intro a b h
  have hl := congrArg String.toList h
  simp only [intermediateName, String.toList_append, List.append_cancel_right_eq] at hl
  exact String.toList_injective hl

/-- A name more for each element of a part of the list is no clash if it is nobody's name. -/
theorem nodup_flatMap_pair {α : Type} {f : α → α} {l₁ l₂ l₃ : List α}
    (hf : Function.Injective f) (h : (l₁ ++ l₂ ++ l₃).Nodup)
    (hn : ∀ a ∈ l₂, f a ∉ l₁ ++ l₂ ++ l₃) :
    (l₁ ++ l₂.flatMap (fun a => [f a, a]) ++ l₃).Nodup := by
  have hpair : (l₂.flatMap fun a => [f a, a]).Perm (l₂.map f ++ l₂) := by
    simpa using (List.map_append_flatMap_perm l₂ f fun a => [a]).symm
  have hperm : (l₁ ++ l₂.flatMap (fun a => [f a, a]) ++ l₃).Perm (l₂.map f ++ (l₁ ++ l₂ ++ l₃)) := by
    refine ((hpair.append_left l₁).append_right l₃).trans ?_
    rw [← List.append_assoc l₁, List.append_assoc l₁ l₂ l₃, ← List.append_assoc (l₂.map f)]
    have hcomm : (l₁ ++ l₂.map f).Perm (l₂.map f ++ l₁) := List.perm_append_comm
    simpa using hcomm.append_right (l₂ ++ l₃)
  refine hperm.nodup_iff.mpr (List.nodup_append'.mpr ⟨?_, h, fun n hm => ?_⟩)
  · exact (h.sublist (by simp)).map hf
  · obtain ⟨a, ha, rfl⟩ := List.mem_map.mp hm
    exact hn a ha

/-! ### Names that are not blank -/

theorem Text.isBlankText_of_trim {s : String} (h : trim s = "") : isBlankText s = true := by
  have hdrop : ∀ c ∈ s.toList.dropWhile isBlank, isBlank c = true := by
    have h := congrArg String.toList h
    simpa [trim, trimChars, trimEndChars, trimStartChars, List.dropWhile_eq_nil_iff] using h
  refine List.all_eq_true.mpr fun c hc => ?_
  rw [← List.takeWhile_append_dropWhile (p := isBlank) (l := s.toList), List.mem_append] at hc
  rcases hc with hc | hc
  · exact List.mem_takeWhile_imp hc
  · exact hdrop c hc

theorem Checked.required_ne_empty {field : String} {v : Option String} {a : String}
    (h : (required field v).value = some a) : a ≠ "" := by
  unfold required at h
  split at h
  next w =>
    split at h
    · cases h
    next hw =>
      cases h
      exact fun ha => hw (Text.isBlankText_of_trim ha)
  · cases h

theorem DraftSource.name_of_check {s : DraftSource} {r : Source} (h : s.check.value = some r) :
    s.name.map Text.trim = some r.name ∧ r.name ≠ "" := by
  simp only [check, Option.bind_eq_bind, Option.bind_eq_some_iff, Option.pure_def,
    Option.some.injEq] at h
  obtain ⟨_, -, name, hn, _, -, _, -, rfl⟩ := h
  exact ⟨Checked.required_value hn, Checked.required_ne_empty hn⟩

theorem DraftTransform.name_of_check {t : DraftTransform} {r : Transform}
    (h : t.check.value = some r) : t.name.map Text.trim = some r.name ∧ r.name ≠ "" := by
  simp only [check, Option.bind_eq_bind, Option.bind_eq_some_iff, Option.pure_def,
    Option.some.injEq] at h
  obtain ⟨name, hn, _, -, rfl⟩ := h
  exact ⟨Checked.required_value hn, Checked.required_ne_empty hn⟩

theorem DraftSink.name_of_check {s : DraftSink} {r : Sink} (h : s.check.value = some r) :
    s.name.map Text.trim = some r.name ∧ r.name ≠ "" := by
  simp only [check, Option.bind_eq_bind, Option.bind_eq_some_iff, Option.pure_def,
    Option.some.injEq] at h
  obtain ⟨name, hn, _, -, _, -, rfl⟩ := h
  exact ⟨Checked.required_value hn, Checked.required_ne_empty hn⟩

namespace Draft

variable {d : Draft} {p : Pipeline}

/-- The given names without the blanks around them, as far as something is left. -/
def trimmedNames (raw : List (Option String)) : List String :=
  ((raw.filterMap id).map Text.trim).filter fun n => !n.isEmpty

theorem names_eq : d.names = trimmedNames (d.sources.map (·.name))
    ++ trimmedNames (d.transforms.map (·.name)) ++ trimmedNames (d.sinks.map (·.name)) := by
  simp [names, trimmedNames]

/-- The checked entities of a list have some of its names. -/
theorem checkedNames_sublist {α β : Type} {raw : α → Option String} {check : α → Option β}
    {name : β → String} (h : ∀ a b, check a = some b →
      (raw a).map Text.trim = some (name b) ∧ name b ≠ "") (l : List α) :
    List.Sublist ((l.filterMap check).map name) (trimmedNames (l.map raw)) := by
  induction l with
  | nil => exact .slnil
  | cons a l ih =>
    cases hc : check a with
    | none =>
      rw [List.filterMap_cons_none hc]
      refine ih.trans (List.Sublist.filter _ (List.Sublist.map _ (List.Sublist.filterMap _ ?_)))
      simp
    | some b =>
      obtain ⟨hr, hn⟩ := h a b hc
      obtain ⟨v, hv, hb⟩ := Option.map_eq_some_iff.mp hr
      rw [List.filterMap_cons_some hc]
      simpa [trimmedNames, hv, hb, hn] using ih

theorem names_sublist (h : d.pipeline? = some p) :
    List.Sublist (p.sourceNames ++ p.transformNames ++ p.sinkNames) d.names := by
  obtain ⟨hs, ht, hk⟩ := entities_of_pipeline? h
  rw [names_eq, Pipeline.sourceNames, Pipeline.transformNames, Pipeline.sinkNames, hs, ht, hk]
  exact ((checkedNames_sublist (fun _ _ => DraftSource.name_of_check) _).append
    (checkedNames_sublist (fun _ _ => DraftTransform.name_of_check) _)).append
    (checkedNames_sublist (fun _ _ => DraftSink.name_of_check) _)

/-! ### Names without problems -/

theorem nodup_of_duplicates {seen l : List String} (h : duplicates seen l = []) :
    l.Nodup ∧ ∀ n ∈ l, n ∉ seen := by
  induction l generalizing seen with
  | nil => exact ⟨List.nodup_nil, by simp⟩
  | cons n l ih =>
    unfold duplicates at h
    split at h
    · cases h
    next hn =>
      obtain ⟨hl, hs⟩ := ih h
      refine ⟨List.nodup_cons.mpr ⟨fun hm => hs n hm (by simp), hl⟩, fun m hm => ?_⟩
      rcases List.mem_cons.mp hm with rfl | hm
      · simpa using hn
      · exact fun hseen => hs m hm (by simp [hseen])

theorem notMem_of_collisions (h : d.collisions = []) {n : String}
    (hn : n ∈ trimmedNames (d.transforms.map (·.name))) : intermediateName n ∉ d.names := by
  intro hm
  simp only [trimmedNames, List.filterMap_map, List.mem_filter, List.mem_map,
    List.mem_filterMap] at hn
  obtain ⟨⟨raw, ⟨t, ht, hr⟩, rfl⟩, -⟩ := hn
  have hnone := List.filterMap_eq_nil_iff.mp h raw (List.mem_filterMap.mpr ⟨t, ht, hr⟩)
  simp [hm] at hnone

theorem nodup_names (h : d.validate = .ok p) : (p.viewNames ++ p.sinkNames).Nodup := by
  obtain ⟨-, hp, hq⟩ := of_validate h
  simp only [problems, List.append_eq_nil_iff] at hp
  exact (nodup_of_duplicates hp.1.2).1.sublist (names_sublist hq)

/-- The names that the pipeline of a valid draft takes are pairwise different. -/
theorem nodup_objectNames (h : d.validate = .ok p) : p.objectNames.Nodup := by
  obtain ⟨-, hp, hq⟩ := of_validate h
  simp only [problems, List.append_eq_nil_iff] at hp
  refine nodup_flatMap_pair intermediateName_injective (nodup_names h) fun n hn hm => ?_
  refine notMem_of_collisions hp.2 (n := n) ?_ ((names_sublist hq).subset hm)
  rw [Pipeline.transformNames, (entities_of_pipeline? hq).2.1] at hn
  exact (checkedNames_sublist (fun _ _ => DraftTransform.name_of_check) _).subset hn

end Draft

end StreamPipeline
