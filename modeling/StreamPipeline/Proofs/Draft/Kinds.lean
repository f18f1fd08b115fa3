import StreamPipeline.Proofs.Draft.Rules

/-! # Kinds of checked entities

A source or a sink that has been checked is of the type that its tag names, and its kind is what was
checked for that type.
-/

namespace StreamPipeline

theorem Checked.andThen_value {α β : Type} {c : Checked α} {next : α → Checked β} {b : β}
    (h : (c.andThen next).value = some b) : ∃ a, c.value = some a ∧ (next a).value = some b := by
  unfold andThen at h
  split at h
  next a ha => exact ⟨a, ha, h⟩
  next => cases h

theorem DraftSource.kind_of_check {s : DraftSource} {r : Source} (h : s.check.value = some r) :
    ∃ type, s.type? = some type ∧ (s.checkKind type).value = some r.kind := by
  simp only [check, Option.bind_eq_bind, Option.bind_eq_some_iff, Option.pure_def,
    Option.some.injEq] at h
  obtain ⟨kind, hkind, _, -, _, -, _, -, rfl⟩ := h
  obtain ⟨tag, htag, hkind⟩ := Checked.andThen_value hkind
  obtain ⟨raw, hraw, rfl⟩ := Option.map_eq_some_iff.mp (Checked.required_value htag)
  unfold checkType at hkind
  split at hkind
  next type htype => exact ⟨type, by rw [type?, hraw]; exact htype, hkind⟩
  next => cases hkind

theorem DraftSink.kind_of_check {s : DraftSink} {r : Sink} (h : s.check.value = some r) :
    ∃ type, s.type? = some type ∧ (s.checkKind type).value = some r.kind := by
  simp only [check, Option.bind_eq_bind, Option.bind_eq_some_iff, Option.pure_def,
    Option.some.injEq] at h
  obtain ⟨_, -, _, -, kind, hkind, rfl⟩ := h
  obtain ⟨tag, htag, hkind⟩ := Checked.andThen_value hkind
  obtain ⟨raw, hraw, rfl⟩ := Option.map_eq_some_iff.mp (Checked.required_value htag)
  unfold checkType at hkind
  split at hkind
  next type htype => exact ⟨type, by rw [type?, hraw]; exact htype, hkind⟩
  next => cases hkind

end StreamPipeline
