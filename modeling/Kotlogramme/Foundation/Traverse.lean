/-
Collecting the answers of a fallible function over a list.

`List.mapM` in `Except` answers the list of answers, or the first failure.
-/

import Kotlogramme.Foundation.Decoder
import Mathlib.Data.List.Forall2

namespace Kotlogramme

section Traverse

variable {ε α β : Type} {compute : α → Except ε β}

theorem mapM_eq_ok_iff {items : List α} {answers : List β} :
    items.mapM compute = .ok answers ↔
      List.Forall₂ (fun item answer => compute item = .ok answer) items answers := by
  induction items generalizing answers with
  | nil =>
      rw [List.mapM_nil, List.forall₂_nil_left_iff]
      exact ⟨fun built => (Except.ok.inj built).symm, fun built => built ▸ rfl⟩
  | cons item rest ih =>
      rw [List.mapM_cons, bind_eq_ok, List.forall₂_cons_left_iff]
      constructor
      · rintro ⟨answer, first, continued⟩
        obtain ⟨later, others, built⟩ := bind_eq_ok.mp continued
        exact ⟨answer, later, first, ih.mp others, (Except.ok.inj built).symm⟩
      · rintro ⟨answer, later, first, others, rfl⟩
        exact ⟨answer, first, bind_eq_ok.mpr ⟨later, ih.mpr others, rfl⟩⟩

theorem mapM_eq_ok_map {items : List α} {image : α → β}
    (computes : ∀ item ∈ items, compute item = .ok (image item)) :
    items.mapM compute = .ok (items.map image) := by
  rw [mapM_eq_ok_iff, List.forall₂_map_right_iff, List.forall₂_same]
  exact computes

theorem mapM_succeeds {items : List α}
    (succeeds : ∀ item ∈ items, ∃ answer, compute item = .ok answer) :
    ∃ answers, items.mapM compute = .ok answers := by
  induction items with
  | nil => exact ⟨[], rfl⟩
  | cons item rest ih =>
      obtain ⟨answer, first⟩ := succeeds item List.mem_cons_self
      obtain ⟨answers, others⟩ := ih fun later member =>
        succeeds later (List.mem_cons_of_mem item member)
      exact ⟨answer :: answers, mapM_eq_ok_iff.mpr (.cons first (mapM_eq_ok_iff.mp others))⟩

theorem exists_of_forall₂ {γ δ : Type} {related : γ → δ → Prop} {items : List γ} {answers : List δ}
    (pairs : List.Forall₂ related items answers) {item : γ} (member : item ∈ items) :
    ∃ answer ∈ answers, related item answer := by
  induction pairs with
  | nil => cases member
  | cons first _ ih =>
      rcases List.mem_cons.mp member with rfl | later
      · exact ⟨_, List.mem_cons_self, first⟩
      · obtain ⟨answer, listed, found⟩ := ih later
        exact ⟨answer, List.mem_cons_of_mem _ listed, found⟩

/-- The list is related to its answers exactly if each item is to its answer. -/
theorem mapM_relates_iff {γ : Type} {items : List γ} {image : γ → α} {related : γ → β → Prop} :
    (∃ answers, (items.map image).mapM compute = .ok answers ∧
        List.Forall₂ related items answers) ↔
      ∀ item ∈ items, ∃ answer, compute (image item) = .ok answer ∧ related item answer := by
  induction items with
  | nil =>
      refine iff_of_true ⟨[], rfl, .nil⟩ ?_
      intro item member
      cases member
  | cons item rest ih =>
      rw [List.forall_mem_cons, ← ih, List.map_cons]
      constructor
      · rintro ⟨answers, collected, pairs⟩
        cases pairs with
        | cons first others =>
            cases mapM_eq_ok_iff.mp collected with
            | cons computed later =>
                exact ⟨⟨_, computed, first⟩, _, mapM_eq_ok_iff.mpr later, others⟩
      · rintro ⟨⟨answer, computed, first⟩, answers, collected, others⟩
        exact ⟨answer :: answers,
          mapM_eq_ok_iff.mpr (.cons computed (mapM_eq_ok_iff.mp collected)), .cons first others⟩

/-- One failure is enough to fail. -/
theorem mapM_fails {items : List α} {item : α} (member : item ∈ items) {failure : ε}
    (fails : compute item = .error failure) : ∃ first, items.mapM compute = .error first := by
  cases collected : items.mapM compute with
  | error first => exact ⟨first, rfl⟩
  | ok answers =>
      obtain ⟨answer, -, computed⟩ := exists_of_forall₂ (mapM_eq_ok_iff.mp collected) member
      rw [fails] at computed
      cases computed

end Traverse

end Kotlogramme
