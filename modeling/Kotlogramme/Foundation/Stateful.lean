/-
Computations that may fail and run over a state.

A failure leaves the state as it is by then, as an error that a function returns
leaves what the function has already written.
-/

import Mathlib.Control.Monad.Basic
import Mathlib.Data.List.Forall2

namespace Kotlogramme

/-- What runs over a state and may fail. -/
abbrev Fallible (ε σ α : Type) := ExceptT ε (StateM σ) α

/-- The failures are texts. -/
abbrev Stateful (σ α : Type) := Fallible String σ α

namespace Fallible

variable {ε σ α β : Type}

def runOn (computation : Fallible ε σ α) (state : σ) : Except ε α × σ :=
  StateT.run (ExceptT.run computation) state

@[simp] theorem runOn_pure (value : α) (state : σ) :
    (pure value : Fallible ε σ α).runOn state = (.ok value, state) :=
  rfl

@[simp] theorem runOn_throw (failure : ε) (state : σ) :
    (throw failure : Fallible ε σ α).runOn state = (.error failure, state) :=
  rfl

@[simp] theorem runOn_get (state : σ) : (get : Fallible ε σ σ).runOn state = (.ok state, state) :=
  rfl

@[simp] theorem runOn_set (later state : σ) :
    (set later : Fallible ε σ Unit).runOn state = (.ok (), later) :=
  rfl

theorem runOn_bind (computation : Fallible ε σ α) (next : α → Fallible ε σ β) (state : σ) :
    (computation >>= next).runOn state =
      match computation.runOn state with
      | (.ok value, later) => (next value).runOn later
      | (.error failure, later) => (.error failure, later) := by
  unfold runOn
  rw [ExceptT.run_bind, StateT.run_bind]
  rcases StateT.run (ExceptT.run computation) state with ⟨answer, later⟩
  cases answer <;> rfl

theorem runOn_bind_eq_ok {computation : Fallible ε σ α} {next : α → Fallible ε σ β} {state last : σ}
    {answer : β} (ran : (computation >>= next).runOn state = (.ok answer, last)) :
    ∃ value later, computation.runOn state = (.ok value, later) ∧
      (next value).runOn later = (.ok answer, last) := by
  rw [runOn_bind] at ran
  cases first : computation.runOn state with
  | mk value later =>
      rw [first] at ran
      cases value with
      | error failure => cases ran
      | ok value => exact ⟨value, later, rfl, ran⟩

/-- What one answer is to its item, the answers are to the list, if the states that follow
only add to it. -/
theorem runOn_mapM_relates {compute : α → Fallible ε σ β} {grows : σ → σ → Prop}
    {related : σ → α → β → Prop} (refl : ∀ state, grows state state)
    (trans : ∀ first second third, grows first second → grows second third → grows first third)
    (kept : ∀ before later item answer, grows before later → related before item answer →
      related later item answer)
    (each : ∀ item before answer after, (compute item).runOn before = (.ok answer, after) →
      grows before after ∧ related after item answer)
    {items : List α} {answers : List β} {state last : σ}
    (ran : (items.mapM compute).runOn state = (.ok answers, last)) :
    grows state last ∧ List.Forall₂ (related last) items answers := by
  induction items generalizing state answers with
  | nil =>
      cases ran
      exact ⟨refl _, .nil⟩
  | cons item rest ih =>
      rw [List.mapM_cons] at ran
      obtain ⟨answer, middle, computed, continued⟩ := runOn_bind_eq_ok ran
      obtain ⟨others, later, collected, done⟩ := runOn_bind_eq_ok continued
      cases done
      obtain ⟨grown, first⟩ := each item state answer middle computed
      obtain ⟨further, following⟩ := ih collected
      exact ⟨trans _ _ _ grown further, .cons (kept _ _ _ _ further first) following⟩

theorem runOn_map (change : α → β) (computation : Fallible ε σ α) (state : σ) :
    (change <$> computation).runOn state =
      match computation.runOn state with
      | (.ok value, later) => (.ok (change value), later)
      | (.error failure, later) => (.error failure, later) := by
  rw [map_eq_pure_bind, runOn_bind]
  rfl

theorem runOn_tryCatch (computation : Fallible ε σ α) (handler : ε → Fallible ε σ α)
    (state : σ) :
    (tryCatch computation handler).runOn state =
      match computation.runOn state with
      | (.ok value, later) => (.ok value, later)
      | (.error failure, later) => (handler failure).runOn later := by
  unfold runOn
  change StateT.run (ExceptT.run (ExceptT.tryCatch computation handler)) state = _
  unfold ExceptT.tryCatch
  rw [ExceptT.run_mk, StateT.run_bind]
  simp only [ExceptT.run]
  rcases StateT.run computation state with ⟨answer, later⟩
  cases answer <;> rfl

def Fails (computation : Fallible ε σ α) (state : σ) : Prop :=
  ∃ failure later, computation.runOn state = (.error failure, later)

theorem fails_throw (failure : ε) (state : σ) : Fails (throw failure : Fallible ε σ α) state :=
  ⟨failure, state, rfl⟩

theorem Fails.bind {computation : Fallible ε σ α} {state : σ} (fails : Fails computation state)
    (next : α → Fallible ε σ β) : Fails (computation >>= next) state := by
  obtain ⟨failure, later, ran⟩ := fails
  refine ⟨failure, later, ?_⟩
  rw [runOn_bind, ran]

/-- Whatever the first half answers, the second fails. -/
theorem fails_bind {computation : Fallible ε σ α} {next : α → Fallible ε σ β} {state : σ}
    (continued : ∀ value later, Fails (next value) later) : Fails (computation >>= next) state := by
  cases ran : computation.runOn state with
  | mk answer later =>
      cases answer with
      | error failure => exact Fails.bind ⟨failure, later, ran⟩ next
      | ok value =>
          obtain ⟨failure, last, ranNext⟩ := continued value later
          refine ⟨failure, last, ?_⟩
          rw [runOn_bind, ran]
          exact ranNext

end Fallible
end Kotlogramme
