/-
Systems that take one action after the other.

A step answers nothing where the action is not possible.  What a step
preserves, every run preserves; and where a step preserves it only under a
condition on the state and the action, so does a run whose steps all meet the
condition.
-/

import Mathlib.Data.List.Induction

namespace Kotlogramme

structure System (σ α : Type) where
  initial : σ
  step : σ → α → Option σ

namespace System

variable {σ α : Type} (system : System σ α)

def runFrom : σ → List α → Option σ
  | state, [] => some state
  | state, action :: rest => do
      let next ← system.step state action
      runFrom next rest

def run (trace : List α) : Option σ := system.runFrom system.initial trace

inductive Reachable : σ → Prop
  | initial : Reachable system.initial
  | step {before after : σ} {action : α} (reached : Reachable before)
      (stepped : system.step before action = some after) : Reachable after

variable {system}

theorem runFrom_cons_eq_some {before after : σ} {action : α} {rest : List α} :
    system.runFrom before (action :: rest) = some after ↔
      ∃ between, system.step before action = some between ∧
        system.runFrom between rest = some after := by
  exact Option.bind_eq_some_iff

theorem runFrom_append {before after : σ} {first second : List α} :
    system.runFrom before (first ++ second) = some after ↔
      ∃ between, system.runFrom before first = some between ∧
        system.runFrom between second = some after := by
  induction first generalizing before with
  | nil => simp [runFrom]
  | cons action rest ih =>
      rw [List.cons_append, runFrom_cons_eq_some]
      constructor
      · rintro ⟨middle, stepped, continued⟩
        obtain ⟨between, left, right⟩ := ih.mp continued
        exact ⟨between, runFrom_cons_eq_some.mpr ⟨middle, stepped, left⟩, right⟩
      · rintro ⟨between, left, right⟩
        obtain ⟨middle, stepped, continued⟩ := runFrom_cons_eq_some.mp left
        exact ⟨middle, stepped, ih.mpr ⟨between, continued, right⟩⟩

/-- What every step preserves, every run preserves. -/
theorem runFrom_invariant {holds : σ → Prop}
    (preserved : ∀ before action after, holds before →
      system.step before action = some after → holds after)
    {before after : σ} {trace : List α} (initially : holds before)
    (ran : system.runFrom before trace = some after) : holds after := by
  induction trace generalizing before with
  | nil =>
      cases ran
      exact initially
  | cons action rest ih =>
      obtain ⟨between, stepped, continued⟩ := runFrom_cons_eq_some.mp ran
      exact ih (preserved before action between initially stepped) continued

/-- What is taken in every state that keeps an invariant is fine all along a run. -/
theorem runFrom_forall_mem {holds : σ → Prop} {fine : α → Prop}
    (preserved : ∀ before action after, holds before →
      system.step before action = some after → holds after ∧ fine action)
    {before after : σ} {trace : List α} (initially : holds before)
    (ran : system.runFrom before trace = some after) : ∀ action ∈ trace, fine action := by
  induction trace generalizing before with
  | nil =>
      intro action member
      cases member
  | cons action rest ih =>
      obtain ⟨between, stepped, continued⟩ := runFrom_cons_eq_some.mp ran
      obtain ⟨kept, first⟩ := preserved before action between initially stepped
      intro other member
      rcases List.mem_cons.mp member with same | later
      · rw [same]
        exact first
      · exact ih kept continued other later

theorem Reachable.invariant {holds : σ → Prop} (initially : holds system.initial)
    (preserved : ∀ before action after, holds before →
      system.step before action = some after → holds after)
    {state : σ} (reached : system.Reachable state) : holds state := by
  induction reached with
  | initial => exact initially
  | step _ stepped ih => exact preserved _ _ _ ih stepped

theorem reachable_of_runFrom {before after : σ} {trace : List α}
    (reached : system.Reachable before) (ran : system.runFrom before trace = some after) :
    system.Reachable after :=
  runFrom_invariant (fun _ _ _ => Reachable.step) reached ran

theorem reachable_of_run {state : σ} {trace : List α} (ran : system.run trace = some state) :
    system.Reachable state :=
  reachable_of_runFrom .initial ran

/-- What holds of the empty history and the initial state, and is kept by every step
with its action recorded, holds of every run and the state it reaches. -/
theorem run_history {holds : List α → σ → Prop} (initially : holds [] system.initial)
    (preserved : ∀ trace before action after, system.run trace = some before →
      holds trace before → system.step before action = some after →
        holds (trace ++ [action]) after)
    {trace : List α} {state : σ} (ran : system.run trace = some state) : holds trace state := by
  induction trace using List.reverseRecOn generalizing state with
  | nil =>
      cases ran
      exact initially
  | append_singleton earlier action ih =>
      obtain ⟨before, first, last⟩ := runFrom_append.mp ran
      obtain ⟨after, stepped, done⟩ := runFrom_cons_eq_some.mp last
      cases done
      exact preserved earlier before action state first (ih first) stepped

/-- A system whose steps are steps of another has the runs of the other. -/
theorem runFrom_of_steps {other : System σ α}
    (steps : ∀ before action after, other.step before action = some after →
      system.step before action = some after)
    {before after : σ} {trace : List α} (ran : other.runFrom before trace = some after) :
    system.runFrom before trace = some after := by
  induction trace generalizing before with
  | nil => exact ran
  | cons action rest ih =>
      obtain ⟨between, stepped, continued⟩ := runFrom_cons_eq_some.mp ran
      exact runFrom_cons_eq_some.mpr ⟨between, steps before action between stepped, ih continued⟩

/-- Every step of the run meets a condition on the state before it and its
action. -/
def Along (condition : σ → α → Prop) (system : System σ α) : σ → List α → Prop
  | _, [] => True
  | state, action :: rest =>
      condition state action ∧
        ∀ next, system.step state action = some next → Along condition system next rest

theorem runFrom_invariant_along {holds : σ → Prop} {condition : σ → α → Prop}
    (preserved : ∀ before action after, holds before → condition before action →
      system.step before action = some after → holds after)
    {before after : σ} {trace : List α} (initially : holds before)
    (met : Along condition system before trace)
    (ran : system.runFrom before trace = some after) : holds after := by
  induction trace generalizing before with
  | nil =>
      cases ran
      exact initially
  | cons action rest ih =>
      obtain ⟨between, stepped, continued⟩ := runFrom_cons_eq_some.mp ran
      exact ih (preserved before action between initially met.1 stepped) (met.2 between stepped)
        continued

theorem along_cons {condition : σ → α → Prop} {before between : σ} {action : α} {rest : List α}
    (stepped : system.step before action = some between) :
    Along condition system before (action :: rest) ↔
      condition before action ∧ Along condition system between rest := by
  simp only [Along, stepped, Option.some.injEq, forall_eq']

theorem along_of_forall_mem {fine : α → Prop} {trace : List α}
    (all : ∀ action ∈ trace, fine action) (before : σ) :
    Along (fun _ action => fine action) system before trace := by
  induction trace generalizing before with
  | nil => trivial
  | cons action rest ih =>
      refine ⟨all action (List.mem_cons_self ..), fun next _ => ih ?_ next⟩
      intro other member
      exact all other (List.mem_cons_of_mem action member)

/-- A condition holds along a run exactly if it holds wherever the run is split. -/
theorem along_iff_forall_split {condition : σ → α → Prop} {before after : σ} {trace : List α}
    (ran : system.runFrom before trace = some after) :
    Along condition system before trace ↔
      ∀ early action rest between, trace = early ++ action :: rest →
        system.runFrom before early = some between → condition between action := by
  induction trace generalizing before with
  | nil =>
      refine ⟨fun _ early action rest between split => ?_, fun _ => trivial⟩
      simp at split
  | cons action rest ih =>
      obtain ⟨next, stepped, continued⟩ := runFrom_cons_eq_some.mp ran
      rw [along_cons stepped, ih continued]
      constructor
      · rintro ⟨first, later⟩ early taken others between split passed
        cases early with
        | nil =>
            cases passed
            cases split
            exact first
        | cons head early =>
            cases split
            obtain ⟨nextToo, steppedToo, passedRest⟩ := runFrom_cons_eq_some.mp passed
            rw [stepped] at steppedToo
            cases steppedToo
            exact later early taken others between rfl passedRest
      · intro throughout
        refine ⟨throughout [] action rest before rfl rfl, ?_⟩
        intro early taken others between split passed
        refine throughout (action :: early) taken others between (congrArg _ split) ?_
        exact runFrom_cons_eq_some.mpr ⟨next, stepped, passed⟩

instance decidableAlong {condition : σ → α → Prop}
    [∀ state action, Decidable (condition state action)] :
    (state : σ) → (trace : List α) → Decidable (Along condition system state trace)
  | _, [] => .isTrue trivial
  | state, action :: rest =>
      match stepped : system.step state action with
      | none => decidable_of_iff (condition state action) (by simp [Along, stepped])
      | some next =>
          have : Decidable (Along condition system next rest) := decidableAlong next rest
          decidable_of_iff (condition state action ∧ Along condition system next rest)
            (along_cons stepped).symm

/-- Where a step keeps a state clean exactly under a condition, a run does so
exactly if all its steps meet the condition. -/
theorem runFrom_clean_iff {clean : σ → Prop} {condition : σ → α → Prop}
    (kept : ∀ before action after, system.Reachable before →
      system.step before action = some after →
        (clean after ↔ clean before ∧ condition before action))
    {before after : σ} {trace : List α} (reached : system.Reachable before)
    (ran : system.runFrom before trace = some after) :
    clean after ↔ clean before ∧ Along condition system before trace := by
  induction trace generalizing before with
  | nil =>
      cases ran
      exact (and_iff_left trivial).symm
  | cons action rest ih =>
      obtain ⟨between, stepped, continued⟩ := runFrom_cons_eq_some.mp ran
      rw [ih (reached.step stepped) continued, kept before action between reached stepped,
        along_cons stepped, and_assoc]

theorem run_clean_iff {clean : σ → Prop} {condition : σ → α → Prop}
    (initially : clean system.initial)
    (kept : ∀ before action after, system.Reachable before →
      system.step before action = some after →
        (clean after ↔ clean before ∧ condition before action))
    {state : σ} {trace : List α} (ran : system.run trace = some state) :
    clean state ↔ Along condition system system.initial trace := by
  rw [runFrom_clean_iff kept .initial ran]
  exact and_iff_right initially

/-- Where a step leads from a clean state to a clean one exactly under a
condition, all states a run passes are clean exactly if all its steps meet the
condition. -/
theorem runFrom_throughout_iff {clean : σ → Prop} {condition : σ → α → Prop}
    (kept : ∀ before action after, system.Reachable before → clean before →
      system.step before action = some after → (clean after ↔ condition before action))
    {before after : σ} {trace : List α} (reached : system.Reachable before)
    (initially : clean before) (ran : system.runFrom before trace = some after) :
    (∀ early state, early <+: trace → system.runFrom before early = some state → clean state) ↔
      Along condition system before trace := by
  induction trace generalizing before with
  | nil =>
      refine ⟨fun _ => trivial, fun _ early state start passed => ?_⟩
      rw [List.prefix_nil.mp start] at passed
      cases passed
      exact initially
  | cons action rest ih =>
      obtain ⟨between, stepped, continued⟩ := runFrom_cons_eq_some.mp ran
      rw [along_cons stepped]
      constructor
      · intro throughout
        have first : clean between :=
          throughout [action] between (List.prefix_append [action] rest)
            (runFrom_cons_eq_some.mpr ⟨between, stepped, rfl⟩)
        refine ⟨(kept before action between reached initially stepped).mp first, ?_⟩
        refine (ih (reached.step stepped) first continued).mp ?_
        intro early state start passed
        exact throughout (action :: early) state (List.prefix_cons_inj action |>.mpr start)
          (runFrom_cons_eq_some.mpr ⟨between, stepped, passed⟩)
      · rintro ⟨met, later⟩ early state start passed
        have first : clean between := (kept before action between reached initially stepped).mpr met
        cases early with
        | nil =>
            cases passed
            exact initially
        | cons taken early =>
            obtain ⟨same, startRest⟩ := List.cons_prefix_cons.mp start
            subst same
            obtain ⟨next, steppedToo, passedRest⟩ := runFrom_cons_eq_some.mp passed
            rw [stepped] at steppedToo
            cases steppedToo
            exact (ih (reached.step stepped) first continued).mpr later early state startRest passedRest

end System
end Kotlogramme
