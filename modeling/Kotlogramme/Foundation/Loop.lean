/-
Loops that go on until a step says they are over.

A step answers the result of the loop or the state it goes on from.  A loop ends
if some number of steps is enough, and then with one result.
-/

import Mathlib.Data.Option.Basic

namespace Kotlogramme

structure Loop (σ ρ : Type) where
  step : σ → ρ ⊕ σ

namespace Loop

variable {σ ρ : Type} (loop : Loop σ ρ)

/-- The result, if that many steps are enough. -/
def run : Nat → σ → Option ρ
  | 0, _ => none
  | fuel + 1, state =>
      match loop.step state with
      | .inl result => some result
      | .inr next => run fuel next

def Ends (state : σ) (result : ρ) : Prop := ∃ fuel, loop.run fuel state = some result

variable {loop} {state next : σ} {result : ρ}

theorem run_succ_inl {fuel : Nat} (finished : loop.step state = .inl result) :
    loop.run (fuel + 1) state = some result := by
  rw [run, finished]

theorem run_succ_inr {fuel : Nat} (goesOn : loop.step state = .inr next) :
    loop.run (fuel + 1) state = loop.run fuel next := by
  rw [run, goesOn]

theorem ends_of_inl (finished : loop.step state = .inl result) : loop.Ends state result :=
  ⟨1, run_succ_inl finished⟩

theorem ends_inl_iff {answer : ρ} (finished : loop.step state = .inl result) :
    loop.Ends state answer ↔ answer = result := by
  constructor
  · intro ends
    obtain ⟨fuel, ran⟩ := ends
    cases fuel with
    | zero => cases ran
    | succ fuel =>
        rw [run_succ_inl finished] at ran
        exact (Option.some.inj ran).symm
  · intro same
    rw [same]
    exact ends_of_inl finished

theorem ends_inr_iff (goesOn : loop.step state = .inr next) :
    loop.Ends state result ↔ loop.Ends next result := by
  constructor
  · intro ends
    obtain ⟨fuel, ran⟩ := ends
    cases fuel with
    | zero => cases ran
    | succ fuel =>
        rw [run_succ_inr goesOn] at ran
        exact ⟨fuel, ran⟩
  · intro ends
    obtain ⟨fuel, ran⟩ := ends
    exact ⟨fuel + 1, (run_succ_inr goesOn).trans ran⟩

/-- What holds where the loop starts and is kept by every step holds where it ends. -/
theorem Ends.invariant (holds : σ → Prop) (final : ρ → Prop)
    (finished : ∀ state result, holds state → loop.step state = .inl result → final result)
    (goesOn : ∀ state next, holds state → loop.step state = .inr next → holds next)
    (ended : loop.Ends state result) (initially : holds state) : final result := by
  obtain ⟨fuel, ran⟩ := ended
  induction fuel generalizing state with
  | zero => cases ran
  | succ fuel ih =>
      cases stepped : loop.step state with
      | inl answer =>
          rw [run_succ_inl stepped] at ran
          obtain rfl := Option.some.inj ran
          exact finished state answer initially stepped
      | inr next =>
          rw [run_succ_inr stepped] at ran
          exact ih (goesOn state next initially stepped) ran

theorem Ends.unique {first second : ρ} (one : loop.Ends state first)
    (other : loop.Ends state second) : first = second := by
  refine Ends.invariant (fun reached => loop.Ends reached second) (fun answer => answer = second)
    ?_ ?_ one other
  · intro reached answer ends stepped
    exact ((ends_inl_iff stepped).mp ends).symm
  · intro reached next ends stepped
    exact (ends_inr_iff stepped).mp ends

end Loop
end Kotlogramme
