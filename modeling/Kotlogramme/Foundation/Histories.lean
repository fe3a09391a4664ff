/-
The histories of a specification, and the systems that keep to it.

A specification says which events can happen in a state and what they make of it.  A
system that records the events of its steps keeps to a specification when every step
adds events that can happen, one after the other, in the state that is seen of it.
-/

import Kotlogramme.Foundation.Transition

namespace Kotlogramme

variable {σ ε : Type} {happens : σ → ε → σ → Prop}

inductive Legal (happens : σ → ε → σ → Prop) : σ → List ε → σ → Prop
  | nil (state : σ) : Legal happens state [] state
  | cons {start next last : σ} {event : ε} {history : List ε} (here : happens start event next)
      (later : Legal happens next history last) : Legal happens start (event :: history) last

namespace Legal

variable {start middle last : σ} {event : ε} {front back : List ε}

theorem append (first : Legal happens start front middle) (second : Legal happens middle back last) :
    Legal happens start (front ++ back) last := by
  induction first with
  | nil state => exact second
  | cons here _ ih => exact .cons here (ih second)

theorem split (legal : Legal happens start (front ++ back) last) :
    ∃ middle, Legal happens start front middle ∧ Legal happens middle back last := by
  induction front generalizing start with
  | nil => exact ⟨start, .nil start, legal⟩
  | cons event rest ih =>
      obtain _ | ⟨here, later⟩ := legal
      obtain ⟨middle, first, second⟩ := ih later
      exact ⟨middle, .cons here first, second⟩

theorem split_cons (legal : Legal happens start (front ++ event :: back) last) :
    ∃ before after, Legal happens start front before ∧ happens before event after ∧
      Legal happens after back last := by
  obtain ⟨before, first, second⟩ := legal.split
  obtain _ | ⟨here, later⟩ := second
  exact ⟨before, _, first, here, later⟩

/-- What every event preserves, every history preserves. -/
theorem invariant (holds : σ → Prop)
    (preserved : ∀ before event after, holds before → happens before event after → holds after)
    (initially : holds start) (legal : Legal happens start front last) : holds last := by
  induction legal with
  | nil state => exact initially
  | cons here _ ih => exact ih (preserved _ _ _ initially here)

/-- What no state has at first, some event of the history has brought about. -/
theorem caused (holds : σ → Prop) (cause : ε → Prop)
    (brought : ∀ before event after, happens before event after → holds after →
      holds before ∨ cause event)
    (initially : ¬ holds start) (legal : Legal happens start front last) (ended : holds last) :
    ∃ event ∈ front, cause event := by
  induction legal with
  | nil state => exact absurd ended initially
  | @cons start next last event history here _ ih =>
      by_cases already : holds next
      · rcases brought start event next here already with before | caused
        · exact absurd before initially
        · exact ⟨event, List.mem_cons_self, caused⟩
      · obtain ⟨other, member, caused⟩ := ih already ended
        exact ⟨other, List.mem_cons_of_mem event member, caused⟩

end Legal

/-- A system keeps to a specification if each of its steps does, in the states that an
invariant holds of.  `fits` bounds the runs: a state that fits is reached through such
states only. -/
theorem System.legal_of_run {τ α : Type} {system : System τ α} {seen : τ → σ} {record : τ → List ε}
    {fits holds : τ → Prop} (initially : holds system.initial)
    (empty : record system.initial = [])
    (earlier : ∀ before action after, system.step before action = some after →
      fits after → fits before)
    (preserved : ∀ before action after, fits after → holds before →
      system.step before action = some after →
        holds after ∧ ∃ events, record after = record before ++ events ∧
          Legal happens (seen before) events (seen after))
    {state : τ} {trace : List α} (ran : system.run trace = some state) (fit : fits state) :
    Legal happens (seen system.initial) (record state) (seen state) := by
  have kept := @System.runFrom_invariant _ _ system
    (fun state => fits state →
      holds state ∧ Legal happens (seen system.initial) (record state) (seen state))
    (by
      intro before action after fine stepped fit
      obtain ⟨held, legal⟩ := fine (earlier before action after stepped fit)
      obtain ⟨next, events, same, more⟩ := preserved before action after fit held stepped
      rw [same]
      exact ⟨next, legal.append more⟩)
    system.initial state trace
    (by
      intro _
      rw [empty]
      exact ⟨initially, .nil (seen system.initial)⟩) ran
  exact (kept fit).2

end Kotlogramme
