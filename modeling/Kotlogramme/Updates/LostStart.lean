/-
Starts that find a loop and leave it as it is.

A start decides by whether the loop's thread is alive.  A thread stays alive
after it has been asked to stop, until the dispatch it is in has ended, and after
a dispatch has thrown, until its error handler has returned.  Whether a start
falls into such a time is a matter of the order of the calls alone.
-/

import Kotlogramme.Updates.UpdateLoop

namespace Kotlogramme.Updates
namespace UpdateLoop

variable {τ : Type}

/-- A start that answers false. -/
def Refused (state : State τ) : Action τ → Prop
  | .start _ pollTimeoutMillis => (state.start pollTimeoutMillis).1 = .ok false
  | _ => False

/-- Neither a stop nor a failure. -/
def Action.quiet : Action τ → Bool
  | .stop _ => false
  | .fail _ _ => false
  | _ => true

/-- Whatever steps follow, up to the next stop or failure, the loop that is current
now does not leave its dispatching. -/
def KeepsDispatching (state : State τ) : Prop :=
  ∀ later after, (system τ).runFrom state later = some after →
    (∀ action ∈ later, action.quiet = true) →
      ∃ index, state.thread = some index ∧ (after.phase index).inLoop = true

/-- The current loop has not been asked to stop, and no dispatch of it has thrown. -/
def Unasked (state : State τ) : Prop :=
  state.stopped = false ∧
    ∃ index, state.thread = some index ∧ (state.phase index).inLoop = true

theorem alive_of_inLoop {state : State τ} {index : Nat}
    (inLoop : (state.phase index).inLoop = true) : state.alive index = true := by
  unfold State.alive
  cases phase : state.phase index with
  | checking => rfl
  | dispatching => rfl
  | failing failure | reporting failure | dead failure =>
      rw [phase] at inLoop
      cases inLoop

/-- An unasked loop goes on through every step that is neither a stop nor a
failure. -/
theorem step_unasked {before after : State τ} {action : Action τ} {index : Nat}
    (current : before.thread = some index) (unasked : before.stopped = false)
    (inLoop : (before.phase index).inLoop = true) (quiet : action.quiet = true)
    (stepped : step before action = some after) :
    after.thread = some index ∧ after.stopped = false ∧ (after.phase index).inLoop = true := by
  have alive := alive_of_inLoop inLoop
  cases step_cases stepped with
  | start caller pollTimeoutMillis =>
      have running : before.isRunning = true :=
        State.isRunning_eq_true.mpr ⟨index, current, alive⟩
      simp only [State.start, running, if_true]
      split <;> exact ⟨current, unasked, inLoop⟩
  | stop caller may => cases quiet
  | interrupt stop member => exact ⟨current, unasked, inLoop⟩
  | finishStop stop member dead =>
      have other : before.thread ≠ some stop.worker := by
        intro same
        rw [current] at same
        cases same
        rw [alive] at dead
        cases dead
      refine ⟨?_, unasked, inLoop⟩
      simp only [State.finishStop, if_neg other]
      exact current
  | own own move =>
      obtain ⟨others, flag, thread, _⟩ := move.frame
      refine ⟨thread.trans current, flag.trans unasked, ?_⟩
      by_cases same : index = own
      · subst same
        cases move with
        | exit checking asked =>
            rw [unasked] at asked
            cases asked
        | enter checking _ => simp [Phase.inLoop]
        | dispatched dispatching => simp [Phase.inLoop]
        | fail failure dispatching => cases quiet
        | record failure failing =>
            rw [failing] at inLoop
            cases inLoop
        | finish failure reporting =>
            rw [reporting] at inLoop
            cases inLoop
      · rw [others index same]
        exact inLoop

theorem keepsDispatching_of_unasked {state : State τ} (unasked : Unasked state) :
    KeepsDispatching state := by
  obtain ⟨clear, index, current, inLoop⟩ := unasked
  intro later after continued quiet
  refine ⟨index, current, ?_⟩
  have kept (before : State τ) (action : Action τ) (next : State τ)
      (holds : before.thread = some index ∧ before.stopped = false ∧
        (before.phase index).inLoop = true)
      (quiet : action.quiet = true) (stepped : (system τ).step before action = some next) :
      next.thread = some index ∧ next.stopped = false ∧ (next.phase index).inLoop = true :=
    step_unasked holds.1 holds.2.1 holds.2.2 quiet stepped
  exact (System.runFrom_invariant_along kept ⟨current, clear, inLoop⟩
    (System.along_of_forall_mem quiet state) continued).2.2

/-- A loop that is asked to stop leaves at its next look at the flag. -/
theorem leaves_of_asked {state : State τ} (consistent : Consistent state)
    (asked : state.stopped = true) {index : Nat} (inLoop : (state.phase index).inLoop = true) :
    ∃ later after, (system τ).runFrom state later = some after ∧
      (∀ action ∈ later, action.quiet = true) ∧ (after.phase index).inLoop = false := by
  have unoccupied : state.waits (.loop index) = false := by
    rw [State.waits, List.any_eq_false]
    intro stop member own
    exact (consistent.waiting stop member).2.2 index (beq_iff_eq.mp own)
  have checked (between : State τ) (flag : between.stopped = true)
      (checking : between.phase index = .checking) :
      (system τ).runFrom between [.check index] = some (between.setPhase index (.dead none)) := by
    rw [System.runFrom_cons_eq_some]
    refine ⟨_, ?_, rfl⟩
    simp [system, step, checking, flag]
  cases phase : state.phase index with
  | checking =>
      refine ⟨[.check index], _, checked state asked phase, ?_, ?_⟩
      · simp [Action.quiet]
      · simp [Phase.inLoop]
  | dispatching =>
      refine ⟨[.dispatched index, .check index], _,
        System.runFrom_cons_eq_some.mpr ⟨state.setPhase index .checking, ?_,
          checked (state.setPhase index .checking) asked (by simp)⟩, ?_, ?_⟩
      · simp [system, step, phase, unoccupied]
      · simp [Action.quiet]
      · simp [Phase.inLoop]
  | failing failure | reporting failure | dead failure =>
      rw [phase] at inLoop
      cases inLoop

theorem keepsDispatching_iff {state : State τ} (consistent : Consistent state) :
    KeepsDispatching state ↔ Unasked state := by
  constructor
  · intro keeps
    obtain ⟨index, current, inLoop⟩ := keeps [] state rfl (by simp)
    refine ⟨?_, index, current, inLoop⟩
    cases asked : state.stopped with
    | false => rfl
    | true =>
        obtain ⟨later, after, continued, quiet, left⟩ := leaves_of_asked consistent asked inLoop
        obtain ⟨other, currentToo, stays⟩ := keeps later after continued quiet
        rw [current] at currentToo
        cases currentToo
        rw [left] at stays
        cases stays
  · exact keepsDispatching_of_unasked

/-! ### Calls between a stop or a failure and the end of the thread -/

/-- No loop's thread is alive. -/
def Idle (state : State τ) : Prop := ∀ index, state.alive index = false

/-- The thread that was alive at a stop or at a failure has ended since, whichever
stop or failure of the history it is. -/
def Settled (history : List (Action τ)) : Prop :=
  ∀ early action later, history = early ++ action :: later → action.quiet = false →
    ∃ passed rest state, later = passed ++ rest ∧
      (system τ).run (early ++ action :: passed) = some state ∧ Idle state

theorem settled_nil : Settled ([] : List (Action τ)) := by
  intro early action later split
  simp at split

theorem settled_append_singleton {history : List (Action τ)} {action : Action τ} {after : State τ}
    (ran : (system τ).run (history ++ [action]) = some after) :
    Settled (history ++ [action]) ↔ Idle after ∨ action.quiet = true ∧ Settled history := by
  constructor
  · intro settled
    by_cases idle : Idle after
    · exact .inl idle
    refine .inr ⟨?_, ?_⟩
    · by_contra loud
      obtain ⟨passed, rest, state, split, ranToo, ended⟩ :=
        settled history action [] rfl (Bool.eq_false_iff.mpr loud)
      rw [(List.nil_eq_append_iff.mp split).1, ran] at ranToo
      cases ranToo
      exact idle ended
    · intro early other later split loud
      have whole : history ++ [action] = early ++ other :: (later ++ [action]) := by
        rw [split, List.append_assoc, List.cons_append]
      obtain ⟨passed, rest, state, splitLater, ranToo, ended⟩ := settled early other _ whole loud
      rcases List.eq_nil_or_concat rest with rfl | ⟨front, last, rfl⟩
      · rw [List.append_nil] at splitLater
        rw [← splitLater, ← whole, ran] at ranToo
        cases ranToo
        exact absurd ended idle
      · rw [List.concat_eq_append, ← List.append_assoc] at splitLater
        exact ⟨passed, front, state, (List.append_inj' splitLater rfl).1, ranToo, ended⟩
  · rintro (idle | ⟨quiet, settled⟩) early other later split loud
    · rw [split] at ran
      exact ⟨later, [], after, (List.append_nil later).symm, ran, idle⟩
    · rcases List.eq_nil_or_concat later with rfl | ⟨front, last, rfl⟩
      · obtain ⟨-, same⟩ := List.append_inj' split rfl
        cases same
        rw [quiet] at loud
        cases loud
      · rw [List.concat_eq_append, ← List.cons_append, ← List.append_assoc] at split
        obtain ⟨shorter, -⟩ := List.append_inj' split rfl
        obtain ⟨passed, rest, state, splitFront, ranToo, ended⟩ :=
          settled early other front shorter loud
        refine ⟨passed, rest ++ [last], state, ?_, ranToo, ended⟩
        rw [List.concat_eq_append, splitFront, List.append_assoc]

/-- From where no loop is alive, a quiet step leads to a fresh loop or to none. -/
theorem step_idle {before after : State τ} {action : Action τ} (idle : Idle before)
    (quiet : action.quiet = true) (stepped : step before action = some after) :
    Idle after ∨ Unasked after := by
  cases step_cases stepped with
  | start caller pollTimeoutMillis =>
      unfold State.start
      split
      · exact .inl idle
      · split
        · exact .inl idle
        · exact .inr ⟨rfl, before.loops, rfl, by simp [State.setPhase, Phase.inLoop]⟩
  | stop caller may => cases quiet
  | interrupt stop member => exact .inl idle
  | finishStop stop member dead => exact .inl idle
  | own index move =>
      have alive := move.alive
      rw [idle index] at alive
      cases alive

/-- A loop that dispatches undisturbed was started just now or did so before. -/
theorem unasked_before {before after : State τ} {action : Action τ}
    (consistent : Consistent before) (unasked : Unasked after)
    (stepped : step before action = some after) :
    action.quiet = true ∧ (Idle before ∨ Unasked before) := by
  obtain ⟨clear, index, current, inLoop⟩ := unasked
  cases step_cases stepped with
  | start caller pollTimeoutMillis =>
      refine ⟨rfl, ?_⟩
      unfold State.start at clear current inLoop
      split at clear
      · rename_i unfit
        simp only [if_pos unfit] at current inLoop
        exact .inr ⟨clear, index, current, inLoop⟩
      · rename_i fit
        simp only [if_neg fit] at current inLoop
        split at clear
        · rename_i running
          simp only [if_pos running] at current inLoop
          exact .inr ⟨clear, index, current, inLoop⟩
        · rename_i idle
          exact .inl (consistent.alive_eq_false (Bool.eq_false_iff.mpr idle))
  | stop caller may =>
      unfold State.stop at clear
      split at clear
      · cases clear
      · split at clear <;> cases clear
  | interrupt stop member => exact ⟨rfl, .inr ⟨clear, index, current, inLoop⟩⟩
  | finishStop stop member dead =>
      refine ⟨rfl, .inr ⟨clear, index, ?_, inLoop⟩⟩
      simp only [State.finishStop] at current
      split at current
      · cases current
      · exact current
  | own own move =>
      obtain ⟨-, flag, thread, -⟩ := move.frame
      have same : own = index := by
        have owned := consistent.current own move.alive
        rw [← thread, current] at owned
        exact (Option.some.inj owned).symm
      subst same
      rw [flag] at clear
      rw [thread] at current
      cases move with
      | exit checking asked =>
          rw [clear] at asked
          cases asked
      | enter checking _ => exact ⟨rfl, .inr ⟨clear, own, current, by rw [checking]; rfl⟩⟩
      | dispatched dispatching =>
          exact ⟨rfl, .inr ⟨clear, own, current, by rw [dispatching]; rfl⟩⟩
      | fail failure dispatching => simp [Phase.inLoop] at inLoop
      | record failure failing => simp [State.setPhase, Phase.inLoop] at inLoop
      | finish failure reporting => simp [Phase.inLoop] at inLoop

/-- The order of the calls tells whether the loop that is alive dispatches
undisturbed. -/
theorem settled_iff {history : List (Action τ)} {state : State τ}
    (ran : (system τ).run history = some state) :
    Settled history ↔ Idle state ∨ Unasked state := by
  refine @System.run_history _ _ (system τ)
    (fun history state => Settled history ↔ Idle state ∨ Unasked state) ?_ ?_ _ _ ran
  · exact iff_of_true settled_nil (.inl fun _ => rfl)
  · intro trace before action after reached earlier stepped
    have ranOn : (system τ).run (trace ++ [action]) = some after :=
      System.runFrom_append.mpr ⟨before, reached,
        System.runFrom_cons_eq_some.mpr ⟨after, stepped, rfl⟩⟩
    rw [settled_append_singleton ranOn, earlier]
    constructor
    · rintro (idle | ⟨quiet, idle | ⟨clear, index, current, inLoop⟩⟩)
      · exact .inl idle
      · exact step_idle idle quiet stepped
      · obtain ⟨currentAfter, clearAfter, inLoopAfter⟩ :=
          step_unasked current clear inLoop quiet stepped
        exact .inr ⟨clearAfter, index, currentAfter, inLoopAfter⟩
    · rintro (idle | unasked)
      · exact .inl idle
      · exact .inr (unasked_before (reachable_consistent (System.reachable_of_run reached))
          unasked stepped)

/-- A start answers false where its timeout is fit and a loop is alive. -/
theorem refused_start_iff {state : State τ} (consistent : Consistent state) {caller : Caller}
    {pollTimeoutMillis : Int} :
    Refused state (.start caller pollTimeoutMillis) ↔ 0 < pollTimeoutMillis ∧ ¬ Idle state := by
  have alive : ¬ Idle state ↔ state.isRunning = true := by
    constructor
    · intro notIdle
      by_contra idle
      exact notIdle (consistent.alive_eq_false (Bool.eq_false_iff.mpr idle))
    · intro running idle
      obtain ⟨index, -, alive⟩ := State.isRunning_eq_true.mp running
      rw [idle index] at alive
      cases alive
  rw [alive]
  simp only [Refused, State.start]
  split
  · rename_i unfit
    constructor
    · intro impossible
      cases impossible
    · intro both
      omega
  · rename_i fit
    split
    · rename_i running
      exact iff_of_true rfl ⟨by omega, running⟩
    · rename_i idle
      constructor
      · intro impossible
        cases impossible
      · intro both
        exact absurd both.2 idle

/-- Every start of a run that answers false leaves a loop that keeps dispatching,
up to the next stop or failure, exactly if no start with a positive timeout is
called between a stop or a failure and the end of the thread that was alive then. -/
theorem refused_keeps_iff {trace : List (Action τ)} {state : State τ}
    (ran : (system τ).run trace = some state) :
    System.Along (fun state action => Refused state action → KeepsDispatching state) (system τ)
        (system τ).initial trace ↔
      ∀ early caller pollTimeoutMillis rest,
        trace = early ++ .start caller pollTimeoutMillis :: rest → 0 < pollTimeoutMillis →
          Settled early := by
  rw [System.along_iff_forall_split ran]
  constructor
  · intro keeps early caller pollTimeoutMillis rest split positive
    subst split
    obtain ⟨between, passed, -⟩ := System.runFrom_append.mp ran
    have consistent := reachable_consistent (System.reachable_of_run passed)
    rw [settled_iff passed]
    by_cases idle : Idle between
    · exact .inl idle
    · have refused : Refused between (.start caller pollTimeoutMillis) :=
        (refused_start_iff consistent).mpr ⟨positive, idle⟩
      have kept := keeps early _ rest between rfl passed refused
      exact .inr ((keepsDispatching_iff consistent).mp kept)
  · intro settled early action rest between split passed refused
    have consistent := reachable_consistent (System.reachable_of_run passed)
    cases action with
    | start caller pollTimeoutMillis =>
        obtain ⟨positive, alive⟩ := (refused_start_iff consistent).mp refused
        rcases (settled_iff passed).mp (settled early caller pollTimeoutMillis rest split positive)
          with idle | unasked
        · exact absurd idle alive
        · exact (keepsDispatching_iff consistent).mpr unasked
    | stop _ | interrupt _ | finishStop _ | check _ | dispatched _ | fail _ _ | record _
    | finish _ => cases refused

/-- A stop, the end of the loop, and a start. -/
def settledTrace : List (Action Nat) :=
  [.start (.other 0) 250, .start (.other 1) 250, .check 0, .stop (.other 1), .dispatched 0,
    .check 0, .start (.other 2) 250]

theorem refused_keeps_iff_settledTrace :
    ∃ state, (system Nat).run settledTrace = some state ∧ state.isRunning = true ∧
      (System.Along (fun state action => Refused state action → KeepsDispatching state)
          (system Nat) (system Nat).initial settledTrace ↔
        ∀ early caller pollTimeoutMillis rest,
          settledTrace = early ++ .start caller pollTimeoutMillis :: rest → 0 < pollTimeoutMillis →
            Settled early) := by
  have ran : (system Nat).run settledTrace = some (((system Nat).run settledTrace).get rfl) :=
    (Option.some_get _).symm
  exact ⟨_, ran, rfl, refused_keeps_iff ran⟩

/-- A start while the loop that another thread has stopped is still in a dispatch. -/
def lostStartTrace : List (Action Nat) :=
  [.start (.other 0) 250, .check 0, .stop (.other 1), .start (.other 2) 250]

/-- The start answers false, and afterwards no loop runs. -/
theorem start_lost :
    (∃ state, (system Nat).run lostStartTrace = some state ∧
      ∃ after, (system Nat).runFrom state [.dispatched 0, .check 0] = some after ∧
        after.isRunning = false) ∧
      ¬ System.Along (fun state action => Refused state action → KeepsDispatching state)
        (system Nat) (system Nat).initial lostStartTrace := by
  constructor
  · exact ⟨_, rfl, _, rfl, rfl⟩
  · intro along
    have keeps := (along.2 _ rfl).2 _ rfl |>.2 _ rfl |>.1 rfl
    obtain ⟨index, current, inLoop⟩ := keeps [.dispatched 0, .check 0] _ rfl (by decide)
    cases current
    cases inLoop

end UpdateLoop
end Kotlogramme.Updates
