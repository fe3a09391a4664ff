/-
The background update loop.

Starting and stopping take the loop's lock for their short sections; a stop waits
for the thread between two of them.  The loop's thread reads the stop flag before
each dispatch and ends where it is set or the dispatch throws.  Its callback and
its error handler may start and stop the loop themselves.
-/

import Kotlogramme.Foundation.Transition
import Mathlib.Logic.Function.Basic

namespace Kotlogramme.Updates
namespace UpdateLoop

/-- Where a loop's thread stands in `run`: about to read the flag, in a dispatch,
about to record what the dispatch threw, on its way out with that recorded, or
ended. -/
inductive Phase (τ : Type)
  | checking
  | dispatching
  | failing (failure : τ)
  | reporting (failure : τ)
  | dead (failure : Option τ)

namespace Phase

variable {τ : Type}

def alive : Phase τ → Bool
  | .dead _ => false
  | _ => true

def inLoop : Phase τ → Bool
  | .checking => true
  | .dispatching => true
  | _ => false

/-- The throwable that ended the loop, once it is recorded. -/
def recorded : Phase τ → Option τ
  | .reporting failure => some failure
  | .dead failure => failure
  | _ => none

end Phase

inductive Caller
  | loop (index : Nat)
  | other (name : Nat)
  deriving DecidableEq

/-- A stop between its two sections; `started` is the number of loops that had been
started when it took the lock. -/
structure StopCall where
  caller : Caller
  worker : Nat
  started : Nat
  deriving DecidableEq

/-- Loops are numbered in the order they were started.  `returned` records the
stops that returned, with the thread each found when it took the lock. -/
structure State (τ : Type) where
  stopped : Bool
  thread : Option Nat
  lastFailure : Option τ
  loops : Nat
  phase : Nat → Phase τ
  stops : List StopCall
  returned : List (Caller × Option Nat)

namespace State

variable {τ : Type}

def alive (state : State τ) (index : Nat) : Bool := (state.phase index).alive

def setPhase (state : State τ) (index : Nat) (phase : Phase τ) : State τ :=
  { state with phase := Function.update state.phase index phase }

def isRunning (state : State τ) : Bool :=
  match state.thread with
  | some index => state.alive index
  | none => false

def start (state : State τ) (pollTimeoutMillis : Int) : Except String Bool × State τ :=
  if pollTimeoutMillis ≤ 0 then (.error "pollTimeoutMillis must be positive", state)
  else if state.isRunning then (.ok false, state)
  else
    (.ok true, { state.setPhase state.loops .checking with
      stopped := false, lastFailure := none, thread := some state.loops, loops := state.loops + 1 })

/-- `stop` up to the join. -/
def stop (state : State τ) (caller : Caller) : State τ :=
  match state.thread with
  | none => { state with stopped := true, returned := state.returned ++ [(caller, none)] }
  | some worker =>
      if caller = .loop worker then
        { state with stopped := true, returned := state.returned ++ [(caller, some worker)] }
      else { state with stopped := true, stops := state.stops ++ [⟨caller, worker, state.loops⟩] }

/-- `stop` from the join on. -/
def finishStop (state : State τ) (stop : StopCall) : State τ :=
  { state with
    thread := if state.thread = some stop.worker then none else state.thread
    stops := state.stops.erase stop
    returned := state.returned ++ [(stop.caller, some stop.worker)] }

def waits (state : State τ) (caller : Caller) : Bool :=
  state.stops.any fun stop => stop.caller == caller

/-- A loop's thread calls from its callback or its error handler. -/
def mayCall (state : State τ) (caller : Caller) : Bool :=
  !state.waits caller &&
    match caller with
    | .other _ => true
    | .loop index =>
        match state.phase index with
        | .dispatching | .reporting _ => true
        | _ => false

end State

/-- `interrupt` is a join that throws; `dispatched` and `fail` are the two ways a
dispatch ends. -/
inductive Action (τ : Type)
  | start (caller : Caller) (pollTimeoutMillis : Int)
  | stop (caller : Caller)
  | interrupt (stop : StopCall)
  | finishStop (stop : StopCall)
  | check (index : Nat)
  | dispatched (index : Nat)
  | fail (index : Nat) (failure : τ)
  | record (index : Nat)
  | finish (index : Nat)

variable {τ : Type}

def step (state : State τ) : Action τ → Option (State τ)
  | .start caller pollTimeoutMillis =>
      if state.mayCall caller then some (state.start pollTimeoutMillis).2 else none
  | .stop caller => if state.mayCall caller then some (state.stop caller) else none
  | .interrupt stop =>
      if stop ∈ state.stops then some { state with stops := state.stops.erase stop } else none
  | .finishStop stop =>
      if stop ∈ state.stops ∧ state.alive stop.worker = false then some (state.finishStop stop)
      else none
  | .check index =>
      match state.phase index with
      | .checking =>
          some (state.setPhase index (if state.stopped then .dead none else .dispatching))
      | _ => none
  | .dispatched index =>
      match state.phase index, state.waits (.loop index) with
      | .dispatching, false => some (state.setPhase index .checking)
      | _, _ => none
  | .fail index failure =>
      match state.phase index, state.waits (.loop index) with
      | .dispatching, false => some (state.setPhase index (.failing failure))
      | _, _ => none
  | .record index =>
      match state.phase index with
      | .failing failure =>
          some { state.setPhase index (.reporting failure) with lastFailure := some failure }
      | _ => none
  | .finish index =>
      match state.phase index, state.waits (.loop index) with
      | .reporting failure, false => some (state.setPhase index (.dead (some failure)))
      | _, _ => none

def system (τ : Type) : System (State τ) (Action τ) where
  initial :=
    { stopped := false, thread := none, lastFailure := none, loops := 0
      phase := fun _ => .dead none, stops := [], returned := [] }
  step := step

/-! ### What a step can do -/

/-- A step of a loop's own thread. -/
inductive Move (state : State τ) (index : Nat) : Action τ → State τ → Prop
  | exit (checking : state.phase index = .checking) (asked : state.stopped = true) :
      Move state index (.check index) (state.setPhase index (.dead none))
  | enter (checking : state.phase index = .checking) (unasked : state.stopped = false) :
      Move state index (.check index) (state.setPhase index .dispatching)
  | dispatched (dispatching : state.phase index = .dispatching) :
      Move state index (.dispatched index) (state.setPhase index .checking)
  | fail (failure : τ) (dispatching : state.phase index = .dispatching) :
      Move state index (.fail index failure) (state.setPhase index (.failing failure))
  | record (failure : τ) (failing : state.phase index = .failing failure) :
      Move state index (.record index)
        { state.setPhase index (.reporting failure) with lastFailure := some failure }
  | finish (failure : τ) (reporting : state.phase index = .reporting failure) :
      Move state index (.finish index) (state.setPhase index (.dead (some failure)))

inductive Stepped (state : State τ) : Action τ → State τ → Prop
  | start (caller : Caller) (pollTimeoutMillis : Int) :
      Stepped state (.start caller pollTimeoutMillis) (state.start pollTimeoutMillis).2
  | stop (caller : Caller) (may : state.mayCall caller = true) :
      Stepped state (.stop caller) (state.stop caller)
  | interrupt (stop : StopCall) (member : stop ∈ state.stops) :
      Stepped state (.interrupt stop) { state with stops := state.stops.erase stop }
  | finishStop (stop : StopCall) (member : stop ∈ state.stops)
      (dead : state.alive stop.worker = false) :
      Stepped state (.finishStop stop) (state.finishStop stop)
  | own {action : Action τ} {after : State τ} (index : Nat) (move : Move state index action after) :
      Stepped state action after

theorem step_cases {before after : State τ} {action : Action τ}
    (stepped : step before action = some after) : Stepped before action after := by
  cases action with
  | start caller pollTimeoutMillis =>
      simp only [step] at stepped
      split at stepped
      · cases stepped
        exact .start caller pollTimeoutMillis
      · cases stepped
  | stop caller =>
      simp only [step] at stepped
      split at stepped
      · rename_i may
        cases stepped
        exact .stop caller may
      · cases stepped
  | interrupt stop =>
      simp only [step] at stepped
      split at stepped
      · rename_i member
        cases stepped
        exact .interrupt stop member
      · cases stepped
  | finishStop stop =>
      simp only [step] at stepped
      split at stepped
      · rename_i possible
        cases stepped
        exact .finishStop stop possible.1 possible.2
      · cases stepped
  | check index =>
      simp only [step] at stepped
      split at stepped
      · rename_i checking
        cases stepped
        cases asked : before.stopped with
        | true => exact .own index (.exit checking asked)
        | false => exact .own index (.enter checking asked)
      · cases stepped
  | dispatched index =>
      simp only [step] at stepped
      split at stepped
      · rename_i dispatching _
        cases stepped
        exact .own index (.dispatched dispatching)
      · cases stepped
  | fail index failure =>
      simp only [step] at stepped
      split at stepped
      · rename_i dispatching _
        cases stepped
        exact .own index (.fail failure dispatching)
      · cases stepped
  | record index =>
      simp only [step] at stepped
      split at stepped
      · rename_i failure failing
        cases stepped
        exact .own index (.record failure failing)
      · cases stepped
  | finish index =>
      simp only [step] at stepped
      split at stepped
      · rename_i failure reporting _
        cases stepped
        exact .own index (.finish failure reporting)
      · cases stepped

/-! ### What every run keeps -/

/-- A live loop is the current one, and the current one is the last started. -/
structure Consistent (state : State τ) : Prop where
  current : ∀ index, state.alive index = true → state.thread = some index
  latest : ∀ index, state.thread = some index → index + 1 = state.loops
  failed : ∀ failure, state.lastFailure = some failure →
    ∃ index, index + 1 = state.loops ∧ (state.phase index).recorded = some failure
  waiting : ∀ stop ∈ state.stops,
    stop.worker + 1 = stop.started ∧ stop.started ≤ state.loops ∧ ∀ index, stop.caller ≠ .loop index
  ended : ∀ caller index, (caller, some index) ∈ state.returned → caller ≠ .loop index →
    state.alive index = false ∧ index < state.loops

theorem consistent_initial : Consistent (system τ).initial where
  current := by intro index impossible; cases impossible
  latest := by intro index impossible; cases impossible
  failed := by intro failure impossible; cases impossible
  waiting := by intro stop impossible; cases impossible
  ended := by intro caller index impossible; cases impossible

namespace State

@[simp] theorem setPhase_phase (state : State τ) (index other : Nat) (phase : Phase τ) :
    (state.setPhase index phase).phase other =
      if other = index then phase else state.phase other := by
  unfold setPhase
  exact Function.update_apply _ _ _ _

@[simp] theorem setPhase_alive (state : State τ) (index other : Nat) (phase : Phase τ) :
    (state.setPhase index phase).alive other =
      if other = index then phase.alive else state.alive other := by
  unfold alive
  rw [setPhase_phase]
  split <;> rfl

theorem isRunning_eq_true {state : State τ} :
    state.isRunning = true ↔ ∃ index, state.thread = some index ∧ state.alive index = true := by
  unfold isRunning
  cases state.thread with
  | none => simp
  | some index => simp

end State

namespace Move

variable {state after : State τ} {index : Nat} {action : Action τ}

theorem alive (move : Move state index action after) : state.alive index = true := by
  unfold State.alive
  cases move with
  | exit checking asked => rw [checking]; rfl
  | enter checking unasked => rw [checking]; rfl
  | dispatched dispatching => rw [dispatching]; rfl
  | fail failure dispatching => rw [dispatching]; rfl
  | record failure failing => rw [failing]; rfl
  | finish failure reporting => rw [reporting]; rfl

/-- A thread's step leaves the other threads and the calls alone. -/
theorem frame (move : Move state index action after) :
    (∀ other, other ≠ index → after.phase other = state.phase other) ∧
      after.stopped = state.stopped ∧ after.thread = state.thread ∧ after.loops = state.loops := by
  cases move <;> exact ⟨fun other foreign => Function.update_of_ne foreign _ _, rfl, rfl, rfl⟩

end Move

namespace Consistent

variable {state : State τ}

/-- Where no loop runs, none is alive. -/
theorem alive_eq_false (consistent : Consistent state) (idle : state.isRunning = false)
    (index : Nat) : state.alive index = false := by
  cases alive : state.alive index with
  | false => rfl
  | true =>
      have running : state.isRunning = true :=
        State.isRunning_eq_true.mpr ⟨index, consistent.current index alive, alive⟩
      rw [idle] at running
      cases running

/-- A loop's thread that calls is the current one. -/
theorem thread_of_mayCall (consistent : Consistent state) {index : Nat}
    (may : state.mayCall (.loop index) = true) : state.thread = some index := by
  refine consistent.current index ?_
  simp only [State.mayCall, Bool.and_eq_true] at may
  cases phase : state.phase index with
  | dispatching => simp [State.alive, phase, Phase.alive]
  | reporting failure => simp [State.alive, phase, Phase.alive]
  | checking => simp [phase] at may
  | failing failure => simp [phase] at may
  | dead failure => simp [phase] at may

/-- A live loop's thread moves on and keeps what it has recorded. -/
theorem setPhase (consistent : Consistent state) {index : Nat} {phase : Phase τ}
    (alive : state.alive index = true)
    (kept : ∀ failure, (state.phase index).recorded = some failure →
      phase.recorded = some failure) : Consistent (state.setPhase index phase) where
  current other otherAlive := by
    rw [State.setPhase_alive] at otherAlive
    split at otherAlive
    · rename_i same
      rw [same]
      exact consistent.current index alive
    · exact consistent.current other otherAlive
  latest := consistent.latest
  failed failure recorded := by
    obtain ⟨last, isLast, inPhase⟩ := consistent.failed failure recorded
    refine ⟨last, isLast, ?_⟩
    rw [State.setPhase_phase]
    split
    · rename_i same
      exact kept failure (same ▸ inPhase)
    · exact inPhase
  waiting := consistent.waiting
  ended caller other returned foreign := by
    obtain ⟨dead, started⟩ := consistent.ended caller other returned foreign
    refine ⟨?_, started⟩
    rw [State.setPhase_alive]
    split
    · rename_i same
      rw [same, alive] at dead
      cases dead
    · exact dead

theorem record (consistent : Consistent state) {index : Nat} {failure : τ}
    (failing : state.phase index = .failing failure) :
    Consistent { state.setPhase index (.reporting failure) with lastFailure := some failure } := by
  have alive : state.alive index = true := by simp [State.alive, failing, Phase.alive]
  have moved : Consistent (state.setPhase index (.reporting failure)) :=
    consistent.setPhase alive (by simp [failing, Phase.recorded])
  refine ⟨moved.current, moved.latest, ?_, moved.waiting, moved.ended⟩
  intro recorded same
  cases same
  refine ⟨index, consistent.latest index (consistent.current index alive), ?_⟩
  rw [State.setPhase_phase, if_pos rfl]
  rfl

theorem move (consistent : Consistent state) {index : Nat} {action : Action τ} {after : State τ}
    (move : Move state index action after) : Consistent after := by
  have alive := move.alive
  cases move with
  | exit checking asked => exact consistent.setPhase alive (by simp [checking, Phase.recorded])
  | enter checking unasked => exact consistent.setPhase alive (by simp [checking, Phase.recorded])
  | dispatched dispatching => exact consistent.setPhase alive (by simp [dispatching, Phase.recorded])
  | fail failure dispatching =>
      exact consistent.setPhase alive (by simp [dispatching, Phase.recorded])
  | record failure failing => exact consistent.record failing
  | finish failure reporting => exact consistent.setPhase alive (by simp [reporting, Phase.recorded])

theorem start (consistent : Consistent state) (pollTimeoutMillis : Int) :
    Consistent (state.start pollTimeoutMillis).2 := by
  unfold State.start
  split
  · exact consistent
  · split
    · exact consistent
    · rename_i idle
      have dead := consistent.alive_eq_false (by simpa using idle)
      constructor
      · intro index alive
        change (state.setPhase state.loops .checking).alive index = true at alive
        rw [State.setPhase_alive] at alive
        split at alive
        · rename_i same
          rw [same]
        · rw [dead index] at alive
          cases alive
      · intro index same
        cases same
        rfl
      · intro failure impossible
        cases impossible
      · intro stop member
        obtain ⟨last, started, foreign⟩ := consistent.waiting stop member
        exact ⟨last, Nat.le_succ_of_le started, foreign⟩
      · intro caller index returned foreign
        obtain ⟨_, started⟩ := consistent.ended caller index returned foreign
        refine ⟨?_, Nat.lt_succ_of_lt started⟩
        change (state.setPhase state.loops .checking).alive index = false
        rw [State.setPhase_alive, if_neg (Nat.ne_of_lt started)]
        exact dead index

theorem stop (consistent : Consistent state) {caller : Caller}
    (may : state.mayCall caller = true) : Consistent (state.stop caller) := by
  unfold State.stop
  split
  · refine ⟨consistent.current, consistent.latest, consistent.failed, consistent.waiting, ?_⟩
    intro other index returned foreign
    rcases List.mem_append.mp returned with earlier | last
    · exact consistent.ended other index earlier foreign
    · simp at last
  · rename_i worker current
    split
    · rename_i own
      refine ⟨consistent.current, consistent.latest, consistent.failed, consistent.waiting, ?_⟩
      intro other index returned foreign
      rcases List.mem_append.mp returned with earlier | last
      · exact consistent.ended other index earlier foreign
      · simp only [List.mem_singleton, Prod.mk.injEq, Option.some.injEq] at last
        rw [last.1, last.2] at foreign
        exact absurd own foreign
    · rename_i foreign
      refine ⟨consistent.current, consistent.latest, consistent.failed, ?_, consistent.ended⟩
      intro stop member
      rcases List.mem_append.mp member with earlier | last
      · exact consistent.waiting stop earlier
      · rw [List.mem_singleton.mp last]
        refine ⟨consistent.latest worker current, Nat.le_refl _, ?_⟩
        intro index same
        subst same
        have own := consistent.thread_of_mayCall may
        rw [current] at own
        cases own
        exact foreign rfl

/-- A stop takes away no loop but the dead one it waited for. -/
theorem finishStop (consistent : Consistent state) {stop : StopCall} (member : stop ∈ state.stops)
    (dead : state.alive stop.worker = false) : Consistent (state.finishStop stop) := by
  obtain ⟨last, started, _⟩ := consistent.waiting stop member
  constructor
  · intro index alive
    have current := consistent.current index alive
    have other : state.thread ≠ some stop.worker := by
      rw [current]
      intro same
      cases same
      change state.alive stop.worker = true at alive
      rw [dead] at alive
      cases alive
    simp only [State.finishStop, if_neg other]
    exact current
  · intro index current
    simp only [State.finishStop] at current
    split at current
    · cases current
    · exact consistent.latest index current
  · exact consistent.failed
  · intro other memberErased
    exact consistent.waiting other (List.mem_of_mem_erase memberErased)
  · intro caller index returned foreign
    rcases List.mem_append.mp returned with earlier | latest
    · exact consistent.ended caller index earlier foreign
    · simp only [List.mem_singleton, Prod.mk.injEq, Option.some.injEq] at latest
      rw [latest.2]
      refine ⟨dead, ?_⟩
      change stop.worker < state.loops
      omega

end Consistent

theorem step_consistent (before : State τ) (action : Action τ) (after : State τ)
    (consistent : Consistent before) (stepped : step before action = some after) :
    Consistent after := by
  cases step_cases stepped with
  | start caller pollTimeoutMillis => exact consistent.start pollTimeoutMillis
  | stop caller may => exact consistent.stop may
  | interrupt stop member =>
      exact ⟨consistent.current, consistent.latest, consistent.failed,
        fun other erased => consistent.waiting other (List.mem_of_mem_erase erased),
        consistent.ended⟩
  | finishStop stop member dead => exact consistent.finishStop member dead
  | own index move => exact consistent.move move

theorem reachable_consistent {state : State τ} (reached : (system τ).Reachable state) :
    Consistent state :=
  reached.invariant consistent_initial step_consistent

/-- At most one loop is alive, the thread field refers to the last one started or
to none, no stop takes away a loop that was started after it, and the failure is
the one of the last loop. -/
theorem loop_invariant {trace : List (Action τ)} {state : State τ}
    (ran : (system τ).run trace = some state) :
    (∀ left right, state.alive left = true → state.alive right = true → left = right) ∧
      (∀ index, state.thread = some index → index + 1 = state.loops) ∧
      (state.thread = none → ∀ index, state.alive index = false) ∧
      (∀ stop after, step state (.finishStop stop) = some after → stop.started < state.loops →
        after.thread = state.thread) ∧
      ∀ failure, state.lastFailure = some failure →
        ∃ index, index + 1 = state.loops ∧ (state.phase index).recorded = some failure := by
  have consistent := reachable_consistent (System.reachable_of_run ran)
  refine ⟨?_, consistent.latest, ?_, ?_, consistent.failed⟩
  · intro left right leftAlive rightAlive
    have same := consistent.current left leftAlive
    rw [consistent.current right rightAlive] at same
    exact (Option.some.inj same).symm
  · intro idle
    refine consistent.alive_eq_false ?_
    simp [State.isRunning, idle]
  · intro stop after stepped later
    simp only [step] at stepped
    split at stepped
    · rename_i possible
      cases stepped
      obtain ⟨last, _, _⟩ := consistent.waiting stop possible.1
      have other : state.thread ≠ some stop.worker := by
        intro same
        have latest := consistent.latest stop.worker same
        omega
      simp [State.finishStop, other]
    · cases stepped

/-- A start slips in between the end of a loop and the second section of the stop
that waited for it. -/
def overlappedStopTrace : List (Action Nat) :=
  [.start (.other 0) 250, .check 0, .stop (.other 1), .dispatched 0, .check 0,
    .start (.other 0) 250, .finishStop ⟨.other 1, 0, 1⟩]

theorem loop_invariant_overlappedStop :
    ∃ state, (system Nat).run overlappedStopTrace = some state ∧ state.thread = some 1 ∧
      (∀ left right, state.alive left = true → state.alive right = true → left = right) ∧
      (∀ index, state.thread = some index → index + 1 = state.loops) ∧
      (state.thread = none → ∀ index, state.alive index = false) ∧
      (∀ stop after, step state (.finishStop stop) = some after → stop.started < state.loops →
        after.thread = state.thread) ∧
      ∀ failure, state.lastFailure = some failure →
        ∃ index, index + 1 = state.loops ∧ (state.phase index).recorded = some failure := by
  have ran : (system Nat).run overlappedStopTrace =
      some (((system Nat).run overlappedStopTrace).get rfl) := (Option.some_get _).symm
  exact ⟨_, ran, rfl, loop_invariant ran⟩

/-! ### What a stop does -/

def Action.ownStep (index : Nat) : Action τ → Bool
  | .check own | .dispatched own | .fail own _ | .record own | .finish own => own == index
  | _ => false

theorem Move.ownStep {before after : State τ} {own : Nat} {action : Action τ}
    (move : Move before own action after) (index : Nat) :
    action.ownStep index = (own == index) := by
  cases move <;> rfl

/-- Only a start makes a thread alive, and a new one. -/
theorem step_dead {before after : State τ} {action : Action τ}
    (stepped : step before action = some after) {index : Nat}
    (ended : before.alive index = false ∧ index < before.loops) :
    (after.alive index = false ∧ index < after.loops) ∧ action.ownStep index = false := by
  cases step_cases stepped with
  | start caller pollTimeoutMillis =>
      unfold State.start
      split
      · exact ⟨ended, rfl⟩
      · split
        · exact ⟨ended, rfl⟩
        · refine ⟨⟨?_, Nat.lt_succ_of_lt ended.2⟩, rfl⟩
          change (before.setPhase before.loops .checking).alive index = false
          rw [State.setPhase_alive, if_neg (Nat.ne_of_lt ended.2)]
          exact ended.1
  | stop caller may =>
      unfold State.stop
      split
      · exact ⟨ended, rfl⟩
      · split <;> exact ⟨ended, rfl⟩
  | interrupt stop member => exact ⟨ended, rfl⟩
  | finishStop stop member dead => exact ⟨ended, rfl⟩
  | own own move =>
      have other : index ≠ own := by
        intro same
        have alive := move.alive
        rw [← same, ended.1] at alive
        cases alive
      obtain ⟨others, _, _, loops⟩ := move.frame
      rw [move.ownStep, loops, State.alive, others index other]
      exact ⟨ended, beq_eq_false_iff_ne.mpr other.symm⟩

/-- The stop flag is cleared only where no loop is alive. -/
theorem step_cleared {before after : State τ} {action : Action τ} (consistent : Consistent before)
    (stepped : step before action = some after) (asked : before.stopped = true)
    (cleared : after.stopped = false) (index : Nat) : before.alive index = false := by
  cases step_cases stepped with
  | start caller pollTimeoutMillis =>
      unfold State.start at cleared
      split at cleared
      · rw [asked] at cleared
        cases cleared
      · split at cleared
        · rw [asked] at cleared
          cases cleared
        · rename_i idle
          exact consistent.alive_eq_false (by simpa using idle) index
  | stop caller may =>
      unfold State.stop at cleared
      split at cleared
      · cases cleared
      · split at cleared <;> cases cleared
  | interrupt stop member =>
      change before.stopped = false at cleared
      rw [asked] at cleared
      cases cleared
  | finishStop stop member dead =>
      change before.stopped = false at cleared
      rw [asked] at cleared
      cases cleared
  | own own move =>
      rw [move.frame.2.1, asked] at cleared
      cases cleared

/-- A loop that a stop from another thread found is dead once the stop has returned,
and takes no step any more; and a stop request is cleared only where no loop is
alive. -/
theorem stop_stops {trace : List (Action τ)} {state : State τ}
    (ran : (system τ).run trace = some state) :
    (∀ caller index, (caller, some index) ∈ state.returned → caller ≠ .loop index →
      ∀ later after, (system τ).runFrom state later = some after →
        after.alive index = false ∧ ∀ action ∈ later, action.ownStep index = false) ∧
      ∀ action after, step state action = some after → state.stopped = true →
        after.stopped = false → ∀ index, state.alive index = false := by
  have consistent := reachable_consistent (System.reachable_of_run ran)
  constructor
  · intro caller index returned foreign later after continued
    have ended := consistent.ended caller index returned foreign
    have kept (between : State τ) (action : Action τ) (next : State τ)
        (ended : between.alive index = false ∧ index < between.loops)
        (stepped : (system τ).step between action = some next) :
        (next.alive index = false ∧ index < next.loops) ∧ action.ownStep index = false :=
      step_dead stepped ended
    constructor
    · exact (System.runFrom_invariant
        (fun between action next ended stepped => (kept between action next ended stepped).1)
        ended continued).1
    · exact System.runFrom_forall_mem kept ended continued
  · intro action after stepped asked cleared index
    exact step_cleared consistent stepped asked cleared index

theorem stop_stops_overlappedStop :
    ∃ state, (system Nat).run overlappedStopTrace = some state ∧
      state.returned = [(.other 1, some 0)] ∧
      (∀ caller index, (caller, some index) ∈ state.returned → caller ≠ .loop index →
        ∀ later after, (system Nat).runFrom state later = some after →
          after.alive index = false ∧ ∀ action ∈ later, action.ownStep index = false) ∧
      ∀ action after, step state action = some after → state.stopped = true →
        after.stopped = false → ∀ index, state.alive index = false := by
  have ran : (system Nat).run overlappedStopTrace =
      some (((system Nat).run overlappedStopTrace).get rfl) := (Option.some_get _).symm
  exact ⟨_, ran, rfl, stop_stops ran⟩

end UpdateLoop
end Kotlogramme.Updates
