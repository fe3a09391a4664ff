/-
How long a reader waits.

A reader waits for the lock first, and its timeout covers only the receive after
that.  Time passes only while nothing can happen at once: a free lock is granted
and an update is received before the clock moves, and a timer fires when its time
has come.
-/

import Kotlogramme.Updates.Handoff

namespace Kotlogramme.Updates
namespace Waiting

/-- `since` is when a reader made its call, and `granted` when it got the lock. -/
structure State (ρ τ : Type) where
  handoff : Handoff.State ρ τ
  now : Nat
  since : ρ → Nat
  timeout : ρ → Nat
  granted : ρ → Nat

inductive Action (ρ τ : Type)
  | call (reader : ρ) (timeout : Nat)
  | handoff (action : Handoff.Action ρ τ)
  | elapse (duration : Nat)

variable {ρ τ : Type}

/-- Nobody can get the lock, receive, or return with an update. -/
def State.settled (state : State ρ τ) : Bool :=
  match state.handoff.holder with
  | none => state.handoff.waiters.isEmpty
  | some reader =>
      match state.handoff.phase reader with
      | .receiving => state.handoff.queue.isEmpty && state.handoff.pumping
      | _ => false

/-- The timer of the holder has not passed by then. -/
def State.beforeTimer (state : State ρ τ) (duration : Nat) : Bool :=
  match state.handoff.holder with
  | none => true
  | some reader => decide (state.now + duration ≤ state.granted reader + state.timeout reader)

def State.onTime (state : State ρ τ) : Handoff.Action ρ τ → Bool
  | .call _ => false
  | .timeOut reader => state.now == state.granted reader + state.timeout reader
  | _ => true

variable [DecidableEq ρ]

def State.grants (state : State ρ τ) : Handoff.Action ρ τ → ρ → Nat
  | .acquire reader => Function.update state.granted reader state.now
  | _ => state.granted

def step (state : State ρ τ) : Action ρ τ → Option (State ρ τ)
  | .call reader timeout =>
      (Handoff.step state.handoff (.call reader)).map fun handoff =>
        { state with
          handoff := handoff
          since := Function.update state.since reader state.now
          timeout := Function.update state.timeout reader timeout }
  | .handoff action =>
      if state.onTime action then
        (Handoff.step state.handoff action).map fun handoff =>
          { state with handoff := handoff, granted := state.grants action }
      else none
  | .elapse duration =>
      if state.settled && state.beforeTimer duration then
        some { state with now := state.now + duration }
      else none

def system (ρ τ : Type) [DecidableEq ρ] : System (State ρ τ) (Action ρ τ) where
  initial :=
    { handoff := Handoff.State.initial, now := 0, since := fun _ => 0, timeout := fun _ => 0
      granted := fun _ => 0 }
  step := step

/-- No time passes while a reader waits for the lock. -/
def Unqueued (state : State ρ τ) : Action ρ τ → Prop
  | .elapse duration => duration = 0 ∨ state.handoff.waiters = []
  | _ => True

instance (state : State ρ τ) : (action : Action ρ τ) → Decidable (Unqueued state action)
  | .elapse duration =>
      inferInstanceAs (Decidable (duration = 0 ∨ state.handoff.waiters = []))
  | .call _ _ | .handoff _ => .isTrue trivial

/-! ### What every run keeps -/

structure Consistent (state : State ρ τ) : Prop where
  handoff : Handoff.Consistent state.handoff
  queued : Handoff.Queued state.handoff
  timer : ∀ reader, state.handoff.holder = some reader →
    state.now ≤ state.granted reader + state.timeout reader
  made : ∀ reader, state.since reader ≤ state.now

theorem consistent_initial : Consistent (system ρ τ).initial where
  handoff := Handoff.consistent_initial
  queued := ⟨by simp [system, Handoff.State.initial], List.nodup_nil⟩
  timer := by intro reader impossible; cases impossible
  made := fun _ => Nat.le_refl _

/-- The steps with their times forgotten are steps of the handoff. -/
inductive Stepped (state : State ρ τ) : Action ρ τ → State ρ τ → Prop
  | call (reader : ρ) (timeout : Nat) (handoff : Handoff.State ρ τ)
      (called : Handoff.step state.handoff (.call reader) = some handoff) :
      Stepped state (.call reader timeout)
        { state with
          handoff := handoff
          since := Function.update state.since reader state.now
          timeout := Function.update state.timeout reader timeout }
  | handoff (action : Handoff.Action ρ τ) (handoff : Handoff.State ρ τ)
      (onTime : state.onTime action = true)
      (stepped : Handoff.step state.handoff action = some handoff) :
      Stepped state (.handoff action)
        { state with handoff := handoff, granted := state.grants action }
  | elapse (duration : Nat) (settled : state.settled = true)
      (beforeTimer : state.beforeTimer duration = true) :
      Stepped state (.elapse duration) { state with now := state.now + duration }

theorem step_cases {before after : State ρ τ} {action : Action ρ τ}
    (stepped : step before action = some after) : Stepped before action after := by
  cases action with
  | call reader timeout =>
      obtain ⟨handoff, called, same⟩ := Option.map_eq_some_iff.mp stepped
      cases same
      exact .call reader timeout handoff called
  | handoff action =>
      simp only [step] at stepped
      split at stepped
      · rename_i onTime
        obtain ⟨handoff, moved, same⟩ := Option.map_eq_some_iff.mp stepped
        cases same
        exact .handoff action handoff onTime moved
      · cases stepped
  | elapse duration =>
      simp only [step] at stepped
      split at stepped
      · rename_i possible
        cases stepped
        rw [Bool.and_eq_true] at possible
        exact .elapse duration possible.1 possible.2
      · cases stepped

omit [DecidableEq ρ] in
theorem beforeTimer_of_holder {state : State ρ τ} {duration : Nat} {reader : ρ}
    (holder : state.handoff.holder = some reader) :
    state.beforeTimer duration = true ↔
      state.now + duration ≤ state.granted reader + state.timeout reader := by
  simp [State.beforeTimer, holder]

theorem grants_of_not_acquire {state : State ρ τ} {action : Handoff.Action ρ τ}
    (different : ∀ reader, action ≠ .acquire reader) : state.grants action = state.granted := by
  cases action with
  | acquire reader => exact absurd rfl (different reader)
  | send _ | stop | call _ | receive _ | closed _ | timeOut _ | cancel _ | finish _ => rfl

theorem step_consistent (before : State ρ τ) (action : Action ρ τ) (after : State ρ τ)
    (consistent : Consistent before) (stepped : step before action = some after) :
    Consistent after := by
  cases step_cases stepped with
  | call reader timeout handoff called =>
      refine ⟨Handoff.step_consistent _ _ _ consistent.handoff called,
        Handoff.step_queued _ _ _ consistent.queued called, ?_, ?_⟩
      · intro other holder
        rcases (Handoff.step_frame called other).2 holder with already | ⟨impossible, _⟩
        · have different : other ≠ reader := by
            intro same
            have holding := (consistent.handoff.exclusive other).mpr already.1
            cases Handoff.step_cases called with
            | call _ idle =>
                rw [same, idle] at holding
                cases holding
          simp only [Function.update_of_ne different]
          exact consistent.timer other already.1
        · cases impossible
      · intro other
        change Function.update before.since reader before.now other ≤ before.now
        rw [Function.update_apply]
        split
        · exact Nat.le_refl _
        · exact consistent.made other
  | handoff action handoff onTime moved =>
      refine ⟨Handoff.step_consistent _ _ _ consistent.handoff moved,
        Handoff.step_queued _ _ _ consistent.queued moved, ?_, consistent.made⟩
      intro other holder
      rcases (Handoff.step_frame moved other).2 holder with already | ⟨acquired, _⟩
      · simp only [grants_of_not_acquire already.2]
        exact consistent.timer other already.1
      · subst acquired
        simp only [State.grants, Function.update_self]
        exact Nat.le_add_right _ _
  | elapse duration settled beforeTimer =>
      refine ⟨consistent.handoff, consistent.queued, ?_, ?_⟩
      · intro reader holder
        have held : before.handoff.holder = some reader := holder
        exact (beforeTimer_of_holder held).mp beforeTimer
      · intro reader
        exact Nat.le_add_right_of_le (consistent.made reader)

/-! ### Readers that never wait for the lock -/

/-- Nobody who waits for the lock has waited yet, and the holder got it at once. -/
structure Unhindered (state : State ρ τ) : Prop where
  waiting : ∀ reader, state.handoff.phase reader = .waiting → state.since reader = state.now
  holding : ∀ reader, state.handoff.holder = some reader →
    state.granted reader = state.since reader

theorem step_unhindered (before : State ρ τ) (action : Action ρ τ) (after : State ρ τ)
    (holds : Consistent before ∧ Unhindered before) (unqueued : Unqueued before action)
    (stepped : step before action = some after) : Consistent after ∧ Unhindered after := by
  obtain ⟨consistent, unhindered⟩ := holds
  refine ⟨step_consistent before action after consistent stepped, ?_⟩
  cases step_cases stepped with
  | call reader timeout handoff called =>
      constructor
      · intro other waiting
        change Function.update before.since reader before.now other = before.now
        rw [Function.update_apply]
        split
        · rfl
        · rename_i different
          rcases (Handoff.step_frame called other).1 waiting with already | same
          · exact unhindered.waiting other already
          · cases same
            exact absurd rfl different
      · intro other holder
        rcases (Handoff.step_frame called other).2 holder with ⟨already, _⟩ | ⟨impossible, _⟩
        · have different : other ≠ reader := by
            intro same
            have holding := (consistent.handoff.exclusive other).mpr already
            cases Handoff.step_cases called with
            | call _ idle =>
                rw [same, idle] at holding
                cases holding
          change before.granted other = Function.update before.since reader before.now other
          rw [Function.update_of_ne different]
          exact unhindered.holding other already
        · cases impossible
  | handoff action handoff onTime moved =>
      constructor
      · intro other waiting
        rcases (Handoff.step_frame moved other).1 waiting with already | same
        · exact unhindered.waiting other already
        · subst same
          cases onTime
      · intro other holder
        rcases (Handoff.step_frame moved other).2 holder with already | ⟨acquired, waiting⟩
        · simp only [grants_of_not_acquire already.2]
          exact unhindered.holding other already.1
        · subst acquired
          simp only [State.grants, Function.update_self]
          exact (unhindered.waiting other waiting).symm
  | elapse duration settled beforeTimer =>
      refine ⟨?_, unhindered.holding⟩
      intro reader waiting
      rcases unqueued with still | empty
      · simp only [still, Nat.add_zero]
        exact unhindered.waiting reader waiting
      · have member := (consistent.queued.mem_iff reader).mpr waiting
        rw [empty] at member
        cases member

omit [DecidableEq ρ] in
theorem in_time_of_unhindered {state : State ρ τ} (consistent : Consistent state)
    (unhindered : Unhindered state) {reader : ρ} (calls : state.handoff.phase reader ≠ .idle) :
    state.now ≤ state.since reader + state.timeout reader := by
  cases holding : (state.handoff.phase reader).holding with
  | true =>
      have holder := (consistent.handoff.exclusive reader).mp holding
      rw [← unhindered.holding reader holder]
      exact consistent.timer reader holder
  | false =>
      have waiting : state.handoff.phase reader = .waiting := by
        cases phase : state.handoff.phase reader with
        | idle => exact absurd phase calls
        | waiting => rfl
        | receiving | took item =>
            rw [phase] at holding
            cases holding
      rw [unhindered.waiting reader waiting]
      exact Nat.le_add_right _ _

/-! ### Readers that wait for the lock -/

/-- A reader receives, with nothing there to be received. -/
structure Starved (state : State ρ τ) (reader : ρ) : Prop where
  holder : state.handoff.holder = some reader
  receiving : state.handoff.phase reader = .receiving
  empty : state.handoff.queue = []
  pumping : state.handoff.pumping = true

omit [DecidableEq ρ] in
theorem Starved.settled {state : State ρ τ} {reader : ρ} (starved : Starved state reader) :
    state.settled = true := by
  simp [State.settled, starved.holder, starved.receiving, starved.empty, starved.pumping]

omit [DecidableEq ρ] in
theorem starved_of_settled {state : State ρ τ} (settled : state.settled = true)
    (queued : state.handoff.waiters ≠ []) : ∃ reader, Starved state reader := by
  unfold State.settled at settled
  cases holder : state.handoff.holder with
  | none =>
      rw [holder] at settled
      exact absurd (List.isEmpty_iff.mp settled) queued
  | some reader =>
      rw [holder] at settled
      cases phase : state.handoff.phase reader with
      | receiving =>
          simp only [phase, Bool.and_eq_true, List.isEmpty_iff] at settled
          exact ⟨reader, holder, phase, settled.1, settled.2⟩
      | idle | waiting | took item => simp [phase] at settled

/-- The holder's timer runs out, and the next in the queue gets the lock. -/
theorem advance {state : State ρ τ} (consistent : Consistent state) {first next : ρ}
    {rest : List ρ} (starved : Starved state first)
    (waiters : state.handoff.waiters = next :: rest) :
    ∃ later after, (system ρ τ).runFrom state later = some after ∧ Starved after next ∧
      after.handoff.waiters = rest ∧ state.now ≤ after.now ∧ after.granted next = after.now ∧
      after.since = state.since ∧ after.timeout = state.timeout := by
  have timer := consistent.timer first starved.holder
  have waiting : state.handoff.phase next = .waiting := by
    rw [← consistent.queued.mem_iff, waiters]
    exact List.mem_cons_self ..
  have different : next ≠ first := by
    intro same
    rw [same, starved.receiving] at waiting
    cases waiting
  let deadline := state.granted first + state.timeout first
  let fired : State ρ τ :=
    { state with now := deadline, handoff := state.handoff.release first }
  let acquired : State ρ τ :=
    { fired with
      handoff :=
        { fired.handoff.setPhase next .receiving with holder := some next, waiters := rest }
      granted := Function.update state.granted next deadline }
  refine ⟨[.elapse (deadline - state.now), .handoff (.timeOut first), .handoff (.acquire next)],
    acquired, ?_, ⟨rfl, ?_, starved.empty, starved.pumping⟩, rfl, timer, ?_, rfl, rfl⟩
  · have reached : state.now + (deadline - state.now) = deadline := Nat.add_sub_cancel' timer
    have beforeTimer : state.beforeTimer (deadline - state.now) = true :=
      (beforeTimer_of_holder starved.holder).mpr (Nat.le_of_eq reached)
    rw [System.runFrom_cons_eq_some]
    refine ⟨{ state with now := deadline }, ?_, System.runFrom_cons_eq_some.mpr
      ⟨fired, ?_, System.runFrom_cons_eq_some.mpr ⟨acquired, ?_, rfl⟩⟩⟩
    · simp [system, step, starved.settled, beforeTimer, reached]
    · simp [system, step, State.onTime, State.grants, Handoff.step, starved.receiving, fired,
        deadline]
    · have idle : fired.handoff.phase next = .waiting := by
        change (state.handoff.setPhase first .idle).phase next = .waiting
        rw [Handoff.setPhase_phase, if_neg different]
        exact waiting
      have free : fired.handoff.holder = none := rfl
      have asked : fired.handoff.waiters = next :: rest := waiters
      have moved : Handoff.step fired.handoff (.acquire next) = some acquired.handoff := by
        simp only [Handoff.step, idle, free, asked, if_true]
        rfl
      simp only [system, step, State.onTime, if_true, moved, Option.map_some, State.grants]
      rfl
  · change (fired.handoff.setPhase next .receiving).phase next = .receiving
    rw [Handoff.setPhase_phase, if_pos rfl]
  · exact Function.update_self ..

/-- A reader that has waited for the lock is still waiting after its own timeout, if
nothing arrives. -/
theorem overdue_of_starved {state : State ρ τ} (reached : (system ρ τ).Reachable state)
    {first reader : ρ} {ahead behind : List ρ} (starved : Starved state first)
    (waiters : state.handoff.waiters = ahead ++ reader :: behind)
    (waited : state.since reader < state.now) :
    ∃ later final, (system ρ τ).runFrom state later = some final ∧
      final.handoff.phase reader = .receiving ∧
      final.since reader + final.timeout reader < final.now := by
  induction ahead generalizing state first with
  | nil =>
      have consistent : Consistent state := reached.invariant consistent_initial step_consistent
      obtain ⟨later, after, ran, starvedToo, _, passed, granted, since, timeout⟩ :=
        advance consistent starved waiters
      refine ⟨later ++ [.elapse (after.timeout reader)],
        { after with now := after.now + after.timeout reader }, ?_, starvedToo.receiving, ?_⟩
      · rw [System.runFrom_append]
        refine ⟨after, ran, System.runFrom_cons_eq_some.mpr ⟨_, ?_, rfl⟩⟩
        have beforeTimer : after.beforeTimer (after.timeout reader) = true :=
          (beforeTimer_of_holder starvedToo.holder).mpr (Nat.le_of_eq (by rw [granted]))
        simp [system, step, starvedToo.settled, beforeTimer]
      · change after.since reader + after.timeout reader < after.now + after.timeout reader
        rw [since]
        omega
  | cons next ahead ih =>
      have consistent : Consistent state := reached.invariant consistent_initial step_consistent
      obtain ⟨later, after, ran, starvedToo, waitersToo, passed, _, since, _⟩ :=
        advance consistent starved waiters
      obtain ⟨further, final, ranFurther, receiving, overdue⟩ :=
        ih (System.reachable_of_runFrom reached ran) starvedToo waitersToo (by rw [since]; omega)
      exact ⟨later ++ further, final, System.runFrom_append.mpr ⟨after, ran, ranFurther⟩,
        receiving, overdue⟩

/-- Where no time passes while a reader waits for the lock, no reader waits longer
than its own timeout.  And where time does pass, some further run leaves that
reader waiting for longer. -/
theorem in_time_of_unqueued {trace : List (Action ρ τ)} {state : State ρ τ}
    (ran : (system ρ τ).run trace = some state)
    (unqueued : System.Along Unqueued (system ρ τ) (system ρ τ).initial trace) :
    (∀ reader, state.handoff.phase reader ≠ .idle →
      state.now ≤ state.since reader + state.timeout reader) ∧
      ∀ duration after, step state (.elapse duration) = some after → 0 < duration →
        ∀ reader ∈ state.handoff.waiters,
          ∃ later final, (system ρ τ).runFrom after later = some final ∧
            final.handoff.phase reader = .receiving ∧
            final.since reader + final.timeout reader < final.now := by
  have reached := System.reachable_of_run ran
  have initially : Unhindered (system ρ τ).initial :=
    ⟨fun _ _ => rfl, fun _ impossible => by cases impossible⟩
  obtain ⟨consistent, unhindered⟩ := System.runFrom_invariant_along step_unhindered
    ⟨consistent_initial, initially⟩ unqueued ran
  refine ⟨fun reader => in_time_of_unhindered consistent unhindered, ?_⟩
  intro duration after stepped positive reader member
  have moved : (system ρ τ).step state (.elapse duration) = some after := stepped
  have reachedAfter := reached.step moved
  cases step_cases stepped with
  | elapse _ settled beforeTimer =>
      obtain ⟨first, starved⟩ := starved_of_settled settled (List.ne_nil_of_mem member)
      obtain ⟨ahead, behind, split⟩ := List.append_of_mem member
      have waited : state.since reader < state.now + duration :=
        Nat.lt_of_le_of_lt (consistent.made reader) (by omega)
      exact overdue_of_starved reachedAfter
        ⟨starved.holder, starved.receiving, starved.empty, starved.pumping⟩ split waited

/-- A reader gives up, and the next one gets an update in time. -/
def politeTrace : List (Action Nat Nat) :=
  [.call 0 60, .handoff (.acquire 0), .elapse 60, .handoff (.timeOut 0), .call 1 5,
    .handoff (.acquire 1), .elapse 3, .handoff (.send 9), .handoff (.receive 1)]

theorem in_time_of_unqueued_polite :
    ∃ state, (system Nat Nat).run politeTrace = some state ∧
      (∀ reader, state.handoff.phase reader ≠ .idle →
        state.now ≤ state.since reader + state.timeout reader) ∧
      ∀ duration after, step state (.elapse duration) = some after → 0 < duration →
        ∀ reader ∈ state.handoff.waiters,
          ∃ later final, (system Nat Nat).runFrom after later = some final ∧
            final.handoff.phase reader = .receiving ∧
            final.since reader + final.timeout reader < final.now := by
  have ran : (system Nat Nat).run politeTrace =
      some (((system Nat Nat).run politeTrace).get rfl) := (Option.some_get _).symm
  exact ⟨_, ran, in_time_of_unqueued ran (by decide)⟩

/-- A reader with a short timeout behind one with a long timeout. -/
def behindTrace : List (Action Nat Nat) :=
  [.call 0 60, .handoff (.acquire 0), .call 1 1, .elapse 60]

/-- The second reader still waits for the lock long after its own timeout. -/
theorem second_reader_overdue :
    ∃ state, (system Nat Nat).run behindTrace = some state ∧
      state.handoff.phase 1 = .waiting ∧ state.since 1 + state.timeout 1 = 1 ∧ state.now = 60 ∧
      ¬ ∀ reader, state.handoff.phase reader ≠ .idle →
        state.now ≤ state.since reader + state.timeout reader := by
  refine ⟨_, rfl, rfl, rfl, rfl, ?_⟩
  intro inTime
  have late : 60 ≤ 1 := inTime 1 (fun idle => by cases idle)
  omega

end Waiting
end Kotlogramme.Updates
