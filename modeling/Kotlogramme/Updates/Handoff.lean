/-
The buffered handoff between the update pump and its readers.

The pump's task sends every result it produces into an unbounded channel whose
receiving end is behind one fair lock.  A reader waits for the lock, then for
an item; its wait may end at any point.  An item leaves the queue in the same
step that decides who returns it.
-/

import Kotlogramme.Foundation.Transition
import Mathlib.Logic.Function.Basic

namespace Kotlogramme.Updates
namespace Handoff

/-- Where a reader stands in `next`. -/
inductive Phase (τ : Type)
  | idle
  | waiting
  | receiving
  | took (item : τ)

namespace Phase

variable {τ : Type}

def holding : Phase τ → Bool
  | .idle => false
  | .waiting => false
  | .receiving => true
  | .took _ => true

def items : Phase τ → List τ
  | .took item => [item]
  | _ => []

end Phase

/-- `waiters` is the queue of the lock.  `produced` and `returned` record what the
pump has sent and what calls of `next` have returned, and to whom. -/
structure State (ρ τ : Type) where
  pumping : Bool
  queue : List τ
  holder : Option ρ
  waiters : List ρ
  phase : ρ → Phase τ
  produced : List τ
  returned : List (ρ × τ)

/-- The pump stops with its sending end; `closed` is a `recv` that finds nothing
more to come, and `cancel` drops the future while it waits for the lock or for
an item. -/
inductive Action (ρ τ : Type)
  | send (item : τ)
  | stop
  | call (reader : ρ)
  | acquire (reader : ρ)
  | receive (reader : ρ)
  | closed (reader : ρ)
  | timeOut (reader : ρ)
  | cancel (reader : ρ)
  | finish (reader : ρ)

variable {ρ τ : Type}

def State.initial : State ρ τ where
  pumping := true
  queue := []
  holder := none
  waiters := []
  phase := fun _ => .idle
  produced := []
  returned := []

/-- What the holder of the lock has taken and not yet returned. -/
def State.inHand (state : State ρ τ) : List τ :=
  match state.holder with
  | some reader => (state.phase reader).items
  | none => []

/-- The items handed to readers, in the order in which they were. -/
def State.handed (state : State ρ τ) : List τ := state.returned.map Prod.snd ++ state.inHand

/-- One reader at a time is past the lock, and between it, those before it and
the queue nothing is missing. -/
structure Consistent (state : State ρ τ) : Prop where
  flow : state.handed ++ state.queue = state.produced
  exclusive : ∀ reader, (state.phase reader).holding = true ↔ state.holder = some reader

theorem consistent_initial : Consistent (State.initial : State ρ τ) := by
  refine ⟨rfl, fun reader => ?_⟩
  simp [State.initial, Phase.holding]

theorem Consistent.handed_of_phase {state : State ρ τ} (consistent : Consistent state)
    {reader : ρ} (holding : (state.phase reader).holding = true) :
    state.handed = state.returned.map Prod.snd ++ (state.phase reader).items := by
  rw [State.handed, State.inHand, (consistent.exclusive reader).mp holding]

variable [DecidableEq ρ]

def State.setPhase (state : State ρ τ) (reader : ρ) (phase : Phase τ) : State ρ τ :=
  { state with phase := Function.update state.phase reader phase }

def State.release (state : State ρ τ) (reader : ρ) : State ρ τ :=
  { state.setPhase reader .idle with holder := none }

def step (state : State ρ τ) : Action ρ τ → Option (State ρ τ)
  | .send item =>
      if state.pumping then
        some { state with queue := state.queue ++ [item], produced := state.produced ++ [item] }
      else none
  | .stop => some { state with pumping := false }
  | .call reader =>
      match state.phase reader with
      | .idle => some { state.setPhase reader .waiting with waiters := state.waiters ++ [reader] }
      | _ => none
  | .acquire reader =>
      match state.phase reader, state.holder, state.waiters with
      | .waiting, none, first :: rest =>
          if first = reader then
            some { state.setPhase reader .receiving with holder := some reader, waiters := rest }
          else none
      | _, _, _ => none
  | .receive reader =>
      match state.phase reader, state.queue with
      | .receiving, item :: rest =>
          some { state.setPhase reader (.took item) with queue := rest }
      | _, _ => none
  | .closed reader =>
      match state.phase reader, state.queue, state.pumping with
      | .receiving, [], false => some (state.release reader)
      | _, _, _ => none
  | .timeOut reader =>
      match state.phase reader with
      | .receiving => some (state.release reader)
      | _ => none
  | .cancel reader =>
      match state.phase reader with
      | .waiting => some { state.setPhase reader .idle with waiters := state.waiters.erase reader }
      | .receiving => some (state.release reader)
      | _ => none
  | .finish reader =>
      match state.phase reader with
      | .took item =>
          some { state.release reader with returned := state.returned ++ [(reader, item)] }
      | _ => none

def system (ρ τ : Type) [DecidableEq ρ] : System (State ρ τ) (Action ρ τ) where
  initial := State.initial
  step := step

/-! ### What a step can do -/

inductive Stepped (state : State ρ τ) : Action ρ τ → State ρ τ → Prop
  | send (item : τ) (pumping : state.pumping = true) :
      Stepped state (.send item)
        { state with queue := state.queue ++ [item], produced := state.produced ++ [item] }
  | stop : Stepped state .stop { state with pumping := false }
  | call (reader : ρ) (idle : state.phase reader = .idle) :
      Stepped state (.call reader)
        { state.setPhase reader .waiting with waiters := state.waiters ++ [reader] }
  | acquire (reader : ρ) (rest : List ρ) (waiting : state.phase reader = .waiting)
      (free : state.holder = none) (first : state.waiters = reader :: rest) :
      Stepped state (.acquire reader)
        { state.setPhase reader .receiving with holder := some reader, waiters := rest }
  | receive (reader : ρ) (item : τ) (rest : List τ) (receiving : state.phase reader = .receiving)
      (nonempty : state.queue = item :: rest) :
      Stepped state (.receive reader) { state.setPhase reader (.took item) with queue := rest }
  | closed (reader : ρ) (receiving : state.phase reader = .receiving) (empty : state.queue = [])
      (stopped : state.pumping = false) : Stepped state (.closed reader) (state.release reader)
  | timeOut (reader : ρ) (receiving : state.phase reader = .receiving) :
      Stepped state (.timeOut reader) (state.release reader)
  | withdraw (reader : ρ) (waiting : state.phase reader = .waiting) :
      Stepped state (.cancel reader)
        { state.setPhase reader .idle with waiters := state.waiters.erase reader }
  | giveUp (reader : ρ) (receiving : state.phase reader = .receiving) :
      Stepped state (.cancel reader) (state.release reader)
  | finish (reader : ρ) (item : τ) (took : state.phase reader = .took item) :
      Stepped state (.finish reader)
        { state.release reader with returned := state.returned ++ [(reader, item)] }

theorem step_cases {before after : State ρ τ} {action : Action ρ τ}
    (stepped : step before action = some after) : Stepped before action after := by
  cases action with
  | send item =>
      simp only [step] at stepped
      split at stepped
      · rename_i pumping
        cases stepped
        exact .send item pumping
      · cases stepped
  | stop =>
      cases stepped
      exact .stop
  | call reader =>
      simp only [step] at stepped
      split at stepped
      · rename_i idle
        cases stepped
        exact .call reader idle
      · cases stepped
  | acquire reader =>
      simp only [step] at stepped
      split at stepped
      · rename_i first rest waiting free asked
        split at stepped
        · rename_i same
          subst same
          cases stepped
          exact .acquire first rest waiting free asked
        · cases stepped
      · cases stepped
  | receive reader =>
      simp only [step] at stepped
      split at stepped
      · rename_i item rest receiving nonempty
        cases stepped
        exact .receive reader item rest receiving nonempty
      · cases stepped
  | closed reader =>
      simp only [step] at stepped
      split at stepped
      · rename_i receiving empty stopped
        cases stepped
        exact .closed reader receiving empty stopped
      · cases stepped
  | timeOut reader =>
      simp only [step] at stepped
      split at stepped
      · rename_i receiving
        cases stepped
        exact .timeOut reader receiving
      · cases stepped
  | cancel reader =>
      simp only [step] at stepped
      split at stepped
      · rename_i waiting
        cases stepped
        exact .withdraw reader waiting
      · rename_i receiving
        cases stepped
        exact .giveUp reader receiving
      · cases stepped
  | finish reader =>
      simp only [step] at stepped
      split at stepped
      · rename_i item took
        cases stepped
        exact .finish reader item took
      · cases stepped

/-! ### What every run keeps -/

theorem setPhase_phase (state : State ρ τ) (reader other : ρ) (phase : Phase τ) :
    (state.setPhase reader phase).phase other =
      if other = reader then phase else state.phase other := by
  unfold State.setPhase
  exact Function.update_apply _ _ _ _

/-- A reader without the lock may change its phase for another without. -/
theorem Consistent.setPhase {state : State ρ τ} (consistent : Consistent state) {reader : ρ}
    (phase : Phase τ) (before : (state.phase reader).holding = false)
    (after : phase.holding = false) : Consistent (state.setPhase reader phase) := by
  have notHolder : state.holder ≠ some reader := fun holds => by
    rw [(consistent.exclusive reader).mpr holds] at before
    cases before
  have inHand : (state.setPhase reader phase).inHand = state.inHand := by
    unfold State.inHand
    cases holds : state.holder with
    | none => simp [State.setPhase, holds]
    | some holder =>
        have other : holder ≠ reader := fun same => notHolder (same ▸ holds)
        simp only [State.setPhase, holds, Function.update_of_ne other]
  constructor
  · unfold State.handed
    rw [inHand]
    exact consistent.flow
  · intro other
    rw [setPhase_phase]
    by_cases own : other = reader
    · subst own
      rw [if_pos rfl, after]
      exact ⟨fun impossible => absurd impossible (by simp), fun holds => absurd holds notHolder⟩
    · rw [if_neg own]
      exact consistent.exclusive other

private theorem release_exclusive {state : State ρ τ} (consistent : Consistent state) {reader : ρ}
    (holding : (state.phase reader).holding = true) (other : ρ) :
    ((state.release reader).phase other).holding = true ↔
      (state.release reader).holder = some other := by
  simp only [State.release, setPhase_phase]
  by_cases own : other = reader
  · simp [own, Phase.holding]
  · rw [if_neg own, consistent.exclusive other, (consistent.exclusive reader).mp holding]
    simp only [Option.some.injEq, reduceCtorEq, iff_false]
    exact fun same => own same.symm

/-- The holder lets go of the lock with nothing in hand. -/
theorem Consistent.release {state : State ρ τ} (consistent : Consistent state) {reader : ρ}
    (receiving : state.phase reader = .receiving) : Consistent (state.release reader) := by
  have holding : (state.phase reader).holding = true := by rw [receiving]; rfl
  refine ⟨?_, release_exclusive consistent holding⟩
  have flow := consistent.flow
  rw [consistent.handed_of_phase holding, receiving] at flow
  exact flow

theorem Consistent.acquire {state : State ρ τ} (consistent : Consistent state) {reader : ρ}
    (free : state.holder = none) (rest : List ρ) :
    Consistent { state.setPhase reader .receiving with holder := some reader, waiters := rest } := by
  constructor
  · have flow := consistent.flow
    rw [State.handed, State.inHand, free] at flow
    have inHand : (Function.update state.phase reader .receiving reader : Phase τ).items = [] := by
      rw [Function.update_self]
      rfl
    simp only [State.handed, State.inHand, State.setPhase, inHand]
    exact flow
  · intro other
    change ((state.setPhase reader .receiving).phase other).holding = true ↔
      some reader = some other
    rw [setPhase_phase]
    by_cases own : other = reader
    · simp [own, Phase.holding]
    · rw [if_neg own, consistent.exclusive other, free]
      simp only [reduceCtorEq, Option.some.injEq, false_iff]
      exact fun same => own same.symm

/-- The first item goes from the queue into the hand of the holder. -/
theorem Consistent.receive {state : State ρ τ} (consistent : Consistent state) {reader : ρ}
    {item : τ} {rest : List τ} (receiving : state.phase reader = .receiving)
    (nonempty : state.queue = item :: rest) :
    Consistent { state.setPhase reader (.took item) with queue := rest } := by
  have holding : (state.phase reader).holding = true := by rw [receiving]; rfl
  have holder := (consistent.exclusive reader).mp holding
  constructor
  · have flow := consistent.flow
    rw [consistent.handed_of_phase holding, receiving, nonempty] at flow
    simp only [State.handed, State.inHand, State.setPhase, holder, Function.update_self,
      Phase.items] at flow ⊢
    rw [← flow]
    simp
  · intro other
    change ((state.setPhase reader (.took item)).phase other).holding = true ↔
      state.holder = some other
    rw [setPhase_phase]
    by_cases own : other = reader
    · simp [own, Phase.holding, holder]
    · rw [if_neg own]
      exact consistent.exclusive other

/-- The item in hand becomes the last one returned. -/
theorem Consistent.finish {state : State ρ τ} (consistent : Consistent state) {reader : ρ}
    {item : τ} (took : state.phase reader = .took item) :
    Consistent { state.release reader with returned := state.returned ++ [(reader, item)] } := by
  have holding : (state.phase reader).holding = true := by rw [took]; rfl
  refine ⟨?_, release_exclusive consistent holding⟩
  have flow := consistent.flow
  rw [consistent.handed_of_phase holding, took] at flow
  simp only [State.handed, State.inHand, State.release, State.setPhase, List.map_append,
    List.append_nil]
  exact flow

theorem step_consistent (before : State ρ τ) (action : Action ρ τ) (after : State ρ τ)
    (consistent : Consistent before) (stepped : step before action = some after) :
    Consistent after := by
  cases step_cases stepped with
  | send item pumping =>
      refine ⟨?_, consistent.exclusive⟩
      change before.handed ++ (before.queue ++ [item]) = before.produced ++ [item]
      rw [← List.append_assoc, consistent.flow]
  | stop => exact ⟨consistent.flow, consistent.exclusive⟩
  | call reader idle =>
      have changed := consistent.setPhase .waiting (by rw [idle]; rfl) rfl
      exact ⟨changed.flow, changed.exclusive⟩
  | acquire reader rest waiting free first => exact consistent.acquire free rest
  | receive reader item rest receiving nonempty => exact consistent.receive receiving nonempty
  | closed reader receiving empty stopped => exact consistent.release receiving
  | timeOut reader receiving => exact consistent.release receiving
  | withdraw reader waiting =>
      have changed := consistent.setPhase .idle (by rw [waiting]; rfl) rfl
      exact ⟨changed.flow, changed.exclusive⟩
  | giveUp reader receiving => exact consistent.release receiving
  | finish reader item took => exact consistent.finish took

/-- What readers were handed, followed by what is queued, is what the pump has
sent: nothing is lost, doubled or out of order. -/
theorem handed_append_queue {trace : List (Action ρ τ)} {state : State ρ τ}
    (ran : (system ρ τ).run trace = some state) :
    state.handed ++ state.queue = state.produced := by
  have consistent : Consistent state :=
    (System.reachable_of_run ran).invariant consistent_initial step_consistent
  exact consistent.flow

/-- A reader gives up, another is dropped while it waits, and a third has an
item in hand. -/
def giveUpTrace : List (Action Nat Nat) :=
  [.call 0, .call 1, .call 2, .acquire 0, .timeOut 0, .send 5, .cancel 1, .send 6, .send 7,
    .acquire 2, .receive 2, .finish 2, .call 0, .acquire 0, .receive 0]

theorem handed_append_queue_giveUps :
    ∃ state, (system Nat Nat).run giveUpTrace = some state ∧ state.handed = [5, 6] ∧
      state.queue = [7] ∧ state.handed ++ state.queue = state.produced := by
  have ran : (system Nat Nat).run giveUpTrace =
      some (((system Nat Nat).run giveUpTrace).get rfl) := (Option.some_get _).symm
  exact ⟨_, ran, rfl, rfl, handed_append_queue ran⟩

/-! ### The queue of the lock -/

/-- The queue of the lock holds the readers that wait for it, each once. -/
structure Queued (state : State ρ τ) : Prop where
  mem_iff : ∀ reader, reader ∈ state.waiters ↔ state.phase reader = .waiting
  nodup : state.waiters.Nodup

/-- A reader outside the queue moves on to a phase outside it. -/
theorem Queued.setPhase {state : State ρ τ} (queued : Queued state) {reader : ρ} {phase : Phase τ}
    (before : state.phase reader ≠ .waiting) (after : phase ≠ .waiting) (other : ρ) :
    other ∈ state.waiters ↔ (state.setPhase reader phase).phase other = .waiting := by
  rw [setPhase_phase]
  split
  · rename_i same
    rw [same, queued.mem_iff]
    exact iff_of_false before after
  · exact queued.mem_iff other

theorem step_queued (before : State ρ τ) (action : Action ρ τ) (after : State ρ τ)
    (queued : Queued before) (stepped : step before action = some after) : Queued after := by
  have released (reader : ρ) (receiving : before.phase reader ≠ .waiting) :
      Queued (before.release reader) :=
    ⟨queued.setPhase receiving (by simp), queued.nodup⟩
  cases step_cases stepped with
  | send item pumping => exact ⟨queued.mem_iff, queued.nodup⟩
  | stop => exact ⟨queued.mem_iff, queued.nodup⟩
  | call reader idle =>
      have absent : reader ∉ before.waiters := by
        rw [queued.mem_iff, idle]
        simp
      constructor
      · intro other
        change other ∈ before.waiters ++ [reader] ↔
          (before.setPhase reader .waiting).phase other = .waiting
        rw [setPhase_phase, List.mem_append, List.mem_singleton, queued.mem_iff]
        by_cases same : other = reader <;> simp [same]
      · refine List.nodup_append.mpr ⟨queued.nodup, List.pairwise_singleton _ reader, ?_⟩
        intro other member last lastMember same
        rw [List.mem_singleton.mp lastMember] at same
        exact absent (same ▸ member)
  | acquire reader rest waiting free first =>
      have nodup := queued.nodup
      rw [first, List.nodup_cons] at nodup
      refine ⟨?_, nodup.2⟩
      intro other
      change other ∈ rest ↔ (before.setPhase reader .receiving).phase other = .waiting
      have member := queued.mem_iff other
      rw [first, List.mem_cons] at member
      rw [setPhase_phase]
      by_cases same : other = reader
      · rw [if_pos same, same]
        exact iff_of_false nodup.1 (by simp)
      · rw [if_neg same, ← member]
        exact (or_iff_right same).symm
  | receive reader item rest receiving nonempty =>
      exact ⟨queued.setPhase (by simp [receiving]) (by simp), queued.nodup⟩
  | closed reader receiving empty stopped => exact released reader (by simp [receiving])
  | timeOut reader receiving => exact released reader (by simp [receiving])
  | withdraw reader waiting =>
      refine ⟨?_, queued.nodup.erase reader⟩
      intro other
      change other ∈ before.waiters.erase reader ↔
        (before.setPhase reader .idle).phase other = .waiting
      rw [queued.nodup.mem_erase_iff, setPhase_phase, queued.mem_iff]
      by_cases same : other = reader <;> simp [same]
  | giveUp reader receiving => exact released reader (by simp [receiving])
  | finish reader item took =>
      have changed := released reader (by simp [took])
      exact ⟨changed.mem_iff, changed.nodup⟩

/-- Only a call makes a reader wait, and only the lock makes it the holder. -/
theorem step_frame {before after : State ρ τ} {action : Action ρ τ}
    (stepped : step before action = some after) (reader : ρ) :
    (after.phase reader = .waiting → before.phase reader = .waiting ∨ action = .call reader) ∧
      (after.holder = some reader →
        (before.holder = some reader ∧ ∀ other, action ≠ .acquire other) ∨
          action = .acquire reader ∧ before.phase reader = .waiting) := by
  have moved (other : ρ) (phase : Phase τ) (different : phase ≠ .waiting)
      (waiting : (before.setPhase other phase).phase reader = .waiting) :
      before.phase reader = .waiting := by
    rw [setPhase_phase] at waiting
    split at waiting
    · exact absurd waiting different
    · exact waiting
  cases step_cases stepped with
  | send item pumping => exact ⟨.inl, fun holds => .inl ⟨holds, by simp⟩⟩
  | stop => exact ⟨.inl, fun holds => .inl ⟨holds, by simp⟩⟩
  | call other idle =>
      refine ⟨fun waiting => ?_, fun holds => .inl ⟨holds, by simp⟩⟩
      change (before.setPhase other .waiting).phase reader = .waiting at waiting
      rw [setPhase_phase] at waiting
      split at waiting
      · rename_i same
        exact .inr (same ▸ rfl)
      · exact .inl waiting
  | acquire other rest waiting free first =>
      refine ⟨fun still => .inl (moved other .receiving (by simp) still), fun holds => .inr ?_⟩
      cases holds
      exact ⟨rfl, waiting⟩
  | receive other item rest receiving nonempty =>
      exact ⟨fun waiting => .inl (moved other (.took item) (by simp) waiting),
        fun holds => .inl ⟨holds, by simp⟩⟩
  | withdraw other still =>
      exact ⟨fun waiting => .inl (moved other .idle (by simp) waiting),
        fun holds => .inl ⟨holds, by simp⟩⟩
  | closed other _ _ _ | timeOut other _ | giveUp other _ | finish other _ _ =>
      exact ⟨fun waiting => .inl (moved other .idle (by simp) waiting), by simp [State.release]⟩

end Handoff
end Kotlogramme.Updates
