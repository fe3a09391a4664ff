/-
The ids that the process makes up for sends and inline results.

A call takes the counter in one step and reads the clock in another, and answers
their sum.  Calls are named by their place among those that took the counter, so
that place and counter agree.  A call that reads the clock late can make up for
the counter of a call that came after it.
-/

import Mathlib
import Kotlogramme.Foundation.Places
import Kotlogramme.Foundation.Transition

namespace Kotlogramme.Messages
namespace GeneratedIds

/-- The clock of a call that returned is the one it read. -/
inductive Call
  | tookCounter (counter : BitVec 64)
  | returned (clock : Int) (value : BitVec 64)
  deriving DecidableEq

/-- `clock` counts nanoseconds since the epoch, before which it is negative. -/
structure Process where
  clock : Int
  next : BitVec 64
  calls : List Call
  deriving DecidableEq

inductive Action
  | takeCounter
  | pass (nanoseconds : Nat)
  | readClock (place : Nat)

/-- `duration_since(UNIX_EPOCH)`, or nothing where that fails. -/
def sinceEpoch (clock : Int) : Int := if 0 ≤ clock then clock else 0

/-- `duration.as_nanos() as i64`. -/
def now (clock : Int) : BitVec 64 := BitVec.ofInt 64 (sinceEpoch clock)

def generateResultId (value : BitVec 64) : String := value.toInt.repr

def Process.takeCounter (process : Process) : Process :=
  { process with
    next := process.next + 1
    calls := process.calls ++ [.tookCounter process.next] }

def Process.readClock (process : Process) (place : Nat) (counter : BitVec 64) : Process :=
  { process with
    calls := process.calls.set place
      (.returned process.clock (now process.clock + counter)) }

def step (process : Process) : Action → Option Process
  | .takeCounter => some process.takeCounter
  | .pass nanoseconds => some { process with clock := process.clock + nanoseconds }
  | .readClock place =>
      match process.calls[place]? with
      | some (.tookCounter counter) => some (process.readClock place counter)
      | _ => none

def system (start : Int) : System Process Action := ⟨⟨start, 0, []⟩, step⟩

/-! ### What a process has answered -/

def Process.Answered (process : Process) (place : Nat) (clock : Int) (value : BitVec 64) : Prop :=
  process.calls[place]? = some (.returned clock value)

instance (process : Process) (place : Nat) (clock : Int) (value : BitVec 64) :
    Decidable (process.Answered place clock value) :=
  inferInstanceAs (Decidable (_ = _))

def Process.Unrepeated (process : Process) : Prop :=
  ∀ first second clock other value repeated, first ≠ second →
    process.Answered first clock value → process.Answered second other repeated →
      value ≠ repeated ∧ generateResultId value ≠ generateResultId repeated

/-- The call at `place`, which reads the clock at `clock`, is as many nanoseconds
later than a call with a later counter as that counter is ahead of its own; or their
sums lie whole turns of the 64 bits apart. -/
def MakesUp (place : Nat) (clock : Int) (other : Nat) (earlier : Int) : Prop :=
  (place < other ∧ sinceEpoch clock - sinceEpoch earlier = other - place) ∨
    (sinceEpoch clock + place ≠ sinceEpoch earlier + other ∧
      (2 : Int) ^ 64 ∣ (sinceEpoch clock + place) - (sinceEpoch earlier + other))

def InTime (process : Process) : Action → Prop
  | .readClock place => ∀ other earlier value, process.Answered other earlier value →
      ¬ MakesUp place process.clock other earlier
  | _ => True

theorem sinceEpoch_mono {earlier clock : Int} (later : earlier ≤ clock) :
    sinceEpoch earlier ≤ sinceEpoch clock := by
  unfold sinceEpoch
  split <;> split <;> omega

theorem generateResultId_inj {value other : BitVec 64} :
    generateResultId value = generateResultId other ↔ value = other := by
  unfold generateResultId
  rw [Int.repr_inj, BitVec.toInt_inj]

theorem ofInt_eq_iff (left right : Int) :
    BitVec.ofInt 64 left = BitVec.ofInt 64 right ↔ (2 : Int) ^ 64 ∣ left - right := by
  rw [← BitVec.toInt_inj, BitVec.toInt_ofInt, BitVec.toInt_ofInt,
    Int.bmod_eq_bmod_iff_bmod_sub_eq_zero, ← Int.dvd_iff_bmod_eq_zero]
  rfl

/-- Two calls answer the same exactly if one makes up for the other's counter. -/
theorem sum_eq_iff {place other : Nat} {clock earlier : Int} (apart : place ≠ other)
    (later : earlier ≤ clock) :
    now clock + BitVec.ofNat 64 place = now earlier + BitVec.ofNat 64 other ↔
      MakesUp place clock other earlier := by
  have ordered := sinceEpoch_mono later
  unfold now MakesUp
  rw [← BitVec.ofInt_natCast, ← BitVec.ofInt_natCast, ← BitVec.ofInt_add, ← BitVec.ofInt_add,
    ofInt_eq_iff]
  constructor
  · intro turns
    by_cases same : sinceEpoch clock + place = sinceEpoch earlier + other
    · exact .inl (by omega)
    · exact .inr ⟨same, turns⟩
  · intro made
    rcases made with ⟨ahead, apart⟩ | ⟨-, turns⟩
    · have same : sinceEpoch clock + place - (sinceEpoch earlier + other) = 0 := by omega
      rw [same]
      exact dvd_zero _
    · exact turns

/-! ### The invariant -/

/-- Counters are places, and answers are sums of a place and a past clock. -/
structure Recorded (process : Process) : Prop where
  next : process.next = BitVec.ofNat 64 process.calls.length
  counters : ∀ place counter, process.calls[place]? = some (.tookCounter counter) →
    counter = BitVec.ofNat 64 place
  answers : ∀ place clock value, process.Answered place clock value →
    clock ≤ process.clock ∧ value = now clock + BitVec.ofNat 64 place

theorem recorded_initial (start : Int) : Recorded (system start).initial where
  next := rfl
  counters := by
    intro place counter found
    cases found
  answers := by
    intro place clock value found
    cases found

theorem Recorded.takeCounter {process : Process} (recorded : Recorded process) :
    Recorded process.takeCounter where
  next := by
    change process.next + 1 = BitVec.ofNat 64 (process.calls ++ [_]).length
    rw [recorded.next, List.length_append, BitVec.ofNat_add]
    rfl
  counters := by
    intro place counter found
    rcases Places.concat_cases found with earlier | ⟨rfl, same⟩
    · exact recorded.counters place counter earlier
    · cases same
      exact recorded.next
  answers := by
    intro place clock value found
    rcases Places.concat_cases found with earlier | ⟨-, same⟩
    · exact recorded.answers place clock value earlier
    · cases same

theorem Recorded.pass {process : Process} (recorded : Recorded process) (nanoseconds : Nat) :
    Recorded { process with clock := process.clock + nanoseconds } where
  next := recorded.next
  counters := recorded.counters
  answers := by
    intro place clock value found
    obtain ⟨past, sum⟩ := recorded.answers place clock value found
    have passed : process.clock ≤ process.clock + nanoseconds := by omega
    exact ⟨past.trans passed, sum⟩

theorem Recorded.readClock {process : Process} (recorded : Recorded process) {place : Nat}
    {counter : BitVec 64} (taken : process.calls[place]? = some (.tookCounter counter)) :
    Recorded (process.readClock place counter) where
  next := by
    change process.next = BitVec.ofNat 64 (process.calls.set place _).length
    rw [List.length_set]
    exact recorded.next
  counters := by
    intro other held found
    rcases Places.set_cases found with ⟨-, same⟩ | ⟨-, earlier⟩
    · cases same
    · exact recorded.counters other held earlier
  answers := by
    intro other clock value found
    rcases Places.set_cases found with ⟨rfl, same⟩ | ⟨-, earlier⟩
    · cases same
      rw [recorded.counters other counter taken]
      exact ⟨le_refl _, rfl⟩
    · exact recorded.answers other clock value earlier

theorem step_readClock_eq_some {process after : Process} {place : Nat} :
    step process (.readClock place) = some after ↔
      ∃ counter, process.calls[place]? = some (.tookCounter counter) ∧
        after = process.readClock place counter := by
  unfold step
  dsimp only
  cases process.calls[place]? with
  | none => simp
  | some call =>
      cases call with
      | tookCounter counter => simp [eq_comm]
      | returned clock value => simp

theorem step_recorded (before : Process) (action : Action) (after : Process)
    (recorded : Recorded before) (stepped : step before action = some after) : Recorded after := by
  cases action with
  | takeCounter =>
      cases stepped
      exact recorded.takeCounter
  | pass nanoseconds =>
      cases stepped
      exact recorded.pass nanoseconds
  | readClock place =>
      obtain ⟨counter, taken, same⟩ := step_readClock_eq_some.mp stepped
      rw [same]
      exact recorded.readClock taken

/-! ### Runs -/

theorem answered_readClock_self {process : Process} {place : Nat} {counter : BitVec 64}
    (taken : process.calls[place]? = some (.tookCounter counter)) :
    (process.readClock place counter).Answered place process.clock
      (now process.clock + counter) :=
  Places.found_set_self taken _

theorem answered_readClock_cases {process : Process} {place other : Nat} {counter : BitVec 64}
    {clock : Int} {value : BitVec 64}
    (answered : (process.readClock place counter).Answered other clock value) :
    (other = place ∧ clock = process.clock ∧ value = now process.clock + counter) ∨
      (other ≠ place ∧ process.Answered other clock value) := by
  rcases Places.set_cases answered with ⟨here, same⟩ | elsewhere
  · cases same
    exact .inl ⟨here, rfl, rfl⟩
  · exact .inr elsewhere

theorem readClock_unrepeated_iff {process : Process} (recorded : Recorded process)
    (unrepeated : process.Unrepeated) {place : Nat} {counter : BitVec 64}
    (taken : process.calls[place]? = some (.tookCounter counter)) :
    (process.readClock place counter).Unrepeated ↔ InTime process (.readClock place) := by
  have own := recorded.counters place counter taken
  have late {other : Nat} {earlier : Int} {value : BitVec 64}
      (answered : process.Answered other earlier value) :
      other ≠ place ∧ (now process.clock + counter = value ↔
        MakesUp place process.clock other earlier) := by
    have apart : other ≠ place := by
      intro same
      subst same
      cases taken.symm.trans answered
    obtain ⟨past, sum⟩ := recorded.answers other earlier value answered
    rw [own, sum]
    exact ⟨apart, sum_eq_iff apart.symm past⟩
  constructor
  · intro after other earlier value answered made
    obtain ⟨apart, same⟩ := late answered
    have kept : (process.readClock place counter).Answered other earlier value :=
      Places.found_set_of_ne answered apart _
    exact (after place other _ _ _ _ apart.symm (answered_readClock_self taken) kept).1
      (same.mpr made)
  · intro inTime first second clock other value repeated apart left right
    suffices differ : value ≠ repeated from ⟨differ, mt generateResultId_inj.mp differ⟩
    rcases answered_readClock_cases left with ⟨rfl, rfl, rfl⟩ | ⟨-, earlier⟩
    · rcases answered_readClock_cases right with ⟨same, -⟩ | ⟨-, earlier⟩
      · exact absurd same.symm apart
      · exact mt (late earlier).2.mp (inTime second other repeated earlier)
    · rcases answered_readClock_cases right with ⟨rfl, rfl, rfl⟩ | ⟨-, older⟩
      · exact Ne.symm (mt (late earlier).2.mp (inTime first clock value earlier))
      · exact (unrepeated first second clock other value repeated apart earlier older).1

theorem takeCounter_unrepeated {process : Process} (unrepeated : process.Unrepeated) :
    process.takeCounter.Unrepeated := by
  have earlier {place : Nat} {clock : Int} {value : BitVec 64}
      (answered : process.takeCounter.Answered place clock value) :
      process.Answered place clock value := by
    rcases Places.concat_cases answered with found | ⟨-, same⟩
    · exact found
    · cases same
  intro first second clock other value repeated apart left right
  exact unrepeated first second clock other value repeated apart (earlier left) (earlier right)

theorem step_unrepeated_iff {before after : Process} {action : Action}
    (recorded : Recorded before) (unrepeated : before.Unrepeated)
    (stepped : step before action = some after) :
    after.Unrepeated ↔ InTime before action := by
  cases action with
  | takeCounter =>
      cases stepped
      exact iff_of_true (takeCounter_unrepeated unrepeated) trivial
  | pass nanoseconds =>
      cases stepped
      exact iff_of_true unrepeated trivial
  | readClock place =>
      obtain ⟨counter, taken, same⟩ := step_readClock_eq_some.mp stepped
      rw [same]
      exact readClock_unrepeated_iff recorded unrepeated taken

theorem unrepeated_initial (start : Int) : (system start).initial.Unrepeated := by
  intro first second clock other value repeated apart left
  cases left

/-- The process never answers an id twice exactly if no call makes up for the counter
of a later one. -/
theorem unrepeated_iff_inTime {start : Int} {trace : List Action} {final : Process}
    (ran : (system start).run trace = some final) :
    (∀ early process, early <+: trace → (system start).run early = some process →
      process.Unrepeated) ↔
    (system start).Along InTime (system start).initial trace :=
  System.runFrom_throughout_iff
    (fun _ _ _ reached unrepeated stepped =>
      step_unrepeated_iff (reached.invariant (recorded_initial start) step_recorded) unrepeated
        stepped)
    .initial (unrepeated_initial start) ran

/-- The call that took the counter first reads the clock a nanosecond after the other. -/
def overtaken : List Action :=
  [.takeCounter, .takeCounter, .readClock 1, .pass 1, .readClock 0]

theorem unrepeated_iff_inTime_overtaken : ∃ final, (system 1000).run overtaken = some final ∧
    ((∀ early process, early <+: overtaken → (system 1000).run early = some process →
      process.Unrepeated) ↔
    (system 1000).Along InTime (system 1000).initial overtaken) :=
  ⟨_, rfl, unrepeated_iff_inTime rfl⟩

/-- Both calls answer 1001. -/
theorem overtaken_repeats : ∃ final, (system 1000).run overtaken = some final ∧
    final.Answered 0 1001 1001 ∧ final.Answered 1 1000 1001 ∧ ¬ final.Unrepeated := by
  refine ⟨_, rfl, by decide, by decide, ?_⟩
  intro unrepeated
  exact (unrepeated 0 1 1001 1000 1001 1001 (by decide) (by decide) (by decide)).1 rfl

end GeneratedIds
end Kotlogramme.Messages
