/-
The handles of the client registry.

A client object holds the address of its native client, and the registry maps
the address to the client as long as it is not closed.  A call checks the
closed flag of its object and looks the address up in a later step.  Closing
sets the flag, then takes the client out of the registry; its memory is free
once no call holds it, and may become the memory of a client created later.
-/

import Kotlogramme.Foundation.Transition
import Mathlib.Data.List.Nodup
import Mathlib.Logic.Function.Basic

namespace Kotlogramme.Client
namespace Handles

/-- Objects and native clients are numbered in the order of their creation, one
number for an object and the client created for it; `handle` is the address of
the client.  A call is in `checked`, by its object, from its check to its lookup,
and in `running` as long as it holds a client.  A close is in `marked` from the
flag to the removal, and in `closing` as long as it holds the client.  `ran`
records every call that found a client, its object first. -/
structure State where
  created : Nat
  handle : Nat → Int
  closed : Nat → Bool
  clients : Int → Option Nat
  checked : List Nat
  running : List (Nat × Nat)
  marked : List Nat
  closing : List Nat
  ran : List (Nat × Nat)

def State.live (state : State) (address : Int) : Bool :=
  (state.clients address).isSome || state.running.any (fun call => state.handle call.2 == address) ||
    state.closing.any (fun client => state.handle client == address)

/-- `create` is given free memory at an address, and `abandon` is a call that fails
before it looks its handle up. -/
inductive Action
  | create (address : Int)
  | check (object : Nat)
  | lookup (object : Nat)
  | abandon (object : Nat)
  | finish (object client : Nat)
  | markClosed (object : Nat)
  | closeClient (object : Nat)
  | drop (client : Nat)

def step (state : State) : Action → Option State
  | .create address =>
      if state.live address then none
      else some { state with
        created := state.created + 1
        handle := Function.update state.handle state.created address
        closed := Function.update state.closed state.created false
        clients := Function.update state.clients address (some state.created) }
  | .check object =>
      if object < state.created then
        if state.closed object then some state
        else some { state with checked := state.checked ++ [object] }
      else none
  | .lookup object =>
      if object ∈ state.checked then
        let state := { state with checked := state.checked.erase object }
        match state.clients (state.handle object) with
        | none => some state
        | some client => some { state with
            running := state.running ++ [(object, client)]
            ran := state.ran ++ [(object, client)] }
      else none
  | .abandon object =>
      if object ∈ state.checked then some { state with checked := state.checked.erase object }
      else none
  | .finish object client =>
      if (object, client) ∈ state.running then
        some { state with running := state.running.erase (object, client) }
      else none
  | .markClosed object =>
      if object < state.created then
        if state.closed object then some state
        else some { state with
          closed := Function.update state.closed object true
          marked := state.marked ++ [object] }
      else none
  | .closeClient object =>
      if object ∈ state.marked then
        some { state with
          marked := state.marked.erase object
          clients := Function.update state.clients (state.handle object) none
          closing := state.closing ++ (state.clients (state.handle object)).toList }
      else none
  | .drop client =>
      if client ∈ state.closing then some { state with closing := state.closing.erase client }
      else none

def system : System State Action where
  initial :=
    { created := 0, handle := fun _ => 0, closed := fun _ => false, clients := fun _ => none,
      checked := [], running := [], marked := [], closing := [], ran := [] }
  step := step

/-- No client is created at an address that a call past its check has yet to
look up. -/
def Fresh (state : State) : Action → Prop
  | .create address => ∀ object ∈ state.checked, state.handle object ≠ address
  | _ => True

instance (state : State) : (action : Action) → Decidable (Fresh state action)
  | .create address =>
      inferInstanceAs (Decidable (∀ object ∈ state.checked, state.handle object ≠ address))
  | .check _ | .lookup _ | .abandon _ | .finish _ _ | .markClosed _ | .closeClient _ | .drop _ =>
      .isTrue trivial

/-! ### What a step can be -/

/-- A check or a close that finds its object closed leaves the state as it was. -/
inductive Stepped (state : State) : Action → State → Prop
  | create (address : Int) (free : state.live address = false) :
      Stepped state (.create address) { state with
        created := state.created + 1
        handle := Function.update state.handle state.created address
        closed := Function.update state.closed state.created false
        clients := Function.update state.clients address (some state.created) }
  | check (object : Nat) (present : object < state.created)
      (opened : state.closed object = false) :
      Stepped state (.check object) { state with checked := state.checked ++ [object] }
  | checkClosed (object : Nat) (closed : state.closed object = true) :
      Stepped state (.check object) state
  | lookup (object client : Nat) (member : object ∈ state.checked)
      (found : state.clients (state.handle object) = some client) :
      Stepped state (.lookup object) { state with
        checked := state.checked.erase object
        running := state.running ++ [(object, client)]
        ran := state.ran ++ [(object, client)] }
  | lookupGone (object : Nat) (member : object ∈ state.checked)
      (gone : state.clients (state.handle object) = none) :
      Stepped state (.lookup object) { state with checked := state.checked.erase object }
  | abandon (object : Nat) (member : object ∈ state.checked) :
      Stepped state (.abandon object) { state with checked := state.checked.erase object }
  | finish (object client : Nat) (member : (object, client) ∈ state.running) :
      Stepped state (.finish object client)
        { state with running := state.running.erase (object, client) }
  | markClosed (object : Nat) (present : object < state.created)
      (opened : state.closed object = false) :
      Stepped state (.markClosed object) { state with
        closed := Function.update state.closed object true
        marked := state.marked ++ [object] }
  | markedBefore (object : Nat) (closed : state.closed object = true) :
      Stepped state (.markClosed object) state
  | closeClient (object : Nat) (member : object ∈ state.marked) :
      Stepped state (.closeClient object) { state with
        marked := state.marked.erase object
        clients := Function.update state.clients (state.handle object) none
        closing := state.closing ++ (state.clients (state.handle object)).toList }
  | drop (client : Nat) (member : client ∈ state.closing) :
      Stepped state (.drop client) { state with closing := state.closing.erase client }

theorem step_cases {before after : State} {action : Action}
    (stepped : step before action = some after) : Stepped before action after := by
  cases action with
  | create address =>
      simp only [step] at stepped
      split at stepped
      · cases stepped
      · rename_i free
        cases stepped
        exact .create address (Bool.eq_false_iff.mpr free)
  | check object =>
      simp only [step] at stepped
      split at stepped
      · rename_i present
        split at stepped
        · rename_i closed
          cases stepped
          exact .checkClosed object closed
        · rename_i opened
          cases stepped
          exact .check object present (Bool.eq_false_iff.mpr opened)
      · cases stepped
  | lookup object =>
      simp only [step] at stepped
      split at stepped
      · rename_i member
        split at stepped
        · rename_i gone
          cases stepped
          exact .lookupGone object member gone
        · rename_i client found
          cases stepped
          exact .lookup object client member found
      · cases stepped
  | abandon object =>
      simp only [step] at stepped
      split at stepped
      · rename_i member
        cases stepped
        exact .abandon object member
      · cases stepped
  | finish object client =>
      simp only [step] at stepped
      split at stepped
      · rename_i member
        cases stepped
        exact .finish object client member
      · cases stepped
  | markClosed object =>
      simp only [step] at stepped
      split at stepped
      · rename_i present
        split at stepped
        · rename_i closed
          cases stepped
          exact .markedBefore object closed
        · rename_i opened
          cases stepped
          exact .markClosed object present (Bool.eq_false_iff.mpr opened)
      · cases stepped
  | closeClient object =>
      simp only [step] at stepped
      split at stepped
      · rename_i member
        cases stepped
        exact .closeClient object member
      · cases stepped
  | drop client =>
      simp only [step] at stepped
      split at stepped
      · rename_i member
        cases stepped
        exact .drop client member
      · cases stepped

/-! ### What every run keeps -/

/-- An object's client is registered at its handle until its one close takes it
out. -/
structure Consistent (state : State) : Prop where
  registered : ∀ address client, state.clients address = some client →
    client < state.created ∧ state.handle client = address
  opened : ∀ object < state.created, state.closed object = false →
    state.clients (state.handle object) = some object
  marked : ∀ object ∈ state.marked, object < state.created ∧ state.closed object = true ∧
    state.clients (state.handle object) = some object
  nodup : state.marked.Nodup
  checked : ∀ object ∈ state.checked, object < state.created

theorem consistent_initial : Consistent system.initial where
  registered := fun _ _ impossible => by cases impossible
  opened := fun _ impossible => absurd impossible (Nat.not_lt_zero _)
  marked := fun _ impossible => by cases impossible
  nodup := List.nodup_nil
  checked := fun _ impossible => by cases impossible

theorem free_of_not_live {state : State} {address : Int} (free : state.live address = false) :
    state.clients address = none := by
  simp only [State.live, Bool.or_eq_false_iff] at free
  exact Option.not_isSome_iff_eq_none.mp (by simp [free.1.1])

/-- What was registered stays where it was, next to the new client. -/
theorem Consistent.create {before : State} (consistent : Consistent before) {address : Int}
    (free : before.clients address = none) :
    Consistent { before with
      created := before.created + 1
      handle := Function.update before.handle before.created address
      closed := Function.update before.closed before.created false
      clients := Function.update before.clients address (some before.created) } := by
  have old (object : Nat) (earlier : object < before.created) :
      Function.update before.handle before.created address object = before.handle object :=
    Function.update_of_ne (Nat.ne_of_lt earlier) _ _
  have kept (object : Nat) (earlier : object < before.created)
      (found : before.clients (before.handle object) = some object) :
      Function.update before.clients address (some before.created)
        (Function.update before.handle before.created address object) = some object := by
    rw [old object earlier, Function.update_of_ne, found]
    intro same
    rw [same, free] at found
    cases found
  constructor
  · intro other client found
    by_cases new : other = address
    · subst new
      simp only [Function.update_self, Option.some.injEq] at found
      subst found
      exact ⟨Nat.lt_succ_self _, Function.update_self ..⟩
    · simp only [Function.update_of_ne new] at found
      obtain ⟨earlier, same⟩ := consistent.registered other client found
      exact ⟨Nat.lt_succ_of_lt earlier, (old client earlier).trans same⟩
  · intro object present opened
    by_cases new : object = before.created
    · subst new
      simp
    · have earlier : object < before.created := by
        change object < before.created + 1 at present
        omega
      simp only [Function.update_of_ne new] at opened
      exact kept object earlier (consistent.opened object earlier opened)
  · intro object member
    obtain ⟨earlier, closed, found⟩ := consistent.marked object member
    refine ⟨Nat.lt_succ_of_lt earlier, ?_, kept object earlier found⟩
    exact (Function.update_of_ne (Nat.ne_of_lt earlier) _ _).trans closed
  · exact consistent.nodup
  · intro object member
    exact Nat.lt_succ_of_lt (consistent.checked object member)

theorem Consistent.markClosed {before : State} (consistent : Consistent before) {object : Nat}
    (present : object < before.created) (opened : before.closed object = false) :
    Consistent { before with
      closed := Function.update before.closed object true
      marked := before.marked ++ [object] } := by
  refine { consistent with opened := ?_, marked := ?_, nodup := ?_ }
  · intro other present stillOpen
    by_cases same : other = object
    · subst same
      simp at stillOpen
    · simp only [Function.update_of_ne same] at stillOpen
      exact consistent.opened other present stillOpen
  · intro other member
    rcases List.mem_append.mp member with old | new
    · obtain ⟨present, closed, found⟩ := consistent.marked other old
      refine ⟨present, ?_, found⟩
      by_cases same : other = object
      · rw [same]
        exact Function.update_self ..
      · exact (Function.update_of_ne same _ _).trans closed
    · cases List.mem_singleton.mp new
      exact ⟨present, Function.update_self .., consistent.opened object present opened⟩
  · apply List.Nodup.append consistent.nodup (List.nodup_singleton object)
    intro other member same
    cases List.mem_singleton.mp same
    have closed := (consistent.marked object member).2.1
    rw [opened] at closed
    cases closed

/-- The one close of an object takes out its own client. -/
theorem Consistent.closeClient {before : State} (consistent : Consistent before) {object : Nat}
    (member : object ∈ before.marked) (closing : List Nat) :
    Consistent { before with
      marked := before.marked.erase object
      clients := Function.update before.clients (before.handle object) none
      closing := closing } := by
  obtain ⟨-, closed, found⟩ := consistent.marked object member
  have kept (other : Nat) (different : other ≠ object)
      (registered : before.clients (before.handle other) = some other) :
      Function.update before.clients (before.handle object) none (before.handle other) =
        some other := by
    rw [Function.update_of_ne, registered]
    intro same
    rw [same, found] at registered
    exact different (Option.some.inj registered).symm
  refine { consistent with registered := ?_, opened := ?_, marked := ?_, nodup := ?_ }
  · intro address client registered
    by_cases same : address = before.handle object
    · subst same
      simp at registered
    · simp only [Function.update_of_ne same] at registered
      exact consistent.registered address client registered
  · intro other present opened
    apply kept other _ (consistent.opened other present opened)
    rintro rfl
    cases closed.symm.trans opened
  · intro other still
    obtain ⟨different, old⟩ := (consistent.nodup.mem_erase_iff).mp still
    obtain ⟨present, closed, registered⟩ := consistent.marked other old
    exact ⟨present, closed, kept other different registered⟩
  · exact consistent.nodup.erase object

theorem Consistent.check {before : State} (consistent : Consistent before) {object : Nat}
    (present : object < before.created) :
    Consistent { before with checked := before.checked ++ [object] } := by
  refine { consistent with checked := ?_ }
  intro other member
  rcases List.mem_append.mp member with old | new
  · exact consistent.checked other old
  · cases List.mem_singleton.mp new
    exact present

theorem step_consistent (before : State) (action : Action) (after : State)
    (consistent : Consistent before) (stepped : step before action = some after) :
    Consistent after := by
  have erased (object : Nat) : ∀ other ∈ before.checked.erase object, other < before.created :=
    fun other member => consistent.checked other (List.mem_of_mem_erase member)
  cases step_cases stepped with
  | create address free => exact consistent.create (free_of_not_live free)
  | check object present opened => exact consistent.check present
  | checkClosed object closed => exact consistent
  | lookup object client member found => exact { consistent with checked := erased object }
  | lookupGone object member gone => exact { consistent with checked := erased object }
  | abandon object member => exact { consistent with checked := erased object }
  | finish object client member => exact { consistent with }
  | markClosed object present opened => exact consistent.markClosed present opened
  | markedBefore object closed => exact consistent
  | closeClient object member => exact consistent.closeClient member _
  | drop client member => exact { consistent with }

/-! ### Which client a call runs against -/

/-- No call has run against, or would now find, the client of another object. -/
structure Own (state : State) : Prop where
  consistent : Consistent state
  pending : ∀ object ∈ state.checked, ∀ client,
    state.clients (state.handle object) = some client → client = object
  ran : ∀ call ∈ state.ran, call.2 = call.1

theorem own_initial : Own system.initial where
  consistent := consistent_initial
  pending := fun _ impossible => by cases impossible
  ran := fun _ impossible => by cases impossible

theorem step_own (before : State) (action : Action) (after : State) (own : Own before)
    (fresh : Fresh before action) (stepped : step before action = some after) : Own after := by
  have consistent := step_consistent before action after own.consistent stepped
  have erased (object : Nat) : ∀ other ∈ before.checked.erase object, ∀ client,
      before.clients (before.handle other) = some client → client = other :=
    fun other member => own.pending other (List.mem_of_mem_erase member)
  cases step_cases stepped with
  | create address free =>
      refine ⟨consistent, ?_, own.ran⟩
      intro object member client found
      have earlier := own.consistent.checked object member
      simp only [Function.update_of_ne (Nat.ne_of_lt earlier),
        Function.update_of_ne (fresh object member)] at found
      exact own.pending object member client found
  | check object present opened =>
      refine ⟨consistent, ?_, own.ran⟩
      intro other member client found
      rcases List.mem_append.mp member with old | new
      · exact own.pending other old client found
      · cases List.mem_singleton.mp new
        have registered := own.consistent.opened object present opened
        exact Option.some.inj (found.symm.trans registered)
  | lookup object client member found =>
      refine ⟨consistent, erased object, ?_⟩
      intro call made
      rcases List.mem_append.mp made with old | new
      · exact own.ran call old
      · cases List.mem_singleton.mp new
        exact own.pending object member client found
  | closeClient object member =>
      refine ⟨consistent, ?_, own.ran⟩
      intro other member client found
      by_cases same : before.handle other = before.handle object
      · simp [same] at found
      · simp only [Function.update_of_ne same] at found
        exact own.pending other member client found
  | lookupGone object member gone => exact ⟨consistent, erased object, own.ran⟩
  | abandon object member => exact ⟨consistent, erased object, own.ran⟩
  | checkClosed object closed => exact own
  | markedBefore object closed => exact own
  | finish object client member => exact ⟨consistent, own.pending, own.ran⟩
  | markClosed object present opened => exact ⟨consistent, own.pending, own.ran⟩
  | drop client member => exact ⟨consistent, own.pending, own.ran⟩

theorem lookup_ran {state : State} {object client : Nat} (member : object ∈ state.checked)
    (found : state.clients (state.handle object) = some client) :
    ∃ last, step state (.lookup object) = some last ∧ (object, client) ∈ last.ran := by
  simp only [step, if_pos member, found]
  exact ⟨_, rfl, List.mem_append_right _ (List.mem_singleton.mpr rfl)⟩

/-- A stale handle whose address a new client gets finds the new client. -/
theorem lookup_foreign {before after : State} {address : Int} {object : Nat}
    (consistent : Consistent before) (stepped : step before (.create address) = some after)
    (member : object ∈ before.checked) (stale : before.handle object = address) :
    ∃ last, step after (.lookup object) = some last ∧ (object, before.created) ∈ last.ran ∧
      before.created ≠ object := by
  have earlier := consistent.checked object member
  have found : object ∈ after.checked ∧
      after.clients (after.handle object) = some before.created := by
    cases step_cases stepped with
    | create _ free =>
        refine ⟨member, ?_⟩
        change Function.update _ _ _ (Function.update _ _ _ _) = _
        rw [Function.update_of_ne (Nat.ne_of_lt earlier), stale, Function.update_self]
  obtain ⟨last, looked, made⟩ := lookup_ran found.1 found.2
  exact ⟨last, looked, made, Nat.ne_of_gt earlier⟩

/-- As long as no client is created at an address that a call past its check has
yet to look up, calls only ever run against the client of their own object; and
where one is created there next, that call may run against it. -/
theorem own_client_of_fresh {trace : List Action} {state : State}
    (ran : system.run trace = some state)
    (fresh : System.Along Fresh system system.initial trace) :
    (∀ call ∈ state.ran, call.2 = call.1) ∧
      ∀ address after, system.step state (.create address) = some after →
        ¬ Fresh state (.create address) →
          ∃ object last, system.step after (.lookup object) = some last ∧
            ∃ client, (object, client) ∈ last.ran ∧ client ≠ object := by
  have own : Own state := System.runFrom_invariant_along step_own own_initial fresh ran
  refine ⟨own.ran, ?_⟩
  intro address after stepped stale
  simp only [Fresh, not_forall, not_not] at stale
  obtain ⟨object, member, same⟩ := stale
  obtain ⟨last, looked, made, other⟩ := lookup_foreign own.consistent stepped member same
  exact ⟨object, last, looked, state.created, made, other⟩

/-- A client is used and closed, and its memory becomes that of another. -/
def reuseTrace : List Action :=
  [.create 64, .check 0, .lookup 0, .finish 0 0, .markClosed 0, .closeClient 0, .drop 0,
    .create 64, .check 1, .lookup 1]

theorem own_client_of_fresh_reuse :
    ∃ state, system.run reuseTrace = some state ∧ state.ran = [(0, 0), (1, 1)] ∧
      ∀ call ∈ state.ran, call.2 = call.1 := by
  have ran : system.run reuseTrace = some ((system.run reuseTrace).get rfl) :=
    (Option.some_get _).symm
  exact ⟨_, ran, rfl, (own_client_of_fresh ran (by decide)).1⟩

/-- A call passes its check, its object is closed, and a client created at the
freed address answers the call. -/
theorem stale_call_runs_foreign :
    ∃ state, system.run [.create 64, .check 0, .markClosed 0, .closeClient 0, .drop 0, .create 64,
        .lookup 0] = some state ∧ (0, 1) ∈ state.ran ∧ ¬ ∀ call ∈ state.ran, call.2 = call.1 := by
  refine ⟨_, rfl, List.mem_singleton.mpr rfl, ?_⟩
  intro own
  cases own (0, 1) (List.mem_singleton.mpr rfl)

end Handles
end Kotlogramme.Client
