/-
The peer handles of a client that is called from many threads.

A registration takes its handle from the counter in one step and enters the peer under
the lock in a later one, and the calls of other threads come in between.  What the
calls answer is what a registry answers that does each call at once and picks any
handle that is free.
-/

import Kotlogramme.Foundation.Histories
import Kotlogramme.Foundation.Places
import Mathlib.Algebra.Group.Int.Defs
import Mathlib.Algebra.Group.Nat.Defs
import Mathlib.Data.List.InsertIdx
import Mathlib.Data.List.Nodup
import Mathlib.Logic.Function.Basic

namespace Kotlogramme.Client
namespace PeerHandles

variable {π : Type}

/-- What the callers see: the calls with their answers, and a thread that panics while
it holds the lock. -/
inductive Event (π : Type)
  | registered (peer : π) (answer : Except String Int)
  | resolved (handle : Int) (answer : Except String π)
  | poisoned

/-- The peer of a handle, as `resolve_peer_projected` looks it up. -/
def resolve (poisoned : Bool) (peers : Int → Option π) (handle : Int) : Except String π :=
  if poisoned then .error "peer registry is poisoned"
  else
    match peers handle with
    | some peer => .ok peer
    | none => .error ("unknown peer handle: " ++ toString handle)

/-! ### A registry that does each call at once -/

structure Naming (π : Type) where
  peers : Int → Option π
  poisoned : Bool

def Naming.empty : Naming π := ⟨fun _ => none, false⟩

inductive Happens : Naming π → Event π → Naming π → Prop
  | registered {naming : Naming π} {handle : Int} (peer : π) (sound : naming.poisoned = false)
      (free : naming.peers handle = none) :
      Happens naming (.registered peer (.ok handle))
        { naming with peers := Function.update naming.peers handle (some peer) }
  | refused {naming : Naming π} (peer : π) (poisoned : naming.poisoned = true) :
      Happens naming (.registered peer (.error "peer registry is poisoned")) naming
  | resolved (naming : Naming π) (handle : Int) :
      Happens naming (.resolved handle (resolve naming.poisoned naming.peers handle)) naming
  | poisoned (naming : Naming π) : Happens naming .poisoned { naming with poisoned := true }

/-- What is said of a handle stays so. -/
theorem keeps {start last : Naming π} {history : List (Event π)} {handle : Int} {peer : π}
    (legal : Legal Happens start history last) (held : start.peers handle = some peer) :
    last.peers handle = some peer := by
  have preserved : ∀ before event after, before.peers handle = some peer →
      Happens before event after → after.peers handle = some peer := by
    intro before event after named happens
    cases happens with
    | @registered other registered sound free =>
        have apart : handle ≠ other := by
          intro same
          rw [← same, named] at free
          cases free
        exact (Function.update_of_ne apart _ _).trans named
    | refused other poisoned => exact named
    | resolved handle => exact named
    | poisoned => exact named
  exact legal.invariant (fun naming => naming.peers handle = some peer) preserved held

theorem named_by_registration {last : Naming π} {history : List (Event π)} {handle : Int}
    {peer : π} (legal : Legal Happens Naming.empty history last)
    (held : last.peers handle = some peer) : .registered peer (.ok handle) ∈ history := by
  have brought : ∀ before event after, Happens before event after →
      after.peers handle = some peer → before.peers handle = some peer ∨
        event = .registered peer (.ok handle) := by
    intro before event after happens named
    cases happens with
    | @registered other registered sound free =>
        by_cases same : handle = other
        · subst same
          have equal := (Function.update_self handle _ _).symm.trans named
          rw [Option.some.inj equal]
          exact .inr rfl
        · exact .inl ((Function.update_of_ne same _ _).symm.trans named)
    | refused other poisoned => exact .inl named
    | resolved handle => exact .inl named
    | poisoned => exact .inl named
  obtain ⟨event, member, same⟩ := legal.caused (fun naming => naming.peers handle = some peer)
    (fun event => event = .registered peer (.ok handle)) brought
    (by intro impossible; cases impossible) held
  exact same ▸ member

theorem poisoned_by_panic {last : Naming π} {history : List (Event π)}
    (legal : Legal Happens Naming.empty history last) (poisoned : last.poisoned = true) :
    Event.poisoned ∈ history := by
  have brought : ∀ before event after, Happens before event after →
      after.poisoned = true → before.poisoned = true ∨ event = (Event.poisoned : Event π) := by
    intro before event after happens already
    cases happens with
    | registered other sound free => exact .inl already
    | refused other poisoned => exact .inl already
    | resolved handle => exact .inl already
    | poisoned => exact .inr rfl
  obtain ⟨event, member, same⟩ := legal.caused (fun naming => naming.poisoned = true)
    (fun event => event = .poisoned) brought
    (by intro impossible; cases impossible) poisoned
  exact same ▸ member

/-! ### The registry -/

/-- `waiting` has the registrations that have their handle and are yet to enter the
peer, and `numbered` counts the handles taken from the counter. -/
structure State (π : Type) where
  peers : Int → Option π
  nextPeerHandle : Int
  poisoned : Bool
  numbered : Nat
  waiting : List (Int × π)
  history : List (Event π)

/-- `insert` is the second step of a registration, by its place among those waiting. -/
inductive Action (π : Type)
  | number (peer : π)
  | insert (index : Nat)
  | resolve (handle : Int)
  | poison

/-- The counter is a 64-bit one that wraps. -/
def step (state : State π) : Action π → Option (State π)
  | .number peer => some { state with
      nextPeerHandle := (state.nextPeerHandle + 1).bmod (2 ^ 64)
      numbered := state.numbered + 1
      waiting := state.waiting ++ [(state.nextPeerHandle, peer)] }
  | .insert index =>
      match state.waiting[index]? with
      | none => none
      | some (handle, peer) =>
          if state.poisoned then some { state with
            waiting := state.waiting.eraseIdx index
            history :=
              state.history ++ [.registered peer (.error "peer registry is poisoned")] }
          else some { state with
            peers := Function.update state.peers handle (some peer)
            waiting := state.waiting.eraseIdx index
            history := state.history ++ [.registered peer (.ok handle)] }
  | .resolve handle => some { state with
      history := state.history ++
        [.resolved handle (PeerHandles.resolve state.poisoned state.peers handle)] }
  | .poison => some { state with
      poisoned := true
      history := state.history ++ [.poisoned] }

def system : System (State π) (Action π) where
  initial := ⟨fun _ => none, 1, false, 0, [], []⟩
  step := step

/-- The handle that the counter gives to the registration of a number. -/
@[irreducible]
def handleOf (number : Nat) : Int := (1 + (number : Int)).bmod (2 ^ 64)

theorem bmod_injective {modulus : Nat} {left right : Int}
    (same : left.bmod modulus = right.bmod modulus) : left % modulus = right % modulus := by
  rw [← Int.bmod_emod, same, Int.bmod_emod]

theorem handleOf_injective {left right : Nat} (first : left < 2 ^ 64) (second : right < 2 ^ 64)
    (same : handleOf left = handleOf right) : left = right := by
  unfold handleOf at same
  have modulo := bmod_injective same
  omega

theorem handleOf_succ (number : Nat) :
    (handleOf number + 1).bmod (2 ^ 64) = handleOf (number + 1) := by
  have sum : 1 + (number : Int) + 1 = 1 + ((number + 1 : Nat) : Int) := by omega
  unfold handleOf
  rw [Int.bmod_add_bmod, sum]

/-- Every handle taken has a number of its own, and those waiting name nobody yet. -/
structure Apart (state : State π) : Prop where
  counter : state.nextPeerHandle = handleOf state.numbered
  taken : ∀ call ∈ state.waiting, ∃ number < state.numbered, call.1 = handleOf number
  named : ∀ handle peer, state.peers handle = some peer →
    ∃ number < state.numbered, handle = handleOf number
  distinct : (state.waiting.map Prod.fst).Nodup
  free : ∀ call ∈ state.waiting, state.peers call.1 = none

def State.naming (state : State π) : Naming π := ⟨state.peers, state.poisoned⟩

theorem not_taken (state : State π) (few : state.numbered < 2 ^ 64) {handle : Int}
    (taken : ∃ number < state.numbered, handle = handleOf number) :
    handle ≠ handleOf state.numbered := by
  obtain ⟨number, before, same⟩ := taken
  intro next
  have equal := handleOf_injective (Nat.lt_trans before few) few (same.symm.trans next)
  omega

theorem apart_number {state : State π} (apart : Apart state) (few : state.numbered < 2 ^ 64)
    (peer : π) : Apart { state with
      nextPeerHandle := (state.nextPeerHandle + 1).bmod (2 ^ 64)
      numbered := state.numbered + 1
      waiting := state.waiting ++ [(state.nextPeerHandle, peer)] } where
  counter := by
    change (state.nextPeerHandle + 1).bmod (2 ^ 64) = _
    rw [apart.counter, handleOf_succ]
  taken := by
    intro call member
    rcases List.mem_append.mp member with earlier | last
    · obtain ⟨number, before, same⟩ := apart.taken call earlier
      exact ⟨number, Nat.lt_succ_of_lt before, same⟩
    · rw [List.mem_singleton.mp last]
      exact ⟨state.numbered, Nat.lt_succ_self _, apart.counter⟩
  named := by
    intro handle peer held
    obtain ⟨number, before, same⟩ := apart.named handle peer held
    exact ⟨number, Nat.lt_succ_of_lt before, same⟩
  distinct := by
    rw [List.map_append, List.map_singleton, List.nodup_append]
    refine ⟨apart.distinct, List.nodup_singleton _, ?_⟩
    intro handle member other last
    obtain ⟨call, waits, rfl⟩ := List.mem_map.mp member
    rw [List.mem_singleton.mp last, apart.counter]
    exact not_taken state few (apart.taken call waits)
  free := by
    intro call member
    rcases List.mem_append.mp member with earlier | last
    · exact apart.free call earlier
    · rw [List.mem_singleton.mp last, apart.counter]
      cases held : state.peers (handleOf state.numbered) with
      | none => rfl
      | some other => exact absurd rfl (not_taken state few (apart.named _ other held))

theorem left_waiting {state : State π} (apart : Apart state) {index : Nat} {handle : Int} {peer : π}
    (found : state.waiting[index]? = some (handle, peer)) :
    ∀ call ∈ state.waiting.eraseIdx index, call ∈ state.waiting ∧ call.1 ≠ handle := by
  intro call member
  obtain ⟨within, here⟩ := List.getElem?_eq_some_iff.mp found
  refine ⟨List.mem_of_mem_eraseIdx member, ?_⟩
  intro same
  have inside : handle ∈ (state.waiting.map Prod.fst).eraseIdx index := by
    rw [← same, List.eraseIdx_map]
    exact List.mem_map_of_mem member
  have bound : index < (state.waiting.map Prod.fst).length := by
    rw [List.length_map]
    exact within
  have at_ : (state.waiting.map Prod.fst)[index] = handle := by
    rw [List.getElem_map, here]
  rw [← apart.distinct.erase_getElem index bound, at_] at inside
  exact apart.distinct.not_mem_erase inside

/-- A registration that is done leaves the others as they were. -/
theorem apart_eraseIdx {state : State π} (apart : Apart state) {index : Nat} {handle : Int} {peer : π}
    (found : state.waiting[index]? = some (handle, peer)) (history : List (Event π)) :
    Apart { state with waiting := state.waiting.eraseIdx index, history := history } ∧
      Apart { state with
        peers := Function.update state.peers handle (some peer)
        waiting := state.waiting.eraseIdx index
        history := history } := by
  have left := left_waiting apart found
  have taken := fun call member => apart.taken call (left call member).1
  have distinct : ((state.waiting.eraseIdx index).map Prod.fst).Nodup :=
    apart.distinct.sublist ((List.eraseIdx_sublist state.waiting index).map Prod.fst)
  refine ⟨⟨apart.counter, taken, apart.named, distinct,
    fun call member => apart.free call (left call member).1⟩,
    ⟨apart.counter, taken, ?_, distinct, ?_⟩⟩
  · intro other named held
    by_cases same : other = handle
    · rw [same]
      exact apart.taken (handle, peer) (List.mem_of_getElem? found)
    · exact apart.named other named ((Function.update_of_ne same _ _).symm.trans held)
  · intro call member
    exact (Function.update_of_ne (left call member).2 _ _).trans
      (apart.free call (left call member).1)

/-- A step keeps the handles apart, and what it answers the naming registry answers. -/
theorem step_keeps {before after : State π} {action : Action π}
    (few : after.numbered ≤ 2 ^ 64) (apart : Apart before)
    (stepped : step before action = some after) :
    Apart after ∧ ∃ events, after.history = before.history ++ events ∧
        Legal Happens before.naming events after.naming := by
  cases action with
  | number peer =>
      cases stepped
      have fewer : before.numbered < 2 ^ 64 := few
      exact ⟨apart_number apart fewer peer, [], (List.append_nil _).symm, .nil _⟩
  | insert index =>
      simp only [step] at stepped
      cases found : before.waiting[index]? with
      | none =>
          rw [found] at stepped
          cases stepped
      | some call =>
          obtain ⟨handle, peer⟩ := call
          rw [found] at stepped
          dsimp only at stepped
          split at stepped
          · next poisoned =>
              cases stepped
              exact ⟨(apart_eraseIdx apart found _).1, _, rfl,
                .cons (.refused peer poisoned) (.nil _)⟩
          · next sound =>
              cases stepped
              have free := apart.free (handle, peer) (List.mem_of_getElem? found)
              exact ⟨(apart_eraseIdx apart found _).2, _, rfl,
                .cons (.registered peer (Bool.eq_false_iff.mpr sound) free) (.nil _)⟩
  | resolve handle =>
      cases stepped
      exact ⟨⟨apart.counter, apart.taken, apart.named, apart.distinct, apart.free⟩, _, rfl,
        .cons (.resolved before.naming handle) (.nil _)⟩
  | poison =>
      cases stepped
      exact ⟨⟨apart.counter, apart.taken, apart.named, apart.distinct, apart.free⟩, _, rfl,
        .cons (.poisoned before.naming) (.nil _)⟩

theorem numbered_mono {before after : State π} {action : Action π}
    (stepped : step before action = some after) : before.numbered ≤ after.numbered := by
  cases action with
  | number peer =>
      cases stepped
      exact Nat.le_succ _
  | insert index =>
      simp only [step] at stepped
      split at stepped
      · cases stepped
      · split at stepped <;> cases stepped <;> exact Nat.le_refl _
  | resolve handle =>
      cases stepped
      exact Nat.le_refl _
  | poison =>
      cases stepped
      exact Nat.le_refl _

theorem handleOf_zero : handleOf 0 = 1 := by
  unfold handleOf
  rw [Int.bmod_eq_of_le] <;> omega

theorem apart_initial : Apart (system : System (State π) (Action π)).initial where
  counter := handleOf_zero.symm
  taken := nofun
  named := nofun
  distinct := List.nodup_nil
  free := nofun

theorem legal_of_run {trace : List (Action π)} {state : State π}
    (ran : system.run trace = some state) (few : state.numbered ≤ 2 ^ 64) :
    Legal Happens Naming.empty state.history state.naming :=
  @System.legal_of_run _ _ Happens _ _ system State.naming State.history
    (fun state => state.numbered ≤ 2 ^ 64) Apart apart_initial rfl
    (fun _ _ _ stepped fit => Nat.le_trans (numbered_mono stepped) fit)
    (fun _ _ _ few apart stepped => step_keeps few apart stepped) state trace ran few

/-! ### What the callers see -/

section Answers

variable {last : Naming π} {front middle back : List (Event π)} {peer other : π} {handle next : Int}
  {answer : Except String π}

theorem resolve_eq_ok {poisoned : Bool} {peers : Int → Option π}
    (answered : resolve poisoned peers handle = .ok peer) : peers handle = some peer := by
  unfold resolve at answered
  split at answered
  · cases answered
  · split at answered
    · next found => rw [found, Except.ok.inj answered]
    · cases answered

theorem resolve_of_some {poisoned : Bool} {peers : Int → Option π}
    (found : peers handle = some peer) : resolve poisoned peers handle = .ok peer ∨
      (resolve poisoned peers handle = .error "peer registry is poisoned" ∧ poisoned = true) := by
  unfold resolve
  cases poisoned with
  | true => exact .inr ⟨rfl, rfl⟩
  | false =>
      rw [found]
      exact .inl rfl

theorem named_after (legal : Legal Happens Naming.empty
      (front ++ .registered peer (.ok handle) :: middle) last) :
    last.peers handle = some peer := by
  obtain ⟨before, after, -, happens, later⟩ := legal.split_cons
  cases happens with
  | registered peer sound free => exact keeps later (Function.update_self handle _ _)

theorem resolved_after (legal : Legal Happens Naming.empty (front ++
      .registered peer (.ok handle) :: (middle ++ .resolved handle answer :: back)) last) :
    answer = .ok peer ∨ (answer = .error "peer registry is poisoned" ∧
      .poisoned ∈ front ++ .registered peer (.ok handle) :: middle) := by
  rw [← List.cons_append, ← List.append_assoc] at legal
  obtain ⟨before, after, earlier, happens, -⟩ := legal.split_cons
  cases happens with
  | resolved =>
      rcases resolve_of_some (named_after earlier) with found | ⟨refused, poisoned⟩
      · exact .inl found
      · exact .inr ⟨refused, poisoned_by_panic earlier poisoned⟩

theorem registered_after (legal : Legal Happens Naming.empty (front ++
      .registered peer (.ok handle) :: (middle ++ .registered other (.ok next) :: back)) last) :
    handle ≠ next := by
  rw [← List.cons_append, ← List.append_assoc] at legal
  obtain ⟨before, after, earlier, happens, -⟩ := legal.split_cons
  have named := named_after earlier
  cases happens with
  | registered other sound free =>
      intro same
      rw [← same, named] at free
      cases free

theorem registered_before (legal : Legal Happens Naming.empty
      (front ++ .resolved handle (.ok peer) :: back) last) :
    .registered peer (.ok handle) ∈ front := by
  obtain ⟨before, after, earlier, happens, -⟩ := legal.split_cons
  generalize same : (Except.ok peer : Except String π) = answer at happens
  cases happens with
  | resolved => exact named_by_registration earlier (resolve_eq_ok same.symm)

end Answers

/-- However the calls of the threads interleave, they are answered as one after the
other by a registry that picks free handles: a handle that was answered names its peer
from then on and no other. -/
theorem handles_stay_valid {trace : List (Action π)} {state : State π}
    (ran : system.run trace = some state) (few : state.numbered ≤ 2 ^ 64) :
    Legal Happens Naming.empty state.history state.naming ∧
      (∀ front middle back peer handle answer,
        state.history = front ++ .registered peer (.ok handle) ::
          (middle ++ .resolved handle answer :: back) →
        answer = .ok peer ∨ (answer = .error "peer registry is poisoned" ∧
          .poisoned ∈ front ++ .registered peer (.ok handle) :: middle)) ∧
      (∀ front middle back peer other handle next,
        state.history = front ++ .registered peer (.ok handle) ::
          (middle ++ .registered other (.ok next) :: back) → handle ≠ next) ∧
      ∀ front back handle peer, state.history = front ++ .resolved handle (.ok peer) :: back →
        .registered peer (.ok handle) ∈ front := by
  have legal := legal_of_run ran few
  refine ⟨legal, ?_, ?_, ?_⟩
  · intro front middle back peer handle answer whole
    exact resolved_after (whole ▸ legal)
  · intro front middle back peer other handle next whole
    exact registered_after (whole ▸ legal)
  · intro front back handle peer whole
    exact registered_before (whole ▸ legal)

/-- Two registrations whose steps cross. -/
def crossing : List (Action String) :=
  [.number "ada", .number "bob", .insert 1, .resolve 1, .resolve 2, .insert 0, .resolve 1]

def crossed : List (Event String) :=
  [.registered "bob" (.ok 2), .resolved 1 (.error "unknown peer handle: 1"),
    .resolved 2 (.ok "bob"), .registered "ada" (.ok 1), .resolved 1 (.ok "ada")]

theorem crossing_runs :
    ∃ state, system.run crossing = some state ∧ state.history = crossed ∧ state.numbered = 2 :=
  ⟨_, rfl, rfl, rfl⟩

theorem handles_stay_valid_crossing :
    ∃ state, system.run crossing = some state ∧ state.history = crossed ∧
      Legal Happens Naming.empty state.history state.naming := by
  obtain ⟨state, ran, seen, two⟩ := crossing_runs
  have few : state.numbered ≤ 2 ^ 64 := by omega
  exact ⟨state, ran, seen, (handles_stay_valid ran few).1⟩

end PeerHandles
end Kotlogramme.Client
