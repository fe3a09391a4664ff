/-
Writing the update state between two polls.

A caller queues a command with a reply channel and waits for the reply, for at most
thirty seconds.  The pump's task carries out what is queued and then polls; it may be
aborted where it awaits, and what it held, the queue and the reply channels in it, is
dropped with it.  Callers are numbered in the order in which they come.
-/

import Kotlogramme.Foundation.Places
import Kotlogramme.Foundation.Transition
import Mathlib.Data.List.Nodup

namespace Kotlogramme.Updates
namespace SyncState

/-- What the task does; `draining` is the loop over the commands. -/
inductive Phase
  | draining
  | writing (caller : Nat)
  | polling
  | released

/-- The command that is carried out. -/
def Phase.inHand : Phase → List Nat
  | .writing caller => [caller]
  | _ => []

/-- The reply channel, as its receiving end finds it. -/
inductive Reply
  | pending
  | sent (written : Except String Unit)
  | dropped

structure Caller where
  reply : Reply
  answer : Option (Except String Unit)

inductive Event
  | requested (caller : Nat)
  | writeBegan (caller : Nat)
  | writeEnded (caller : Nat) (written : Except String Unit)
  | pollBegan
  | pollEnded
  | released
  | answered (caller : Nat) (result : Except String Unit)

/-- `log` records what has happened, in order. -/
structure State where
  phase : Phase
  aborting : Bool
  queue : List Nat
  callers : List Caller
  log : List Event

/-- `take` finds a command and `beginPoll` finds none; `receive` and `timeOut` are how
the wait of a caller ends. -/
inductive Action
  | call
  | take
  | written (result : Except String Unit)
  | beginPoll
  | endPoll
  | stop
  | release
  | receive (caller : Nat)
  | timeOut (caller : Nat)

def syncBusy : String :=
  "the update stream is between no polls: grammers only writes the update state when it is not " ++
    "receiving one, so try again once an update arrives"

def noPump : String := "the update pump has stopped"

namespace State

def initial : State where
  phase := .draining
  aborting := false
  queue := []
  callers := []
  log := []

/-- The commands whose reply channels the task holds. -/
def held (state : State) : List Nat := state.phase.inHand ++ state.queue

/-- The task goes on, and the log with it. -/
def turnTo (state : State) (phase : Phase) (event : Event) : State :=
  { state with phase := phase, log := state.log ++ [event] }

def sendReply (state : State) (caller : Nat) (waiting : Caller) (written : Except String Unit) :
    State :=
  { state with callers := state.callers.set caller { waiting with reply := .sent written } }

/-- The wait of a caller ends. -/
def finish (state : State) (caller : Nat) (waiting : Caller) (result : Except String Unit) :
    State :=
  { state with
    callers := state.callers.set caller { waiting with answer := some result }
    log := state.log ++ [.answered caller result] }

def dropHeld (state : State) : State :=
  { state with
    queue := []
    callers := state.callers.mapIdx fun place caller =>
      if place ∈ state.held then { caller with reply := .dropped } else caller }

end State

def step (state : State) : Action → Option State
  | .call =>
      match state.phase with
      | .released =>
          some { state with
            callers := state.callers ++ [{ reply := .dropped, answer := some (.error noPump) }]
            log := state.log ++ [.answered state.callers.length (.error noPump)] }
      | _ =>
          some { state with
            queue := state.queue ++ [state.callers.length]
            callers := state.callers ++ [{ reply := .pending, answer := none }]
            log := state.log ++ [.requested state.callers.length] }
  | .take =>
      match state.phase, state.queue with
      | .draining, caller :: rest =>
          some { state.turnTo (.writing caller) (.writeBegan caller) with queue := rest }
      | _, _ => none
  | .written result =>
      match state.phase with
      | .writing caller => do
          let waiting ← state.callers[caller]?
          some ((state.sendReply caller waiting result).turnTo .draining
            (.writeEnded caller result))
      | _ => none
  | .beginPoll =>
      match state.phase, state.queue with
      | .draining, [] => some (state.turnTo .polling .pollBegan)
      | _, _ => none
  | .endPoll =>
      match state.phase with
      | .polling => some (state.turnTo .draining .pollEnded)
      | _ => none
  | .stop => some { state with aborting := true }
  | .release =>
      match state.phase with
      | .released => none
      | _ =>
          if state.aborting then some (state.dropHeld.turnTo .released .released)
          else none
  | .receive caller => do
      let waiting ← state.callers[caller]?
      match waiting.answer, waiting.reply with
      | none, .sent written => some (state.finish caller waiting written)
      | none, .dropped => some (state.finish caller waiting (.error noPump))
      | _, _ => none
  | .timeOut caller => do
      let waiting ← state.callers[caller]?
      match waiting.answer with
      | none => some (state.finish caller waiting (.error syncBusy))
      | some _ => none

def system : System State Action where
  initial := .initial
  step := step

/-! ### What a step can be -/

section Steps

variable (state : State)

inductive Stepped : Action → State → Prop
  | refused (released : state.phase = .released) :
      Stepped .call { state with
        callers := state.callers ++ [{ reply := .dropped, answer := some (.error noPump) }]
        log := state.log ++ [.answered state.callers.length (.error noPump)] }
  | queued (running : state.phase ≠ .released) :
      Stepped .call { state with
        queue := state.queue ++ [state.callers.length]
        callers := state.callers ++ [{ reply := .pending, answer := none }]
        log := state.log ++ [.requested state.callers.length] }
  | take {caller : Nat} {rest : List Nat} (draining : state.phase = .draining)
      (first : state.queue = caller :: rest) :
      Stepped .take { state.turnTo (.writing caller) (.writeBegan caller) with queue := rest }
  | written {caller : Nat} {waiting : Caller} (result : Except String Unit)
      (writing : state.phase = .writing caller) (found : state.callers[caller]? = some waiting) :
      Stepped (.written result)
        ((state.sendReply caller waiting result).turnTo .draining (.writeEnded caller result))
  | beginPoll (draining : state.phase = .draining) (empty : state.queue = []) :
      Stepped .beginPoll (state.turnTo .polling .pollBegan)
  | endPoll (polling : state.phase = .polling) :
      Stepped .endPoll (state.turnTo .draining .pollEnded)
  | stop : Stepped .stop { state with aborting := true }
  | release (running : state.phase ≠ .released) :
      Stepped .release (state.dropHeld.turnTo .released .released)
  | finish {action : Action} {caller : Nat} {waiting : Caller} {result : Except String Unit}
      (found : state.callers[caller]? = some waiting) (unanswered : waiting.answer = none)
      (ended : result = .error syncBusy ∨ waiting.reply = .sent result ∨
        (waiting.reply = .dropped ∧ result = .error noPump)) :
      Stepped action (state.finish caller waiting result)

end Steps

variable {state after : State}

theorem step_cases {action : Action} (stepped : step state action = some after) :
    Stepped state action after := by
  cases action with
  | call =>
      simp only [step] at stepped
      split at stepped
      · rename_i released
        cases stepped
        exact .refused released
      · rename_i running
        cases stepped
        exact .queued running
  | take =>
      simp only [step] at stepped
      split at stepped
      · rename_i caller rest draining first
        cases stepped
        exact .take draining first
      · cases stepped
  | written result =>
      simp only [step] at stepped
      split at stepped
      · rename_i caller writing
        obtain ⟨waiting, found, same⟩ := Option.bind_eq_some_iff.mp stepped
        cases same
        exact .written result writing found
      · cases stepped
  | beginPoll =>
      simp only [step] at stepped
      split at stepped
      · rename_i draining empty
        cases stepped
        exact .beginPoll draining empty
      · cases stepped
  | endPoll =>
      simp only [step] at stepped
      split at stepped
      · rename_i polling
        cases stepped
        exact .endPoll polling
      · cases stepped
  | stop =>
      cases stepped
      exact .stop
  | release =>
      simp only [step] at stepped
      split at stepped
      · cases stepped
      · rename_i running
        split at stepped
        · cases stepped
          exact .release running
        · cases stepped
  | receive caller =>
      obtain ⟨waiting, found, continued⟩ := Option.bind_eq_some_iff.mp stepped
      split at continued
      · rename_i written unanswered sent
        cases continued
        exact .finish found unanswered (.inr (.inl sent))
      · rename_i unanswered dropped
        cases continued
        exact .finish found unanswered (.inr (.inr ⟨dropped, rfl⟩))
      · cases continued
  | timeOut caller =>
      obtain ⟨waiting, found, continued⟩ := Option.bind_eq_some_iff.mp stepped
      split at continued
      · rename_i unanswered
        cases continued
        exact .finish found unanswered (.inl rfl)
      · cases continued

/-! ### The order of the commands -/

/-- The turns of the task, as its events tell them. -/
def follow : Phase → Event → Option Phase
  | .released, .requested _ => none
  | .released, .released => none
  | phase, .requested _ => some phase
  | phase, .answered _ _ => some phase
  | .draining, .writeBegan caller => some (.writing caller)
  | .writing caller, .writeEnded other _ => if other = caller then some .draining else none
  | .draining, .pollBegan => some .polling
  | .polling, .pollEnded => some .draining
  | _, .released => some .released
  | _, _ => none

def turns : System Phase Event where
  initial := .draining
  step := follow

theorem turns_append {log : List Event} {phase next : Phase} {event : Event}
    (taken : turns.run log = some phase) (follows : follow phase event = some next) :
    turns.run (log ++ [event]) = some next :=
  System.runFrom_append.mpr ⟨phase, taken, System.runFrom_cons_eq_some.mpr ⟨next, follows, rfl⟩⟩

theorem follow_requested {phase : Phase} (running : phase ≠ .released) (caller : Nat) :
    follow phase (.requested caller) = some phase := by
  cases phase with
  | released => exact absurd rfl running
  | _ => rfl

theorem follow_answered (phase : Phase) (caller : Nat) (result : Except String Unit) :
    follow phase (.answered caller result) = some phase := by
  cases phase with
  | _ => rfl

theorem follow_released {phase : Phase} (running : phase ≠ .released) :
    follow phase .released = some .released := by
  cases phase with
  | released => exact absurd rfl running
  | _ => rfl

def Event.request? : Event → Option Nat
  | .requested caller => some caller
  | _ => none

def Event.begun? : Event → Option Nat
  | .writeBegan caller => some caller
  | _ => none

/-- What was asked of the task, in that order. -/
def requests (log : List Event) : List Nat := log.filterMap Event.request?

/-- What the task has begun to carry out, in that order. -/
def begun (log : List Event) : List Nat := log.filterMap Event.begun?

/-- `lost` are the commands that were in the queue when the task let go of it. -/
structure Ordered (state : State) : Prop where
  turns : turns.run state.log = some state.phase
  split : ∃ earlier lost, begun state.log = earlier ++ state.phase.inHand ∧
    earlier ++ state.held ++ lost = requests state.log ∧ (state.phase ≠ .released → lost = [])
  once : (requests state.log).Nodup
  numbered : ∀ caller ∈ requests state.log, caller < state.callers.length

theorem ordered_initial : Ordered State.initial where
  turns := rfl
  split := ⟨[], [], rfl, rfl, fun _ => rfl⟩
  once := List.nodup_nil
  numbered := nofun

theorem Ordered.held_sublist (ordered : Ordered state) :
    state.held.Sublist (requests state.log) := by
  obtain ⟨earlier, lost, -, whole, -⟩ := ordered.split
  rw [← whole]
  exact (List.sublist_append_right earlier state.held).trans (List.sublist_append_left _ lost)

theorem Ordered.begun_prefix (ordered : Ordered state) :
    begun state.log <+: requests state.log := by
  obtain ⟨earlier, lost, began, whole, -⟩ := ordered.split
  rw [began, ← whole]
  exact ⟨state.queue ++ lost, by simp only [State.held, List.append_assoc]⟩

theorem Ordered.lt_of_held (ordered : Ordered state) {caller : Nat}
    (held : caller ∈ state.held) : caller < state.callers.length :=
  ordered.numbered caller (ordered.held_sublist.subset held)

theorem requests_append (log : List Event) (event : Event) :
    requests (log ++ [event]) = requests log ++ event.request?.toList := by
  rw [requests, List.filterMap_append, ← requests]
  cases event with
  | requested caller => rfl
  | _ => rfl

theorem begun_append (log : List Event) (event : Event) :
    begun (log ++ [event]) = begun log ++ event.begun?.toList := by
  rw [begun, List.filterMap_append, ← begun]
  cases event with
  | writeBegan caller => rfl
  | _ => rfl

/-- An event that asks for nothing leaves the requests as they are. -/
theorem Ordered.goOn (ordered : Ordered state) {event : Event}
    (logged : after.log = state.log ++ [event])
    (follows : follow state.phase event = some after.phase)
    (unasked : event.request? = none) (room : state.callers.length ≤ after.callers.length)
    (split : ∃ earlier lost, begun after.log = earlier ++ after.phase.inHand ∧
      earlier ++ after.held ++ lost = requests state.log ∧ (after.phase ≠ .released → lost = [])) :
    Ordered after := by
  have same : requests after.log = requests state.log := by
    rw [logged, requests_append, unasked, Option.toList_none, List.append_nil]
  constructor
  case turns =>
    rw [logged]
    exact turns_append ordered.turns follows
  case split =>
    rw [same]
    exact split
  case once =>
    rw [same]
    exact ordered.once
  case numbered =>
    rw [same]
    exact fun caller member => Nat.lt_of_lt_of_le (ordered.numbered caller member) room

/-- So does one after which the task has in hand what it had. -/
theorem Ordered.keepHolding (ordered : Ordered state) {event : Event}
    (logged : after.log = state.log ++ [event])
    (follows : follow state.phase event = some after.phase)
    (unasked : event.request? = none) (unbegun : event.begun? = none)
    (room : state.callers.length ≤ after.callers.length)
    (inHand : after.phase.inHand = state.phase.inHand) (queue : after.queue = state.queue)
    (running : after.phase ≠ .released → state.phase ≠ .released) : Ordered after := by
  refine ordered.goOn logged follows unasked room ?_
  obtain ⟨earlier, lost, began, whole, nothing⟩ := ordered.split
  refine ⟨earlier, lost, ?_, ?_, fun still => nothing (running still)⟩
  · rw [logged, begun_append, unbegun, Option.toList_none, List.append_nil, inHand]
    exact began
  · rw [State.held, inHand, queue]
    exact whole

/-- A new request is not yet among those asked. -/
theorem Ordered.queue (ordered : Ordered state) (running : state.phase ≠ .released) (new : Caller) :
    Ordered { state with
      queue := state.queue ++ [state.callers.length]
      callers := state.callers ++ [new]
      log := state.log ++ [.requested state.callers.length] } := by
  obtain ⟨earlier, lost, began, whole, nothing⟩ := ordered.split
  have added := requests_append state.log (.requested state.callers.length)
  constructor
  case turns => exact turns_append ordered.turns (follow_requested running _)
  case split =>
    refine ⟨earlier, lost, ?_, ?_, nothing⟩
    · rw [begun_append]
      exact (List.append_nil _).trans began
    · rw [added, ← whole, nothing running]
      simp only [State.held, Event.request?, Option.toList_some, List.append_assoc,
        List.append_nil]
  case once =>
    rw [added]
    refine List.nodup_append.mpr ⟨ordered.once, List.nodup_singleton _, ?_⟩
    intro caller member other last same
    have before := ordered.numbered caller member
    rw [same, List.mem_singleton.mp last] at before
    exact Nat.lt_irrefl _ before
  case numbered =>
    intro caller member
    rw [added] at member
    rw [List.length_append, List.length_singleton]
    rcases List.mem_append.mp member with before | last
    · exact Nat.lt_succ_of_lt (ordered.numbered caller before)
    · rw [List.mem_singleton.mp last]
      exact Nat.lt_succ_self _

/-- The command that has ended is one of the earlier ones from then on. -/
theorem Ordered.written (ordered : Ordered state) {named : Nat}
    (writing : state.phase = .writing named) (waiting : Caller) (result : Except String Unit) :
    Ordered ((state.sendReply named waiting result).turnTo .draining
      (.writeEnded named result)) := by
  obtain ⟨earlier, lost, began, whole, nothing⟩ := ordered.split
  rw [writing] at began
  rw [State.held, writing] at whole
  refine ordered.goOn rfl ?_ rfl (Nat.le_of_eq List.length_set.symm)
    ⟨earlier ++ [named], lost, ?_, ?_, fun _ => ?_⟩
  · rw [writing]
    exact if_pos rfl
  · change begun (state.log ++ [.writeEnded named result]) = earlier ++ [named] ++ []
    rw [begun_append, began]
    rfl
  · rw [← whole]
    simp only [State.held, State.turnTo, State.sendReply, Phase.inHand, List.append_assoc,
      List.nil_append]
  · exact nothing (by rw [writing]; exact nofun)

/-- What is in hand when the task lets go has begun, and the queue is lost. -/
theorem Ordered.release (ordered : Ordered state) (running : state.phase ≠ .released) :
    Ordered (state.dropHeld.turnTo .released .released) := by
  obtain ⟨earlier, lost, began, whole, nothing⟩ := ordered.split
  rw [nothing running, List.append_nil, State.held] at whole
  refine ordered.goOn rfl (follow_released running) rfl (Nat.le_of_eq List.length_mapIdx.symm)
    ⟨earlier ++ state.phase.inHand, state.queue, ?_, ?_, fun still => absurd rfl still⟩
  · change begun (state.log ++ [.released]) = _
    rw [begun_append, began]
    rfl
  · rw [← whole]
    simp only [State.held, State.turnTo, State.dropHeld, Phase.inHand, List.append_nil,
      List.append_assoc]

theorem step_ordered {action : Action} (ordered : Ordered state)
    (stepped : step state action = some after) : Ordered after := by
  cases step_cases stepped with
  | refused released =>
      refine ordered.keepHolding rfl (follow_answered _ _ _) rfl rfl ?_ rfl rfl id
      rw [List.length_append]
      exact Nat.le_add_right _ _
  | queued running => exact ordered.queue running _
  | @take caller rest draining first =>
      obtain ⟨earlier, lost, began, whole, nothing⟩ := ordered.split
      rw [draining] at began
      rw [State.held, draining, first] at whole
      refine ordered.goOn rfl ?_ rfl (Nat.le_refl _) ⟨earlier, lost, ?_, whole, fun _ => ?_⟩
      · rw [draining]
        rfl
      · change begun (state.log ++ [.writeBegan caller]) = earlier ++ [caller]
        rw [begun_append, began.trans (List.append_nil earlier)]
        rfl
      · exact nothing (by rw [draining]; exact nofun)
  | @written named waiting result writing found => exact ordered.written writing waiting result
  | beginPoll draining empty =>
      refine ordered.keepHolding rfl ?_ rfl rfl (Nat.le_refl _) ?_ rfl ?_
      · rw [draining]
        rfl
      · rw [draining]
        rfl
      · rw [draining]
        exact nofun
  | endPoll polling =>
      refine ordered.keepHolding rfl ?_ rfl rfl (Nat.le_refl _) ?_ rfl ?_
      · rw [polling]
        rfl
      · rw [polling]
        rfl
      · rw [polling]
        exact nofun
  | stop => exact ⟨ordered.turns, ordered.split, ordered.once, ordered.numbered⟩
  | release running => exact ordered.release running
  | finish found unanswered ended =>
      exact ordered.keepHolding rfl (follow_answered _ _ _) rfl rfl
        (Nat.le_of_eq List.length_set.symm) rfl rfl id

/-! ### What the callers hear -/

/-- A reply is pending as long as the task holds its channel. -/
structure Kept (state : State) (place : Nat) (caller : Caller) : Prop where
  pending : caller.reply = .pending ↔ place ∈ state.held
  sent : ∀ written, caller.reply = .sent written → .writeEnded place written ∈ state.log
  dropped : caller.reply = .dropped → state.phase = .released
  answer : ∀ result, caller.answer = some result → result = .error syncBusy ∨
    caller.reply = .sent result ∨ (caller.reply = .dropped ∧ result = .error noPump)

variable {place : Nat} {caller : Caller}

/-- What does not touch a caller leaves it kept. -/
theorem Kept.frame (kept : Kept state place caller) (held : place ∈ after.held ↔ place ∈ state.held)
    (log : state.log ⊆ after.log)
    (released : state.phase = .released → after.phase = .released) : Kept after place caller where
  pending := kept.pending.trans held.symm
  sent written same := log (kept.sent written same)
  dropped same := released (kept.dropped same)
  answer := kept.answer

/-- A caller that has its reply pending has heard of nothing but its own time-out. -/
theorem Kept.busy_of_pending (kept : Kept state place caller) (pending : caller.reply = .pending)
    {result : Except String Unit} (answered : caller.answer = some result) :
    result = .error syncBusy := by
  rcases kept.answer result answered with busy | sent | ⟨dropped, -⟩
  · exact busy
  · rw [pending] at sent
    cases sent
  · rw [pending] at dropped
    cases dropped

def AllKept (state : State) : Prop :=
  ∀ place caller, state.callers[place]? = some caller → Kept state place caller

theorem allKept_initial : AllKept State.initial := nofun

/-- The task goes on with what it holds. -/
theorem AllKept.turnTo (kept : AllKept state) (running : state.phase ≠ .released)
    (callers : after.callers = state.callers) (held : after.held = state.held)
    (log : state.log ⊆ after.log) : AllKept after := by
  intro place caller found
  rw [callers] at found
  refine (kept place caller found).frame ?_ log fun released => absurd released running
  rw [held]

theorem kept_refused (ordered : Ordered state) (released : state.phase = .released) :
    Kept state state.callers.length ⟨.dropped, some (.error noPump)⟩ where
  pending := by
    refine ⟨nofun, fun member => ?_⟩
    exact absurd (ordered.lt_of_held member) (Nat.lt_irrefl _)
  sent := nofun
  dropped _ := released
  answer _ same := .inr (.inr ⟨rfl, (Option.some.inj same).symm⟩)

theorem AllKept.queue (kept : AllKept state) :
    AllKept { state with
      queue := state.queue ++ [state.callers.length]
      callers := state.callers ++ [⟨.pending, none⟩]
      log := state.log ++ [.requested state.callers.length] } := by
  intro place caller found
  have heldAfter : place ∈ state.phase.inHand ++ (state.queue ++ [state.callers.length]) ↔
      place ∈ state.held ∨ place = state.callers.length := by
    rw [← List.append_assoc, List.mem_append, List.mem_singleton]
    rfl
  rcases Places.concat_cases found with before | ⟨last, rfl⟩
  · have within := (List.getElem?_eq_some_iff.mp before).1
    exact (kept place caller before).frame
      (heldAfter.trans (or_iff_left (Nat.ne_of_lt within))) (List.subset_append_left ..) id
  · constructor
    case pending => exact ⟨fun _ => heldAfter.mpr (.inr last), fun _ => rfl⟩
    case sent => exact nofun
    case dropped => exact nofun
    case answer => exact nofun

/-- The reply to the command in hand, which is not in the queue any more. -/
theorem AllKept.written (kept : AllKept state) (ordered : Ordered state) {named : Nat}
    {waiting : Caller} (writing : state.phase = .writing named)
    (foundNamed : state.callers[named]? = some waiting) (result : Except String Unit) :
    AllKept ((state.sendReply named waiting result).turnTo .draining
      (.writeEnded named result)) := by
  intro place caller found
  have heldBefore : state.held = named :: state.queue := by
    rw [State.held, writing]
    rfl
  have apart : named ∉ state.queue := by
    have once := ordered.held_sublist.nodup ordered.once
    rw [heldBefore] at once
    exact (List.nodup_cons.mp once).1
  rcases Places.set_cases found with ⟨rfl, rfl⟩ | ⟨other, before⟩
  · have keptBefore := kept place waiting foundNamed
    have pending : waiting.reply = .pending := by
      rw [keptBefore.pending, heldBefore]
      exact List.mem_cons_self
    constructor
    case pending => exact ⟨nofun, fun member => absurd member apart⟩
    case sent =>
      intro written same
      cases same
      exact List.mem_append_right _ (List.mem_singleton_self _)
    case dropped => exact nofun
    case answer => exact fun answer same => .inl (keptBefore.busy_of_pending pending same)
  · refine (kept place caller before).frame ?_ (List.subset_append_left ..) ?_
    · rw [heldBefore]
      exact ⟨List.mem_cons_of_mem named, fun member =>
        (List.mem_cons.mp member).resolve_left other⟩
    · rw [writing]
      exact nofun

/-- The channels that the task holds are dropped with it, the others are as they were. -/
theorem AllKept.release (kept : AllKept state) :
    AllKept (state.dropHeld.turnTo .released .released) := by
  intro place caller found
  obtain ⟨before, foundBefore, same⟩ := Option.map_eq_some_iff.mp
    (List.getElem?_mapIdx.symm.trans found)
  have keptBefore := kept place before foundBefore
  by_cases held : place ∈ state.held
  · rw [if_pos held] at same
    subst same
    have pending := keptBefore.pending.mpr held
    constructor
    case pending => exact ⟨nofun, nofun⟩
    case sent => exact nofun
    case dropped => exact fun _ => rfl
    case answer => exact fun answer same => .inl (keptBefore.busy_of_pending pending same)
  · rw [if_neg held] at same
    subst same
    exact keptBefore.frame ⟨nofun, fun member => absurd member held⟩
      (List.subset_append_left ..) fun _ => rfl

theorem AllKept.finish (kept : AllKept state) {named : Nat} {waiting : Caller}
    {result : Except String Unit} (foundNamed : state.callers[named]? = some waiting)
    (ended : result = .error syncBusy ∨ waiting.reply = .sent result ∨
      (waiting.reply = .dropped ∧ result = .error noPump)) :
    AllKept (state.finish named waiting result) := by
  intro place caller found
  have frame (caller : Caller) (before : state.callers[place]? = some caller) :
      Kept (state.finish named waiting result) place caller :=
    (kept place caller before).frame Iff.rfl (List.subset_append_left ..) id
  rcases Places.set_cases found with ⟨rfl, rfl⟩ | ⟨other, before⟩
  · have framed := frame waiting foundNamed
    constructor
    case pending => exact framed.pending
    case sent => exact framed.sent
    case dropped => exact framed.dropped
    case answer =>
      intro answer same
      cases same
      exact ended
  · exact frame caller before

theorem step_kept {action : Action} (ordered : Ordered state) (kept : AllKept state)
    (stepped : step state action = some after) : AllKept after := by
  cases step_cases stepped with
  | refused released =>
      intro place caller found
      rcases Places.concat_cases found with before | ⟨rfl, rfl⟩
      · exact (kept place caller before).frame Iff.rfl (List.subset_append_left ..) id
      · exact (kept_refused ordered released).frame Iff.rfl (List.subset_append_left ..) id
  | queued running => exact kept.queue
  | take draining first =>
      refine kept.turnTo (by rw [draining]; exact nofun) rfl ?_ (List.subset_append_left ..)
      rw [State.held, State.held, draining, first]
      rfl
  | written result writing found => exact kept.written ordered writing found result
  | beginPoll draining empty =>
      refine kept.turnTo (by rw [draining]; exact nofun) rfl ?_ (List.subset_append_left ..)
      rw [State.held, State.held, draining]
      rfl
  | endPoll polling =>
      refine kept.turnTo (by rw [polling]; exact nofun) rfl ?_ (List.subset_append_left ..)
      rw [State.held, State.held, polling]
      rfl
  | stop =>
      intro place caller found
      exact (kept place caller found).frame Iff.rfl (List.Subset.refl _) id
  | release running => exact kept.release
  | finish found unanswered ended => exact kept.finish found ended

/-- What the caller has been answered. -/
def Event.answerTo (place : Nat) : Event → Option (Except String Unit)
  | .answered caller result => if caller = place then some result else none
  | _ => none

def answers (log : List Event) (place : Nat) : List (Except String Unit) :=
  log.filterMap (Event.answerTo place)

/-- The log has the answers that the callers have. -/
def Recorded (state : State) : Prop :=
  ∀ place, answers state.log place = (state.callers[place]?.bind Caller.answer).toList

theorem recorded_initial : Recorded State.initial := fun _ => rfl

theorem answers_append (log : List Event) (event : Event) (place : Nat) :
    answers (log ++ [event]) place = answers log place ++ (event.answerTo place).toList := by
  rw [answers, List.filterMap_append, ← answers]
  cases found : event.answerTo place with
  | none => rw [List.filterMap_cons_none found]; rfl
  | some result => rw [List.filterMap_cons_some found]; rfl

theorem mem_answers {log : List Event} {place : Nat} {result : Except String Unit} :
    result ∈ answers log place ↔ .answered place result ∈ log := by
  rw [answers, List.mem_filterMap]
  constructor
  · rintro ⟨event, member, same⟩
    cases event with
    | answered caller other =>
        obtain ⟨own, given⟩ := Option.ite_none_right_eq_some.mp same
        cases own
        cases given
        exact member
    | _ => cases same
  · exact fun member => ⟨_, member, if_pos rfl⟩

/-- An event that answers nobody keeps the record where nobody's answer changes. -/
theorem Recorded.goOn (recorded : Recorded state) {event : Event}
    (logged : after.log = state.log ++ [event]) (silent : ∀ place, event.answerTo place = none)
    (same : ∀ place : Nat, after.callers[place]?.bind Caller.answer =
      state.callers[place]?.bind Caller.answer) : Recorded after := by
  intro place
  rw [logged, answers_append, silent, same, recorded place]
  exact List.append_nil _

/-- A caller that keeps its answer changes nobody's answer. -/
theorem answer_set {callers : List Caller} {named : Nat} {waiting new : Caller}
    (found : callers[named]? = some waiting) (same : new.answer = waiting.answer) (place : Nat) :
    (callers.set named new)[place]?.bind Caller.answer = callers[place]?.bind Caller.answer := by
  by_cases own : place = named
  · rw [own, Places.found_set_self found new, found]
    exact same
  · rw [List.getElem?_set_ne (Ne.symm own)]

theorem answer_concat (callers : List Caller) (new : Caller) (place : Nat) :
    (callers ++ [new])[place]?.bind Caller.answer =
      if callers.length = place then new.answer else callers[place]?.bind Caller.answer := by
  split
  next last =>
    rw [← last, List.getElem?_concat_length]
    rfl
  next other =>
    cases found : (callers ++ [new])[place]? with
    | none =>
        rw [List.getElem?_eq_none_iff, List.length_append] at found
        rw [List.getElem?_eq_none (Nat.le_of_add_right_le found)]
    | some caller =>
        rcases Places.concat_cases found with before | ⟨last, -⟩
        · rw [before]
        · exact absurd last.symm other

theorem step_recorded {action : Action} (recorded : Recorded state)
    (stepped : step state action = some after) : Recorded after := by
  cases step_cases stepped with
  | refused released =>
      intro place
      rw [answers_append, recorded place, answer_concat, Event.answerTo]
      split
      next last =>
        rw [← last, List.getElem?_eq_none (Nat.le_refl _)]
        rfl
      next => exact List.append_nil _
  | queued running =>
      refine recorded.goOn rfl (fun _ => rfl) fun place => ?_
      rw [answer_concat]
      split
      next last => rw [← last, List.getElem?_eq_none (Nat.le_refl _), Option.bind_none]
      next => rfl
  | take => exact recorded.goOn rfl (fun _ => rfl) fun _ => rfl
  | written result writing found =>
      exact recorded.goOn rfl (fun _ => rfl) (answer_set found rfl)
  | beginPoll => exact recorded.goOn rfl (fun _ => rfl) fun _ => rfl
  | endPoll => exact recorded.goOn rfl (fun _ => rfl) fun _ => rfl
  | stop => exact recorded
  | release running =>
      refine recorded.goOn rfl (fun _ => rfl) fun place => ?_
      change (List.mapIdx _ state.callers)[place]?.bind Caller.answer = _
      rw [List.getElem?_mapIdx]
      cases state.callers[place]? with
      | none => rfl
      | some caller =>
          change Caller.answer (if _ then _ else _) = _
          split
          · rfl
          · rfl
  | @finish _ named waiting result found unanswered ended =>
      intro place
      change answers (state.log ++ [.answered named result]) place = _
      rw [answers_append, recorded place]
      by_cases own : place = named
      · subst own
        rw [found, State.finish, Places.found_set_self found, Event.answerTo, if_pos rfl]
        rw [Option.bind_some, unanswered]
        rfl
      · rw [Event.answerTo, if_neg (Ne.symm own), State.finish, List.getElem?_set_ne (Ne.symm own)]
        exact List.append_nil _

structure Consistent (state : State) : Prop where
  ordered : Ordered state
  kept : AllKept state
  recorded : Recorded state

theorem consistent_of_reachable (reached : system.Reachable state) : Consistent state := by
  refine reached.invariant ⟨ordered_initial, allKept_initial, recorded_initial⟩ ?_
  intro before action after consistent stepped
  exact ⟨step_ordered consistent.ordered stepped,
    step_kept consistent.ordered consistent.kept stepped,
    step_recorded consistent.recorded stepped⟩

theorem Consistent.answer_of_answered (consistent : Consistent state) {place : Nat}
    {result : Except String Unit} (answered : .answered place result ∈ state.log) :
    ∃ caller, state.callers[place]? = some caller ∧ caller.answer = some result := by
  have member := mem_answers.mpr answered
  rw [consistent.recorded place, Option.mem_toList] at member
  exact Option.bind_eq_some_iff.mp member

/-- What a caller hears is that the pump is busy or gone, or how its own write went. -/
theorem Consistent.answer_cases (consistent : Consistent state) {place : Nat}
    {result : Except String Unit} (answered : .answered place result ∈ state.log) :
    result = .error noPump ∨ result = .error syncBusy ∨ .writeEnded place result ∈ state.log := by
  obtain ⟨caller, found, answer⟩ := consistent.answer_of_answered answered
  have kept := consistent.kept place caller found
  rcases kept.answer result answer with busy | sent | ⟨-, stopped⟩
  · exact .inr (.inl busy)
  · exact .inr (.inr (kept.sent result sent))
  · exact .inl stopped

/-! ### Once the task has let go -/

/-- From then on calls are refused and waits end, and nothing else happens. -/
theorem released_cases {action : Action} (released : state.phase = .released)
    (stepped : step state action = some after) :
    after = { state with
      callers := state.callers ++ [{ reply := .dropped, answer := some (.error noPump) }]
      log := state.log ++ [.answered state.callers.length (.error noPump)] } ∨
    after = { state with aborting := true } ∨
    ∃ (named : Nat) (waiting : Caller) (result : Except String Unit),
      state.callers[named]? = some waiting ∧ waiting.answer = none ∧
        after = state.finish named waiting result := by
  cases step_cases stepped with
  | refused => exact .inl rfl
  | queued running => exact absurd released running
  | take draining =>
      rw [released] at draining
      cases draining
  | written result writing =>
      rw [released] at writing
      cases writing
  | beginPoll draining =>
      rw [released] at draining
      cases draining
  | endPoll polling =>
      rw [released] at polling
      cases polling
  | stop => exact .inr (.inl rfl)
  | release running => exact absurd released running
  | finish found unanswered => exact .inr (.inr ⟨_, _, _, found, unanswered, rfl⟩)

theorem released_step {action : Action} (released : state.phase = .released)
    (stepped : step state action = some after) :
    after.phase = .released ∧
      (after.log = state.log ∨
        ∃ place result, after.log = state.log ++ [.answered place result]) := by
  rcases released_cases released stepped with rfl | rfl | ⟨named, waiting, result, -, -, rfl⟩
  · exact ⟨released, .inr ⟨_, _, rfl⟩⟩
  · exact ⟨released, .inl rfl⟩
  · exact ⟨released, .inr ⟨_, _, rfl⟩⟩

/-- A call that is made of a released pump is answered when it is made. -/
theorem released_call {action : Action} {first : Nat} (released : state.phase = .released)
    (refused : ∀ place caller, first ≤ place → state.callers[place]? = some caller →
      caller.answer = some (.error noPump)) (room : first ≤ state.callers.length)
    (stepped : step state action = some after) :
    (∀ place caller, first ≤ place → after.callers[place]? = some caller →
      caller.answer = some (.error noPump)) ∧ first ≤ after.callers.length := by
  rcases released_cases released stepped with
    rfl | rfl | ⟨named, waiting, result, foundNamed, unanswered, rfl⟩
  · rw [List.length_append]
    refine ⟨fun place caller late found => ?_, Nat.le_add_right_of_le room⟩
    rcases Places.concat_cases found with before | ⟨-, rfl⟩
    · exact refused place caller late before
    · rfl
  · exact ⟨refused, room⟩
  · refine ⟨fun place caller late found => ?_,
      Nat.le_trans room (Nat.le_of_eq List.length_set.symm)⟩
    rcases Places.set_cases found with ⟨rfl, rfl⟩ | ⟨-, before⟩
    · rw [refused place waiting late foundNamed] at unanswered
      cases unanswered
    · exact refused place caller late before

structure Stopped (base state : State) : Prop where
  released : state.phase = .released
  begun : begun state.log = begun base.log
  written : ∀ place result, .writeEnded place result ∈ state.log →
    .writeEnded place result ∈ base.log
  room : base.callers.length ≤ state.callers.length
  refused : ∀ place caller, base.callers.length ≤ place → state.callers[place]? = some caller →
    caller.answer = some (.error noPump)

theorem stopped_self (released : state.phase = .released) : Stopped state state where
  released := released
  begun := rfl
  written _ _ member := member
  room := Nat.le_refl _
  refused place caller late found := by
    have within := (List.getElem?_eq_some_iff.mp found).1
    omega

theorem step_stopped (base state : State) (action : Action) (after : State)
    (stopped : Stopped base state) (stepped : step state action = some after) :
    Stopped base after := by
  obtain ⟨released, logged⟩ := released_step stopped.released stepped
  obtain ⟨refused, room⟩ := released_call stopped.released stopped.refused stopped.room stepped
  refine ⟨released, ?_, ?_, room, refused⟩
  · rcases logged with same | ⟨place, result, same⟩
    · rw [same]
      exact stopped.begun
    · rw [same, begun_append]
      exact (List.append_nil _).trans stopped.begun
  · intro place result member
    rcases logged with same | ⟨named, answer, same⟩
    · exact stopped.written place result (same ▸ member)
    · rw [same] at member
      rcases List.mem_append.mp member with before | last
      · exact stopped.written place result before
      · cases List.mem_singleton.mp last

/-! ### What the callers can rely on -/

/-- A write or a poll begins where neither is under way, the writes are what was asked
for and in that order, and a caller waits or has one answer. -/
structure Truthful (state : State) : Prop where
  turns : turns.run state.log = some state.phase
  order : begun state.log <+: requests state.log
  once : (requests state.log).Nodup
  answered : ∀ place caller, state.callers[place]? = some caller →
    answers state.log place = caller.answer.toList
  waits : ∀ place caller, state.callers[place]? = some caller → caller.answer = none →
    ∃ after, step state (.timeOut place) = some after ∧
      answers after.log place = [.error syncBusy]
  ok : ∀ place, .answered place (.ok ()) ∈ state.log → .writeEnded place (.ok ()) ∈ state.log

theorem Consistent.timeOut (consistent : Consistent state) {place : Nat} {caller : Caller}
    (found : state.callers[place]? = some caller) (unanswered : caller.answer = none) :
    ∃ after, step state (.timeOut place) = some after ∧
      answers after.log place = [.error syncBusy] := by
  refine ⟨state.finish place caller (.error syncBusy), ?_, ?_⟩
  · simp only [step, found, unanswered, Option.bind_eq_bind, Option.bind_some]
  · rw [State.finish, answers_append, consistent.recorded place, found, Option.bind_some,
      unanswered, Event.answerTo, if_pos rfl]
    rfl

theorem Consistent.truthful (consistent : Consistent state) : Truthful state where
  turns := consistent.ordered.turns
  order := consistent.ordered.begun_prefix
  once := consistent.ordered.once
  answered place caller found := by
    rw [consistent.recorded place, found, Option.bind_some]
  waits _ _ found unanswered := consistent.timeOut found unanswered
  ok place answered := by
    rcases consistent.answer_cases answered with stopped | busy | written
    · cases stopped
    · cases busy
    · exact written

/-- Every run is truthful, and after the task has let go of the stream no write begins
and a caller hears that the pump is gone or busy, unless its write had ended before. -/
theorem answers_truthfully (reached : system.Reachable state) :
    Truthful state ∧
    (state.phase = .released → ∀ rest after, system.runFrom state rest = some after →
      begun after.log = begun state.log ∧
      (∀ place result, .answered place result ∈ after.log → result = .error noPump ∨
        result = .error syncBusy ∨ .writeEnded place result ∈ state.log) ∧
      ∀ place result, state.callers.length ≤ place → .answered place result ∈ after.log →
        result = .error noPump) := by
  refine ⟨(consistent_of_reachable reached).truthful, ?_⟩
  intro released rest after ran
  have consistent := consistent_of_reachable (System.reachable_of_runFrom reached ran)
  have stopped : Stopped state after :=
    System.runFrom_invariant (step_stopped state) (stopped_self released) ran
  refine ⟨stopped.begun, ?_, ?_⟩
  · intro place result answered
    exact (consistent.answer_cases answered).imp_right
      (·.imp_right (stopped.written place result))
  · intro place result late answered
    obtain ⟨caller, found, answer⟩ := consistent.answer_of_answered answered
    rw [stopped.refused place caller late found] at answer
    exact (Option.some.inj answer).symm

/-- The first command is written before a poll; the second comes while the poll is under
way and is lost with the task. -/
def stoppedWhilePolling : List Action :=
  [.call, .take, .written (.ok ()), .receive 0, .beginPoll, .call, .stop, .release]

theorem answers_truthfully_stopped : ∃ state, system.run stoppedWhilePolling = some state ∧
    Truthful state ∧ begun state.log = [0] ∧ requests state.log = [0, 1] ∧
    ∃ after, system.runFrom state [.receive 1, .call] = some after ∧ begun after.log = [0] ∧
      answers after.log 0 = [.ok ()] ∧ answers after.log 1 = [.error noPump] ∧
      answers after.log 2 = [.error noPump] := by
  have ran : system.run stoppedWhilePolling = some _ := rfl
  obtain ⟨truthful, stopped⟩ := answers_truthfully (System.reachable_of_run ran)
  have begun := (stopped rfl [.receive 1, .call] _ rfl).1
  exact ⟨_, ran, truthful, rfl, rfl, _, rfl, begun, rfl, rfl, rfl⟩

end SyncState
end Kotlogramme.Updates
