/-
The two read operations over the update queue.

A call parses its payload, takes the next update out of the queue, and only
then projects it for its caller.  A projection that fails has nowhere to put
the update back, and one that panics takes the process with it.
-/

import Kotlogramme.Updates.Handoff
import Kotlogramme.Updates.Projection

namespace Kotlogramme.Updates

open Fallible

/-- What a reader receives: an update, or the failure the pump's poll reported. -/
abbrev Polled (υ χ : Type) := Except String (PolledUpdate υ χ)

structure Native (υ χ : Type) where
  queue : List (Polled υ χ)
  registry : Registry υ χ

structure RawUpdateResult (χ : Type) where
  update : RawUpdateDto
  state : UpdateStateDto
  peers : List (PeerDto χ)

/-- The request payload as it decodes, or the text of the failure to. -/
abbrev NextUpdatePayload := Except String (Option Nat)

def timeoutOf (payload : NextUpdatePayload) : Except String Nat :=
  match payload with
  | .error failure => .error ("invalid request payload: " ++ failure)
  | .ok timeoutMillis => .ok (min 60000 (max 1 (timeoutMillis.getD 30000)))

section Operations

variable {υ χ μ : Type} (typedView : PolledUpdate υ χ → Payload υ χ μ)
  (nameForId : BitVec 32 → String)

/-- `UpdatePump::next` of a caller that no other interrupts.  The wait may run
out before an update is there. -/
def next (native : Native υ χ) (ranOut : Bool) : Option (Polled υ χ) × Native υ χ :=
  match ranOut, native.queue with
  | false, polled :: rest => (some polled, { native with queue := rest })
  | _, _ => (none, native)

/-- `Update::from_raw` keeps the TL update and the state. -/
def fromRaw (polled : PolledUpdate υ χ) : Update υ χ μ where
  raw := polled.update
  state := polled.state
  payload := typedView polled

def typedDto (polled : PolledUpdate υ χ) : Registering υ χ (UpdateDto υ χ μ) :=
  updateDto nameForId (fromRaw typedView polled)

def rawResult (polled : PolledUpdate υ χ) : Registering υ χ (RawUpdateResult χ) := do
  let projected ← polled.peers.mapM peerDto
  return { update := rawUpdateDto nameForId polled.update, state := updateStateDto polled.state,
           peers := projected.mergeSort fun left right => left.id ≤ right.id }

/-- What both operations do with what they have taken. -/
def project {δ : Type} (projection : PolledUpdate υ χ → Registering υ χ δ) (native : Native υ χ) :
    Option (Polled υ χ) → Except Failure (Option δ) × Native υ χ
  | none => (.ok none, native)
  | some (.error failure) => (.error (.error failure), native)
  | some (.ok polled) =>
      match (projection polled).runOn native.registry with
      | (.ok document, registry) => (.ok (some document), { native with registry })
      | (.error failure, registry) => (.error failure, { native with registry })

def operation {δ : Type} (projection : PolledUpdate υ χ → Registering υ χ δ)
    (native : Native υ χ) (payload : NextUpdatePayload) (ranOut : Bool) :
    Except Failure (Option δ) × Native υ χ :=
  match timeoutOf payload with
  | .error failure => (.error (.error failure), native)
  | .ok _ =>
      let (polled, native) := next native ranOut
      project projection native polled

def nextUpdate : Native υ χ → NextUpdatePayload → Bool →
    Except Failure (Option (UpdateDto υ χ μ)) × Native υ χ :=
  operation (typedDto typedView nameForId)

def nextRawUpdate : Native υ χ → NextUpdatePayload → Bool →
    Except Failure (Option (RawUpdateResult χ)) × Native υ χ :=
  operation (rawResult nameForId)

/-! ### Runs of calls -/

/-- What a call answers; where it panics, it does not. -/
inductive Answer (υ χ μ : Type)
  | typed (answer : Except Failure (Option (UpdateDto υ χ μ)))
  | raw (answer : Except Failure (Option (RawUpdateResult χ)))

def Answer.aborts {υ χ μ : Type} : Answer υ χ μ → Bool
  | .typed (.error .panics) => true
  | .raw (.error .panics) => true
  | _ => false

/-- An update that a call has taken out of the queue, with the state of the registry
that the call found and what it answered. -/
structure Taking (υ χ μ : Type) where
  update : PolledUpdate υ χ
  poisoned : Bool
  answer : Answer υ χ μ

/-- `taken` records the updates that calls have taken out of the queue.  Nothing
happens any more once the process is aborted. -/
structure State (υ χ μ : Type) where
  native : Native υ χ
  taken : List (Taking υ χ μ)
  aborted : Bool

/-- The registry is poisoned by a thread that panics while it holds it. -/
inductive Action (υ χ : Type)
  | send (polled : Polled υ χ)
  | poison
  | nextUpdate (payload : NextUpdatePayload) (ranOut : Bool)
  | nextRawUpdate (payload : NextUpdatePayload) (ranOut : Bool)

def takenBy (native : Native υ χ) (payload : NextUpdatePayload) (ranOut : Bool) :
    Option (PolledUpdate υ χ) :=
  match timeoutOf payload, (next native ranOut).1 with
  | .ok _, some (.ok polled) => some polled
  | _, _ => none

/-- A call has answered. -/
def State.answered (state : State υ χ μ) (polled : Option (PolledUpdate υ χ))
    (answer : Answer υ χ μ) (native : Native υ χ) : State υ χ μ where
  native := native
  taken := state.taken ++ (polled.map fun update =>
    { update, poisoned := state.native.registry.poisoned, answer }).toList
  aborted := answer.aborts

def step (state : State υ χ μ) (action : Action υ χ) : Option (State υ χ μ) :=
  if state.aborted then none
  else match action with
    | .send polled =>
        some { state with native := { state.native with queue := state.native.queue ++ [polled] } }
    | .poison =>
        some { state with native := { state.native with
          registry := { state.native.registry with poisoned := true } } }
    | .nextUpdate payload ranOut =>
        let (answer, native) := nextUpdate typedView nameForId state.native payload ranOut
        some (state.answered (takenBy state.native payload ranOut) (.typed answer) native)
    | .nextRawUpdate payload ranOut =>
        let (answer, native) := nextRawUpdate nameForId state.native payload ranOut
        some (state.answered (takenBy state.native payload ranOut) (.raw answer) native)

def readers : System (State υ χ μ) (Action υ χ) where
  initial :=
    { native := { queue := [], registry := { nextPeerHandle := 1, peers := [], poisoned := false } }
      taken := []
      aborted := false }
  step := step typedView nameForId

/-- The TL bytes, the state and the peers of the update; the peers are put in order. -/
structure RawUpdateResult.Carries (result : RawUpdateResult χ) (polled : PolledUpdate υ χ) :
    Prop where
  update : result.update = rawUpdateDto nameForId polled.update
  state : result.state = updateStateDto polled.state
  peers : ∃ projected, List.Forall₂ PeerDto.Describes projected polled.peers ∧
    result.peers.Perm projected

/-- The caller gets the update in some form. -/
def Delivered (taking : Taking υ χ μ) : Prop :=
  match taking.answer with
  | .typed answer => ∃ dto, answer = .ok (some dto) ∧
      dto.Carries nameForId taking.poisoned (fromRaw typedView taking.update)
  | .raw answer => ∃ result, answer = .ok (some result) ∧ result.Carries nameForId taking.update

/-- The update a call takes, if any, can be projected for it. -/
def Deliverable (state : State υ χ μ) : Action υ χ → Prop
  | .nextUpdate payload ranOut => ∀ polled ∈ takenBy state.native payload ranOut,
      Projectable state.native.registry (typedView polled)
  | .nextRawUpdate payload ranOut => ∀ polled ∈ takenBy state.native payload ranOut,
      polled.peers = [] ∨ state.native.registry.poisoned = false
  | _ => True

/-! ### What a call does with the update it takes -/

theorem takenBy_eq_some {native : Native υ χ} {payload : NextUpdatePayload} {ranOut : Bool}
    {polled : PolledUpdate υ χ} (taken : takenBy native payload ranOut = some polled) :
    (∃ timeout, timeoutOf payload = .ok timeout) ∧ (next native ranOut).1 = some (.ok polled) := by
  unfold takenBy at taken
  split at taken
  · rename_i timeout _ parsed found
    cases taken
    exact ⟨⟨timeout, parsed⟩, found⟩
  · cases taken

/-- With the lock free, `next` is a run of the handoff. -/
theorem next_handoff {ρ : Type} [DecidableEq ρ] {native : Native υ χ}
    {state : Handoff.State ρ (Polled υ χ)} {reader : ρ} (same : state.queue = native.queue)
    (free : state.holder = none) (alone : state.waiters = []) (idle : state.phase reader = .idle)
    (ranOut : Bool) :
    ∃ trace after, (Handoff.system ρ (Polled υ χ)).runFrom state trace = some after ∧
      after.queue = (next native ranOut).2.queue ∧
      after.returned = state.returned ++
        ((next native ranOut).1.map fun polled => (reader, polled)).toList := by
  have gaveUp (nothing : next native ranOut = (none, native)) :
      ∃ trace after, (Handoff.system ρ (Polled υ χ)).runFrom state trace = some after ∧
        after.queue = (next native ranOut).2.queue ∧
        after.returned = state.returned ++
          ((next native ranOut).1.map fun polled => (reader, polled)).toList := by
    refine ⟨[.call reader, .acquire reader, .timeOut reader], ?_⟩
    simp [Handoff.system, System.runFrom, Handoff.step, Handoff.State.setPhase, idle, alone, free,
      Handoff.State.release, nothing, same]
  cases ranOut with
  | true => exact gaveUp rfl
  | false =>
      cases queued : native.queue with
      | nil => exact gaveUp (by simp [next, queued])
      | cons polled rest =>
          rw [queued] at same
          refine ⟨[.call reader, .acquire reader, .receive reader, .finish reader], ?_⟩
          simp [Handoff.system, System.runFrom, Handoff.step, Handoff.State.setPhase, idle, alone,
            free, Handoff.State.release, same, next, queued]

theorem next_registry (native : Native υ χ) (ranOut : Bool) :
    (next native ranOut).2.registry = native.registry := by
  unfold next
  split <;> rfl

variable {δ : Type} {projection : PolledUpdate υ χ → Registering υ χ δ}

theorem operation_succeeds {native : Native υ χ} {payload : NextUpdatePayload} {ranOut : Bool}
    {polled : PolledUpdate υ χ} {described : δ → Prop}
    (taken : takenBy native payload ranOut = some polled)
    (succeeds : Succeeds (projection polled) native.registry described) :
    ∃ document, (operation projection native payload ranOut).1 = .ok (some document) ∧
      described document := by
  obtain ⟨⟨timeout, parsed⟩, found⟩ := takenBy_eq_some taken
  obtain ⟨document, later, ran, holds, -⟩ := succeeds
  rw [← next_registry native ranOut] at ran
  refine ⟨document, ?_, holds⟩
  simp only [operation, parsed, found, project, ran]

theorem operation_fails {native : Native υ χ} {payload : NextUpdatePayload} {ranOut : Bool}
    {polled : PolledUpdate υ χ} (taken : takenBy native payload ranOut = some polled)
    (fails : Fails (projection polled) native.registry) :
    ∃ failure, (operation projection native payload ranOut).1 = .error failure := by
  obtain ⟨⟨timeout, parsed⟩, found⟩ := takenBy_eq_some taken
  obtain ⟨failure, later, ran⟩ := fails
  rw [← next_registry native ranOut] at ran
  refine ⟨failure, ?_⟩
  simp only [operation, parsed, found, project, ran]

theorem peerDtos_succeed (peers : List (Peer υ χ)) {registry : Registry υ χ}
    (clean : registry.poisoned = false) :
    Succeeds (peers.mapM peerDto) registry fun dtos =>
      List.Forall₂ PeerDto.Describes dtos peers := by
  induction peers generalizing registry with
  | nil => exact succeeds_pure .nil
  | cons peer rest ih =>
      rw [List.mapM_cons]
      apply (peerDto_succeeds peer clean).bind
      intro dto later describes kept
      apply (ih (kept.trans clean)).bind
      intro dtos last describeAll _
      exact succeeds_pure (.cons describes describeAll)

theorem rawResult_succeeds {polled : PolledUpdate υ χ} {registry : Registry υ χ}
    (deliverable : polled.peers = [] ∨ registry.poisoned = false) :
    Succeeds (rawResult nameForId polled) registry fun result =>
      result.Carries nameForId polled := by
  have projected : Succeeds (polled.peers.mapM peerDto) registry fun dtos =>
      List.Forall₂ PeerDto.Describes dtos polled.peers := by
    rcases deliverable with none | clean
    · rw [none]
      exact succeeds_pure .nil
    · exact peerDtos_succeed polled.peers clean
  unfold rawResult
  apply projected.bind
  intro dtos later describe _
  exact succeeds_pure ⟨rfl, rfl, dtos, describe, List.mergeSort_perm dtos _⟩

theorem rawResult_fails {polled : PolledUpdate υ χ} {registry : Registry υ χ}
    (lacking : ¬ (polled.peers = [] ∨ registry.poisoned = false)) :
    Fails (rawResult nameForId polled) registry := by
  rw [not_or, Bool.not_eq_false] at lacking
  obtain ⟨some, poisoned⟩ := lacking
  unfold rawResult
  cases peers : polled.peers with
  | nil => exact absurd peers some
  | cons peer rest =>
      rw [List.mapM_cons]
      exact ((peerDto_fails peer poisoned).bind _).bind _

def AllDelivered (state : State υ χ μ) : Prop :=
  ∀ taking ∈ state.taken, Delivered typedView nameForId taking

/-- The update that a call takes is delivered exactly if the call can project it. -/
theorem answered_delivered_iff {state : State υ χ μ} {polled : Option (PolledUpdate υ χ)}
    {answer : Answer υ χ μ} {deliverable : PolledUpdate υ χ → Prop}
    (each : ∀ update ∈ polled, Delivered typedView nameForId
      { update, poisoned := state.native.registry.poisoned, answer } ↔ deliverable update)
    (native : Native υ χ) :
    AllDelivered typedView nameForId (state.answered polled answer native) ↔
      AllDelivered typedView nameForId state ∧ ∀ update ∈ polled, deliverable update := by
  unfold AllDelivered State.answered
  rw [List.forall_mem_append]
  refine and_congr_right fun _ => ?_
  cases polled with
  | none => simp
  | some update => simpa using each update rfl

theorem typed_delivered_iff {native : Native υ χ} {payload : NextUpdatePayload} {ranOut : Bool}
    {polled : PolledUpdate υ χ} (taken : takenBy native payload ranOut = some polled) :
    Delivered typedView nameForId ⟨polled, native.registry.poisoned,
        .typed (nextUpdate typedView nameForId native payload ranOut).1⟩ ↔
      Projectable native.registry (typedView polled) := by
  constructor
  · intro delivered
    by_contra lacking
    obtain ⟨dto, answered, -⟩ := delivered
    have fails : Fails (typedDto typedView nameForId polled) native.registry :=
      updateDto_fails nameForId lacking
    obtain ⟨failure, failed⟩ := operation_fails taken fails
    cases failed.symm.trans answered
  · intro projectable
    have succeeds : Succeeds (typedDto typedView nameForId polled) native.registry
        fun dto => dto.Carries nameForId native.registry.poisoned (fromRaw typedView polled) :=
      updateDto_succeeds nameForId projectable
    exact operation_succeeds taken succeeds

theorem raw_delivered_iff {native : Native υ χ} {payload : NextUpdatePayload} {ranOut : Bool}
    {polled : PolledUpdate υ χ} (taken : takenBy native payload ranOut = some polled) :
    Delivered typedView nameForId ⟨polled, native.registry.poisoned,
        .raw (nextRawUpdate nameForId native payload ranOut).1⟩ ↔
      polled.peers = [] ∨ native.registry.poisoned = false := by
  constructor
  · intro delivered
    by_contra lacking
    obtain ⟨result, answered, -⟩ := delivered
    obtain ⟨failure, failed⟩ := operation_fails taken (rawResult_fails nameForId lacking)
    cases failed.symm.trans answered
  · intro deliverable
    exact operation_succeeds taken (rawResult_succeeds nameForId deliverable)

/-- A call that cannot project what it takes leaves a loss that stays. -/
theorem step_delivered_iff {before after : State υ χ μ} {action : Action υ χ}
    (stepped : step typedView nameForId before action = some after) :
    AllDelivered typedView nameForId after ↔
      AllDelivered typedView nameForId before ∧ Deliverable typedView before action := by
  unfold step at stepped
  split at stepped
  · cases stepped
  cases action with
  | send polled =>
      cases stepped
      exact (and_iff_left trivial).symm
  | poison =>
      cases stepped
      exact (and_iff_left trivial).symm
  | nextUpdate payload ranOut =>
      cases stepped
      exact answered_delivered_iff typedView nameForId
        (fun update taken => typed_delivered_iff typedView nameForId taken) _
  | nextRawUpdate payload ranOut =>
      cases stepped
      exact answered_delivered_iff typedView nameForId
        (fun update taken => raw_delivered_iff typedView nameForId taken) _

/-- Every update that calls have taken was delivered exactly when each call
could project the one it took. -/
theorem delivered_iff_deliverable {trace : List (Action υ χ)} {state : State υ χ μ}
    (ran : (readers typedView nameForId).run trace = some state) :
    (∀ taking ∈ state.taken, Delivered typedView nameForId taking) ↔
      System.Along (Deliverable typedView) (readers typedView nameForId)
        (readers typedView nameForId).initial trace := by
  have initially : AllDelivered typedView nameForId (readers typedView nameForId).initial := by
    intro taking member
    cases member
  exact System.run_clean_iff initially
    (fun _ _ _ _ stepped => step_delivered_iff typedView nameForId stepped) ran

end Operations

/-- A callback query whose accessors look for the first peer of the map. -/
def pressedView (polled : PolledUpdate String Unit) : Payload String Unit Unit :=
  .callbackQuery
    { raw := .botCallbackQuery 7 1, data := [], isFromInline := false,
      peer := .answers polled.peers.head?, sender := .answers polled.peers.head? }

def pressed (peers : List (Peer String Unit)) : PolledUpdate String Unit where
  update := []
  state := { date := 0, seq := 0, messageBox := none }
  peers := peers

def readOnce (peers : List (Peer String Unit)) : List (Action String Unit) :=
  [.send (.ok (pressed peers)), .nextUpdate (.ok none) false]

theorem delivered_iff_deliverable_pressed :
    ∃ state, (readers pressedView fun _ => "").run
        (readOnce [.user "sender" { dialogId := some 5, description := () }]) = some state ∧
      state.taken.length = 1 ∧ state.aborted = false ∧
      ((∀ taking ∈ state.taken, Delivered pressedView (fun _ => "") taking) ↔
        System.Along (Deliverable pressedView) (readers pressedView fun _ => "")
          (readers pressedView fun _ => "").initial
          (readOnce [.user "sender" { dialogId := some 5, description := () }])) := by
  refine ⟨_, rfl, rfl, rfl, ?_⟩
  exact delivered_iff_deliverable pressedView (fun _ => "") rfl

/-- A new message that is an empty one. -/
def emptyView (_ : PolledUpdate String Unit) : Payload String Unit Unit :=
  .newMessage { content := (), place := none }

/-- Without its peer the callback query is neither delivered nor queued, and an empty
message aborts the process. -/
theorem pressed_without_peer_lost :
    (∃ state, (readers pressedView fun _ => "").run (readOnce []) = some state ∧
      state.taken = [⟨pressed [], false, .typed (.error (.error missingPeer))⟩] ∧
      state.native.queue = [] ∧
      ¬ ∀ taking ∈ state.taken, Delivered pressedView (fun _ => "") taking) ∧
    ∃ state, (readers emptyView fun _ => "").run (readOnce []) = some state ∧
      state.aborted = true ∧ state.native.queue = [] ∧
      ¬ ∀ taking ∈ state.taken, Delivered emptyView (fun _ => "") taking := by
  constructor
  · refine ⟨_, rfl, rfl, rfl, ?_⟩
    intro delivered
    obtain ⟨dto, answered, -⟩ := delivered _ (List.mem_cons_self ..)
    cases answered
  · refine ⟨_, rfl, rfl, rfl, ?_⟩
    intro delivered
    obtain ⟨dto, answered, -⟩ := delivered _ (List.mem_cons_self ..)
    cases answered

end Kotlogramme.Updates
