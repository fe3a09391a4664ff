/-
The facade's upload of an input stream.

The facade opens a native stream, hands over what it reads chunk by chunk, and
finishes the native stream after its input has ended.  Only the finish call
takes the native stream out of its registry and ends or aborts the upload task.
The client stays open meanwhile.
-/

import Kotlogramme.Files.StreamUpload

namespace Kotlogramme.Files
namespace UploadStream

/-! ### The native calls of one upload -/

/-- The steps of `append_stream`, which blocks its caller from the first to the
last. -/
inductive ChunkStep
  | append
  | tryUpdate
  | send
  | sendFails

def ChunkStep.action (chunk : Chunk) : ChunkStep → StreamUpload.Action
  | .append => .append chunk
  | .tryUpdate => .tryUpdate chunk
  | .send => .send chunk
  | .sendFails => .sendFails chunk

inductive TaskStep
  | read (room : Nat)
  | complete
  | fail (failure : String)
  | cancel

def TaskStep.action : TaskStep → StreamUpload.Action
  | .read room => .read room
  | .complete => .complete
  | .fail failure => .fail failure
  | .cancel => .cancel

inductive FinishStep
  | takeStream
  | dropSender
  | compare
  | join (registered : Except String Unit)

def FinishStep.action : FinishStep → StreamUpload.Action
  | .takeStream => .takeStream
  | .dropSender => .dropSender
  | .compare => .compare
  | .join registered => .join registered

/-- The result of the call that has returned in a step. -/
def returned (before after : StreamUpload) : Option (Except String Unit) :=
  (after.answered.drop before.answered.length).head?.map Prod.snd

/-! ### The facade -/

/-- Something has thrown, the sizes are reported to differ, or the finish call has
answered. -/
inductive Outcome
  | threw
  | declaredMismatch
  | finished (result : Except String Unit)

/-- Where `uploadStream` is once `uploadStreamBegin` has answered: it allocates its
buffer, reads, hands a chunk over, reports the progress, and closes the input,
with or without an exception to throw again. -/
inductive Place
  | allocating
  | reading
  | handing (chunk : Chunk)
  | reporting
  | closing (thrown : Bool)
  | finishing (matched : Bool)
  | exited (outcome : Outcome)

structure State where
  native : StreamUpload
  place : Place
  sent : Nat

/-- `throws` is for whatever the function is at. -/
inductive Action
  | allocated
  | inputRead (read : Option Chunk)
  | chunk (step : ChunkStep)
  | reported
  | closed
  | finish (step : FinishStep)
  | task (step : TaskStep)
  | throws

def State.afterCall (state : State) (chunk : Chunk) (native : StreamUpload) : State :=
  match returned state.native native with
  | none => { state with native }
  | some (.ok ()) =>
      { native, place := .reporting, sent := state.sent + chunk.bytes.length }
  | some (.error _) => { state with native, place := .closing true }

def finishPlace (matched : Bool) : Finishing → Place
  | .answered result => .exited (if matched then .finished result else .declaredMismatch)
  | _ => .finishing matched

section Facade

variable (uploads : Nat → List Byte → Bool) (id : Int) (size : DeclaredSize) (chunkSize : Nat)

def step (state : State) : Action → Option State
  | .allocated =>
      match state.place with
      | .allocating => some { state with place := .reading }
      | _ => none
  | .inputRead read =>
      match state.place, read with
      | .reading, none => some { state with place := .closing false }
      | .reading, some chunk =>
          if chunkSize < chunk.bytes.length then none
          else if chunk.bytes = [] then some state
          else some { state with place := .handing chunk }
      | _, _ => none
  | .chunk step =>
      match state.place with
      | .handing chunk => do
          let native ← StreamUpload.step uploads id size state.native (step.action chunk)
          return state.afterCall chunk native
      | _ => none
  | .reported =>
      match state.place with
      | .reporting => some { state with place := .reading }
      | _ => none
  | .closed =>
      match state.place with
      | .closing false => some { state with place := .finishing (state.sent = size.bytes) }
      | .closing true => some { state with place := .exited .threw }
      | _ => none
  | .finish step =>
      match state.place with
      | .finishing matched => do
          let native ← StreamUpload.step uploads id size state.native step.action
          return { state with native, place := finishPlace matched native.finishing }
      | _ => none
  | .task step => do
      let native ← StreamUpload.step uploads id size state.native step.action
      return { state with native }
  | .throws =>
      match state.place with
      | .allocating => some { state with place := .exited .threw }
      | .reading => some { state with place := .closing true }
      | .handing _ =>
          -- A native call under way does not throw but returns.
          if state.native.looked = [] ∧ state.native.counted = [] then
            some { state with place := .closing true }
          else none
      | .reporting => some { state with place := .closing true }
      | .closing _ => some { state with place := .exited .threw }
      | .finishing matched =>
          match state.native.finishing with
          -- `runCatching` drops what the finish call throws where the sizes differ.
          | .notCalled =>
              some { state with place := .exited (if matched then .threw else .declaredMismatch) }
          | _ => none
      | .exited _ => none

def system : System State Action where
  initial := { native := StreamUpload.initial, place := .allocating, sent := 0 }
  step := step uploads id size chunkSize

end Facade

/-- The native stream is not registered any more, and its task has ended or been
aborted. -/
def Released (stream : StreamUpload) : Prop :=
  stream.registered = false ∧ (stream.task ≠ .running ∨ stream.aborting = true)

/-- The chunk at hand is within the declared size and finds the channel open. -/
def Taken (size : DeclaredSize) (stream : StreamUpload) (chunk : Chunk) : ChunkStep → Prop
  | .tryUpdate => stream.accepted + chunk.bytes.length ≤ size.bytes
  | .sendFails => False
  | _ => True

/-- Nothing throws before the finish call has reached the native side. -/
def Calm (size : DeclaredSize) (state : State) : Action → Prop
  | .throws => False
  | .chunk step => ∀ chunk, state.place = .handing chunk → Taken size state.native chunk step
  | _ => True

section Runs

variable {uploads : Nat → List Byte → Bool} {id : Int} {size : DeclaredSize} {chunkSize : Nat}

/-! ### The native stream during the upload -/

/-- The stream is registered until the finish call, which answers only after the
task has ended or been aborted. -/
structure Ending (stream : StreamUpload) : Prop where
  registered : stream.registered = true ↔ stream.finishing = .notCalled
  ended : ∀ result, stream.finishing = .answered result →
    stream.task ≠ .running ∨ stream.aborting = true

theorem Ending.released {stream : StreamUpload} (ending : Ending stream)
    {result : Except String Unit} (answered : stream.finishing = .answered result) :
    Released stream := by
  refine ⟨?_, ending.ended result answered⟩
  rw [← Bool.not_eq_true, ending.registered, answered]
  exact nofun

theorem chunk_frame {before after : StreamUpload} {chunk : Chunk} {step : ChunkStep}
    (stepped : StreamUpload.step uploads id size before (step.action chunk) = some after) :
    after.registered = before.registered ∧ after.finishing = before.finishing ∧
      after.task = before.task ∧ after.aborting = before.aborting := by
  cases step with
  | append =>
      cases StreamUpload.step_cases stepped with
      | appendEmpty _ _ => exact ⟨rfl, rfl, rfl, rfl⟩
      | append _ _ _ => exact ⟨rfl, rfl, rfl, rfl⟩
      | appendUnknown _ _ _ => exact ⟨rfl, rfl, rfl, rfl⟩
  | tryUpdate =>
      cases StreamUpload.step_cases stepped with
      | count _ _ _ => exact ⟨rfl, rfl, rfl, rfl⟩
      | exceed _ _ _ => exact ⟨rfl, rfl, rfl, rfl⟩
  | send =>
      cases StreamUpload.step_cases stepped with
      | send _ _ _ => exact ⟨rfl, rfl, rfl, rfl⟩
  | sendFails =>
      cases StreamUpload.step_cases stepped with
      | sendFails _ _ _ => exact ⟨rfl, rfl, rfl, rfl⟩

/-- Only a running task takes steps, and the registry does not see them. -/
theorem task_frame {before after : StreamUpload} {step : TaskStep}
    (stepped : StreamUpload.step uploads id size before step.action = some after) :
    after.registered = before.registered ∧ after.finishing = before.finishing ∧
      before.task = .running ∧ after.aborting = before.aborting := by
  cases step with
  | read room =>
      cases StreamUpload.step_cases stepped with
      | read _ running _ => exact ⟨rfl, rfl, running, rfl⟩
  | complete =>
      cases StreamUpload.step_cases stepped with
      | complete running _ => exact ⟨rfl, rfl, running, rfl⟩
  | fail failure =>
      cases StreamUpload.step_cases stepped with
      | fail _ running => exact ⟨rfl, rfl, running, rfl⟩
  | cancel =>
      cases StreamUpload.step_cases stepped with
      | cancel running _ => exact ⟨rfl, rfl, running, rfl⟩

theorem Ending.chunk {before after : StreamUpload} (ending : Ending before) {chunk : Chunk}
    {step : ChunkStep}
    (stepped : StreamUpload.step uploads id size before (step.action chunk) = some after) :
    Ending after := by
  obtain ⟨registered, finishing, task, aborting⟩ := chunk_frame stepped
  constructor
  · rw [registered, finishing]
    exact ending.registered
  · rw [finishing, task, aborting]
    exact ending.ended

theorem Ending.task {before after : StreamUpload} (ending : Ending before) {step : TaskStep}
    (stepped : StreamUpload.step uploads id size before step.action = some after) :
    Ending after := by
  obtain ⟨registered, finishing, running, aborting⟩ := task_frame stepped
  constructor
  · rw [registered, finishing]
    exact ending.registered
  · intro result answered
    rw [finishing] at answered
    have aborted := (ending.ended result answered).resolve_left fun ended => ended running
    exact .inr (aborting.trans aborted)

theorem Ending.finish {before after : StreamUpload} (ending : Ending before) {step : FinishStep}
    (stepped : StreamUpload.step uploads id size before step.action = some after) :
    Ending after := by
  have registered := ending.registered
  cases step with
  | takeStream =>
      cases StreamUpload.step_cases stepped with
      | takeStream _ _ => exact ⟨by simp, by simp⟩
      | takeUnknown notCalled unregistered =>
          cases unregistered.symm.trans (registered.mpr notCalled)
  | dropSender =>
      cases StreamUpload.step_cases stepped with
      | dropSender took =>
          rw [took] at registered
          exact ⟨by simpa using registered, by simp⟩
  | compare =>
      cases StreamUpload.step_cases stepped with
      | mismatch dropped _ =>
          rw [dropped] at registered
          exact ⟨by simpa using registered, by simp⟩
      | await dropped _ =>
          rw [dropped] at registered
          exact ⟨by simpa using registered, by simp⟩
  | join result =>
      cases StreamUpload.step_cases stepped with
      | join _ awaiting completed =>
          rw [awaiting] at registered
          exact ⟨by simpa using registered, by simp [completed]⟩
      | joinFailed _ failure awaiting failed =>
          rw [awaiting] at registered
          exact ⟨by simpa using registered, by simp [failed]⟩

/-! ### The facade's runs -/

/-- The finish call is made only at the end, and left only when it is over. -/
def Placed (finishing : Finishing) : Place → Prop
  | .finishing _ => True
  | .exited _ => finishing = .notCalled ∨ ∃ result, finishing = .answered result
  | _ => finishing = .notCalled

structure Consistent (uploads : Nat → List Byte → Bool) (id : Int) (size : DeclaredSize)
    (state : State) : Prop where
  reachable : (StreamUpload.system uploads id size).Reachable state.native
  ending : Ending state.native
  placed : Placed state.native.finishing state.place

theorem afterCall_native (state : State) (chunk : Chunk) (native : StreamUpload) :
    (state.afterCall chunk native).native = native := by
  unfold State.afterCall
  split <;> rfl

theorem afterCall_placed {state : State} {chunk : Chunk} {native : StreamUpload}
    (handing : state.place = .handing chunk) (notCalled : native.finishing = .notCalled) :
    Placed native.finishing (state.afterCall chunk native).place := by
  unfold State.afterCall
  split
  · rw [handing]
    exact notCalled
  · exact notCalled
  · exact notCalled

/-! ### What a step can be -/

/-- What the facade does by itself, and where it is then. -/
inductive Turn (size : DeclaredSize) (chunkSize : Nat) (state : State) : Action → Place → Prop
  | allocated (place : state.place = .allocating) : Turn size chunkSize state .allocated .reading
  | ended (place : state.place = .reading) :
      Turn size chunkSize state (.inputRead none) (.closing false)
  | handed (chunk : Chunk) (place : state.place = .reading)
      (within : chunk.bytes.length ≤ chunkSize) (nonempty : chunk.bytes ≠ []) :
      Turn size chunkSize state (.inputRead (some chunk)) (.handing chunk)
  | reported (place : state.place = .reporting) : Turn size chunkSize state .reported .reading
  | closed (place : state.place = .closing false) :
      Turn size chunkSize state .closed (.finishing (state.sent = size.bytes))
  | rethrown (place : state.place = .closing true) :
      Turn size chunkSize state .closed (.exited .threw)

/-- Where the facade is after an exception. -/
inductive Throw (state : State) : Place → Prop
  | allocating (place : state.place = .allocating) : Throw state (.exited .threw)
  | reading (place : state.place = .reading) : Throw state (.closing true)
  | handing (chunk : Chunk) (place : state.place = .handing chunk)
      (idle : state.native.looked = [] ∧ state.native.counted = []) : Throw state (.closing true)
  | reporting (place : state.place = .reporting) : Throw state (.closing true)
  | closing (thrown : Bool) (place : state.place = .closing thrown) : Throw state (.exited .threw)
  | finishing (matched : Bool) (place : state.place = .finishing matched)
      (notCalled : state.native.finishing = .notCalled) :
      Throw state (.exited (if matched then .threw else .declaredMismatch))

inductive Stepped (uploads : Nat → List Byte → Bool) (id : Int) (size : DeclaredSize)
    (chunkSize : Nat) (state : State) : Action → State → Prop
  | turn {action : Action} {place : Place} (turn : Turn size chunkSize state action place) :
      Stepped uploads id size chunkSize state action { state with place }
  | skipped (chunk : Chunk) (place : state.place = .reading) (empty : chunk.bytes = []) :
      Stepped uploads id size chunkSize state (.inputRead (some chunk)) state
  | throws {place : Place} (throw : Throw state place) :
      Stepped uploads id size chunkSize state .throws { state with place }
  | chunk {step : ChunkStep} {native : StreamUpload} (chunk : Chunk)
      (handing : state.place = .handing chunk)
      (stepped : StreamUpload.step uploads id size state.native (step.action chunk) = some native) :
      Stepped uploads id size chunkSize state (.chunk step) (state.afterCall chunk native)
  | finish {step : FinishStep} {native : StreamUpload} (matched : Bool)
      (place : state.place = .finishing matched)
      (stepped : StreamUpload.step uploads id size state.native step.action = some native) :
      Stepped uploads id size chunkSize state (.finish step)
        { state with native, place := finishPlace matched native.finishing }
  | task {step : TaskStep} {native : StreamUpload}
      (stepped : StreamUpload.step uploads id size state.native step.action = some native) :
      Stepped uploads id size chunkSize state (.task step) { state with native }

theorem throw_cases {before after : State}
    (stepped : step uploads id size chunkSize before .throws = some after) :
    ∃ place, Throw before place ∧ after = { before with place } := by
  simp only [step] at stepped
  split at stepped
  · rename_i place
    cases stepped
    exact ⟨_, .allocating place, rfl⟩
  · rename_i place
    cases stepped
    exact ⟨_, .reading place, rfl⟩
  · rename_i chunk place
    split at stepped
    · rename_i idle
      cases stepped
      exact ⟨_, .handing chunk place idle, rfl⟩
    · cases stepped
  · rename_i place
    cases stepped
    exact ⟨_, .reporting place, rfl⟩
  · rename_i thrown place
    cases stepped
    exact ⟨_, .closing thrown place, rfl⟩
  · rename_i matched place
    split at stepped
    · rename_i notCalled
      cases stepped
      exact ⟨_, .finishing matched place notCalled, rfl⟩
    · cases stepped
  · cases stepped

theorem step_cases {before after : State} {action : Action}
    (stepped : step uploads id size chunkSize before action = some after) :
    Stepped uploads id size chunkSize before action after := by
  cases action with
  | allocated =>
      simp only [step] at stepped
      split at stepped
      · rename_i place
        cases stepped
        exact .turn (.allocated place)
      · cases stepped
  | inputRead read =>
      simp only [step] at stepped
      split at stepped
      · rename_i place
        cases stepped
        exact .turn (.ended place)
      · rename_i chunk place
        split at stepped
        · cases stepped
        · rename_i within
          split at stepped
          · rename_i empty
            cases stepped
            exact .skipped chunk place empty
          · rename_i nonempty
            cases stepped
            exact .turn (.handed chunk place (Nat.not_lt.mp within) nonempty)
      · cases stepped
  | chunk cs =>
      simp only [step] at stepped
      split at stepped
      · rename_i chunk handing
        simp only [Option.bind_eq_bind, Option.bind_eq_some_iff] at stepped
        obtain ⟨native, nativeStepped, done⟩ := stepped
        cases done
        exact .chunk chunk handing nativeStepped
      · cases stepped
  | reported =>
      simp only [step] at stepped
      split at stepped
      · rename_i place
        cases stepped
        exact .turn (.reported place)
      · cases stepped
  | closed =>
      simp only [step] at stepped
      split at stepped
      · rename_i place
        cases stepped
        exact .turn (.closed place)
      · rename_i place
        cases stepped
        exact .turn (.rethrown place)
      · cases stepped
  | finish fs =>
      simp only [step] at stepped
      split at stepped
      · rename_i matched place
        simp only [Option.bind_eq_bind, Option.bind_eq_some_iff] at stepped
        obtain ⟨native, nativeStepped, done⟩ := stepped
        cases done
        exact .finish matched place nativeStepped
      · cases stepped
  | task ts =>
      simp only [step, Option.bind_eq_bind, Option.bind_eq_some_iff] at stepped
      obtain ⟨native, nativeStepped, done⟩ := stepped
      cases done
      exact .task nativeStepped
  | throws =>
      obtain ⟨place, throw, same⟩ := throw_cases stepped
      rw [same]
      exact .throws throw

/-! ### What every run keeps -/

theorem Turn.placed {state : State} {action : Action} {place : Place}
    (turn : Turn size chunkSize state action place)
    (placed : Placed state.native.finishing state.place) : Placed state.native.finishing place := by
  cases turn with
  | closed here => trivial
  | rethrown here =>
      rw [here] at placed
      exact .inl placed
  | allocated here | ended here | handed _ here _ _ | reported here =>
      rw [here] at placed
      exact placed

/-- Nothing throws once the native stream is being finished. -/
theorem Throw.notCalled {state : State} {place : Place} (throw : Throw state place)
    (placed : Placed state.native.finishing state.place) :
    state.native.finishing = .notCalled := by
  cases throw with
  | finishing _ _ notCalled => exact notCalled
  | allocating here | reading here | handing _ here _ | reporting here | closing _ here =>
      rw [here] at placed
      exact placed

theorem Throw.placed {state : State} {place : Place} (throw : Throw state place)
    (notCalled : state.native.finishing = .notCalled) : Placed state.native.finishing place := by
  cases throw with
  | reading _ | handing _ _ _ | reporting _ => exact notCalled
  | allocating _ | closing _ _ | finishing _ _ _ => exact .inl notCalled

theorem step_consistent (before : State) (action : Action) (after : State)
    (consistent : Consistent uploads id size before)
    (stepped : step uploads id size chunkSize before action = some after) :
    Consistent uploads id size after := by
  have placed := consistent.placed
  cases step_cases stepped with
  | turn turn => exact { consistent with placed := turn.placed placed }
  | skipped chunk place empty => exact consistent
  | throws throw =>
      exact { consistent with placed := throw.placed (throw.notCalled placed) }
  | chunk chunk handing nativeStepped =>
      rw [handing] at placed
      have notCalled := (chunk_frame nativeStepped).2.1.trans placed
      constructor
      · rw [afterCall_native]
        exact consistent.reachable.step nativeStepped
      · rw [afterCall_native]
        exact consistent.ending.chunk nativeStepped
      · rw [afterCall_native]
        exact afterCall_placed handing notCalled
  | finish matched place nativeStepped =>
      refine ⟨consistent.reachable.step nativeStepped, consistent.ending.finish nativeStepped, ?_⟩
      change Placed _ (finishPlace matched _)
      unfold finishPlace
      split
      · rename_i result answered
        exact .inr ⟨result, answered⟩
      · trivial
  | task nativeStepped =>
      refine ⟨consistent.reachable.step nativeStepped, consistent.ending.task nativeStepped, ?_⟩
      rw [(task_frame nativeStepped).2.1]
      exact placed

theorem consistent_initial :
    Consistent uploads id size (system uploads id size chunkSize).initial where
  reachable := .initial
  ending := ⟨by simp [system, StreamUpload.initial], by simp [system, StreamUpload.initial]⟩
  placed := rfl

theorem reachable_consistent {state : State}
    (reached : (system uploads id size chunkSize).Reachable state) :
    Consistent uploads id size state :=
  reached.invariant consistent_initial step_consistent

/-! ### What skips the finish call -/

/-- A call's step fails exactly where its chunk is not taken. -/
theorem not_failed_iff {before after : StreamUpload} {chunk : Chunk} {cs : ChunkStep}
    (consistent : StreamUpload.Consistent uploads size before)
    (registered : before.registered = true)
    (stepped : StreamUpload.step uploads id size before (cs.action chunk) = some after) :
    (∀ failure, returned before after ≠ some (.error failure)) ↔ Taken size before chunk cs := by
  cases cs with
  | append =>
      cases StreamUpload.step_cases stepped with
      | appendEmpty _ _ => simp [returned, StreamUpload.answer, Taken]
      | append _ _ _ => simp [returned, Taken]
      | appendUnknown _ _ unregistered => cases unregistered.symm.trans registered
  | tryUpdate =>
      cases StreamUpload.step_cases stepped with
      | count _ _ fits =>
          rw [consistent.total chunk] at fits
          simp [returned, Taken, fits]
      | exceed _ _ exceeds =>
          rw [consistent.total chunk] at exceeds
          simp [returned, StreamUpload.answer, Taken, exceeds]
  | send =>
      cases StreamUpload.step_cases stepped with
      | send _ _ _ => simp [returned, StreamUpload.answer, Taken]
  | sendFails =>
      cases StreamUpload.step_cases stepped with
      | sendFails _ _ _ => simp [returned, StreamUpload.answer, Taken]

/-- No exception is on its way past the finish call, nor has one been. -/
def Clean (state : State) : Prop :=
  match state.place with
  | .closing thrown => thrown = false
  | .exited _ => state.native.finishing ≠ .notCalled
  | _ => True

theorem afterCall_clean_iff {state : State} {chunk : Chunk} {native : StreamUpload}
    (handing : state.place = .handing chunk) :
    Clean (state.afterCall chunk native) ↔
      ∀ failure, returned state.native native ≠ some (.error failure) := by
  unfold State.afterCall
  split
  · rename_i waiting
    simp [Clean, handing, waiting]
  · rename_i succeeded
    simp [Clean, succeeded]
  · rename_i failure failed
    simp [Clean, failed]

theorem Turn.clean_iff {state : State} {action : Action} {place : Place}
    (turn : Turn size chunkSize state action place)
    (placed : Placed state.native.finishing state.place) :
    Clean { state with place } ↔ Clean state ∧ Calm size state action := by
  cases turn with
  | rethrown here =>
      rw [here] at placed
      have notCalled : state.native.finishing = .notCalled := placed
      simp [Clean, Calm, here, notCalled]
  | allocated here | ended here | handed _ here _ _ | reported here | closed here =>
      simp [Clean, Calm, here]

theorem Throw.not_clean {state : State} {place : Place} (throw : Throw state place)
    (notCalled : state.native.finishing = .notCalled) : ¬ Clean { state with place } := by
  cases throw with
  | reading _ | handing _ _ _ | reporting _ => exact Bool.noConfusion
  | allocating _ | closing _ _ | finishing _ _ _ => exact fun called => called notCalled

theorem step_clean_iff {before after : State} {action : Action}
    (consistent : Consistent uploads id size before)
    (stepped : step uploads id size chunkSize before action = some after) :
    Clean after ↔ Clean before ∧ Calm size before action := by
  have placed := consistent.placed
  cases step_cases stepped with
  | turn turn => exact turn.clean_iff placed
  | skipped chunk place empty => exact (and_iff_left trivial).symm
  | throws throw =>
      simp only [Calm, and_false, iff_false]
      exact throw.not_clean (throw.notCalled placed)
  | chunk chunk handing nativeStepped =>
      rw [handing] at placed
      have registered := consistent.ending.registered.mpr placed
      have native_consistent : StreamUpload.Consistent uploads size before.native :=
        consistent.reachable.invariant StreamUpload.consistent_initial
          StreamUpload.step_consistent
      rw [afterCall_clean_iff handing, not_failed_iff native_consistent registered nativeStepped]
      simp [Clean, Calm, handing]
  | @finish _ native matched place nativeStepped =>
      simp only [Clean, Calm, place, finishPlace, and_self, iff_true]
      cases native.finishing <;> simp
  | task nativeStepped => simp only [Clean, Calm, (task_frame nativeStepped).2.1, and_true]

/-- Once the upload is over, its native stream is released exactly if nothing
threw before the finish call. -/
theorem released_iff_calm {trace : List Action} {state : State} {outcome : Outcome}
    (ran : (system uploads id size chunkSize).run trace = some state)
    (exited : state.place = .exited outcome) :
    Released state.native ↔
      System.Along (Calm size) (system uploads id size chunkSize)
        (system uploads id size chunkSize).initial trace := by
  have consistent := reachable_consistent (System.reachable_of_run ran)
  have initially : Clean (system uploads id size chunkSize).initial := trivial
  rw [← System.run_clean_iff initially (fun _ _ _ reached stepped =>
    step_clean_iff (reachable_consistent reached) stepped) ran]
  have ending := consistent.ending
  have placed := consistent.placed
  rw [exited] at placed
  simp only [Clean, exited]
  constructor
  · intro released notCalled
    cases (ending.registered.mpr notCalled).symm.trans released.1
  · intro called
    rcases placed with notCalled | ⟨result, answered⟩
    · exact absurd notCalled called
    · exact ending.released answered

end Runs

def oneChunkTrace (chunk : Chunk) : List Action :=
  [.allocated, .inputRead (some chunk), .chunk .append, .chunk .tryUpdate, .chunk .send,
    .task (.read 8), .reported, .inputRead none, .closed, .finish .takeStream,
    .finish .dropSender, .finish .compare, .task .complete, .finish (.join (.ok ()))]

/-- An upload whose progress callback throws. -/
def callbackThrowsTrace (chunk : Chunk) : List Action :=
  [.allocated, .inputRead (some chunk), .chunk .append, .chunk .tryUpdate, .chunk .send,
    .throws, .closed]

def smallUpload : System State Action :=
  system (fun size yielded => decide (size ≤ yielded.length)) 0 ⟨3, by decide⟩ 4096

theorem released_iff_calm_oneChunk :
    ∃ state, smallUpload.run (oneChunkTrace ⟨[1, 2, 3], by decide⟩) = some state ∧
      (Released state.native ↔ System.Along (Calm ⟨3, by decide⟩) smallUpload smallUpload.initial
        (oneChunkTrace ⟨[1, 2, 3], by decide⟩)) := by
  have ran : smallUpload.run (oneChunkTrace ⟨[1, 2, 3], by decide⟩) =
      some ((smallUpload.run (oneChunkTrace ⟨[1, 2, 3], by decide⟩)).get rfl) :=
    (Option.some_get _).symm
  exact ⟨_, ran, released_iff_calm ran rfl⟩

/-- After the callback has thrown, the stream is registered and its task waits. -/
theorem callbackThrows_not_released :
    ∃ state, smallUpload.run (callbackThrowsTrace ⟨[1, 2, 3], by decide⟩) = some state ∧
      state.place = .exited .threw ∧ state.native.registered = true ∧
      state.native.task = .running ∧ ¬ Released state.native := by
  have ran : smallUpload.run (callbackThrowsTrace ⟨[1, 2, 3], by decide⟩) =
      some ((smallUpload.run (callbackThrowsTrace ⟨[1, 2, 3], by decide⟩)).get rfl) :=
    (Option.some_get _).symm
  refine ⟨_, ran, rfl, rfl, rfl, ?_⟩
  intro released
  cases released.1

end UploadStream
end Kotlogramme.Files
