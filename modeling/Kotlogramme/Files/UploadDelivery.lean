/-
What an upload of an input stream delivers.

The facade makes its native calls one after the other, and each of them looks the
native stream up once.  The chunks therefore go into the channel in the order in which
they were read, and what grammers reads out of it is the input.
-/

import Kotlogramme.Files.UploadStream

namespace Kotlogramme.Files
namespace UploadStream

/-! ### One call after the other -/

/-- A call that is under way does not look its stream up again. -/
def callsAgain (state : State) : Action → Bool
  | .chunk .append => !(state.native.looked.isEmpty && state.native.counted.isEmpty)
  | _ => false

section Serial

variable (uploads : Nat → List Byte → Bool) (id : Int) (size : DeclaredSize) (chunkSize : Nat)

def serialStep (state : State) (action : Action) : Option State :=
  if callsAgain state action then none else step uploads id size chunkSize state action

def serial : System State Action where
  initial := (system uploads id size chunkSize).initial
  step := serialStep uploads id size chunkSize

end Serial

/-- The chunk that a step has read. -/
def Action.chunkRead : Action → List Chunk
  | .inputRead (some given) => [given]
  | _ => []

/-- The bytes that the input has given. -/
def bytesRead (trace : List Action) : List Byte := contents (trace.flatMap Action.chunkRead)

/-- The input has reported its end. -/
def InputEnded (trace : List Action) : Prop := Action.inputRead none ∈ trace

section Runs

variable {uploads : Nat → List Byte → Bool} {id : Int} {size : DeclaredSize} {chunkSize : Nat}

theorem serialStep_eq_some {before after : State} {action : Action} :
    serialStep uploads id size chunkSize before action = some after ↔
      callsAgain before action = false ∧
        step uploads id size chunkSize before action = some after := by
  unfold serialStep
  cases callsAgain before action <;> simp

theorem run_of_serial {trace : List Action} {state : State}
    (ran : (serial uploads id size chunkSize).run trace = some state) :
    (system uploads id size chunkSize).run trace = some state :=
  System.runFrom_of_steps (fun _ _ _ stepped => (serialStep_eq_some.mp stepped).2) ran

theorem bytesRead_append (trace : List Action) (action : Action) :
    bytesRead (trace ++ [action]) = bytesRead trace ++ contents action.chunkRead := by
  simp [bytesRead, List.flatMap_append]

theorem InputEnded.append {trace : List Action} (ended : InputEnded trace) (action : Action) :
    InputEnded (trace ++ [action]) :=
  List.mem_append_left _ ended

/-! ### Where the bytes are that were read -/

/-- No call is under way, and every byte that was read has gone into the channel. -/
structure Handed (size : DeclaredSize) (read : List Byte) (native : StreamUpload) (sent : Nat) :
    Prop where
  looked : native.looked = []
  counted : native.counted = []
  entered : contents native.entered = read
  accepted : native.accepted = read.length
  sent : sent = read.length
  within : read.length ≤ size.bytes

/-- How far the call for a chunk has come. -/
inductive Calling (chunk : Chunk) (native : StreamUpload) (before : Nat) : Prop
  | waiting (looked : native.looked = []) (counted : native.counted = [])
      (accepted : native.accepted = before)
  | looked (looked : native.looked = [chunk]) (counted : native.counted = [])
      (accepted : native.accepted = before)
  | counted (looked : native.looked = []) (counted : native.counted = [chunk])
      (accepted : native.accepted = before + chunk.bytes.length)

/-- Every byte that was read before the chunk at hand has gone into the channel. -/
structure Handing (size : DeclaredSize) (read : List Byte) (chunk : Chunk) (state : State) :
    Prop where
  nonempty : chunk.bytes ≠ []
  entered : read = contents state.native.entered ++ chunk.bytes
  sent : state.sent = (contents state.native.entered).length
  calling : Calling chunk state.native state.sent

/-- The invariant of a run that has read some bytes, until something throws. -/
def Delivering (size : DeclaredSize) (trace : List Action) (state : State) : Prop :=
  match state.place with
  | .allocating | .reading | .reporting =>
      Handed size (bytesRead trace) state.native state.sent
  | .handing chunk => Handing size (bytesRead trace) chunk state
  | .closing thrown =>
      thrown = false → InputEnded trace ∧ Handed size (bytesRead trace) state.native state.sent
  | .finishing matched =>
      matched = decide ((bytesRead trace).length = size.bytes) ∧ InputEnded trace ∧
        Handed size (bytesRead trace) state.native state.sent
  | .exited .threw => True
  | .exited outcome =>
      InputEnded trace ∧ Handed size (bytesRead trace) state.native state.sent ∧
        (outcome matches .declaredMismatch ↔ (bytesRead trace).length ≠ size.bytes)

/-! ### What a call keeps -/

section Calls

variable {before after : StreamUpload} {chunk : Chunk} {sent : Nat}

theorem task_keeps {step : TaskStep}
    (stepped : StreamUpload.step uploads id size before step.action = some after) :
    after.looked = before.looked ∧ after.counted = before.counted ∧
      after.entered = before.entered ∧ after.accepted = before.accepted := by
  cases step with
  | read room =>
      cases StreamUpload.step_cases stepped with
      | read _ _ _ => exact ⟨rfl, rfl, rfl, rfl⟩
  | complete =>
      cases StreamUpload.step_cases stepped with
      | complete _ _ => exact ⟨rfl, rfl, rfl, rfl⟩
  | fail failure =>
      cases StreamUpload.step_cases stepped with
      | fail _ _ => exact ⟨rfl, rfl, rfl, rfl⟩
  | cancel =>
      cases StreamUpload.step_cases stepped with
      | cancel _ _ => exact ⟨rfl, rfl, rfl, rfl⟩

theorem finish_keeps {step : FinishStep}
    (stepped : StreamUpload.step uploads id size before step.action = some after) :
    after.looked = before.looked ∧ after.counted = before.counted ∧
      after.entered = before.entered ∧ after.accepted = before.accepted := by
  cases step with
  | takeStream =>
      cases StreamUpload.step_cases stepped with
      | takeStream _ _ => exact ⟨rfl, rfl, rfl, rfl⟩
      | takeUnknown _ _ => exact ⟨rfl, rfl, rfl, rfl⟩
  | dropSender =>
      cases StreamUpload.step_cases stepped with
      | dropSender _ => exact ⟨rfl, rfl, rfl, rfl⟩
  | compare =>
      cases StreamUpload.step_cases stepped with
      | mismatch _ _ => exact ⟨rfl, rfl, rfl, rfl⟩
      | await _ _ => exact ⟨rfl, rfl, rfl, rfl⟩
  | join registered =>
      cases StreamUpload.step_cases stepped with
      | join _ _ _ => exact ⟨rfl, rfl, rfl, rfl⟩
      | joinFailed _ _ _ _ => exact ⟨rfl, rfl, rfl, rfl⟩

theorem Handed.frame {read : List Byte} (handed : Handed size read before sent)
    (same : after.looked = before.looked ∧ after.counted = before.counted ∧
      after.entered = before.entered ∧ after.accepted = before.accepted) :
    Handed size read after sent := by
  obtain ⟨looked, counted, entered, accepted⟩ := same
  exact {
    looked := looked.trans handed.looked
    counted := counted.trans handed.counted
    entered := by rw [entered, handed.entered]
    accepted := accepted.trans handed.accepted
    sent := handed.sent
    within := handed.within }

theorem Calling.frame (calling : Calling chunk before sent)
    (same : after.looked = before.looked ∧ after.counted = before.counted ∧
      after.entered = before.entered ∧ after.accepted = before.accepted) :
    Calling chunk after sent := by
  obtain ⟨looked, counted, -, accepted⟩ := same
  cases calling with
  | waiting none idle held =>
      exact .waiting (looked.trans none) (counted.trans idle) (accepted.trans held)
  | looked one idle held =>
      exact .looked (looked.trans one) (counted.trans idle) (accepted.trans held)
  | counted none one held =>
      exact .counted (looked.trans none) (counted.trans one) (accepted.trans held)

theorem Calling.of_looked (calling : Calling chunk before sent) {held : Chunk}
    (member : held ∈ before.looked) :
    before.looked = [chunk] ∧ before.counted = [] ∧ before.accepted = sent := by
  cases calling with
  | looked one idle accepted => exact ⟨one, idle, accepted⟩
  | waiting none _ _ | counted none _ _ =>
      rw [none] at member
      cases member

theorem Calling.of_counted (calling : Calling chunk before sent) {held : Chunk}
    (member : held ∈ before.counted) :
    before.looked = [] ∧ before.counted = [chunk] ∧
      before.accepted = sent + chunk.bytes.length := by
  cases calling with
  | counted none one accepted => exact ⟨none, one, accepted⟩
  | waiting _ idle _ | looked _ idle _ =>
      rw [idle] at member
      cases member

end Calls

/-- What a call for the chunk at hand can come to: it is still under way, it has
handed the chunk over, or it has failed. -/
inductive Called (size : DeclaredSize) (read : List Byte) (chunk : Chunk) (after : State) : Prop
  | waiting (place : after.place = .handing chunk) (handing : Handing size read chunk after)
  | handed (place : after.place = .reporting) (handed : Handed size read after.native after.sent)
  | failed (place : after.place = .closing true)

theorem handing_chunk {read : List Byte} {state : State} {chunk : Chunk} {cs : ChunkStep}
    {native : StreamUpload} (consistent : StreamUpload.Consistent uploads size state.native)
    (place : state.place = .handing chunk) (handing : Handing size read chunk state)
    (once : callsAgain state (.chunk cs) = false)
    (stepped : StreamUpload.step uploads id size state.native (cs.action chunk) = some native) :
    Called size read chunk (state.afterCall chunk native) := by
  have calling := handing.calling
  cases cs with
  | append =>
      have idle : state.native.looked = [] ∧ state.native.counted = [] := by
        simpa [callsAgain] using once
      have accepted : state.native.accepted = state.sent := by
        cases calling with
        | waiting _ _ accepted => exact accepted
        | looked one _ _ => simp [one] at idle
        | counted _ one _ => simp [one] at idle
      cases StreamUpload.step_cases stepped with
      | appendEmpty _ empty => exact absurd empty handing.nonempty
      | append _ _ _ =>
          have waits : state.afterCall chunk { state.native with
              looked := state.native.looked ++ [chunk] } =
                { state with native := { state.native with
                  looked := state.native.looked ++ [chunk] } } := by
            simp [State.afterCall, returned]
          rw [waits]
          refine .waiting place { handing with calling := .looked ?_ idle.2 accepted }
          rw [idle.1, List.nil_append]
      | appendUnknown _ _ _ =>
          exact .failed (by simp [State.afterCall, returned, StreamUpload.answer])
  | tryUpdate =>
      cases StreamUpload.step_cases stepped with
      | count _ held fits =>
          obtain ⟨one, idle, accepted⟩ := calling.of_looked held
          have waits : state.afterCall chunk { state.native with
              looked := state.native.looked.erase chunk
              accepted := (state.native.accepted + chunk.bytes.length) % 2 ^ 64
              counted := state.native.counted ++ [chunk]
              acceptedChunks := state.native.acceptedChunks ++ [chunk] } =
                { state with native := { state.native with
                  looked := state.native.looked.erase chunk
                  accepted := (state.native.accepted + chunk.bytes.length) % 2 ^ 64
                  counted := state.native.counted ++ [chunk]
                  acceptedChunks := state.native.acceptedChunks ++ [chunk] } } := by
            simp [State.afterCall, returned]
          rw [waits]
          refine .waiting place { handing with calling := .counted ?_ ?_ ?_ }
          · simp [one]
          · simp [idle]
          · change (state.native.accepted + chunk.bytes.length) % 2 ^ 64 = _
            rw [consistent.total chunk, accepted]
      | exceed _ _ _ =>
          exact .failed (by simp [State.afterCall, returned, StreamUpload.answer])
  | send =>
      cases StreamUpload.step_cases stepped with
      | send _ counted _ =>
          obtain ⟨none, one, accepted⟩ := calling.of_counted counted
          have total : read.length = state.sent + chunk.bytes.length := by
            rw [handing.entered, List.length_append, handing.sent]
          have bounded := consistent.bounded
          refine .handed (by simp [State.afterCall, returned, StreamUpload.answer]) ?_
          constructor
          case looked => simp [afterCall_native, StreamUpload.answer, none]
          case counted => simp [afterCall_native, StreamUpload.answer, one]
          case entered => simp [afterCall_native, StreamUpload.answer, handing.entered]
          case accepted => simp [afterCall_native, StreamUpload.answer, accepted, total]
          case sent => simp [State.afterCall, returned, StreamUpload.answer, total]
          case within => omega
  | sendFails =>
      cases StreamUpload.step_cases stepped with
      | sendFails _ _ _ =>
          exact .failed (by simp [State.afterCall, returned, StreamUpload.answer])

theorem Called.delivering {trace : List Action} {chunk : Chunk} {after : State}
    (called : Called size (bytesRead trace) chunk after) : Delivering size trace after := by
  cases called with
  | waiting place handing => simpa only [Delivering, place] using handing
  | handed place handed => simpa only [Delivering, place] using handed
  | failed place => simp [Delivering, place]

/-! ### What a run keeps -/

theorem turn_delivering {trace : List Action} {before : State} {action : Action} {place : Place}
    (turn : Turn size chunkSize before action place) (delivering : Delivering size trace before) :
    Delivering size (trace ++ [action]) { before with place } := by
  cases turn with
  | allocated here | reported here =>
      simp only [Delivering, here] at delivering
      simpa [Delivering, bytesRead_append, Action.chunkRead] using delivering
  | ended here =>
      simp only [Delivering, here] at delivering
      simp only [Delivering, bytesRead_append, Action.chunkRead, contents_nil, List.append_nil]
      exact fun _ => ⟨List.mem_append_right _ List.mem_cons_self, delivering⟩
  | handed chunk here within nonempty =>
      simp only [Delivering, here] at delivering
      have read : bytesRead (trace ++ [.inputRead (some chunk)]) =
          bytesRead trace ++ chunk.bytes := by
        rw [bytesRead_append]
        simp [Action.chunkRead]
      simp only [Delivering, read]
      refine ⟨nonempty, by rw [delivering.entered], ?_, ?_⟩
      · rw [delivering.entered]
        exact delivering.sent
      · exact .waiting delivering.looked delivering.counted
          (delivering.accepted.trans delivering.sent.symm)
  | closed here =>
      simp only [Delivering, here] at delivering
      obtain ⟨ended, handed⟩ := delivering trivial
      simp only [Delivering, bytesRead_append, Action.chunkRead, contents_nil, List.append_nil]
      exact ⟨by rw [handed.sent], ended.append _, handed⟩
  | rethrown here => simp only [Delivering]

theorem throw_delivering {trace : List Action} {before : State} {place : Place}
    (throw : Throw before place) (delivering : Delivering size trace before) :
    Delivering size (trace ++ [.throws]) { before with place } := by
  cases throw with
  | allocating here | closing thrown here => simp only [Delivering]
  | reading here | handing chunk here idle | reporting here => simp [Delivering]
  | finishing matched here notCalled =>
      simp only [Delivering, here] at delivering
      obtain ⟨same, ended, handed⟩ := delivering
      cases matched with
      | true => simp only [Delivering, if_true]
      | false =>
          have differ : (bytesRead trace).length ≠ size.bytes := of_decide_eq_false same.symm
          simp only [Delivering, bytesRead_append, Action.chunkRead, contents_nil, List.append_nil,
            Bool.false_eq_true, if_false]
          exact ⟨ended.append _, handed, iff_of_true trivial differ⟩

theorem finishPlace_delivering {trace : List Action} {native : StreamUpload} {sent : Nat}
    {matched : Bool} (same : matched = decide ((bytesRead trace).length = size.bytes))
    (ended : InputEnded trace) (handed : Handed size (bytesRead trace) native sent) :
    Delivering size trace
      { native, place := finishPlace matched native.finishing, sent } := by
  unfold finishPlace
  split
  · rename_i result answered
    cases matched with
    | true =>
        have equal : (bytesRead trace).length = size.bytes := of_decide_eq_true same.symm
        simp [Delivering, ended, handed, equal]
    | false =>
        have differ : (bytesRead trace).length ≠ size.bytes := of_decide_eq_false same.symm
        simp [Delivering, ended, handed, differ]
  · exact ⟨same, ended, handed⟩

theorem task_delivering {trace : List Action} {state : State} {step : TaskStep}
    {native : StreamUpload}
    (stepped : StreamUpload.step uploads id size state.native step.action = some native)
    (delivering : Delivering size trace state) : Delivering size trace { state with native } := by
  have same := task_keeps stepped
  cases here : state.place with
  | allocating | reading | reporting =>
      simp only [Delivering, here] at delivering ⊢
      exact delivering.frame same
  | handing chunk =>
      simp only [Delivering, here] at delivering ⊢
      exact { delivering with
        entered := by rw [delivering.entered, same.2.2.1]
        sent := by rw [delivering.sent, same.2.2.1]
        calling := delivering.calling.frame same }
  | closing thrown =>
      simp only [Delivering, here] at delivering ⊢
      exact fun calm => (delivering calm).imp_right fun handed => handed.frame same
  | finishing matched =>
      simp only [Delivering, here] at delivering ⊢
      exact delivering.imp_right fun left => left.imp_right fun handed => handed.frame same
  | exited outcome =>
      cases outcome with
      | threw => simp only [Delivering]
      | declaredMismatch | finished result =>
          simp only [Delivering, here] at delivering ⊢
          obtain ⟨ended, handed, differ⟩ := delivering
          exact ⟨ended, handed.frame same, differ⟩

theorem step_delivering {trace : List Action} {before after : State} {action : Action}
    (consistent : Consistent uploads id size before) (delivering : Delivering size trace before)
    (once : callsAgain before action = false)
    (stepped : step uploads id size chunkSize before action = some after) :
    Delivering size (trace ++ [action]) after := by
  cases step_cases stepped with
  | turn turn => exact turn_delivering turn delivering
  | throws throw => exact throw_delivering throw delivering
  | skipped chunk here empty =>
      have read : bytesRead (trace ++ [.inputRead (some chunk)]) = bytesRead trace := by
        rw [bytesRead_append]
        simp [Action.chunkRead, empty]
      simp only [Delivering, here] at delivering
      simpa only [Delivering, here, read] using delivering
  | @chunk cs _ chunk here nativeStepped =>
      simp only [Delivering, here] at delivering
      have native : StreamUpload.Consistent uploads size before.native :=
        consistent.reachable.invariant StreamUpload.consistent_initial
          StreamUpload.step_consistent
      have silent : bytesRead (trace ++ [.chunk cs]) = bytesRead trace := by
        simp [bytesRead_append, Action.chunkRead]
      have called := handing_chunk native here delivering once nativeStepped
      rw [← silent] at called
      exact called.delivering
  | finish matched here nativeStepped =>
      simp only [Delivering, here] at delivering
      obtain ⟨same, ended, handed⟩ := delivering
      refine finishPlace_delivering ?_ (ended.append _) ?_
      · simpa [bytesRead_append, Action.chunkRead] using same
      · simpa [bytesRead_append, Action.chunkRead] using handed.frame (finish_keeps nativeStepped)
  | @task step native nativeStepped =>
      have kept := task_delivering nativeStepped delivering
      simpa [Delivering, bytesRead_append, Action.chunkRead, InputEnded] using kept

theorem reachable_of_serial {state : State}
    (reached : (serial uploads id size chunkSize).Reachable state) :
    (system uploads id size chunkSize).Reachable state := by
  induction reached with
  | initial => exact .initial
  | step _ stepped earlier => exact earlier.step (serialStep_eq_some.mp stepped).2

theorem consistent_of_serial {state : State}
    (reached : (serial uploads id size chunkSize).Reachable state) :
    Consistent uploads id size state :=
  reachable_consistent (reachable_of_serial reached)

theorem delivering_of_run {trace : List Action} {state : State}
    (ran : (serial uploads id size chunkSize).run trace = some state) :
    Delivering size trace state := by
  refine System.run_history ?_ ?_ ran
  · exact ⟨rfl, rfl, rfl, rfl, rfl, Nat.zero_le _⟩
  · intro earlier before action after ranBefore delivering stepped
    obtain ⟨once, stepped⟩ := serialStep_eq_some.mp stepped
    exact step_delivering (consistent_of_serial (System.reachable_of_run ranBefore)) delivering
      once stepped

/-! ### How an upload ends -/

/-- What the finish call has answered where the upload is over. -/
def Answered (state : State) : Prop :=
  match state.place with
  | .exited .threw => state.native.finishing = .notCalled
  | .exited (.finished result) => state.native.finishing = .answered result
  | _ => True

theorem afterCall_place {state : State} {chunk : Chunk} (handing : state.place = .handing chunk)
    (native : StreamUpload) :
    (state.afterCall chunk native).place = .handing chunk ∨
      (state.afterCall chunk native).place = .reporting ∨
      (state.afterCall chunk native).place = .closing true := by
  unfold State.afterCall
  split
  · exact .inl handing
  · exact .inr (.inl rfl)
  · exact .inr (.inr rfl)

theorem step_answered (before : State) (action : Action) (after : State)
    (kept : Consistent uploads id size before ∧ Answered before)
    (stepped : step uploads id size chunkSize before action = some after) :
    Consistent uploads id size after ∧ Answered after := by
  obtain ⟨consistent, answered⟩ := kept
  refine ⟨step_consistent before action after consistent stepped, ?_⟩
  have placed := consistent.placed
  cases step_cases stepped with
  | turn turn =>
      cases turn with
      | allocated | ended | handed | reported | closed => trivial
      | rethrown here =>
          rw [here] at placed
          exact placed
  | skipped chunk here empty => exact answered
  | throws throw =>
      have notCalled := throw.notCalled placed
      cases throw with
      | allocating | closing => exact notCalled
      | reading | handing | reporting => trivial
      | finishing matched =>
          cases matched with
          | true => exact notCalled
          | false => trivial
  | @chunk _ native chunk here nativeStepped =>
      unfold Answered
      rcases afterCall_place here native with place | place | place <;> rw [place] <;> trivial
  | @finish _ native matched here nativeStepped =>
      unfold Answered finishPlace
      cases answer : native.finishing with
      | answered result => cases matched <;> simp
      | notCalled | took | dropped | awaiting => trivial
  | @task _ native nativeStepped =>
      have same := (task_frame nativeStepped).2.1
      unfold Answered at answered ⊢
      simpa only [same] using answered

theorem answered_of_run {trace : List Action} {state : State}
    (ran : (serial uploads id size chunkSize).run trace = some state) : Answered state := by
  have reached := System.reachable_of_run (run_of_serial ran)
  have kept : Consistent uploads id size state ∧ Answered state :=
    reached.invariant ⟨consistent_initial, trivial⟩ step_answered
  exact kept.2

/-- What an upload that succeeds has sent is its input, in order and whole. -/
theorem delivers_input
    (readsAll : ∀ size yielded, uploads size yielded = true → size ≤ yielded.length)
    {trace : List Action} {state : State}
    (ran : (serial uploads id size chunkSize).run trace = some state)
    (succeeded : state.place = .exited (.finished (.ok ()))) :
    state.native.yielded = bytesRead trace ∧ (bytesRead trace).length = size.bytes ∧
      InputEnded trace := by
  have native : StreamUpload.Consistent uploads size state.native :=
    (consistent_of_serial (System.reachable_of_run ran)).reachable.invariant
      StreamUpload.consistent_initial StreamUpload.step_consistent
  have answered := answered_of_run ran
  have delivering := delivering_of_run ran
  simp only [Answered, Delivering, succeeded] at answered delivering
  obtain ⟨ended, handed, -⟩ := delivering
  obtain ⟨length, yielded, -⟩ :=
    native.all_sent (readsAll _ _ (native.completed (native.finished answered)))
  rw [handed.entered] at yielded
  exact ⟨yielded, by rw [← yielded, length], ended⟩

/-- The task is over once it has read as much as is declared. -/
def readingAll (size : DeclaredSize) : System State Action :=
  serial (fun size yielded => decide (size ≤ yielded.length)) 0 size 4096

/-- Two reads with bytes and one without, the last chunk sent after a read of the
task. -/
def twoChunks (first empty last : Chunk) : List Action :=
  [.allocated, .inputRead (some first), .chunk .append, .chunk .tryUpdate, .chunk .send,
    .reported, .inputRead (some empty), .inputRead (some last), .chunk .append,
    .task (.read 8), .chunk .tryUpdate, .chunk .send, .reported, .inputRead none, .closed,
    .finish .takeStream, .finish .dropSender, .task (.read 8), .finish .compare,
    .task .complete, .finish (.join (.ok ()))]

theorem delivers_input_twoChunks :
    ∃ state, (readingAll ⟨3, by decide⟩).run
        (twoChunks ⟨[1, 2], by decide⟩ ⟨[], by decide⟩ ⟨[3], by decide⟩) = some state ∧
      state.place = .exited (.finished (.ok ())) ∧ state.native.yielded = [1, 2, 3] := by
  have ran : (readingAll ⟨3, by decide⟩).run
      (twoChunks ⟨[1, 2], by decide⟩ ⟨[], by decide⟩ ⟨[3], by decide⟩) =
        some (((readingAll ⟨3, by decide⟩).run
          (twoChunks ⟨[1, 2], by decide⟩ ⟨[], by decide⟩ ⟨[3], by decide⟩)).get rfl) :=
    (Option.some_get _).symm
  have delivered := delivers_input (fun _ _ reads => of_decide_eq_true reads) ran rfl
  exact ⟨_, ran, rfl, delivered.1⟩

end Runs
end UploadStream
end Kotlogramme.Files
