/-
One streamed upload: its chunks, the task that reads them, and its end.

A call that hands over a chunk looks the stream up, adds the chunk to the
accepted counter if the declared size allows it, and then waits for room in the
channel.  The upload task reads the other end of the channel.  Finishing takes
the stream out of the registry and compares the counter before it waits for the
task.  A run starts where the begin call has registered the stream.
-/

import Kotlogramme.Foundation.LittleEndian
import Kotlogramme.Foundation.Transition
import Mathlib.Algebra.Group.Nat.Defs
import Mathlib.Data.List.Flatten
import Mathlib.Data.List.Perm.Basic

namespace Kotlogramme.Files

/-- A size declared by the JVM, as a `Long` that is not negative. -/
structure DeclaredSize where
  bytes : Nat
  fits : bytes < 2 ^ 63

/-- The bytes of one call; no allocation is longer than `isize::MAX`. -/
structure Chunk where
  bytes : List Byte
  fits : bytes.length < 2 ^ 63
  deriving DecidableEq

def contents (chunks : List Chunk) : List Byte := chunks.flatMap Chunk.bytes

@[simp] theorem contents_nil : contents [] = [] := rfl

@[simp] theorem contents_cons (chunk : Chunk) (rest : List Chunk) :
    contents (chunk :: rest) = chunk.bytes ++ contents rest :=
  List.flatMap_cons

@[simp] theorem contents_append (first second : List Chunk) :
    contents (first ++ second) = contents first ++ contents second :=
  List.flatMap_append

theorem length_contents_of_perm {first second : List Chunk} (perm : first.Perm second) :
    (contents first).length = (contents second).length :=
  (perm.flatMap_right _).length_eq

/-- Chunks that are not empty and yet hold no bytes are none. -/
theorem eq_nil_of_contents {chunks : List Chunk} (nonempty : ∀ chunk ∈ chunks, chunk.bytes ≠ [])
    (none : (contents chunks).length = 0) : chunks = [] := by
  cases chunks with
  | nil => rfl
  | cons chunk rest =>
      rw [contents_cons, List.length_append, Nat.add_eq_zero_iff] at none
      exact absurd (List.length_eq_zero_iff.mp none.1) (nonempty chunk (List.mem_cons_self ..))

/-! ### The reader -/

def streamChannelCapacity : Nat := 4

/-- `ChannelReader` apart from its end of the channel. -/
structure ChannelReader where
  current : List Byte
  position : Nat

namespace ChannelReader

def unread (reader : ChannelReader) : List Byte := reader.current.drop reader.position

def handOver (reader : ChannelReader) (room : Nat) : List Byte × ChannelReader :=
  let available := reader.current.drop reader.position
  let take := min available.length room
  let position := reader.position + take
  (available.take take,
    if position = reader.current.length then { current := [], position := 0 }
    else { reader with position })

end ChannelReader

inductive Poll
  | pending
  | ready (bytes : List Byte)

def Poll.bytes : Poll → List Byte
  | .pending => []
  | .ready bytes => bytes

/-- `poll_read` over the chunks in the channel, which is `closed` once no
sender is left. -/
def pollRead (room : Nat) (closed : Bool) :
    ChannelReader → List Chunk → Poll × ChannelReader × List Chunk
  | reader, [] =>
      if reader.position < reader.current.length then
        let (bytes, reader) := reader.handOver room
        (.ready bytes, reader, [])
      else (if closed then .ready [] else .pending, reader, [])
  | reader, chunk :: rest =>
      if reader.position < reader.current.length then
        let (bytes, reader) := reader.handOver room
        (.ready bytes, reader, chunk :: rest)
      else if chunk.bytes = [] then pollRead room closed reader rest
      else pollRead room closed { current := chunk.bytes, position := 0 } rest

theorem handOver_unread (reader : ChannelReader) (room : Nat) :
    (reader.handOver room).1 ++ (reader.handOver room).2.unread = reader.unread := by
  have parts := List.take_append_drop (min reader.unread.length room) reader.unread
  unfold ChannelReader.handOver ChannelReader.unread at *
  dsimp only
  by_cases last : reader.position + min (reader.current.drop reader.position).length room =
      reader.current.length
  · rw [if_pos last]
    rw [List.drop_drop, last, List.drop_length] at parts
    exact parts
  · rw [if_neg last]
    rw [List.drop_drop] at parts
    exact parts

/-- A poll moves bytes to its caller and keeps the rest in order. -/
theorem pollRead_unread (room : Nat) (closed : Bool) (reader : ChannelReader)
    (queue : List Chunk) :
    (pollRead room closed reader queue).1.bytes ++ (pollRead room closed reader queue).2.1.unread ++
        contents (pollRead room closed reader queue).2.2 =
      reader.unread ++ contents queue := by
  induction queue generalizing reader with
  | nil =>
      unfold pollRead
      by_cases more : reader.position < reader.current.length
      · rw [if_pos more]
        exact congrArg (· ++ contents []) (handOver_unread reader room)
      · rw [if_neg more]
        cases closed <;> rfl
  | cons chunk rest ih =>
      unfold pollRead
      by_cases more : reader.position < reader.current.length
      · rw [if_pos more]
        exact congrArg (· ++ contents (chunk :: rest)) (handOver_unread reader room)
      · have read : reader.unread = [] := List.drop_eq_nil_of_le (Nat.le_of_not_lt more)
        rw [if_neg more, read, List.nil_append, contents_cons]
        by_cases empty : chunk.bytes = []
        · rw [if_pos empty, ih, read, empty]
        · rw [if_neg empty, ih]
          rfl

/-! ### The stream -/

inductive Task
  | running
  | completed
  | failed (failure : String)
  | cancelled
  deriving DecidableEq

/-- How far `upload_stream_finish` has come; `took` says that it holds the stream
and its sender. -/
inductive Finishing
  | notCalled
  | took
  | dropped
  | awaiting
  | answered (result : Except String Unit)

/-- A call is in `looked` once it holds a sender, and in `counted` from when it
has counted its chunk to when it has sent it.  `acceptedChunks`, `entered` and
`yielded` record what was counted, went into the channel and came out of it. -/
structure StreamUpload where
  registered : Bool
  accepted : Nat
  looked : List Chunk
  counted : List Chunk
  queue : List Chunk
  reader : ChannelReader
  sent : Nat
  task : Task
  aborting : Bool
  finishing : Finishing
  yielded : List Byte
  acceptedChunks : List Chunk
  entered : List Chunk
  answered : List (Chunk × Except String Unit)

namespace StreamUpload

def closed (stream : StreamUpload) : Bool :=
  !stream.registered && stream.looked.isEmpty && stream.counted.isEmpty &&
    match stream.finishing with
    | .took => false
    | _ => true

def initial : StreamUpload where
  registered := true
  accepted := 0
  looked := []
  counted := []
  queue := []
  reader := { current := [], position := 0 }
  sent := 0
  task := .running
  aborting := false
  finishing := .notCalled
  yielded := []
  acceptedChunks := []
  entered := []
  answered := []

def answer (stream : StreamUpload) (chunk : Chunk) (result : Except String Unit) : StreamUpload :=
  { stream with answered := stream.answered ++ [(chunk, result)] }

/-- `append` is `append_stream` up to the handle it works with, and `join` is told
whether the finished upload can be registered. -/
inductive Action
  | append (chunk : Chunk)
  | tryUpdate (chunk : Chunk)
  | send (chunk : Chunk)
  | sendFails (chunk : Chunk)
  | read (room : Nat)
  | complete
  | fail (failure : String)
  | cancel
  | takeStream
  | dropSender
  | compare
  | join (registered : Except String Unit)

def unknownStream (id : Int) : String := "unknown upload stream: " ++ toString id

def moreThanDeclared (id : Int) (size : DeclaredSize) : String :=
  "upload stream " ++ toString id ++ " received more than its declared size of " ++
    toString size.bytes ++ " bytes"

def noLongerAccepting (id : Int) : String :=
  "upload stream " ++ toString id ++ " is no longer accepting chunks"

def declaredButReceived (id : Int) (size : DeclaredSize) (received : Nat) : String :=
  "upload stream " ++ toString id ++ " was declared with " ++ toString size.bytes ++
    " bytes but received " ++ toString received

/-- `uploads` tells whether `upload_stream` may succeed for a size after its
reader has handed it some bytes. -/
def step (uploads : Nat → List Byte → Bool) (id : Int) (size : DeclaredSize)
    (stream : StreamUpload) : Action → Option StreamUpload
  | .append chunk =>
      if chunk.bytes = [] then some (stream.answer chunk (.ok ()))
      else if stream.registered then some { stream with looked := stream.looked ++ [chunk] }
      else some (stream.answer chunk (.error (unknownStream id)))
  | .tryUpdate chunk =>
      if chunk ∈ stream.looked then
        let total := (stream.accepted + chunk.bytes.length) % 2 ^ 64
        let stream := { stream with looked := stream.looked.erase chunk }
        if total ≤ size.bytes then
          some { stream with
            accepted := total
            counted := stream.counted ++ [chunk]
            acceptedChunks := stream.acceptedChunks ++ [chunk] }
        else some (stream.answer chunk (.error (moreThanDeclared id size)))
      else none
  | .send chunk =>
      -- A call that got its permit before the reader went may still push.
      if chunk ∈ stream.counted ∧ stream.queue.length < streamChannelCapacity then
        some (answer { stream with
          counted := stream.counted.erase chunk
          queue := stream.queue ++ [chunk]
          entered := stream.entered ++ [chunk] } chunk (.ok ()))
      else none
  | .sendFails chunk =>
      if chunk ∈ stream.counted ∧ stream.task ≠ .running then
        some (answer { stream with counted := stream.counted.erase chunk } chunk
          (.error (noLongerAccepting id)))
      else none
  | .read room =>
      if stream.task = .running then
        let (poll, reader, queue) := pollRead room stream.closed stream.reader stream.queue
        some { stream with
          reader, queue
          sent := (stream.sent + poll.bytes.length) % 2 ^ 64
          yielded := stream.yielded ++ poll.bytes }
      else none
  | .complete =>
      if stream.task = .running ∧ uploads size.bytes stream.yielded then
        some { stream with task := .completed }
      else none
  | .fail failure =>
      if stream.task = .running then some { stream with task := .failed failure } else none
  | .cancel =>
      if stream.task = .running ∧ stream.aborting then some { stream with task := .cancelled }
      else none
  | .takeStream =>
      match stream.finishing with
      | .notCalled =>
          if stream.registered then some { stream with registered := false, finishing := .took }
          else some { stream with finishing := .answered (.error (unknownStream id)) }
      | _ => none
  | .dropSender =>
      match stream.finishing with
      | .took => some { stream with finishing := .dropped }
      | _ => none
  | .compare =>
      match stream.finishing with
      | .dropped =>
          if stream.accepted ≠ size.bytes then
            some { stream with
              aborting := true
              finishing := .answered (.error (declaredButReceived id size stream.accepted)) }
          else some { stream with finishing := .awaiting }
      | _ => none
  | .join registered =>
      match stream.finishing, stream.task with
      | .awaiting, .completed => some { stream with finishing := .answered registered }
      | .awaiting, .failed failure => some { stream with finishing := .answered (.error failure) }
      -- Nothing has aborted the task of a finish that waits for it.
      | _, _ => none

def system (uploads : Nat → List Byte → Bool) (id : Int) (size : DeclaredSize) :
    System StreamUpload Action where
  initial := initial
  step := step uploads id size

/-! ### What a step can be -/

section Steps

variable (uploads : Nat → List Byte → Bool) (id : Int) (size : DeclaredSize)
  (stream : StreamUpload)

inductive Stepped : Action → StreamUpload → Prop
  | appendEmpty (chunk : Chunk) (empty : chunk.bytes = []) :
      Stepped (.append chunk) (stream.answer chunk (.ok ()))
  | append (chunk : Chunk) (nonempty : chunk.bytes ≠ []) (registered : stream.registered = true) :
      Stepped (.append chunk) { stream with looked := stream.looked ++ [chunk] }
  | appendUnknown (chunk : Chunk) (nonempty : chunk.bytes ≠ [])
      (unregistered : stream.registered = false) :
      Stepped (.append chunk) (stream.answer chunk (.error (unknownStream id)))
  | count (chunk : Chunk) (held : chunk ∈ stream.looked)
      (fits : (stream.accepted + chunk.bytes.length) % 2 ^ 64 ≤ size.bytes) :
      Stepped (.tryUpdate chunk) { stream with
        looked := stream.looked.erase chunk
        accepted := (stream.accepted + chunk.bytes.length) % 2 ^ 64
        counted := stream.counted ++ [chunk]
        acceptedChunks := stream.acceptedChunks ++ [chunk] }
  | exceed (chunk : Chunk) (held : chunk ∈ stream.looked)
      (exceeds : ¬ (stream.accepted + chunk.bytes.length) % 2 ^ 64 ≤ size.bytes) :
      Stepped (.tryUpdate chunk) (answer { stream with looked := stream.looked.erase chunk } chunk
        (.error (moreThanDeclared id size)))
  | send (chunk : Chunk) (counted : chunk ∈ stream.counted)
      (room : stream.queue.length < streamChannelCapacity) :
      Stepped (.send chunk) (answer { stream with
        counted := stream.counted.erase chunk
        queue := stream.queue ++ [chunk]
        entered := stream.entered ++ [chunk] } chunk (.ok ()))
  | sendFails (chunk : Chunk) (counted : chunk ∈ stream.counted)
      (ended : stream.task ≠ .running) :
      Stepped (.sendFails chunk) (answer { stream with counted := stream.counted.erase chunk }
        chunk (.error (noLongerAccepting id)))
  | read (room : Nat) (running : stream.task = .running) {poll : Poll} {reader : ChannelReader}
      {queue : List Chunk}
      (polled : pollRead room stream.closed stream.reader stream.queue = (poll, reader, queue)) :
      Stepped (.read room) { stream with
        reader, queue
        sent := (stream.sent + poll.bytes.length) % 2 ^ 64
        yielded := stream.yielded ++ poll.bytes }
  | complete (running : stream.task = .running)
      (uploaded : uploads size.bytes stream.yielded = true) :
      Stepped .complete { stream with task := .completed }
  | fail (failure : String) (running : stream.task = .running) :
      Stepped (.fail failure) { stream with task := .failed failure }
  | cancel (running : stream.task = .running) (aborting : stream.aborting = true) :
      Stepped .cancel { stream with task := .cancelled }
  | takeStream (notCalled : stream.finishing = .notCalled)
      (registered : stream.registered = true) :
      Stepped .takeStream { stream with registered := false, finishing := .took }
  | takeUnknown (notCalled : stream.finishing = .notCalled)
      (unregistered : stream.registered = false) :
      Stepped .takeStream { stream with finishing := .answered (.error (unknownStream id)) }
  | dropSender (took : stream.finishing = .took) :
      Stepped .dropSender { stream with finishing := .dropped }
  | mismatch (dropped : stream.finishing = .dropped) (differ : stream.accepted ≠ size.bytes) :
      Stepped .compare { stream with
        aborting := true
        finishing := .answered (.error (declaredButReceived id size stream.accepted)) }
  | await (dropped : stream.finishing = .dropped) (same : stream.accepted = size.bytes) :
      Stepped .compare { stream with finishing := .awaiting }
  | join (registered : Except String Unit) (awaiting : stream.finishing = .awaiting)
      (completed : stream.task = .completed) :
      Stepped (.join registered) { stream with finishing := .answered registered }
  | joinFailed (registered : Except String Unit) (failure : String)
      (awaiting : stream.finishing = .awaiting) (failed : stream.task = .failed failure) :
      Stepped (.join registered) { stream with finishing := .answered (.error failure) }

variable {uploads id size stream}

theorem append_cases {chunk : Chunk} {after : StreamUpload}
    (stepped : step uploads id size stream (.append chunk) = some after) :
    Stepped uploads id size stream (.append chunk) after := by
  simp only [step] at stepped
  split at stepped
  · rename_i empty
    cases stepped
    exact .appendEmpty chunk empty
  · rename_i nonempty
    split at stepped
    · rename_i registered
      cases stepped
      exact .append chunk nonempty registered
    · rename_i unregistered
      cases stepped
      exact .appendUnknown chunk nonempty (Bool.eq_false_iff.mpr unregistered)

theorem tryUpdate_cases {chunk : Chunk} {after : StreamUpload}
    (stepped : step uploads id size stream (.tryUpdate chunk) = some after) :
    Stepped uploads id size stream (.tryUpdate chunk) after := by
  simp only [step] at stepped
  split at stepped
  · rename_i held
    split at stepped
    · rename_i fits
      cases stepped
      exact .count chunk held fits
    · rename_i exceeds
      cases stepped
      exact .exceed chunk held exceeds
  · cases stepped

theorem read_cases {room : Nat} {after : StreamUpload}
    (stepped : step uploads id size stream (.read room) = some after) :
    Stepped uploads id size stream (.read room) after := by
  simp only [step] at stepped
  split at stepped
  · rename_i running
    rcases polled : pollRead room stream.closed stream.reader stream.queue with
      ⟨poll, reader, queue⟩
    rw [polled] at stepped
    cases stepped
    exact .read room running polled
  · cases stepped

theorem compare_cases {after : StreamUpload}
    (stepped : step uploads id size stream .compare = some after) :
    Stepped uploads id size stream .compare after := by
  simp only [step] at stepped
  split at stepped
  · rename_i dropped
    split at stepped
    · rename_i differ
      cases stepped
      exact .mismatch dropped differ
    · rename_i same
      cases stepped
      exact .await dropped (not_not.mp same)
  · cases stepped

theorem step_cases {action : Action} {after : StreamUpload}
    (stepped : step uploads id size stream action = some after) :
    Stepped uploads id size stream action after := by
  cases action with
  | append chunk => exact append_cases stepped
  | tryUpdate chunk => exact tryUpdate_cases stepped
  | send chunk =>
      simp only [step] at stepped
      split at stepped
      · rename_i may
        cases stepped
        exact .send chunk may.1 may.2
      · cases stepped
  | sendFails chunk =>
      simp only [step] at stepped
      split at stepped
      · rename_i gone
        cases stepped
        exact .sendFails chunk gone.1 gone.2
      · cases stepped
  | read room => exact read_cases stepped
  | complete =>
      simp only [step] at stepped
      split at stepped
      · rename_i done
        cases stepped
        exact .complete done.1 done.2
      · cases stepped
  | fail failure =>
      simp only [step] at stepped
      split at stepped
      · rename_i running
        cases stepped
        exact .fail failure running
      · cases stepped
  | cancel =>
      simp only [step] at stepped
      split at stepped
      · rename_i aborted
        cases stepped
        exact .cancel aborted.1 aborted.2
      · cases stepped
  | takeStream =>
      simp only [step] at stepped
      split at stepped
      · rename_i notCalled
        split at stepped
        · rename_i registered
          cases stepped
          exact .takeStream notCalled registered
        · rename_i unregistered
          cases stepped
          exact .takeUnknown notCalled (Bool.eq_false_iff.mpr unregistered)
      · cases stepped
  | dropSender =>
      simp only [step] at stepped
      split at stepped
      · rename_i took
        cases stepped
        exact .dropSender took
      · cases stepped
  | compare => exact compare_cases stepped
  | join registered =>
      simp only [step] at stepped
      split at stepped
      · rename_i awaiting completed
        cases stepped
        exact .join registered awaiting completed
      · rename_i failure awaiting failed
        cases stepped
        exact .joinFailed registered failure awaiting failed
      · cases stepped

end Steps

/-! ### Where the counted chunks are -/

/-- Every counted chunk has entered the channel, is on its way or was lost. -/
def Accounted (acceptedChunks entered counted : List Chunk) : Prop :=
  ∃ lost, acceptedChunks.Perm (entered ++ counted ++ lost)

namespace Accounted

variable {acceptedChunks entered counted : List Chunk} {chunk : Chunk}

theorem count (accounted : Accounted acceptedChunks entered counted) :
    Accounted (acceptedChunks ++ [chunk]) entered (counted ++ [chunk]) := by
  obtain ⟨lost, perm⟩ := accounted
  refine ⟨lost, (perm.append_right [chunk]).trans ?_⟩
  simp only [List.append_assoc]
  exact (List.perm_append_comm.append_left counted).append_left entered

theorem send (accounted : Accounted acceptedChunks entered counted) (held : chunk ∈ counted) :
    Accounted acceptedChunks (entered ++ [chunk]) (counted.erase chunk) := by
  obtain ⟨lost, perm⟩ := accounted
  refine ⟨lost, perm.trans (List.Perm.append_right lost ?_)⟩
  rw [List.append_assoc]
  exact (List.perm_cons_erase held).append_left entered

theorem lose (accounted : Accounted acceptedChunks entered counted) (held : chunk ∈ counted) :
    Accounted acceptedChunks entered (counted.erase chunk) := by
  obtain ⟨lost, perm⟩ := accounted
  refine ⟨chunk :: lost, perm.trans ?_⟩
  simp only [List.append_assoc]
  apply List.Perm.append_left
  exact ((List.perm_cons_erase held).append_right lost).trans List.perm_middle.symm

theorem length_le (accounted : Accounted acceptedChunks entered counted) :
    (contents entered).length ≤ (contents acceptedChunks).length := by
  obtain ⟨lost, perm⟩ := accounted
  rw [length_contents_of_perm perm]
  simp only [contents_append, List.length_append]
  omega

/-- Where the counted bytes have all entered, so have the chunks. -/
theorem perm_of_length (accounted : Accounted acceptedChunks entered counted)
    (nonempty : ∀ chunk ∈ acceptedChunks, chunk.bytes ≠ [])
    (all : (contents acceptedChunks).length ≤ (contents entered).length) :
    entered.Perm acceptedChunks := by
  obtain ⟨lost, perm⟩ := accounted
  have lengths := length_contents_of_perm perm
  rw [List.append_assoc] at lengths perm
  rw [contents_append, List.length_append] at lengths
  have none : counted ++ lost = [] := by
    apply eq_nil_of_contents
    · intro chunk member
      exact nonempty chunk (perm.mem_iff.mpr (List.mem_append_right _ member))
    · omega
  rw [none, List.append_nil] at perm
  exact perm.symm

end Accounted

/-! ### What every run keeps -/

/-- Every byte that entered the channel is in the channel, with the reader or
yielded. -/
structure Consistent (uploads : Nat → List Byte → Bool) (size : DeclaredSize)
    (stream : StreamUpload) : Prop where
  flow : stream.yielded ++ stream.reader.unread ++ contents stream.queue = contents stream.entered
  accounted : Accounted stream.acceptedChunks stream.entered stream.counted
  counter : stream.accepted = (contents stream.acceptedChunks).length
  bounded : stream.accepted ≤ size.bytes
  looked : ∀ chunk ∈ stream.looked, chunk.bytes ≠ []
  nonempty : ∀ chunk ∈ stream.acceptedChunks, chunk.bytes ≠ []
  progress : stream.sent = stream.yielded.length
  completed : stream.task = .completed → uploads size.bytes stream.yielded = true
  finished : stream.finishing = .answered (.ok ()) → stream.task = .completed

section Runs

variable {uploads : Nat → List Byte → Bool} {id : Int} {size : DeclaredSize}
  {before after : StreamUpload}

theorem consistent_initial : Consistent uploads size initial where
  flow := rfl
  accounted := ⟨[], .nil⟩
  counter := rfl
  bounded := Nat.zero_le _
  looked := by simp [initial]
  nonempty := by simp [initial]
  progress := rfl
  completed := by simp [initial]
  finished := by simp [initial]

namespace Consistent

/-- No more is taken out of the channel than was counted. -/
theorem length_le (consistent : Consistent uploads size before) :
    before.yielded.length + before.reader.unread.length + (contents before.queue).length ≤
      before.accepted := by
  rw [consistent.counter, ← List.length_append, ← List.length_append, consistent.flow]
  exact consistent.accounted.length_le

/-- Where the declared size came out, nothing that was counted is elsewhere. -/
theorem all_sent (consistent : Consistent uploads size before)
    (enough : size.bytes ≤ before.yielded.length) :
    before.yielded.length = size.bytes ∧ before.yielded = contents before.entered ∧
      before.entered.Perm before.acceptedChunks := by
  have most := consistent.length_le
  have bounded := consistent.bounded
  have unread : before.reader.unread = [] := List.length_eq_zero_iff.mp (by omega)
  have queued : contents before.queue = [] := List.length_eq_zero_iff.mp (by omega)
  have flow := consistent.flow
  rw [unread, queued, List.append_nil, List.append_nil] at flow
  refine ⟨by omega, flow, consistent.accounted.perm_of_length consistent.nonempty ?_⟩
  rw [← flow, ← consistent.counter]
  exact bounded.trans enough

theorem total (consistent : Consistent uploads size before) (chunk : Chunk) :
    (before.accepted + chunk.bytes.length) % 2 ^ 64 = before.accepted + chunk.bytes.length := by
  have bounded := consistent.bounded
  have declared := size.fits
  have fits := chunk.fits
  apply Nat.mod_eq_of_lt
  omega

theorem append (consistent : Consistent uploads size before) {chunk : Chunk}
    (nonempty : chunk.bytes ≠ []) :
    Consistent uploads size { before with looked := before.looked ++ [chunk] } := by
  refine { consistent with looked := ?_ }
  intro other member
  rcases List.mem_append.mp member with old | new
  · exact consistent.looked other old
  · cases List.mem_singleton.mp new
    exact nonempty

theorem count (consistent : Consistent uploads size before) {chunk : Chunk}
    (held : chunk ∈ before.looked)
    (fits : (before.accepted + chunk.bytes.length) % 2 ^ 64 ≤ size.bytes) :
    Consistent uploads size { before with
      looked := before.looked.erase chunk
      accepted := (before.accepted + chunk.bytes.length) % 2 ^ 64
      counted := before.counted ++ [chunk]
      acceptedChunks := before.acceptedChunks ++ [chunk] } := by
  refine { consistent with accounted := consistent.accounted.count, counter := ?_, bounded := fits,
                           looked := ?_, nonempty := ?_ }
  · change (before.accepted + chunk.bytes.length) % 2 ^ 64 =
      (contents (before.acceptedChunks ++ [chunk])).length
    rw [consistent.total chunk, consistent.counter]
    simp
  · intro other member
    exact consistent.looked other (List.mem_of_mem_erase member)
  · intro other member
    rcases List.mem_append.mp member with old | new
    · exact consistent.nonempty other old
    · cases List.mem_singleton.mp new
      exact consistent.looked chunk held

theorem send (consistent : Consistent uploads size before) {chunk : Chunk}
    (counted : chunk ∈ before.counted) :
    Consistent uploads size (answer { before with
      counted := before.counted.erase chunk
      queue := before.queue ++ [chunk]
      entered := before.entered ++ [chunk] } chunk (.ok ())) := by
  refine { consistent with flow := ?_, accounted := consistent.accounted.send counted }
  change before.yielded ++ before.reader.unread ++ contents (before.queue ++ [chunk]) =
    contents (before.entered ++ [chunk])
  rw [contents_append, contents_append, ← consistent.flow, ← List.append_assoc]

/-- A poll yields what the channel and the reader held first. -/
theorem read (consistent : Consistent uploads size before) {room : Nat}
    (running : before.task = .running) {poll : Poll} {reader : ChannelReader} {queue : List Chunk}
    (polled : pollRead room before.closed before.reader before.queue = (poll, reader, queue)) :
    Consistent uploads size { before with
      reader, queue
      sent := (before.sent + poll.bytes.length) % 2 ^ 64
      yielded := before.yielded ++ poll.bytes } := by
  have moved := pollRead_unread room before.closed before.reader before.queue
  rw [polled] at moved
  have flow : before.yielded ++ poll.bytes ++ reader.unread ++ contents queue =
      contents before.entered := by
    rw [← consistent.flow, List.append_assoc _ before.reader.unread, ← moved]
    simp only [List.append_assoc]
  have fits : before.yielded.length + poll.bytes.length < 2 ^ 64 := by
    have taken := congrArg List.length moved
    simp only [List.length_append] at taken
    have held := consistent.length_le
    have bounded := consistent.bounded
    have declared := size.fits
    omega
  refine { consistent with flow := flow, progress := ?_, completed := ?_ }
  · change (before.sent + poll.bytes.length) % 2 ^ 64 = (before.yielded ++ poll.bytes).length
    rw [consistent.progress, Nat.mod_eq_of_lt fits, List.length_append]
  · intro completed
    cases running.symm.trans completed

/-- A task that ends without the file has left no finish satisfied. -/
theorem endTask (consistent : Consistent uploads size before) (running : before.task = .running)
    {task : Task} (failed : task ≠ .completed) :
    Consistent uploads size { before with task := task } := by
  refine { consistent with completed := fun completed => absurd completed failed,
                           finished := fun finished => ?_ }
  cases running.symm.trans (consistent.finished finished)

end Consistent

theorem step_consistent (before : StreamUpload) (action : Action) (after : StreamUpload)
    (consistent : Consistent uploads size before)
    (stepped : step uploads id size before action = some after) :
    Consistent uploads size after := by
  cases step_cases stepped with
  | append chunk nonempty registered => exact consistent.append nonempty
  | appendEmpty chunk empty => exact { consistent with }
  | appendUnknown chunk nonempty unregistered => exact { consistent with }
  | count chunk held fits => exact consistent.count held fits
  | exceed chunk held exceeds =>
      exact { consistent with looked := fun other member =>
                consistent.looked other (List.mem_of_mem_erase member) }
  | send chunk counted room => exact consistent.send counted
  | sendFails chunk counted ended =>
      exact { consistent with accounted := consistent.accounted.lose counted }
  | read room running polled => exact consistent.read running polled
  | complete running uploaded =>
      exact { consistent with completed := fun _ => uploaded, finished := fun _ => rfl }
  | fail failure running => exact consistent.endTask running nofun
  | cancel running aborting => exact consistent.endTask running nofun
  | takeStream notCalled registered => exact { consistent with finished := nofun }
  | takeUnknown notCalled unregistered => exact { consistent with finished := nofun }
  | dropSender took => exact { consistent with finished := nofun }
  | mismatch dropped differ => exact { consistent with finished := nofun }
  | await dropped same => exact { consistent with finished := nofun }
  | join registered awaiting completed =>
      exact { consistent with finished := fun _ => completed }
  | joinFailed registered failure awaiting failed =>
      exact { consistent with finished := nofun }

theorem run_consistent {trace : List Action} {stream : StreamUpload}
    (ran : (system uploads id size).run trace = some stream) : Consistent uploads size stream :=
  (System.reachable_of_run ran).invariant consistent_initial step_consistent

/-- The counter stays within the declared size, a chunk past it changes nothing
but the calls, and a finish that succeeds has sent exactly the declared bytes. -/
theorem finish_sends_declared
    (readsAll : ∀ size yielded, uploads size yielded = true → size ≤ yielded.length)
    {trace : List Action} {stream : StreamUpload}
    (ran : (system uploads id size).run trace = some stream) :
    stream.accepted ≤ size.bytes ∧
      (∀ chunk ∈ stream.looked, size.bytes < stream.accepted + chunk.bytes.length →
        step uploads id size stream (.tryUpdate chunk) = some
          { stream with
            looked := stream.looked.erase chunk
            answered := stream.answered ++ [(chunk, .error (moreThanDeclared id size))] }) ∧
      (stream.finishing = .answered (.ok ()) →
        stream.yielded.length = size.bytes ∧ stream.yielded = contents stream.entered ∧
          stream.entered.Perm stream.acceptedChunks) := by
  have consistent := run_consistent ran
  have bounded := consistent.bounded
  refine ⟨bounded, ?_, ?_⟩
  · intro chunk held exceeds
    simp only [step, if_pos held, consistent.total chunk, if_neg (Nat.not_le_of_lt exceeds)]
    rfl
  · intro finished
    apply consistent.all_sent
    exact readsAll _ _ (consistent.completed (consistent.finished finished))

end Runs

/-- Three calls count their chunks in another order than the first two send
them, the third is refused, and the stream is finished before its bytes are in. -/
def finishEarlyTrace (first second third : Chunk) : List Action :=
  [.append first, .append second, .append third, .tryUpdate second, .tryUpdate first,
    .tryUpdate third, .send first, .takeStream, .read 2, .dropSender, .compare, .read 7,
    .send second, .read 7, .complete, .join (.ok ())]

theorem finish_sends_declared_early :
    ∃ stream,
      (system (fun size yielded => decide (size ≤ yielded.length)) 0 ⟨5, by decide⟩).run
        (finishEarlyTrace ⟨[1, 2, 3], by decide⟩ ⟨[4, 5], by decide⟩ ⟨[6], by decide⟩) =
          some stream ∧
      stream.finishing = .answered (.ok ()) ∧ stream.yielded = [1, 2, 3, 4, 5] ∧
      stream.yielded.length = 5 := by
  have ran : (system (fun size yielded => decide (size ≤ yielded.length)) 0 ⟨5, by decide⟩).run
      (finishEarlyTrace ⟨[1, 2, 3], by decide⟩ ⟨[4, 5], by decide⟩ ⟨[6], by decide⟩) =
        some (((system (fun size yielded => decide (size ≤ yielded.length)) 0
          ⟨5, by decide⟩).run (finishEarlyTrace ⟨[1, 2, 3], by decide⟩ ⟨[4, 5], by decide⟩
            ⟨[6], by decide⟩)).get rfl) := (Option.some_get _).symm
  have sent := finish_sends_declared (fun size yielded reads => of_decide_eq_true reads) ran
  exact ⟨_, ran, rfl, rfl, (sent.2.2 rfl).1⟩

end StreamUpload
end Kotlogramme.Files
