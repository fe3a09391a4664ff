/-
The reading end of a streamed upload's channel, a turn of a poll at a time.

Senders push, are cloned and dropped while a poll is under way, so the chunks a poll
finds are not those that were there when it began.  The counter of the progress is
that of the bytes read, in 64 bits.
-/

import Kotlogramme.Files.StreamUpload
import Mathlib.Data.List.Infix

namespace Kotlogramme.Files

theorem ChannelReader.handOver_ne_nil (reader : ChannelReader) {room : Nat}
    (more : reader.position < reader.current.length) (positive : 0 < room) :
    (reader.handOver room).1 ≠ [] := by
  refine List.length_pos_iff.mp ?_
  rw [ChannelReader.handOver, List.length_take, List.length_drop]
  omega

theorem ChannelReader.handOver_current (reader : ChannelReader) (room : Nat) :
    (reader.handOver room).2.current = [] ∨
      (reader.handOver room).2.current = reader.current := by
  unfold ChannelReader.handOver
  dsimp only
  split
  · exact .inl rfl
  · exact .inr rfl

/-- The end of the file is a ready read without bytes. -/
def Poll.isEnd : Poll → Bool
  | .pending => false
  | .ready bytes => bytes.isEmpty

/-- `reading` is the room of the poll under way.  `entered` and `yielded` record what
went into the channel and what came out of the reader, and `ended` that a poll has
reported the end of the file. -/
structure ChannelReads where
  senders : Nat
  queue : List Chunk
  reader : ChannelReader
  reading : Option Nat
  sent : UInt64
  entered : List Chunk
  yielded : List Byte
  ended : Bool

namespace ChannelReads

/-- `stream_channel`, with its reader in a `ProgressReader`. -/
def initial : ChannelReads where
  senders := 1
  queue := []
  reader := { current := [], position := 0 }
  reading := none
  sent := 0
  entered := []
  yielded := []
  ended := false

/-- What `ProgressReader` does with the answer of the reader in it. -/
def finish (reads : ChannelReads) (poll : Poll) : ChannelReads :=
  { reads with
    reading := none
    sent := if 0 < poll.bytes.length then reads.sent + UInt64.ofNat poll.bytes.length
      else reads.sent
    yielded := reads.yielded ++ poll.bytes
    ended := reads.ended || poll.isEnd }

/-- One turn of the loop in `poll_read`. -/
def turn (reads : ChannelReads) (room : Nat) : ChannelReads :=
  if reads.reader.position < reads.reader.current.length then
    finish { reads with reader := (reads.reader.handOver room).2 }
      (.ready (reads.reader.handOver room).1)
  else
    match reads.queue with
    | chunk :: rest =>
        if chunk.bytes = [] then { reads with queue := rest }
        else { reads with reader := { current := chunk.bytes, position := 0 }, queue := rest }
    | [] => if reads.senders = 0 then reads.finish (.ready []) else reads.finish .pending

inductive Action
  | clone
  | drop
  | send (chunk : Chunk)
  | read (room : Nat)
  | turn

def step (reads : ChannelReads) : Action → Option ChannelReads
  | .clone => if 0 < reads.senders then some { reads with senders := reads.senders + 1 } else none
  | .drop => if 0 < reads.senders then some { reads with senders := reads.senders - 1 } else none
  | .send chunk =>
      if 0 < reads.senders ∧ reads.queue.length < streamChannelCapacity then
        some { reads with queue := reads.queue ++ [chunk], entered := reads.entered ++ [chunk] }
      else none
  | .read room =>
      if reads.reading = none ∧ 0 < room then some { reads with reading := some room } else none
  | .turn =>
      match reads.reading with
      | some room => some (reads.turn room)
      | none => none

def system : System ChannelReads Action where
  initial := initial
  step := step

/-! ### What a step can be -/

section Steps

variable (reads : ChannelReads)

inductive Turned (room : Nat) : ChannelReads → Prop
  | handOver (more : reads.reader.position < reads.reader.current.length) :
      Turned room (finish { reads with reader := (reads.reader.handOver room).2 }
        (.ready (reads.reader.handOver room).1))
  | skip {chunk : Chunk} {rest : List Chunk} (queued : reads.queue = chunk :: rest)
      (empty : chunk.bytes = []) : Turned room { reads with queue := rest }
  | take {chunk : Chunk} {rest : List Chunk} (queued : reads.queue = chunk :: rest)
      (read : reads.reader.unread = []) :
      Turned room { reads with reader := { current := chunk.bytes, position := 0 }, queue := rest }
  | endOfFile (queued : reads.queue = []) (read : reads.reader.unread = [])
      (closed : reads.senders = 0) : Turned room (reads.finish (.ready []))
  | wait : Turned room (reads.finish .pending)

inductive Stepped : Action → ChannelReads → Prop
  | clone (present : 0 < reads.senders) : Stepped .clone { reads with senders := reads.senders + 1 }
  | drop : Stepped .drop { reads with senders := reads.senders - 1 }
  | send (chunk : Chunk) (present : 0 < reads.senders) :
      Stepped (.send chunk)
        { reads with queue := reads.queue ++ [chunk], entered := reads.entered ++ [chunk] }
  | read (room : Nat) (positive : 0 < room) :
      Stepped (.read room) { reads with reading := some room }
  | turn {room : Nat} {after : ChannelReads} (reading : reads.reading = some room)
      (turned : Turned reads room after) : Stepped .turn after

end Steps

variable {reads after : ChannelReads}

theorem turn_cases (room : Nat) : Turned reads room (reads.turn room) := by
  unfold turn
  split
  next more => exact .handOver more
  next exhausted =>
    have read : reads.reader.unread = [] :=
      List.drop_eq_nil_of_le (Nat.le_of_not_lt exhausted)
    split
    next chunk rest queued =>
      split
      next empty => exact .skip queued empty
      next => exact .take queued read
    next queued =>
      split
      next closed => exact .endOfFile queued read closed
      next => exact .wait

theorem step_cases {action : Action} (stepped : reads.step action = some after) :
    Stepped reads action after := by
  cases action with
  | clone =>
      obtain ⟨present, same⟩ := Option.ite_none_right_eq_some.mp stepped
      cases same
      exact .clone present
  | drop =>
      obtain ⟨-, same⟩ := Option.ite_none_right_eq_some.mp stepped
      cases same
      exact .drop
  | send chunk =>
      obtain ⟨⟨present, -⟩, same⟩ := Option.ite_none_right_eq_some.mp stepped
      cases same
      exact .send chunk present
  | read room =>
      obtain ⟨⟨-, positive⟩, same⟩ := Option.ite_none_right_eq_some.mp stepped
      cases same
      exact .read room positive
  | turn =>
      unfold step at stepped
      cases reading : reads.reading with
      | none => simp [reading] at stepped
      | some room =>
          simp only [reading, Option.some.injEq] at stepped
          subst stepped
          exact .turn reading (turn_cases room)

/-! ### What a run keeps -/

structure Kept (reads : ChannelReads) : Prop where
  bytes : reads.yielded ++ reads.reader.unread ++ contents reads.queue = contents reads.entered
  order : reads.queue <:+ reads.entered
  retained : reads.reader.current = [] ∨
    ∃ chunk ∈ reads.entered, reads.reader.current = chunk.bytes
  counted : reads.sent = UInt64.ofNat reads.yielded.length
  room : ∀ room, reads.reading = some room → 0 < room
  ended : reads.ended = true →
    reads.senders = 0 ∧ reads.queue = [] ∧ reads.reader.unread = []

theorem kept_initial : Kept initial where
  bytes := rfl
  order := List.nil_suffix
  retained := .inl rfl
  counted := rfl
  room := nofun
  ended := nofun

theorem counted_finish (counted : reads.sent = UInt64.ofNat reads.yielded.length) (poll : Poll) :
    (reads.finish poll).sent = UInt64.ofNat (reads.finish poll).yielded.length := by
  simp only [finish, List.length_append, UInt64.ofNat_add, counted]
  split
  next => rfl
  next none =>
    rw [Nat.eq_zero_of_not_pos none]
    simp

theorem kept_turn (kept : Kept reads) {room : Nat} (positive : 0 < room)
    (turned : Turned reads room after) : Kept after := by
  cases turned with
  | handOver more =>
      constructor
      case bytes =>
        refine Eq.trans ?_ kept.bytes
        rw [← handOver_unread reads.reader room]
        simp only [finish, Poll.bytes, List.append_assoc]
      case order => exact kept.order
      case retained =>
        rcases reads.reader.handOver_current room with cleared | same
        · exact .inl cleared
        · exact kept.retained.imp same.trans fun ⟨chunk, member, holds⟩ =>
            ⟨chunk, member, same.trans holds⟩
      case counted => exact counted_finish kept.counted _
      case room => exact nofun
      case ended =>
        intro ended
        rcases Bool.or_eq_true_iff.mp ended with before | empty
        · have left := List.drop_eq_nil_iff.mp (kept.ended before).2.2
          omega
        · exact absurd (List.isEmpty_iff.mp empty) (reads.reader.handOver_ne_nil more positive)
  | @skip chunk rest queued empty =>
      have bytes := kept.bytes
      rw [queued, contents_cons, empty, List.nil_append] at bytes
      exact { kept with
        bytes := bytes
        order := (List.suffix_cons chunk rest).trans (queued ▸ kept.order)
        ended := fun ended => absurd (kept.ended ended).2.1 (by rw [queued]; exact nofun) }
  | @take chunk rest queued read =>
      have bytes := kept.bytes
      have member : chunk ∈ reads.entered :=
        kept.order.subset (by rw [queued]; exact List.mem_cons_self)
      rw [queued, read, contents_cons, List.append_nil, ← List.append_assoc] at bytes
      exact { kept with
        bytes := bytes
        order := (List.suffix_cons chunk rest).trans (queued ▸ kept.order)
        retained := .inr ⟨chunk, member, rfl⟩
        ended := fun ended => absurd (kept.ended ended).2.1 (by rw [queued]; exact nofun) }
  | endOfFile queued read closed =>
      exact { kept with
        bytes := (congrArg (· ++ _ ++ _) (List.append_nil reads.yielded)).trans kept.bytes
        counted := counted_finish kept.counted _
        room := nofun
        ended := fun _ => ⟨closed, queued, read⟩ }
  | wait =>
      exact { kept with
        bytes := (congrArg (· ++ _ ++ _) (List.append_nil reads.yielded)).trans kept.bytes
        counted := counted_finish kept.counted _
        room := nofun
        ended := fun ended => kept.ended ((Bool.or_false _).symm.trans ended) }

theorem step_kept (reads : ChannelReads) (action : Action) (after : ChannelReads)
    (kept : Kept reads) (stepped : reads.step action = some after) : Kept after := by
  cases step_cases stepped with
  | clone present =>
      refine { kept with ended := fun ended => ?_ }
      have none := (kept.ended ended).1
      omega
  | drop =>
      refine { kept with ended := fun ended => ?_ }
      obtain ⟨none, others⟩ := kept.ended ended
      exact ⟨by rw [none], others⟩
  | send chunk present =>
      constructor
      case bytes =>
        rw [contents_append, contents_append, ← kept.bytes, List.append_assoc _ (contents _)]
      case order =>
        obtain ⟨taken, split⟩ := kept.order
        exact ⟨taken, by rw [← List.append_assoc, split]⟩
      case retained =>
        exact kept.retained.imp id fun ⟨held, member, holds⟩ =>
          ⟨held, List.mem_append_left _ member, holds⟩
      case counted => exact kept.counted
      case room => exact kept.room
      case ended =>
        intro ended
        have none := (kept.ended ended).1
        omega
  | read room positive =>
      exact { kept with room := fun _ same => Option.some.inj same ▸ positive }
  | turn reading turned => exact kept_turn kept (kept.room _ reading) turned

theorem kept_of_reachable (reached : system.Reachable reads) : Kept reads :=
  reached.invariant kept_initial step_kept

/-- What is read is what was sent, as far as it is read; the end of the file comes
after all of it. -/
theorem reads_in_order (reached : system.Reachable reads) :
    reads.yielded <+: contents reads.entered ∧
    (reads.queue = [] → reads.reader.unread = [] → reads.yielded = contents reads.entered) ∧
    (reads.ended = true → reads.senders = 0 ∧ reads.yielded = contents reads.entered) ∧
    (reads.reader.unread = [] ∨
      ∃ chunk ∈ reads.entered, reads.reader.unread <:+ chunk.bytes) ∧
    reads.sent = UInt64.ofNat reads.yielded.length := by
  have kept := kept_of_reachable reached
  have drained (queued : reads.queue = []) (read : reads.reader.unread = []) :
      reads.yielded = contents reads.entered := by
    rw [← kept.bytes, queued, read, contents_nil, List.append_nil, List.append_nil]
  refine ⟨⟨reads.reader.unread ++ contents reads.queue, ?_⟩, drained, ?_, ?_, kept.counted⟩
  · rw [← List.append_assoc]
    exact kept.bytes
  · intro ended
    obtain ⟨closed, queued, read⟩ := kept.ended ended
    exact ⟨closed, drained queued read⟩
  · rcases kept.retained with none | ⟨chunk, member, holds⟩
    · left
      rw [ChannelReader.unread, none, List.drop_nil]
    · right
      refine ⟨chunk, member, ?_⟩
      rw [← holds]
      exact List.drop_suffix _ _

/-- An empty chunk and one of two bytes, read in a buffer of one byte. -/
def byteByByte : List Action :=
  [.send ⟨[], by decide⟩, .send ⟨[1, 2], by decide⟩, .read 1, .turn, .turn, .turn, .read 1,
    .drop, .turn, .read 1, .turn]

theorem reads_in_order_byteByByte : ∃ reads, system.run byteByByte = some reads ∧
    reads.ended = true ∧ reads.senders = 0 ∧ reads.yielded = [1, 2] ∧ reads.sent = 2 := by
  have ran : system.run byteByByte = some _ := rfl
  obtain ⟨-, -, ended, -, counted⟩ := reads_in_order (System.reachable_of_run ran)
  obtain ⟨closed, yielded⟩ := ended rfl
  exact ⟨_, ran, rfl, closed, yielded, counted⟩

end ChannelReads
end Kotlogramme.Files
