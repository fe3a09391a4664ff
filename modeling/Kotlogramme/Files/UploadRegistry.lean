/-
The uploads of a client: three maps that draw their ids from one counter.

Each lock is held for one lookup or insert, and the calls of other threads come
between the steps of a call.  A call that starts a stream, begins a progress slot or
registers an upload takes its id first and inserts it later.  What the maps hold is
left to `σ`, `φ` and `π`.
-/

import Kotlogramme.Foundation.Places
import Kotlogramme.Foundation.Transition
import Mathlib.Algebra.Group.Int.Defs
import Mathlib.Algebra.Group.Nat.Defs
import Mathlib.Logic.Function.Basic

namespace Kotlogramme.Files

/-- A call from when it has its id; the last three have answered it. -/
inductive UploadCall (σ φ π : Type)
  | streamNumbered (id : Int) (stream : σ) (progress : π)
  | streamCounted (id : Int) (stream : σ)
  | slotNumbered (id : Int) (progress : π)
  | uploadNumbered (id : Int) (uploaded : φ)
  | stream (id : Int)
  | slot (id : Int)
  | upload (id : Int) (uploaded : φ)

inductive UploadKind
  | stream
  | slot
  | upload
  deriving DecidableEq

variable {σ φ π : Type}

namespace UploadCall

def id : UploadCall σ φ π → Int
  | .streamNumbered id _ _ => id
  | .streamCounted id _ => id
  | .slotNumbered id _ => id
  | .uploadNumbered id _ => id
  | .stream id => id
  | .slot id => id
  | .upload id _ => id

def kind : UploadCall σ φ π → UploadKind
  | .streamNumbered .. => .stream
  | .streamCounted .. => .stream
  | .slotNumbered .. => .slot
  | .uploadNumbered .. => .upload
  | .stream _ => .stream
  | .slot _ => .slot
  | .upload .. => .upload

/-- The id that the call has handed out. -/
def handedOut : UploadCall σ φ π → Option (UploadKind × Int)
  | .stream id => some (.stream, id)
  | .slot id => some (.slot, id)
  | .upload id _ => some (.upload, id)
  | _ => none

end UploadCall

/-- `calls` has every call that took an id, in the order of the counter. -/
structure UploadRegistry (σ φ π : Type) where
  streams : Int → Option σ
  uploads : Int → Option φ
  progress : Int → Option π
  nextHandle : Int
  calls : List (UploadCall σ φ π)

namespace UploadRegistry

def initial : UploadRegistry σ φ π where
  streams _ := none
  uploads _ := none
  progress _ := none
  nextHandle := 0
  calls := []

/-- The counter is a 64-bit one that wraps. -/
def next (registry : UploadRegistry σ φ π) (call : Int → UploadCall σ φ π) :
    UploadRegistry σ φ π :=
  { registry with
    nextHandle := (registry.nextHandle + 1).bmod (2 ^ 64)
    calls := registry.calls ++ [call registry.nextHandle] }

def insertStream (registry : UploadRegistry σ φ π) (id : Int) (stream : σ) :
    UploadRegistry σ φ π :=
  { registry with streams := Function.update registry.streams id (some stream) }

def insertProgress (registry : UploadRegistry σ φ π) (id : Int) (progress : π) :
    UploadRegistry σ φ π :=
  { registry with progress := Function.update registry.progress id (some progress) }

def insertUpload (registry : UploadRegistry σ φ π) (id : Int) (uploaded : φ) :
    UploadRegistry σ φ π :=
  { registry with uploads := Function.update registry.uploads id (some uploaded) }

def progressOf (registry : UploadRegistry σ φ π) (id : Int) : Except String π :=
  match registry.progress id with
  | some progress => .ok progress
  | none => .error ("unknown upload progress: " ++ toString id)

def streamHandle (registry : UploadRegistry σ φ π) (id : Int) : Except String σ :=
  match registry.streams id with
  | some stream => .ok stream
  | none => .error ("unknown upload stream: " ++ toString id)

def takeStream (registry : UploadRegistry σ φ π) (id : Int) :
    Except String σ × UploadRegistry σ φ π :=
  (registry.streamHandle id,
    { registry with streams := Function.update registry.streams id none })

def get (registry : UploadRegistry σ φ π) (handle : Int) : Except String φ :=
  match registry.uploads handle with
  | some uploaded => .ok uploaded
  | none => .error ("unknown upload handle: " ++ toString handle)

/-- `proceed` is the next step of a call, by its place among the calls. -/
inductive Action (σ φ π : Type)
  | startStream (stream : σ) (progress : π)
  | beginProgress (progress : π)
  | register (uploaded : φ)
  | proceed (index : Nat)
  | takeStream (id : Int)

def become (registry : UploadRegistry σ φ π) (index : Nat) (call : UploadCall σ φ π) :
    UploadRegistry σ φ π :=
  { registry with calls := registry.calls.set index call }

def proceed (registry : UploadRegistry σ φ π) (index : Nat) :
    UploadCall σ φ π → Option (UploadRegistry σ φ π)
  | .streamNumbered id stream progress =>
      some ((registry.insertProgress id progress).become index (.streamCounted id stream))
  | .streamCounted id stream => some ((registry.insertStream id stream).become index (.stream id))
  | .slotNumbered id progress =>
      some ((registry.insertProgress id progress).become index (.slot id))
  | .uploadNumbered id uploaded =>
      some ((registry.insertUpload id uploaded).become index (.upload id uploaded))
  | _ => none

def step (registry : UploadRegistry σ φ π) : Action σ φ π → Option (UploadRegistry σ φ π)
  | .startStream stream progress =>
      some (registry.next fun id => .streamNumbered id stream progress)
  | .beginProgress progress => some (registry.next fun id => .slotNumbered id progress)
  | .register uploaded => some (registry.next fun id => .uploadNumbered id uploaded)
  | .proceed index => registry.calls[index]?.bind (registry.proceed index)
  | .takeStream id => some (registry.takeStream id).2

def system (σ φ π : Type) : System (UploadRegistry σ φ π) (Action σ φ π) where
  initial := initial
  step := step

/-! ### What a step can be -/

section Steps

variable (registry : UploadRegistry σ φ π)

inductive Stepped : Action σ φ π → UploadRegistry σ φ π → Prop
  | startStream (stream : σ) (progress : π) :
      Stepped (.startStream stream progress)
        (registry.next fun id => .streamNumbered id stream progress)
  | beginProgress (progress : π) :
      Stepped (.beginProgress progress) (registry.next fun id => .slotNumbered id progress)
  | register (uploaded : φ) :
      Stepped (.register uploaded) (registry.next fun id => .uploadNumbered id uploaded)
  | countStream {index : Nat} {id : Int} {stream : σ} {progress : π}
      (found : registry.calls[index]? = some (.streamNumbered id stream progress)) :
      Stepped (.proceed index)
        ((registry.insertProgress id progress).become index (.streamCounted id stream))
  | insertStream {index : Nat} {id : Int} {stream : σ}
      (found : registry.calls[index]? = some (.streamCounted id stream)) :
      Stepped (.proceed index) ((registry.insertStream id stream).become index (.stream id))
  | insertSlot {index : Nat} {id : Int} {progress : π}
      (found : registry.calls[index]? = some (.slotNumbered id progress)) :
      Stepped (.proceed index) ((registry.insertProgress id progress).become index (.slot id))
  | insertUpload {index : Nat} {id : Int} {uploaded : φ}
      (found : registry.calls[index]? = some (.uploadNumbered id uploaded)) :
      Stepped (.proceed index)
        ((registry.insertUpload id uploaded).become index (.upload id uploaded))
  | takeStream (id : Int) : Stepped (.takeStream id) (registry.takeStream id).2

end Steps

variable {registry after : UploadRegistry σ φ π}

theorem step_cases {action : Action σ φ π} (stepped : registry.step action = some after) :
    Stepped registry action after := by
  cases action with
  | startStream stream progress =>
      cases stepped
      exact .startStream stream progress
  | beginProgress progress =>
      cases stepped
      exact .beginProgress progress
  | register uploaded =>
      cases stepped
      exact .register uploaded
  | takeStream id =>
      cases stepped
      exact .takeStream id
  | proceed index =>
      obtain ⟨call, found, continued⟩ := Option.bind_eq_some_iff.mp stepped
      cases call with
      | streamNumbered id stream progress =>
          cases continued
          exact .countStream found
      | streamCounted id stream =>
          cases continued
          exact .insertStream found
      | slotNumbered id progress =>
          cases continued
          exact .insertSlot found
      | uploadNumbered id uploaded =>
          cases continued
          exact .insertUpload found
      | stream id => cases continued
      | slot id => cases continued
      | upload id uploaded => cases continued

/-! ### What a run keeps -/

/-- A call of that kind has that id. -/
def Numbered (registry : UploadRegistry σ φ π) (id : Int) (kind : UploadKind) : Prop :=
  ∃ call ∈ registry.calls, call.id = id ∧ call.kind = kind

structure Consistent (registry : UploadRegistry σ φ π) : Prop where
  next : registry.nextHandle = registry.calls.length
  numbered : ∀ (index : Nat) call, registry.calls[index]? = some call → call.id = index
  streams : ∀ id stream, registry.streams id = some stream → registry.Numbered id .stream
  progress : ∀ id progress, registry.progress id = some progress →
    registry.Numbered id .stream ∨ registry.Numbered id .slot
  uploads : ∀ id uploaded, registry.uploads id = some uploaded → registry.Numbered id .upload
  registered : ∀ id uploaded, .upload id uploaded ∈ registry.calls →
    registry.uploads id = some uploaded

theorem consistent_initial : Consistent (initial : UploadRegistry σ φ π) where
  next := rfl
  numbered := nofun
  streams := nofun
  progress := nofun
  uploads := nofun
  registered := nofun

/-- An id is the id of one call. -/
theorem Consistent.unique (consistent : Consistent registry) {call other : UploadCall σ φ π}
    (member : call ∈ registry.calls) (also : other ∈ registry.calls) (same : call.id = other.id) :
    call = other := by
  obtain ⟨index, found⟩ := List.mem_iff_getElem?.mp member
  obtain ⟨place, foundToo⟩ := List.mem_iff_getElem?.mp also
  rw [consistent.numbered index call found, consistent.numbered place other foundToo] at same
  have samePlace : index = place := Int.ofNat_inj.mp same
  rw [samePlace, foundToo] at found
  exact (Option.some.inj found).symm

theorem Consistent.kind_unique (consistent : Consistent registry) {id : Int}
    {kind other : UploadKind} (numbered : registry.Numbered id kind)
    (also : registry.Numbered id other) : kind = other := by
  obtain ⟨call, member, idEq, rfl⟩ := numbered
  obtain ⟨second, memberToo, idEqToo, rfl⟩ := also
  rw [consistent.unique member memberToo (idEq.trans idEqToo.symm)]

theorem Numbered.append {id : Int} {kind : UploadKind} (numbered : registry.Numbered id kind)
    (call : Int → UploadCall σ φ π) : (registry.next call).Numbered id kind := by
  obtain ⟨held, member, found⟩ := numbered
  exact ⟨held, List.mem_append_left _ member, found⟩

/-- A call that goes on keeps its id and its kind. -/
theorem Numbered.become {id : Int} {kind : UploadKind} (numbered : registry.Numbered id kind)
    {index : Nat} {before call : UploadCall σ φ π}
    (found : registry.calls[index]? = some before) (sameId : call.id = before.id)
    (sameKind : call.kind = before.kind) : (registry.become index call).Numbered id kind := by
  obtain ⟨held, member, idEq, kindEq⟩ := numbered
  obtain ⟨place, foundToo⟩ := List.mem_iff_getElem?.mp member
  by_cases same : place = index
  · rw [same, found] at foundToo
    obtain rfl := Option.some.inj foundToo
    exact ⟨call, List.mem_of_getElem? (Places.found_set_self found call), sameId.trans idEq,
      sameKind.trans kindEq⟩
  · exact ⟨held, List.mem_of_getElem? (Places.found_set_of_ne foundToo same call), idEq, kindEq⟩

theorem Consistent.allocate (consistent : Consistent registry) (call : Int → UploadCall σ φ π)
    (numbered : ∀ id, (call id).id = id) (unanswered : ∀ id, (call id).handedOut = none)
    (few : (registry.next call).calls.length < 2 ^ 63) : Consistent (registry.next call) := by
  have length : (registry.next call).calls.length = registry.calls.length + 1 :=
    List.length_append
  have counter := consistent.next
  constructor
  case next =>
    change (registry.nextHandle + 1).bmod (2 ^ 64) = _
    rw [length, counter, Int.bmod_eq_of_le] <;> omega
  case numbered =>
    intro index held found
    rcases Places.concat_cases found with earlier | ⟨last, rfl⟩
    · exact consistent.numbered index held earlier
    · rw [numbered, counter, last]
  case streams => exact fun id stream found => (consistent.streams id stream found).append call
  case progress =>
    exact fun id progress found =>
      (consistent.progress id progress found).imp (·.append call) (·.append call)
  case uploads => exact fun id uploaded found => (consistent.uploads id uploaded found).append call
  case registered =>
    intro id uploaded member
    rcases List.mem_append.mp member with before | last
    · exact consistent.registered id uploaded before
    · have answered := congrArg UploadCall.handedOut (List.mem_singleton.mp last)
      rw [unanswered] at answered
      cases answered

theorem Consistent.insertStream (consistent : Consistent registry) {id : Int} (stream : σ)
    (own : registry.Numbered id .stream) : Consistent (registry.insertStream id stream) where
  next := consistent.next
  numbered := consistent.numbered
  streams other held found := by
    by_cases same : other = id
    · exact same ▸ own
    · exact consistent.streams other held ((Function.update_of_ne same _ _).symm.trans found)
  progress := consistent.progress
  uploads := consistent.uploads
  registered := consistent.registered

theorem Consistent.insertProgress (consistent : Consistent registry) {id : Int} (progress : π)
    (own : registry.Numbered id .stream ∨ registry.Numbered id .slot) :
    Consistent (registry.insertProgress id progress) where
  next := consistent.next
  numbered := consistent.numbered
  streams := consistent.streams
  progress other held found := by
    by_cases same : other = id
    · exact same ▸ own
    · exact consistent.progress other held ((Function.update_of_ne same _ _).symm.trans found)
  uploads := consistent.uploads
  registered := consistent.registered

theorem Consistent.insertUpload (consistent : Consistent registry) {id : Int} (uploaded : φ)
    (own : registry.Numbered id .upload) (unanswered : ∀ held, .upload id held ∉ registry.calls) :
    Consistent (registry.insertUpload id uploaded) where
  next := consistent.next
  numbered := consistent.numbered
  streams := consistent.streams
  progress := consistent.progress
  uploads other held found := by
    by_cases same : other = id
    · exact same ▸ own
    · exact consistent.uploads other held ((Function.update_of_ne same _ _).symm.trans found)
  registered other held member := by
    have apart : other ≠ id := by
      rintro rfl
      exact unanswered held member
    exact (Function.update_of_ne apart _ _).trans (consistent.registered other held member)

theorem Consistent.takeStream (consistent : Consistent registry) (id : Int) :
    Consistent (registry.takeStream id).2 where
  next := consistent.next
  numbered := consistent.numbered
  streams other held found := by
    change Function.update registry.streams id none other = some held at found
    by_cases same : other = id
    · rw [same, Function.update_self] at found
      cases found
    · exact consistent.streams other held ((Function.update_of_ne same _ _).symm.trans found)
  progress := consistent.progress
  uploads := consistent.uploads
  registered := consistent.registered

/-- A call goes on once what it answers for is in its map. -/
theorem Consistent.become (consistent : Consistent registry) {index : Nat}
    {before call : UploadCall σ φ π} (found : registry.calls[index]? = some before)
    (sameId : call.id = before.id) (sameKind : call.kind = before.kind)
    (inserted : ∀ id uploaded, call = .upload id uploaded → registry.uploads id = some uploaded) :
    Consistent (registry.become index call) where
  next := consistent.next.trans (congrArg Nat.cast List.length_set.symm)
  numbered place held foundHeld := by
    rcases Places.set_cases foundHeld with ⟨rfl, rfl⟩ | ⟨-, earlier⟩
    · exact sameId.trans (consistent.numbered place before found)
    · exact consistent.numbered place held earlier
  streams id stream held := (consistent.streams id stream held).become found sameId sameKind
  progress id progress held :=
    (consistent.progress id progress held).imp (·.become found sameId sameKind)
      (·.become found sameId sameKind)
  uploads id uploaded held := (consistent.uploads id uploaded held).become found sameId sameKind
  registered id uploaded member := by
    rcases List.mem_or_eq_of_mem_set member with before | last
    · exact consistent.registered id uploaded before
    · exact inserted id uploaded last.symm

theorem numbered_of_getElem? {index : Nat} {call : UploadCall σ φ π}
    (found : registry.calls[index]? = some call) : registry.Numbered call.id call.kind :=
  ⟨call, List.mem_of_getElem? found, rfl, rfl⟩

theorem step_consistent {action : Action σ φ π} (consistent : Consistent registry)
    (stepped : registry.step action = some after) (few : after.calls.length < 2 ^ 63) :
    Consistent after := by
  cases step_cases stepped with
  | startStream stream progress =>
      exact consistent.allocate _ (fun _ => rfl) (fun _ => rfl) few
  | beginProgress progress => exact consistent.allocate _ (fun _ => rfl) (fun _ => rfl) few
  | register uploaded => exact consistent.allocate _ (fun _ => rfl) (fun _ => rfl) few
  | @countStream index id stream progress found =>
      exact (consistent.insertProgress progress (.inl (numbered_of_getElem? found))).become
        found rfl rfl nofun
  | @insertStream index id stream found =>
      exact (consistent.insertStream stream (numbered_of_getElem? found)).become found rfl rfl nofun
  | @insertSlot index id progress found =>
      exact (consistent.insertProgress progress (.inr (numbered_of_getElem? found))).become
        found rfl rfl nofun
  | @insertUpload index id uploaded found =>
      have unanswered : ∀ held, .upload id held ∉ registry.calls := by
        intro held member
        cases consistent.unique (List.mem_of_getElem? found) member rfl
      refine (consistent.insertUpload uploaded (numbered_of_getElem? found) unanswered).become
        found rfl rfl ?_
      intro other held same
      cases same
      exact Function.update_self id (some uploaded) registry.uploads
  | takeStream id => exact consistent.takeStream id

/-- A step adds a call, or takes a call on that has not answered, or touches none. -/
theorem calls_cases {action : Action σ φ π} (stepped : registry.step action = some after) :
    (∃ call, after.calls = registry.calls ++ [call]) ∨
    (∃ (index : Nat) (before call : UploadCall σ φ π), registry.calls[index]? = some before ∧
      before.handedOut = none ∧ after.calls = registry.calls.set index call) ∨
    after.calls = registry.calls := by
  cases step_cases stepped with
  | startStream stream progress => exact .inl ⟨_, rfl⟩
  | beginProgress progress => exact .inl ⟨_, rfl⟩
  | register uploaded => exact .inl ⟨_, rfl⟩
  | countStream found => exact .inr (.inl ⟨_, _, _, found, rfl, rfl⟩)
  | insertStream found => exact .inr (.inl ⟨_, _, _, found, rfl, rfl⟩)
  | insertSlot found => exact .inr (.inl ⟨_, _, _, found, rfl, rfl⟩)
  | insertUpload found => exact .inr (.inl ⟨_, _, _, found, rfl, rfl⟩)
  | takeStream id => exact .inr (.inr rfl)

theorem length_le {action : Action σ φ π} (stepped : registry.step action = some after) :
    registry.calls.length ≤ after.calls.length := by
  rcases calls_cases stepped with ⟨call, added⟩ | ⟨index, before, call, -, -, taken⟩ | same
  · rw [added, List.length_append]
    exact Nat.le_add_right _ _
  · exact Nat.le_of_eq (by rw [taken, List.length_set])
  · exact Nat.le_of_eq (by rw [same])

theorem consistent_of_reachable (reached : (system σ φ π).Reachable registry)
    (few : registry.calls.length < 2 ^ 63) : Consistent registry := by
  induction reached with
  | initial => exact consistent_initial
  | step _ stepped ih =>
      exact step_consistent (ih (Nat.lt_of_le_of_lt (length_le stepped) few)) stepped few

/-- A call that has answered stays as it is. -/
theorem answered_step {call : UploadCall σ φ π} (answered : call.handedOut ≠ none)
    (before : UploadRegistry σ φ π) (action : Action σ φ π) (after : UploadRegistry σ φ π)
    (member : call ∈ before.calls) (stepped : before.step action = some after) :
    call ∈ after.calls := by
  rcases calls_cases stepped with
    ⟨added, grown⟩ | ⟨index, held, next, found, unanswered, taken⟩ | same
  · rw [grown]
    exact List.mem_append_left _ member
  · obtain ⟨place, foundCall⟩ := List.mem_iff_getElem?.mp member
    have apart : place ≠ index := by
      rintro rfl
      rw [foundCall] at found
      exact answered (Option.some.inj found ▸ unanswered)
    rw [taken]
    exact List.mem_of_getElem? (Places.found_set_of_ne foundCall apart next)
  · rw [same]
    exact member

/-! ### The ids that are handed out -/

def HandedOut (registry : UploadRegistry σ φ π) (kind : UploadKind) (id : Int) : Prop :=
  ∃ call ∈ registry.calls, call.handedOut = some (kind, id)

theorem handedOut_eq {call : UploadCall σ φ π} {kind : UploadKind} {id : Int}
    (answered : call.handedOut = some (kind, id)) : call.kind = kind ∧ call.id = id := by
  cases call with
  | streamNumbered => cases answered
  | streamCounted => cases answered
  | slotNumbered => cases answered
  | uploadNumbered => cases answered
  | stream =>
      cases answered
      exact ⟨rfl, rfl⟩
  | slot =>
      cases answered
      exact ⟨rfl, rfl⟩
  | upload =>
      cases answered
      exact ⟨rfl, rfl⟩

theorem HandedOut.numbered {kind : UploadKind} {id : Int} (handed : registry.HandedOut kind id) :
    registry.Numbered id kind := by
  obtain ⟨call, member, answered⟩ := handed
  obtain ⟨kindEq, idEq⟩ := handedOut_eq answered
  exact ⟨call, member, idEq, kindEq⟩

theorem Consistent.get_error (consistent : Consistent registry) {id : Int} {kind : UploadKind}
    (numbered : registry.Numbered id kind) (other : kind ≠ .upload) :
    registry.get id = .error ("unknown upload handle: " ++ toString id) := by
  unfold get
  cases found : registry.uploads id with
  | none => rfl
  | some uploaded =>
      exact absurd (consistent.kind_unique numbered (consistent.uploads id uploaded found)) other

theorem Consistent.streamHandle_error (consistent : Consistent registry) {id : Int}
    (numbered : registry.Numbered id .upload) :
    registry.streamHandle id = .error ("unknown upload stream: " ++ toString id) := by
  unfold streamHandle
  cases found : registry.streams id with
  | none => rfl
  | some stream => cases consistent.kind_unique numbered (consistent.streams id stream found)

theorem Consistent.progressOf_error (consistent : Consistent registry) {id : Int}
    (numbered : registry.Numbered id .upload) :
    registry.progressOf id = .error ("unknown upload progress: " ++ toString id) := by
  unfold progressOf
  cases found : registry.progress id with
  | none => rfl
  | some progress =>
      rcases consistent.progress id progress found with stream | slot
      · cases consistent.kind_unique numbered stream
      · cases consistent.kind_unique numbered slot

theorem Consistent.get_ok (consistent : Consistent registry) {handle : Int} {uploaded : φ}
    (member : .upload handle uploaded ∈ registry.calls) : registry.get handle = .ok uploaded := by
  rw [get, consistent.registered handle uploaded member]

/-- An id is handed out once and for one kind, and a handle stands for its upload
from then on. -/
theorem ids_apart {trace : List (Action σ φ π)} (ran : (system σ φ π).run trace = some registry)
    (few : registry.calls.length < 2 ^ 63) :
    (∀ (index place : Nat) call other kind otherKind id, registry.calls[index]? = some call →
      registry.calls[place]? = some other → call.handedOut = some (kind, id) →
        other.handedOut = some (otherKind, id) → index = place) ∧
    (∀ id, registry.HandedOut .stream id ∨ registry.HandedOut .slot id →
      registry.get id = .error ("unknown upload handle: " ++ toString id)) ∧
    (∀ id, registry.HandedOut .upload id →
      registry.streamHandle id = .error ("unknown upload stream: " ++ toString id) ∧
      (registry.takeStream id).1 = .error ("unknown upload stream: " ++ toString id) ∧
      registry.progressOf id = .error ("unknown upload progress: " ++ toString id)) ∧
    (∀ handle uploaded rest after, .upload handle uploaded ∈ registry.calls →
      (system σ φ π).runFrom registry rest = some after → after.calls.length < 2 ^ 63 →
        after.get handle = .ok uploaded) := by
  have reached := System.reachable_of_run ran
  have consistent := consistent_of_reachable reached few
  refine ⟨?_, ?_, ?_, ?_⟩
  · intro index place call other kind otherKind id found foundOther answered answeredOther
    have first := consistent.numbered index call found
    have second := consistent.numbered place other foundOther
    rw [(handedOut_eq answered).2] at first
    rw [(handedOut_eq answeredOther).2, first] at second
    exact Int.ofNat_inj.mp second
  · intro id handed
    rcases handed with stream | slot
    · exact consistent.get_error stream.numbered nofun
    · exact consistent.get_error slot.numbered nofun
  · intro id handed
    have refused := consistent.streamHandle_error handed.numbered
    exact ⟨refused, refused, consistent.progressOf_error handed.numbered⟩
  · intro handle uploaded rest after member continued fewAfter
    have answered : (UploadCall.upload handle uploaded : UploadCall σ φ π).handedOut ≠ none :=
      Option.some_ne_none _
    have kept := @System.runFrom_invariant _ _ (system σ φ π)
      (fun state => .upload handle uploaded ∈ state.calls) (answered_step answered) _ _ _ member
      continued
    exact (consistent_of_reachable (System.reachable_of_runFrom reached continued) fewAfter).get_ok
      kept

/-- A stream starts while an upload is registered. -/
def overlapped : List (Action Unit Nat Unit) :=
  [.startStream () (), .register 7, .proceed 0, .proceed 1, .proceed 0]

theorem ids_apart_overlapped : ∃ registry, (system Unit Nat Unit).run overlapped = some registry ∧
    registry.get 0 = .error "unknown upload handle: 0" ∧ registry.get 1 = .ok 7 := by
  have ran : (system Unit Nat Unit).run overlapped = some _ := rfl
  obtain ⟨-, others, -, registered⟩ := ids_apart ran (by decide)
  refine ⟨_, ran, others 0 (.inl ⟨_, List.mem_cons_self, rfl⟩), ?_⟩
  exact registered 1 7 [] _ (List.mem_cons_of_mem _ List.mem_cons_self) rfl (by decide)

end UploadRegistry
end Kotlogramme.Files
