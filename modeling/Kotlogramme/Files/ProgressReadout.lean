/-
The progress slots, the uploads that count into them and the polls that read them.

A path upload looks its slot up, opens its file, sets the total of the slot to the
length of the file and adds what it reads to the bytes that are sent.  Nothing takes
those back, so they are still there for an upload that is given the same slot.  A
stream has a slot of its own, which a path upload can be given as well.  A poll loads
the bytes that are sent and then the total.
-/

import Kotlogramme.Files.StreamUpload
import Kotlogramme.Foundation.Places
import Mathlib.Data.List.Infix

namespace Kotlogramme.Files

/-- `owner` is the upload that has set the total last. -/
structure ProgressSlot where
  total : Nat
  sent : Nat
  owner : Option Nat

inductive UploadStage
  | opened
  | counting
  | finished
  deriving DecidableEq

structure CountedUpload where
  slot : Nat
  size : DeclaredSize
  read : Nat
  stage : UploadStage

/-- A poll that has loaded the bytes that are sent. -/
structure ProgressPoll where
  slot : Nat
  sent : Nat

/-- `owner` is that of the slot when its total was loaded. -/
structure ProgressSnapshot where
  sent : Nat
  total : Nat
  owner : Option Nat

/-- Slots and uploads are numbered in the order in which they begin. -/
structure ProgressReadout where
  slots : List ProgressSlot
  uploads : List CountedUpload
  polls : List ProgressPoll
  snapshots : List ProgressSnapshot

/-- A poll has loaded no more than its slot counts. -/
def ProgressPoll.Loaded (poll : ProgressPoll) (slots : List ProgressSlot) : Prop :=
  ∃ slot, slots[poll.slot]? = some slot ∧ poll.sent ≤ slot.sent

theorem ProgressPoll.Loaded.set {poll : ProgressPoll} {slots : List ProgressSlot}
    (loaded : poll.Loaded slots) {place : Nat} {slot later : ProgressSlot}
    (found : slots[place]? = some slot) (more : slot.sent ≤ later.sent) :
    poll.Loaded (slots.set place later) := by
  obtain ⟨held, foundHeld, sent⟩ := loaded
  by_cases same : poll.slot = place
  · rw [same, found] at foundHeld
    obtain rfl := Option.some.inj foundHeld
    exact ⟨later, same ▸ Places.found_set_self found later, Nat.le_trans sent more⟩
  · exact ⟨held, Places.found_set_of_ne foundHeld same later, sent⟩

namespace ProgressReadout

def initial : ProgressReadout where
  slots := []
  uploads := []
  polls := []
  snapshots := []

/-- `finish` is the end of an upload, whether it has failed or not. -/
inductive Action
  | beginProgress (total : Nat)
  | startStream (size : DeclaredSize)
  | openFile (slot : Nat) (size : DeclaredSize)
  | setTotal (upload : Nat)
  | read (upload bytes : Nat)
  | finish (upload : Nat)
  | loadSent (slot : Nat)
  | loadTotal (poll : Nat)

/-- An upload and its slot. -/
def counted (readout : ProgressReadout) (upload : Nat) : Option (CountedUpload × ProgressSlot) := do
  let counting ← readout.uploads[upload]?
  let slot ← readout.slots[counting.slot]?
  return (counting, slot)

def step (readout : ProgressReadout) : Action → Option ProgressReadout
  | .beginProgress total =>
      some { readout with slots := readout.slots ++ [{ total, sent := 0, owner := none }] }
  | .startStream size =>
      some { readout with
        slots := readout.slots ++
          [{ total := size.bytes, sent := 0, owner := some readout.uploads.length }]
        uploads := readout.uploads ++
          [{ slot := readout.slots.length, size, read := 0, stage := .counting }] }
  | .openFile slot size =>
      if slot < readout.slots.length then
        some { readout with
          uploads := readout.uploads ++ [{ slot, size, read := 0, stage := .opened }] }
      else none
  | .setTotal upload => do
      let (counting, slot) ← readout.counted upload
      if counting.stage = .opened then
        some { readout with
          slots := readout.slots.set counting.slot
            { slot with total := counting.size.bytes, owner := some upload }
          uploads := readout.uploads.set upload { counting with stage := .counting } }
      else none
  | .read upload bytes => do
      let (counting, slot) ← readout.counted upload
      -- grammers reads no more than the size it is told.
      if counting.stage = .counting ∧ counting.read + bytes ≤ counting.size.bytes then
        some { readout with
          slots := readout.slots.set counting.slot
            { slot with sent := (slot.sent + bytes) % 2 ^ 64 }
          uploads := readout.uploads.set upload { counting with read := counting.read + bytes } }
      else none
  | .finish upload => do
      let counting ← readout.uploads[upload]?
      some { readout with
        uploads := readout.uploads.set upload { counting with stage := .finished } }
  | .loadSent place => do
      let slot ← readout.slots[place]?
      some { readout with polls := readout.polls ++ [{ slot := place, sent := slot.sent }] }
  | .loadTotal place => do
      let poll ← readout.polls[place]?
      let slot ← readout.slots[poll.slot]?
      some { readout with
        polls := readout.polls.eraseIdx place
        snapshots := readout.snapshots ++
          [{ sent := poll.sent, total := slot.total, owner := slot.owner }] }

def system : System ProgressReadout Action where
  initial := initial
  step := step

/-! ### What a readout is about -/

/-- What a slot counts is what its owner has read. -/
def SlotOfOwner (uploads : List CountedUpload) (slot : ProgressSlot) : Prop :=
  match slot.owner with
  | none => slot.sent = 0
  | some owner => ∃ upload, uploads[owner]? = some upload ∧
      slot.total = upload.size.bytes ∧ slot.sent = upload.read

/-- What a snapshot counts has been read by the upload that its total is of. -/
def SnapshotOfOwner (uploads : List CountedUpload) (snapshot : ProgressSnapshot) : Prop :=
  match snapshot.owner with
  | none => snapshot.sent = 0
  | some owner => ∃ upload, uploads[owner]? = some upload ∧
      snapshot.total = upload.size.bytes ∧ snapshot.sent ≤ upload.read

structure AboutOneUpload (readout : ProgressReadout) : Prop where
  slots : ∀ (place : Nat) slot, readout.slots[place]? = some slot → SlotOfOwner readout.uploads slot
  polls : ∀ poll ∈ readout.polls, poll.Loaded readout.slots
  snapshots : ∀ snapshot ∈ readout.snapshots, SnapshotOfOwner readout.uploads snapshot

structure Bounded (readout : ProgressReadout) : Prop where
  slots : ∀ (place : Nat) slot, readout.slots[place]? = some slot → slot.sent ≤ slot.total
  snapshots : ∀ snapshot ∈ readout.snapshots, snapshot.sent ≤ snapshot.total

/-- A total is set where nothing is counted, and bytes are counted by the upload that
has set it. -/
def Alone (readout : ProgressReadout) : Action → Prop
  | .setTotal upload => ∀ counting slot, readout.counted upload = some (counting, slot) →
      slot.sent = 0
  | .read upload bytes => ∀ counting slot, readout.counted upload = some (counting, slot) →
      bytes = 0 ∨ slot.owner = some upload
  | _ => True

/-! ### What a step can be -/

section Steps

variable (readout : ProgressReadout)

inductive Stepped : Action → ProgressReadout → Prop
  | beginProgress (total : Nat) :
      Stepped (.beginProgress total)
        { readout with slots := readout.slots ++ [{ total, sent := 0, owner := none }] }
  | startStream (size : DeclaredSize) :
      Stepped (.startStream size) { readout with
        slots := readout.slots ++
          [{ total := size.bytes, sent := 0, owner := some readout.uploads.length }]
        uploads := readout.uploads ++
          [{ slot := readout.slots.length, size, read := 0, stage := .counting }] }
  | openFile (slot : Nat) (size : DeclaredSize) :
      Stepped (.openFile slot size) { readout with
        uploads := readout.uploads ++ [{ slot, size, read := 0, stage := .opened }] }
  | setTotal {upload : Nat} {counting : CountedUpload} {slot : ProgressSlot}
      (found : readout.counted upload = some (counting, slot)) (opened : counting.stage = .opened) :
      Stepped (.setTotal upload) { readout with
        slots := readout.slots.set counting.slot
          { slot with total := counting.size.bytes, owner := some upload }
        uploads := readout.uploads.set upload { counting with stage := .counting } }
  | read {upload bytes : Nat} {counting : CountedUpload} {slot : ProgressSlot}
      (found : readout.counted upload = some (counting, slot))
      (isCounting : counting.stage = .counting)
      (within : counting.read + bytes ≤ counting.size.bytes) :
      Stepped (.read upload bytes) { readout with
        slots := readout.slots.set counting.slot { slot with sent := (slot.sent + bytes) % 2 ^ 64 }
        uploads := readout.uploads.set upload { counting with read := counting.read + bytes } }
  | finish {upload : Nat} {counting : CountedUpload}
      (found : readout.uploads[upload]? = some counting) :
      Stepped (.finish upload) { readout with
        uploads := readout.uploads.set upload { counting with stage := .finished } }
  | loadSent {place : Nat} {slot : ProgressSlot} (found : readout.slots[place]? = some slot) :
      Stepped (.loadSent place) { readout with
        polls := readout.polls ++ [{ slot := place, sent := slot.sent }] }
  | loadTotal {place : Nat} {poll : ProgressPoll} {slot : ProgressSlot}
      (polled : readout.polls[place]? = some poll)
      (found : readout.slots[poll.slot]? = some slot) :
      Stepped (.loadTotal place) { readout with
        polls := readout.polls.eraseIdx place
        snapshots := readout.snapshots ++
          [{ sent := poll.sent, total := slot.total, owner := slot.owner }] }

end Steps

variable {readout after : ProgressReadout}

theorem counted_eq_some {upload : Nat} {counting : CountedUpload} {slot : ProgressSlot} :
    readout.counted upload = some (counting, slot) ↔
      readout.uploads[upload]? = some counting ∧ readout.slots[counting.slot]? = some slot := by
  unfold counted
  constructor
  · intro found
    obtain ⟨held, foundUpload, continued⟩ := Option.bind_eq_some_iff.mp found
    obtain ⟨other, foundSlot, same⟩ := Option.bind_eq_some_iff.mp continued
    cases same
    exact ⟨foundUpload, foundSlot⟩
  · intro both
    obtain ⟨foundUpload, foundSlot⟩ := both
    simp only [foundUpload, foundSlot, Option.bind_eq_bind, Option.bind_some]
    rfl

theorem step_cases {action : Action} (stepped : readout.step action = some after) :
    Stepped readout action after := by
  cases action with
  | beginProgress total =>
      cases stepped
      exact .beginProgress total
  | startStream size =>
      cases stepped
      exact .startStream size
  | openFile slot size =>
      obtain ⟨-, same⟩ := Option.ite_none_right_eq_some.mp stepped
      cases same
      exact .openFile slot size
  | setTotal upload =>
      obtain ⟨⟨counting, slot⟩, found, continued⟩ := Option.bind_eq_some_iff.mp stepped
      obtain ⟨opened, same⟩ := Option.ite_none_right_eq_some.mp continued
      cases same
      exact .setTotal found opened
  | read upload bytes =>
      obtain ⟨⟨counting, slot⟩, found, continued⟩ := Option.bind_eq_some_iff.mp stepped
      obtain ⟨⟨isCounting, within⟩, same⟩ := Option.ite_none_right_eq_some.mp continued
      cases same
      exact .read found isCounting within
  | finish upload =>
      obtain ⟨counting, found, same⟩ := Option.bind_eq_some_iff.mp stepped
      cases same
      exact .finish found
  | loadSent place =>
      obtain ⟨slot, found, same⟩ := Option.bind_eq_some_iff.mp stepped
      cases same
      exact .loadSent found
  | loadTotal place =>
      obtain ⟨poll, polled, continued⟩ := Option.bind_eq_some_iff.mp stepped
      obtain ⟨slot, found, same⟩ := Option.bind_eq_some_iff.mp continued
      cases same
      exact .loadTotal polled found

/-! ### What every run keeps -/

/-- Uploads are added or go on, and what they have read is related. -/
def Carried (related : Nat → Nat → Prop) (before after : List CountedUpload) : Prop :=
  ∀ (place : Nat) upload, before[place]? = some upload → ∃ later, after[place]? = some later ∧
    later.slot = upload.slot ∧ later.size = upload.size ∧ related upload.read later.read

theorem carried_append {related : Nat → Nat → Prop} (reflexive : ∀ read, related read read)
    (uploads more : List CountedUpload) : Carried related uploads (uploads ++ more) :=
  fun _ upload found =>
    ⟨upload, Places.found_append found more, rfl, rfl, reflexive upload.read⟩

theorem carried_set {related : Nat → Nat → Prop} (reflexive : ∀ read, related read read)
    {uploads : List CountedUpload} {place : Nat} {upload later : CountedUpload}
    (found : uploads[place]? = some upload) (slot : later.slot = upload.slot)
    (size : later.size = upload.size) (read : related upload.read later.read) :
    Carried related uploads (uploads.set place later) := by
  intro other held foundHeld
  by_cases same : other = place
  · rw [same, found] at foundHeld
    obtain rfl := Option.some.inj foundHeld
    exact ⟨later, same ▸ Places.found_set_self found later, slot, size, read⟩
  · exact ⟨held, Places.found_set_of_ne foundHeld same later, rfl, rfl, reflexive held.read⟩

theorem Carried.grown {before after : List CountedUpload} (carried : Carried Eq before after) :
    Carried Nat.le before after := by
  intro place upload found
  obtain ⟨later, foundLater, slot, size, read⟩ := carried place upload found
  exact ⟨later, foundLater, slot, size, Nat.le_of_eq read⟩

/-- The owner of a slot is an upload on it, whose size is the total. -/
def Owned (uploads : List CountedUpload) (place : Nat) (slot : ProgressSlot) : Prop :=
  ∀ owner, slot.owner = some owner → ∃ upload, uploads[owner]? = some upload ∧
    upload.slot = place ∧ slot.total = upload.size.bytes

theorem Owned.carried {related : Nat → Nat → Prop} {before after : List CountedUpload}
    {place : Nat} {slot : ProgressSlot} (owned : Owned before place slot)
    (carried : Carried related before after) : Owned after place slot := by
  intro owner isOwner
  obtain ⟨upload, found, onSlot, total⟩ := owned owner isOwner
  obtain ⟨later, foundLater, sameSlot, sameSize, -⟩ := carried owner upload found
  exact ⟨later, foundLater, sameSlot.trans onSlot, total.trans (congrArg _ sameSize.symm)⟩

/-- An upload has read no more than its file, and nothing before it has set the total. -/
structure Reading (upload : CountedUpload) : Prop where
  within : upload.read ≤ upload.size.bytes
  opened : upload.stage = .opened → upload.read = 0

structure Sound (readout : ProgressReadout) : Prop where
  uploads : ∀ upload ∈ readout.uploads, Reading upload
  owned : ∀ (place : Nat) slot, readout.slots[place]? = some slot →
    Owned readout.uploads place slot

theorem sound_initial : Sound initial where
  uploads := nofun
  owned := nofun

theorem reading_begun {upload : CountedUpload} (unread : upload.read = 0) : Reading upload where
  within := unread ▸ Nat.zero_le _
  opened _ := unread

theorem Reading.move {upload : CountedUpload} (reading : Reading upload) {stage : UploadStage}
    (moved : stage ≠ .opened) : Reading { upload with stage } where
  within := reading.within
  opened same := absurd same moved

theorem step_sound (readout : ProgressReadout) (action : Action) (after : ProgressReadout)
    (sound : Sound readout) (stepped : readout.step action = some after) : Sound after := by
  cases step_cases stepped with
  | beginProgress total =>
      refine ⟨sound.uploads, fun place slot found => ?_⟩
      rcases Places.concat_cases found with earlier | ⟨-, rfl⟩
      · exact sound.owned place slot earlier
      · exact nofun
  | startStream size =>
      constructor
      · exact List.forall_mem_append.mpr
          ⟨sound.uploads, List.forall_mem_singleton.mpr (reading_begun rfl)⟩
      · intro place slot found
        rcases Places.concat_cases found with earlier | ⟨last, rfl⟩
        · exact (sound.owned place slot earlier).carried (carried_append (@rfl Nat) _ _)
        · intro owner isOwner
          obtain rfl := Option.some.inj isOwner
          exact ⟨_, List.getElem?_concat_length, last.symm, rfl⟩
  | openFile slot size =>
      constructor
      · exact List.forall_mem_append.mpr
          ⟨sound.uploads, List.forall_mem_singleton.mpr (reading_begun rfl)⟩
      · intro place slot found
        exact (sound.owned place slot found).carried (carried_append (@rfl Nat) _ _)
  | @setTotal setter counting slot found opened =>
      obtain ⟨foundUpload, foundSlot⟩ := counted_eq_some.mp found
      have reading := sound.uploads counting (List.mem_of_getElem? foundUpload)
      constructor
      · refine Places.forall_mem_set sound.uploads (reading.move ?_) _
        exact nofun
      · intro place other held
        rcases Places.set_cases held with ⟨rfl, rfl⟩ | ⟨-, earlier⟩
        · intro owner isOwner
          obtain rfl := Option.some.inj isOwner
          exact ⟨_, Places.found_set_self foundUpload _, rfl, rfl⟩
        · exact (sound.owned place other earlier).carried
            (carried_set (@rfl Nat) foundUpload rfl rfl rfl)
  | @read reader bytes counting slot found isCounting within =>
      obtain ⟨foundUpload, foundSlot⟩ := counted_eq_some.mp found
      have carried : Carried Nat.le readout.uploads
          (readout.uploads.set reader { counting with read := counting.read + bytes }) :=
        carried_set Nat.le_refl foundUpload rfl rfl (Nat.le_add_right _ _)
      constructor
      · refine Places.forall_mem_set sound.uploads ⟨within, fun isOpened => ?_⟩ _
        rw [isCounting] at isOpened
        cases isOpened
      · intro place other held
        rcases Places.set_cases held with ⟨rfl, rfl⟩ | ⟨-, earlier⟩
        · exact (sound.owned counting.slot slot foundSlot).carried carried
        · exact (sound.owned place other earlier).carried carried
  | @finish upload counting found =>
      have reading := sound.uploads counting (List.mem_of_getElem? found)
      constructor
      · refine Places.forall_mem_set sound.uploads (reading.move ?_) _
        exact nofun
      · intro place slot held
        exact (sound.owned place slot held).carried (carried_set (@rfl Nat) found rfl rfl rfl)
  | loadSent => exact ⟨sound.uploads, sound.owned⟩
  | loadTotal => exact ⟨sound.uploads, sound.owned⟩

/-! ### One upload, as long as it is alone -/

theorem aboutOneUpload_initial : AboutOneUpload initial where
  slots := nofun
  polls := nofun
  snapshots := nofun

theorem SlotOfOwner.carried {before after : List CountedUpload} {slot : ProgressSlot}
    (ofOwner : SlotOfOwner before slot) (carried : Carried Eq before after) :
    SlotOfOwner after slot := by
  unfold SlotOfOwner at *
  cases owner : slot.owner with
  | none =>
      rw [owner] at ofOwner
      exact ofOwner
  | some owner' =>
      rw [owner] at ofOwner
      obtain ⟨upload, found, total, sent⟩ := ofOwner
      obtain ⟨later, foundLater, -, size, read⟩ := carried owner' upload found
      exact ⟨later, foundLater, total.trans (congrArg _ size.symm), sent.trans read⟩

theorem SnapshotOfOwner.carried {before after : List CountedUpload} {snapshot : ProgressSnapshot}
    (ofOwner : SnapshotOfOwner before snapshot) (carried : Carried Nat.le before after) :
    SnapshotOfOwner after snapshot := by
  unfold SnapshotOfOwner at *
  cases owner : snapshot.owner with
  | none =>
      rw [owner] at ofOwner
      exact ofOwner
  | some owner' =>
      rw [owner] at ofOwner
      obtain ⟨upload, found, total, sent⟩ := ofOwner
      obtain ⟨later, foundLater, -, size, read⟩ := carried owner' upload found
      exact ⟨later, foundLater, total.trans (congrArg _ size.symm), Nat.le_trans sent read⟩

/-- A slot that counts what its owner has read counts no more than its total. -/
theorem SlotOfOwner.fits {slot : ProgressSlot} (ofOwner : SlotOfOwner readout.uploads slot)
    (sound : Sound readout) : slot.sent ≤ slot.total ∧ slot.sent < 2 ^ 63 := by
  unfold SlotOfOwner at ofOwner
  cases owner : slot.owner with
  | none =>
      rw [owner] at ofOwner
      omega
  | some owner' =>
      rw [owner] at ofOwner
      obtain ⟨upload, found, total, sent⟩ := ofOwner
      have within := (sound.uploads upload (List.mem_of_getElem? found)).within
      have fits := upload.size.fits
      omega

theorem SnapshotOfOwner.bounded {snapshot : ProgressSnapshot}
    (ofOwner : SnapshotOfOwner readout.uploads snapshot) (sound : Sound readout) :
    snapshot.sent ≤ snapshot.total := by
  unfold SnapshotOfOwner at ofOwner
  cases owner : snapshot.owner with
  | none =>
      rw [owner] at ofOwner
      omega
  | some owner' =>
      rw [owner] at ofOwner
      obtain ⟨upload, found, total, sent⟩ := ofOwner
      have within := (sound.uploads upload (List.mem_of_getElem? found)).within
      omega

theorem AboutOneUpload.bounded (about : AboutOneUpload readout) (sound : Sound readout) :
    Bounded readout where
  slots place slot found := ((about.slots place slot found).fits sound).1
  snapshots snapshot member := (about.snapshots snapshot member).bounded sound

theorem SlotOfOwner.iff_of_owner {uploads : List CountedUpload} {slot : ProgressSlot} {owner : Nat}
    {upload : CountedUpload} (isOwner : slot.owner = some owner)
    (found : uploads[owner]? = some upload) :
    SlotOfOwner uploads slot ↔ slot.total = upload.size.bytes ∧ slot.sent = upload.read := by
  unfold SlotOfOwner
  rw [isOwner]
  constructor
  · intro loaded
    obtain ⟨held, foundHeld, counts⟩ := loaded
    rw [found] at foundHeld
    obtain rfl := Option.some.inj foundHeld
    exact counts
  · intro counts
    exact ⟨upload, found, counts⟩

/-- What a poll loads of a slot is of the owner that the slot has by then. -/
theorem SlotOfOwner.loaded {uploads : List CountedUpload} {slot : ProgressSlot} {sent : Nat}
    (ofOwner : SlotOfOwner uploads slot) (loaded : sent ≤ slot.sent) :
    SnapshotOfOwner uploads { sent, total := slot.total, owner := slot.owner } := by
  unfold SlotOfOwner at ofOwner
  unfold SnapshotOfOwner
  cases owner : slot.owner with
  | none =>
      simp only [owner] at ofOwner ⊢
      omega
  | some owner' =>
      simp only [owner] at ofOwner ⊢
      obtain ⟨upload, found, total, counts⟩ := ofOwner
      exact ⟨upload, found, total, counts ▸ loaded⟩

/-- Where uploads go on without reading, what was about one upload is still. -/
theorem AboutOneUpload.carried (about : AboutOneUpload readout) {uploads : List CountedUpload}
    (carried : Carried Eq readout.uploads uploads) :
    AboutOneUpload { readout with uploads } where
  slots place slot found := (about.slots place slot found).carried carried
  polls := about.polls
  snapshots snapshot member := (about.snapshots snapshot member).carried carried.grown

/-- A new slot is about its owner, which has read nothing. -/
theorem AboutOneUpload.addSlot (about : AboutOneUpload readout) {slot : ProgressSlot}
    (ofOwner : SlotOfOwner readout.uploads slot) :
    AboutOneUpload { readout with slots := readout.slots ++ [slot] } where
  slots place other found := by
    rcases Places.concat_cases found with earlier | ⟨-, rfl⟩
    · exact about.slots place other earlier
    · exact ofOwner
  polls poll member := by
    obtain ⟨held, found, sent⟩ := about.polls poll member
    exact ⟨held, Places.found_append found _, sent⟩
  snapshots := about.snapshots

/-- A total is set where nothing is counted. -/
theorem setTotal_iff (sound : Sound readout) (about : AboutOneUpload readout) {setter : Nat}
    {counting : CountedUpload} {slot : ProgressSlot}
    (found : readout.counted setter = some (counting, slot)) (opened : counting.stage = .opened) :
    AboutOneUpload { readout with
        slots := readout.slots.set counting.slot
          { slot with total := counting.size.bytes, owner := some setter }
        uploads := readout.uploads.set setter { counting with stage := .counting } } ↔
      slot.sent = 0 := by
  obtain ⟨foundUpload, foundSlot⟩ := counted_eq_some.mp found
  have unread := (sound.uploads counting (List.mem_of_getElem? foundUpload)).opened opened
  have setSlot := Places.found_set_self foundSlot
    { slot with total := counting.size.bytes, owner := some setter }
  have setUpload := Places.found_set_self foundUpload { counting with stage := .counting }
  have ofOwner : SlotOfOwner (readout.uploads.set setter { counting with stage := .counting })
      { slot with total := counting.size.bytes, owner := some setter } ↔ slot.sent = 0 := by
    rw [SlotOfOwner.iff_of_owner rfl setUpload]
    simp only [true_and, unread]
  constructor
  · intro after
    exact ofOwner.mp (after.slots counting.slot _ setSlot)
  · intro nothing
    have carried : Carried Eq readout.uploads
        (readout.uploads.set setter { counting with stage := .counting }) :=
      carried_set (@rfl Nat) foundUpload rfl rfl rfl
    constructor
    case slots =>
      intro place other held
      rcases Places.set_cases held with ⟨rfl, rfl⟩ | ⟨-, earlier⟩
      · exact ofOwner.mpr nothing
      · exact (about.slots place other earlier).carried carried
    case polls =>
      exact fun poll member => (about.polls poll member).set foundSlot (Nat.le_refl slot.sent)
    case snapshots =>
      intro snapshot member
      exact (about.snapshots snapshot member).carried carried.grown

/-- Another upload's reading does not change what a slot is about. -/
theorem SlotOfOwner.set_iff {uploads : List CountedUpload} {slot : ProgressSlot} {reader : Nat}
    (apart : slot.owner ≠ some reader) (later : CountedUpload) :
    SlotOfOwner (uploads.set reader later) slot ↔ SlotOfOwner uploads slot := by
  unfold SlotOfOwner
  cases owner : slot.owner with
  | none => exact Iff.rfl
  | some owner' =>
      have other : reader ≠ owner' := by
        rintro rfl
        exact apart owner
      simp only [List.getElem?_set_ne other]

theorem SlotOfOwner.sent_unique {uploads : List CountedUpload} {slot : ProgressSlot} {sent : Nat}
    (ofOwner : SlotOfOwner uploads slot) (also : SlotOfOwner uploads { slot with sent }) :
    sent = slot.sent := by
  unfold SlotOfOwner at *
  cases owner : slot.owner with
  | none =>
      rw [owner] at ofOwner
      simp only [owner] at also
      rw [ofOwner, also]
  | some owner' =>
      rw [owner] at ofOwner
      simp only [owner] at also
      obtain ⟨upload, found, -, sentEq⟩ := ofOwner
      obtain ⟨other, foundToo, -, sentToo⟩ := also
      rw [found] at foundToo
      obtain rfl := Option.some.inj foundToo
      rw [sentEq, sentToo]

/-- The bytes of the owner are counted on both sides, and so are no bytes. -/
theorem SlotOfOwner.read {uploads : List CountedUpload} {slot : ProgressSlot}
    (ofOwner : SlotOfOwner uploads slot) {reader bytes : Nat} {counting : CountedUpload}
    (found : uploads[reader]? = some counting) (own : bytes = 0 ∨ slot.owner = some reader) :
    SlotOfOwner (uploads.set reader { counting with read := counting.read + bytes })
      { slot with sent := slot.sent + bytes } := by
  rcases own with rfl | isOwner
  · exact SlotOfOwner.carried ofOwner (carried_set (@rfl Nat) found rfl rfl rfl)
  · obtain ⟨total, sent⟩ := (SlotOfOwner.iff_of_owner isOwner found).mp ofOwner
    have still : ({ slot with sent := slot.sent + bytes } : ProgressSlot).owner = some reader :=
      isOwner
    refine (SlotOfOwner.iff_of_owner still (Places.found_set_self found _)).mpr ?_
    exact ⟨total, congrArg (· + bytes) sent⟩

/-- Bytes are counted by the upload that has set the total. -/
theorem read_iff (sound : Sound readout) (about : AboutOneUpload readout) {reader bytes : Nat}
    {counting : CountedUpload} {slot : ProgressSlot}
    (found : readout.counted reader = some (counting, slot))
    (within : counting.read + bytes ≤ counting.size.bytes) :
    AboutOneUpload { readout with
        slots := readout.slots.set counting.slot { slot with sent := (slot.sent + bytes) % 2 ^ 64 }
        uploads := readout.uploads.set reader { counting with read := counting.read + bytes } } ↔
      bytes = 0 ∨ slot.owner = some reader := by
  obtain ⟨foundUpload, foundSlot⟩ := counted_eq_some.mp found
  have ofOwner := about.slots counting.slot slot foundSlot
  have fits := counting.size.fits
  have small : slot.sent < 2 ^ 63 := (SlotOfOwner.fits ofOwner sound).2
  have sum : (slot.sent + bytes) % 2 ^ 64 = slot.sent + bytes := Nat.mod_eq_of_lt (by omega)
  rw [sum]
  constructor
  · intro after
    by_contra neither
    obtain ⟨read, apart⟩ := not_or.mp neither
    have others : ({ slot with sent := slot.sent + bytes } : ProgressSlot).owner ≠ some reader :=
      apart
    have counts := (SlotOfOwner.set_iff others _).mp
      (after.slots counting.slot _ (Places.found_set_self foundSlot _))
    have same := SlotOfOwner.sent_unique ofOwner counts
    omega
  · intro own
    have carried : Carried Nat.le readout.uploads
        (readout.uploads.set reader { counting with read := counting.read + bytes }) :=
      carried_set Nat.le_refl foundUpload rfl rfl (Nat.le_add_right _ _)
    have counts := SlotOfOwner.read ofOwner foundUpload own
    constructor
    case slots =>
      intro place other held
      rcases Places.set_cases held with ⟨rfl, rfl⟩ | ⟨apart, earlier⟩
      · exact counts
      · refine (SlotOfOwner.set_iff ?_ _).mpr (about.slots place other earlier)
        intro isOwner
        obtain ⟨upload, foundOwner, onSlot, -⟩ := sound.owned place other earlier reader isOwner
        rw [foundUpload] at foundOwner
        obtain rfl := Option.some.inj foundOwner
        exact apart onSlot.symm
    case polls =>
      exact fun poll member => (about.polls poll member).set foundSlot (Nat.le_add_right _ _)
    case snapshots =>
      exact fun snapshot member => (about.snapshots snapshot member).carried carried

theorem step_about_iff (sound : Sound readout) (about : AboutOneUpload readout) {action : Action}
    (stepped : readout.step action = some after) :
    AboutOneUpload after ↔ Alone readout action := by
  cases step_cases stepped with
  | beginProgress total => exact iff_of_true (about.addSlot rfl) trivial
  | startStream size =>
      refine iff_of_true ?_ trivial
      refine (about.carried (carried_append (@rfl Nat) _ _)).addSlot ?_
      exact (SlotOfOwner.iff_of_owner rfl List.getElem?_concat_length).mpr ⟨rfl, rfl⟩
  | openFile slot size =>
      exact iff_of_true (about.carried (carried_append (@rfl Nat) _ _)) trivial
  | @setTotal setter counting slot found opened =>
      rw [setTotal_iff sound about found opened]
      constructor
      · intro nothing other held foundToo
        rw [found] at foundToo
        cases foundToo
        exact nothing
      · intro alone
        exact alone counting slot found
  | @read reader bytes counting slot found isCounting within =>
      rw [read_iff sound about found within]
      constructor
      · intro own other held foundToo
        rw [found] at foundToo
        cases foundToo
        exact own
      · intro alone
        exact alone counting slot found
  | finish found =>
      exact iff_of_true (about.carried (carried_set (@rfl Nat) found rfl rfl rfl)) trivial
  | @loadSent place slot found =>
      refine iff_of_true { about with polls := ?_ } trivial
      exact List.forall_mem_append.mpr
        ⟨about.polls, List.forall_mem_singleton.mpr ⟨slot, found, Nat.le_refl _⟩⟩
  | @loadTotal place poll slot polled found =>
      refine iff_of_true ⟨about.slots, ?_, ?_⟩ trivial
      · exact fun other member => about.polls other (List.mem_of_mem_eraseIdx member)
      · obtain ⟨held, foundToo, sent⟩ := about.polls poll (List.mem_of_getElem? polled)
        rw [found] at foundToo
        obtain rfl := Option.some.inj foundToo
        exact List.forall_mem_append.mpr ⟨about.snapshots, List.forall_mem_singleton.mpr
          (SlotOfOwner.loaded (about.slots poll.slot slot found) sent)⟩

/-- The readouts of a run are about one upload each exactly if its uploads are alone
on their slots. -/
theorem readouts_iff_alone {trace : List Action} {final : ProgressReadout}
    (ran : system.run trace = some final) :
    (∀ early readout, early <+: trace → system.run early = some readout →
      AboutOneUpload readout ∧ Bounded readout) ↔
    system.Along Alone initial trace := by
  have sound {readout : ProgressReadout} (reached : system.Reachable readout) : Sound readout :=
    reached.invariant sound_initial step_sound
  refine Iff.trans ?_ (System.runFrom_throughout_iff (fun _ _ _ reached about stepped =>
    step_about_iff (sound reached) about stepped) .initial aboutOneUpload_initial ran)
  constructor
  · intro all early readout start passed
    exact (all early readout start passed).1
  · intro all early readout start passed
    have about := all early readout start passed
    exact ⟨about, about.bounded (sound (System.reachable_of_run passed))⟩

/-- A file of ten bytes fails after six of them and is uploaded again. -/
def retried : List Action :=
  [.beginProgress 0, .openFile 0 ⟨10, by decide⟩, .setTotal 0, .read 0 6, .finish 0,
    .openFile 0 ⟨10, by decide⟩, .setTotal 1, .read 1 10, .loadSent 0, .loadTotal 0]

theorem readouts_iff_alone_retried : ∃ final, system.run retried = some final ∧
    ((∀ early readout, early <+: retried → system.run early = some readout →
      AboutOneUpload readout ∧ Bounded readout) ↔ system.Along Alone initial retried) :=
  ⟨_, rfl, readouts_iff_alone rfl⟩

theorem retried_counts_both : ∃ final, system.run retried = some final ∧
    final.snapshots = [{ sent := 16, total := 10, owner := some 1 }] ∧ ¬ Bounded final := by
  refine ⟨_, rfl, rfl, fun bounded => ?_⟩
  have least := bounded.snapshots _ List.mem_cons_self
  exact absurd least (by decide)

end ProgressReadout
end Kotlogramme.Files
