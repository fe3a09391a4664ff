/-
Reading a dialog filter and writing it back.

A read projects a filter of the layer and registers the peers it can resolve, a
write builds a plain filter from the projection.  The projection has no place for
the entities of the title, the emoticon, the color and the animation flag, and it
leaves out the peers it cannot resolve, so a filter comes back unchanged just when
it has none of these.
-/

import Kotlogramme.Client.Peers
import Kotlogramme.Foundation.Traverse

namespace Kotlogramme.Folders

open Kotlogramme.Protocol Kotlogramme.Client

/-! ### The layer's filters -/

structure TextWithEntities where
  text : String
  entities : List MessageEntity

/-- The layer's plain `dialogFilter`. -/
structure PlainFilter where
  contacts : Bool
  nonContacts : Bool
  groups : Bool
  broadcasts : Bool
  bots : Bool
  excludeMuted : Bool
  excludeRead : Bool
  excludeArchived : Bool
  titleNoanimate : Bool
  id : Int
  title : TextWithEntities
  emoticon : Option String
  color : Option Int
  pinnedPeers : List InputPeer
  includePeers : List InputPeer
  excludePeers : List InputPeer

structure ChatlistFilter where
  hasMyInvites : Bool
  titleNoanimate : Bool
  id : Int
  title : TextWithEntities
  emoticon : Option String
  color : Option Int
  pinnedPeers : List InputPeer
  includePeers : List InputPeer

inductive DialogFilter
  | filter (filter : PlainFilter)
  | chatlist (chatlist : ChatlistFilter)
  | default

def PlainFilter.peers (filter : PlainFilter) : List InputPeer :=
  filter.pinnedPeers ++ filter.includePeers ++ filter.excludePeers

/-! ### Reading -/

/-- A registered peer by its handle. -/
structure PeerDto where
  nativeHandle : Int

structure DialogFolderDto where
  id : Int
  kind : String
  title : String
  contacts : Bool := false
  nonContacts : Bool := false
  groups : Bool := false
  broadcasts : Bool := false
  bots : Bool := false
  excludeMuted : Bool := false
  excludeRead : Bool := false
  excludeArchived : Bool := false
  hasMyInvites : Bool := false
  pinnedPeers : List PeerDto
  includePeers : List PeerDto
  excludePeers : List PeerDto

variable {π ρ : Type} (grammers : Grammers π ρ)

def peerDto (peer : π) : Stateful (PeerRegistry π) PeerDto := do
  return ⟨← registerPeer peer⟩

/-- An empty peer and one that does not resolve are skipped. -/
def peersDto : List InputPeer → Stateful (PeerRegistry π) (List PeerDto)
  | [] => return []
  | peer :: rest =>
      if peer = .empty then peersDto rest
      else
        match grammers.resolvePeer peer with
        | .error _ => peersDto rest
        | .ok resolved => do
            let row ← peerDto resolved
            let rows ← peersDto rest
            return row :: rows

def titleText (title : TextWithEntities) : String := title.text

def dialogFolderDto : DialogFilter → Stateful (PeerRegistry π) DialogFolderDto
  | .filter filter => do
      let pinnedPeers ← peersDto grammers filter.pinnedPeers
      let includePeers ← peersDto grammers filter.includePeers
      let excludePeers ← peersDto grammers filter.excludePeers
      return {
        id := filter.id
        kind := "filter"
        title := titleText filter.title
        contacts := filter.contacts
        nonContacts := filter.nonContacts
        groups := filter.groups
        broadcasts := filter.broadcasts
        bots := filter.bots
        excludeMuted := filter.excludeMuted
        excludeRead := filter.excludeRead
        excludeArchived := filter.excludeArchived
        pinnedPeers := pinnedPeers
        includePeers := includePeers
        excludePeers := excludePeers }
  | .chatlist chatlist => do
      let pinnedPeers ← peersDto grammers chatlist.pinnedPeers
      let includePeers ← peersDto grammers chatlist.includePeers
      return {
        id := chatlist.id
        kind := "chatlist"
        title := titleText chatlist.title
        hasMyInvites := chatlist.hasMyInvites
        pinnedPeers := pinnedPeers
        includePeers := includePeers
        excludePeers := [] }
  | .default =>
      return {
        id := 0
        kind := "default"
        title := ""
        pinnedPeers := []
        includePeers := []
        excludePeers := [] }

/-! ### The facade -/

structure TelegramPeer where
  nativeHandle : Int

structure DialogFolder where
  id : Int
  kind : String
  title : String
  contacts : Bool
  nonContacts : Bool
  groups : Bool
  broadcasts : Bool
  bots : Bool
  excludeMuted : Bool
  excludeRead : Bool
  excludeArchived : Bool
  hasMyInvites : Bool
  pinnedPeers : List TelegramPeer
  includePeers : List TelegramPeer
  excludePeers : List TelegramPeer

structure DialogFolderSpec where
  title : String
  contacts : Bool
  nonContacts : Bool
  groups : Bool
  broadcasts : Bool
  bots : Bool
  excludeMuted : Bool
  excludeRead : Bool
  excludeArchived : Bool
  pinnedPeers : List TelegramPeer
  includePeers : List TelegramPeer
  excludePeers : List TelegramPeer

def PeerDto.toCompatibility (peer : PeerDto) : TelegramPeer := ⟨peer.nativeHandle⟩

def DialogFolderDto.toCompatibility (folder : DialogFolderDto) : DialogFolder where
  id := folder.id
  kind := folder.kind
  title := folder.title
  contacts := folder.contacts
  nonContacts := folder.nonContacts
  groups := folder.groups
  broadcasts := folder.broadcasts
  bots := folder.bots
  excludeMuted := folder.excludeMuted
  excludeRead := folder.excludeRead
  excludeArchived := folder.excludeArchived
  hasMyInvites := folder.hasMyInvites
  pinnedPeers := folder.pinnedPeers.map PeerDto.toCompatibility
  includePeers := folder.includePeers.map PeerDto.toCompatibility
  excludePeers := folder.excludePeers.map PeerDto.toCompatibility

/-- The spec with which a caller writes back what it has read. -/
def DialogFolder.spec (folder : DialogFolder) : DialogFolderSpec where
  title := folder.title
  contacts := folder.contacts
  nonContacts := folder.nonContacts
  groups := folder.groups
  broadcasts := folder.broadcasts
  bots := folder.bots
  excludeMuted := folder.excludeMuted
  excludeRead := folder.excludeRead
  excludeArchived := folder.excludeArchived
  pinnedPeers := folder.pinnedPeers
  includePeers := folder.includePeers
  excludePeers := folder.excludePeers

structure DialogFilterSpec where
  title : String
  contacts : Bool
  nonContacts : Bool
  groups : Bool
  broadcasts : Bool
  bots : Bool
  excludeMuted : Bool
  excludeRead : Bool
  excludeArchived : Bool
  pinnedPeers : List PeerTarget
  includePeers : List PeerTarget
  excludePeers : List PeerTarget

def TelegramPeer.target (peer : TelegramPeer) : PeerTarget := ⟨some peer.nativeHandle, none⟩

def DialogFolderSpec.toBridge (spec : DialogFolderSpec) : DialogFilterSpec where
  title := spec.title
  contacts := spec.contacts
  nonContacts := spec.nonContacts
  groups := spec.groups
  broadcasts := spec.broadcasts
  bots := spec.bots
  excludeMuted := spec.excludeMuted
  excludeRead := spec.excludeRead
  excludeArchived := spec.excludeArchived
  pinnedPeers := spec.pinnedPeers.map TelegramPeer.target
  includePeers := spec.includePeers.map TelegramPeer.target
  excludePeers := spec.excludePeers.map TelegramPeer.target

/-! ### Writing -/

def peersInput (registry : PeerRegistry π) (targets : List PeerTarget) :
    Except String (List InputPeer) :=
  targets.mapM fun target => grammers.inputPeer <$> resolvePeer grammers registry target

def dialogFilterInput (registry : PeerRegistry π) (id : Int) (spec : DialogFilterSpec) :
    Except String DialogFilter := do
  let pinnedPeers ← peersInput grammers registry spec.pinnedPeers
  let includePeers ← peersInput grammers registry spec.includePeers
  let excludePeers ← peersInput grammers registry spec.excludePeers
  return .filter {
    contacts := spec.contacts
    nonContacts := spec.nonContacts
    groups := spec.groups
    broadcasts := spec.broadcasts
    bots := spec.bots
    excludeMuted := spec.excludeMuted
    excludeRead := spec.excludeRead
    excludeArchived := spec.excludeArchived
    titleNoanimate := false
    id := id
    title := ⟨spec.title, []⟩
    emoticon := none
    color := none
    pinnedPeers := pinnedPeers
    includePeers := includePeers
    excludePeers := excludePeers }

/-- Writes back what a read has projected. -/
def writeBack (registry : PeerRegistry π) (folder : DialogFolderDto) :
    Except String DialogFilter :=
  dialogFilterInput grammers registry folder.toCompatibility.id
    folder.toCompatibility.spec.toBridge

/-! ### What becomes of the peers -/

/-- The peer a read registers. -/
def readable (peer : InputPeer) : Option π :=
  if peer = .empty then none
  else
    match grammers.resolvePeer peer with
    | .error _ => none
    | .ok resolved => some resolved

/-- What a write sends for a registered peer. -/
def rewrite (registry : PeerRegistry π) (peer : π) : Except String InputPeer :=
  if registry.poisoned then .error "peer registry is poisoned"
  else grammers.inputPeer <$> peerRef grammers peer

def Registered (registry : PeerRegistry π) (rows : List PeerDto) (peers : List π) : Prop :=
  List.Forall₂ (fun row peer => registry.get? row.nativeHandle = some peer) rows peers

theorem Registered.extends {before later : PeerRegistry π} {rows : List PeerDto} {peers : List π}
    (registered : Registered before rows peers) (kept : before.Extends later) :
    Registered later rows peers :=
  List.Forall₂.imp (fun row peer found => kept row.nativeHandle peer found) registered

theorem peerDto_eq_ok {registry after : PeerRegistry π} {peer : π} {row : PeerDto}
    (ran : (peerDto peer).runOn registry = (.ok row, after)) :
    registry.Extends after ∧ after.get? row.nativeHandle = some peer := by
  rw [peerDto, Fallible.runOn_bind, registerPeer_runOn] at ran
  cases lock : registry.poisoned with
  | true =>
      rw [lock] at ran
      cases ran
  | false =>
      rw [lock] at ran
      cases ran
      exact ⟨registry.insertNext_extends peer, registry.insertNext_get?_self peer⟩

theorem peersDto_eq_ok {peers : List InputPeer} {registry after : PeerRegistry π}
    {rows : List PeerDto}
    (projected : (peersDto grammers peers).runOn registry = (.ok rows, after)) :
    registry.Extends after ∧ Registered after rows (peers.filterMap (readable grammers)) := by
  induction peers generalizing registry rows with
  | nil =>
      cases projected
      exact ⟨.refl _, .nil⟩
  | cons peer rest ih =>
      by_cases isEmpty : peer = .empty
      · rw [peersDto, if_pos isEmpty] at projected
        have skipped : readable grammers peer = none := if_pos isEmpty
        rw [List.filterMap_cons_none skipped]
        exact ih projected
      · rw [peersDto, if_neg isEmpty] at projected
        cases answer : grammers.resolvePeer peer with
        | error failure =>
            have skipped : readable grammers peer = none := by
              rw [readable, if_neg isEmpty, answer]
            rw [List.filterMap_cons_none skipped]
            rw [answer] at projected
            exact ih projected
        | ok resolved =>
            have read : readable grammers peer = some resolved := by
              rw [readable, if_neg isEmpty, answer]
            rw [List.filterMap_cons_some read]
            rw [answer] at projected
            obtain ⟨row, first, ranRow, continued⟩ := Fallible.runOn_bind_eq_ok projected
            obtain ⟨laterRows, last, others, built⟩ := Fallible.runOn_bind_eq_ok continued
            cases built
            obtain ⟨kept, registered⟩ := ih others
            obtain ⟨toFirst, found⟩ := peerDto_eq_ok ranRow
            exact ⟨toFirst.trans kept, .cons (kept _ _ found) registered⟩

theorem peersInput_of_registered {registry : PeerRegistry π} {rows : List PeerDto}
    {peers : List π} (registered : Registered registry rows peers) :
    peersInput grammers registry
        ((rows.map PeerDto.toCompatibility).map TelegramPeer.target) =
      peers.mapM (rewrite grammers registry) := by
  unfold peersInput
  induction registered with
  | nil => rfl
  | @cons row peer laterRows later found _ ih =>
      have same : grammers.inputPeer <$>
          resolvePeer grammers registry row.toCompatibility.target =
            rewrite grammers registry peer := by
        rw [TelegramPeer.target, PeerDto.toCompatibility, resolvePeer_of_get? found, rewrite]
        cases registry.poisoned <;> rfl
      rw [List.map_cons, List.map_cons, List.mapM_cons, List.mapM_cons, ih, same]

/-- The peers a write sends for those of a filter. -/
def rewritten (registry : PeerRegistry π) (peers : List InputPeer) :
    Except String (List InputPeer) :=
  (peers.filterMap (readable grammers)).mapM (rewrite grammers registry)

/-- The peer is read, and the write has its own input peer for it. -/
def Returned (registry : PeerRegistry π) (peer : InputPeer) : Prop :=
  ∃ resolved, readable grammers peer = some resolved ∧
    rewrite grammers registry resolved = .ok peer

/-- The peer is read, and the write is refused for it. -/
def Unwritable (registry : PeerRegistry π) (peer : InputPeer) : Prop :=
  ∃ resolved failure, readable grammers peer = some resolved ∧
    rewrite grammers registry resolved = .error failure

theorem rewritten_length_le {registry : PeerRegistry π} {peers written : List InputPeer}
    (sent : rewritten grammers registry peers = .ok written) : written.length ≤ peers.length := by
  rw [← (mapM_eq_ok_iff.mp sent).length_eq]
  exact List.length_filterMap_le _ _

/-- The peers come back as they were just when each of them does. -/
theorem rewritten_eq_iff {registry : PeerRegistry π} {peers written : List InputPeer}
    (sent : rewritten grammers registry peers = .ok written) :
    written = peers ↔ ∀ peer ∈ peers, Returned grammers registry peer := by
  induction peers generalizing written with
  | nil =>
      cases sent
      simp
  | cons peer rest ih =>
      cases read : readable grammers peer with
      | none =>
          -- a skipped peer leaves the list too short
          have skipped : rewritten grammers registry rest = .ok written := by
            rw [rewritten, List.filterMap_cons_none read] at sent
            exact sent
          have short := rewritten_length_le grammers skipped
          constructor
          · rintro rfl
            rw [List.length_cons] at short
            omega
          · intro returned
            obtain ⟨resolved, found, -⟩ := returned peer List.mem_cons_self
            rw [read] at found
            cases found
      | some resolved =>
          rw [rewritten, List.filterMap_cons_some read, List.mapM_cons, bind_eq_ok] at sent
          obtain ⟨first, sentFirst, continued⟩ := sent
          obtain ⟨others, sentOthers, built⟩ := bind_eq_ok.mp continued
          cases built
          have returned_iff : Returned grammers registry peer ↔ first = peer := by
            constructor
            · rintro ⟨found, isFound, same⟩
              rw [read] at isFound
              cases isFound
              rw [sentFirst] at same
              exact Except.ok.inj same
            · rintro rfl
              exact ⟨resolved, read, sentFirst⟩
          rw [List.cons_eq_cons, List.forall_mem_cons, returned_iff, ih sentOthers]

theorem rewritten_fails {registry : PeerRegistry π} {peers : List InputPeer} {peer : InputPeer}
    (member : peer ∈ peers) (unwritable : Unwritable grammers registry peer) :
    ∃ failure, rewritten grammers registry peers = .error failure := by
  obtain ⟨resolved, failure, read, refused⟩ := unwritable
  exact mapM_fails (List.mem_filterMap.mpr ⟨peer, member, read⟩) refused

theorem rewritten_succeeds {registry : PeerRegistry π} {peers : List InputPeer}
    (writable : ∀ peer ∈ peers, ¬ Unwritable grammers registry peer) :
    ∃ written, rewritten grammers registry peers = .ok written := by
  refine mapM_succeeds fun resolved registered => ?_
  obtain ⟨peer, member, read⟩ := List.mem_filterMap.mp registered
  cases sent : rewrite grammers registry resolved with
  | ok written => exact ⟨written, rfl⟩
  | error failure => exact absurd ⟨resolved, failure, read, sent⟩ (writable peer member)

/-- A peer that grammers resolves has itself as the input peer of its reference. -/
def ResolvesToSame : Prop :=
  ∀ peer resolved, grammers.resolvePeer peer = .ok resolved →
    grammers.inputPeer <$> peerRef grammers resolved = .ok peer

/-- The session has access to the peer. -/
def Accessible (peer : InputPeer) : Prop :=
  peer ≠ .empty ∧ ∃ resolved, grammers.resolvePeer peer = .ok resolved

theorem readable_eq_some {peer : InputPeer} {resolved : π} :
    readable grammers peer = some resolved ↔
      peer ≠ .empty ∧ grammers.resolvePeer peer = .ok resolved := by
  unfold readable
  by_cases isEmpty : peer = .empty
  · simp [isEmpty]
  · cases grammers.resolvePeer peer <;> simp [isEmpty]

section Same

variable {registry : PeerRegistry π} (unlocked : registry.poisoned = false)
  (same : ResolvesToSame grammers) (peer : InputPeer)

include unlocked same

theorem returned_iff_accessible : Returned grammers registry peer ↔ Accessible grammers peer := by
  constructor
  · rintro ⟨resolved, read, -⟩
    obtain ⟨named, answer⟩ := (readable_eq_some grammers).mp read
    exact ⟨named, resolved, answer⟩
  · rintro ⟨named, resolved, answer⟩
    refine ⟨resolved, (readable_eq_some grammers).mpr ⟨named, answer⟩, ?_⟩
    rw [rewrite, unlocked, if_neg Bool.false_ne_true]
    exact same peer resolved answer

theorem writable_of_same : ¬ Unwritable grammers registry peer := by
  rintro ⟨resolved, failure, read, refused⟩
  obtain ⟨-, answer⟩ := (readable_eq_some grammers).mp read
  rw [rewrite, unlocked, if_neg Bool.false_ne_true, same peer resolved answer] at refused
  cases refused

end Same

/-! ### Writing back -/

/-- What becomes of a plain filter that is read and written back. -/
def rebuilt (registry : PeerRegistry π) (filter : PlainFilter) : Except String DialogFilter := do
  let pinnedPeers ← rewritten grammers registry filter.pinnedPeers
  let includePeers ← rewritten grammers registry filter.includePeers
  let excludePeers ← rewritten grammers registry filter.excludePeers
  return .filter { filter with
    titleNoanimate := false
    title := ⟨filter.title.text, []⟩
    emoticon := none
    color := none
    pinnedPeers := pinnedPeers
    includePeers := includePeers
    excludePeers := excludePeers }

theorem writeBack_eq {registry after later : PeerRegistry π} {filter : PlainFilter}
    {folder : DialogFolderDto}
    (read : (dialogFolderDto grammers (.filter filter)).runOn registry = (.ok folder, after))
    (kept : after.Extends later) :
    writeBack grammers later folder = rebuilt grammers later filter := by
  obtain ⟨pinned, first, ranPinned, continued⟩ := Fallible.runOn_bind_eq_ok read
  obtain ⟨included, second, ranIncluded, continued⟩ := Fallible.runOn_bind_eq_ok continued
  obtain ⟨excluded, third, ranExcluded, built⟩ := Fallible.runOn_bind_eq_ok continued
  cases built
  obtain ⟨-, ofPinned⟩ := peersDto_eq_ok grammers ranPinned
  obtain ⟨toSecond, ofIncluded⟩ := peersDto_eq_ok grammers ranIncluded
  obtain ⟨toThird, ofExcluded⟩ := peersDto_eq_ok grammers ranExcluded
  have fromSecond := toThird.trans kept
  have fromFirst := toSecond.trans fromSecond
  rw [writeBack, dialogFilterInput, rebuilt]
  simp only [DialogFolderDto.toCompatibility, DialogFolder.spec, DialogFolderSpec.toBridge,
    titleText, rewritten, peersInput_of_registered grammers (ofPinned.extends fromFirst),
    peersInput_of_registered grammers (ofIncluded.extends fromSecond),
    peersInput_of_registered grammers (ofExcluded.extends kept)]

/-- The filter has nothing set that the projection has no place for. -/
structure PlainFilter.Bare (filter : PlainFilter) : Prop where
  titleNoanimate : filter.titleNoanimate = false
  entities : filter.title.entities = []
  emoticon : filter.emoticon = none
  color : filter.color = none

theorem rebuilt_fails {registry : PeerRegistry π} {filter : PlainFilter} {peer : InputPeer}
    (member : peer ∈ filter.peers) (unwritable : Unwritable grammers registry peer) :
    ∃ failure, rebuilt grammers registry filter = .error failure := by
  cases result : rebuilt grammers registry filter with
  | error failure => exact ⟨failure, rfl⟩
  | ok written =>
      obtain ⟨pinned, ofPinned, continued⟩ := bind_eq_ok.mp result
      obtain ⟨included, ofIncluded, continued⟩ := bind_eq_ok.mp continued
      obtain ⟨excluded, ofExcluded, -⟩ := bind_eq_ok.mp continued
      have refuted : ∀ {peers sent}, rewritten grammers registry peers = .ok sent →
          peer ∉ peers := by
        intro peers sent wasSent listed
        obtain ⟨failure, fails⟩ := rewritten_fails grammers listed unwritable
        rw [wasSent] at fails
        cases fails
      rw [PlainFilter.peers, List.mem_append, List.mem_append] at member
      rcases member with (listed | listed) | listed
      · exact absurd listed (refuted ofPinned)
      · exact absurd listed (refuted ofIncluded)
      · exact absurd listed (refuted ofExcluded)

/-- With every peer writable, a filter with the written peers is written. -/
theorem rebuilt_of_writable {registry : PeerRegistry π} {filter : PlainFilter}
    (writable : ∀ peer ∈ filter.peers, ¬ Unwritable grammers registry peer) :
    ∃ written : PlainFilter, rebuilt grammers registry filter = .ok (.filter written) ∧
      (written = filter ↔
        filter.Bare ∧ ∀ peer ∈ filter.peers, Returned grammers registry peer) := by
  simp only [PlainFilter.peers, List.forall_mem_append] at writable ⊢
  obtain ⟨pinned, ofPinned⟩ := rewritten_succeeds grammers writable.1.1
  obtain ⟨included, ofIncluded⟩ := rewritten_succeeds grammers writable.1.2
  obtain ⟨excluded, ofExcluded⟩ := rewritten_succeeds grammers writable.2
  refine ⟨_, by rw [rebuilt, ofPinned, ofIncluded, ofExcluded]; rfl, ?_⟩
  rw [← rewritten_eq_iff grammers ofPinned, ← rewritten_eq_iff grammers ofIncluded,
    ← rewritten_eq_iff grammers ofExcluded]
  constructor
  · intro same
    have bare : filter.Bare := by
      rw [← same]
      exact ⟨rfl, rfl, rfl, rfl⟩
    exact ⟨bare, ⟨congrArg PlainFilter.pinnedPeers same, congrArg PlainFilter.includePeers same⟩,
      congrArg PlainFilter.excludePeers same⟩
  · rintro ⟨⟨noanimate, entities, emoticon, color⟩, ⟨rfl, rfl⟩, rfl⟩
    obtain ⟨_, _, _, _, _, _, _, _, _, _, ⟨_, _⟩, _, _, _, _, _⟩ := filter
    cases noanimate
    cases entities
    cases emoticon
    cases color
    rfl

theorem rebuilt_exact_or_refused_iff (registry : PeerRegistry π) (filter : PlainFilter) :
    (rebuilt grammers registry filter = .ok (.filter filter) ∨
        ∃ failure, rebuilt grammers registry filter = .error failure) ↔
      (∃ peer ∈ filter.peers, Unwritable grammers registry peer) ∨
        filter.Bare ∧ ∀ peer ∈ filter.peers, Returned grammers registry peer := by
  by_cases refused : ∃ peer ∈ filter.peers, Unwritable grammers registry peer
  · obtain ⟨peer, member, unwritable⟩ := refused
    exact iff_of_true (.inr (rebuilt_fails grammers member unwritable))
      (.inl ⟨peer, member, unwritable⟩)
  · have writable : ∀ peer ∈ filter.peers, ¬ Unwritable grammers registry peer :=
      fun peer member unwritable => refused ⟨peer, member, unwritable⟩
    obtain ⟨written, sent, same_iff⟩ := rebuilt_of_writable grammers writable
    rw [or_iff_right refused, ← same_iff, sent]
    constructor
    · rintro (same | ⟨failure, failed⟩)
      · exact DialogFilter.filter.inj (Except.ok.inj same)
      · cases failed
    · rintro rfl
      exact .inl rfl

/-- A filter that is read and written back is unchanged, or the write is refused,
just when some peer that is read cannot be written, or the projection has a place
for all that is set and each peer comes back as it was; where grammers resolves a
peer to the same peer, the peers that come back are those the session has access to.
The registry has what the read has registered by the time of the write. -/
theorem writeBack_exact_or_refused_iff {registry after later : PeerRegistry π}
    {filter : PlainFilter} {folder : DialogFolderDto}
    (read : (dialogFolderDto grammers (.filter filter)).runOn registry = (.ok folder, after))
    (kept : after.Extends later) :
    ((writeBack grammers later folder = .ok (.filter filter) ∨
        ∃ failure, writeBack grammers later folder = .error failure) ↔
      (∃ peer ∈ filter.peers, Unwritable grammers later peer) ∨
        filter.Bare ∧ ∀ peer ∈ filter.peers, Returned grammers later peer) ∧
    (later.poisoned = false → ResolvesToSame grammers →
      ((writeBack grammers later folder = .ok (.filter filter) ∨
          ∃ failure, writeBack grammers later folder = .error failure) ↔
        filter.Bare ∧ ∀ peer ∈ filter.peers, Accessible grammers peer)) := by
  rw [writeBack_eq grammers read kept, rebuilt_exact_or_refused_iff grammers later filter]
  refine ⟨Iff.rfl, ?_⟩
  intro unlocked same
  have writable : ¬ ∃ peer ∈ filter.peers, Unwritable grammers later peer := by
    rintro ⟨peer, -, unwritable⟩
    exact writable_of_same grammers unlocked same peer unwritable
  rw [or_iff_right writable]
  refine and_congr_right fun _ => forall₂_congr fun peer _ => ?_
  exact returned_iff_accessible grammers unlocked same peer

/-! ### A filter that comes back changed -/

/-- A session that has access to users, and to no channel. -/
def usersOnly : Grammers InputPeer InputPeer where
  resolvePeer
    | .user userId accessHash => .ok (.user userId accessHash)
    | _ => .error "CHANNEL_PRIVATE"
  resolveUsername _ := .ok none
  isSelf peer := peer == .self
  toRef peer := .ok (some peer)
  selfPeerRef := .self
  inputPeer := id

def emptyRegistry : PeerRegistry InputPeer where
  peers := []
  nextPeerHandle := 1
  poisoned := false
  issued _ member := absurd member List.not_mem_nil

def news : PlainFilter where
  contacts := false
  nonContacts := false
  groups := false
  broadcasts := true
  bots := false
  excludeMuted := false
  excludeRead := false
  excludeArchived := false
  titleNoanimate := false
  id := 2
  title := ⟨"News", []⟩
  emoticon := some "N"
  color := none
  pinnedPeers := []
  includePeers := [.user 7 70, .channel 8 80]
  excludePeers := []

theorem news_read : ∃ folder after,
    (dialogFolderDto usersOnly (.filter news)).runOn emptyRegistry = (.ok folder, after) ∧
      after.poisoned = false :=
  ⟨_, _, rfl, rfl⟩

/-- The emoticon and the channel are gone. -/
theorem news_comes_back_changed :
    ∃ folder after,
      (dialogFolderDto usersOnly (.filter news)).runOn emptyRegistry = (.ok folder, after) ∧
        writeBack usersOnly after folder =
          .ok (.filter { news with emoticon := none, includePeers := [.user 7 70] }) ∧
        ¬ (writeBack usersOnly after folder = .ok (.filter news) ∨
          ∃ failure, writeBack usersOnly after folder = .error failure) := by
  refine ⟨_, _, rfl, rfl, ?_⟩
  rintro (same | ⟨failure, failed⟩)
  · have emoticon := congrArg PlainFilter.emoticon (DialogFilter.filter.inj (Except.ok.inj same))
    cases emoticon
  · cases failed

theorem resolvesToSame_usersOnly : ResolvesToSame usersOnly := by
  intro peer resolved answer
  cases peer with
  | user userId accessHash =>
      cases answer
      rfl
  | _ => cases answer

theorem writeBack_exact_or_refused_iff_news :
    ∃ folder after,
      (dialogFolderDto usersOnly (.filter news)).runOn emptyRegistry = (.ok folder, after) ∧
        ((writeBack usersOnly after folder = .ok (.filter news) ∨
            ∃ failure, writeBack usersOnly after folder = .error failure) ↔
          (∃ peer ∈ news.peers, Unwritable usersOnly after peer) ∨
            news.Bare ∧ ∀ peer ∈ news.peers, Returned usersOnly after peer) ∧
        ((writeBack usersOnly after folder = .ok (.filter news) ∨
            ∃ failure, writeBack usersOnly after folder = .error failure) ↔
          news.Bare ∧ ∀ peer ∈ news.peers, Accessible usersOnly peer) := by
  obtain ⟨folder, after, read, unlocked⟩ := news_read
  obtain ⟨general, accessible⟩ := writeBack_exact_or_refused_iff usersOnly read (.refl after)
  exact ⟨folder, after, read, general, accessible unlocked resolvesToSame_usersOnly⟩

end Kotlogramme.Folders
