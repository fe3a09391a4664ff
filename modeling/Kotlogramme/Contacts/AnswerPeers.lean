/-
The peers of an answer, looked up among the users and chats it carries.

A reference of the layer names a user, a basic group or a channel by its bare id.
Basic groups and channels have ids of their own but share one list of objects,
which is searched by the bare id alone.
-/

import Kotlogramme.Client.PeerId
import Kotlogramme.Client.Peers

namespace Kotlogramme.Contacts

open Kotlogramme.Client

/-! ### The layer's objects -/

/-- The layer's `Peer`. -/
inductive LayerPeer
  | user (userId : Int)
  | chat (chatId : Int)
  | channel (channelId : Int)
  deriving DecidableEq

def LayerPeer.peerId : LayerPeer → PeerId
  | .user id => ⟨.user, some id⟩
  | .chat id => ⟨.chat, some id⟩
  | .channel id => ⟨.channel, some id⟩

structure User where
  id : Int

/-- The layer's `Chat`, which grammers gives the peer id of its kind; that of a
community is grammers' own choice. -/
inductive Chat
  | chat (id : Int)
  | channel (id : Int) (megagroup : Bool)
  | community (id : Int) (peerId : PeerId)

def Chat.id : Chat → Int
  | .chat id => id
  | .channel id _ => id
  | .community id _ => id

def Chat.peerId : Chat → PeerId
  | .chat id => ⟨.chat, some id⟩
  | .channel id _ => ⟨.channel, some id⟩
  | .community _ peerId => peerId

/-- An object as grammers' `Peer` holds it. -/
inductive Peer
  | user (user : User)
  | chat (chat : Chat)

namespace Peer

def id : Peer → PeerId
  | .user account => ⟨.user, some account.id⟩
  | .chat object => object.peerId

/-- A megagroup is a group of grammers. -/
def kind : Peer → String
  | .user _ => "user"
  | .chat (.chat _) => "group"
  | .chat (.channel _ megagroup) => if megagroup then "group" else "channel"
  | .chat (.community _ _) => "community"

def isMegagroup : Peer → Option Bool
  | .chat (.chat _) => some false
  | .chat (.channel _ true) => some true
  | _ => none

end Peer

/-! ### The projections -/

structure PeerDto where
  nativeHandle : Int
  id : Int
  kind : String
  isMegagroup : Option Bool

structure UserDto where
  id : Int

structure ContactUserDto where
  user : UserDto
  peer : PeerDto

structure ContactPeerDto where
  user : Option UserDto
  peer : PeerDto

def peerDto (peer : Peer) : Stateful (PeerRegistry Peer) PeerDto := do
  let nativeHandle ← registerPeer peer
  return {
    nativeHandle
    id := peer.id.botApiDialogId.getD 0
    kind := peer.kind
    isMegagroup := peer.isMegagroup }

def userDto (user : User) : UserDto where
  id := ((Peer.user user).id.bareId).getD 0

def contactUserDto (user : User) : Stateful (PeerRegistry Peer) ContactUserDto := do
  let peer ← peerDto (.user user)
  return ⟨userDto user, peer⟩

def contactPeerDto (peer : LayerPeer) (users : List User) (chats : List Chat) :
    Stateful (PeerRegistry Peer) (Option ContactPeerDto) :=
  match peer.peerId.bareId with
  | none => return none
  | some bare =>
      match peer.peerId.kind with
      | .user =>
          match users.find? fun user => user.id == bare with
          | none => return none
          | some user => do
              let projected ← contactUserDto user
              return some ⟨some projected.user, projected.peer⟩
      | .chat | .channel =>
          match chats.find? fun chat => chat.id == bare with
          | none => return none
          | some chat => do
              let projected ← peerDto (.chat chat)
              return some ⟨none, projected⟩

/-- The object of one reference in `peers_dto`. -/
def resolved (peer : LayerPeer) (users : List User) (chats : List Chat) : Option Peer :=
  match peer.peerId.bareId with
  | none => none
  | some bare =>
      match peer.peerId.kind with
      | .user => (users.find? fun user => user.id == bare).map .user
      | .chat | .channel => (chats.find? fun chat => chat.id == bare).map .chat

def peersDto (chats : List Chat) (users : List User) :
    List LayerPeer → Stateful (PeerRegistry Peer) (List PeerDto)
  | [] => return []
  | peer :: rest =>
      match resolved peer users chats with
      | none => peersDto chats users rest
      | some found => do
          let row ← peerDto found
          let rows ← peersDto chats users rest
          return row :: rows

/-! ### What a row stands for -/

/-- The row describes an object with the id of the reference, and its handle is
that object's. -/
def Names (registry : PeerRegistry Peer) (peer : LayerPeer) (row : PeerDto) : Prop :=
  ∃ found : Peer, found.id = peer.peerId ∧ registry.get? row.nativeHandle = some found ∧
    row.id = found.id.botApiDialogId.getD 0 ∧ row.kind = found.kind

/-- The row has the account of a user and describes it. -/
def UserNamed (registry : PeerRegistry Peer) (user : User) (row : ContactUserDto) : Prop :=
  row.user.id = user.id ∧ Names registry (.user user.id) row.peer

def ContactNamed (peer : LayerPeer) (users : List User) (chats : List Chat) : Prop :=
  ∀ registry row after,
    (contactPeerDto peer users chats).runOn registry = (.ok (some row), after) →
      Names after peer row.peer

/-- Each row is that of its own reference; the others are left out. -/
def RowsNamed (peers : List LayerPeer) (users : List User) (chats : List Chat) : Prop :=
  ∀ registry rows after, (peersDto chats users peers).runOn registry = (.ok rows, after) →
    ∃ found, found.Sublist peers ∧ List.Forall₂ (Names after) found rows

/-- The first chat with the bare id of a group or channel is of the same kind. -/
def Unshadowed (chats : List Chat) (peer : LayerPeer) : Prop :=
  peer.peerId.kind ≠ .user →
    ∀ earlier chat later, chats = earlier ++ chat :: later →
      (∀ other ∈ earlier, some other.id ≠ peer.peerId.bareId) →
        some chat.id = peer.peerId.bareId → chat.peerId = peer.peerId

theorem Names.extends {before later : PeerRegistry Peer} {peer : LayerPeer} {row : PeerDto}
    (named : Names before peer row) (kept : before.Extends later) : Names later peer row := by
  obtain ⟨found, same, handle, described⟩ := named
  exact ⟨found, same, kept _ _ handle, described⟩

theorem peerDto_runOn (registry : PeerRegistry Peer) (peer : Peer) :
    (peerDto peer).runOn registry =
      if registry.poisoned then (.error "peer registry is poisoned", registry.issue)
      else (.ok ⟨registry.nextPeerHandle, peer.id.botApiDialogId.getD 0, peer.kind,
        peer.isMegagroup⟩, registry.insertNext peer) := by
  rw [peerDto, Fallible.runOn_bind, registerPeer_runOn]
  cases registry.poisoned <;> rfl

theorem peerDto_eq_ok {registry after : PeerRegistry Peer} {peer : Peer} {row : PeerDto}
    (ran : (peerDto peer).runOn registry = (.ok row, after)) :
    registry.Extends after ∧ after.get? row.nativeHandle = some peer ∧
      row.id = peer.id.botApiDialogId.getD 0 ∧ row.kind = peer.kind := by
  rw [peerDto_runOn] at ran
  cases lock : registry.poisoned with
  | true =>
      rw [lock] at ran
      cases ran
  | false =>
      rw [lock] at ran
      cases ran
      exact ⟨registry.insertNext_extends peer, registry.insertNext_get?_self peer, rfl, rfl⟩

theorem contactUserDto_eq_ok {registry after : PeerRegistry Peer} {user : User}
    {row : ContactUserDto} (ran : (contactUserDto user).runOn registry = (.ok row, after)) :
    registry.Extends after ∧ UserNamed after user row := by
  obtain ⟨peer, later, projected, done⟩ := Fallible.runOn_bind_eq_ok ran
  cases done
  obtain ⟨extended, handle, described⟩ := peerDto_eq_ok projected
  exact ⟨extended, rfl, .user user, rfl, handle, described⟩

theorem UserNamed.extends {before later : PeerRegistry Peer} {user : User} {row : ContactUserDto}
    (named : UserNamed before user row) (kept : before.Extends later) : UserNamed later user row :=
  ⟨named.1, named.2.extends kept⟩

theorem contactUsers_named {users : List User} {registry after : PeerRegistry Peer}
    {rows : List ContactUserDto}
    (ran : (users.mapM contactUserDto).runOn registry = (.ok rows, after)) :
    registry.Extends after ∧ List.Forall₂ (UserNamed after) users rows := by
  apply @Fallible.runOn_mapM_relates _ _ _ _ contactUserDto PeerRegistry.Extends UserNamed
  · exact PeerRegistry.Extends.refl
  · intro first second third earlier later
    exact earlier.trans later
  · intro before later user row grown named
    exact named.extends grown
  · intro user before row after ran
    exact contactUserDto_eq_ok ran
  · exact ran

/-- A group or channel is looked up among the chats, whichever it is. -/
theorem contactPeerDto_group {peer : LayerPeer} {id : Int} (users : List User) (chats : List Chat)
    (group : peer.peerId.kind ≠ .user) (same : peer.peerId.bareId = some id) :
    contactPeerDto peer users chats =
      match chats.find? fun chat => chat.id == id with
      | none => return none
      | some chat => do
          let projected ← peerDto (.chat chat)
          return some ⟨none, projected⟩ := by
  cases peer with
  | user userId => exact absurd rfl group
  | chat chatId =>
      cases same
      rfl
  | channel channelId =>
      cases same
      rfl

theorem resolved_group {peer : LayerPeer} {id : Int} (users : List User) (chats : List Chat)
    (group : peer.peerId.kind ≠ .user) (same : peer.peerId.bareId = some id) :
    resolved peer users chats = (chats.find? fun chat => chat.id == id).map .chat := by
  cases peer with
  | user userId => exact absurd rfl group
  | chat chatId =>
      cases same
      rfl
  | channel channelId =>
      cases same
      rfl

/-- A reference names a user or has the bare id of a group or channel. -/
theorem peer_cases (peer : LayerPeer) :
    (∃ id, peer = .user id) ∨
      ∃ id, peer.peerId.kind ≠ .user ∧ peer.peerId.bareId = some id := by
  cases peer with
  | user id => exact .inl ⟨id, rfl⟩
  | chat id => exact .inr ⟨id, nofun, rfl⟩
  | channel id => exact .inr ⟨id, nofun, rfl⟩

/-- The account of a row, if it stands for one. -/
def Peer.accountDto : Peer → Option UserDto
  | .user account => some (userDto account)
  | .chat _ => none

/-- Both projections look the reference up in the same way. -/
theorem contactPeerDto_eq (peer : LayerPeer) (users : List User) (chats : List Chat) :
    contactPeerDto peer users chats =
      match resolved peer users chats with
      | none => return none
      | some found => do
          let projected ← peerDto found
          return some ⟨found.accountDto, projected⟩ := by
  rcases peer_cases peer with ⟨id, rfl⟩ | ⟨id, group, same⟩
  · unfold contactPeerDto resolved
    simp only [LayerPeer.peerId]
    cases users.find? fun user => user.id == id with
    | none => rfl
    | some user =>
        simp only [contactUserDto, bind_assoc, pure_bind]
        rfl
  · rw [contactPeerDto_group users chats group same, resolved_group users chats group same]
    cases chats.find? fun chat => chat.id == id <;> rfl

theorem contactPeerDto_eq_ok {peer : LayerPeer} {users : List User} {chats : List Chat}
    {registry after : PeerRegistry Peer} {row : ContactPeerDto}
    (ran : (contactPeerDto peer users chats).runOn registry = (.ok (some row), after)) :
    ∃ found, resolved peer users chats = some found ∧
      (peerDto found).runOn registry = (.ok row.peer, after) := by
  rw [contactPeerDto_eq] at ran
  cases hit : resolved peer users chats with
  | none =>
      rw [hit] at ran
      cases ran
  | some found =>
      rw [hit] at ran
      obtain ⟨projected, later, projectedRan, done⟩ := Fallible.runOn_bind_eq_ok ran
      cases done
      exact ⟨found, rfl, projectedRan⟩

theorem contactPeerDto_extends {peer : LayerPeer} {users : List User} {chats : List Chat}
    {registry after : PeerRegistry Peer} {row : Option ContactPeerDto}
    (ran : (contactPeerDto peer users chats).runOn registry = (.ok row, after)) :
    registry.Extends after := by
  rw [contactPeerDto_eq] at ran
  cases hit : resolved peer users chats with
  | none =>
      rw [hit] at ran
      cases ran
      exact .refl _
  | some found =>
      rw [hit] at ran
      obtain ⟨projected, later, projectedRan, done⟩ := Fallible.runOn_bind_eq_ok ran
      cases done
      exact (peerDto_eq_ok projectedRan).1

/-- Where nothing stands in front of it, the first hit is the one of the kind. -/
theorem resolved_id {peer : LayerPeer} {users : List User} {chats : List Chat} {found : Peer}
    (unshadowed : Unshadowed chats peer) (hit : resolved peer users chats = some found) :
    found.id = peer.peerId := by
  rcases peer_cases peer with ⟨id, rfl⟩ | ⟨id, group, same⟩
  · obtain ⟨user, held, rfl⟩ := Option.map_eq_some_iff.mp hit
    have isHit := List.find?_some held
    simp only [beq_iff_eq] at isHit
    rw [Peer.id, isHit]
    rfl
  · rw [resolved_group users chats group same] at hit
    obtain ⟨chat, held, rfl⟩ := Option.map_eq_some_iff.mp hit
    obtain ⟨isHit, earlier, later, split, misses⟩ := List.find?_eq_some_iff_append.mp held
    apply unshadowed group earlier chat later split
    · intro other member
      rw [same]
      simpa using misses other member
    · rw [same]
      simpa using isHit

theorem contactNamed_of_unshadowed {peer : LayerPeer} {chats : List Chat}
    (unshadowed : Unshadowed chats peer) (users : List User) : ContactNamed peer users chats := by
  intro registry row after ran
  obtain ⟨found, hit, projected⟩ := contactPeerDto_eq_ok ran
  obtain ⟨-, handle, described⟩ := peerDto_eq_ok projected
  exact ⟨found, resolved_id unshadowed hit, handle, described⟩

theorem peersDto_extends {chats : List Chat} {users : List User} {peers : List LayerPeer}
    {registry after : PeerRegistry Peer} {rows : List PeerDto}
    (ran : (peersDto chats users peers).runOn registry = (.ok rows, after)) :
    registry.Extends after := by
  induction peers generalizing registry rows with
  | nil =>
      cases ran
      exact .refl _
  | cons peer rest ih =>
      rw [peersDto] at ran
      cases hit : resolved peer users chats with
      | none =>
          rw [hit] at ran
          exact ih ran
      | some found =>
          rw [hit] at ran
          obtain ⟨row, middle, projected, continued⟩ := Fallible.runOn_bind_eq_ok ran
          obtain ⟨others, last, collected, done⟩ := Fallible.runOn_bind_eq_ok continued
          cases done
          exact (peerDto_eq_ok projected).1.trans (ih collected)

theorem rowsNamed_of_unshadowed {peers : List LayerPeer} {chats : List Chat}
    (unshadowed : ∀ peer ∈ peers, Unshadowed chats peer) (users : List User) :
    RowsNamed peers users chats := by
  induction peers with
  | nil =>
      intro registry rows after ran
      cases ran
      exact ⟨[], .slnil, .nil⟩
  | cons peer rest ih =>
      intro registry rows after ran
      have first := unshadowed peer List.mem_cons_self
      have others := ih fun other member => unshadowed other (List.mem_cons_of_mem peer member)
      rw [peersDto] at ran
      cases hit : resolved peer users chats with
      | none =>
          rw [hit] at ran
          obtain ⟨found, sublist, named⟩ := others registry rows after ran
          exact ⟨found, sublist.cons peer, named⟩
      | some object =>
          rw [hit] at ran
          obtain ⟨row, middle, projected, continued⟩ := Fallible.runOn_bind_eq_ok ran
          obtain ⟨later, last, collected, done⟩ := Fallible.runOn_bind_eq_ok continued
          cases done
          obtain ⟨found, sublist, named⟩ := others middle later after collected
          obtain ⟨-, handle, described⟩ := peerDto_eq_ok projected
          have here : Names middle peer row := ⟨object, resolved_id first hit, handle, described⟩
          exact ⟨peer :: found, sublist.cons_cons peer,
            .cons (here.extends (peersDto_extends collected)) named⟩

/-- A chat of another kind with the same bare id is taken for the one named. -/
theorem unshadowed_of_contactNamed {peer : LayerPeer} {users : List User} {chats : List Chat}
    (named : ContactNamed peer users chats) : Unshadowed chats peer := by
  intro group earlier chat later split misses isHit
  have held : (chats.find? fun other => other.id == chat.id) = some chat := by
    rw [List.find?_eq_some_iff_append]
    refine ⟨beq_self_eq_true chat.id, earlier, later, split, ?_⟩
    intro other member
    have apart := misses other member
    rw [← isHit] at apart
    simpa using apart
  let empty : PeerRegistry Peer := ⟨[], 1, false, nofun⟩
  have projected := peerDto_runOn empty (.chat chat)
  have ran : ∃ row, (contactPeerDto peer users chats).runOn empty =
      (.ok (some row), empty.insertNext (.chat chat)) ∧
        row.peer.nativeHandle = empty.nextPeerHandle := by
    rw [contactPeerDto_group users chats group isHit.symm, held]
    dsimp only
    rw [Fallible.runOn_bind, projected]
    exact ⟨_, rfl, rfl⟩
  obtain ⟨row, ran, handle⟩ := ran
  obtain ⟨found, same, registered, -⟩ := named empty row _ ran
  rw [handle, PeerRegistry.insertNext_get?_self] at registered
  cases registered
  exact same

/-- References are resolved to the peers they name just where no chat of another
kind stands in front. -/
theorem named_iff_unshadowed (peers : List LayerPeer) (users : List User) (chats : List Chat) :
    ((∀ peer ∈ peers, ContactNamed peer users chats) ∧ RowsNamed peers users chats) ↔
      ∀ peer ∈ peers, Unshadowed chats peer := by
  constructor
  · intro both peer member
    obtain ⟨named, -⟩ := both
    exact unshadowed_of_contactNamed (named peer member)
  · intro unshadowed
    refine ⟨?_, rowsNamed_of_unshadowed unshadowed users⟩
    intro peer member
    exact contactNamed_of_unshadowed (unshadowed peer member) users

/-- A reference to a basic group is resolved to the channel with its bare id. -/
theorem group_resolved_to_channel :
    resolved (.chat 5) [] [.channel 5 false, .chat 5] = some (.chat (.channel 5 false)) ∧
      ¬ ContactNamed (.chat 5) [] [.channel 5 false, .chat 5] := by
  refine ⟨rfl, ?_⟩
  intro named
  have same := unshadowed_of_contactNamed named nofun [] (.channel 5 false) [.chat 5] rfl nofun rfl
  cases same

end Kotlogramme.Contacts
