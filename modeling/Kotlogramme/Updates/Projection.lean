/-
Projecting a polled update for the facade.

The typed payload is what grammers makes of the raw triple the pump keeps, and
its accessors resolve a peer in the map that came with the update: they answer
nothing, or panic, for a peer the map lacks.  The three bot updates need the peers
their payload names, and their accessors are asked under a guard.  A message is
asked for its peer and its sender without one, and an empty message panics then.
-/

import Kotlogramme.Foundation.LittleEndian
import Kotlogramme.Foundation.Stateful

namespace Kotlogramme.Updates

open Fallible

/-! ### What grammers hands over -/

/-- What every peer has: its dialog id in the form of the bot API, if it has
one, and whatever else is projected of it. -/
structure Chat (χ : Type) where
  dialogId : Option Int
  description : χ

/-- A resolved peer.  A user stands for the projection of a user, which is
total. -/
inductive Peer (υ χ : Type)
  | user (user : υ) (chat : Chat χ)
  | group (chat : Chat χ)
  | channel (chat : Chat χ)
  | community (chat : Chat χ)

def Peer.chat {υ χ : Type} : Peer υ χ → Chat χ
  | .user _ chat => chat
  | .group chat => chat
  | .channel chat => chat
  | .community chat => chat

inductive MessageBox
  | common (pts : Int)
  | secondary (qts : Int)
  | channel (channelId pts : Int)
  deriving DecidableEq

/-- grammers' update state, with the date in seconds. -/
structure UpdateState where
  date : Int
  seq : Int
  messageBox : Option MessageBox
  deriving DecidableEq

/-- What an accessor does that panics for want of what it looks for. -/
inductive Accessor (α : Type)
  | panics
  | answers (found : Option α)

/-- Where a message was sent and by whom; `dialogId` is of its peer id. -/
structure Place (υ χ : Type) where
  dialogId : Option Int
  peer : Option (Peer υ χ)
  sender : Option (Peer υ χ)

/-- A grammers message: what is projected of it as it is, and its place, which an
empty message lacks. -/
structure Message (υ χ μ : Type) where
  content : μ
  place : Option (Place υ χ)

namespace Message

variable {υ χ μ : Type}

/-- Asking an empty message for what derives from its place panics. -/
def asked {α : Type} (message : Message υ χ μ) (derive : Place υ χ → Option α) : Accessor α :=
  match message.place with
  | none => .panics
  | some place => .answers (derive place)

def peerId (message : Message υ χ μ) : Accessor Int := message.asked Place.dialogId

def peer (message : Message υ χ μ) : Accessor (Peer υ χ) := message.asked Place.peer

def sender (message : Message υ χ μ) : Accessor (Peer υ χ) := message.asked Place.sender

end Message

structure InlineMessageId where
  dcId : Int
  accessHash : Int
  id : Int
  deriving DecidableEq

inductive CallbackRaw
  | botCallbackQuery (queryId msgId : Int)
  | inlineBotCallbackQuery (queryId : Int) (msgId : InlineMessageId)
  | other
  deriving DecidableEq

structure CallbackQuery (υ χ : Type) where
  raw : CallbackRaw
  data : List Byte
  isFromInline : Bool
  peer : Accessor (Peer υ χ)
  sender : Accessor (Peer υ χ)

inductive InlineQueryPeerType
  | sameBotPm
  | pm
  | chat
  | megagroup
  | broadcast
  | botPm
  deriving DecidableEq

structure InlineQuery (υ : Type) where
  sender : Accessor υ
  text : String
  offset : String
  queryId : Int
  peerType : Option InlineQueryPeerType

structure InlineSend (υ : Type) where
  sender : Accessor υ
  text : String
  resultId : String
  messageId : Option InlineMessageId

structure GuestChatQuery (υ χ μ : Type) where
  queryId : Int
  message : Message υ χ μ
  referenceMessages : List (Message υ χ μ)

/-- The typed view of an update.  `other` is a variant this build does not name. -/
inductive Payload (υ χ μ : Type)
  | newMessage (message : Message υ χ μ)
  | messageEdited (message : Message υ χ μ)
  | messageDeleted (messages : List Int) (channelId : Option Int)
  | callbackQuery (query : CallbackQuery υ χ)
  | inlineQuery (query : InlineQuery υ)
  | inlineSend (send : InlineSend υ)
  | guestChatQuery (query : GuestChatQuery υ χ μ)
  | raw
  | other

/-- Every variant carries the state and the TL update it was built from. -/
structure Update (υ χ μ : Type) where
  raw : List Byte
  state : UpdateState
  payload : Payload υ χ μ

/-- One update as the pump keeps it.  The TL update stands for its bytes, and
the peer map for its peers in the order of the map. -/
structure PolledUpdate (υ χ : Type) where
  update : List Byte
  state : UpdateState
  peers : List (Peer υ χ)

/-! ### The peer registry -/

/-- The lock is poisoned once a thread has panicked while it held it. -/
structure Registry (υ χ : Type) where
  nextPeerHandle : Int
  peers : List (Int × Peer υ χ)
  poisoned : Bool

/-- A call answers an error, or it panics, and then the process is aborted: nothing
between the call and the JVM catches the panic. -/
inductive Failure
  | error (message : String)
  | panics
  deriving DecidableEq

/-- What runs over the registry; a failure leaves it as it is by then. -/
abbrev Registering (υ χ α : Type) := Fallible Failure (Registry υ χ) α

variable {υ χ μ : Type}

def registerPeer (peer : Peer υ χ) : Registering υ χ Int := do
  let registry ← get
  let nativeHandle := registry.nextPeerHandle
  set { registry with nextPeerHandle := nativeHandle + 1 }
  if registry.poisoned then throw (.error "peer registry is poisoned")
  modify fun registry => { registry with peers := (nativeHandle, peer) :: registry.peers }
  return nativeHandle

structure PeerDto (χ : Type) where
  nativeHandle : Int
  id : Int
  kind : String
  description : χ

def peerKind : Peer υ χ → String
  | .user _ _ => "user"
  | .group _ => "group"
  | .channel _ => "channel"
  | .community _ => "community"

def peerDto (peer : Peer υ χ) : Registering υ χ (PeerDto χ) := do
  let nativeHandle ← registerPeer peer
  return { nativeHandle, id := peer.chat.dialogId.getD 0, kind := peerKind peer,
           description := peer.chat.description }

/-! ### Projections -/

structure MessageDto (υ χ μ : Type) where
  content : μ
  peerId : Option Int
  senderId : Option Int
  peer : Option (PeerDto χ)
  sender : Option υ

/-- An accessor that is asked without a guard. -/
def unguarded {α : Type} : Accessor α → Registering υ χ (Option α)
  | .panics => throw .panics
  | .answers found => return found

/-- `Result::ok`, which catches no panic. -/
def okOf {α : Type} (projection : Registering υ χ α) : Registering υ χ (Option α) :=
  tryCatch (some <$> projection) fun
    | .error _ => return none
    | .panics => throw .panics

def userOf : Peer υ χ → Option υ
  | .user user _ => some user
  | _ => none

/-- No peer is reported where the registry refuses it. -/
def reportedPeer : Option (Peer υ χ) → Registering υ χ (Option (PeerDto χ))
  | none => return none
  | some peer => okOf (peerDto peer)

/-- Only the ids are asked for under a guard. -/
def messageDto (message : Message υ χ μ) : Registering υ χ (MessageDto υ χ μ) := do
  let placed := message.place.isSome
  let peerId ← if placed then unguarded message.peerId else pure none
  let author ← if placed then unguarded message.sender else pure none
  let found ← unguarded message.peer
  let peer ← reportedPeer found
  let sender ← unguarded message.sender
  return { content := message.content, peerId,
           senderId := author.bind fun author => author.chat.dialogId, peer,
           sender := sender.bind userOf }

structure UpdateMessageBoxDto where
  kind : String
  pts : Int
  channelId : Option Int
  deriving DecidableEq

structure UpdateStateDto where
  date : Int
  seq : Int
  messageBox : Option UpdateMessageBoxDto
  deriving DecidableEq

def messageBoxDto : MessageBox → UpdateMessageBoxDto
  | .common pts => { kind := "common", pts, channelId := none }
  | .secondary qts => { kind := "secondary", pts := qts, channelId := none }
  | .channel channelId pts => { kind := "channel", pts, channelId := some channelId }

/-- Dates on the wire are in milliseconds. -/
def updateStateDto (state : UpdateState) : UpdateStateDto where
  date := state.date * 1000
  seq := state.seq
  messageBox := state.messageBox.map messageBoxDto

structure CallbackQueryDto (υ χ : Type) where
  data : String
  isFromInline : Bool
  queryId : Int
  messageId : Option Int
  inlineMessageId : Option InlineMessageId
  peer : PeerDto χ
  sender : υ

structure InlineQueryDto (υ : Type) where
  sender : υ
  text : String
  offset : String
  queryId : Int
  peerType : Option String

structure InlineSendDto (υ : Type) where
  sender : υ
  text : String
  resultId : String
  messageId : Option InlineMessageId

structure GuestChatQueryDto (υ χ μ : Type) where
  queryId : Int
  message : MessageDto υ χ μ
  referenceMessages : List (MessageDto υ χ μ)

structure RawUpdateDto where
  name : String
  data : String
  deriving DecidableEq

/-- `kind` names the variant, and the other fields are filled in for that variant;
one without a typed payload has the TL update itself. -/
structure UpdateDto (υ χ μ : Type) where
  kind : String
  message : Option (MessageDto υ χ μ)
  state : Option UpdateStateDto
  deletedMessageIds : Option (List Int)
  deletedChannelId : Option Int
  callbackQuery : Option (CallbackQueryDto υ χ)
  inlineQuery : Option (InlineQueryDto υ)
  inlineSend : Option (InlineSendDto υ)
  guestChatQuery : Option (GuestChatQueryDto υ χ μ)
  rawUpdate : Option RawUpdateDto

def UpdateDto.empty (kind : String) : UpdateDto υ χ μ where
  kind := kind
  message := none
  state := none
  deletedMessageIds := none
  deletedChannelId := none
  callbackQuery := none
  inlineQuery := none
  inlineSend := none
  guestChatQuery := none
  rawUpdate := none

def base64Alphabet : List Char :=
  "ABCDEFGHIJKLMNOPQRSTUVWXYZabcdefghijklmnopqrstuvwxyz0123456789+/".toList

/-- A chunk of at most three bytes, padded to four characters. -/
def base64Chunk (chunk : List Byte) : List Char :=
  let group := chunk.zipIdx.foldl (fun (group : BitVec 32) (entry : Byte × Nat) =>
    group ||| (entry.1.setWidth 32 <<< (16 - 8 * entry.2))) 0
  (List.range (chunk.length + 1)).map
      (fun index => base64Alphabet.getD ((group >>> (18 - 6 * index)) &&& 0x3f).toNat '=') ++
    List.replicate (3 - chunk.length) '='

def base64Chars : List Byte → List Char
  | [] => []
  | [first] => base64Chunk [first]
  | [first, second] => base64Chunk [first, second]
  | first :: second :: third :: rest => base64Chunk [first, second, third] ++ base64Chars rest

def base64 (bytes : List Byte) : String := String.ofList (base64Chars bytes)

/-- `nameForId` is the schema's name for a constructor id. -/
def rawUpdateDto (nameForId : BitVec 32 → String) (update : List Byte) : RawUpdateDto where
  name := match update with
    | first :: second :: third :: fourth :: _ =>
        nameForId (LittleEndian.join 32 [first, second, third, fourth])
    | _ => "(unknown)"
  data := base64 update

example : base64Chars [100, 97, 116, 97] = "ZGF0YQ==".toList := by decide

def missingPeer : String := "the update did not carry the peer grammers resolved for it"

def notACallbackQuery : String :=
  "the callback query is neither a bot nor an inline callback query"

/-- `catch_unwind` around an accessor. -/
def resolved {α : Type} : Accessor α → Option (Option α)
  | .panics => none
  | .answers found => some found

def okOrElse {α : Type} (failure : String) : Option α → Registering υ χ α
  | some value => return value
  | none => throw (.error failure)

def peerTypeName : InlineQueryPeerType → String
  | .sameBotPm => "sameBotPm"
  | .pm => "pm"
  | .chat => "chat"
  | .megagroup => "megagroup"
  | .broadcast => "broadcast"
  | .botPm => "botPm"

def senderDto (user : Option υ) : Registering υ χ υ := okOrElse missingPeer user

/-- A sender that is a chat counts as missing. -/
def peerSenderDto (peer : Option (Peer υ χ)) : Registering υ χ υ :=
  match peer with
  | some (.user user _) => return user
  | _ => throw (.error missingPeer)

def callbackQueryDto (query : CallbackQuery υ χ) : Registering υ χ (CallbackQueryDto υ χ) := do
  let (queryId, messageId, inlineMessageId) ← match query.raw with
    | .botCallbackQuery queryId msgId => pure (queryId, some msgId, none)
    | .inlineBotCallbackQuery queryId msgId => pure (queryId, none, some msgId)
    | .other => throw (.error notACallbackQuery)
  let peer ← okOrElse missingPeer (resolved query.peer).join
  let peer ← peerDto peer
  let sender ← peerSenderDto (resolved query.sender).join
  return { data := base64 query.data, isFromInline := query.isFromInline, queryId, messageId,
           inlineMessageId, peer, sender }

def inlineQueryDto (query : InlineQuery υ) : Registering υ χ (InlineQueryDto υ) := do
  let sender ← senderDto (resolved query.sender).join
  return { sender, text := query.text, offset := query.offset, queryId := query.queryId,
           peerType := query.peerType.map peerTypeName }

def inlineSendDto (send : InlineSend υ) : Registering υ χ (InlineSendDto υ) := do
  let sender ← senderDto (resolved send.sender).join
  return { sender, text := send.text, resultId := send.resultId, messageId := send.messageId }

def guestChatQueryDto (query : GuestChatQuery υ χ μ) :
    Registering υ χ (GuestChatQueryDto υ χ μ) := do
  let message ← messageDto query.message
  let referenceMessages ← query.referenceMessages.mapM messageDto
  return { queryId := query.queryId, message, referenceMessages }

def updateKind : Payload υ χ μ → String
  | .newMessage _ => "newMessage"
  | .messageEdited _ => "messageEdited"
  | .messageDeleted _ _ => "messageDeleted"
  | .callbackQuery _ => "callbackQuery"
  | .inlineQuery _ => "inlineQuery"
  | .inlineSend _ => "inlineSend"
  | .guestChatQuery _ => "guestChatQuery"
  | .raw => "raw"
  | .other => "unknown"

def updateDto (nameForId : BitVec 32 → String) (update : Update υ χ μ) :
    Registering υ χ (UpdateDto υ χ μ) := do
  let dto : UpdateDto υ χ μ :=
    { UpdateDto.empty (updateKind update.payload) with state := some (updateStateDto update.state) }
  match update.payload with
  | .newMessage message => do
      let message ← messageDto message
      return { dto with message := some message }
  | .messageEdited message => do
      let message ← messageDto message
      return { dto with message := some message }
  | .messageDeleted messages channelId =>
      return { dto with deletedMessageIds := some messages, deletedChannelId := channelId }
  | .callbackQuery query => do
      let query ← callbackQueryDto query
      return { dto with callbackQuery := some query }
  | .inlineQuery query => do
      let query ← inlineQueryDto query
      return { dto with inlineQuery := some query }
  | .inlineSend send => do
      let send ← inlineSendDto send
      return { dto with inlineSend := some send }
  | .guestChatQuery query => do
      let query ← guestChatQueryDto query
      return { dto with guestChatQuery := some query }
  | .raw => return { dto with rawUpdate := some (rawUpdateDto nameForId update.raw) }
  | .other => return { dto with rawUpdate := some (rawUpdateDto nameForId update.raw) }

/-! ### When a projection succeeds -/

section Running

variable {α β : Type}

/-- The projection answers a value as described, and poisons nothing. -/
def Succeeds (projection : Registering υ χ α) (registry : Registry υ χ) (described : α → Prop) :
    Prop :=
  ∃ value later, projection.runOn registry = (.ok value, later) ∧ described value ∧
    later.poisoned = registry.poisoned

theorem succeeds_pure {value : α} {registry : Registry υ χ} {described : α → Prop}
    (holds : described value) : Succeeds (pure value : Registering υ χ α) registry described :=
  ⟨value, registry, rfl, holds, rfl⟩

theorem Succeeds.bind {projection : Registering υ χ α} {next : α → Registering υ χ β}
    {registry : Registry υ χ} {first : α → Prop} {second : β → Prop}
    (succeeds : Succeeds projection registry first)
    (continued : ∀ value later, first value → later.poisoned = registry.poisoned →
      Succeeds (next value) later second) :
    Succeeds (projection >>= next) registry second := by
  obtain ⟨value, later, ran, holds, same⟩ := succeeds
  obtain ⟨answer, last, ranNext, holdsNext, sameNext⟩ := continued value later holds same
  refine ⟨answer, last, ?_, holdsNext, sameNext.trans same⟩
  rw [runOn_bind, ran]
  exact ranNext

end Running

theorem registerPeer_runOn (peer : Peer υ χ) (registry : Registry υ χ) :
    (registerPeer peer).runOn registry =
      if registry.poisoned then
        (.error (.error "peer registry is poisoned"),
          { registry with nextPeerHandle := registry.nextPeerHandle + 1 })
      else (.ok registry.nextPeerHandle, { registry with
        nextPeerHandle := registry.nextPeerHandle + 1
        peers := (registry.nextPeerHandle, peer) :: registry.peers }) := by
  rcases registry with ⟨nextPeerHandle, peers, poisoned⟩
  cases poisoned <;> rfl

/-- Everything of a peer but its handle, which is a new one. -/
structure PeerDto.Describes (dto : PeerDto χ) (peer : Peer υ χ) : Prop where
  id : dto.id = peer.chat.dialogId.getD 0
  kind : dto.kind = peerKind peer
  description : dto.description = peer.chat.description

theorem peerDto_succeeds (peer : Peer υ χ) {registry : Registry υ χ}
    (clean : registry.poisoned = false) :
    Succeeds (peerDto peer) registry fun dto => dto.Describes peer := by
  have registered : Succeeds (registerPeer peer) registry fun _ => True := by
    have ran := registerPeer_runOn peer registry
    rw [clean, if_neg Bool.false_ne_true] at ran
    exact ⟨_, _, ran, trivial, clean.symm⟩
  exact registered.bind fun value later _ _ => succeeds_pure ⟨rfl, rfl, rfl⟩

theorem peerDto_runOn_poisoned (peer : Peer υ χ) {registry : Registry υ χ}
    (poisoned : registry.poisoned = true) :
    (peerDto peer).runOn registry = (.error (.error "peer registry is poisoned"),
      { registry with nextPeerHandle := registry.nextPeerHandle + 1 }) := by
  rw [peerDto, runOn_bind, registerPeer_runOn, if_pos poisoned]

theorem peerDto_fails (peer : Peer υ χ) {registry : Registry υ χ}
    (poisoned : registry.poisoned = true) : Fails (peerDto peer) registry :=
  ⟨_, _, peerDto_runOn_poisoned peer poisoned⟩

/-- The peer that a message reports, if any: none where the registry is poisoned. -/
def ReportsPeer (poisoned : Bool) (reported : Option (PeerDto χ)) (found : Option (Peer υ χ)) :
    Prop :=
  if poisoned then reported = none else Option.Rel PeerDto.Describes reported found

theorem reportedPeer_succeeds (found : Option (Peer υ χ)) (registry : Registry υ χ) :
    Succeeds (reportedPeer found) registry fun reported =>
      ReportsPeer registry.poisoned reported found := by
  unfold ReportsPeer
  cases found with
  | none =>
      refine succeeds_pure ?_
      split
      · rfl
      · exact .none
  | some peer =>
      unfold Succeeds reportedPeer okOf
      rw [runOn_tryCatch, map_eq_pure_bind, runOn_bind]
      cases poisoned : registry.poisoned with
      | true =>
          rw [peerDto_runOn_poisoned peer poisoned]
          exact ⟨none, _, rfl, rfl, poisoned⟩
      | false =>
          obtain ⟨dto, later, ran, describes, kept⟩ := peerDto_succeeds peer poisoned
          rw [ran]
          exact ⟨some dto, later, rfl, .some describes, kept.trans poisoned⟩

/-- A message as it is projected with a registry that is poisoned or not. -/
structure MessageDto.Describes (poisoned : Bool) (dto : MessageDto υ χ μ)
    (message : Message υ χ μ) : Prop where
  content : dto.content = message.content
  peerId : dto.peerId = message.place.bind Place.dialogId
  senderId : dto.senderId =
    (message.place.bind Place.sender).bind fun author => author.chat.dialogId
  peer : ReportsPeer poisoned dto.peer (message.place.bind Place.peer)
  sender : dto.sender = (message.place.bind Place.sender).bind userOf

/-- What is left to project of a message once it is known to have a place. -/
private def placedDto (content : μ) (place : Place υ χ) : Registering υ χ (MessageDto υ χ μ) := do
  let peer ← reportedPeer place.peer
  return { content, peerId := place.dialogId,
           senderId := place.sender.bind fun author => author.chat.dialogId, peer,
           sender := place.sender.bind userOf }

private theorem messageDto_placed (content : μ) (place : Place υ χ) :
    messageDto ⟨content, some place⟩ = placedDto content place :=
  rfl

theorem messageDto_empty (content : μ) :
    messageDto (⟨content, none⟩ : Message υ χ μ) = throw .panics :=
  rfl

/-- A message that is not empty is projected, whatever the registry. -/
theorem messageDto_succeeds {message : Message υ χ μ} (placed : message.place.isSome)
    (registry : Registry υ χ) :
    Succeeds (messageDto message) registry fun dto => dto.Describes registry.poisoned message := by
  rcases message with ⟨content, place⟩
  cases place with
  | none => cases placed
  | some place =>
      have reported := reportedPeer_succeeds place.peer registry
      rw [messageDto_placed]
      refine reported.bind fun value later peer _ => ?_
      exact succeeds_pure ⟨rfl, rfl, rfl, peer, rfl⟩

theorem messageDto_fails {message : Message υ χ μ} (empty : ¬ message.place.isSome)
    (registry : Registry υ χ) : Fails (messageDto message) registry := by
  rcases message with ⟨content, place⟩
  cases place with
  | none =>
      rw [messageDto_empty]
      exact fails_throw Failure.panics registry
  | some place => exact absurd rfl empty

theorem messageDtos_succeed {messages : List (Message υ χ μ)}
    (placed : ∀ message ∈ messages, message.place.isSome) (registry : Registry υ χ) :
    Succeeds (messages.mapM messageDto) registry fun dtos =>
      List.Forall₂ (MessageDto.Describes registry.poisoned) dtos messages := by
  induction messages generalizing registry with
  | nil => exact succeeds_pure .nil
  | cons message rest ih =>
      obtain ⟨first, others⟩ := List.forall_mem_cons.mp placed
      rw [List.mapM_cons]
      apply (messageDto_succeeds first registry).bind
      intro dto later describes kept
      apply (ih others later).bind
      intro dtos last describeAll _
      rw [kept] at describeAll
      exact succeeds_pure (.cons describes describeAll)

theorem messageDtos_fail {messages : List (Message υ χ μ)}
    (lacking : ¬ ∀ message ∈ messages, message.place.isSome) (registry : Registry υ χ) :
    Fails (messages.mapM messageDto) registry := by
  induction messages generalizing registry with
  | nil => exact absurd (by simp) lacking
  | cons message rest ih =>
      rw [List.mapM_cons]
      by_cases first : message.place.isSome
      · refine fails_bind fun dto later => Fails.bind (ih ?_ later) _
        exact fun others => lacking (List.forall_mem_cons.mpr ⟨first, others⟩)
      · exact (messageDto_fails first registry).bind _

/-! ### What a projection carries -/

/-- The ids of a callback query that is one. -/
def CallbackRaw.ids : CallbackRaw → Option (Int × Option Int × Option InlineMessageId)
  | .botCallbackQuery queryId msgId => some (queryId, some msgId, none)
  | .inlineBotCallbackQuery queryId msgId => some (queryId, none, some msgId)
  | .other => none

structure CallbackQueryDto.Describes (dto : CallbackQueryDto υ χ) (query : CallbackQuery υ χ) :
    Prop where
  data : dto.data = base64 query.data
  isFromInline : dto.isFromInline = query.isFromInline
  ids : query.raw.ids = some (dto.queryId, dto.messageId, dto.inlineMessageId)
  peer : ∃ peer, (resolved query.peer).join = some peer ∧ dto.peer.Describes peer
  sender : (resolved query.sender).join.bind userOf = some dto.sender

structure InlineQueryDto.Describes (dto : InlineQueryDto υ) (query : InlineQuery υ) : Prop where
  sender : (resolved query.sender).join = some dto.sender
  text : dto.text = query.text
  offset : dto.offset = query.offset
  queryId : dto.queryId = query.queryId
  peerType : dto.peerType = query.peerType.map peerTypeName

structure InlineSendDto.Describes (dto : InlineSendDto υ) (send : InlineSend υ) : Prop where
  sender : (resolved send.sender).join = some dto.sender
  text : dto.text = send.text
  resultId : dto.resultId = send.resultId
  messageId : dto.messageId = send.messageId

structure GuestChatQueryDto.Describes (poisoned : Bool) (dto : GuestChatQueryDto υ χ μ)
    (query : GuestChatQuery υ χ μ) : Prop where
  queryId : dto.queryId = query.queryId
  message : dto.message.Describes poisoned query.message
  referenceMessages :
    List.Forall₂ (MessageDto.Describes poisoned) dto.referenceMessages query.referenceMessages

/-- The projection is the kind, the state and the payload of the update, and without a
typed payload its TL bytes. -/
def UpdateDto.Carries (nameForId : BitVec 32 → String) (poisoned : Bool) (dto : UpdateDto υ χ μ)
    (update : Update υ χ μ) : Prop :=
  let plain : UpdateDto υ χ μ :=
    { UpdateDto.empty (updateKind update.payload) with state := some (updateStateDto update.state) }
  match update.payload with
  | .newMessage message | .messageEdited message =>
      ∃ projected, dto = { plain with message := some projected } ∧
        projected.Describes poisoned message
  | .messageDeleted messages channelId =>
      dto = { plain with deletedMessageIds := some messages, deletedChannelId := channelId }
  | .callbackQuery query =>
      ∃ projected, dto = { plain with callbackQuery := some projected } ∧ projected.Describes query
  | .inlineQuery query =>
      ∃ projected, dto = { plain with inlineQuery := some projected } ∧ projected.Describes query
  | .inlineSend send =>
      ∃ projected, dto = { plain with inlineSend := some projected } ∧ projected.Describes send
  | .guestChatQuery query =>
      ∃ projected, dto = { plain with guestChatQuery := some projected } ∧
        projected.Describes poisoned query
  | .raw | .other => dto = { plain with rawUpdate := some (rawUpdateDto nameForId update.raw) }

/-- What a typed projection needs: messages that are not empty, the peers that a bot
update names, and for a callback query a registry that takes them. -/
def Projectable (registry : Registry υ χ) : Payload υ χ μ → Prop
  | .newMessage message | .messageEdited message => message.place.isSome
  | .guestChatQuery query =>
      query.message.place.isSome ∧ ∀ message ∈ query.referenceMessages, message.place.isSome
  | .callbackQuery query =>
      query.raw ≠ .other ∧ registry.poisoned = false ∧ (resolved query.peer).join.isSome ∧
        ∃ user chat, (resolved query.sender).join = some (.user user chat)
  | .inlineQuery query => (resolved query.sender).join.isSome
  | .inlineSend send => (resolved send.sender).join.isSome
  | .messageDeleted _ _ | .raw | .other => True

/-- The callback query projection once the ids are told apart. -/
private def callbackQueryRest (query : CallbackQuery υ χ)
    (ids : Int × Option Int × Option InlineMessageId) :
    Registering υ χ (CallbackQueryDto υ χ) := do
  let peer ← okOrElse missingPeer (resolved query.peer).join
  let peer ← peerDto peer
  let sender ← peerSenderDto (resolved query.sender).join
  return { data := base64 query.data, isFromInline := query.isFromInline, queryId := ids.1,
           messageId := ids.2.1, inlineMessageId := ids.2.2, peer, sender }

private theorem callbackQueryRest_succeeds {query : CallbackQuery υ χ}
    (ids : Int × Option Int × Option InlineMessageId) {registry : Registry υ χ}
    (named : query.raw.ids = some ids) (clean : registry.poisoned = false)
    (peerFound : (resolved query.peer).join.isSome)
    (senderFound : ∃ user chat, (resolved query.sender).join = some (.user user chat)) :
    Succeeds (callbackQueryRest query ids) registry fun dto => dto.Describes query := by
  obtain ⟨peer, peerEq⟩ := Option.isSome_iff_exists.mp peerFound
  obtain ⟨user, chat, senderEq⟩ := senderFound
  unfold callbackQueryRest
  rw [peerEq, senderEq]
  have found : Succeeds (okOrElse missingPeer (some peer)) registry fun found => found = peer :=
    succeeds_pure rfl
  apply found.bind
  rintro _ later rfl kept
  apply (peerDto_succeeds _ (kept.trans clean)).bind
  intro dto last describes _
  exact succeeds_pure ⟨rfl, rfl, named, ⟨_, peerEq, describes⟩, by rw [senderEq]; rfl⟩

theorem callbackQueryDto_succeeds {query : CallbackQuery υ χ} {registry : Registry υ χ}
    (named : query.raw ≠ .other) (clean : registry.poisoned = false)
    (peerFound : (resolved query.peer).join.isSome)
    (senderFound : ∃ user chat, (resolved query.sender).join = some (.user user chat)) :
    Succeeds (callbackQueryDto query) registry fun dto => dto.Describes query := by
  unfold callbackQueryDto
  cases raw : query.raw with
  | other => exact absurd raw named
  | botCallbackQuery queryId msgId =>
      exact callbackQueryRest_succeeds (queryId, some msgId, none) (by rw [raw]; rfl) clean
        peerFound senderFound
  | inlineBotCallbackQuery queryId msgId =>
      exact callbackQueryRest_succeeds (queryId, none, some msgId) (by rw [raw]; rfl) clean
        peerFound senderFound

theorem peerSenderDto_fails {sender : Option (Peer υ χ)}
    (missing : ¬ ∃ user chat, sender = some (.user user chat)) (registry : Registry υ χ) :
    Fails (peerSenderDto sender) registry := by
  unfold peerSenderDto
  split
  · rename_i user chat
    exact absurd ⟨user, chat, rfl⟩ missing
  · exact fails_throw (Failure.error missingPeer) registry

private theorem callbackQueryRest_fails {query : CallbackQuery υ χ}
    (ids : Int × Option Int × Option InlineMessageId) {registry : Registry υ χ}
    (lacking : ¬ (registry.poisoned = false ∧ (resolved query.peer).join.isSome ∧
      ∃ user chat, (resolved query.sender).join = some (.user user chat))) :
    Fails (callbackQueryRest query ids) registry := by
  unfold callbackQueryRest
  cases found : (resolved query.peer).join with
  | none => exact (fails_throw (Failure.error missingPeer) registry).bind _
  | some peer =>
      have resolvedPeer : okOrElse missingPeer (some peer) = (pure peer : Registering υ χ _) := rfl
      rw [resolvedPeer, pure_bind]
      cases poisoned : registry.poisoned with
      | true => exact (peerDto_fails peer poisoned).bind _
      | false =>
          have missing : ¬ ∃ user chat, (resolved query.sender).join = some (.user user chat) :=
            fun sender => lacking ⟨poisoned, by rw [found]; rfl, sender⟩
          exact fails_bind fun dto later => (peerSenderDto_fails missing later).bind _

theorem callbackQueryDto_fails {query : CallbackQuery υ χ} {registry : Registry υ χ}
    (lacking : ¬ (query.raw ≠ .other ∧ registry.poisoned = false ∧
      (resolved query.peer).join.isSome ∧
        ∃ user chat, (resolved query.sender).join = some (.user user chat))) :
    Fails (callbackQueryDto query) registry := by
  unfold callbackQueryDto
  cases raw : query.raw with
  | other => exact (fails_throw (Failure.error notACallbackQuery) registry).bind _
  | botCallbackQuery queryId msgId =>
      exact callbackQueryRest_fails (queryId, some msgId, none)
        fun complete => lacking ⟨by rw [raw]; nofun, complete⟩
  | inlineBotCallbackQuery queryId msgId =>
      exact callbackQueryRest_fails (queryId, none, some msgId)
        fun complete => lacking ⟨by rw [raw]; nofun, complete⟩

theorem inlineQueryDto_succeeds {query : InlineQuery υ} (registry : Registry υ χ)
    (found : (resolved query.sender).join.isSome) :
    Succeeds (inlineQueryDto query) registry fun dto => dto.Describes query := by
  obtain ⟨sender, senderEq⟩ := Option.isSome_iff_exists.mp found
  unfold inlineQueryDto
  rw [senderEq]
  exact succeeds_pure ⟨senderEq, rfl, rfl, rfl, rfl⟩

theorem inlineQueryDto_fails {query : InlineQuery υ} (registry : Registry υ χ)
    (missing : ¬ (resolved query.sender).join.isSome) : Fails (inlineQueryDto query) registry := by
  unfold inlineQueryDto
  rw [Option.not_isSome_iff_eq_none.mp missing]
  exact (fails_throw (Failure.error missingPeer) registry).bind _

theorem inlineSendDto_succeeds {send : InlineSend υ} (registry : Registry υ χ)
    (found : (resolved send.sender).join.isSome) :
    Succeeds (inlineSendDto send) registry fun dto => dto.Describes send := by
  obtain ⟨sender, senderEq⟩ := Option.isSome_iff_exists.mp found
  unfold inlineSendDto
  rw [senderEq]
  exact succeeds_pure ⟨senderEq, rfl, rfl, rfl⟩

theorem inlineSendDto_fails {send : InlineSend υ} (registry : Registry υ χ)
    (missing : ¬ (resolved send.sender).join.isSome) : Fails (inlineSendDto send) registry := by
  unfold inlineSendDto
  rw [Option.not_isSome_iff_eq_none.mp missing]
  exact (fails_throw (Failure.error missingPeer) registry).bind _

theorem guestChatQueryDto_succeeds {query : GuestChatQuery υ χ μ}
    (placed : query.message.place.isSome)
    (placedAll : ∀ message ∈ query.referenceMessages, message.place.isSome)
    (registry : Registry υ χ) :
    Succeeds (guestChatQueryDto query) registry fun dto =>
      dto.Describes registry.poisoned query := by
  apply (messageDto_succeeds placed registry).bind
  intro message later describes kept
  apply (messageDtos_succeed placedAll later).bind
  intro references last describeAll _
  rw [kept] at describeAll
  exact succeeds_pure ⟨rfl, describes, describeAll⟩

theorem guestChatQueryDto_fails {query : GuestChatQuery υ χ μ}
    (lacking : ¬ (query.message.place.isSome ∧
      ∀ message ∈ query.referenceMessages, message.place.isSome)) (registry : Registry υ χ) :
    Fails (guestChatQueryDto query) registry := by
  unfold guestChatQueryDto
  by_cases first : query.message.place.isSome
  · refine fails_bind fun dto later => Fails.bind (messageDtos_fail ?_ later) _
    exact fun others => lacking ⟨first, others⟩
  · exact (messageDto_fails first registry).bind _

/-- An update that can be projected is, and the whole of its payload is carried. -/
theorem updateDto_succeeds (nameForId : BitVec 32 → String) {update : Update υ χ μ}
    {registry : Registry υ χ} (projectable : Projectable registry update.payload) :
    Succeeds (updateDto nameForId update) registry fun dto =>
      dto.Carries nameForId registry.poisoned update := by
  rcases update with ⟨bytes, state, payload⟩
  cases payload with
  | newMessage message =>
      apply (messageDto_succeeds projectable registry).bind
      intro dto later describes _
      exact succeeds_pure ⟨dto, rfl, describes⟩
  | messageEdited message =>
      apply (messageDto_succeeds projectable registry).bind
      intro dto later describes _
      exact succeeds_pure ⟨dto, rfl, describes⟩
  | messageDeleted messages channelId => exact succeeds_pure rfl
  | callbackQuery query =>
      obtain ⟨named, clean, peerFound, senderFound⟩ := projectable
      apply (callbackQueryDto_succeeds named clean peerFound senderFound).bind
      intro dto later describes _
      exact succeeds_pure ⟨dto, rfl, describes⟩
  | inlineQuery query =>
      apply (inlineQueryDto_succeeds registry projectable).bind
      intro dto later describes _
      exact succeeds_pure ⟨dto, rfl, describes⟩
  | inlineSend send =>
      apply (inlineSendDto_succeeds registry projectable).bind
      intro dto later describes _
      exact succeeds_pure ⟨dto, rfl, describes⟩
  | guestChatQuery query =>
      apply (guestChatQueryDto_succeeds projectable.1 projectable.2 registry).bind
      intro dto later describes _
      exact succeeds_pure ⟨dto, rfl, describes⟩
  | raw => exact succeeds_pure rfl
  | other => exact succeeds_pure rfl

theorem updateDto_fails (nameForId : BitVec 32 → String) {update : Update υ χ μ}
    {registry : Registry υ χ} (lacking : ¬ Projectable registry update.payload) :
    Fails (updateDto nameForId update) registry := by
  rcases update with ⟨bytes, state, payload⟩
  cases payload with
  | newMessage message => exact (messageDto_fails lacking registry).bind _
  | messageEdited message => exact (messageDto_fails lacking registry).bind _
  | callbackQuery query => exact (callbackQueryDto_fails lacking).bind _
  | inlineQuery query => exact (inlineQueryDto_fails registry lacking).bind _
  | inlineSend send => exact (inlineSendDto_fails registry lacking).bind _
  | guestChatQuery query => exact (guestChatQueryDto_fails lacking registry).bind _
  | messageDeleted messages channelId => exact absurd trivial lacking
  | raw => exact absurd trivial lacking
  | other => exact absurd trivial lacking

end Kotlogramme.Updates
