/-
Editing the rights of a chat member.

`setBannedRights` and `setAdminRights` write one rights record of the layer.  With
`loadCurrent` they first fetch the record a channel participant holds and lay the
requested one over it.  The requested record comes from a document whose missing
flags are already cleared, and the documents of the compatibility facade never
carry a flag that is not set.
-/

import Kotlogramme.Protocol.Document

namespace Kotlogramme.Chats

open Kotlogramme.Protocol

/-! ### The rights records -/

/-- The layer's `chatBannedRights`; a flag that is set denies the right. -/
structure ChatBannedRights where
  (viewMessages sendMessages sendMedia sendStickers sendGifs sendGames sendInline embedLinks
    sendPolls changeInfo inviteUsers pinMessages manageTopics sendPhotos sendVideos
    sendRoundvideos sendAudios sendVoices sendDocs sendPlain editRank sendReactions
    manageLinkedPeers : Bool)
  untilDate : Int
  deriving DecidableEq

/-- The layer's `chatAdminRights`; a flag that is set grants the right. -/
structure ChatAdminRights where
  (changeInfo postMessages editMessages deleteMessages banUsers inviteUsers pinMessages addAdmins
    anonymous manageCall other manageTopics postStories editStories deleteStories
    manageDirectMessages manageRanks manageLinkedPeers manageWelcomeMessages : Bool)
  deriving DecidableEq

/-- The flags of `chatBannedRights`. -/
inductive BannedRight
  | viewMessages | sendMessages | sendMedia | sendStickers | sendGifs | sendGames | sendInline
  | embedLinks | sendPolls | changeInfo | inviteUsers | pinMessages | manageTopics | sendPhotos
  | sendVideos | sendRoundvideos | sendAudios | sendVoices | sendDocs | sendPlain | editRank
  | sendReactions | manageLinkedPeers
  deriving DecidableEq

/-- The flags of `chatAdminRights`. -/
inductive AdminRight
  | changeInfo | postMessages | editMessages | deleteMessages | banUsers | inviteUsers
  | pinMessages | addAdmins | anonymous | manageCall | other | manageTopics | postStories
  | editStories | deleteStories | manageDirectMessages | manageRanks | manageLinkedPeers
  | manageWelcomeMessages
  deriving DecidableEq

/-- The member of a request document that carries the flag. -/
def BannedRight.wire : BannedRight → String
  | .viewMessages => "viewMessages"
  | .sendMessages => "sendMessages"
  | .sendMedia => "sendMedia"
  | .sendStickers => "sendStickers"
  | .sendGifs => "sendGifs"
  | .sendGames => "sendGames"
  | .sendInline => "sendInline"
  | .embedLinks => "embedLinks"
  | .sendPolls => "sendPolls"
  | .changeInfo => "changeInfo"
  | .inviteUsers => "inviteUsers"
  | .pinMessages => "pinMessages"
  | .manageTopics => "manageTopics"
  | .sendPhotos => "sendPhotos"
  | .sendVideos => "sendVideos"
  | .sendRoundvideos => "sendRoundvideos"
  | .sendAudios => "sendAudios"
  | .sendVoices => "sendVoices"
  | .sendDocs => "sendDocs"
  | .sendPlain => "sendPlain"
  | .editRank => "editRank"
  | .sendReactions => "sendReactions"
  | .manageLinkedPeers => "manageLinkedPeers"

def AdminRight.wire : AdminRight → String
  | .changeInfo => "changeInfo"
  | .postMessages => "postMessages"
  | .editMessages => "editMessages"
  | .deleteMessages => "deleteMessages"
  | .banUsers => "banUsers"
  | .inviteUsers => "inviteUsers"
  | .pinMessages => "pinMessages"
  | .addAdmins => "addAdmins"
  | .anonymous => "anonymous"
  | .manageCall => "manageCall"
  | .other => "other"
  | .manageTopics => "manageTopics"
  | .postStories => "postStories"
  | .editStories => "editStories"
  | .deleteStories => "deleteStories"
  | .manageDirectMessages => "manageDirectMessages"
  | .manageRanks => "manageRanks"
  | .manageLinkedPeers => "manageLinkedPeers"
  | .manageWelcomeMessages => "manageWelcomeMessages"

def ChatBannedRights.denies (rights : ChatBannedRights) : BannedRight → Bool
  | .viewMessages => rights.viewMessages
  | .sendMessages => rights.sendMessages
  | .sendMedia => rights.sendMedia
  | .sendStickers => rights.sendStickers
  | .sendGifs => rights.sendGifs
  | .sendGames => rights.sendGames
  | .sendInline => rights.sendInline
  | .embedLinks => rights.embedLinks
  | .sendPolls => rights.sendPolls
  | .changeInfo => rights.changeInfo
  | .inviteUsers => rights.inviteUsers
  | .pinMessages => rights.pinMessages
  | .manageTopics => rights.manageTopics
  | .sendPhotos => rights.sendPhotos
  | .sendVideos => rights.sendVideos
  | .sendRoundvideos => rights.sendRoundvideos
  | .sendAudios => rights.sendAudios
  | .sendVoices => rights.sendVoices
  | .sendDocs => rights.sendDocs
  | .sendPlain => rights.sendPlain
  | .editRank => rights.editRank
  | .sendReactions => rights.sendReactions
  | .manageLinkedPeers => rights.manageLinkedPeers

def ChatAdminRights.grants (rights : ChatAdminRights) : AdminRight → Bool
  | .changeInfo => rights.changeInfo
  | .postMessages => rights.postMessages
  | .editMessages => rights.editMessages
  | .deleteMessages => rights.deleteMessages
  | .banUsers => rights.banUsers
  | .inviteUsers => rights.inviteUsers
  | .pinMessages => rights.pinMessages
  | .addAdmins => rights.addAdmins
  | .anonymous => rights.anonymous
  | .manageCall => rights.manageCall
  | .other => rights.other
  | .manageTopics => rights.manageTopics
  | .postStories => rights.postStories
  | .editStories => rights.editStories
  | .deleteStories => rights.deleteStories
  | .manageDirectMessages => rights.manageDirectMessages
  | .manageRanks => rights.manageRanks
  | .manageLinkedPeers => rights.manageLinkedPeers
  | .manageWelcomeMessages => rights.manageWelcomeMessages

/-! ### The request documents -/

/-- `until_date` is in milliseconds here. -/
structure ChatRestrictionsDto where
  (viewMessages sendMessages sendMedia sendStickers sendGifs sendGames sendInline embedLinks
    sendPolls changeInfo inviteUsers pinMessages manageTopics sendPhotos sendVideos
    sendRoundvideos sendAudios sendVoices sendDocs sendPlain editRank sendReactions
    manageLinkedPeers : Bool)
  untilDate : Int

structure ChatPermissionsDto where
  (changeInfo postMessages editMessages deleteMessages banUsers inviteUsers pinMessages addAdmins
    anonymous manageCall manageTopics postStories editStories deleteStories manageDirectMessages
    manageRanks manageLinkedPeers manageWelcomeMessages other : Bool)

/-- A flag of a struct whose fields have their defaults. -/
def flag (name : String) (members : List (String × Json)) : Except Refusal Bool :=
  field (some false) readBool name members

def ChatRestrictionsDto.deserialize (members : List (String × Json)) :
    Except Refusal ChatRestrictionsDto := do
  let viewMessages ← flag "viewMessages" members
  let sendMessages ← flag "sendMessages" members
  let sendMedia ← flag "sendMedia" members
  let sendStickers ← flag "sendStickers" members
  let sendGifs ← flag "sendGifs" members
  let sendGames ← flag "sendGames" members
  let sendInline ← flag "sendInline" members
  let embedLinks ← flag "embedLinks" members
  let sendPolls ← flag "sendPolls" members
  let changeInfo ← flag "changeInfo" members
  let inviteUsers ← flag "inviteUsers" members
  let pinMessages ← flag "pinMessages" members
  let manageTopics ← flag "manageTopics" members
  let sendPhotos ← flag "sendPhotos" members
  let sendVideos ← flag "sendVideos" members
  let sendRoundvideos ← flag "sendRoundvideos" members
  let sendAudios ← flag "sendAudios" members
  let sendVoices ← flag "sendVoices" members
  let sendDocs ← flag "sendDocs" members
  let sendPlain ← flag "sendPlain" members
  let editRank ← flag "editRank" members
  let sendReactions ← flag "sendReactions" members
  let manageLinkedPeers ← flag "manageLinkedPeers" members
  let untilDate ← field (some 0) readI64 "untilDate" members
  return ⟨viewMessages, sendMessages, sendMedia, sendStickers, sendGifs, sendGames, sendInline,
    embedLinks, sendPolls, changeInfo, inviteUsers, pinMessages, manageTopics, sendPhotos,
    sendVideos, sendRoundvideos, sendAudios, sendVoices, sendDocs, sendPlain, editRank,
    sendReactions, manageLinkedPeers, untilDate⟩

def ChatPermissionsDto.deserialize (members : List (String × Json)) :
    Except Refusal ChatPermissionsDto := do
  let changeInfo ← flag "changeInfo" members
  let postMessages ← flag "postMessages" members
  let editMessages ← flag "editMessages" members
  let deleteMessages ← flag "deleteMessages" members
  let banUsers ← flag "banUsers" members
  let inviteUsers ← flag "inviteUsers" members
  let pinMessages ← flag "pinMessages" members
  let addAdmins ← flag "addAdmins" members
  let anonymous ← flag "anonymous" members
  let manageCall ← flag "manageCall" members
  let manageTopics ← flag "manageTopics" members
  let postStories ← flag "postStories" members
  let editStories ← flag "editStories" members
  let deleteStories ← flag "deleteStories" members
  let manageDirectMessages ← flag "manageDirectMessages" members
  let manageRanks ← flag "manageRanks" members
  let manageLinkedPeers ← flag "manageLinkedPeers" members
  let manageWelcomeMessages ← flag "manageWelcomeMessages" members
  let other ← flag "other" members
  return ⟨changeInfo, postMessages, editMessages, deleteMessages, banUsers, inviteUsers,
    pinMessages, addAdmins, anonymous, manageCall, manageTopics, postStories, editStories,
    deleteStories, manageDirectMessages, manageRanks, manageLinkedPeers, manageWelcomeMessages,
    other⟩

/-- Milliseconds as the layer's whole seconds, `(ms / 1_000) as i32`. -/
def wholeSeconds (milliseconds : Int) : Int := (milliseconds.tdiv 1000).bmod (2 ^ 32)

def ChatBannedRights.ofDto (rights : ChatRestrictionsDto) : ChatBannedRights where
  viewMessages := rights.viewMessages
  sendMessages := rights.sendMessages
  sendMedia := rights.sendMedia
  sendStickers := rights.sendStickers
  sendGifs := rights.sendGifs
  sendGames := rights.sendGames
  sendInline := rights.sendInline
  embedLinks := rights.embedLinks
  sendPolls := rights.sendPolls
  changeInfo := rights.changeInfo
  inviteUsers := rights.inviteUsers
  pinMessages := rights.pinMessages
  manageTopics := rights.manageTopics
  sendPhotos := rights.sendPhotos
  sendVideos := rights.sendVideos
  sendRoundvideos := rights.sendRoundvideos
  sendAudios := rights.sendAudios
  sendVoices := rights.sendVoices
  sendDocs := rights.sendDocs
  sendPlain := rights.sendPlain
  editRank := rights.editRank
  sendReactions := rights.sendReactions
  manageLinkedPeers := rights.manageLinkedPeers
  untilDate := wholeSeconds rights.untilDate

def ChatAdminRights.ofDto (rights : ChatPermissionsDto) : ChatAdminRights where
  changeInfo := rights.changeInfo
  postMessages := rights.postMessages
  editMessages := rights.editMessages
  deleteMessages := rights.deleteMessages
  banUsers := rights.banUsers
  inviteUsers := rights.inviteUsers
  pinMessages := rights.pinMessages
  addAdmins := rights.addAdmins
  anonymous := rights.anonymous
  manageCall := rights.manageCall
  other := rights.other
  manageTopics := rights.manageTopics
  postStories := rights.postStories
  editStories := rights.editStories
  deleteStories := rights.deleteStories
  manageDirectMessages := rights.manageDirectMessages
  manageRanks := rights.manageRanks
  manageLinkedPeers := rights.manageLinkedPeers
  manageWelcomeMessages := rights.manageWelcomeMessages

structure SetBannedRightsPayload where
  chat : PeerTarget
  user : PeerTarget
  rights : ChatRestrictionsDto
  loadCurrent : Bool

structure SetAdminRightsPayload where
  chat : PeerTarget
  user : PeerTarget
  rights : ChatPermissionsDto
  rank : Option String
  loadCurrent : Bool

/-- The members of the `rights` document, none when the request has no such
document. -/
def rightsMembers (members : List (String × Json)) : Except Refusal (List (String × Json)) :=
  field (some []) readObject "rights" members

def SetBannedRightsPayload.deserialize (document : Json) :
    Except Refusal SetBannedRightsPayload := do
  let members ← readObject document
  let chat ← field none PeerTarget.deserialize "chat" members
  let user ← field none PeerTarget.deserialize "user" members
  let rights ← ChatRestrictionsDto.deserialize (← rightsMembers members)
  let loadCurrent ← flag "loadCurrent" members
  return ⟨chat, user, rights, loadCurrent⟩

def SetAdminRightsPayload.deserialize (document : Json) :
    Except Refusal SetAdminRightsPayload := do
  let members ← readObject document
  let chat ← field none PeerTarget.deserialize "chat" members
  let user ← field none PeerTarget.deserialize "user" members
  let rights ← ChatPermissionsDto.deserialize (← rightsMembers members)
  let rank ← field (some none) (readOption readString) "rank" members
  let loadCurrent ← flag "loadCurrent" members
  return ⟨chat, user, rights, rank, loadCurrent⟩

/-! ### The operations -/

inductive PeerKind
  | user | chat | channel
  deriving DecidableEq

structure Peer where
  id : Int
  kind : PeerKind
  deriving DecidableEq

/-- What the layer says about a channel participant, with the rights it has. -/
inductive ChannelParticipant
  | participant
  | self
  | creator (adminRights : ChatAdminRights)
  | admin (adminRights : ChatAdminRights)
  | banned (bannedRights : ChatBannedRights)
  | left

inductive Failure
  | payload (refusal : Refusal)
  | message (text : String)

/-- The call `setBannedRights` makes. -/
inductive BannedCall
  | editBanned (channel participant : Peer) (bannedRights : ChatBannedRights)
  | deleteChatUser (chat user : Peer)

/-- The call `setAdminRights` makes. -/
inductive AdminCall
  | editAdmin (channel user : Peer) (adminRights : ChatAdminRights) (rank : Option String)
  | editChatAdmin (chat user : Peer) (isAdmin : Bool)

/-- `parse_payload` and the peers it names. -/
def parsePayload {α : Type} : Except Refusal α → Except Failure α
  | .ok payload => .ok payload
  | .error refusal => .error (.payload refusal)

def parseMessage {α : Type} : Except String α → Except Failure α
  | .ok value => .ok value
  | .error text => .error (.message text)

def loadChannelBanned : ChannelParticipant → Option ChatBannedRights
  | .banned rights => some rights
  | _ => none

def loadChannelAdmin : ChannelParticipant → Option ChatAdminRights
  | .creator rights => some rights
  | .admin rights => some rights
  | _ => none

def mergeBanned (current requested : ChatBannedRights) : ChatBannedRights :=
  { current with
    viewMessages := requested.viewMessages
    sendMessages := requested.sendMessages
    sendMedia := requested.sendMedia
    sendStickers := requested.sendStickers
    sendGifs := requested.sendGifs
    sendGames := requested.sendGames
    sendInline := requested.sendInline
    embedLinks := requested.embedLinks
    sendPolls := requested.sendPolls
    changeInfo := requested.changeInfo
    inviteUsers := requested.inviteUsers
    pinMessages := requested.pinMessages
    manageTopics := requested.manageTopics
    sendPhotos := requested.sendPhotos
    sendVideos := requested.sendVideos
    sendRoundvideos := requested.sendRoundvideos
    sendAudios := requested.sendAudios
    sendVoices := requested.sendVoices
    sendDocs := requested.sendDocs
    sendPlain := requested.sendPlain
    editRank := requested.editRank
    sendReactions := requested.sendReactions
    manageLinkedPeers := requested.manageLinkedPeers
    untilDate := requested.untilDate }

def mergeAdmin (current requested : ChatAdminRights) : ChatAdminRights :=
  { current with
    changeInfo := requested.changeInfo
    postMessages := requested.postMessages
    editMessages := requested.editMessages
    deleteMessages := requested.deleteMessages
    banUsers := requested.banUsers
    inviteUsers := requested.inviteUsers
    pinMessages := requested.pinMessages
    addAdmins := requested.addAdmins
    anonymous := requested.anonymous
    manageCall := requested.manageCall
    other := requested.other
    manageTopics := requested.manageTopics
    postStories := requested.postStories
    editStories := requested.editStories
    deleteStories := requested.deleteStories
    manageDirectMessages := requested.manageDirectMessages
    manageRanks := requested.manageRanks
    manageLinkedPeers := requested.manageLinkedPeers
    manageWelcomeMessages := requested.manageWelcomeMessages }

def basicGroupPromote (rights : ChatAdminRights) : Bool :=
  rights.anonymous || rights.changeInfo || rights.postMessages || rights.editMessages ||
    rights.deleteMessages || rights.banUsers || rights.inviteUsers || rights.pinMessages ||
    rights.addAdmins || rights.manageCall

section Operations

variable (resolvePeer : PeerTarget → Except String Peer)
  (getParticipant : Peer → Peer → Except String ChannelParticipant)

/-- `getParticipant` is what Telegram answers about a channel and a participant, here
and below. -/
def setBannedRights (document : Json) : Except Failure BannedCall := do
  let data ← parsePayload (SetBannedRightsPayload.deserialize document)
  let chat ← parseMessage (resolvePeer data.chat)
  let user ← parseMessage (resolvePeer data.user)
  let requested := ChatBannedRights.ofDto data.rights
  let rights ←
    if data.loadCurrent ∧ chat.kind = .channel then do
      match loadChannelBanned (← parseMessage (getParticipant chat user)) with
      | some current => pure (mergeBanned current requested)
      | none => pure requested
    else pure requested
  match chat.kind with
  | .channel => return .editBanned chat user rights
  | .chat =>
      if rights.viewMessages then return .deleteChatUser chat user
      else
        throw (.message ("CHAT_INVALID: a basic group can only be banned by forbidding " ++
          "view_messages"))
  | .user => throw (.message "PEER_ID_INVALID")

def setAdminRights (document : Json) : Except Failure AdminCall := do
  let data ← parsePayload (SetAdminRightsPayload.deserialize document)
  let chat ← parseMessage (resolvePeer data.chat)
  let user ← parseMessage (resolvePeer data.user)
  let requested := ChatAdminRights.ofDto data.rights
  let rank := data.rank.getD ""
  let rights ←
    if data.loadCurrent ∧ chat.kind = .channel then do
      match loadChannelAdmin (← parseMessage (getParticipant chat user)) with
      | some current => pure (mergeAdmin current requested)
      | none => pure requested
    else pure requested
  match chat.kind with
  | .channel => return .editAdmin chat user rights (some rank)
  | .chat => return .editChatAdmin chat user (basicGroupPromote rights)
  | .user => throw (.message "PEER_ID_INVALID")

end Operations

end Kotlogramme.Chats
