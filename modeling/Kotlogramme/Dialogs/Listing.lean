/-
The dialog listings.

grammers yields the dialogs from the top at each call, so a page further down is
reached by passing over the dialogs before it.  What a row says of a peer and of a
message besides what the paging reads is left to `χ` and `μ`; the native handle of a
peer, a new one at each call, is left out.
-/

import Kotlogramme.Client.PeerId
import Mathlib.Data.List.Nodup

namespace Kotlogramme.Dialogs

open Kotlogramme.Client

/-! ### What grammers yields -/

structure Peer (χ : Type) where
  id : PeerId
  description : χ

/-- The date is in milliseconds. -/
structure Message (μ : Type) where
  id : Int
  date : Int
  content : μ

inductive DraftMessage
  | message (text : String)
  | empty

structure PeerNotifySettings where
  showPreviews : Option Bool
  silent : Option Bool
  muteUntil : Option Int

structure ChatDialog where
  pinned : Bool
  unreadMark : Bool
  viewForumAsMessages : Bool
  topMessage : Int
  readInboxMaxId : Int
  readOutboxMaxId : Int
  unreadCount : Int
  unreadMentionsCount : Int
  unreadReactionsCount : Int
  notifySettings : PeerNotifySettings
  pts : Option Int
  draft : Option DraftMessage
  folderId : Option Int
  ttlPeriod : Option Int

structure Folder where
  title : String
  autofillNewBroadcasts : Bool
  autofillPublicGroups : Bool
  autofillNewCorrespondents : Bool

structure FolderDialog where
  pinned : Bool
  folder : Folder
  topMessage : Int
  unreadMutedPeersCount : Int
  unreadUnmutedPeersCount : Int
  unreadMutedMessagesCount : Int
  unreadUnmutedMessagesCount : Int

inductive RawDialog
  | dialog (raw : ChatDialog)
  | folder (raw : FolderDialog)
  | community (pinned : Bool)

structure Dialog (χ μ : Type) where
  peer : Peer χ
  lastMessage : Option (Message μ)
  raw : RawDialog

/-! ### Rows -/

structure PeerDto (χ : Type) where
  id : Int
  description : χ

structure MessageDto (μ : Type) where
  id : Int
  date : Int
  content : μ

structure DialogDto (χ μ : Type) where
  peer : PeerDto χ
  lastMessage : Option (MessageDto μ)
  pinned : Bool
  topMessage : Int
  unreadCount : Option Int
  unreadMentionsCount : Option Int
  draftText : Option String
  folderId : Option Int
  isFolder : Bool

structure DialogNotifySettingsDto where
  showPreviews : Option Bool
  silent : Option Bool
  muteUntil : Option Int

structure DialogMetaDto where
  unreadMark : Option Bool := none
  viewForumAsMessages : Option Bool := none
  readInboxMaxId : Option Int := none
  readOutboxMaxId : Option Int := none
  unreadReactionsCount : Option Int := none
  notifySettings : Option DialogNotifySettingsDto := none
  pts : Option Int := none
  ttlPeriod : Option Int := none
  folderTitle : Option String := none
  autofillNewBroadcasts : Option Bool := none
  autofillPublicGroups : Option Bool := none
  autofillNewCorrespondents : Option Bool := none
  unreadMutedPeersCount : Option Int := none
  unreadUnmutedPeersCount : Option Int := none
  unreadMutedMessagesCount : Option Int := none
  unreadUnmutedMessagesCount : Option Int := none

structure DialogWithMetaDto (χ μ : Type) where
  dialog : DialogDto χ μ
  dialogMeta : DialogMetaDto

variable {χ μ ρ : Type}

def peerDto (peer : Peer χ) : PeerDto χ where
  id := peer.id.botApiDialogId.getD 0
  description := peer.description

def messageDto (message : Message μ) : MessageDto μ where
  id := message.id
  date := message.date
  content := message.content

def DraftMessage.text : DraftMessage → Option String
  | .message text => some text
  | .empty => none

def dialogDto (dialog : Dialog χ μ) : DialogDto χ μ :=
  let peer := peerDto dialog.peer
  let lastMessage := dialog.lastMessage.map messageDto
  match dialog.raw with
  | .dialog raw => {
      peer
      lastMessage
      pinned := raw.pinned
      topMessage := raw.topMessage
      unreadCount := some raw.unreadCount
      unreadMentionsCount := some raw.unreadMentionsCount
      draftText := raw.draft.bind DraftMessage.text
      folderId := raw.folderId
      isFolder := false }
  | .folder raw => {
      peer
      lastMessage
      pinned := raw.pinned
      topMessage := raw.topMessage
      unreadCount := none
      unreadMentionsCount := none
      draftText := none
      folderId := none
      isFolder := true }
  | .community pinned => {
      peer
      lastMessage
      pinned
      topMessage := 0
      unreadCount := none
      unreadMentionsCount := none
      draftText := none
      folderId := none
      isFolder := false }

def notifySettingsDto (settings : PeerNotifySettings) : DialogNotifySettingsDto where
  showPreviews := settings.showPreviews
  silent := settings.silent
  muteUntil := settings.muteUntil.map (· * 1000)

def dialogMetaDto : RawDialog → DialogMetaDto
  | .dialog dialog => {
      unreadMark := some dialog.unreadMark
      viewForumAsMessages := some dialog.viewForumAsMessages
      readInboxMaxId := some dialog.readInboxMaxId
      readOutboxMaxId := some dialog.readOutboxMaxId
      unreadReactionsCount := some dialog.unreadReactionsCount
      notifySettings := some (notifySettingsDto dialog.notifySettings)
      pts := dialog.pts
      ttlPeriod := dialog.ttlPeriod }
  | .folder folder => {
      folderTitle := some folder.folder.title
      autofillNewBroadcasts := some folder.folder.autofillNewBroadcasts
      autofillPublicGroups := some folder.folder.autofillPublicGroups
      autofillNewCorrespondents := some folder.folder.autofillNewCorrespondents
      unreadMutedPeersCount := some folder.unreadMutedPeersCount
      unreadUnmutedPeersCount := some folder.unreadUnmutedPeersCount
      unreadMutedMessagesCount := some folder.unreadMutedMessagesCount
      unreadUnmutedMessagesCount := some folder.unreadUnmutedMessagesCount }
  | .community _ => {}

def dialogWithMetaDto (dialog : Dialog χ μ) : DialogWithMetaDto χ μ where
  dialog := dialogDto dialog
  dialogMeta := dialogMetaDto dialog.raw

theorem dialogDto_peer (dialog : Dialog χ μ) : (dialogDto dialog).peer = peerDto dialog.peer := by
  unfold dialogDto
  cases dialog.raw <;> rfl

theorem dialogDto_lastMessage (dialog : Dialog χ μ) :
    (dialogDto dialog).lastMessage = dialog.lastMessage.map messageDto := by
  unfold dialogDto
  cases dialog.raw <;> rfl

/-! ### Requests -/

structure DialogsPayload where
  all : Option Bool
  limit : Option Nat
  offsetPeer : Option Int
  offsetId : Option Int
  offsetDate : Option Int

structure DialogsCursor where
  peer : Int
  id : Int
  date : Int

inductive DialogsPlan
  | all
  | page (limit : Nat) (cursor : Option DialogsCursor)

namespace DialogsCursor

def fromPayload (payload : DialogsPayload) : Option DialogsCursor := do
  return { peer := ← payload.offsetPeer, id := ← payload.offsetId, date := ← payload.offsetDate }

def «matches» (cursor : DialogsCursor) (peerId : Option Int) (lastMessage : Option (Int × Int)) :
    Bool :=
  peerId == some cursor.peer && lastMessage == some (cursor.id, cursor.date)

end DialogsCursor

def clampLimit (limit : Nat) : Nat := max 1 (min limit 100)

def dialogsPlan (data : DialogsPayload) : DialogsPlan :=
  if data.all.getD false then .all
  else .page (clampLimit (data.limit.getD 50)) (DialogsCursor.fromPayload data)

/-- The dialogs the iterator still has once the cursor's dialog is passed. -/
def skipPastCursor (cursor : DialogsCursor) : List (Dialog χ μ) → List (Dialog χ μ)
  | [] => []
  | dialog :: rest =>
      if cursor.matches dialog.peer.id.botApiDialogId
          (dialog.lastMessage.map fun message => (message.id, message.date)) then rest
      else skipPastCursor cursor rest

/-- What the iterator is left at where a page begins. -/
def resume (cursor : Option DialogsCursor) (iterator : List (Dialog χ μ)) : List (Dialog χ μ) :=
  match cursor with
  | none => iterator
  | some cursor => skipPastCursor cursor iterator

def listDialogs (project : Dialog χ μ → ρ) (dialogs : List (Dialog χ μ)) (data : DialogsPayload) :
    List ρ :=
  match dialogsPlan data with
  | .all => dialogs.map project
  | .page limit cursor => ((resume cursor dialogs).take limit).map project

def getDialogs (dialogs : List (Dialog χ μ)) (data : DialogsPayload) : List (DialogDto χ μ) :=
  listDialogs dialogDto dialogs data

def getDialogsMeta (dialogs : List (Dialog χ μ)) (data : DialogsPayload) :
    List (DialogWithMetaDto χ μ) :=
  listDialogs dialogWithMetaDto dialogs data

end Kotlogramme.Dialogs
