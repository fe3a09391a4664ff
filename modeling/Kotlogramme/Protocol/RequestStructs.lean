/-
The structs that the operations of the native library read their payloads as.

One table for each struct, with its fields in their order.  A flattened `PeerTarget`
stands in front of the other fields.  Where the Kotlin class has a default other than
`null`, an `Option` carries the value its handler puts for a `None`; the others keep
the `None`, as `null`.
-/

import Kotlogramme.Protocol.Serialization

namespace Kotlogramme.Protocol.Rust

abbrev RustStruct := List (RustField RustType)

/-- `#[serde(default)] name: bool` -/
def flag (name : String) : RustField RustType := ⟨name, .bool, .default⟩

/-! ### payload.rs -/

def peerTarget : RustStruct :=
  [⟨"peerHandle", .i64, .option .null⟩, ⟨"username", .string, .option .null⟩]

/-- `entity_type` is called `type` in the document. -/
def entitySpec : RustStruct :=
  [⟨"offset", .i32, .required⟩, ⟨"length", .i32, .required⟩, ⟨"type", .string, .required⟩,
    ⟨"url", .string, .option .null⟩, ⟨"userId", .i64, .option .null⟩,
    ⟨"language", .string, .option .null⟩, ⟨"customEmojiId", .i64, .option .null⟩]

def inlineButtonSpec : RustType :=
  .tagged "type" [
    ("url", .struct [⟨"text", .string, .required⟩, ⟨"url", .string, .required⟩]),
    ("webView", .struct [⟨"text", .string, .required⟩, ⟨"url", .string, .required⟩]),
    ("callback", .struct [⟨"text", .string, .required⟩, ⟨"data", .string, .required⟩]),
    ("switchInline", .struct [⟨"text", .string, .required⟩, ⟨"query", .string, .required⟩,
      ⟨"samePeer", .bool, .option .null⟩])]

def keyboardButtonSpec : RustType :=
  .tagged "type" [
    ("text", .struct [⟨"text", .string, .required⟩]),
    ("requestPhone", .struct [⟨"text", .string, .required⟩]),
    ("requestGeo", .struct [⟨"text", .string, .required⟩]),
    ("requestPoll", .struct [⟨"text", .string, .required⟩, flag "quiz"])]

def markupSpec : RustType :=
  .tagged "kind" [
    ("inline", .struct [⟨"rows", .vec (.vec inlineButtonSpec), .required⟩]),
    ("keyboard", .struct [⟨"rows", .vec (.vec keyboardButtonSpec), .required⟩,
      flag "fitSize", flag "singleUse", flag "selective"]),
    ("forceReply", .struct [flag "singleUse", flag "selective"]),
    ("hide", .struct [flag "selective"])]

/-! ### account.rs -/

def privacyRuleSpec : RustStruct :=
  [⟨"kind", .string, .required⟩, ⟨"chats", .vec .i64, .default⟩]

def setPrivacyPayload : RustStruct :=
  [⟨"key", .string, .required⟩, ⟨"rules", .vec (.struct privacyRuleSpec), .default⟩]

/-! ### chats.rs and permissions.rs -/

def participantPayload : RustStruct :=
  peerTarget ++
    [⟨"limit", .usize, .option (.int 100)⟩, ⟨"filter", .string, .option .null⟩,
      ⟨"query", .string, .option .null⟩, ⟨"offset", .i32, .option .null⟩]

/-- `#[serde(default)]` stands on the whole struct. -/
def chatRestrictionsDto : RustStruct :=
  ["viewMessages", "sendMessages", "sendMedia", "sendStickers", "sendGifs", "sendGames",
    "sendInline", "embedLinks", "sendPolls", "changeInfo", "inviteUsers", "pinMessages",
    "manageTopics", "sendPhotos", "sendVideos", "sendRoundvideos", "sendAudios", "sendVoices",
    "sendDocs", "sendPlain", "editRank", "sendReactions", "manageLinkedPeers"].map flag ++
    [⟨"untilDate", .i64, .default⟩]

def setBannedRightsPayload : RustStruct :=
  [⟨"chat", .struct peerTarget, .required⟩, ⟨"user", .struct peerTarget, .required⟩,
    ⟨"rights", .struct chatRestrictionsDto, .default⟩, flag "loadCurrent"]

def chatPermissionsDto : RustStruct :=
  ["changeInfo", "postMessages", "editMessages", "deleteMessages", "banUsers", "inviteUsers",
    "pinMessages", "addAdmins", "anonymous", "manageCall", "manageTopics", "postStories",
    "editStories", "deleteStories", "manageDirectMessages", "manageRanks",
    "manageLinkedPeers", "manageWelcomeMessages", "other"].map flag

def setAdminRightsPayload : RustStruct :=
  [⟨"chat", .struct peerTarget, .required⟩, ⟨"user", .struct peerTarget, .required⟩,
    ⟨"rights", .struct chatPermissionsDto, .default⟩, ⟨"rank", .string, .option .null⟩,
    flag "loadCurrent"]

/-! ### contacts.rs -/

def getContactsPayload : RustStruct :=
  [⟨"hash", .i64, .default⟩]

def importContactPayload : RustStruct :=
  [⟨"clientId", .i64, .required⟩, ⟨"phone", .string, .required⟩,
    ⟨"firstName", .string, .required⟩, ⟨"lastName", .string, .default⟩]

def importContactsPayload : RustStruct :=
  [⟨"contacts", .vec (.struct importContactPayload), .required⟩]

def blockContactPayload : RustStruct :=
  peerTarget ++ [flag "myStoriesFrom"]

def getBlockedPayload : RustStruct :=
  [flag "myStoriesFrom", ⟨"offset", .i32, .default⟩, ⟨"limit", .i32, .option (.int 100)⟩,
    flag "all"]

def searchContactsPayload : RustStruct :=
  [⟨"q", .string, .required⟩, flag "broadcasts", flag "bots", ⟨"limit", .i32, .option (.int 50)⟩]

/-! ### dialogs.rs -/

def dialogsPayload : RustStruct :=
  [⟨"all", .bool, .option (.bool false)⟩, ⟨"limit", .usize, .option (.int 50)⟩,
    ⟨"offsetPeer", .i64, .option .null⟩, ⟨"offsetId", .i32, .option .null⟩,
    ⟨"offsetDate", .i64, .option .null⟩]

/-! ### files.rs -/

def profilePhotosPayload : RustStruct :=
  peerTarget ++
    [⟨"all", .bool, .option (.bool false)⟩, ⟨"limit", .usize, .option (.int 50)⟩,
      ⟨"offset", .i32, .option .null⟩]

/-! ### folders.rs and chatlists.rs -/

def dialogFilterSpec : RustStruct :=
  [⟨"title", .string, .required⟩, flag "contacts", flag "nonContacts", flag "groups",
    flag "broadcasts", flag "bots", flag "excludeMuted", flag "excludeRead",
    flag "excludeArchived", ⟨"pinnedPeers", .vec (.struct peerTarget), .default⟩,
    ⟨"includePeers", .vec (.struct peerTarget), .default⟩,
    ⟨"excludePeers", .vec (.struct peerTarget), .default⟩]

def updateDialogFilterPayload : RustStruct :=
  [⟨"id", .i32, .required⟩, ⟨"filter", .struct dialogFilterSpec, .option .null⟩]

def exportInvitePayload : RustStruct :=
  [⟨"filterId", .i32, .required⟩, ⟨"title", .string, .required⟩,
    ⟨"peers", .vec (.struct peerTarget), .default⟩]

def joinInvitePayload : RustStruct :=
  [⟨"slug", .string, .required⟩, ⟨"peers", .vec (.struct peerTarget), .default⟩]

def chatlistPeersPayload : RustStruct :=
  [⟨"filterId", .i32, .required⟩, ⟨"peers", .vec (.struct peerTarget), .default⟩]

/-! ### markup.rs -/

def replyKeyboardPayload : RustStruct :=
  [⟨"rows", .vec (.vec keyboardButtonSpec), .required⟩, flag "fitSize", flag "singleUse",
    flag "selective"]

def forceReplyPayload : RustStruct :=
  [flag "singleUse", flag "selective"]

def hideKeyboardPayload : RustStruct :=
  [flag "selective"]

/-! ### media.rs -/

/-- A `None` of `kind` is handled as `document`. -/
def sendMediaPayload : RustStruct :=
  peerTarget ++
    [⟨"path", .string, .option .null⟩, ⟨"kind", .string, .option (.string "document")⟩,
      ⟨"caption", .string, .option (.string "")⟩, ⟨"parseMode", .string, .option .null⟩,
      ⟨"spoiler", .bool, .option (.bool false)⟩, ⟨"mimeType", .string, .option .null⟩,
      ⟨"durationSeconds", .f64, .option .null⟩, ⟨"width", .i32, .option .null⟩,
      ⟨"height", .i32, .option .null⟩, ⟨"ttlSeconds", .i32, .option .null⟩,
      ⟨"invertMedia", .bool, .option (.bool false)⟩, ⟨"silent", .bool, .option (.bool false)⟩,
      ⟨"replyToMessageId", .i32, .option .null⟩, ⟨"scheduleDate", .i64, .option .null⟩,
      ⟨"scheduleOnceOnline", .bool, .option (.bool false)⟩, ⟨"markup", markupSpec, .option .null⟩,
      ⟨"fileHandle", .i64, .option .null⟩, ⟨"progressHandle", .i64, .option .null⟩]

def sendMediaUrlPayload : RustStruct :=
  peerTarget ++
    [⟨"url", .string, .required⟩, ⟨"kind", .string, .option (.string "document")⟩,
      ⟨"caption", .string, .option (.string "")⟩, ⟨"parseMode", .string, .option .null⟩,
      ⟨"spoiler", .bool, .option (.bool false)⟩, ⟨"mimeType", .string, .option .null⟩,
      ⟨"ttlSeconds", .i32, .option .null⟩, ⟨"invertMedia", .bool, .option (.bool false)⟩,
      ⟨"silent", .bool, .option (.bool false)⟩, ⟨"replyToMessageId", .i32, .option .null⟩,
      ⟨"scheduleDate", .i64, .option .null⟩, ⟨"scheduleOnceOnline", .bool, .option (.bool false)⟩,
      ⟨"markup", markupSpec, .option .null⟩]

def copyMediaPayload : RustStruct :=
  [⟨"destination", .struct peerTarget, .required⟩, ⟨"source", .struct peerTarget, .required⟩,
    ⟨"messageId", .i32, .required⟩, ⟨"caption", .string, .option (.string "")⟩,
    ⟨"parseMode", .string, .option .null⟩, ⟨"silent", .bool, .option (.bool false)⟩,
    ⟨"replyToMessageId", .i32, .option .null⟩, ⟨"markup", markupSpec, .option .null⟩]

def copyOfSpec : RustStruct :=
  [⟨"peer", .struct peerTarget, .required⟩, ⟨"messageId", .i32, .required⟩]

def editMediaSpec : RustStruct :=
  [⟨"path", .string, .option .null⟩, ⟨"kind", .string, .option .null⟩,
    ⟨"url", .string, .option .null⟩, ⟨"copyOf", .struct copyOfSpec, .option .null⟩,
    ⟨"durationSeconds", .f64, .option .null⟩, ⟨"width", .i32, .option .null⟩,
    ⟨"height", .i32, .option .null⟩]

/-! ### messages.rs -/

def sendMessagePayload : RustStruct :=
  peerTarget ++
    [⟨"text", .string, .required⟩, ⟨"replyToMessageId", .i32, .option .null⟩,
      ⟨"silent", .bool, .option (.bool false)⟩, ⟨"linkPreview", .bool, .option (.bool true)⟩,
      ⟨"parseMode", .string, .option .null⟩,
      ⟨"entities", .vec (.struct entitySpec), .option .null⟩,
      ⟨"markup", markupSpec, .option .null⟩]

def sendFilePayload : RustStruct :=
  peerTarget ++
    [⟨"path", .string, .option .null⟩, ⟨"caption", .string, .option (.string "")⟩,
      ⟨"asPhoto", .bool, .option (.bool false)⟩, ⟨"replyToMessageId", .i32, .option .null⟩,
      ⟨"silent", .bool, .option (.bool false)⟩, ⟨"markup", markupSpec, .option .null⟩,
      ⟨"fileHandle", .i64, .option .null⟩]

def editMessagePayload : RustStruct :=
  peerTarget ++
    [⟨"messageId", .i32, .required⟩, ⟨"text", .string, .option .null⟩,
      ⟨"parseMode", .string, .option .null⟩,
      ⟨"entities", .vec (.struct entitySpec), .option .null⟩,
      ⟨"linkPreview", .bool, .option (.bool true)⟩, ⟨"invertMedia", .bool, .option (.bool false)⟩,
      ⟨"ttlSeconds", .i32, .option .null⟩, ⟨"markup", markupSpec, .option .null⟩,
      ⟨"media", .struct editMediaSpec, .option .null⟩]

def searchMessagesPayload : RustStruct :=
  peerTarget ++
    [⟨"query", .string, .required⟩, ⟨"limit", .usize, .option (.int 50)⟩,
      ⟨"offsetId", .i32, .option .null⟩, ⟨"sentBySelf", .bool, .option (.bool false)⟩,
      ⟨"minDate", .i64, .option .null⟩, ⟨"maxDate", .i64, .option .null⟩,
      ⟨"filter", .string, .option .null⟩]

def chatPhotosPayload : RustStruct :=
  peerTarget ++
    [⟨"all", .bool, .option (.bool false)⟩, ⟨"limit", .usize, .option (.int 50)⟩,
      ⟨"offsetId", .i32, .option .null⟩]

def reactionPayload : RustStruct :=
  peerTarget ++
    [⟨"messageId", .i32, .required⟩, ⟨"emoji", .string, .option .null⟩,
      ⟨"remove", .bool, .option (.bool false)⟩, ⟨"big", .bool, .option (.bool false)⟩]

/-! ### inline.rs and updates.rs -/

def answerCallbackQueryPayload : RustStruct :=
  [⟨"queryId", .i64, .required⟩, ⟨"text", .string, .option .null⟩, flag "alert",
    ⟨"cacheTimeSeconds", .i32, .default⟩]

def inlineArticleSpec : RustStruct :=
  [⟨"id", .string, .option .null⟩, ⟨"title", .string, .required⟩,
    ⟨"description", .string, .option .null⟩, ⟨"url", .string, .option .null⟩,
    ⟨"thumbUrl", .string, .option .null⟩, ⟨"messageText", .string, .required⟩,
    ⟨"linkPreview", .bool, .option (.bool true)⟩, flag "invertMedia"]

def answerGuestChatQueryPayload : RustStruct :=
  [⟨"queryId", .i64, .required⟩, ⟨"result", .struct inlineArticleSpec, .required⟩]

def inlineResultSpec : RustStruct :=
  [⟨"kind", .string, .option .null⟩, ⟨"title", .string, .option .null⟩,
    ⟨"messageText", .string, .option .null⟩, ⟨"linkPreview", .bool, .option .null⟩,
    flag "invertMedia", ⟨"id", .string, .option .null⟩, ⟨"description", .string, .option .null⟩,
    ⟨"url", .string, .option .null⟩, ⟨"thumbUrl", .string, .option .null⟩,
    ⟨"contentUrl", .string, .option .null⟩, ⟨"caption", .string, .option .null⟩]

def inlineSwitchPmSpec : RustStruct :=
  [⟨"text", .string, .required⟩, ⟨"startParam", .string, .required⟩]

def inlineSwitchWebviewSpec : RustStruct :=
  [⟨"text", .string, .required⟩, ⟨"url", .string, .required⟩]

def answerInlineQueryPayload : RustStruct :=
  [⟨"queryId", .i64, .required⟩, ⟨"results", .vec (.struct inlineResultSpec), .required⟩,
    ⟨"cacheTimeSeconds", .i32, .default⟩, flag "gallery", flag "private",
    ⟨"nextOffset", .string, .option .null⟩,
    ⟨"switchPm", .struct inlineSwitchPmSpec, .option .null⟩,
    ⟨"switchWebview", .struct inlineSwitchWebviewSpec, .option .null⟩]

def sendInlineBotResultPayload : RustStruct :=
  [⟨"peer", .struct peerTarget, .required⟩, ⟨"queryId", .i64, .required⟩,
    ⟨"resultId", .string, .required⟩, flag "silent", flag "background", flag "clearDraft",
    flag "hideVia", ⟨"replyToMessageId", .i32, .option .null⟩,
    ⟨"scheduleDate", .i64, .option .null⟩]

/-- `owner_id` is set only for the 64-bit constructor, which no Kotlin payload names. -/
def inlineMessageIdPayload : RustStruct :=
  [⟨"dcId", .i32, .required⟩, ⟨"accessHash", .i64, .required⟩, ⟨"id", .i64, .required⟩,
    ⟨"ownerId", .i64, .option .null⟩]

def inlineEditMediaSpec : RustStruct :=
  [⟨"url", .string, .required⟩, ⟨"kind", .string, .option .null⟩]

def editInlineMessagePayload : RustStruct :=
  [⟨"messageId", .struct inlineMessageIdPayload, .required⟩, ⟨"text", .string, .required⟩,
    ⟨"linkPreview", .bool, .option (.bool true)⟩, flag "invertMedia",
    ⟨"parseMode", .string, .option .null⟩, ⟨"entities", .vec (.struct entitySpec), .option .null⟩,
    ⟨"markup", markupSpec, .option .null⟩, ⟨"media", .struct inlineEditMediaSpec, .option .null⟩]

/-! ### stickers.rs -/

def getStickerSetPayload : RustStruct :=
  [⟨"id", .i64, .option .null⟩, ⟨"accessHash", .i64, .option .null⟩,
    ⟨"shortName", .string, .option .null⟩, ⟨"hash", .i32, .default⟩]

def getStickersPayload : RustStruct :=
  [⟨"hash", .i64, .default⟩]

def getRecentStickersPayload : RustStruct :=
  [flag "attached", ⟨"hash", .i64, .default⟩]

def sendStickerPayload : RustStruct :=
  peerTarget ++
    [⟨"shortName", .string, .option .null⟩, ⟨"id", .i64, .option .null⟩,
      ⟨"accessHash", .i64, .option .null⟩, ⟨"index", .usize, .required⟩,
      ⟨"replyToMessageId", .i32, .option .null⟩, flag "silent"]

def installStickerSetPayload : RustStruct :=
  [⟨"shortName", .string, .option .null⟩, ⟨"id", .i64, .option .null⟩,
    ⟨"accessHash", .i64, .option .null⟩, flag "archived"]

end Kotlogramme.Protocol.Rust
