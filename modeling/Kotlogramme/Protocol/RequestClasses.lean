/-
The request payloads of `org.kotlogramme.protocol` that have a default other than
`null`, or hold a class that has one.

One table for each class, with its properties in the order of its constructor.
-/

import Kotlogramme.Protocol.Serialization

namespace Kotlogramme.Protocol.Kotlin

abbrev KotlinClass := List (Property KotlinType)

/-- `val name: Boolean = false` -/
def flag (name : String) : Property KotlinType := ⟨name, .boolean, .withDefault (.bool false)⟩

/-! ### Common.kt -/

def peerTarget : KotlinClass :=
  [⟨"peerHandle", .long, .nullable⟩, ⟨"username", .string, .nullable⟩]

/-! ### Account.kt -/

def privacyRuleSpec : KotlinClass :=
  [⟨"kind", .string, .required⟩, ⟨"chats", .list .long, .withDefault .emptyList⟩]

def setPrivacyPayload : KotlinClass :=
  [⟨"key", .string, .required⟩, ⟨"rules", .list (.dataClass privacyRuleSpec), .required⟩]

/-! ### Permissions.kt and Chats.kt -/

def participantPayload : KotlinClass :=
  [⟨"peerHandle", .long, .nullable⟩, ⟨"username", .string, .nullable⟩,
    ⟨"limit", .int, .withDefault (.int 100)⟩, ⟨"filter", .string, .nullable⟩,
    ⟨"query", .string, .nullable⟩, ⟨"offset", .int, .nullable⟩]

def chatRestrictions : KotlinClass :=
  ["viewMessages", "sendMessages", "sendMedia", "sendStickers", "sendGifs", "sendGames",
    "sendInline", "embedLinks", "sendPolls", "changeInfo", "inviteUsers", "pinMessages",
    "manageTopics", "sendPhotos", "sendVideos", "sendRoundvideos", "sendAudios", "sendVoices",
    "sendDocs", "sendPlain", "editRank", "sendReactions", "manageLinkedPeers"].map flag ++
    [⟨"untilDate", .long, .withDefault (.int 0)⟩]

def setBannedRightsPayload : KotlinClass :=
  [⟨"chat", .dataClass peerTarget, .required⟩, ⟨"user", .dataClass peerTarget, .required⟩,
    ⟨"rights", .dataClass chatRestrictions, .required⟩, flag "loadCurrent"]

def chatPermissions : KotlinClass :=
  ["changeInfo", "postMessages", "editMessages", "deleteMessages", "banUsers", "inviteUsers",
    "pinMessages", "addAdmins", "anonymous", "manageCall", "manageTopics", "postStories",
    "editStories", "deleteStories", "manageDirectMessages", "manageRanks",
    "manageLinkedPeers", "manageWelcomeMessages", "other"].map flag

def setAdminRightsPayload : KotlinClass :=
  [⟨"chat", .dataClass peerTarget, .required⟩, ⟨"user", .dataClass peerTarget, .required⟩,
    ⟨"rights", .dataClass chatPermissions, .required⟩, ⟨"rank", .string, .nullable⟩,
    flag "loadCurrent"]

/-! ### Contacts.kt -/

def getContactsPayload : KotlinClass :=
  [⟨"hash", .long, .withDefault (.int 0)⟩]

def contactImport : KotlinClass :=
  [⟨"clientId", .long, .required⟩, ⟨"phone", .string, .required⟩,
    ⟨"firstName", .string, .required⟩, ⟨"lastName", .string, .withDefault (.string "")⟩]

def importContactsPayload : KotlinClass :=
  [⟨"contacts", .list (.dataClass contactImport), .required⟩]

def blockContactPayload : KotlinClass :=
  [⟨"peerHandle", .long, .nullable⟩, ⟨"username", .string, .nullable⟩, flag "myStoriesFrom"]

def getBlockedPayload : KotlinClass :=
  [flag "myStoriesFrom", ⟨"offset", .int, .withDefault (.int 0)⟩,
    ⟨"limit", .int, .withDefault (.int 100)⟩, flag "all"]

def searchContactsPayload : KotlinClass :=
  [⟨"q", .string, .required⟩, flag "broadcasts", flag "bots",
    ⟨"limit", .int, .withDefault (.int 50)⟩]

/-! ### Dialogs.kt -/

def limitPayload : KotlinClass :=
  [⟨"limit", .int, .required⟩, ⟨"offsetPeer", .long, .nullable⟩, ⟨"offsetId", .int, .nullable⟩,
    ⟨"offsetDate", .long, .nullable⟩, flag "all"]

/-! ### Files.kt -/

def profilePhotosPayload : KotlinClass :=
  [⟨"peerHandle", .long, .nullable⟩, ⟨"username", .string, .nullable⟩,
    ⟨"limit", .int, .withDefault (.int 50)⟩, ⟨"offset", .int, .nullable⟩, flag "all"]

/-! ### Folders.kt -/

def dialogFilterSpec : KotlinClass :=
  [⟨"title", .string, .required⟩, flag "contacts", flag "nonContacts", flag "groups",
    flag "broadcasts", flag "bots", flag "excludeMuted", flag "excludeRead",
    flag "excludeArchived",
    ⟨"pinnedPeers", .list (.dataClass peerTarget), .withDefault .emptyList⟩,
    ⟨"includePeers", .list (.dataClass peerTarget), .withDefault .emptyList⟩,
    ⟨"excludePeers", .list (.dataClass peerTarget), .withDefault .emptyList⟩]

def updateDialogFilterPayload : KotlinClass :=
  [⟨"id", .int, .required⟩, ⟨"filter", .dataClass dialogFilterSpec, .nullable⟩]

def exportChatlistInvitePayload : KotlinClass :=
  [⟨"filterId", .int, .required⟩, ⟨"title", .string, .required⟩,
    ⟨"peers", .list (.dataClass peerTarget), .withDefault .emptyList⟩]

def joinChatlistInvitePayload : KotlinClass :=
  [⟨"slug", .string, .required⟩,
    ⟨"peers", .list (.dataClass peerTarget), .withDefault .emptyList⟩]

def chatlistPeersPayload : KotlinClass :=
  [⟨"filterId", .int, .required⟩,
    ⟨"peers", .list (.dataClass peerTarget), .withDefault .emptyList⟩]

/-! ### Markup.kt -/

def inlineButtonSpec : KotlinType :=
  .sealedClass "type" [
    ("url", .dataClass [⟨"text", .string, .required⟩, ⟨"url", .string, .required⟩]),
    ("webView", .dataClass [⟨"text", .string, .required⟩, ⟨"url", .string, .required⟩]),
    ("callback", .dataClass [⟨"text", .string, .required⟩, ⟨"data", .string, .required⟩]),
    ("switchInline", .dataClass [⟨"text", .string, .required⟩, ⟨"query", .string, .required⟩,
      ⟨"samePeer", .boolean, .nullable⟩])]

def keyboardButtonSpec : KotlinType :=
  .sealedClass "type" [
    ("text", .dataClass [⟨"text", .string, .required⟩]),
    ("requestPhone", .dataClass [⟨"text", .string, .required⟩]),
    ("requestGeo", .dataClass [⟨"text", .string, .required⟩]),
    ("requestPoll", .dataClass [⟨"text", .string, .required⟩, flag "quiz"])]

def markupSpec : KotlinType :=
  .sealedClass "kind" [
    ("inline", .dataClass [⟨"rows", .list (.list inlineButtonSpec), .required⟩]),
    ("keyboard", .dataClass [⟨"rows", .list (.list keyboardButtonSpec), .required⟩,
      flag "fitSize", flag "singleUse", flag "selective"]),
    ("forceReply", .dataClass [flag "singleUse", flag "selective"]),
    ("hide", .dataClass [flag "selective"])]

def keyboardMarkupPayload : KotlinClass :=
  [⟨"rows", .list (.list keyboardButtonSpec), .required⟩, flag "fitSize", flag "singleUse",
    flag "selective"]

def forceReplyPayload : KotlinClass :=
  [flag "singleUse", flag "selective"]

def hideKeyboardPayload : KotlinClass :=
  [flag "selective"]

/-! ### Messages.kt -/

def entitySpec : KotlinClass :=
  [⟨"offset", .int, .required⟩, ⟨"length", .int, .required⟩, ⟨"type", .string, .required⟩,
    ⟨"url", .string, .nullable⟩, ⟨"userId", .long, .nullable⟩, ⟨"language", .string, .nullable⟩,
    ⟨"customEmojiId", .long, .nullable⟩]

def copyOfSpec : KotlinClass :=
  [⟨"peer", .dataClass peerTarget, .required⟩, ⟨"messageId", .int, .required⟩]

def editMediaSpec : KotlinClass :=
  [⟨"path", .string, .nullable⟩, ⟨"kind", .string, .nullable⟩, ⟨"url", .string, .nullable⟩,
    ⟨"copyOf", .dataClass copyOfSpec, .nullable⟩, ⟨"durationSeconds", .double, .nullable⟩,
    ⟨"width", .int, .nullable⟩, ⟨"height", .int, .nullable⟩]

def sendMessagePayload : KotlinClass :=
  [⟨"peerHandle", .long, .nullable⟩, ⟨"username", .string, .nullable⟩,
    ⟨"text", .string, .required⟩, ⟨"replyToMessageId", .int, .nullable⟩, flag "silent",
    ⟨"linkPreview", .boolean, .withDefault (.bool true)⟩, ⟨"markup", markupSpec, .nullable⟩,
    ⟨"parseMode", .string, .nullable⟩, ⟨"entities", .list (.dataClass entitySpec), .nullable⟩]

def sendFilePayload : KotlinClass :=
  [⟨"peerHandle", .long, .nullable⟩, ⟨"username", .string, .nullable⟩,
    ⟨"path", .string, .nullable⟩, ⟨"caption", .string, .required⟩,
    ⟨"asPhoto", .boolean, .required⟩, ⟨"replyToMessageId", .int, .nullable⟩, flag "silent",
    ⟨"markup", markupSpec, .nullable⟩, ⟨"fileHandle", .long, .nullable⟩]

def editMessagePayload : KotlinClass :=
  [⟨"peerHandle", .long, .nullable⟩, ⟨"username", .string, .nullable⟩,
    ⟨"messageId", .int, .required⟩, ⟨"text", .string, .nullable⟩,
    ⟨"linkPreview", .boolean, .withDefault (.bool true)⟩, ⟨"parseMode", .string, .nullable⟩,
    ⟨"entities", .list (.dataClass entitySpec), .nullable⟩, flag "invertMedia",
    ⟨"ttlSeconds", .int, .nullable⟩, ⟨"markup", markupSpec, .nullable⟩,
    ⟨"media", .dataClass editMediaSpec, .nullable⟩]

def searchMessagesPayload : KotlinClass :=
  [⟨"peerHandle", .long, .nullable⟩, ⟨"username", .string, .nullable⟩,
    ⟨"query", .string, .required⟩, ⟨"limit", .int, .required⟩, ⟨"offsetId", .int, .nullable⟩,
    flag "sentBySelf", ⟨"minDate", .long, .nullable⟩, ⟨"maxDate", .long, .nullable⟩,
    ⟨"filter", .string, .nullable⟩]

def chatPhotosPayload : KotlinClass :=
  [⟨"peerHandle", .long, .nullable⟩, ⟨"username", .string, .nullable⟩,
    ⟨"limit", .int, .withDefault (.int 50)⟩, ⟨"offsetId", .int, .nullable⟩, flag "all"]

def reactionPayload : KotlinClass :=
  [⟨"peerHandle", .long, .nullable⟩, ⟨"username", .string, .nullable⟩,
    ⟨"messageId", .int, .required⟩, ⟨"emoji", .string, .nullable⟩, flag "remove", flag "big"]

/-! ### Inline.kt and Updates.kt -/

def answerCallbackQueryPayload : KotlinClass :=
  [⟨"queryId", .long, .required⟩, ⟨"text", .string, .nullable⟩, flag "alert",
    ⟨"cacheTimeSeconds", .int, .withDefault (.int 0)⟩]

def inlineArticleSpec : KotlinClass :=
  [⟨"title", .string, .required⟩, ⟨"messageText", .string, .required⟩, ⟨"id", .string, .nullable⟩,
    ⟨"description", .string, .nullable⟩, ⟨"url", .string, .nullable⟩,
    ⟨"thumbUrl", .string, .nullable⟩, ⟨"linkPreview", .boolean, .withDefault (.bool true)⟩,
    flag "invertMedia"]

def answerGuestChatQueryPayload : KotlinClass :=
  [⟨"queryId", .long, .required⟩, ⟨"result", .dataClass inlineArticleSpec, .required⟩]

def inlineResultSpec : KotlinClass :=
  [⟨"kind", .string, .nullable⟩, ⟨"title", .string, .nullable⟩,
    ⟨"messageText", .string, .nullable⟩, ⟨"linkPreview", .boolean, .nullable⟩, flag "invertMedia",
    ⟨"id", .string, .nullable⟩, ⟨"description", .string, .nullable⟩, ⟨"url", .string, .nullable⟩,
    ⟨"thumbUrl", .string, .nullable⟩, ⟨"contentUrl", .string, .nullable⟩,
    ⟨"caption", .string, .nullable⟩]

def inlineSwitchPm : KotlinClass :=
  [⟨"text", .string, .required⟩, ⟨"startParam", .string, .required⟩]

def inlineSwitchWebview : KotlinClass :=
  [⟨"text", .string, .required⟩, ⟨"url", .string, .required⟩]

/-- `isPrivate` is called `private` in the document. -/
def answerInlineQueryPayload : KotlinClass :=
  [⟨"queryId", .long, .required⟩, ⟨"results", .list (.dataClass inlineResultSpec), .required⟩,
    ⟨"cacheTimeSeconds", .int, .withDefault (.int 0)⟩, flag "gallery", flag "private",
    ⟨"nextOffset", .string, .nullable⟩, ⟨"switchPm", .dataClass inlineSwitchPm, .nullable⟩,
    ⟨"switchWebview", .dataClass inlineSwitchWebview, .nullable⟩]

def sendInlineBotResultPayload : KotlinClass :=
  [⟨"peer", .dataClass peerTarget, .required⟩, ⟨"queryId", .long, .required⟩,
    ⟨"resultId", .string, .required⟩, flag "silent", flag "background", flag "clearDraft",
    flag "hideVia", ⟨"replyToMessageId", .int, .nullable⟩, ⟨"scheduleDate", .long, .nullable⟩]

def inlineMessageIdPayload : KotlinClass :=
  [⟨"dcId", .int, .required⟩, ⟨"accessHash", .long, .required⟩, ⟨"id", .long, .required⟩]

def inlineEditMediaSpec : KotlinClass :=
  [⟨"url", .string, .required⟩, ⟨"kind", .string, .nullable⟩]

def editInlineMessagePayload : KotlinClass :=
  [⟨"messageId", .dataClass inlineMessageIdPayload, .required⟩,
    ⟨"text", .string, .withDefault (.string "")⟩,
    ⟨"linkPreview", .boolean, .withDefault (.bool true)⟩, flag "invertMedia",
    ⟨"parseMode", .string, .nullable⟩, ⟨"entities", .list (.dataClass entitySpec), .nullable⟩,
    ⟨"markup", markupSpec, .nullable⟩, ⟨"media", .dataClass inlineEditMediaSpec, .nullable⟩]

/-! ### Media.kt -/

def sendMediaPayload : KotlinClass :=
  [⟨"peerHandle", .long, .nullable⟩, ⟨"username", .string, .nullable⟩,
    ⟨"path", .string, .nullable⟩, ⟨"kind", .string, .withDefault (.string "document")⟩,
    ⟨"caption", .string, .withDefault (.string "")⟩, ⟨"parseMode", .string, .nullable⟩,
    flag "spoiler", ⟨"mimeType", .string, .nullable⟩, ⟨"durationSeconds", .double, .nullable⟩,
    ⟨"width", .int, .nullable⟩, ⟨"height", .int, .nullable⟩, ⟨"ttlSeconds", .int, .nullable⟩,
    flag "invertMedia", flag "silent", ⟨"replyToMessageId", .int, .nullable⟩,
    ⟨"scheduleDate", .long, .nullable⟩, flag "scheduleOnceOnline",
    ⟨"markup", markupSpec, .nullable⟩, ⟨"fileHandle", .long, .nullable⟩,
    ⟨"progressHandle", .long, .nullable⟩]

def sendMediaUrlPayload : KotlinClass :=
  [⟨"peerHandle", .long, .nullable⟩, ⟨"username", .string, .nullable⟩,
    ⟨"url", .string, .required⟩, ⟨"kind", .string, .withDefault (.string "document")⟩,
    ⟨"caption", .string, .withDefault (.string "")⟩, ⟨"parseMode", .string, .nullable⟩,
    flag "spoiler", ⟨"mimeType", .string, .nullable⟩, ⟨"ttlSeconds", .int, .nullable⟩,
    flag "invertMedia", flag "silent", ⟨"replyToMessageId", .int, .nullable⟩,
    ⟨"scheduleDate", .long, .nullable⟩, flag "scheduleOnceOnline",
    ⟨"markup", markupSpec, .nullable⟩]

def copyMediaPayload : KotlinClass :=
  [⟨"destination", .dataClass peerTarget, .required⟩,
    ⟨"source", .dataClass peerTarget, .required⟩, ⟨"messageId", .int, .required⟩,
    ⟨"caption", .string, .withDefault (.string "")⟩, ⟨"parseMode", .string, .nullable⟩,
    flag "silent", ⟨"replyToMessageId", .int, .nullable⟩, ⟨"markup", markupSpec, .nullable⟩]

/-! ### Stickers.kt -/

def getStickerSetPayload : KotlinClass :=
  [⟨"id", .long, .nullable⟩, ⟨"accessHash", .long, .nullable⟩, ⟨"shortName", .string, .nullable⟩,
    ⟨"hash", .int, .withDefault (.int 0)⟩]

def getStickersPayload : KotlinClass :=
  [⟨"hash", .long, .withDefault (.int 0)⟩]

def getRecentStickersPayload : KotlinClass :=
  [flag "attached", ⟨"hash", .long, .withDefault (.int 0)⟩]

def sendStickerPayload : KotlinClass :=
  [⟨"peerHandle", .long, .nullable⟩, ⟨"username", .string, .nullable⟩,
    ⟨"shortName", .string, .nullable⟩, ⟨"id", .long, .nullable⟩, ⟨"accessHash", .long, .nullable⟩,
    ⟨"index", .int, .required⟩, ⟨"replyToMessageId", .int, .nullable⟩, flag "silent"]

def installStickerSetPayload : KotlinClass :=
  [⟨"shortName", .string, .nullable⟩, ⟨"id", .long, .nullable⟩, ⟨"accessHash", .long, .nullable⟩,
    flag "archived"]

end Kotlogramme.Protocol.Kotlin
