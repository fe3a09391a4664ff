/-
The result classes of `org.kotlogramme.protocol`.

One table for each class that a bridge decodes or that such a class holds, with its
properties in the order of its constructor.
-/

import Kotlogramme.Protocol.Results

namespace Kotlogramme.Protocol.Bridge

abbrev ResultClass := List (ResultProperty ResultType)

/-- `val name: T` -/
def val (name : String) (type : ResultType) : ResultProperty ResultType := ⟨name, type, none⟩

/-- `val name: Boolean = false` -/
def flag (name : String) : ResultProperty ResultType := ⟨name, .boolean, some (.bool false)⟩

/-- `val name: T? = null` -/
def nullable (name : String) (type : ResultType) : ResultProperty ResultType :=
  ⟨name, .nullable type, some .null⟩

/-- `val name: List<T> = emptyList()` -/
def list (name : String) (item : ResultType) : ResultProperty ResultType :=
  ⟨name, .list item, some .emptyList⟩

/-! ### Common.kt -/

def operationResult : ResultClass :=
  [val "ok" .boolean]

def joinResult : ResultClass :=
  [nullable "nativeHandle" .long, nullable "id" .long, nullable "kind" .string,
    nullable "username" .string, nullable "name" .string, nullable "joined" .boolean]

/-! ### Models.kt -/

def loginCodeSent : ResultClass :=
  [val "phone" .string]

/-! ### Permissions.kt -/

def chatPermissions : ResultClass :=
  ["changeInfo", "postMessages", "editMessages", "deleteMessages", "banUsers", "inviteUsers",
    "pinMessages", "addAdmins", "anonymous", "manageCall", "manageTopics", "postStories",
    "editStories", "deleteStories", "manageDirectMessages", "manageRanks", "manageLinkedPeers",
    "manageWelcomeMessages", "other"].map flag

def chatRestrictions : ResultClass :=
  ["viewMessages", "sendMessages", "sendMedia", "sendStickers", "sendGifs", "sendGames",
    "sendInline", "embedLinks", "sendPolls", "changeInfo", "inviteUsers", "pinMessages",
    "manageTopics", "sendPhotos", "sendVideos", "sendRoundvideos", "sendAudios", "sendVoices",
    "sendDocs", "sendPlain", "editRank", "sendReactions", "manageLinkedPeers"].map flag ++
    [⟨"untilDate", .long, some (.int 0)⟩]

/-! ### Peer.kt -/

def peer : ResultClass :=
  [val "nativeHandle" .long, val "id" .long, val "kind" .string, nullable "username" .string,
    nullable "name" .string, list "usernames" .string, nullable "isMegagroup" .boolean,
    flag "hasPhoto", nullable "permissions" (.dataClass chatPermissions)]

/-! ### User.kt -/

def restrictionReason : ResultClass :=
  [list "platforms" .string, ⟨"reason", .string, some (.string "")⟩,
    ⟨"text", .string, some (.string "")⟩]

def user : ResultClass :=
  [val "id" .long, nullable "username" .string, nullable "firstName" .string,
    nullable "lastName" .string, ⟨"fullName", .string, some (.string "")⟩,
    list "usernames" .string, nullable "phone" .string, nullable "photoId" .long,
    ⟨"status", .string, some (.string "unknown")⟩, nullable "statusExpires" .long,
    nullable "lastSeen" .long, flag "statusByMe", nullable "langCode" .string] ++
    ["isSelf", "contact", "mutualContact", "deleted", "isBot", "botPrivacy", "botSupportsChats",
      "botInlineGeo"].map flag ++
    [nullable "botInlinePlaceholder" .string] ++
    ["verified", "restricted", "support", "scam"].map flag ++
    [list "restrictionReasons" (.dataClass restrictionReason)]

/-! ### Actions.kt -/

def messageAction : ResultClass :=
  [val "messageId" .int, nullable "senderId" .long, val "kind" .string]

def getMessageActionResult : ResultClass :=
  [nullable "action" (.dataClass messageAction)]

/-! ### Markup.kt -/

def button : ResultClass :=
  [val "kind" .string, val "text" .string, nullable "url" .string, nullable "data" .string,
    nullable "requiresPassword" .boolean, nullable "fwdText" .string, nullable "buttonId" .int,
    nullable "query" .string, nullable "samePeer" .boolean, nullable "peerTypes" (.list .string),
    nullable "quiz" .boolean, nullable "userId" .long, nullable "copyText" .string,
    nullable "maxQuantity" .int, nullable "requestWriteAccess" .boolean]

def replyMarkup : ResultClass :=
  [val "kind" .string, list "rows" (.list (.dataClass button))] ++
    ["fitSize", "singleUse", "selective", "persistent"].map flag ++
    [nullable "placeholder" .string]

/-! ### Media.kt -/

def media : ResultClass :=
  [val "kind" .string, nullable "id" .long, nullable "size" .long, nullable "width" .int,
    nullable "height" .int, nullable "spoiler" .boolean, nullable "ttlSeconds" .int,
    nullable "name" .string, nullable "mimeType" .string, nullable "creationDate" .long,
    nullable "duration" .double, nullable "resolutionWidth" .int,
    nullable "resolutionHeight" .int, nullable "audioTitle" .string, nullable "performer" .string,
    nullable "emoji" .string, nullable "isAnimated" .boolean, nullable "phoneNumber" .string,
    nullable "firstName" .string, nullable "lastName" .string, nullable "vcard" .string,
    nullable "question" .string, nullable "isQuiz" .boolean, nullable "closed" .boolean,
    nullable "totalVoters" .int, nullable "latitude" .double, nullable "longitude" .double,
    nullable "accuracyRadius" .int, nullable "title" .string, nullable "address" .string,
    nullable "provider" .string, nullable "venueId" .string, nullable "venueType" .string,
    nullable "heading" .int, nullable "period" .int, nullable "proximityNotificationRadius" .int,
    nullable "value" .int, nullable "url" .string, nullable "displayUrl" .string,
    nullable "siteName" .string, nullable "description" .string, nullable "pageType" .string,
    nullable "author" .string]

/-! ### Message.kt -/

def forwardHeader : ResultClass :=
  [flag "imported", flag "savedOut", nullable "fromId" .long, nullable "fromName" .string,
    ⟨"date", .long, some (.int 0)⟩, nullable "channelPost" .int, nullable "postAuthor" .string,
    nullable "savedFromPeer" .long, nullable "savedFromMsgId" .int, nullable "savedFromId" .long,
    nullable "savedFromName" .string, nullable "savedDate" .long, nullable "psaType" .string]

def replyHeader : ResultClass :=
  [val "kind" .string] ++
    ["replyToScheduled", "forumTopic", "quote", "replyToEphemeral"].map flag ++
    [nullable "replyToMsgId" .int, nullable "replyToPeerId" .long,
      nullable "replyFrom" (.dataClass forwardHeader), nullable "replyMedia" (.dataClass media),
      nullable "replyToTopId" .int, nullable "quoteText" .string, nullable "quoteOffset" .int,
      nullable "todoItemId" .int, nullable "pollOption" .string, nullable "storyPeer" .long,
      nullable "storyId" .int]

def messageEntity : ResultClass :=
  [val "type" .string, val "offset" .int, val "length" .int, nullable "url" .string,
    nullable "userId" .long, nullable "language" .string, nullable "customEmojiId" .long]

def messageQuote : ResultClass :=
  [val "text" .string, list "entities" (.dataClass messageEntity),
    ⟨"htmlText", .string, some (.string "")⟩, ⟨"markdownText", .string, some (.string "")⟩]

def message : ResultClass :=
  [val "id" .int, val "text" .string, val "outgoing" .boolean, nullable "replyToMessageId" .int,
    nullable "peerId" .long, nullable "senderId" .long, ⟨"date", .long, some (.int 0)⟩,
    nullable "editDate" .long] ++
    ["mentioned", "mediaUnread", "silent", "pinned", "fromChannelPost", "fromScheduled",
      "editHide"].map flag ++
    [nullable "viaBotId" .long, nullable "postAuthor" .string, nullable "groupedId" .long,
      nullable "viewCount" .int, nullable "forwardCount" .int, nullable "replyCount" .int,
      nullable "reactionCount" .int, nullable "media" (.dataClass media),
      nullable "forwardHeader" (.dataClass forwardHeader),
      nullable "replyHeader" (.dataClass replyHeader),
      list "restrictionReasons" (.dataClass restrictionReason),
      nullable "action" (.dataClass messageAction), nullable "replyMarkup" (.dataClass replyMarkup),
      nullable "peer" (.dataClass peer), nullable "sender" (.dataClass user),
      list "entities" (.dataClass messageEntity), ⟨"htmlText", .string, some (.string "")⟩,
      ⟨"markdownText", .string, some (.string "")⟩, nullable "quote" (.dataClass messageQuote)]

/-! ### Messages.kt -/

def messageCount : ResultClass :=
  [val "total" .int]

def deleteResult : ResultClass :=
  [val "deleted" .int]

/-! ### Account.kt -/

def usernameAvailability : ResultClass :=
  [val "available" .boolean]

def authorization : ResultClass :=
  ["current", "officialApp", "passwordPending", "encryptedRequestsDisabled",
    "callRequestsDisabled", "unconfirmed"].map flag ++
    [val "hash" .long, val "deviceModel" .string, val "platform" .string,
      val "systemVersion" .string, val "apiId" .int, val "appName" .string,
      val "appVersion" .string, val "dateCreated" .long, val "dateActive" .long, val "ip" .string,
      val "country" .string, val "region" .string]

def authorizationsResult : ResultClass :=
  [val "authorizationTtlDays" .int, val "authorizations" (.list (.dataClass authorization))]

def passwordSettings : ResultClass :=
  [flag "hasPassword", flag "hasRecovery", flag "hasSecureValues", nullable "hint" .string,
    nullable "emailUnconfirmedPattern" .string, nullable "loginEmailPattern" .string,
    nullable "pendingResetDate" .long]

def privacyRuleResult : ResultClass :=
  [val "kind" .string, list "users" .long, list "chats" .long]

def privacyRulesResult : ResultClass :=
  [val "key" .string, list "rules" (.dataClass privacyRuleResult), list "chats" .long,
    list "users" .long]

def notificationSound : ResultClass :=
  [val "kind" .string, nullable "id" .long, nullable "title" .string, nullable "data" .string]

def peerNotifySettings : ResultClass :=
  [nullable "showPreviews" .boolean, nullable "silent" .boolean, nullable "muteUntil" .long,
    nullable "iosSound" (.dataClass notificationSound),
    nullable "androidSound" (.dataClass notificationSound),
    nullable "otherSound" (.dataClass notificationSound), nullable "storiesMuted" .boolean,
    nullable "storiesHideSender" .boolean,
    nullable "storiesIosSound" (.dataClass notificationSound),
    nullable "storiesAndroidSound" (.dataClass notificationSound),
    nullable "storiesOtherSound" (.dataClass notificationSound)]

def notifySettingsResult : ResultClass :=
  [val "scope" .string, val "settings" (.dataClass peerNotifySettings)]

/-! ### Auth.kt -/

def signInResponse : ResultClass :=
  [val "status" .string, nullable "user" (.dataClass user), nullable "hint" .string]

def me : ResultClass :=
  [val "user" (.dataClass user), val "dataCentreId" .int]

def dataCentreResult : ResultClass :=
  [val "dataCentreId" .int]

/-! ### Participant.kt -/

def participant : ResultClass :=
  [val "user" (.dataClass user), val "role" .string, nullable "rank" .string,
    nullable "date" .long, nullable "invitedBy" .long, nullable "promotedBy" .long,
    nullable "kickedBy" .long, nullable "canEdit" .boolean, nullable "left" .boolean,
    nullable "permissions" (.dataClass chatPermissions),
    nullable "restrictions" (.dataClass chatRestrictions)]

def participantPermissions : ResultClass :=
  ["isCreator", "isAdmin", "isBanned", "hasLeft", "hasDefaultPermissions",
    "canAddAdmins"].map flag

/-! ### Chats.kt -/

def participantsResult : ResultClass :=
  [val "participants" (.list (.dataClass participant)), val "total" .int]

def inviteLinkResult : ResultClass :=
  [nullable "hash" .string]

/-! ### Contacts.kt -/

def contactUser : ResultClass :=
  [val "user" (.dataClass user), val "peer" (.dataClass peer)]

def contactEntry : ResultClass :=
  [val "userId" .long, flag "mutual", nullable "user" (.dataClass user),
    nullable "peer" (.dataClass peer)]

def contactsPage : ResultClass :=
  [flag "notModified", ⟨"savedCount", .int, some (.int 0)⟩,
    list "contacts" (.dataClass contactEntry), list "users" (.dataClass contactUser)]

def importedContact : ResultClass :=
  [val "userId" .long, val "clientId" .long, nullable "user" (.dataClass user),
    nullable "peer" (.dataClass peer)]

def popularInvite : ResultClass :=
  [val "clientId" .long, val "importers" .int]

def importedContacts : ResultClass :=
  [list "imported" (.dataClass importedContact), list "retryContacts" .long,
    list "popularInvites" (.dataClass popularInvite), list "users" (.dataClass contactUser)]

def contactPeer : ResultClass :=
  [nullable "user" (.dataClass user), val "peer" (.dataClass peer)]

def blockedPeer : ResultClass :=
  [val "date" .long, nullable "user" (.dataClass user), val "peer" (.dataClass peer)]

def blockedContacts : ResultClass :=
  [nullable "count" .int, list "blocked" (.dataClass blockedPeer),
    list "users" (.dataClass contactUser)]

def foundContacts : ResultClass :=
  [list "myResults" (.dataClass contactPeer), list "results" (.dataClass contactPeer),
    list "users" (.dataClass contactUser)]

/-! ### Dialog.kt -/

def dialogNotifySettings : ResultClass :=
  [nullable "showPreviews" .boolean, nullable "silent" .boolean, nullable "muteUntil" .long]

def dialogMeta : ResultClass :=
  [nullable "unreadMark" .boolean, nullable "viewForumAsMessages" .boolean,
    nullable "readInboxMaxId" .int, nullable "readOutboxMaxId" .int,
    nullable "unreadReactionsCount" .int,
    nullable "notifySettings" (.dataClass dialogNotifySettings), nullable "pts" .int,
    nullable "ttlPeriod" .int, nullable "folderTitle" .string,
    nullable "autofillNewBroadcasts" .boolean, nullable "autofillPublicGroups" .boolean,
    nullable "autofillNewCorrespondents" .boolean, nullable "unreadMutedPeersCount" .int,
    nullable "unreadUnmutedPeersCount" .int, nullable "unreadMutedMessagesCount" .int,
    nullable "unreadUnmutedMessagesCount" .int]

def dialog : ResultClass :=
  [val "peer" (.dataClass peer), nullable "lastMessage" (.dataClass message), flag "pinned",
    ⟨"topMessage", .int, some (.int 0)⟩, nullable "unreadCount" .int,
    nullable "unreadMentionsCount" .int, nullable "draftText" .string, nullable "folderId" .int,
    flag "isFolder", nullable "meta" (.dataClass dialogMeta)]

/-! ### Dialogs.kt -/

def dialogsTotal : ResultClass :=
  [val "total" .long]

/-! ### Files.kt -/

def uploadStreamBeginResult : ResultClass :=
  [val "uploadId" .long]

def uploadProgress : ResultClass :=
  [val "sent" .long, val "total" .long, val "elapsedMillis" .long, val "bytesPerSecond" .double]

def downloadResult : ResultClass :=
  [val "path" .string, val "size" .long]

def mediaChunk : ResultClass :=
  [val "data" .string, val "offset" .long, val "size" .long]

def uploadedFile : ResultClass :=
  [val "id" .long, val "name" .string, val "size" .long, val "parts" .int,
    nullable "md5Checksum" .string, flag "isBig", nullable "handle" .long]

def profilePhoto : ResultClass :=
  [val "id" .long, nullable "dcId" .int, val "size" .long, nullable "width" .int,
    nullable "height" .int, flag "spoiler", nullable "ttlSeconds" .int]

/-! ### Folders.kt -/

def dialogFolder : ResultClass :=
  [⟨"id", .int, some (.int 0)⟩, ⟨"kind", .string, some (.string "filter")⟩,
    ⟨"title", .string, some (.string "")⟩] ++
    ["contacts", "nonContacts", "groups", "broadcasts", "bots", "excludeMuted", "excludeRead",
      "excludeArchived", "hasMyInvites"].map flag ++
    [list "pinnedPeers" (.dataClass peer), list "includePeers" (.dataClass peer),
      list "excludePeers" (.dataClass peer)]

def dialogFoldersResult : ResultClass :=
  [flag "tagsEnabled", list "filters" (.dataClass dialogFolder)]

def chatlistPeer : ResultClass :=
  [⟨"id", .long, some (.int 0)⟩, ⟨"kind", .string, some (.string "user")⟩]

def exportedInvite : ResultClass :=
  [⟨"title", .string, some (.string "")⟩, ⟨"slug", .string, some (.string "")⟩,
    ⟨"url", .string, some (.string "")⟩, list "peers" (.dataClass chatlistPeer)]

def exportedInvitesResult : ResultClass :=
  [list "invites" (.dataClass exportedInvite), list "chats" (.dataClass peer),
    list "users" (.dataClass user)]

def chatlistInviteResult : ResultClass :=
  [⟨"kind", .string, some (.string "new")⟩, flag "titleNoanimate",
    ⟨"title", .string, some (.string "")⟩, list "titleEntities" (.dataClass messageEntity),
    nullable "emoticon" .string, list "peers" (.dataClass peer),
    ⟨"filterId", .int, some (.int 0)⟩, list "missingPeers" (.dataClass peer),
    list "alreadyPeers" (.dataClass peer), list "chats" (.dataClass peer),
    list "users" (.dataClass user)]

def chatlistUpdatesResult : ResultClass :=
  [list "missingPeers" (.dataClass peer), list "chats" (.dataClass peer),
    list "users" (.dataClass user)]

def chatlistUpdatesAck : ResultClass :=
  [flag "ok", list "peers" (.dataClass peer)]

def leaveChatlistSuggestionsResult : ResultClass :=
  [list "peers" (.dataClass chatlistPeer)]

/-! ### Inline.kt -/

def inlineSwitchPm : ResultClass :=
  [val "text" .string, val "startParam" .string]

def inlineSwitchWebview : ResultClass :=
  [val "text" .string, val "url" .string]

def inlineWebDocument : ResultClass :=
  [val "url" .string, val "size" .int, val "mimeType" .string]

def inlineResult : ResultClass :=
  [val "kind" .string, val "id" .string, val "type" .string, nullable "title" .string,
    nullable "description" .string, nullable "url" .string,
    nullable "thumb" (.dataClass inlineWebDocument),
    nullable "content" (.dataClass inlineWebDocument), nullable "photoId" .long,
    nullable "documentId" .long, nullable "sendMessageText" .string]

def inlineQueryResults : ResultClass :=
  [val "queryId" .long, nullable "nextOffset" .string, flag "gallery",
    nullable "switchPm" (.dataClass inlineSwitchPm),
    nullable "switchWebview" (.dataClass inlineSwitchWebview),
    list "results" (.dataClass inlineResult)]

def sentInlineResult : ResultClass :=
  [val "ok" .boolean, nullable "message" (.dataClass message)]

def editedInlineMessage : ResultClass :=
  [val "edited" .boolean]

/-! ### Stickers.kt -/

def stickerPack : ResultClass :=
  [val "emoticon" .string, list "documents" .long]

def stickerSet : ResultClass :=
  ["archived", "official", "masks", "emojis", "textColor", "channelEmojiStatus",
    "creator"].map flag ++
    [nullable "installedDate" .long, val "id" .long, val "accessHash" .long, val "title" .string,
      val "shortName" .string, nullable "thumbDocumentId" .long, nullable "thumbDcId" .int,
      nullable "thumbVersion" .int, val "count" .int, val "hash" .int,
      list "packs" (.dataClass stickerPack), list "documents" .long]

def stickerSetResult : ResultClass :=
  [flag "notModified", nullable "set" (.dataClass stickerSet)]

def allStickers : ResultClass :=
  [flag "notModified", ⟨"hash", .long, some (.int 0)⟩, list "sets" (.dataClass stickerSet)]

def recentStickers : ResultClass :=
  [flag "notModified", ⟨"hash", .long, some (.int 0)⟩, list "packs" (.dataClass stickerPack),
    list "stickers" .long, list "dates" .long]

def favedStickers : ResultClass :=
  [flag "notModified", ⟨"hash", .long, some (.int 0)⟩, list "packs" (.dataClass stickerPack),
    list "stickers" .long]

def archivedStickerSet : ResultClass :=
  [val "set" (.dataClass stickerSet), nullable "coverDocumentId" .long]

def stickerSetInstallResult : ResultClass :=
  [flag "installed", list "archivedSets" (.dataClass archivedStickerSet)]

/-! ### Update.kt -/

def updateMessageBox : ResultClass :=
  [val "kind" .string, val "pts" .int, nullable "channelId" .long]

def updateState : ResultClass :=
  [val "date" .long, val "seq" .int, nullable "messageBox" (.dataClass updateMessageBox)]

def inlineMessageId : ResultClass :=
  [val "dcId" .int, val "accessHash" .long, val "id" .long]

def callbackQueryUpdate : ResultClass :=
  [val "data" .string, flag "isFromInline", val "queryId" .long, nullable "messageId" .int,
    nullable "inlineMessageId" (.dataClass inlineMessageId), val "peer" (.dataClass peer),
    val "sender" (.dataClass user)]

def inlineQueryUpdate : ResultClass :=
  [val "sender" (.dataClass user), val "text" .string, val "offset" .string, val "queryId" .long,
    nullable "peerType" .string]

def inlineSendUpdate : ResultClass :=
  [val "sender" (.dataClass user), val "text" .string, val "resultId" .string,
    nullable "messageId" (.dataClass inlineMessageId)]

def guestChatQueryUpdate : ResultClass :=
  [val "queryId" .long, val "message" (.dataClass message),
    list "referenceMessages" (.dataClass message)]

def rawUpdate : ResultClass :=
  [val "name" .string, val "data" .string]

def update : ResultClass :=
  [val "kind" .string, nullable "message" (.dataClass message),
    nullable "state" (.dataClass updateState), nullable "deletedMessageIds" (.list .int),
    nullable "deletedChannelId" .long, nullable "callbackQuery" (.dataClass callbackQueryUpdate),
    nullable "inlineQuery" (.dataClass inlineQueryUpdate),
    nullable "inlineSend" (.dataClass inlineSendUpdate),
    nullable "guestChatQuery" (.dataClass guestChatQueryUpdate),
    nullable "rawUpdate" (.dataClass rawUpdate)]

/-! ### Updates.kt -/

def nextUpdateResult : ResultClass :=
  [nullable "update" (.dataClass update)]

def rawUpdateEntry : ResultClass :=
  [val "update" (.dataClass rawUpdate), val "state" (.dataClass updateState),
    val "peers" (.list (.dataClass peer))]

def nextRawUpdateResult : ResultClass :=
  [nullable "update" (.dataClass rawUpdateEntry)]

def guestChatAnswerResult : ResultClass :=
  [val "dcId" .int, val "id" .long, val "accessHash" .long, nullable "ownerId" .long]

end Kotlogramme.Protocol.Bridge
