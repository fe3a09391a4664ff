/-
The structs that the operations of the native library answer with.

One table for each struct of dto and of the operations that serializes its own, with
its fields in their order, under the names they have in the document.  What is made
with `json!` has its members sorted by their names in the document; a reader looks them
up, so the tables keep the order of the source.
-/

import Kotlogramme.Protocol.Results

namespace Kotlogramme.Protocol.Native

abbrev Dto := List (String × DtoType)

def flag (name : String) : String × DtoType := (name, .bool)

/-! ### permissions.rs -/

def chatPermissionsDto : Dto :=
  ["changeInfo", "postMessages", "editMessages", "deleteMessages", "banUsers", "inviteUsers",
    "pinMessages", "addAdmins", "anonymous", "manageCall", "manageTopics", "postStories",
    "editStories", "deleteStories", "manageDirectMessages", "manageRanks", "manageLinkedPeers",
    "manageWelcomeMessages", "other"].map flag

def chatRestrictionsDto : Dto :=
  ["viewMessages", "sendMessages", "sendMedia", "sendStickers", "sendGifs", "sendGames",
    "sendInline", "embedLinks", "sendPolls", "changeInfo", "inviteUsers", "pinMessages",
    "manageTopics", "sendPhotos", "sendVideos", "sendRoundvideos", "sendAudios", "sendVoices",
    "sendDocs", "sendPlain", "editRank", "sendReactions", "manageLinkedPeers"].map flag ++
    [⟨"untilDate", .i64⟩]

/-! ### peer.rs -/

def peerDto : Dto :=
  [⟨"nativeHandle", .i64⟩, ⟨"id", .i64⟩, ⟨"kind", .string⟩, ⟨"username", .option .string⟩,
    ⟨"name", .option .string⟩, ⟨"usernames", .vec .string⟩, ⟨"isMegagroup", .option .bool⟩,
    ⟨"hasPhoto", .bool⟩, ⟨"permissions", .option (.struct chatPermissionsDto)⟩]

/-! ### user.rs -/

def restrictionReasonDto : Dto :=
  [⟨"platforms", .vec .string⟩, ⟨"reason", .string⟩, ⟨"text", .string⟩]

def userDto : Dto :=
  [⟨"id", .i64⟩, ⟨"username", .option .string⟩, ⟨"firstName", .option .string⟩,
    ⟨"lastName", .option .string⟩, ⟨"fullName", .string⟩, ⟨"usernames", .vec .string⟩,
    ⟨"phone", .option .string⟩, ⟨"photoId", .option .i64⟩, ⟨"status", .string⟩,
    ⟨"statusExpires", .option .i64⟩, ⟨"lastSeen", .option .i64⟩, ⟨"statusByMe", .bool⟩,
    ⟨"langCode", .option .string⟩] ++
    ["isSelf", "contact", "mutualContact", "deleted", "isBot", "botPrivacy", "botSupportsChats",
      "botInlineGeo"].map flag ++
    [⟨"botInlinePlaceholder", .option .string⟩] ++
    ["verified", "restricted", "support", "scam"].map flag ++
    [⟨"restrictionReasons", .vec (.struct restrictionReasonDto)⟩]

/-! ### action.rs -/

def messageActionDto : Dto :=
  [⟨"messageId", .i32⟩, ⟨"senderId", .option .i64⟩, ⟨"kind", .string⟩]

/-! ### markup.rs -/

def buttonDto : Dto :=
  [⟨"kind", .string⟩, ⟨"text", .string⟩, ⟨"url", .option .string⟩, ⟨"data", .option .string⟩,
    ⟨"requiresPassword", .option .bool⟩, ⟨"fwdText", .option .string⟩, ⟨"buttonId", .option .i32⟩,
    ⟨"query", .option .string⟩, ⟨"samePeer", .option .bool⟩,
    ⟨"peerTypes", .option (.vec .string)⟩, ⟨"quiz", .option .bool⟩, ⟨"userId", .option .i64⟩,
    ⟨"copyText", .option .string⟩, ⟨"maxQuantity", .option .i32⟩,
    ⟨"requestWriteAccess", .option .bool⟩]

def replyMarkupDto : Dto :=
  [⟨"kind", .string⟩, ⟨"rows", .vec (.vec (.struct buttonDto))⟩] ++
    ["fitSize", "singleUse", "selective", "persistent"].map flag ++
    [⟨"placeholder", .option .string⟩]

/-! ### media.rs -/

def mediaDto : Dto :=
  [⟨"kind", .string⟩, ⟨"id", .option .i64⟩, ⟨"size", .option .i64⟩, ⟨"width", .option .i32⟩,
    ⟨"height", .option .i32⟩, ⟨"spoiler", .option .bool⟩, ⟨"ttlSeconds", .option .i32⟩,
    ⟨"name", .option .string⟩, ⟨"mimeType", .option .string⟩, ⟨"creationDate", .option .i64⟩,
    ⟨"duration", .option .f64⟩, ⟨"resolutionWidth", .option .i32⟩,
    ⟨"resolutionHeight", .option .i32⟩, ⟨"audioTitle", .option .string⟩,
    ⟨"performer", .option .string⟩, ⟨"emoji", .option .string⟩, ⟨"isAnimated", .option .bool⟩,
    ⟨"phoneNumber", .option .string⟩, ⟨"firstName", .option .string⟩,
    ⟨"lastName", .option .string⟩, ⟨"vcard", .option .string⟩, ⟨"question", .option .string⟩,
    ⟨"isQuiz", .option .bool⟩, ⟨"closed", .option .bool⟩, ⟨"totalVoters", .option .i32⟩,
    ⟨"latitude", .option .f64⟩, ⟨"longitude", .option .f64⟩, ⟨"accuracyRadius", .option .i32⟩,
    ⟨"title", .option .string⟩, ⟨"address", .option .string⟩, ⟨"provider", .option .string⟩,
    ⟨"venueId", .option .string⟩, ⟨"venueType", .option .string⟩, ⟨"heading", .option .i32⟩,
    ⟨"period", .option .i32⟩, ⟨"proximityNotificationRadius", .option .i32⟩,
    ⟨"value", .option .i32⟩, ⟨"url", .option .string⟩, ⟨"displayUrl", .option .string⟩,
    ⟨"siteName", .option .string⟩, ⟨"description", .option .string⟩,
    ⟨"pageType", .option .string⟩, ⟨"author", .option .string⟩]

/-! ### message.rs -/

def forwardHeaderDto : Dto :=
  [⟨"imported", .bool⟩, ⟨"savedOut", .bool⟩, ⟨"fromId", .option .i64⟩,
    ⟨"fromName", .option .string⟩, ⟨"date", .i64⟩, ⟨"channelPost", .option .i32⟩,
    ⟨"postAuthor", .option .string⟩, ⟨"savedFromPeer", .option .i64⟩,
    ⟨"savedFromMsgId", .option .i32⟩, ⟨"savedFromId", .option .i64⟩,
    ⟨"savedFromName", .option .string⟩, ⟨"savedDate", .option .i64⟩, ⟨"psaType", .option .string⟩]

def replyHeaderDto : Dto :=
  [⟨"kind", .string⟩] ++
    ["replyToScheduled", "forumTopic", "quote", "replyToEphemeral"].map flag ++
    [⟨"replyToMsgId", .option .i32⟩, ⟨"replyToPeerId", .option .i64⟩,
      ⟨"replyFrom", .option (.struct forwardHeaderDto)⟩, ⟨"replyMedia", .option (.struct mediaDto)⟩,
      ⟨"replyToTopId", .option .i32⟩, ⟨"quoteText", .option .string⟩, ⟨"quoteOffset", .option .i32⟩,
      ⟨"todoItemId", .option .i32⟩, ⟨"pollOption", .option .string⟩, ⟨"storyPeer", .option .i64⟩,
      ⟨"storyId", .option .i32⟩]

def messageEntityDto : Dto :=
  [⟨"type", .string⟩, ⟨"offset", .i32⟩, ⟨"length", .i32⟩, ⟨"url", .option .string⟩,
    ⟨"userId", .option .i64⟩, ⟨"language", .option .string⟩, ⟨"customEmojiId", .option .i64⟩]

def messageQuoteDto : Dto :=
  [⟨"text", .string⟩, ⟨"entities", .vec (.struct messageEntityDto)⟩, ⟨"htmlText", .string⟩,
    ⟨"markdownText", .string⟩]

def messageDto : Dto :=
  [⟨"id", .i32⟩, ⟨"text", .string⟩, ⟨"outgoing", .bool⟩, ⟨"replyToMessageId", .option .i32⟩,
    ⟨"peerId", .option .i64⟩, ⟨"senderId", .option .i64⟩, ⟨"date", .i64⟩,
    ⟨"editDate", .option .i64⟩] ++
    ["mentioned", "mediaUnread", "silent", "pinned", "fromChannelPost", "fromScheduled",
      "editHide"].map flag ++
    [⟨"viaBotId", .option .i64⟩, ⟨"postAuthor", .option .string⟩, ⟨"groupedId", .option .i64⟩,
      ⟨"viewCount", .option .i32⟩, ⟨"forwardCount", .option .i32⟩, ⟨"replyCount", .option .i32⟩,
      ⟨"reactionCount", .option .i32⟩, ⟨"media", .option (.struct mediaDto)⟩,
      ⟨"forwardHeader", .option (.struct forwardHeaderDto)⟩,
      ⟨"replyHeader", .option (.struct replyHeaderDto)⟩,
      ⟨"restrictionReasons", .vec (.struct restrictionReasonDto)⟩,
      ⟨"action", .option (.struct messageActionDto)⟩,
      ⟨"replyMarkup", .option (.struct replyMarkupDto)⟩, ⟨"peer", .option (.struct peerDto)⟩,
      ⟨"sender", .option (.struct userDto)⟩, ⟨"entities", .vec (.struct messageEntityDto)⟩,
      ⟨"htmlText", .string⟩, ⟨"markdownText", .string⟩,
      ⟨"quote", .option (.struct messageQuoteDto)⟩]

def messageCountDto : Dto :=
  [⟨"total", .usize⟩]

/-! ### account.rs -/

def authorizationDto : Dto :=
  ["current", "officialApp", "passwordPending", "encryptedRequestsDisabled",
    "callRequestsDisabled", "unconfirmed"].map flag ++
    [⟨"hash", .i64⟩, ⟨"deviceModel", .string⟩, ⟨"platform", .string⟩, ⟨"systemVersion", .string⟩,
      ⟨"apiId", .i32⟩, ⟨"appName", .string⟩, ⟨"appVersion", .string⟩, ⟨"dateCreated", .i64⟩,
      ⟨"dateActive", .i64⟩, ⟨"ip", .string⟩, ⟨"country", .string⟩, ⟨"region", .string⟩]

def authorizationsDto : Dto :=
  [⟨"authorizationTtlDays", .i32⟩, ⟨"authorizations", .vec (.struct authorizationDto)⟩]

def passwordSettingsDto : Dto :=
  [⟨"hasPassword", .bool⟩, ⟨"hasRecovery", .bool⟩, ⟨"hasSecureValues", .bool⟩,
    ⟨"hint", .option .string⟩, ⟨"emailUnconfirmedPattern", .option .string⟩,
    ⟨"loginEmailPattern", .option .string⟩, ⟨"pendingResetDate", .option .i64⟩]

def privacyRuleDto : Dto :=
  [⟨"kind", .string⟩, ⟨"users", .vec .i64⟩, ⟨"chats", .vec .i64⟩]

def privacyRulesDto : Dto :=
  [⟨"key", .string⟩, ⟨"rules", .vec (.struct privacyRuleDto)⟩, ⟨"chats", .vec .i64⟩,
    ⟨"users", .vec .i64⟩]

/-! ### auth.rs -/

def meDto : Dto :=
  [⟨"user", .struct userDto⟩, ⟨"dataCentreId", .i32⟩]

def dataCentreDto : Dto :=
  [⟨"dataCentreId", .i32⟩]

/-! ### chatlists.rs -/

def chatlistPeerDto : Dto :=
  [⟨"id", .i64⟩, ⟨"kind", .string⟩]

def exportedInviteDto : Dto :=
  [⟨"title", .string⟩, ⟨"slug", .string⟩, ⟨"url", .string⟩,
    ⟨"peers", .vec (.struct chatlistPeerDto)⟩]

def exportedInvitesDto : Dto :=
  [⟨"invites", .vec (.struct exportedInviteDto)⟩, ⟨"chats", .vec (.struct peerDto)⟩,
    ⟨"users", .vec (.struct userDto)⟩]

def newChatlistInviteDto : Dto :=
  [⟨"titleNoanimate", .bool⟩, ⟨"title", .string⟩,
    ⟨"titleEntities", .vec (.struct messageEntityDto)⟩, ⟨"emoticon", .option .string⟩,
    ⟨"peers", .vec (.struct peerDto)⟩, ⟨"chats", .vec (.struct peerDto)⟩,
    ⟨"users", .vec (.struct userDto)⟩]

def joinedChatlistInviteDto : Dto :=
  [⟨"filterId", .i32⟩, ⟨"missingPeers", .vec (.struct peerDto)⟩,
    ⟨"alreadyPeers", .vec (.struct peerDto)⟩, ⟨"chats", .vec (.struct peerDto)⟩,
    ⟨"users", .vec (.struct userDto)⟩]

def chatlistUpdatesDto : Dto :=
  [⟨"missingPeers", .vec (.struct peerDto)⟩, ⟨"chats", .vec (.struct peerDto)⟩,
    ⟨"users", .vec (.struct userDto)⟩]

def chatlistUpdatesAckDto : Dto :=
  [⟨"ok", .bool⟩, ⟨"peers", .vec (.struct peerDto)⟩]

/-! ### contacts.rs -/

def contactUserDto : Dto :=
  [⟨"user", .struct userDto⟩, ⟨"peer", .struct peerDto⟩]

def contactDto : Dto :=
  [⟨"userId", .i64⟩, ⟨"mutual", .bool⟩, ⟨"user", .option (.struct userDto)⟩,
    ⟨"peer", .option (.struct peerDto)⟩]

def contactsDto : Dto :=
  [⟨"notModified", .bool⟩, ⟨"savedCount", .i32⟩, ⟨"contacts", .vec (.struct contactDto)⟩,
    ⟨"users", .vec (.struct contactUserDto)⟩]

def importedContactDto : Dto :=
  [⟨"userId", .i64⟩, ⟨"clientId", .i64⟩, ⟨"user", .option (.struct userDto)⟩,
    ⟨"peer", .option (.struct peerDto)⟩]

def popularInviteDto : Dto :=
  [⟨"clientId", .i64⟩, ⟨"importers", .i32⟩]

def importedContactsDto : Dto :=
  [⟨"imported", .vec (.struct importedContactDto)⟩, ⟨"retryContacts", .vec .i64⟩,
    ⟨"popularInvites", .vec (.struct popularInviteDto)⟩, ⟨"users", .vec (.struct contactUserDto)⟩]

def contactPeerDto : Dto :=
  [⟨"user", .option (.struct userDto)⟩, ⟨"peer", .struct peerDto⟩]

def blockedPeerDto : Dto :=
  [⟨"date", .i64⟩, ⟨"user", .option (.struct userDto)⟩, ⟨"peer", .struct peerDto⟩]

def blockedContactsDto : Dto :=
  [⟨"count", .option .i32⟩, ⟨"blocked", .vec (.struct blockedPeerDto)⟩,
    ⟨"users", .vec (.struct contactUserDto)⟩]

def foundContactsDto : Dto :=
  [⟨"myResults", .vec (.struct contactPeerDto)⟩, ⟨"results", .vec (.struct contactPeerDto)⟩,
    ⟨"users", .vec (.struct contactUserDto)⟩]

/-! ### dialog.rs -/

def dialogDto : Dto :=
  [⟨"peer", .struct peerDto⟩, ⟨"lastMessage", .option (.struct messageDto)⟩, ⟨"pinned", .bool⟩,
    ⟨"topMessage", .i32⟩, ⟨"unreadCount", .option .i32⟩, ⟨"unreadMentionsCount", .option .i32⟩,
    ⟨"draftText", .option .string⟩, ⟨"folderId", .option .i32⟩, ⟨"isFolder", .bool⟩]

/-! ### dialog_meta.rs -/

def dialogNotifySettingsDto : Dto :=
  [⟨"showPreviews", .option .bool⟩, ⟨"silent", .option .bool⟩, ⟨"muteUntil", .option .i64⟩]

def dialogMetaDto : Dto :=
  [⟨"unreadMark", .option .bool⟩, ⟨"viewForumAsMessages", .option .bool⟩,
    ⟨"readInboxMaxId", .option .i32⟩, ⟨"readOutboxMaxId", .option .i32⟩,
    ⟨"unreadReactionsCount", .option .i32⟩,
    ⟨"notifySettings", .option (.struct dialogNotifySettingsDto)⟩, ⟨"pts", .option .i32⟩,
    ⟨"ttlPeriod", .option .i32⟩, ⟨"folderTitle", .option .string⟩,
    ⟨"autofillNewBroadcasts", .option .bool⟩, ⟨"autofillPublicGroups", .option .bool⟩,
    ⟨"autofillNewCorrespondents", .option .bool⟩, ⟨"unreadMutedPeersCount", .option .i32⟩,
    ⟨"unreadUnmutedPeersCount", .option .i32⟩, ⟨"unreadMutedMessagesCount", .option .i32⟩,
    ⟨"unreadUnmutedMessagesCount", .option .i32⟩]

/-- The listing projection is flattened into it. -/
def dialogWithMetaDto : Dto :=
  dialogDto ++ [⟨"meta", .struct dialogMetaDto⟩]

/-! ### files.rs -/

def downloadResultDto : Dto :=
  [⟨"path", .string⟩, ⟨"size", .i64⟩]

def mediaChunkDto : Dto :=
  [⟨"data", .string⟩, ⟨"offset", .i64⟩, ⟨"size", .i64⟩]

def uploadedFileDto : Dto :=
  [⟨"id", .i64⟩, ⟨"name", .string⟩, ⟨"size", .i64⟩, ⟨"parts", .i32⟩,
    ⟨"md5Checksum", .option .string⟩, ⟨"isBig", .bool⟩, ⟨"handle", .option .i64⟩]

def profilePhotoDto : Dto :=
  [⟨"id", .i64⟩, ⟨"dcId", .option .i32⟩, ⟨"size", .i64⟩, ⟨"width", .option .i32⟩,
    ⟨"height", .option .i32⟩, ⟨"spoiler", .bool⟩, ⟨"ttlSeconds", .option .i32⟩]

/-! ### folders.rs -/

def dialogFolderDto : Dto :=
  [⟨"id", .i32⟩, ⟨"kind", .string⟩, ⟨"title", .string⟩] ++
    ["contacts", "nonContacts", "groups", "broadcasts", "bots", "excludeMuted", "excludeRead",
      "excludeArchived", "hasMyInvites"].map flag ++
    [⟨"pinnedPeers", .vec (.struct peerDto)⟩, ⟨"includePeers", .vec (.struct peerDto)⟩,
      ⟨"excludePeers", .vec (.struct peerDto)⟩]

def dialogFoldersDto : Dto :=
  [⟨"tagsEnabled", .bool⟩, ⟨"filters", .vec (.struct dialogFolderDto)⟩]

/-! ### inline.rs -/

def inlineSwitchPmDto : Dto :=
  [⟨"text", .string⟩, ⟨"startParam", .string⟩]

def inlineSwitchWebviewDto : Dto :=
  [⟨"text", .string⟩, ⟨"url", .string⟩]

def webDocumentDto : Dto :=
  [⟨"url", .string⟩, ⟨"size", .i32⟩, ⟨"mimeType", .string⟩]

def inlineResultDto : Dto :=
  [⟨"kind", .string⟩, ⟨"id", .string⟩, ⟨"type", .string⟩, ⟨"title", .option .string⟩,
    ⟨"description", .option .string⟩, ⟨"url", .option .string⟩,
    ⟨"thumb", .option (.struct webDocumentDto)⟩, ⟨"content", .option (.struct webDocumentDto)⟩,
    ⟨"photoId", .option .i64⟩, ⟨"documentId", .option .i64⟩, ⟨"sendMessageText", .option .string⟩]

def inlineQueryResultsDto : Dto :=
  [⟨"queryId", .i64⟩, ⟨"nextOffset", .option .string⟩, ⟨"gallery", .bool⟩,
    ⟨"switchPm", .option (.struct inlineSwitchPmDto)⟩,
    ⟨"switchWebview", .option (.struct inlineSwitchWebviewDto)⟩,
    ⟨"results", .vec (.struct inlineResultDto)⟩]

def sentInlineResultDto : Dto :=
  [⟨"ok", .bool⟩, ⟨"message", .option (.struct messageDto)⟩]

/-! ### notifications.rs -/

def notificationSoundDto : Dto :=
  [⟨"kind", .string⟩, ⟨"id", .option .i64⟩, ⟨"title", .option .string⟩, ⟨"data", .option .string⟩]

def peerNotifySettingsDto : Dto :=
  [⟨"showPreviews", .option .bool⟩, ⟨"silent", .option .bool⟩, ⟨"muteUntil", .option .i64⟩,
    ⟨"iosSound", .option (.struct notificationSoundDto)⟩,
    ⟨"androidSound", .option (.struct notificationSoundDto)⟩,
    ⟨"otherSound", .option (.struct notificationSoundDto)⟩, ⟨"storiesMuted", .option .bool⟩,
    ⟨"storiesHideSender", .option .bool⟩,
    ⟨"storiesIosSound", .option (.struct notificationSoundDto)⟩,
    ⟨"storiesAndroidSound", .option (.struct notificationSoundDto)⟩,
    ⟨"storiesOtherSound", .option (.struct notificationSoundDto)⟩]

def notifySettingsDto : Dto :=
  [⟨"scope", .string⟩, ⟨"settings", .struct peerNotifySettingsDto⟩]

/-! ### participant.rs -/

def participantDto : Dto :=
  [⟨"user", .struct userDto⟩, ⟨"role", .string⟩, ⟨"rank", .option .string⟩,
    ⟨"date", .option .i64⟩, ⟨"invitedBy", .option .i64⟩, ⟨"promotedBy", .option .i64⟩,
    ⟨"kickedBy", .option .i64⟩, ⟨"canEdit", .option .bool⟩, ⟨"left", .option .bool⟩,
    ⟨"permissions", .option (.struct chatPermissionsDto)⟩,
    ⟨"restrictions", .option (.struct chatRestrictionsDto)⟩]

def participantPermissionsDto : Dto :=
  ["isCreator", "isAdmin", "isBanned", "hasLeft", "hasDefaultPermissions",
    "canAddAdmins"].map flag

/-! ### stickers.rs -/

def stickerPackDto : Dto :=
  [⟨"emoticon", .string⟩, ⟨"documents", .vec .i64⟩]

def stickerSetDto : Dto :=
  ["archived", "official", "masks", "emojis", "textColor", "channelEmojiStatus",
    "creator"].map flag ++
    [⟨"installedDate", .option .i64⟩, ⟨"id", .i64⟩, ⟨"accessHash", .i64⟩, ⟨"title", .string⟩,
      ⟨"shortName", .string⟩, ⟨"thumbDocumentId", .option .i64⟩, ⟨"thumbDcId", .option .i32⟩,
      ⟨"thumbVersion", .option .i32⟩, ⟨"count", .i32⟩, ⟨"hash", .i32⟩,
      ⟨"packs", .vec (.struct stickerPackDto)⟩, ⟨"documents", .vec .i64⟩]

def stickerSetResultDto : Dto :=
  [⟨"notModified", .bool⟩, ⟨"set", .option (.struct stickerSetDto)⟩]

def allStickersDto : Dto :=
  [⟨"notModified", .bool⟩, ⟨"hash", .i64⟩, ⟨"sets", .vec (.struct stickerSetDto)⟩]

def recentStickersDto : Dto :=
  [⟨"notModified", .bool⟩, ⟨"hash", .i64⟩, ⟨"packs", .vec (.struct stickerPackDto)⟩,
    ⟨"stickers", .vec .i64⟩, ⟨"dates", .vec .i64⟩]

def favedStickersDto : Dto :=
  [⟨"notModified", .bool⟩, ⟨"hash", .i64⟩, ⟨"packs", .vec (.struct stickerPackDto)⟩,
    ⟨"stickers", .vec .i64⟩]

def archivedStickerSetDto : Dto :=
  [⟨"set", .struct stickerSetDto⟩, ⟨"coverDocumentId", .option .i64⟩]

def stickerSetInstallResultDto : Dto :=
  [⟨"installed", .bool⟩, ⟨"archivedSets", .vec (.struct archivedStickerSetDto)⟩]

/-! ### update.rs -/

def updateMessageBoxDto : Dto :=
  [⟨"kind", .string⟩, ⟨"pts", .i32⟩, ⟨"channelId", .option .i64⟩]

def updateStateDto : Dto :=
  [⟨"date", .i64⟩, ⟨"seq", .i32⟩, ⟨"messageBox", .option (.struct updateMessageBoxDto)⟩]

def inlineMessageIdDto : Dto :=
  [⟨"dcId", .i32⟩, ⟨"accessHash", .i64⟩, ⟨"id", .i64⟩]

def callbackQueryDto : Dto :=
  [⟨"data", .string⟩, ⟨"isFromInline", .bool⟩, ⟨"queryId", .i64⟩, ⟨"messageId", .option .i32⟩,
    ⟨"inlineMessageId", .option (.struct inlineMessageIdDto)⟩, ⟨"peer", .struct peerDto⟩,
    ⟨"sender", .struct userDto⟩]

def inlineQueryDto : Dto :=
  [⟨"sender", .struct userDto⟩, ⟨"text", .string⟩, ⟨"offset", .string⟩, ⟨"queryId", .i64⟩,
    ⟨"peerType", .option .string⟩]

def inlineSendDto : Dto :=
  [⟨"sender", .struct userDto⟩, ⟨"text", .string⟩, ⟨"resultId", .string⟩,
    ⟨"messageId", .option (.struct inlineMessageIdDto)⟩]

def guestChatQueryDto : Dto :=
  [⟨"queryId", .i64⟩, ⟨"message", .struct messageDto⟩,
    ⟨"referenceMessages", .vec (.struct messageDto)⟩]

def rawUpdateDto : Dto :=
  [⟨"name", .string⟩, ⟨"data", .string⟩]

def updateDto : Dto :=
  [⟨"kind", .string⟩, ⟨"message", .option (.struct messageDto)⟩,
    ⟨"state", .option (.struct updateStateDto)⟩, ⟨"deletedMessageIds", .option (.vec .i32)⟩,
    ⟨"deletedChannelId", .option .i64⟩, ⟨"callbackQuery", .option (.struct callbackQueryDto)⟩,
    ⟨"inlineQuery", .option (.struct inlineQueryDto)⟩,
    ⟨"inlineSend", .option (.struct inlineSendDto)⟩,
    ⟨"guestChatQuery", .option (.struct guestChatQueryDto)⟩,
    ⟨"rawUpdate", .option (.struct rawUpdateDto)⟩]

/-! ### updates.rs of the operations -/

def rawUpdateResult : Dto :=
  [⟨"update", .struct rawUpdateDto⟩, ⟨"state", .struct updateStateDto⟩,
    ⟨"peers", .vec (.struct peerDto)⟩]

def guestChatAnswerResult : Dto :=
  [⟨"dcId", .i32⟩, ⟨"id", .i64⟩, ⟨"accessHash", .i64⟩, ⟨"ownerId", .option .i64⟩]

/-! ### upload.rs -/

def uploadProgressDto : Dto :=
  [⟨"sent", .u64⟩, ⟨"total", .u64⟩, ⟨"elapsedMillis", .u64⟩, ⟨"bytesPerSecond", .f64⟩]

/-! ### Objects that a handler builds with `json!` -/

def ok : Dto := [flag "ok"]

def available : Dto := [flag "available"]

def action : Dto := [⟨"action", .option (.struct messageActionDto)⟩]

def phone : Dto := [⟨"phone", .string⟩]

def authorized : Dto := [⟨"status", .string⟩, ⟨"user", .struct userDto⟩]

def passwordRequired : Dto := [⟨"hint", .option .string⟩, ⟨"status", .string⟩]

def participantsResult : Dto :=
  [⟨"participants", .vec (.struct participantDto)⟩, ⟨"total", .usize⟩]

def notJoined : Dto := [flag "joined"]

def inviteHash : Dto := [⟨"hash", .option .string⟩]

def total : Dto := [⟨"total", .usize⟩]

def uploadId : Dto := [⟨"uploadId", .i64⟩]

def leaveSuggestions : Dto := [⟨"peers", .vec (.struct chatlistPeerDto)⟩]

def edited : Dto := [flag "edited"]

def deleted : Dto := [⟨"deleted", .usize⟩]

def nextUpdate : Dto := [⟨"update", .option (.struct updateDto)⟩]

def nextRawUpdate : Dto := [⟨"update", .option (.struct rawUpdateResult)⟩]

/-- A variant of `ChatlistInviteDto`, whose tag stands in front of its content. -/
def tagged (content : Dto) : Dto := ⟨"kind", .string⟩ :: content

end Kotlogramme.Protocol.Native
