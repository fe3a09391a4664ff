/-
The answers of the native library.

A handler ends in a value that it serializes or in a message.  Either crosses as one
string, and a bridge tells them apart by how the string starts: what is no object, no
array and not `null` is raised as it is.  The result classes are written apart from
the structs they are read from.
-/

import Kotlogramme.Foundation.Words
import Kotlogramme.Protocol.ResultClasses
import Kotlogramme.Protocol.ResultStructs

namespace Kotlogramme.Protocol

open Words

/-- The operations that `dispatch` runs, and `signInBot`, which has an export of its own. -/
inductive Route
  | accountUpdateProfile
  | accountUpdateUsername
  | accountCheckUsername
  | accountUpdateStatus
  | accountGetAuthorizations
  | accountResetAuthorization
  | accountResetAuthorizations
  | accountGetPassword
  | accountGetPrivacy
  | accountSetPrivacy
  | accountGetNotifySettings
  | accountUpdateNotifySettings
  | requestLoginCode
  | signIn
  | checkPassword
  | signOut
  | getMe
  | getSelfPeer
  | getDataCentreId
  | resolveUsername
  | chatlistsExportChatlistInvite
  | chatlistsDeleteExportedInvite
  | chatlistsEditExportedInvite
  | chatlistsGetExportedInvites
  | chatlistsCheckChatlistInvite
  | chatlistsJoinChatlistInvite
  | chatlistsGetChatlistUpdates
  | chatlistsJoinChatlistUpdates
  | chatlistsHideChatlistUpdates
  | chatlistsGetLeaveChatlistSuggestions
  | chatlistsLeaveChatlist
  | sendMessage
  | sendFile
  | sendAlbum
  | editMessage
  | deleteMessages
  | getHistory
  | getHistoryTotal
  | getChatPhotos
  | getMessages
  | getReplyToMessage
  | searchMessages
  | searchMessagesTotal
  | searchAllMessages
  | searchAllMessagesTotal
  | forwardMessages
  | getPinnedMessage
  | pinMessage
  | unpinMessage
  | unpinAllMessages
  | sendReaction
  | getParticipants
  | kickParticipant
  | inviteToChannel
  | joinChat
  | leaveChat
  | getPermissions
  | setBannedRights
  | setAdminRights
  | acceptInviteLink
  | parseInviteLink
  | resolvePeer
  | contactsGetContacts
  | contactsImportContacts
  | contactsDeleteContacts
  | contactsBlock
  | contactsUnblock
  | contactsGetBlocked
  | contactsSearch
  | getDialogs
  | getDialogsMeta
  | getDialogsTotal
  | markAsRead
  | clearMentions
  | nextUpdate
  | nextRawUpdate
  | syncUpdateState
  | answerGuestChatQuery
  | sendMedia
  | sendMediaUrl
  | copyMedia
  | messagesGetStickerSet
  | messagesGetAllStickers
  | messagesGetRecentStickers
  | messagesGetFavedStickers
  | messagesInstallStickerSet
  | messagesUninstallStickerSet
  | sendSticker
  | downloadMedia
  | downloadMediaChunk
  | uploadFile
  | uploadBytes
  | uploadProgress
  | uploadProgressBegin
  | uploadStreamBegin
  | uploadStreamChunk
  | uploadStreamFinish
  | iterProfilePhotos
  | messagesGetDialogFilters
  | messagesUpdateDialogFilter
  | messagesUpdateDialogFiltersOrder
  | inlineQuery
  | answerCallbackQuery
  | answerInlineQuery
  | sendInlineBotResult
  | editInlineMessage
  | sendChatAction
  | getMessageAction
  | getReplyMarkup
  | buildInlineMarkup
  | buildReplyKeyboard
  | buildForceReply
  | buildHideKeyboard
  | getUsers
  | signInBot

namespace Route

/-- `all_operations`, one module of operations after the other. -/
def allOperations : List Route :=
  [.accountUpdateProfile, .accountUpdateUsername, .accountCheckUsername, .accountUpdateStatus,
    .accountGetAuthorizations, .accountResetAuthorization, .accountResetAuthorizations,
    .accountGetPassword, .accountGetPrivacy, .accountSetPrivacy, .accountGetNotifySettings,
    .accountUpdateNotifySettings, .requestLoginCode, .signIn, .checkPassword, .signOut, .getMe,
    .getSelfPeer, .getDataCentreId, .resolveUsername, .chatlistsExportChatlistInvite,
    .chatlistsDeleteExportedInvite, .chatlistsEditExportedInvite, .chatlistsGetExportedInvites,
    .chatlistsCheckChatlistInvite, .chatlistsJoinChatlistInvite, .chatlistsGetChatlistUpdates,
    .chatlistsJoinChatlistUpdates, .chatlistsHideChatlistUpdates,
    .chatlistsGetLeaveChatlistSuggestions, .chatlistsLeaveChatlist, .sendMessage, .sendFile,
    .sendAlbum, .editMessage, .deleteMessages, .getHistory, .getHistoryTotal, .getChatPhotos,
    .getMessages, .getReplyToMessage, .searchMessages, .searchMessagesTotal, .searchAllMessages,
    .searchAllMessagesTotal, .forwardMessages, .getPinnedMessage, .pinMessage, .unpinMessage,
    .unpinAllMessages, .sendReaction, .getParticipants, .kickParticipant, .inviteToChannel,
    .joinChat, .leaveChat, .getPermissions, .setBannedRights, .setAdminRights, .acceptInviteLink,
    .parseInviteLink, .resolvePeer, .contactsGetContacts, .contactsImportContacts,
    .contactsDeleteContacts, .contactsBlock, .contactsUnblock, .contactsGetBlocked,
    .contactsSearch, .getDialogs, .getDialogsMeta, .getDialogsTotal, .markAsRead, .clearMentions,
    .nextUpdate, .nextRawUpdate, .syncUpdateState, .answerGuestChatQuery, .sendMedia,
    .sendMediaUrl, .copyMedia, .messagesGetStickerSet, .messagesGetAllStickers,
    .messagesGetRecentStickers, .messagesGetFavedStickers, .messagesInstallStickerSet,
    .messagesUninstallStickerSet, .sendSticker, .downloadMedia, .downloadMediaChunk, .uploadFile,
    .uploadBytes, .uploadProgress, .uploadProgressBegin, .uploadStreamBegin, .uploadStreamChunk,
    .uploadStreamFinish, .iterProfilePhotos, .messagesGetDialogFilters,
    .messagesUpdateDialogFilter, .messagesUpdateDialogFiltersOrder, .inlineQuery,
    .answerCallbackQuery, .answerInlineQuery, .sendInlineBotResult, .editInlineMessage,
    .sendChatAction, .getMessageAction, .getReplyMarkup, .buildInlineMarkup, .buildReplyKeyboard,
    .buildForceReply, .buildHideKeyboard, .getUsers]

/-- An operation stands at the place of its constructor. -/
theorem mem_allOperations {route : Route} (requested : route ≠ .signInBot) :
    route ∈ allOperations := by
  have placed : allOperations[route.ctorIdx]? = some route := by
    cases route with
    | signInBot => exact absurd rfl requested
    | _ => rfl
  exact List.mem_of_getElem? placed

section

open Bridge

/-- What the bridge decodes the answer as. -/
def kotlin : Route → ResultType
  | accountUpdateProfile | accountUpdateUsername | checkPassword | signInBot =>
      .dataClass user
  | accountCheckUsername => .dataClass usernameAvailability
  | accountUpdateStatus | accountResetAuthorization | accountResetAuthorizations
  | accountUpdateNotifySettings | sendChatAction | signOut | kickParticipant | inviteToChannel
  | leaveChat | setBannedRights | setAdminRights | contactsDeleteContacts | contactsBlock
  | contactsUnblock | markAsRead | clearMentions | uploadStreamChunk
  | messagesUpdateDialogFilter | messagesUpdateDialogFiltersOrder
  | chatlistsDeleteExportedInvite | chatlistsHideChatlistUpdates | answerCallbackQuery
  | answerInlineQuery | editMessage | pinMessage | unpinMessage | unpinAllMessages
  | sendReaction | messagesUninstallStickerSet | syncUpdateState =>
      .dataClass operationResult
  | accountGetAuthorizations => .dataClass authorizationsResult
  | accountGetPassword => .dataClass passwordSettings
  | accountGetPrivacy | accountSetPrivacy => .dataClass privacyRulesResult
  | accountGetNotifySettings => .dataClass notifySettingsResult
  | getMessageAction => .dataClass getMessageActionResult
  | requestLoginCode => .dataClass loginCodeSent
  | signIn => .dataClass signInResponse
  | getMe => .dataClass me
  | getSelfPeer | resolveUsername => .dataClass peer
  | getDataCentreId => .dataClass dataCentreResult
  | getParticipants => .dataClass participantsResult
  | joinChat | acceptInviteLink | resolvePeer => .dataClass joinResult
  | getPermissions => .dataClass participantPermissions
  | parseInviteLink => .dataClass inviteLinkResult
  | contactsGetContacts => .dataClass contactsPage
  | contactsImportContacts => .dataClass importedContacts
  | contactsGetBlocked => .dataClass blockedContacts
  | contactsSearch => .dataClass foundContacts
  | getDialogs | getDialogsMeta => .list (.dataClass dialog)
  | getDialogsTotal => .dataClass dialogsTotal
  | downloadMedia => .dataClass downloadResult
  | downloadMediaChunk => .nullable (.dataClass mediaChunk)
  | uploadFile | uploadBytes | uploadStreamFinish => .dataClass uploadedFile
  | uploadStreamBegin | uploadProgressBegin => .dataClass uploadStreamBeginResult
  | uploadProgress => .dataClass Bridge.uploadProgress
  | iterProfilePhotos => .list (.dataClass profilePhoto)
  | messagesGetDialogFilters => .dataClass dialogFoldersResult
  | chatlistsExportChatlistInvite | chatlistsEditExportedInvite => .dataClass exportedInvite
  | chatlistsGetExportedInvites => .dataClass exportedInvitesResult
  | chatlistsCheckChatlistInvite => .dataClass chatlistInviteResult
  | chatlistsJoinChatlistInvite | chatlistsJoinChatlistUpdates | chatlistsLeaveChatlist =>
      .dataClass chatlistUpdatesAck
  | chatlistsGetChatlistUpdates => .dataClass chatlistUpdatesResult
  | chatlistsGetLeaveChatlistSuggestions => .dataClass leaveChatlistSuggestionsResult
  | inlineQuery => .dataClass inlineQueryResults
  | sendInlineBotResult => .dataClass sentInlineResult
  | editInlineMessage => .dataClass editedInlineMessage
  | getReplyMarkup => .nullable (.dataClass replyMarkup)
  | buildInlineMarkup | buildReplyKeyboard | buildForceReply | buildHideKeyboard =>
      .dataClass replyMarkup
  | sendMedia | sendMediaUrl | copyMedia | sendMessage | sendFile | sendSticker =>
      .dataClass message
  | sendAlbum | getMessages | forwardMessages => .list (.nullable (.dataClass message))
  | deleteMessages => .dataClass deleteResult
  | getHistory | getChatPhotos | searchMessages | searchAllMessages =>
      .list (.dataClass message)
  | getHistoryTotal | searchMessagesTotal | searchAllMessagesTotal => .dataClass messageCount
  | getReplyToMessage | getPinnedMessage => .nullable (.dataClass message)
  | messagesGetStickerSet => .dataClass stickerSetResult
  | messagesGetAllStickers => .dataClass allStickers
  | messagesGetRecentStickers => .dataClass recentStickers
  | messagesGetFavedStickers => .dataClass favedStickers
  | messagesInstallStickerSet => .dataClass stickerSetInstallResult
  | nextUpdate => .dataClass nextUpdateResult
  | nextRawUpdate => .dataClass nextRawUpdateResult
  | answerGuestChatQuery => .dataClass guestChatAnswerResult
  | getUsers => .list (.dataClass contactUser)

end

section

open Native

/-- What the handler may answer with. -/
def answers : Route → List DtoType
  | accountUpdateProfile | accountUpdateUsername | checkPassword | signInBot =>
      [.struct userDto]
  | accountCheckUsername => [.struct available]
  | accountUpdateStatus | accountResetAuthorization | accountResetAuthorizations
  | accountUpdateNotifySettings | sendChatAction | signOut | kickParticipant | inviteToChannel
  | leaveChat | setBannedRights | setAdminRights | contactsDeleteContacts | contactsBlock
  | contactsUnblock | markAsRead | clearMentions | uploadStreamChunk
  | messagesUpdateDialogFilter | messagesUpdateDialogFiltersOrder
  | chatlistsDeleteExportedInvite | chatlistsHideChatlistUpdates | answerCallbackQuery
  | answerInlineQuery | editMessage | pinMessage | unpinMessage | unpinAllMessages
  | sendReaction | messagesUninstallStickerSet | syncUpdateState => [.struct ok]
  | accountGetAuthorizations => [.struct authorizationsDto]
  | accountGetPassword => [.struct passwordSettingsDto]
  | accountGetPrivacy | accountSetPrivacy => [.struct privacyRulesDto]
  | accountGetNotifySettings => [.struct notifySettingsDto]
  | getMessageAction => [.struct action]
  | requestLoginCode => [.struct phone]
  | signIn => [.struct authorized, .struct passwordRequired]
  | getMe => [.struct meDto]
  | getSelfPeer | resolveUsername | resolvePeer => [.struct peerDto]
  | getDataCentreId => [.struct dataCentreDto]
  | getParticipants => [.struct participantsResult]
  | joinChat | acceptInviteLink => [.struct peerDto, .struct notJoined]
  | getPermissions => [.struct participantPermissionsDto]
  | parseInviteLink => [.struct inviteHash]
  | contactsGetContacts => [.struct contactsDto]
  | contactsImportContacts => [.struct importedContactsDto]
  | contactsGetBlocked => [.struct blockedContactsDto]
  | contactsSearch => [.struct foundContactsDto]
  | getDialogs => [.vec (.struct dialogDto)]
  | getDialogsMeta => [.vec (.struct dialogWithMetaDto)]
  | getDialogsTotal => [.struct total]
  | downloadMedia => [.struct downloadResultDto]
  | downloadMediaChunk => [.option (.struct mediaChunkDto)]
  | uploadFile | uploadBytes | uploadStreamFinish => [.struct uploadedFileDto]
  | uploadStreamBegin | uploadProgressBegin => [.struct uploadId]
  | uploadProgress => [.struct uploadProgressDto]
  | iterProfilePhotos => [.vec (.struct profilePhotoDto)]
  | messagesGetDialogFilters => [.struct dialogFoldersDto]
  | chatlistsExportChatlistInvite | chatlistsEditExportedInvite =>
      [.struct exportedInviteDto]
  | chatlistsGetExportedInvites => [.struct exportedInvitesDto]
  | chatlistsCheckChatlistInvite =>
      [.struct (tagged newChatlistInviteDto),
        .struct (tagged joinedChatlistInviteDto)]
  | chatlistsJoinChatlistInvite | chatlistsJoinChatlistUpdates | chatlistsLeaveChatlist =>
      [.struct chatlistUpdatesAckDto]
  | chatlistsGetChatlistUpdates => [.struct chatlistUpdatesDto]
  | chatlistsGetLeaveChatlistSuggestions => [.struct leaveSuggestions]
  | inlineQuery => [.struct inlineQueryResultsDto]
  | sendInlineBotResult => [.struct sentInlineResultDto]
  | editInlineMessage => [.struct edited]
  | getReplyMarkup => [.option (.struct replyMarkupDto)]
  | buildInlineMarkup | buildReplyKeyboard | buildForceReply | buildHideKeyboard =>
      [.struct replyMarkupDto]
  | sendMedia | sendMediaUrl | copyMedia | sendMessage | sendFile | sendSticker =>
      [.struct messageDto]
  | sendAlbum | getMessages | forwardMessages => [.vec (.option (.struct messageDto))]
  | deleteMessages => [.struct deleted]
  | getHistory | getChatPhotos | searchMessages | searchAllMessages =>
      [.vec (.struct messageDto)]
  | getHistoryTotal | searchMessagesTotal | searchAllMessagesTotal =>
      [.struct messageCountDto]
  | getReplyToMessage | getPinnedMessage => [.option (.struct messageDto)]
  | messagesGetStickerSet => [.struct stickerSetResultDto]
  | messagesGetAllStickers => [.struct allStickersDto]
  | messagesGetRecentStickers => [.struct recentStickersDto]
  | messagesGetFavedStickers => [.struct favedStickersDto]
  | messagesInstallStickerSet => [.struct stickerSetInstallResultDto]
  | nextUpdate => [.struct Native.nextUpdate]
  | nextRawUpdate => [.struct Native.nextRawUpdate]
  | answerGuestChatQuery => [.struct guestChatAnswerResult]
  | getUsers => [.vec (.struct contactUserDto)]

end

/-- The fields of a peer that `JoinResult` has no property for. -/
def dropped : Route → List String
  | joinChat | acceptInviteLink | resolvePeer =>
      ["usernames", "isMegagroup", "hasPhoto", "permissions"]
  | _ => []

end Route

/-- The document is an object, an array or `null`. -/
def DtoType.isDocument : DtoType → Bool
  | .struct _ | .vec _ | .option (.struct _) => true
  | _ => false

def Route.consistent (route : Route) : Bool :=
  route.kotlin.ignores route.dropped &&
    route.answers.all fun dtoType =>
      dtoType.isDocument && route.kotlin.reads dtoType &&
        route.kotlin.complete (dtoType.without route.dropped)

theorem Route.all_consistent (route : Route) : route.consistent = true := by
  have each : (Route.signInBot :: Route.allOperations).all Route.consistent = true := by
    decide +kernel
  apply List.all_eq_true.mp each
  by_cases bot : route = .signInBot
  · rw [bot]
    exact List.mem_cons_self
  · exact List.mem_cons_of_mem _ (Route.mem_allOperations bot)

/-! ### The string that crosses -/

/-- What a finite double is written as, its shortest decimal digits. -/
abbrev DoubleText := Double → List Char

/-- The escapes of serde_json. -/
def escape (character : Char) : List Char :=
  match character.toNat with
  | 0x08 => ['\\', 'b']
  | 0x09 => ['\\', 't']
  | 0x0A => ['\\', 'n']
  | 0x0C => ['\\', 'f']
  | 0x0D => ['\\', 'r']
  | 0x22 => ['\\', character]
  | 0x5C => ['\\', character]
  | code =>
      if code < 0x20 then
        ['\\', 'u', '0', '0', Nat.digitChar (code / 16), Nat.digitChar (code % 16)]
      else [character]

def quoted (text : String) : List Char := '\x22' :: text.toList.flatMap escape ++ ['\x22']

mutual

/-- `serde_json::to_string`. -/
def Json.text (double : DoubleText) : Json → List Char
  | .null => "null".toList
  | .bool value => (toString value).toList
  | .int number => (toString number).toList
  | .double value => double value
  | .string text => quoted text
  | .array items => '[' :: [','].intercalate (itemTexts double items) ++ [']']
  | .object members => '\x7b' :: [','].intercalate (memberTexts double members) ++ ['\x7d']

def itemTexts (double : DoubleText) : List Json → List (List Char)
  | [] => []
  | item :: items => item.text double :: itemTexts double items

def memberTexts (double : DoubleText) : List (String × Json) → List (List Char)
  | [] => []
  | member :: members => memberText double member :: memberTexts double members

def memberText (double : DoubleText) : String × Json → List Char
  | (name, document) => quoted name ++ ':' :: document.text double

end

/-- What a request ends with on the Rust side. -/
def nativeRequest (double : DoubleText) : Except (List Char) Json → List Char
  | .ok document => document.text double
  | .error message => "kotlogramme error: ".toList ++ message

inductive BridgeError
  /-- `TelegramException`, with its message. -/
  | telegram (message : List Char)
  | serialization
  deriving DecidableEq

/-- `Char.isWhitespace` of the JVM. -/
def isWhitespace (character : Char) : Bool :=
  let code := character.toNat
  decide (0x09 ≤ code ∧ code ≤ 0x0D) || decide (0x1C ≤ code ∧ code ≤ 0x20) ||
    decide (0x2000 ≤ code ∧ code ≤ 0x200A) ||
    [0xA0, 0x1680, 0x2028, 0x2029, 0x202F, 0x205F, 0x3000].contains code

def isDocument (payload : List Char) : Bool :=
  let text := strip isWhitespace payload
  text == "null".toList || text.head? == some '\x7b' || text.head? == some '['

/-- `Transport.decode`; `parse` is what kotlinx.serialization reads from a text. -/
def transportDecode (parse : List Char → Option Json) (type : ResultType)
    (payload : List Char) : Except BridgeError Value :=
  if !isDocument payload then .error (.telegram payload)
  else
    match (parse payload).map type.decode with
    | some (.ok taken) => .ok taken
    | _ => .error .serialization

/-! ### Every answer arrives -/

theorem head?_strip {space : Char → Bool} {first : Char} (solid : space first = false)
    (rest : List Char) : (strip space (first :: rest)).head? = some first := by
  have starts : ¬space first = true := by
    rw [solid]
    exact Bool.false_ne_true
  rw [strip, List.dropWhile_cons_of_neg starts]
  have kept : (first :: rest).rdropWhile space ≠ [] := by
    intro nothing
    exact starts (List.rdropWhile_eq_nil_iff.mp nothing first List.mem_cons_self)
  obtain ⟨front, later, split⟩ := List.exists_cons_of_ne_nil kept
  have start : front :: later <+: first :: rest := split ▸ List.rdropWhile_prefix space _
  rw [split, (List.cons_prefix_cons.mp start).1]
  rfl

theorem isDocument_object (double : DoubleText) (members : List (String × Json)) :
    isDocument ((Json.object members).text double) = true := by
  have first : (strip isWhitespace ((Json.object members).text double)).head? = some '\x7b' :=
    head?_strip rfl _
  rw [isDocument, first, beq_self_eq_true, Bool.or_true, Bool.true_or]

theorem isDocument_array (double : DoubleText) (items : List Json) :
    isDocument ((Json.array items).text double) = true := by
  have first : (strip isWhitespace ((Json.array items).text double)).head? = some '[' :=
    head?_strip rfl _
  rw [isDocument, first, beq_self_eq_true, Bool.or_true]

/-- The document of an answer is told from an error. -/
theorem isDocument_answer {dtoType : DtoType} {held : Value} (double : DoubleText)
    (shaped : dtoType.isDocument = true) (admitted : dtoType.admits held = true) :
    isDocument (held.document.text double) = true := by
  cases dtoType with
  | struct fields =>
      cases held with
      | record members => exact isDocument_object double (documentMembers members)
      | _ => cases admitted
  | vec item =>
      cases held with
      | list items => exact isDocument_array double (documents items)
      | _ => cases admitted
  | option inner =>
      cases inner with
      | struct fields =>
          cases held with
          | null => rfl
          | record members => exact isDocument_object double (documentMembers members)
          | _ => cases admitted
      | _ => cases shaped
  | _ => cases shaped

theorem isDocument_error (double : DoubleText) (message : List Char) :
    isDocument (nativeRequest double (.error message)) = false := by
  have first : (strip isWhitespace (nativeRequest double (.error message))).head? = some 'k' :=
    head?_strip rfl _
  rw [isDocument, first]
  generalize strip isWhitespace (nativeRequest double (.error message)) = text at first
  cases text with
  | nil => cases first
  | cons front rest =>
      cases first
      rfl

/-- How the handler of an operation ends. -/
inductive Outcome (route : Route)
  | answered (dtoType : DtoType) (listed : dtoType ∈ route.answers) (held : Value)
      (admitted : dtoType.admits held = true)
  | failed (message : List Char)

namespace Outcome

variable {route : Route}

def result : Outcome route → Except (List Char) Json
  | .answered _ _ held _ => .ok held.document
  | .failed message => .error message

/-- A value comes with every member that its class has a property for, the others at
their defaults; a message comes as it is, behind the prefix of an error. -/
def Arrives : Outcome route → Except BridgeError Value → Prop
  | .answered _ _ held _, received =>
      received = .ok (route.kotlin.view held) ∧
        Carried (held.without route.dropped) (route.kotlin.view held)
  | .failed message, received =>
      received = .error (.telegram ("kotlogramme error: ".toList ++ message))

end Outcome

/-- However a handler ends, the bridge gets just that. -/
theorem outcome_arrives (double : DoubleText) (parse : List Char → Option Json) (route : Route)
    (outcome : Outcome route)
    (parses : ∀ document, outcome.result = .ok document →
      parse (document.text double) = some document) :
    outcome.Arrives
      (transportDecode parse route.kotlin (nativeRequest double outcome.result)) := by
  cases outcome with
  | failed message =>
      have told := isDocument_error double message
      change transportDecode parse route.kotlin (nativeRequest double (.error message)) = _
      rw [transportDecode, told]
      rfl
  | answered dtoType listed held admitted =>
      have consistent := route.all_consistent
      rw [Route.consistent, Bool.and_eq_true] at consistent
      have checks := List.all_eq_true.mp consistent.2 dtoType listed
      simp only [Bool.and_eq_true] at checks
      obtain ⟨⟨shaped, reads⟩, complete⟩ := checks
      have decoded := decode_document route.kotlin dtoType held reads admitted
      have told := isDocument_answer double shaped admitted
      refine ⟨?_, carried_without consistent.1 reads complete admitted⟩
      change transportDecode parse route.kotlin (held.document.text double) = _
      rw [transportDecode, told, parses held.document rfl, Option.map_some, decoded]
      rfl

/-- A channel without a username that was joined. -/
def joinedChannel : Value :=
  .record [("nativeHandle", .int 9), ("id", .int 1234), ("kind", .string "channel"),
    ("username", .null), ("name", .string "News"), ("usernames", .list []),
    ("isMegagroup", .bool false), ("hasPhoto", .bool true), ("permissions", .null)]

theorem joinedChannel_typed : (DtoType.struct Native.peerDto).admits joinedChannel = true := by
  decide +kernel

def channelJoined : Outcome .joinChat :=
  .answered (.struct Native.peerDto) List.mem_cons_self joinedChannel joinedChannel_typed

/-- Reads the one text that arrives. -/
def parseJoined (double : DoubleText) (text : List Char) : Option Json :=
  if text = joinedChannel.document.text double then some joinedChannel.document else none

theorem outcome_arrives_joined :
    channelJoined.Arrives (transportDecode (parseJoined fun _ => []) Route.joinChat.kotlin
      (nativeRequest (fun _ => []) channelJoined.result)) := by
  apply outcome_arrives
  intro document written
  cases written
  exact if_pos rfl

end Kotlogramme.Protocol
