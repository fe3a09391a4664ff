/-
The requests a client sends as documents.

Each operation has a payload class on the Kotlin side and a struct on the Rust side,
written apart from each other.  The two agree on a payload if the struct accepts the
document and reads every property as it was: a property at its default is not
written, so the struct has to put the same value for it.  A document crosses as a
Java string, in which an unpaired surrogate spoils every other one.
-/

import Kotlogramme.Protocol.Agreement
import Kotlogramme.Protocol.JavaStrings
import Kotlogramme.Protocol.RequestClasses
import Kotlogramme.Protocol.RequestStructs

namespace Kotlogramme.Protocol

open Utf JavaStrings

/-- The operations whose payload has a default other than `null`, its own or that of a
class it holds. -/
inductive Operation
  | accountSetPrivacy
  | getParticipants
  | setBannedRights
  | setAdminRights
  | contactsGetContacts
  | contactsImportContacts
  | contactsBlock
  | contactsUnblock
  | contactsGetBlocked
  | contactsSearch
  | getDialogs
  | getDialogsMeta
  | iterProfilePhotos
  | messagesUpdateDialogFilter
  | chatlistsExportChatlistInvite
  | chatlistsJoinChatlistInvite
  | chatlistsJoinChatlistUpdates
  | chatlistsLeaveChatlist
  | buildReplyKeyboard
  | buildForceReply
  | buildHideKeyboard
  | sendMessage
  | sendFile
  | editMessage
  | searchMessages
  | searchMessagesTotal
  | getChatPhotos
  | sendReaction
  | answerCallbackQuery
  | answerGuestChatQuery
  | answerInlineQuery
  | sendInlineBotResult
  | editInlineMessage
  | sendMedia
  | sendMediaUrl
  | copyMedia
  | messagesGetStickerSet
  | messagesGetAllStickers
  | messagesGetFavedStickers
  | messagesGetRecentStickers
  | sendSticker
  | messagesInstallStickerSet

namespace Operation

/-- The class that a bridge passes to `Transport.request`. -/
def kotlin : Operation → Kotlin.KotlinClass
  | accountSetPrivacy => Kotlin.setPrivacyPayload
  | getParticipants => Kotlin.participantPayload
  | setBannedRights => Kotlin.setBannedRightsPayload
  | setAdminRights => Kotlin.setAdminRightsPayload
  | contactsGetContacts => Kotlin.getContactsPayload
  | contactsImportContacts => Kotlin.importContactsPayload
  | contactsBlock | contactsUnblock => Kotlin.blockContactPayload
  | contactsGetBlocked => Kotlin.getBlockedPayload
  | contactsSearch => Kotlin.searchContactsPayload
  | getDialogs | getDialogsMeta => Kotlin.limitPayload
  | iterProfilePhotos => Kotlin.profilePhotosPayload
  | messagesUpdateDialogFilter => Kotlin.updateDialogFilterPayload
  | chatlistsExportChatlistInvite => Kotlin.exportChatlistInvitePayload
  | chatlistsJoinChatlistInvite => Kotlin.joinChatlistInvitePayload
  | chatlistsJoinChatlistUpdates | chatlistsLeaveChatlist => Kotlin.chatlistPeersPayload
  | buildReplyKeyboard => Kotlin.keyboardMarkupPayload
  | buildForceReply => Kotlin.forceReplyPayload
  | buildHideKeyboard => Kotlin.hideKeyboardPayload
  | sendMessage => Kotlin.sendMessagePayload
  | sendFile => Kotlin.sendFilePayload
  | editMessage => Kotlin.editMessagePayload
  | searchMessages | searchMessagesTotal => Kotlin.searchMessagesPayload
  | getChatPhotos => Kotlin.chatPhotosPayload
  | sendReaction => Kotlin.reactionPayload
  | answerCallbackQuery => Kotlin.answerCallbackQueryPayload
  | answerGuestChatQuery => Kotlin.answerGuestChatQueryPayload
  | answerInlineQuery => Kotlin.answerInlineQueryPayload
  | sendInlineBotResult => Kotlin.sendInlineBotResultPayload
  | editInlineMessage => Kotlin.editInlineMessagePayload
  | sendMedia => Kotlin.sendMediaPayload
  | sendMediaUrl => Kotlin.sendMediaUrlPayload
  | copyMedia => Kotlin.copyMediaPayload
  | messagesGetStickerSet => Kotlin.getStickerSetPayload
  | messagesGetAllStickers | messagesGetFavedStickers => Kotlin.getStickersPayload
  | messagesGetRecentStickers => Kotlin.getRecentStickersPayload
  | sendSticker => Kotlin.sendStickerPayload
  | messagesInstallStickerSet => Kotlin.installStickerSetPayload

/-- The struct that the handler parses the payload as. -/
def rust : Operation → Rust.RustStruct
  | accountSetPrivacy => Rust.setPrivacyPayload
  | getParticipants => Rust.participantPayload
  | setBannedRights => Rust.setBannedRightsPayload
  | setAdminRights => Rust.setAdminRightsPayload
  | contactsGetContacts => Rust.getContactsPayload
  | contactsImportContacts => Rust.importContactsPayload
  | contactsBlock | contactsUnblock => Rust.blockContactPayload
  | contactsGetBlocked => Rust.getBlockedPayload
  | contactsSearch => Rust.searchContactsPayload
  | getDialogs | getDialogsMeta => Rust.dialogsPayload
  | iterProfilePhotos => Rust.profilePhotosPayload
  | messagesUpdateDialogFilter => Rust.updateDialogFilterPayload
  | chatlistsExportChatlistInvite => Rust.exportInvitePayload
  | chatlistsJoinChatlistInvite => Rust.joinInvitePayload
  | chatlistsJoinChatlistUpdates | chatlistsLeaveChatlist => Rust.chatlistPeersPayload
  | buildReplyKeyboard => Rust.replyKeyboardPayload
  | buildForceReply => Rust.forceReplyPayload
  | buildHideKeyboard => Rust.hideKeyboardPayload
  | sendMessage => Rust.sendMessagePayload
  | sendFile => Rust.sendFilePayload
  | editMessage => Rust.editMessagePayload
  | searchMessages | searchMessagesTotal => Rust.searchMessagesPayload
  | getChatPhotos => Rust.chatPhotosPayload
  | sendReaction => Rust.reactionPayload
  | answerCallbackQuery => Rust.answerCallbackQueryPayload
  | answerGuestChatQuery => Rust.answerGuestChatQueryPayload
  | answerInlineQuery => Rust.answerInlineQueryPayload
  | sendInlineBotResult => Rust.sendInlineBotResultPayload
  | editInlineMessage => Rust.editInlineMessagePayload
  | sendMedia => Rust.sendMediaPayload
  | sendMediaUrl => Rust.sendMediaUrlPayload
  | copyMedia => Rust.copyMediaPayload
  | messagesGetStickerSet => Rust.getStickerSetPayload
  | messagesGetAllStickers | messagesGetFavedStickers => Rust.getStickersPayload
  | messagesGetRecentStickers => Rust.getRecentStickersPayload
  | sendSticker => Rust.sendStickerPayload
  | messagesInstallStickerSet => Rust.installStickerSetPayload

/-- The one property of a payload that its struct does not take at every value. -/
def obstacle : Operation → Option Obstacle
  | editInlineMessage => some (.atDefault "text" (.string ""))
  | getParticipants | getDialogs | getDialogsMeta | iterProfilePhotos | searchMessages
  | searchMessagesTotal | getChatPhotos => some (.negative "limit")
  | sendSticker => some (.negative "index")
  | _ => none

end Operation

/-- An instance of the payload class of an operation. -/
structure Payload (operation : Operation) where
  members : List (String × KotlinValue)
  typed : admitsMembers operation.kotlin members = true

def KotlinValue.isFinite : KotlinValue → Bool
  | .notFinite => false
  | _ => true

def KotlinValue.isFormed : KotlinValue → Bool
  | .string text => wellFormed text
  | _ => true

/-- What the exports have for a text of a document; `whole` says that the strict decoder
takes the document.  The encoder has escaped the null character. -/
def arriving (whole : Bool) (text : JString) : String :=
  arrived (if whole then text
    else text.flatMap fun unit => if unit = 0 then [unit] else lossyUnit unit)

/-- Any other text is what the exports decode between its quotation marks. -/
theorem arriving_eq_decoded (cesu8 : Cesu8) {before text after : JString} {whole : Bool}
    (document : wellFormed (before ++ text ++ after) = whole) (noNul : 0 ∉ text) :
    decodeJavaString cesu8 (modifiedUtf8 (before ++ text ++ after)) =
        decoded whole before ++ decoded whole text ++ decoded whole after ∧
      arriving whole text = arrived (decoded whole text) := by
  have same : ∀ unit ∈ text, (if unit = 0 then [unit] else lossyUnit unit) = lossyUnit unit := by
    intro unit inside
    apply if_neg
    rintro rfl
    exact noNul inside
  constructor
  · rw [decodeJavaString_modifiedUtf8, document, decoded_append, decoded_append]
  · rw [arriving, decoded, List.flatMap_congr same]

namespace Payload

variable {operation : Operation}

def content (payload : Payload operation) : KotlinValue := .record payload.members

/-- Names, numbers and punctuation of a document are ASCII. -/
def whole (payload : Payload operation) : Bool := payload.content.leaves.all KotlinValue.isFormed

/-- The document of `Transport.request`, as it arrives.  The encoder throws at a number
that is not finite. -/
def request (payload : Payload operation) : Option Json :=
  if payload.content.leaves.all KotlinValue.isFinite then
    some (KotlinType.encode (arriving payload.whole) (.dataClass operation.kotlin)
      payload.content)
  else none

/-- What the handler works on. -/
def received (reread : Double → Option Double) (payload : Payload operation) :
    Option (Except Refusal Value) :=
  payload.request.map fun document =>
    RustType.deserialize reread (.struct operation.rust) document

/-- The handler accepts the request, and it is the one that was made. -/
def SameRequest (reread : Double → Option Double) (payload : Payload operation) : Prop :=
  ∃ taken, payload.received reread = some (.ok taken) ∧ Reaches payload.content taken

/-- The text of an inline edit is not empty, no number is negative that is read as a
`usize`, no text has a surrogate without its partner, and every `Double` is a number
that the reader reads back. -/
structure Sendable (reread : Double → Option Double) (payload : Payload operation) :
    Prop where
  avoided : ∀ met ∈ operation.obstacle, met.Avoided payload.members
  formed : ∀ text, .string text ∈ payload.content.leaves → wellFormed text = true
  finite : .notFinite ∉ payload.content.leaves
  reread : ∀ value, .double value ∈ payload.content.leaves → reread value = some value

section Kept

variable {reread : Double → Option Double} {payload : Payload operation}

theorem sendable_iff_kept : payload.Sendable reread ↔
    (∀ met ∈ operation.obstacle, met.Avoided payload.members) ∧
      Kept reread payload.content := by
  constructor
  · intro sendable
    refine ⟨sendable.avoided, ?_⟩
    intro leaf inside
    cases leaf with
    | string text => exact sendable.formed text inside
    | double value => exact sendable.reread value inside
    | notFinite => exact sendable.finite inside
    | _ => trivial
  · rintro ⟨avoided, kept⟩
    exact ⟨avoided, fun text inside => kept _ inside, fun inside => kept _ inside,
      fun value inside => kept _ inside⟩

/-- A payload of finite numbers and well-formed texts arrives as it was written. -/
theorem received_of_readable (readable : ∀ leaf ∈ payload.content.leaves, leaf.Readable) :
    payload.received reread = some (RustType.deserialize reread (.struct operation.rust)
      (KotlinType.encode arrived (.dataClass operation.kotlin) payload.content)) := by
  have finite : payload.content.leaves.all KotlinValue.isFinite = true := by
    rw [List.all_eq_true]
    intro leaf inside
    cases leaf with
    | notFinite => exact (readable _ inside).elim
    | _ => rfl
  have whole : payload.whole = true := by
    rw [Payload.whole, List.all_eq_true]
    intro leaf inside
    cases leaf with
    | string text => exact readable _ inside
    | _ => rfl
  have same : arriving true = arrived := rfl
  rw [received, request, if_pos finite, whole, same]
  rfl

theorem readable_of_kept (kept : Kept reread payload.content) :
    ∀ leaf ∈ payload.content.leaves, leaf.Readable := by
  intro leaf inside
  have own := kept leaf inside
  cases leaf with
  | string text => exact own
  | notFinite => exact own
  | _ => trivial

end Kept

end Payload

theorem Operation.faithful (operation : Operation) :
    Protocol.faithful operation.kotlin operation.rust operation.obstacle = true := by
  cases operation <;> decide

/-- The two sides agree on exactly the payloads that meet no obstacle and whose texts and
doubles survive the way. -/
theorem sameRequest_iff_sendable (reread : Double → Option Double)
    (operation : Operation) (payload : Payload operation) :
    payload.SameRequest reread ↔ payload.Sendable reread := by
  have agrees := @agrees_iff_avoided reread _ _ _ _ operation.faithful payload.typed
  rw [Payload.sendable_iff_kept]
  constructor
  · rintro ⟨taken, received, reaches⟩
    have readable := Reaches.readable payload.content taken reaches
    rw [Payload.received_of_readable readable] at received
    exact agrees.mp ⟨taken, Option.some.inj received, reaches⟩
  · intro sendable
    obtain ⟨taken, read, reaches⟩ := agrees.mpr sendable
    refine ⟨taken, ?_, reaches⟩
    rw [Payload.received_of_readable (Payload.readable_of_kept sendable.2)]
    exact congrArg some read

/-- Puts a document by its address into an inline message and leaves the text out. -/
def mediaOnlyEdit : Payload .editInlineMessage where
  members :=
    [("messageId", .record [("dcId", .int 2), ("accessHash", .int 91), ("id", .int 7)]),
      ("text", .string []), ("linkPreview", .bool true), ("invertMedia", .bool false),
      ("parseMode", .null), ("entities", .null), ("markup", .null),
      ("media", .record [("url", .string (text "https://example.org/a.pdf")),
        ("kind", .null)])]
  typed := rfl

/-- The struct requires the text that the class omits, however well doubles are read. -/
theorem mediaOnlyEdit_refused :
    mediaOnlyEdit.received some = some (.error (.missingField "text")) ∧
      ¬ ∀ (operation : Operation) (payload : Payload operation), payload.SameRequest some := by
  have refused : mediaOnlyEdit.received some = some (.error (.missingField "text")) := rfl
  refine ⟨refused, ?_⟩
  intro agrees
  obtain ⟨taken, accepted, -⟩ := agrees .editInlineMessage mediaOnlyEdit
  rw [refused] at accepted
  cases accepted

end Kotlogramme.Protocol
