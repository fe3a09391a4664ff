/-
The id of an inline message, from an update to an edit.

The layer has two constructors of the id, and only the wider one has an owner.  An
update projects the three fields they share, a guest-chat answer the owner as well;
the facade keeps the shared ones and an edit sends them back.  Without an owner the
edit is built with the constructor that has none.  The document of an edit has no
field for what is at its default, and the text must be there.
-/

import Kotlogramme.Messages.Entities
import Kotlogramme.Messages.Markup

namespace Kotlogramme.Messages

open Kotlogramme.Protocol

/-! ### The layer's id and its projections -/

structure InputBotInlineMessageIdShort where
  dcId : Int32
  id : Int64
  accessHash : Int64
  deriving DecidableEq

structure InputBotInlineMessageId64 where
  dcId : Int32
  ownerId : Int64
  id : Int32
  accessHash : Int64
  deriving DecidableEq

inductive InputBotInlineMessageId
  | id (short : InputBotInlineMessageIdShort)
  | id64 (long : InputBotInlineMessageId64)
  deriving DecidableEq

namespace InputBotInlineMessageId

def dcId : InputBotInlineMessageId → Int32
  | .id short => short.dcId
  | .id64 long => long.dcId

def accessHash : InputBotInlineMessageId → Int64
  | .id short => short.accessHash
  | .id64 long => long.accessHash

def ownerId : InputBotInlineMessageId → Option Int64
  | .id _ => none
  | .id64 long => some long.ownerId

def widenedId : InputBotInlineMessageId → Int64
  | .id short => short.id
  | .id64 long => long.id.toInt64

end InputBotInlineMessageId

structure InlineMessageIdDto where
  dcId : Int32
  accessHash : Int64
  id : Int64

def inlineMessageIdDto (messageId : InputBotInlineMessageId) : InlineMessageIdDto where
  dcId := messageId.dcId
  accessHash := messageId.accessHash
  id := messageId.widenedId

structure GuestChatAnswerResult where
  dcId : Int32
  id : Int64
  accessHash : Int64
  ownerId : Option Int64

def guestChatAnswerResult (id : InputBotInlineMessageId) : GuestChatAnswerResult where
  dcId := id.dcId
  id := id.widenedId
  accessHash := id.accessHash
  ownerId := id.ownerId

/-! ### The facade -/

/-- The id as the facade has it. -/
structure InlineMessageId where
  dcId : Int32
  accessHash : Int64
  id : Int64

def InlineMessageIdDto.toCompatibility (id : InlineMessageIdDto) : InlineMessageId where
  dcId := id.dcId
  accessHash := id.accessHash
  id := id.id

def GuestChatAnswerResult.toCompatibility (result : GuestChatAnswerResult) : InlineMessageId where
  dcId := result.dcId
  accessHash := result.accessHash
  id := result.id

/-- Where the facade gets an id from. -/
inductive Reported
  | inlineSend (messageId : InputBotInlineMessageId)
  | inlineCallbackQuery (messageId : InputBotInlineMessageId)
  | guestChatAnswer (messageId : InputBotInlineMessageId)

namespace Reported

def layerId : Reported → InputBotInlineMessageId
  | .inlineSend messageId => messageId
  | .inlineCallbackQuery messageId => messageId
  | .guestChatAnswer messageId => messageId

def facadeId : Reported → InlineMessageId
  | .inlineSend messageId => (inlineMessageIdDto messageId).toCompatibility
  | .inlineCallbackQuery messageId => (inlineMessageIdDto messageId).toCompatibility
  | .guestChatAnswer messageId => (guestChatAnswerResult messageId).toCompatibility

end Reported

structure InlineEditMediaSpec where
  url : String
  kind : Option String

/-- What an edit asks for besides its message. -/
structure InlineEdit where
  text : String
  linkPreview : Bool
  invertMedia : Bool
  parseMode : Option String
  entities : Option (List EntitySpec)
  markup : Option MarkupSpec
  media : Option InlineEditMediaSpec

structure InlineMessageIdPayload where
  dcId : Int32
  accessHash : Int64
  id : Int64
  ownerId : Option Int64

/-- The document of an edit, in which a property at its default is missing. -/
structure EditInlineMessageDocument where
  messageId : InlineMessageIdPayload
  text : Option String
  linkPreview : Option Bool
  invertMedia : Option Bool
  parseMode : Option String
  entities : Option (List EntitySpec)
  markup : Option MarkupSpec
  media : Option InlineEditMediaSpec

/-- What the facade sends, whose id has no owner. -/
def InlineEdit.document (edit : InlineEdit) (messageId : InlineMessageId) :
    EditInlineMessageDocument where
  messageId := {
    dcId := messageId.dcId
    accessHash := messageId.accessHash
    id := messageId.id
    ownerId := none }
  text := if edit.text.isEmpty then none else some edit.text
  linkPreview := if edit.linkPreview then none else some false
  invertMedia := if edit.invertMedia then some true else none
  parseMode := edit.parseMode
  entities := edit.entities
  markup := edit.markup
  media := edit.media

structure EditInlineMessagePayload where
  messageId : InlineMessageIdPayload
  text : String
  linkPreview : Option Bool
  invertMedia : Bool
  parseMode : Option String
  entities : Option (List EntitySpec)
  markup : Option MarkupSpec
  media : Option InlineEditMediaSpec

/-- serde adds the place in the document where it looked for the field. -/
def missingField (name : String) : String :=
  "invalid request payload: missing field `" ++ name ++ "`"

def EditInlineMessagePayload.parse (document : EditInlineMessageDocument) :
    Except String EditInlineMessagePayload :=
  match document.text with
  | none => .error (missingField "text")
  | some text => .ok {
      messageId := document.messageId
      text
      linkPreview := document.linkPreview
      invertMedia := document.invertMedia.getD false
      parseMode := document.parseMode
      entities := document.entities
      markup := document.markup
      media := document.media }

/-! ### The edit -/

/-- The message parsers of grammers. -/
structure Parsers where
  parseHtmlMessage : String → String × List MessageEntity
  parseMarkdownMessage : String → String × List MessageEntity

inductive InputMedia
  | photoExternal (spoiler : Bool) (url : String) (ttlSeconds : Option Int32)
  | documentExternal (spoiler : Bool) (url : String) (ttlSeconds : Option Int32)

structure EditInlineBotMessage where
  noWebpage : Bool
  invertMedia : Bool
  id : InputBotInlineMessageId
  message : Option String
  media : Option InputMedia
  replyMarkup : Option ReplyMarkup
  entities : Option (List MessageEntity)

inductive MediaKind
  | photo
  | document
  | file
  | video

section Editing

variable (parsers : Parsers) (builders : Builders)

def resolveFormat (text : String) (parseMode : Option String)
    (entities : Option (List EntitySpec)) : Except String (String × List MessageEntity) := do
  let (text, resolved) ← match parseMode.map toAsciiLowercase with
    | none | some "" | some "none" => .ok (text, [])
    | some "html" => .ok (parsers.parseHtmlMessage text)
    | some "markdown" => .ok (parsers.parseMarkdownMessage text)
    | some other => .error ("unsupported parse mode: " ++ other)
  match entities with
  | some specs => return (text, ← messageEntities specs)
  | none => return (text, resolved)

def mediaKind (kind : Option String) : Except String MediaKind :=
  match kind.map toAsciiLowercase with
  | none | some "" | some "document" => .ok .document
  | some "photo" => .ok .photo
  | some "file" => .ok .file
  | some "video" => .ok .video
  | some other => .error ("unsupported media kind: " ++ other)

def rawExternalMedia (kind : MediaKind) (url : String) (spoiler : Bool)
    (ttlSeconds : Option Int32) : InputMedia :=
  match kind with
  | .photo => .photoExternal spoiler url ttlSeconds
  | .document | .file | .video => .documentExternal spoiler url ttlSeconds

def externalUrlMedia (kind : Option String) (url : String) : Except String InputMedia := do
  return rawExternalMedia (← mediaKind kind) url false none

def inlineEditMedia (spec : InlineEditMediaSpec) : Except String InputMedia :=
  externalUrlMedia spec.kind spec.url

def inlineMessageId (id : InlineMessageIdPayload) : InputBotInlineMessageId :=
  match id.ownerId with
  | some ownerId => .id64 {
      dcId := id.dcId
      ownerId
      id := id.id.toInt32
      accessHash := id.accessHash }
  | none => .id {
      dcId := id.dcId
      id := id.id
      accessHash := id.accessHash }

/-- The request that an edit invokes. -/
def editInlineMessage (document : EditInlineMessageDocument) :
    Except String EditInlineBotMessage := do
  let data ← EditInlineMessagePayload.parse document
  let (text, entities) ← resolveFormat parsers data.text data.parseMode data.entities
  let media ← data.media.mapM inlineEditMedia
  let replyMarkup ← data.markup.mapM (replyMarkupFromSpec builders)
  let message := if text.isEmpty && media.isSome then none else some text
  return {
    noWebpage := !data.linkPreview.getD true
    invertMedia := data.invertMedia
    id := inlineMessageId data.messageId
    message
    media
    replyMarkup
    entities := if entities.isEmpty then none else some entities }

/-- An edit of what was reported is refused or names the same message. -/
def AddressesItself (reported : Reported) : Prop :=
  ∀ (edit : InlineEdit) request,
    editInlineMessage parsers builders (edit.document reported.facadeId) = .ok request →
      request.id = reported.layerId

/-- A text without formatting is refused only where it is empty. -/
theorem plain_edit_accepted_iff (messageId : InlineMessageId) (text : String) :
    (∃ request, editInlineMessage parsers builders
        (InlineEdit.document ⟨text, true, false, none, none, none, none⟩ messageId) =
          .ok request) ↔ text.isEmpty = false := by
  rw [editInlineMessage, InlineEdit.document, EditInlineMessagePayload.parse]
  cases text.isEmpty with
  | true =>
      refine iff_of_false ?_ nofun
      rintro ⟨request, accepted⟩
      cases accepted
  | false => exact iff_of_true ⟨_, rfl⟩ rfl

variable {parsers builders}

theorem parse_messageId {document : EditInlineMessageDocument} {data : EditInlineMessagePayload}
    (parsed : EditInlineMessagePayload.parse document = .ok data) :
    data.messageId = document.messageId := by
  unfold EditInlineMessagePayload.parse at parsed
  split at parsed
  · cases parsed
  · cases parsed
    rfl

theorem request_id {document : EditInlineMessageDocument} {request : EditInlineBotMessage}
    (accepted : editInlineMessage parsers builders document = .ok request) :
    request.id = inlineMessageId document.messageId := by
  unfold editInlineMessage at accepted
  obtain ⟨data, parsed, continued⟩ := bind_eq_ok.mp accepted
  obtain ⟨_, -, continued⟩ := bind_eq_ok.mp continued
  obtain ⟨_, -, continued⟩ := bind_eq_ok.mp continued
  obtain ⟨_, -, built⟩ := bind_eq_ok.mp continued
  cases built
  rw [← parse_messageId parsed]

/-- The shared fields of an id without an owner are all of it. -/
theorem inlineMessageId_of_facadeId (reported : Reported) (edit : InlineEdit) :
    inlineMessageId (edit.document reported.facadeId).messageId =
      .id ⟨reported.layerId.dcId, reported.layerId.widenedId, reported.layerId.accessHash⟩ := by
  cases reported with
  | inlineSend messageId => rfl
  | inlineCallbackQuery messageId => rfl
  | guestChatAnswer messageId => rfl

/-- With the owner that a guest-chat answer has, the id would come back. -/
theorem inlineMessageId_of_guestChatAnswerResult (id : InputBotInlineMessageId) :
    inlineMessageId {
      dcId := (guestChatAnswerResult id).dcId
      accessHash := (guestChatAnswerResult id).accessHash
      id := (guestChatAnswerResult id).id
      ownerId := (guestChatAnswerResult id).ownerId } = id := by
  cases id with
  | id short => rfl
  | id64 long =>
      simp [guestChatAnswerResult, inlineMessageId, InputBotInlineMessageId.ownerId,
        InputBotInlineMessageId.dcId, InputBotInlineMessageId.accessHash,
        InputBotInlineMessageId.widenedId]

theorem addressesItself_iff (parsers : Parsers) (builders : Builders) (reported : Reported) :
    AddressesItself parsers builders reported ↔ reported.layerId.ownerId = none := by
  constructor
  · intro itself
    obtain ⟨request, accepted⟩ :=
      (plain_edit_accepted_iff parsers builders reported.facadeId "edited").mpr rfl
    have rebuilt := request_id accepted
    rw [itself _ _ accepted, inlineMessageId_of_facadeId] at rebuilt
    rw [rebuilt]
    rfl
  · intro unowned edit request accepted
    rw [request_id accepted, inlineMessageId_of_facadeId]
    cases layerId : reported.layerId with
    | id id => rfl
    | id64 id =>
        rw [layerId] at unowned
        cases unowned

end Editing

def plainParsers : Parsers where
  parseHtmlMessage text := (text, [])
  parseMarkdownMessage text := (text, [])

/-- An id with an owner comes back without it. -/
theorem owned_id_addresses_another :
    ¬ AddressesItself plainParsers documentedBuilders
      (.inlineSend (.id64 ⟨2, 1000007, 88, 77⟩)) := by
  intro itself
  cases itself ⟨"edited", true, false, none, none, none, none⟩ _ rfl

end Kotlogramme.Messages
