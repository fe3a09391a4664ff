/-
Reading the formatting of a message and sending it again.

An entity of the layer is projected to its name, its span and the one extra field
that some kinds have.  The projection crosses to the facade and back as it is, and a
case-insensitive parser of the name builds an entity of the layer from it.  The
parser knows nineteen of the names and refuses the others; it builds each quote
expanded, so a collapsed one comes back changed.
-/

import Kotlogramme.Foundation.Traverse
import Kotlogramme.Protocol.Layer

namespace Kotlogramme.Messages

open Kotlogramme.Protocol

/-! ### The projection -/

structure MessageEntityDto where
  entityType : String
  offset : Int
  length : Int
  url : Option String
  userId : Option Int
  language : Option String
  customEmojiId : Option Int

def MessageEntityDto.plain (entityType : String) (offset length : Int) : MessageEntityDto where
  entityType := entityType
  offset := offset
  length := length
  url := none
  userId := none
  language := none
  customEmojiId := none

def messageEntityDto : MessageEntity → MessageEntityDto
  | .unknown offset length => .plain "unknown" offset length
  | .mention offset length => .plain "mention" offset length
  | .hashtag offset length => .plain "hashtag" offset length
  | .botCommand offset length => .plain "botCommand" offset length
  | .url offset length => .plain "url" offset length
  | .email offset length => .plain "email" offset length
  | .bold offset length => .plain "bold" offset length
  | .italic offset length => .plain "italic" offset length
  | .code offset length => .plain "code" offset length
  | .pre offset length language =>
      { MessageEntityDto.plain "pre" offset length with language := some language }
  | .textUrl offset length url =>
      { MessageEntityDto.plain "textUrl" offset length with url := some url }
  | .mentionName offset length userId =>
      { MessageEntityDto.plain "mentionName" offset length with userId := some userId }
  | .inputMessageEntityMentionName offset length _ =>
      .plain "inputMessageEntityMentionName" offset length
  | .phone offset length => .plain "phone" offset length
  | .cashtag offset length => .plain "cashtag" offset length
  | .underline offset length => .plain "underline" offset length
  | .strike offset length => .plain "strike" offset length
  | .bankCard offset length => .plain "bankCard" offset length
  | .spoiler offset length => .plain "spoiler" offset length
  | .customEmoji offset length documentId =>
      { MessageEntityDto.plain "customEmoji" offset length with customEmojiId := some documentId }
  | .blockquote _ offset length => .plain "blockquote" offset length
  | .formattedDate _ _ _ _ _ _ offset length _ => .plain "formattedDate" offset length
  | .diffInsert offset length => .plain "diffInsert" offset length
  | .diffReplace offset length _ => .plain "diffReplace" offset length
  | .diffDelete offset length => .plain "diffDelete" offset length
  | .tonAddress offset length => .plain "tonAddress" offset length

/-! ### The facade -/

/-- The facade's `MessageEntity`. -/
structure FacadeEntity where
  type : String
  offset : Int
  length : Int
  url : Option String
  userId : Option Int
  language : Option String
  customEmojiId : Option Int

def MessageEntityDto.toCompatibility (entity : MessageEntityDto) : FacadeEntity where
  type := entity.entityType
  offset := entity.offset
  length := entity.length
  url := entity.url
  userId := entity.userId
  language := entity.language
  customEmojiId := entity.customEmojiId

structure EntitySpec where
  offset : Int
  length : Int
  entityType : String
  url : Option String
  userId : Option Int
  language : Option String
  customEmojiId : Option Int

def FacadeEntity.asSpec (entity : FacadeEntity) : EntitySpec where
  offset := entity.offset
  length := entity.length
  entityType := entity.type
  url := entity.url
  userId := entity.userId
  language := entity.language
  customEmojiId := entity.customEmojiId

/-! ### The request -/

def toAsciiLowercase (text : String) : String := String.ofList (text.toList.map Char.toLower)

/-- The field an entity of this type requires. -/
def EntitySpec.required {α : Type} (spec : EntitySpec) (name : String) :
    Option α → Except String α
  | some value => .ok value
  | none => .error ("a " ++ spec.entityType ++ " entity requires " ++ name)

def EntitySpec.toMessageEntity (spec : EntitySpec) : Except String MessageEntity :=
  let offset := spec.offset
  let length := spec.length
  match toAsciiLowercase spec.entityType with
  | "mention" => .ok (.mention offset length)
  | "hashtag" => .ok (.hashtag offset length)
  | "botcommand" => .ok (.botCommand offset length)
  | "url" => .ok (.url offset length)
  | "email" => .ok (.email offset length)
  | "bold" => .ok (.bold offset length)
  | "italic" => .ok (.italic offset length)
  | "code" => .ok (.code offset length)
  | "phone" => .ok (.phone offset length)
  | "cashtag" => .ok (.cashtag offset length)
  | "underline" => .ok (.underline offset length)
  | "strike" => .ok (.strike offset length)
  | "bankcard" => .ok (.bankCard offset length)
  | "spoiler" => .ok (.spoiler offset length)
  | "blockquote" => .ok (.blockquote false offset length)
  | "pre" => .ok (.pre offset length (spec.language.getD ""))
  | "texturl" => .textUrl offset length <$> spec.required "url" spec.url
  | "mentionname" => .mentionName offset length <$> spec.required "userId" spec.userId
  | "customemoji" =>
      .customEmoji offset length <$> spec.required "customEmojiId" spec.customEmojiId
  | other => .error ("unknown entity type: " ++ other)

def messageEntities (specs : List EntitySpec) : Except String (List MessageEntity) :=
  specs.mapM EntitySpec.toMessageEntity

/-! ### Sending again -/

def specOf (entity : MessageEntity) : EntitySpec :=
  (messageEntityDto entity).toCompatibility.asSpec

/-- The entities of a received message, sent again. -/
def sendAgain (entities : List MessageEntity) : Except String (List MessageEntity) :=
  messageEntities (entities.map specOf)

/-- The kinds whose name the parser knows. -/
def Known : MessageEntity → Bool
  | .unknown .. => false
  | .inputMessageEntityMentionName .. => false
  | .formattedDate .. => false
  | .diffInsert .. => false
  | .diffReplace .. => false
  | .diffDelete .. => false
  | .tonAddress .. => false
  | _ => true

def Collapsed : MessageEntity → Bool
  | .blockquote collapsed _ _ => collapsed
  | _ => false

def expanded : MessageEntity → MessageEntity
  | .blockquote _ offset length => .blockquote false offset length
  | entity => entity

/-- What the parser makes of a projection. -/
theorem toMessageEntity_specOf (entity : MessageEntity) :
    (specOf entity).toMessageEntity =
      if Known entity then .ok (expanded entity)
      else .error ("unknown entity type: " ++
        toAsciiLowercase (messageEntityDto entity).entityType) := by
  cases entity <;>
    simp [specOf, messageEntityDto, MessageEntityDto.plain, MessageEntityDto.toCompatibility,
      FacadeEntity.asSpec, EntitySpec.toMessageEntity, EntitySpec.required, toAsciiLowercase,
      Known, expanded]

theorem expanded_eq_iff (entity : MessageEntity) :
    expanded entity = entity ↔ Collapsed entity = false := by
  cases entity <;> simp [expanded, Collapsed, eq_comm]

theorem sendAgain_of_known {entities : List MessageEntity}
    (known : ∀ entity ∈ entities, Known entity = true) :
    sendAgain entities = .ok (entities.map expanded) := by
  rw [sendAgain, messageEntities, List.mapM_map]
  refine mapM_eq_ok_map fun entity member => ?_
  rw [Function.comp_apply, toMessageEntity_specOf, if_pos (known entity member)]

theorem sendAgain_of_unknown {entities : List MessageEntity} {entity : MessageEntity}
    (member : entity ∈ entities) (unknown : Known entity = false) :
    ∃ failure, sendAgain entities = .error failure := by
  have fails := toMessageEntity_specOf entity
  rw [unknown, if_neg Bool.false_ne_true] at fails
  exact mapM_fails (List.mem_map_of_mem member) fails

theorem map_expanded_eq_iff (entities : List MessageEntity) :
    entities.map expanded = entities ↔ ∀ entity ∈ entities, Collapsed entity = false := by
  calc
    entities.map expanded = entities
      ↔ entities.map expanded = entities.map id := by rw [List.map_id]
    _ ↔ ∀ entity ∈ entities, expanded entity = entity := List.map_inj_left
    _ ↔ ∀ entity ∈ entities, Collapsed entity = false :=
      forall₂_congr fun entity _ => expanded_eq_iff entity

/-- Sending again yields the original entities or is refused, just when a kind is
unknown to the parser or no quote is collapsed. -/
theorem sendAgain_exact_or_refused_iff (entities : List MessageEntity) :
    (sendAgain entities = .ok entities ∨ ∃ failure, sendAgain entities = .error failure) ↔
      (∃ entity ∈ entities, Known entity = false) ∨
        ∀ entity ∈ entities, Collapsed entity = false := by
  by_cases known : ∀ entity ∈ entities, Known entity = true
  · have none_unknown : ¬ ∃ entity ∈ entities, Known entity = false := by
      rintro ⟨entity, member, unknown⟩
      rw [known entity member] at unknown
      cases unknown
    rw [or_iff_right none_unknown, ← map_expanded_eq_iff, sendAgain_of_known known]
    constructor
    · rintro (same | ⟨failure, failed⟩)
      · exact Except.ok.inj same
      · cases failed
    · intro same
      exact .inl (congrArg Except.ok same)
  · have some_unknown : ∃ entity ∈ entities, Known entity = false := by
      simpa using known
    obtain ⟨entity, member, unknown⟩ := some_unknown
    exact iff_of_true (.inr (sendAgain_of_unknown member unknown)) (.inl ⟨entity, member, unknown⟩)

/-- A collapsed quote comes back expanded. -/
theorem sendAgain_collapsed_quote :
    sendAgain [.bold 0 4, .blockquote true 5 20] = .ok [.bold 0 4, .blockquote false 5 20] ∧
      ¬ (sendAgain [.bold 0 4, .blockquote true 5 20] =
          .ok [.bold 0 4, .blockquote true 5 20] ∨
        ∃ failure, sendAgain [.bold 0 4, .blockquote true 5 20] = .error failure) := by
  have sent : sendAgain [.bold 0 4, .blockquote true 5 20] =
      .ok [.bold 0 4, .blockquote false 5 20] := rfl
  refine ⟨sent, ?_⟩
  rw [sent]
  rintro (same | ⟨failure, failed⟩)
  · simp at same
  · cases failed

end Kotlogramme.Messages
