/-
Objects of the Telegram layer that several projections carry.
-/

namespace Kotlogramme.Protocol

inductive InputPeer
  | empty
  | self
  | chat (chatId : Int)
  | user (userId accessHash : Int)
  | channel (channelId accessHash : Int)
  | userFromMessage (peer : InputPeer) (messageId userId : Int)
  | channelFromMessage (peer : InputPeer) (messageId channelId : Int)
  deriving DecidableEq

inductive InputUser
  | empty
  | self
  | user (userId accessHash : Int)
  | fromMessage (peer : InputPeer) (messageId userId : Int)
  deriving DecidableEq

/-- The layer's message entities; each names the span it formats. -/
inductive MessageEntity
  | unknown (offset length : Int)
  | mention (offset length : Int)
  | hashtag (offset length : Int)
  | botCommand (offset length : Int)
  | url (offset length : Int)
  | email (offset length : Int)
  | bold (offset length : Int)
  | italic (offset length : Int)
  | code (offset length : Int)
  | pre (offset length : Int) (language : String)
  | textUrl (offset length : Int) (url : String)
  | mentionName (offset length : Int) (userId : Int)
  | inputMessageEntityMentionName (offset length : Int) (userId : InputUser)
  | phone (offset length : Int)
  | cashtag (offset length : Int)
  | underline (offset length : Int)
  | strike (offset length : Int)
  | bankCard (offset length : Int)
  | spoiler (offset length : Int)
  | customEmoji (offset length : Int) (documentId : Int)
  | blockquote (collapsed : Bool) (offset length : Int)
  | formattedDate (relative shortTime longTime shortDate longDate dayOfWeek : Bool)
      (offset length : Int) (date : Int)
  | diffInsert (offset length : Int)
  | diffReplace (offset length : Int) (oldText : String)
  | diffDelete (offset length : Int)
  | tonAddress (offset length : Int)
  deriving DecidableEq

end Kotlogramme.Protocol
