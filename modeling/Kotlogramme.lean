import Kotlogramme.Foundation.Decoder
import Kotlogramme.Raw.TlCodec
import Kotlogramme.Raw.DynamicCodec
import Kotlogramme.Raw.WellTyped
import Kotlogramme.Raw.RoundTrip
import Kotlogramme.Raw.Acceptance
import Kotlogramme.Raw.Wrapper
import Kotlogramme.Foundation.Transition
import Kotlogramme.Updates.Handoff
import Kotlogramme.Updates.Operations
import Kotlogramme.Files.StreamUpload
import Kotlogramme.Files.UploadStream
import Kotlogramme.Client.Handles
import Kotlogramme.Auth.Login
import Kotlogramme.Auth.Overlap
import Kotlogramme.Updates.UpdateLoop
import Kotlogramme.Updates.LostStart
import Kotlogramme.Updates.Waiting
import Kotlogramme.Chats.Incremental
import Kotlogramme.Messages.Entities
import Kotlogramme.Folders.DialogFilter
import Kotlogramme.Messages.InlineMessageIds
import Kotlogramme.Messages.Markup
import Kotlogramme.Protocol.Requests
import Kotlogramme.Contacts.Blocked
import Kotlogramme.Dialogs.Paging
import Kotlogramme.Files.ChannelReads
import Kotlogramme.Files.ProgressReadout
import Kotlogramme.Files.UploadRegistry
import Kotlogramme.Chats.BotApiIds
import Kotlogramme.Protocol.RequestDates
import Kotlogramme.Updates.SyncState
import Kotlogramme.Raw.Framing
import Kotlogramme.Messages.GeneratedIds
import Kotlogramme.Foundation.Rfc4648
import Kotlogramme.Foundation.Splitting
import Kotlogramme.Files.Base64
import Kotlogramme.Protocol.JavaStrings
import Kotlogramme.Chats.InviteLinks
import Kotlogramme.Chats.InviteSlugs
import Kotlogramme.Files.UploadDelivery
import Kotlogramme.Raw.Unambiguous
import Kotlogramme.Foundation.Sources
import Kotlogramme.Listings.IndexCursor
import Kotlogramme.Foundation.Cursors
import Kotlogramme.Listings.MessageCursor
import Kotlogramme.Files.ChunkedDownload
import Kotlogramme.Foundation.Words
import Kotlogramme.Raw.Manifest
import Kotlogramme.Raw.SchemaSource
import Kotlogramme.Foundation.Histories
import Kotlogramme.Client.PeerHandles
import Kotlogramme.Messages.InlineSends
import Kotlogramme.Protocol.Answers
