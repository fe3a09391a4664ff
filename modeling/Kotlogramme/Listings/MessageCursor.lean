/-
Listings of messages, whose cursor is a message id.

A page of a chat's history, of its photos or of a search goes on from the oldest
message of the page before.  The photos of a chat are a search of their own, and can be
asked for in one walk.  What a row says of a message besides its id and its date is left
to `μ`, without the native handles of the peers in it: each projection registers its
peers anew, so rows of one message are equal up to these handles only.
-/

import Kotlogramme.Dialogs.Listing
import Kotlogramme.Listings.IndexCursor
import Kotlogramme.Client.Peers
import Kotlogramme.Foundation.Cursors
import Kotlogramme.Foundation.Sources
import Kotlogramme.Protocol.RequestDates

namespace Kotlogramme.Listings

open Kotlogramme.Client Kotlogramme.Dialogs Kotlogramme.Protocol

inductive MessagesFilter
  | empty
  | photos
  | video
  | photoVideo
  | document
  | url
  | gif
  | voice
  | music
  | chatPhotos
  | phoneCalls (missed : Bool)
  | roundVoice
  | roundVideo
  | myMentions
  | geo
  | contacts
  | pinned
  deriving DecidableEq

def messagesFilter (name : String) : Except String MessagesFilter :=
  match name with
  | "empty" => .ok .empty
  | "photos" => .ok .photos
  | "video" => .ok .video
  | "photoVideo" => .ok .photoVideo
  | "document" => .ok .document
  | "url" => .ok .url
  | "gif" => .ok .gif
  | "voice" => .ok .voice
  | "music" => .ok .music
  | "chatPhotos" => .ok .chatPhotos
  | "phoneCalls" => .ok (.phoneCalls false)
  | "roundVoice" => .ok .roundVoice
  | "roundVideo" => .ok .roundVideo
  | "myMentions" => .ok .myMentions
  | "geo" => .ok .geo
  | "contacts" => .ok .contacts
  | "pinned" => .ok .pinned
  | other => .error ("unknown message filter: " ++ other)

/-! ### Requests -/

structure HistoryPayload where
  peer : PeerTarget
  limit : Option Nat
  offsetId : Option Int
  maxDate : Option Int

structure ChatPhotosPayload where
  peer : PeerTarget
  all : Option Bool
  limit : Option Nat
  offsetId : Option Int

inductive ChatPhotosPlan
  | all
  | page (limit : Nat) (offsetId : Option Int)

def chatPhotosPlan (data : ChatPhotosPayload) : ChatPhotosPlan :=
  if data.all.getD false then .all
  else .page (clampLimit (data.limit.getD 50)) data.offsetId

structure SearchMessagesPayload where
  peer : PeerTarget
  query : String
  limit : Option Nat
  offsetId : Option Int
  sentBySelf : Option Bool
  minDate : Option Int
  maxDate : Option Int
  filter : Option String

/-! ### grammers' iterators -/

/-- What a search looks for; `τ` has the time library's instants. -/
structure SearchCriteria (τ : Type) where
  query : String := ""
  sentBySelf : Bool := false
  filter : Option MessagesFilter := none
  minDate : Option τ := none
  maxDate : Option τ := none

structure Messages (ρ τ μ : Type) where
  iterMessages : ρ → (offsetDate : Option Int) → (limit : Option Nat) → (offsetId : Option Int) →
    Source String (Message μ)
  searchMessages : ρ → SearchCriteria τ → (limit : Option Nat) → (offsetId : Option Int) →
    Source String (Message μ)

section Handlers

variable {π ρ τ μ : Type} (grammers : Grammers π ρ) (registry : PeerRegistry π)

def getHistory (messages : Messages ρ τ μ) (data : HistoryPayload) :
    Except String (List (MessageDto μ)) := do
  let peer ← resolvePeer grammers registry data.peer
  let limit := clampLimit (data.limit.getD 50)
  let maxDate ← data.maxDate.mapM epochSeconds
  let found ← (messages.iterMessages peer maxDate (some limit) data.offsetId).drain
  return found.map messageDto

def getChatPhotos (messages : Messages ρ τ μ) (data : ChatPhotosPayload) :
    Except String (List (MessageDto μ)) := do
  let peer ← resolvePeer grammers registry data.peer
  let criteria : SearchCriteria τ := { filter := some .chatPhotos }
  let found ← (match chatPhotosPlan data with
    | .page limit offsetId => messages.searchMessages peer criteria (some limit) offsetId
    | .all => messages.searchMessages peer criteria none none).drain
  return found.map messageDto

def searchMessages (timestamps : Timestamps τ) (messages : Messages ρ τ μ)
    (data : SearchMessagesPayload) : Except String (List (MessageDto μ)) := do
  let limit := clampLimit (data.limit.getD 50)
  let filter ← data.filter.mapM messagesFilter
  let peer ← resolvePeer grammers registry data.peer
  let minDate ← data.minDate.mapM timestamps.fromMillisecond
  let maxDate ← data.maxDate.mapM timestamps.fromMillisecond
  let criteria : SearchCriteria τ :=
    { query := data.query, sentBySelf := data.sentBySelf.getD false, filter, minDate, maxDate }
  let found ← (messages.searchMessages peer criteria (some limit) data.offsetId).drain
  return found.map messageDto

/-! ### What grammers documents of its iterators -/

def limited {α : Type} : Option Nat → List α → List α
  | none, items => items
  | some limit, items => items.take limit

/-- The messages at one time: `history` is a chat's, as far as they are not newer than
a date, and `found` is what a search finds. -/
structure Chats (ρ τ μ : Type) where
  history : ρ → Option Int → Listing (Message μ) Message.id
  found : ρ → SearchCriteria τ → Listing (Message μ) Message.id

/-- An iterator that comes to its end has yielded the messages that are older than the
offset, newest first and not more than the limit. -/
structure Documented (messages : Messages ρ τ μ) (chats : Chats ρ τ μ) : Prop where
  history : ∀ peer date limit offsetId,
    (messages.iterMessages peer date limit offsetId).ending = .ok () →
      (messages.iterMessages peer date limit offsetId).items =
        limited limit ((chats.history peer date).older offsetId)
  found : ∀ peer criteria limit offsetId,
    (messages.searchMessages peer criteria limit offsetId).ending = .ok () →
      (messages.searchMessages peer criteria limit offsetId).items =
        limited limit ((chats.found peer criteria).older offsetId)

theorem messageDto_id (message : Message μ) : (messageDto message).id = message.id := rfl

/-- The rows of a listing. -/
def rows (listing : Listing (Message μ) Message.id) : Listing (MessageDto μ) MessageDto.id :=
  listing.map messageDto messageDto_id

theorem rows_page (listing : Listing (Message μ) Message.id) (limit : Nat) (cursor : Option Int) :
    (rows listing).page limit cursor = (listing.page limit cursor).map messageDto :=
  Listing.page_map messageDto messageDto_id listing limit cursor

/-- A page of rows is what an iterator has yielded. -/
theorem page_of_drained {iterator : Source String (Message μ)} {items : List (Message μ)}
    {page : List (MessageDto μ)} (yields : iterator.ending = .ok () → iterator.items = items)
    (answered : (do return (← iterator.drain).map messageDto :
      Except String (List (MessageDto μ))) = .ok page) :
    page = items.map messageDto := by
  rw [Source.drain_eq] at answered
  cases ending : iterator.ending with
  | error failure =>
      rw [ending] at answered
      cases answered
  | ok done =>
      rw [ending] at answered
      rw [← yields ending]
      exact (Except.ok.inj answered).symm

section Pages

variable {grammers registry} {messages : Messages ρ τ μ} {chats : Chats ρ τ μ}
  (documented : Documented messages chats) {peer : ρ} {page : List (MessageDto μ)}
include documented

theorem getHistory_page (data : HistoryPayload) {date : Option Int}
    (resolved : resolvePeer grammers registry data.peer = .ok peer)
    (converted : data.maxDate.mapM epochSeconds = .ok date)
    (answered : getHistory grammers registry messages data = .ok page) :
    page = (rows (chats.history peer date)).page (clampLimit (data.limit.getD 50))
      data.offsetId := by
  rw [getHistory, resolved, converted] at answered
  rw [rows_page]
  exact page_of_drained (documented.history peer date _ _) answered

theorem getChatPhotos_page (data : ChatPhotosPayload)
    (resolved : resolvePeer grammers registry data.peer = .ok peer)
    (onePage : data.all.getD false = false)
    (answered : getChatPhotos grammers registry messages data = .ok page) :
    page = (rows (chats.found peer { filter := some .chatPhotos })).page
      (clampLimit (data.limit.getD 50)) data.offsetId := by
  rw [getChatPhotos, resolved, chatPhotosPlan, onePage] at answered
  rw [rows_page]
  exact page_of_drained (documented.found peer { filter := some .chatPhotos } _ _) answered

theorem getChatPhotos_all (data : ChatPhotosPayload)
    (resolved : resolvePeer grammers registry data.peer = .ok peer)
    (all : data.all = some true)
    (answered : getChatPhotos grammers registry messages data = .ok page) :
    page = (rows (chats.found peer { filter := some .chatPhotos })).items := by
  rw [getChatPhotos, resolved, chatPhotosPlan, all] at answered
  exact page_of_drained (documented.found peer { filter := some .chatPhotos } none none) answered

theorem searchMessages_page {timestamps : Timestamps τ} (data : SearchMessagesPayload)
    {filter : Option MessagesFilter} {minDate maxDate : Option τ}
    (resolved : resolvePeer grammers registry data.peer = .ok peer)
    (named : data.filter.mapM messagesFilter = .ok filter)
    (least : data.minDate.mapM timestamps.fromMillisecond = .ok minDate)
    (most : data.maxDate.mapM timestamps.fromMillisecond = .ok maxDate)
    (answered : searchMessages grammers registry timestamps messages data = .ok page) :
    page = (rows (chats.found peer
      ⟨data.query, data.sentBySelf.getD false, filter, minDate, maxDate⟩)).page
        (clampLimit (data.limit.getD 50)) data.offsetId := by
  rw [searchMessages, named, resolved, least, most] at answered
  rw [rows_page]
  exact page_of_drained (documented.found peer _ _ _) answered

end Pages

/-! ### Page after page, while messages come and go -/

section Walks

variable (timestamps : Timestamps τ) (messages : Nat → Messages ρ τ μ)

/-- The facade goes on from the last id of a page. -/
def historyAt (data : HistoryPayload) (request : Nat) (cursor : Option Int) :
    Except String (List (MessageDto μ)) :=
  getHistory grammers registry (messages request) { data with offsetId := cursor }

def chatPhotosAt (data : ChatPhotosPayload) (request : Nat) (cursor : Option Int) :
    Except String (List (MessageDto μ)) :=
  getChatPhotos grammers registry (messages request) { data with all := none, offsetId := cursor }

def searchAt (data : SearchMessagesPayload) (request : Nat) (cursor : Option Int) :
    Except String (List (MessageDto μ)) :=
  searchMessages grammers registry timestamps (messages request) { data with offsetId := cursor }

/-- The listings that are gone through in pages; each has a peer and what converting
the rest of its request comes to. -/
inductive Paged (registry : PeerRegistry π) (timestamps : Timestamps τ)
    (chats : Nat → Chats ρ τ μ) :
    (Nat → Option Int → Except String (List (MessageDto μ))) →
      (Nat → Listing (MessageDto μ) MessageDto.id) → Nat → Prop
  | history (data : HistoryPayload) {peer : ρ} {date : Option Int}
      (resolved : resolvePeer grammers registry data.peer = .ok peer)
      (converted : data.maxDate.mapM epochSeconds = .ok date) :
      Paged registry timestamps chats (historyAt grammers registry messages data)
        (fun request => rows ((chats request).history peer date))
        (clampLimit (data.limit.getD 50))
  | chatPhotos (data : ChatPhotosPayload) {peer : ρ}
      (resolved : resolvePeer grammers registry data.peer = .ok peer) :
      Paged registry timestamps chats (chatPhotosAt grammers registry messages data)
        (fun request => rows ((chats request).found peer { filter := some .chatPhotos }))
        (clampLimit (data.limit.getD 50))
  | search (data : SearchMessagesPayload) {peer : ρ} {filter : Option MessagesFilter}
      {minDate maxDate : Option τ}
      (resolved : resolvePeer grammers registry data.peer = .ok peer)
      (named : data.filter.mapM messagesFilter = .ok filter)
      (least : data.minDate.mapM timestamps.fromMillisecond = .ok minDate)
      (most : data.maxDate.mapM timestamps.fromMillisecond = .ok maxDate) :
      Paged registry timestamps chats (searchAt grammers registry timestamps messages data)
        (fun request => rows ((chats request).found peer
          ⟨data.query, data.sentBySelf.getD false, filter, minDate, maxDate⟩))
        (clampLimit (data.limit.getD 50))

variable {grammers registry timestamps messages} {chats : Nat → Chats ρ τ μ}
  {serve : Nat → Option Int → Except String (List (MessageDto μ))}
  {listings : Nat → Listing (MessageDto μ) MessageDto.id} {limit : Nat}

theorem Paged.serves (paged : Paged grammers messages registry timestamps chats serve listings limit)
    (documented : ∀ request, Documented (messages request) (chats request)) :
    Listing.Serves listings limit serve := by
  intro request cursor page answered
  cases paged with
  | history data resolved converted =>
      exact getHistory_page (documented request) { data with offsetId := cursor } resolved
        converted answered
  | chatPhotos data resolved =>
      exact getChatPhotos_page (documented request) { data with all := none, offsetId := cursor }
        resolved rfl answered
  | search data resolved named least most =>
      exact searchMessages_page (documented request) { data with offsetId := cursor } resolved named
        least most answered

theorem Paged.limit_pos
    (paged : Paged grammers messages registry timestamps chats serve listings limit) :
    0 < limit := by
  cases paged with
  | history | chatPhotos | search => exact Nat.le_max_left _ _

/-- Going through a history, the photos of a chat or a search page by page, while messages
come, go and change: no message is returned twice, each is one that was there when its page
was asked for, and every message that was there at all requests of the walk is returned. -/
theorem message_pages_cover
    (documented : ∀ request, Documented (messages request) (chats request))
    (paged : Paged grammers messages registry timestamps chats serve listings limit)
    {result : List (MessageDto μ)}
    (ended : (Listing.walk MessageDto.id serve).Ends Listing.Walk.initial result) :
    Listing.Covers listings serve result :=
  Listing.walk_ends_with (paged.serves documented) paged.limit_pos ended

/-- Message ids are positive, and from some time on no request fails. -/
structure Settles (serve : Nat → Option Int → Except String (List (MessageDto μ)))
    (listings : Nat → Listing (MessageDto μ) MessageDto.id) : Prop where
  positive : ∀ request, ∀ row ∈ (listings request).items, 0 < row.id
  recovers : ∃ quiet, ∀ request ≥ quiet, ∀ cursor, ∃ page, serve request cursor = .ok page

theorem walk_of_settled (serves : Listing.Serves listings limit serve)
    (settles : Settles serve listings) :
    ∃ result, (Listing.walk MessageDto.id serve).Ends Listing.Walk.initial result := by
  obtain ⟨quiet, recovers⟩ := settles.recovers
  exact Listing.walk_ends serves settles.positive recovers

theorem walk_of_unchanged {listing : Listing (MessageDto μ) MessageDto.id} (positive : 0 < limit)
    (serves : Listing.Serves (fun _ => listing) limit serve)
    (settles : Settles serve fun _ => listing) :
    (Listing.walk MessageDto.id serve).Ends Listing.Walk.initial listing.items := by
  obtain ⟨result, ended⟩ := walk_of_settled serves settles
  have covers := Listing.walk_ends_with serves positive ended
  rw [← covers.eq_items]
  exact ended

/-- Requests that fail and are made again do not keep a walk from ending, and where the
messages stay the same it ends with all of them. -/
theorem message_pages_end
    (documented : ∀ request, Documented (messages request) (chats request))
    (paged : Paged grammers messages registry timestamps chats serve listings limit)
    (settles : Settles serve listings) :
    (∃ result, (Listing.walk MessageDto.id serve).Ends Listing.Walk.initial result) ∧
    ∀ listing, listings = (fun _ => listing) →
      (Listing.walk MessageDto.id serve).Ends Listing.Walk.initial listing.items := by
  have serves := paged.serves documented
  refine ⟨walk_of_settled serves settles, fun listing stays => ?_⟩
  subst stays
  exact walk_of_unchanged paged.limit_pos serves settles

/-- The photos of a chat that stay the same are, page by page, what asking for all of
them answers, up to the native handles of the peers in the rows. -/
theorem chat_photo_pages_are_all
    (documented : ∀ request, Documented (messages request) (chats request))
    {data : ChatPhotosPayload} {peer : ρ}
    (resolved : resolvePeer grammers registry data.peer = .ok peer)
    {photos : Listing (Message μ) Message.id}
    (stay : ∀ request, (chats request).found peer { filter := some .chatPhotos } = photos)
    (settles : Settles (chatPhotosAt grammers registry messages data) fun _ => rows photos)
    {request : Nat} {whole : List (MessageDto μ)}
    (answered : getChatPhotos grammers registry (messages request)
      { data with all := some true } = .ok whole) :
    (Listing.walk MessageDto.id (chatPhotosAt grammers registry messages data)).Ends
      Listing.Walk.initial whole := by
  have all := getChatPhotos_all (documented request) { data with all := some true } resolved rfl
    answered
  have serves : Listing.Serves (fun _ => rows photos) (clampLimit (data.limit.getD 50))
      (chatPhotosAt grammers registry messages data) := by
    intro request cursor page served
    have found := getChatPhotos_page (documented request)
      { data with all := none, offsetId := cursor } resolved rfl served
    rw [stay request] at found
    exact found
  rw [all, stay request]
  exact walk_of_unchanged (Nat.le_max_left _ _) serves settles

end Walks

end Handlers

section Documented

variable {ρ τ μ : Type}

/-- Iterators that never fail. -/
def documentedMessages (chats : Chats ρ τ μ) : Messages ρ τ μ where
  iterMessages peer date limit offsetId :=
    ⟨limited limit ((chats.history peer date).older offsetId), .ok ()⟩
  searchMessages peer criteria limit offsetId :=
    ⟨limited limit ((chats.found peer criteria).older offsetId), .ok ()⟩

theorem documentedMessages_documented (chats : Chats ρ τ μ) :
    Documented (documentedMessages chats) chats where
  history _ _ _ _ _ := rfl
  found _ _ _ _ _ := rfl

end Documented

theorem threeMessages_falling : Falling Message.id
    [(⟨30, 3000, "c"⟩ : Message String), ⟨20, 2000, "b"⟩, ⟨10, 1000, "a"⟩] := by
  simp [Falling]

theorem laterMessages_falling : Falling Message.id
    [(⟨40, 4000, "d"⟩ : Message String), ⟨20, 2000, "b"⟩, ⟨10, 1000, "a"⟩] := by
  simp [Falling]

/-- The message 30 is deleted and the message 40 sent after the first page. -/
def busyHistory : Nat → Chats InputPeer Int String
  | 0 => {
      history := fun _ _ => ⟨_, threeMessages_falling⟩
      found := fun _ _ => ⟨[], List.Pairwise.nil⟩ }
  | _ + 1 => {
      history := fun _ _ => ⟨_, laterMessages_falling⟩
      found := fun _ _ => ⟨[], List.Pairwise.nil⟩ }

def adasHistory : HistoryPayload := ⟨⟨none, some "ada"⟩, some 2, none, none⟩

theorem adasHistory_paged (chats : Nat → Chats InputPeer Int String) :
    Paged onlyAda (fun request => documentedMessages (chats request)) noPeers
      documentedTimestamps chats
      (historyAt onlyAda noPeers (fun request => documentedMessages (chats request)) adasHistory)
      (fun request => rows ((chats request).history (.user 7 0) none)) 2 :=
  Paged.history adasHistory rfl rfl

theorem message_pages_cover_busy :
    ∃ result, (Listing.walk MessageDto.id (historyAt onlyAda noPeers
        (fun request => documentedMessages (busyHistory request)) adasHistory)).Ends
          Listing.Walk.initial result ∧
      result.map MessageDto.id = [30, 20, 10] ∧
      Listing.Covers (fun request => rows ((busyHistory request).history (.user 7 0) none))
        (historyAt onlyAda noPeers (fun request => documentedMessages (busyHistory request))
          adasHistory) result := by
  have ended : (Listing.walk MessageDto.id (historyAt onlyAda noPeers
      (fun request => documentedMessages (busyHistory request)) adasHistory)).Ends
        Listing.Walk.initial [⟨30, 3000, "c"⟩, ⟨20, 2000, "b"⟩, ⟨10, 1000, "a"⟩] :=
    ⟨3, rfl⟩
  exact ⟨_, ended, rfl, message_pages_cover
    (fun request => documentedMessages_documented (busyHistory request))
    (adasHistory_paged busyHistory) ended⟩

def photosOf : Listing (Message String) Message.id := ⟨_, threeMessages_falling⟩

def quietChats : Chats InputPeer Int String where
  history _ _ := photosOf
  found _ _ := photosOf

theorem adasHistory_settles (chats : Nat → Chats InputPeer Int String)
    (positive : ∀ request, ∀ row ∈ (rows ((chats request).history (.user 7 0) none)).items,
      0 < row.id) :
    Settles (historyAt onlyAda noPeers (fun request => documentedMessages (chats request))
      adasHistory) (fun request => rows ((chats request).history (.user 7 0) none)) := by
  refine ⟨positive, 0, fun request _ cursor => ?_⟩
  simp only [historyAt, getHistory, Source.drain_eq]
  exact ⟨_, rfl⟩

/-- The walk ends in a busy history, and with all messages in a quiet one. -/
theorem message_pages_end_busy :
    (∃ result, (Listing.walk MessageDto.id (historyAt onlyAda noPeers
      (fun request => documentedMessages (busyHistory request)) adasHistory)).Ends
        Listing.Walk.initial result) ∧
    (Listing.walk MessageDto.id (historyAt onlyAda noPeers
      (fun _ => documentedMessages quietChats) adasHistory)).Ends
        Listing.Walk.initial [⟨30, 3000, "c"⟩, ⟨20, 2000, "b"⟩, ⟨10, 1000, "a"⟩] := by
  constructor
  · refine (message_pages_end
      (fun request => documentedMessages_documented (busyHistory request))
      (adasHistory_paged busyHistory) (adasHistory_settles busyHistory ?_)).1
    intro request row member
    cases request with
    | zero | succ _ =>
        simp [rows, Listing.map, busyHistory, messageDto] at member
        rcases member with rfl | rfl | rfl <;> decide
  · refine (message_pages_end (fun _ => documentedMessages_documented quietChats)
      (adasHistory_paged fun _ => quietChats)
      (adasHistory_settles (fun _ => quietChats) ?_)).2 (rows photosOf) rfl
    intro request row member
    simp [rows, Listing.map, quietChats, photosOf, messageDto] at member
    rcases member with rfl | rfl | rfl <;> decide

theorem chat_photo_pages_are_all_quiet :
    (Listing.walk MessageDto.id (chatPhotosAt onlyAda noPeers
      (fun _ => documentedMessages quietChats) ⟨⟨none, some "ada"⟩, none, some 2, none⟩)).Ends
        Listing.Walk.initial [⟨30, 3000, "c"⟩, ⟨20, 2000, "b"⟩, ⟨10, 1000, "a"⟩] := by
  have settles : Settles (chatPhotosAt onlyAda noPeers
      (fun _ => documentedMessages quietChats) ⟨⟨none, some "ada"⟩, none, some 2, none⟩)
        (fun _ => rows photosOf) := by
    refine ⟨fun request row member => ?_, 0, fun request _ cursor => ?_⟩
    · simp [rows, Listing.map, photosOf, messageDto] at member
      rcases member with rfl | rfl | rfl <;> decide
    · simp only [chatPhotosAt, getChatPhotos, Source.drain_eq]
      exact ⟨_, rfl⟩
  exact @chat_photo_pages_are_all _ _ _ _ onlyAda noPeers
    (fun _ => documentedMessages quietChats) (fun _ => quietChats)
    (fun _ => documentedMessages_documented quietChats)
    ⟨⟨none, some "ada"⟩, none, some 2, none⟩ (.user 7 0) rfl photosOf (fun _ => rfl) settles 0 _
    rfl

end Kotlogramme.Listings
