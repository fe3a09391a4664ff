/-
Listings that a page is asked of by an index.

grammers' iterators of profile photos and of participants have no offset of their own,
so a page is reached by passing over the items before it.  The profile photos can be
asked for in one walk as well; a participant's row is left to `δ`.
-/

import Kotlogramme.Client.Peers
import Kotlogramme.Foundation.Sources

namespace Kotlogramme.Listings

open Kotlogramme.Client Kotlogramme.Protocol

/-! ### Profile photos -/

/-- Only the first three have a resolution; `bytes` is what grammers reports as the
size of a thumbnail. -/
inductive PhotoSize
  | size (width height : Int) (bytes : Nat)
  | cached (width height : Int) (bytes : Nat)
  | progressive (width height : Int) (bytes : Nat)
  | other (bytes : Nat)

def PhotoSize.bytes : PhotoSize → Nat
  | .size _ _ bytes | .cached _ _ bytes | .progressive _ _ bytes | .other bytes => bytes

inductive RawPhoto
  | photo (dcId : Int)
  | empty

structure Photo where
  id : Int
  raw : Option RawPhoto
  thumbs : List PhotoSize
  size : Option Nat
  isSpoiler : Bool
  ttlSeconds : Option Int

structure ProfilePhotoDto where
  id : Int
  dcId : Option Int
  size : Int
  width : Option Int
  height : Option Int
  spoiler : Bool
  ttlSeconds : Option Int

/-- Of several items with the greatest key, the last, as `Iterator::max_by_key`. -/
def maxByKey {α : Type} (key : α → Nat) (items : List α) : Option α :=
  items.foldl (fun greatest item =>
    match greatest with
    | none => some item
    | some other => if key item < key other then some other else some item) none

def dimensions : Option PhotoSize → Option Int × Option Int
  | some (.size width height _) => (some width, some height)
  | some (.cached width height _) => (some width, some height)
  | some (.progressive width height _) => (some width, some height)
  | _ => (none, none)

def photoDcId (photo : Photo) : Option Int :=
  match photo.raw with
  | some (.photo dcId) => some dcId
  | _ => none

def profilePhotoDto (photo : Photo) : ProfilePhotoDto :=
  let (width, height) := dimensions (maxByKey PhotoSize.bytes photo.thumbs)
  { id := photo.id
    dcId := photoDcId photo
    size := photo.size.getD 0
    width
    height
    spoiler := photo.isSpoiler
    ttlSeconds := photo.ttlSeconds }

structure ProfilePhotosPayload where
  peer : PeerTarget
  all : Option Bool
  limit : Option Nat
  offset : Option Int

inductive ProfilePhotosPlan
  | all
  | page (limit : Nat) (offset : Int)

def clamp (least most limit : Nat) : Nat := max least (min limit most)

def profilePhotosPlan (data : ProfilePhotosPayload) : ProfilePhotosPlan :=
  if data.all.getD false then .all
  else .page (clamp 1 100 (data.limit.getD 50)) (max (data.offset.getD 0) 0)

section Handlers

variable {π ρ μ δ : Type} (grammers : Grammers π ρ) (registry : PeerRegistry π)

/-- `photos` is grammers' iterator over the photos of a peer. -/
def iterProfilePhotos (photos : ρ → Source String Photo) (data : ProfilePhotosPayload) :
    Except String (List ProfilePhotoDto) := do
  let peer ← resolvePeer grammers registry data.peer
  let iterator := photos peer
  match profilePhotosPlan data with
  | .page limit offset => do
      let rest ← iterator.skip offset.toNat
      return (← rest.collect limit).map profilePhotoDto
  | .all => return (← iterator.drain).map profilePhotoDto

/-! ### Participants -/

inductive ChannelParticipantsFilter
  | recent
  | admins
  | bots
  | search (q : String)
  | banned (q : String)
  | kicked (q : String)
  | contacts (q : String)
  | mentions (q : Option String) (topMsgId : Option Int)

def participantFilter (filter : String) (query : Option String) :
    Except String ChannelParticipantsFilter :=
  let q := query.getD ""
  match filter with
  | "recent" => .ok .recent
  | "admins" => .ok .admins
  | "bots" => .ok .bots
  | "search" => .ok (.search q)
  | "banned" => .ok (.banned q)
  | "kicked" => .ok (.kicked q)
  | "contacts" => .ok (.contacts q)
  | "mentions" => .ok (.mentions query none)
  | other => .error ("unsupported participant filter: " ++ other)

structure ParticipantPayload where
  peer : PeerTarget
  limit : Option Nat
  filter : Option String
  query : Option String
  offset : Option Int

def maxParticipantLimit : Nat := 200

structure ParticipantsResult (δ : Type) where
  participants : List δ
  total : Nat

/-- grammers' iterator over the members of a chat, and the total that it reports. -/
structure Participants (ρ μ : Type) where
  iterator : ρ → Option ChannelParticipantsFilter → Source String μ
  total : ρ → Option ChannelParticipantsFilter → Except String Nat

def getParticipants (members : Participants ρ μ) (participantDto : μ → δ)
    (data : ParticipantPayload) : Except String (ParticipantsResult δ) := do
  let peer ← resolvePeer grammers registry data.peer
  let limit := clamp 1 maxParticipantLimit (data.limit.getD 100)
  let offset := max (data.offset.getD 0) 0
  let filter ← data.filter.mapM fun filter => participantFilter filter data.query
  let iterator := members.iterator peer filter
  let total ← members.total peer filter
  let rest ← iterator.skip offset.toNat
  let participants ← rest.collect limit
  return { participants := participants.map participantDto, total }

end Handlers

/-! ### What is projected of a photo -/

theorem maxByKey_foldl {α : Type} (key : α → Nat) (items : List α) (greatest : α) :
    ∃ found, items.foldl (fun greatest item =>
        match greatest with
        | none => some item
        | some other => if key item < key other then some other else some item) (some greatest) =
          some found ∧ (found = greatest ∨ found ∈ items) ∧ key greatest ≤ key found ∧
            ∀ item ∈ items, key item ≤ key found := by
  induction items generalizing greatest with
  | nil => exact ⟨greatest, rfl, .inl rfl, Nat.le_refl _, nofun⟩
  | cons item rest ih =>
      rw [List.foldl_cons]
      by_cases less : key item < key greatest
      · obtain ⟨found, same, place, least, all⟩ := ih greatest
        refine ⟨found, by simpa only [if_pos less] using same,
          place.imp_right (List.mem_cons_of_mem item), least, fun other member => ?_⟩
        rcases List.mem_cons.mp member with here | later
        · rw [here]
          omega
        · exact all other later
      · obtain ⟨found, same, place, least, all⟩ := ih item
        refine ⟨found, by simpa only [if_neg less] using same, .inr (List.mem_cons.mpr place),
          by omega, fun other member => ?_⟩
        rcases List.mem_cons.mp member with here | later
        · rw [here]
          exact least
        · exact all other later

/-- No thumbnail is larger than the one whose resolution is reported. -/
theorem profilePhotoDto_resolution (photo : Photo) :
    (photo.thumbs = [] ∧ (profilePhotoDto photo).width = none ∧
      (profilePhotoDto photo).height = none) ∨
    ∃ thumb ∈ photo.thumbs, (∀ other ∈ photo.thumbs, other.bytes ≤ thumb.bytes) ∧
      ((profilePhotoDto photo).width, (profilePhotoDto photo).height) =
        dimensions (some thumb) := by
  cases thumbs : photo.thumbs with
  | nil => exact .inl ⟨rfl, by simp [profilePhotoDto, thumbs, maxByKey, dimensions]⟩
  | cons first rest =>
      obtain ⟨found, same, place, least, all⟩ := maxByKey_foldl PhotoSize.bytes rest first
      have greatest : maxByKey PhotoSize.bytes photo.thumbs = some found := by
        rw [thumbs]
        exact same
      refine .inr ⟨found, List.mem_cons.mpr place, fun other member => ?_, ?_⟩
      · rcases List.mem_cons.mp member with here | later
        · rw [here]
          exact least
        · exact all other later
      · rw [profilePhotoDto, greatest]

/-! ### Page after page -/

section Walks

variable {π ρ μ δ : Type} (grammers : Grammers π ρ) (registry : PeerRegistry π)

/-- The request for the photos from an index on. -/
def photosFrom (peer : PeerTarget) (limit : Option Nat) (index : Nat) : ProfilePhotosPayload where
  peer := peer
  all := none
  limit := limit
  offset := some (kotlinInt index)

def allPhotos (peer : PeerTarget) : ProfilePhotosPayload where
  peer := peer
  all := some true
  limit := none
  offset := none

def participantsFrom (data : ParticipantPayload) (index : Nat) : ParticipantPayload :=
  { data with offset := some (kotlinInt index) }

theorem max_kotlinInt {count : Nat} (small : count < 2 ^ 31) :
    (max (kotlinInt count) 0).toNat = count := by
  have same := kotlinInt_eq small
  omega

theorem one_le_clamp (most limit : Nat) : 0 < clamp 1 most limit :=
  Nat.le_max_left _ _

theorem page_projected {α β : Type} (project : α → β) (source : Source String α)
    (offset limit : Nat) :
    (do
      let rest ← source.skip offset
      return (← rest.collect limit).map project) =
        (source.page offset limit).map (List.map project) := by
  rw [Source.page]
  cases source.skip offset with
  | error failure => rfl
  | ok rest =>
      change (do return (← rest.collect limit).map project) =
        (rest.collect limit).map (List.map project)
      cases rest.collect limit <;> rfl

section Photos

variable {grammers registry} {photos : ρ → Source String Photo} {data : ProfilePhotosPayload}

theorem iterProfilePhotos_unresolved {failure : String}
    (unresolved : resolvePeer grammers registry data.peer = .error failure) :
    iterProfilePhotos grammers registry photos data = .error failure := by
  rw [iterProfilePhotos, unresolved]
  rfl

variable {ref : ρ} (resolved : resolvePeer grammers registry data.peer = .ok ref)
include resolved

theorem iterProfilePhotos_all (all : data.all = some true) :
    iterProfilePhotos grammers registry photos data =
      (photos ref).drain.map (List.map profilePhotoDto) := by
  rw [iterProfilePhotos, resolved, profilePhotosPlan, all]
  change (do return (← (photos ref).drain).map profilePhotoDto) = _
  cases (photos ref).drain <;> rfl

theorem iterProfilePhotos_page {index : Int} (onePage : data.all = none)
    (cursor : data.offset = some index) :
    iterProfilePhotos grammers registry photos data =
      ((photos ref).page (max index 0).toNat (clamp 1 100 (data.limit.getD 50))).map
        (List.map profilePhotoDto) := by
  rw [iterProfilePhotos, resolved, profilePhotosPlan, onePage, cursor]
  exact page_projected profilePhotoDto (photos ref) _ _

end Photos

/-- Photos asked for by their index come to what asking for all of them comes to. -/
theorem photo_pages (photos : ρ → Source String Photo) (peer : PeerTarget)
    (limit : Option Nat) (countable : ∀ ref, (photos ref).items.length < 2 ^ 31) :
    (Source.pageWalk fun index =>
        iterProfilePhotos grammers registry photos (photosFrom peer limit index)).Ends []
      (iterProfilePhotos grammers registry photos (allPhotos peer)) := by
  cases resolved : resolvePeer grammers registry peer with
  | error failure =>
      have whole : iterProfilePhotos grammers registry photos (allPhotos peer) =
          .error failure := iterProfilePhotos_unresolved resolved
      rw [whole]
      exact Source.pageWalk_fails (iterProfilePhotos_unresolved resolved)
  | ok ref =>
      have whole : iterProfilePhotos grammers registry photos (allPhotos peer) =
          (photos ref).drain.map (List.map profilePhotoDto) := iterProfilePhotos_all resolved rfl
      have serves : Source.Serves profilePhotoDto (photos ref) (clamp 1 100 (limit.getD 50))
          (fun index => iterProfilePhotos grammers registry photos
            (photosFrom peer limit index)) := by
        intro offset within
        have small := countable ref
        have page : iterProfilePhotos grammers registry photos (photosFrom peer limit offset) =
            ((photos ref).page (max (kotlinInt offset) 0).toNat
              (clamp 1 100 (limit.getD 50))).map (List.map profilePhotoDto) :=
          iterProfilePhotos_page resolved rfl rfl
        have fits : offset < 2 ^ 31 := by omega
        rw [max_kotlinInt fits] at page
        exact page
      rw [whole]
      exact Source.pageWalk_ends serves (one_le_clamp _ _)

section Members

variable {grammers registry} {members : Participants ρ μ} {participantDto : μ → δ}
  {data : ParticipantPayload}

/-- The members of a chat, or the failure before any of them is read. -/
def membersOf (grammers : Grammers π ρ) (registry : PeerRegistry π) (members : Participants ρ μ)
    (participantDto : μ → δ) (data : ParticipantPayload) : Except String (List δ) := do
  let peer ← resolvePeer grammers registry data.peer
  let filter ← data.filter.mapM fun filter => participantFilter filter data.query
  let _ ← members.total peer filter
  return (← (members.iterator peer filter).drain).map participantDto

/-- Whatever comes before the reading fails each call alike; what is read is a page. -/
theorem getParticipants_page {index : Int} (cursor : data.offset = some index) :
    (getParticipants grammers registry members participantDto data).map
        ParticipantsResult.participants = (do
      let peer ← resolvePeer grammers registry data.peer
      let filter ← data.filter.mapM fun filter => participantFilter filter data.query
      let _ ← members.total peer filter
      ((members.iterator peer filter).page (max index 0).toNat
        (clamp 1 maxParticipantLimit (data.limit.getD 100))).map (List.map participantDto)) := by
  simp only [getParticipants, cursor, Option.getD_some, ← page_projected]
  cases resolvePeer grammers registry data.peer with
  | error failure => rfl
  | ok peer =>
  cases data.filter.mapM fun filter => participantFilter filter data.query with
  | error failure => rfl
  | ok filter =>
  simp only [bind, Except.bind, pure, Except.pure]
  cases members.total peer filter with
  | error failure => rfl
  | ok total =>
  cases (members.iterator peer filter).skip (max index 0).toNat with
  | error failure => rfl
  | ok rest =>
  dsimp only
  cases rest.collect (clamp 1 maxParticipantLimit (data.limit.getD 100)) <;> rfl

end Members

/-- Members asked for by their index are the members of the chat. -/
theorem participant_pages (members : Participants ρ μ) (participantDto : μ → δ)
    (data : ParticipantPayload)
    (countable : ∀ ref filter, (members.iterator ref filter).items.length < 2 ^ 31) :
    (Source.pageWalk fun index =>
        (getParticipants grammers registry members participantDto
          (participantsFrom data index)).map ParticipantsResult.participants).Ends []
      (membersOf grammers registry members participantDto data) := by
  have served : (fun index => (getParticipants grammers registry members participantDto
      (participantsFrom data index)).map ParticipantsResult.participants) = fun index => (do
        let peer ← resolvePeer grammers registry data.peer
        let filter ← data.filter.mapM fun filter => participantFilter filter data.query
        let _ ← members.total peer filter
        ((members.iterator peer filter).page (max (kotlinInt index) 0).toNat
          (clamp 1 maxParticipantLimit (data.limit.getD 100))).map (List.map participantDto)) := by
    funext index
    have cursor : (participantsFrom data index).offset = some (kotlinInt index) := rfl
    exact getParticipants_page cursor
  rw [served]
  unfold membersOf
  cases resolvePeer grammers registry data.peer with
  | error failure => exact Source.pageWalk_fails rfl
  | ok ref =>
  cases data.filter.mapM fun filter => participantFilter filter data.query with
  | error failure => exact Source.pageWalk_fails rfl
  | ok filter =>
  simp only [bind, Except.bind, pure, Except.pure]
  cases members.total ref filter with
  | error failure => exact Source.pageWalk_fails rfl
  | ok total =>
  have serves : Source.Serves participantDto (members.iterator ref filter)
      (clamp 1 maxParticipantLimit (data.limit.getD 100)) (fun index =>
        ((members.iterator ref filter).page (max (kotlinInt index) 0).toNat
          (clamp 1 maxParticipantLimit (data.limit.getD 100))).map (List.map participantDto)) := by
    intro offset within
    have small := countable ref filter
    have fits : offset < 2 ^ 31 := by omega
    simp only [max_kotlinInt fits]
  have ended := Source.pageWalk_ends serves (one_le_clamp _ _)
  cases drained : (members.iterator ref filter).drain with
  | error failure =>
      rw [drained] at ended
      exact ended
  | ok items =>
      rw [drained] at ended
      exact ended

/-- Going through a listing by the index comes to the whole of it, each item once and in
order, or to the failure that keeps the whole from being read. -/
theorem index_pages_come_to_the_whole :
    (∀ (photos : ρ → Source String Photo) (peer : PeerTarget) (limit : Option Nat),
      (∀ ref, (photos ref).items.length < 2 ^ 31) →
        (Source.pageWalk fun index => iterProfilePhotos grammers registry photos
          (photosFrom peer limit index)).Ends []
            (iterProfilePhotos grammers registry photos (allPhotos peer))) ∧
    ∀ (members : Participants ρ μ) (participantDto : μ → δ) (data : ParticipantPayload),
      (∀ ref filter, (members.iterator ref filter).items.length < 2 ^ 31) →
        (Source.pageWalk fun index => (getParticipants grammers registry members participantDto
          (participantsFrom data index)).map ParticipantsResult.participants).Ends []
            (membersOf grammers registry members participantDto data) :=
  ⟨photo_pages grammers registry, participant_pages grammers registry⟩

end Walks

/-- Three members, after which the connection is lost. -/
def threeMembers : Participants InputPeer Nat where
  iterator _ _ := ⟨[4, 5, 6], .error "connection lost"⟩
  total _ _ := .ok 9

def threePhotos (_ : InputPeer) : Source String Photo where
  items := [1, 2, 3].map fun id => ⟨id, none, [], none, false, none⟩
  ending := .ok ()

theorem index_pages_come_to_the_whole_three :
    (Source.pageWalk fun index => iterProfilePhotos onlyAda noPeers threePhotos
      (photosFrom ⟨none, some "ada"⟩ (some 2) index)).Ends []
        (iterProfilePhotos onlyAda noPeers threePhotos (allPhotos ⟨none, some "ada"⟩)) ∧
    (Source.pageWalk fun index => (getParticipants onlyAda noPeers threeMembers id
      (participantsFrom ⟨⟨none, some "@ada"⟩, some 2, some "search", none, none⟩ index)).map
        ParticipantsResult.participants).Ends [] (.error "connection lost") := by
  have few : 3 < 2 ^ 31 := by decide
  have pages := @index_pages_come_to_the_whole _ _ Nat Nat onlyAda noPeers
  exact ⟨pages.1 threePhotos ⟨none, some "ada"⟩ (some 2) (fun _ => few),
    pages.2 threeMembers id _ (fun _ _ => few)⟩

end Kotlogramme.Listings
