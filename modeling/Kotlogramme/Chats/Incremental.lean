/-
What an edit of rights that loads the current ones leaves in place.

An edit is incremental when the rights it writes have the request's value for what
the request document carries and the participant's value for the rest.  The merge
takes every flag from the request, whose missing flags read as cleared, so an edit
is incremental just when the participant had nothing set that the document does not
carry.  A document of the facade carries the flags that are set and no others.
-/

import Kotlogramme.Chats.Rights

namespace Kotlogramme.Chats

open Kotlogramme.Protocol

/-! ### What a document carries -/

/-- The members of the rights document in a request. -/
def rightsDocument : Json → List (String × Json)
  | .object members =>
      match members.lookup "rights" with
      | some (.object rights) => rights
      | _ => []
  | _ => []

def carriedFlag (rights : List (String × Json)) (name : String) : Option Bool :=
  match rights.lookup name with
  | some (.bool value) => some value
  | _ => none

def carriedDate (rights : List (String × Json)) : Option Int :=
  match rights.lookup "untilDate" with
  | some (.int milliseconds) => some milliseconds
  | _ => none

theorem flag_eq_ok {name : String} {members : List (String × Json)} {value : Bool}
    (accepted : flag name members = .ok value) :
    value = (carriedFlag members name).getD false := by
  rcases field_eq_ok accepted with ⟨document, carried, read⟩ | ⟨missing, cleared⟩
  · cases document with
    | bool held =>
        cases read
        rw [carriedFlag, carried]
        rfl
    | _ => cases read
  · cases cleared
    rw [carriedFlag, missing]
    rfl

theorem date_eq_ok {members : List (String × Json)} {value : Int}
    (accepted : field (some 0) readI64 "untilDate" members = .ok value) :
    value = (carriedDate members).getD 0 := by
  rcases field_eq_ok accepted with ⟨document, carried, read⟩ | ⟨missing, cleared⟩
  · cases document with
    | int held =>
        rw [carriedDate, carried]
        by_cases inside : -2 ^ 63 ≤ held ∧ held ≤ 2 ^ 63 - 1
        · simp only [readI64, readInt, if_pos inside] at read
          exact (Except.ok.inj read).symm
        · simp only [readI64, readInt, if_neg inside] at read
          cases read
    | _ => cases read
  · cases cleared
    rw [carriedDate, missing]
    rfl

theorem rightsMembers_eq_ok {members rights : List (String × Json)}
    (accepted : rightsMembers members = .ok rights) :
    rights = rightsDocument (.object members) := by
  rcases field_eq_ok accepted with ⟨document, carried, read⟩ | ⟨missing, empty⟩
  · cases document with
    | object held =>
        cases read
        simp only [rightsDocument, carried]
    | _ => cases read
  · cases empty
    simp only [rightsDocument, missing]

/-! ### What is requested -/

theorem ChatRestrictionsDto.deserialize_eq_ok {members : List (String × Json)}
    {rights : ChatRestrictionsDto} (accepted : deserialize members = .ok rights) :
    (∀ right : BannedRight,
      flag right.wire members = .ok ((ChatBannedRights.ofDto rights).denies right)) ∧
      field (some 0) readI64 "untilDate" members = .ok rights.untilDate := by
  simp only [deserialize, bind_eq_ok] at accepted
  obtain ⟨viewMessages, ofViewMessages, sendMessages, ofSendMessages, sendMedia, ofSendMedia,
    sendStickers, ofSendStickers, sendGifs, ofSendGifs, sendGames, ofSendGames,
    sendInline, ofSendInline, embedLinks, ofEmbedLinks, sendPolls, ofSendPolls,
    changeInfo, ofChangeInfo, inviteUsers, ofInviteUsers, pinMessages, ofPinMessages,
    manageTopics, ofManageTopics, sendPhotos, ofSendPhotos, sendVideos, ofSendVideos,
    sendRoundvideos, ofSendRoundvideos, sendAudios, ofSendAudios, sendVoices, ofSendVoices,
    sendDocs, ofSendDocs, sendPlain, ofSendPlain, editRank, ofEditRank,
    sendReactions, ofSendReactions, manageLinkedPeers, ofManageLinkedPeers, untilDate, ofUntilDate,
    built⟩ := accepted
  cases built
  refine ⟨fun right => ?_, ofUntilDate⟩
  cases right <;> assumption

theorem ChatPermissionsDto.deserialize_eq_ok {members : List (String × Json)}
    {rights : ChatPermissionsDto} (accepted : deserialize members = .ok rights)
    (right : AdminRight) :
    flag right.wire members = .ok ((ChatAdminRights.ofDto rights).grants right) := by
  simp only [deserialize, bind_eq_ok] at accepted
  obtain ⟨changeInfo, ofChangeInfo, postMessages, ofPostMessages, editMessages, ofEditMessages,
    deleteMessages, ofDeleteMessages, banUsers, ofBanUsers, inviteUsers, ofInviteUsers,
    pinMessages, ofPinMessages, addAdmins, ofAddAdmins, anonymous, ofAnonymous,
    manageCall, ofManageCall, manageTopics, ofManageTopics, postStories, ofPostStories,
    editStories, ofEditStories, deleteStories, ofDeleteStories,
    manageDirectMessages, ofManageDirectMessages, manageRanks, ofManageRanks,
    manageLinkedPeers, ofManageLinkedPeers, manageWelcomeMessages, ofManageWelcomeMessages,
    other, ofOther, built⟩ := accepted
  cases built
  cases right <;> assumption

/-- The requested record has what the document carries, and nothing else set. -/
theorem SetBannedRightsPayload.requested_eq {document : Json} {data : SetBannedRightsPayload}
    (accepted : deserialize document = .ok data) :
    (∀ right : BannedRight, (ChatBannedRights.ofDto data.rights).denies right =
      (carriedFlag (rightsDocument document) right.wire).getD false) ∧
      (ChatBannedRights.ofDto data.rights).untilDate =
        wholeSeconds ((carriedDate (rightsDocument document)).getD 0) := by
  simp only [deserialize, bind_eq_ok] at accepted
  obtain ⟨members, isObject, chat, -, user, -, rights, ofRights, read, ofRead, loads, -, built⟩ :=
    accepted
  cases built
  cases document with
  | object held =>
      cases isObject
      rw [← rightsMembers_eq_ok ofRights]
      obtain ⟨flags, date⟩ := ChatRestrictionsDto.deserialize_eq_ok ofRead
      exact ⟨fun right => flag_eq_ok (flags right), congrArg wholeSeconds (date_eq_ok date)⟩
  | _ => cases isObject

theorem SetAdminRightsPayload.requested_eq {document : Json} {data : SetAdminRightsPayload}
    (accepted : deserialize document = .ok data) (right : AdminRight) :
    (ChatAdminRights.ofDto data.rights).grants right =
      (carriedFlag (rightsDocument document) right.wire).getD false := by
  simp only [deserialize, bind_eq_ok] at accepted
  obtain ⟨members, isObject, chat, -, user, -, rights, ofRights, read, ofRead, rank, -, loads, -,
    built⟩ := accepted
  cases built
  cases document with
  | object held =>
      cases isObject
      rw [← rightsMembers_eq_ok ofRights]
      exact flag_eq_ok (ChatPermissionsDto.deserialize_eq_ok ofRead right)
  | _ => cases isObject

/-! ### What is written -/

/-- The merge leaves nothing of the loaded record. -/
theorem mergeBanned_eq (current requested : ChatBannedRights) :
    mergeBanned current requested = requested := rfl

theorem mergeAdmin_eq (current requested : ChatAdminRights) :
    mergeAdmin current requested = requested := rfl

/-- The written record has the document's value for what the document carries and
the current one for the rest. -/
structure ChatBannedRights.Incremental (current : ChatBannedRights)
    (rights : List (String × Json)) (written : ChatBannedRights) : Prop where
  flags : ∀ right : BannedRight,
    written.denies right = (carriedFlag rights right.wire).getD (current.denies right)
  untilDate :
    written.untilDate = ((carriedDate rights).map wholeSeconds).getD current.untilDate

/-- As `ChatBannedRights.Incremental`. -/
def ChatAdminRights.Incremental (current : ChatAdminRights) (rights : List (String × Json))
    (written : ChatAdminRights) : Prop :=
  ∀ right : AdminRight,
    written.grants right = (carriedFlag rights right.wire).getD (current.grants right)

/-- The current record has nothing set that the document does not carry. -/
structure ChatBannedRights.Listed (current : ChatBannedRights) (rights : List (String × Json)) :
    Prop where
  flags : ∀ right : BannedRight,
    carriedFlag rights right.wire = none → current.denies right = false
  untilDate : carriedDate rights = none → current.untilDate = 0

def ChatAdminRights.Listed (current : ChatAdminRights) (rights : List (String × Json)) : Prop :=
  ∀ right : AdminRight, carriedFlag rights right.wire = none → current.grants right = false

theorem getD_eq_getD_iff {α : Type} (carried : Option α) (missing current : α) :
    carried.getD missing = carried.getD current ↔ (carried = none → current = missing) := by
  cases carried with
  | none => simp [eq_comm]
  | some value => simp

theorem wholeSeconds_getD (carried : Option Int) :
    wholeSeconds (carried.getD 0) = (carried.map wholeSeconds).getD 0 := by
  cases carried with
  | none => rfl
  | some milliseconds => rfl

/-- A `setBannedRights` request that loads the rights of a restricted participant of a
channel. -/
structure BannedEdit where
  resolvePeer : PeerTarget → Except String Peer
  getParticipant : Peer → Peer → Except String ChannelParticipant
  document : Json
  data : SetBannedRightsPayload
  channel : Peer
  user : Peer
  participant : ChannelParticipant
  current : ChatBannedRights
  accepted : SetBannedRightsPayload.deserialize document = .ok data
  loads : data.loadCurrent = true
  channelFound : resolvePeer data.chat = .ok channel
  userFound : resolvePeer data.user = .ok user
  isChannel : channel.kind = .channel
  answered : getParticipant channel user = .ok participant
  held : loadChannelBanned participant = some current

/-- As `BannedEdit`, for the rights of an administrator. -/
structure AdminEdit where
  resolvePeer : PeerTarget → Except String Peer
  getParticipant : Peer → Peer → Except String ChannelParticipant
  document : Json
  data : SetAdminRightsPayload
  channel : Peer
  user : Peer
  participant : ChannelParticipant
  current : ChatAdminRights
  accepted : SetAdminRightsPayload.deserialize document = .ok data
  loads : data.loadCurrent = true
  channelFound : resolvePeer data.chat = .ok channel
  userFound : resolvePeer data.user = .ok user
  isChannel : channel.kind = .channel
  answered : getParticipant channel user = .ok participant
  held : loadChannelAdmin participant = some current

theorem BannedEdit.call_eq (edit : BannedEdit) :
    setBannedRights edit.resolvePeer edit.getParticipant edit.document =
      .ok (.editBanned edit.channel edit.user
        (mergeBanned edit.current (ChatBannedRights.ofDto edit.data.rights))) := by
  simp [setBannedRights, edit.accepted, parsePayload, edit.channelFound, parseMessage,
    edit.userFound, edit.loads, edit.isChannel, edit.answered, edit.held, bind, Except.bind, pure,
    Except.pure]

theorem AdminEdit.call_eq (edit : AdminEdit) :
    setAdminRights edit.resolvePeer edit.getParticipant edit.document =
      .ok (.editAdmin edit.channel edit.user
        (mergeAdmin edit.current (ChatAdminRights.ofDto edit.data.rights))
        (some (edit.data.rank.getD ""))) := by
  simp [setAdminRights, edit.accepted, parsePayload, edit.channelFound, parseMessage,
    edit.userFound, edit.loads, edit.isChannel, edit.answered, edit.held, bind, Except.bind, pure,
    Except.pure]

theorem BannedEdit.written_iff_listed (edit : BannedEdit) :
    edit.current.Incremental (rightsDocument edit.document)
        (mergeBanned edit.current (ChatBannedRights.ofDto edit.data.rights)) ↔
      edit.current.Listed (rightsDocument edit.document) := by
  obtain ⟨flags, date⟩ := SetBannedRightsPayload.requested_eq edit.accepted
  rw [mergeBanned_eq]
  constructor
  · intro incremental
    refine ⟨fun right => ?_, ?_⟩
    · exact (getD_eq_getD_iff _ _ _).mp ((flags right).symm.trans (incremental.flags right))
    · have kept := date.symm.trans incremental.untilDate
      rw [wholeSeconds_getD, getD_eq_getD_iff, Option.map_eq_none_iff] at kept
      exact kept
  · intro listed
    refine ⟨fun right => ?_, ?_⟩
    · exact (flags right).trans ((getD_eq_getD_iff _ _ _).mpr (listed.flags right))
    · rw [date, wholeSeconds_getD, getD_eq_getD_iff, Option.map_eq_none_iff]
      exact listed.untilDate

theorem AdminEdit.written_iff_listed (edit : AdminEdit) :
    edit.current.Incremental (rightsDocument edit.document)
        (mergeAdmin edit.current (ChatAdminRights.ofDto edit.data.rights)) ↔
      edit.current.Listed (rightsDocument edit.document) := by
  have flags := SetAdminRightsPayload.requested_eq edit.accepted
  rw [mergeAdmin_eq]
  refine forall_congr' fun right => ?_
  rw [flags right]
  exact getD_eq_getD_iff _ _ _

/-- The rights an edit writes are incremental. -/
def BannedEdit.Incremental (edit : BannedEdit) : Prop :=
  ∃ written : ChatBannedRights,
    setBannedRights edit.resolvePeer edit.getParticipant edit.document =
        .ok (.editBanned edit.channel edit.user written) ∧
      edit.current.Incremental (rightsDocument edit.document) written

def AdminEdit.Incremental (edit : AdminEdit) : Prop :=
  ∃ (written : ChatAdminRights) (rank : Option String),
    setAdminRights edit.resolvePeer edit.getParticipant edit.document =
        .ok (.editAdmin edit.channel edit.user written rank) ∧
      edit.current.Incremental (rightsDocument edit.document) written

theorem BannedEdit.incremental_iff (edit : BannedEdit) :
    edit.Incremental ↔ edit.current.Listed (rightsDocument edit.document) := by
  rw [← edit.written_iff_listed]
  constructor
  · rintro ⟨written, called, incremental⟩
    rw [edit.call_eq] at called
    cases called
    exact incremental
  · intro incremental
    exact ⟨_, edit.call_eq, incremental⟩

theorem AdminEdit.incremental_iff (edit : AdminEdit) :
    edit.Incremental ↔ edit.current.Listed (rightsDocument edit.document) := by
  rw [← edit.written_iff_listed]
  constructor
  · rintro ⟨written, rank, called, incremental⟩
    rw [edit.call_eq] at called
    cases called
    exact incremental
  · intro incremental
    exact ⟨_, _, edit.call_eq, incremental⟩

/-! ### The requests of the facade -/

/-- The restrictions a caller of `channelsEditBanned` names. -/
structure ChatRestrictions where
  (viewMessages sendMessages sendMedia sendStickers sendGifs sendGames sendInline embedLinks
    sendPolls changeInfo inviteUsers pinMessages : Bool)
  untilDate : Int

/-- The permissions a caller of `channelsEditAdmin` names. -/
structure ChatPermissions where
  (changeInfo postMessages editMessages deleteMessages banUsers inviteUsers pinMessages addAdmins
    anonymous manageCall : Bool)

/-- The bridge's `ChatRestrictions`, in the order of its properties. -/
structure BridgeChatRestrictions where
  viewMessages : Bool := false
  sendMessages : Bool := false
  sendMedia : Bool := false
  sendStickers : Bool := false
  sendGifs : Bool := false
  sendGames : Bool := false
  sendInline : Bool := false
  embedLinks : Bool := false
  sendPolls : Bool := false
  changeInfo : Bool := false
  inviteUsers : Bool := false
  pinMessages : Bool := false
  manageTopics : Bool := false
  sendPhotos : Bool := false
  sendVideos : Bool := false
  sendRoundvideos : Bool := false
  sendAudios : Bool := false
  sendVoices : Bool := false
  sendDocs : Bool := false
  sendPlain : Bool := false
  editRank : Bool := false
  sendReactions : Bool := false
  manageLinkedPeers : Bool := false
  untilDate : Int := 0

/-- The bridge's `ChatPermissions`, in the order of its properties. -/
structure BridgeChatPermissions where
  changeInfo : Bool := false
  postMessages : Bool := false
  editMessages : Bool := false
  deleteMessages : Bool := false
  banUsers : Bool := false
  inviteUsers : Bool := false
  pinMessages : Bool := false
  addAdmins : Bool := false
  anonymous : Bool := false
  manageCall : Bool := false
  manageTopics : Bool := false
  postStories : Bool := false
  editStories : Bool := false
  deleteStories : Bool := false
  manageDirectMessages : Bool := false
  manageRanks : Bool := false
  manageLinkedPeers : Bool := false
  manageWelcomeMessages : Bool := false
  other : Bool := false

def ChatRestrictions.toBridge (restrictions : ChatRestrictions) : BridgeChatRestrictions where
  viewMessages := restrictions.viewMessages
  sendMessages := restrictions.sendMessages
  sendMedia := restrictions.sendMedia
  sendStickers := restrictions.sendStickers
  sendGifs := restrictions.sendGifs
  sendGames := restrictions.sendGames
  sendInline := restrictions.sendInline
  embedLinks := restrictions.embedLinks
  sendPolls := restrictions.sendPolls
  changeInfo := restrictions.changeInfo
  inviteUsers := restrictions.inviteUsers
  pinMessages := restrictions.pinMessages
  untilDate := restrictions.untilDate

def ChatPermissions.toBridge (permissions : ChatPermissions) : BridgeChatPermissions where
  changeInfo := permissions.changeInfo
  postMessages := permissions.postMessages
  editMessages := permissions.editMessages
  deleteMessages := permissions.deleteMessages
  banUsers := permissions.banUsers
  inviteUsers := permissions.inviteUsers
  pinMessages := permissions.pinMessages
  addAdmins := permissions.addAdmins
  anonymous := permissions.anonymous
  manageCall := permissions.manageCall

def BridgeChatRestrictions.flags (rights : BridgeChatRestrictions) : List (String × Bool) :=
  [("viewMessages", rights.viewMessages), ("sendMessages", rights.sendMessages),
    ("sendMedia", rights.sendMedia), ("sendStickers", rights.sendStickers),
    ("sendGifs", rights.sendGifs), ("sendGames", rights.sendGames),
    ("sendInline", rights.sendInline), ("embedLinks", rights.embedLinks),
    ("sendPolls", rights.sendPolls), ("changeInfo", rights.changeInfo),
    ("inviteUsers", rights.inviteUsers), ("pinMessages", rights.pinMessages),
    ("manageTopics", rights.manageTopics), ("sendPhotos", rights.sendPhotos),
    ("sendVideos", rights.sendVideos), ("sendRoundvideos", rights.sendRoundvideos),
    ("sendAudios", rights.sendAudios), ("sendVoices", rights.sendVoices),
    ("sendDocs", rights.sendDocs), ("sendPlain", rights.sendPlain), ("editRank", rights.editRank),
    ("sendReactions", rights.sendReactions), ("manageLinkedPeers", rights.manageLinkedPeers)]

def BridgeChatPermissions.flags (rights : BridgeChatPermissions) : List (String × Bool) :=
  [("changeInfo", rights.changeInfo), ("postMessages", rights.postMessages),
    ("editMessages", rights.editMessages), ("deleteMessages", rights.deleteMessages),
    ("banUsers", rights.banUsers), ("inviteUsers", rights.inviteUsers),
    ("pinMessages", rights.pinMessages), ("addAdmins", rights.addAdmins),
    ("anonymous", rights.anonymous), ("manageCall", rights.manageCall),
    ("manageTopics", rights.manageTopics), ("postStories", rights.postStories),
    ("editStories", rights.editStories), ("deleteStories", rights.deleteStories),
    ("manageDirectMessages", rights.manageDirectMessages), ("manageRanks", rights.manageRanks),
    ("manageLinkedPeers", rights.manageLinkedPeers),
    ("manageWelcomeMessages", rights.manageWelcomeMessages), ("other", rights.other)]

/-- The members for flags that default to `false`; a default is not written. -/
def setFlags (flags : List (String × Bool)) : List (String × Json) :=
  (flags.filter Prod.snd).map fun flag => (flag.1, .bool flag.2)

def BridgeChatRestrictions.members (rights : BridgeChatRestrictions) : List (String × Json) :=
  setFlags rights.flags ++
    if rights.untilDate = 0 then [] else [("untilDate", .int rights.untilDate)]

def BridgeChatPermissions.members (rights : BridgeChatPermissions) : List (String × Json) :=
  setFlags rights.flags

def peerHandleTarget (nativeHandle : Int) : Json := .object [("peerHandle", .int nativeHandle)]

/-- The request of `channelsEditBanned` with `loadCurrent` set. -/
def editBannedDocument (peer user : Int) (restrictions : ChatRestrictions) : Json :=
  .object ([("chat", peerHandleTarget peer), ("user", peerHandleTarget user),
    ("rights", .object restrictions.toBridge.members)] ++ setFlags [("loadCurrent", true)])

/-- The request of `channelsEditAdmin` with `loadCurrent` set. -/
def editAdminDocument (peer user : Int) (permissions : ChatPermissions) (rank : Option String) :
    Json :=
  .object ([("chat", peerHandleTarget peer), ("user", peerHandleTarget user),
    ("rights", .object permissions.toBridge.members)] ++
    (rank.toList.map fun text => ("rank", .string text)) ++ setFlags [("loadCurrent", true)])

/-- A right that the facade cannot name is not denied by it. -/
def ChatRestrictions.denies (restrictions : ChatRestrictions) : BannedRight → Bool
  | .viewMessages => restrictions.viewMessages
  | .sendMessages => restrictions.sendMessages
  | .sendMedia => restrictions.sendMedia
  | .sendStickers => restrictions.sendStickers
  | .sendGifs => restrictions.sendGifs
  | .sendGames => restrictions.sendGames
  | .sendInline => restrictions.sendInline
  | .embedLinks => restrictions.embedLinks
  | .sendPolls => restrictions.sendPolls
  | .changeInfo => restrictions.changeInfo
  | .inviteUsers => restrictions.inviteUsers
  | .pinMessages => restrictions.pinMessages
  | _ => false

/-- A right that the facade cannot name is not granted by it. -/
def ChatPermissions.grants (permissions : ChatPermissions) : AdminRight → Bool
  | .changeInfo => permissions.changeInfo
  | .postMessages => permissions.postMessages
  | .editMessages => permissions.editMessages
  | .deleteMessages => permissions.deleteMessages
  | .banUsers => permissions.banUsers
  | .inviteUsers => permissions.inviteUsers
  | .pinMessages => permissions.pinMessages
  | .addAdmins => permissions.addAdmins
  | .anonymous => permissions.anonymous
  | .manageCall => permissions.manageCall
  | _ => false

theorem setFlags_lookup {flags : List (String × Bool)} (distinct : (flags.map Prod.fst).Nodup)
    (name : String) :
    (setFlags flags).lookup name =
      if (name, true) ∈ flags then some (.bool true) else none := by
  induction flags with
  | nil => rfl
  | cons flag rest ih =>
      obtain ⟨head, value⟩ := flag
      rw [List.map_cons, List.nodup_cons] at distinct
      cases value with
      | false => simpa [setFlags] using ih distinct.2
      | true =>
          by_cases same : name = head
          · simp [setFlags, same]
          · have other : (name == head) = false := beq_false_of_ne same
            simpa [setFlags, List.lookup_cons, other, same] using ih distinct.2

theorem setFlags_lookup_of_notMem {flags : List (String × Bool)} {name : String}
    (unnamed : name ∉ flags.map Prod.fst) : (setFlags flags).lookup name = none := by
  rw [List.lookup_eq_none_iff]
  intro entry member
  obtain ⟨flag, kept, rfl⟩ := List.mem_map.mp member
  simp only [bne_iff_ne]
  rintro rfl
  exact unnamed (List.mem_map_of_mem (List.mem_of_mem_filter kept))

theorem ChatRestrictions.set_iff_denies (restrictions : ChatRestrictions) (right : BannedRight) :
    (right.wire, true) ∈ restrictions.toBridge.flags ↔ restrictions.denies right = true := by
  cases right <;>
    simp [BannedRight.wire, BridgeChatRestrictions.flags, toBridge, denies]

theorem ChatPermissions.set_iff_grants (permissions : ChatPermissions) (right : AdminRight) :
    (right.wire, true) ∈ permissions.toBridge.flags ↔ permissions.grants right = true := by
  cases right <;>
    simp [AdminRight.wire, BridgeChatPermissions.flags, toBridge, grants]

theorem BridgeChatRestrictions.flags_nodup (rights : BridgeChatRestrictions) :
    (rights.flags.map Prod.fst).Nodup := by
  simp [flags]

theorem BridgeChatPermissions.flags_nodup (rights : BridgeChatPermissions) :
    (rights.flags.map Prod.fst).Nodup := by
  simp [flags]

theorem BannedRight.wire_ne_untilDate (right : BannedRight) : right.wire ≠ "untilDate" := by
  cases right <;> decide

/-- A facade document carries the flags that are set, and no cleared one. -/
theorem ChatRestrictions.carriedFlag_eq (restrictions : ChatRestrictions) (right : BannedRight) :
    carriedFlag restrictions.toBridge.members right.wire =
      if restrictions.denies right then some true else none := by
  have other : (right.wire == "untilDate") = false := beq_false_of_ne right.wire_ne_untilDate
  have rest : (if restrictions.toBridge.untilDate = 0 then []
      else [("untilDate", Json.int restrictions.toBridge.untilDate)]).lookup right.wire = none := by
    split
    · rfl
    · simp [List.lookup_cons, other]
  rw [carriedFlag, BridgeChatRestrictions.members, List.lookup_append, rest, Option.or_none,
    setFlags_lookup restrictions.toBridge.flags_nodup]
  simp only [set_iff_denies]
  by_cases denied : restrictions.denies right = true
  · rw [if_pos denied, if_pos denied]
  · rw [if_neg denied, if_neg denied]

theorem ChatRestrictions.carriedDate_eq (restrictions : ChatRestrictions) :
    carriedDate restrictions.toBridge.members =
      if restrictions.untilDate = 0 then none else some restrictions.untilDate := by
  have unnamed : (setFlags restrictions.toBridge.flags).lookup "untilDate" = none :=
    setFlags_lookup_of_notMem (by simp [BridgeChatRestrictions.flags])
  rw [carriedDate, BridgeChatRestrictions.members, List.lookup_append, unnamed, Option.none_or]
  by_cases forever : restrictions.untilDate = 0
  · simp [toBridge, forever]
  · simp [toBridge, forever]

theorem ChatPermissions.carriedFlag_eq (permissions : ChatPermissions) (right : AdminRight) :
    carriedFlag permissions.toBridge.members right.wire =
      if permissions.grants right then some true else none := by
  rw [carriedFlag, BridgeChatPermissions.members,
    setFlags_lookup permissions.toBridge.flags_nodup]
  simp only [set_iff_grants]
  by_cases granted : permissions.grants right = true
  · rw [if_pos granted, if_pos granted]
  · rw [if_neg granted, if_neg granted]

theorem rightsDocument_editBanned (peer user : Int) (restrictions : ChatRestrictions) :
    rightsDocument (editBannedDocument peer user restrictions) = restrictions.toBridge.members :=
  rfl

theorem rightsDocument_editAdmin (peer user : Int) (permissions : ChatPermissions)
    (rank : Option String) :
    rightsDocument (editAdminDocument peer user permissions rank) =
      permissions.toBridge.members :=
  rfl

theorem ChatBannedRights.listed_iff_denied (current : ChatBannedRights)
    (restrictions : ChatRestrictions) :
    current.Listed restrictions.toBridge.members ↔
      (∀ right, current.denies right = true → restrictions.denies right = true) ∧
        (restrictions.untilDate = 0 → current.untilDate = 0) := by
  constructor
  · intro listed
    refine ⟨fun right denied => ?_, fun forever => ?_⟩
    · by_contra unlisted
      have cleared := listed.flags right (by rw [restrictions.carriedFlag_eq, if_neg unlisted])
      rw [denied] at cleared
      cases cleared
    · exact listed.untilDate (by rw [restrictions.carriedDate_eq, if_pos forever])
  · rintro ⟨flags, date⟩
    refine ⟨fun right missing => ?_, fun missing => ?_⟩
    · rw [restrictions.carriedFlag_eq] at missing
      cases denied : current.denies right with
      | false => rfl
      | true => simp [flags right denied] at missing
    · rw [restrictions.carriedDate_eq] at missing
      by_cases forever : restrictions.untilDate = 0
      · exact date forever
      · rw [if_neg forever] at missing
        cases missing

theorem ChatAdminRights.listed_iff_granted (current : ChatAdminRights)
    (permissions : ChatPermissions) :
    current.Listed permissions.toBridge.members ↔
      ∀ right, current.grants right = true → permissions.grants right = true := by
  refine forall_congr' fun right => ?_
  rw [permissions.carriedFlag_eq]
  cases current.grants right <;> cases permissions.grants right <;> simp

/-! ### Incremental edits -/

/-- An edit is incremental just when the current record has nothing set that the
request document does not carry; for a request of the facade, when the caller lists
everything that is set. -/
theorem incremental_iff_listed (banned : BannedEdit) (admin : AdminEdit) :
    (banned.Incremental ↔ banned.current.Listed (rightsDocument banned.document)) ∧
    (admin.Incremental ↔ admin.current.Listed (rightsDocument admin.document)) ∧
    (∀ (peer user : Int) (restrictions : ChatRestrictions),
      banned.document = editBannedDocument peer user restrictions →
      (banned.Incremental ↔
        (∀ right, banned.current.denies right = true → restrictions.denies right = true) ∧
          (restrictions.untilDate = 0 → banned.current.untilDate = 0))) ∧
    (∀ (peer user : Int) (permissions : ChatPermissions) (rank : Option String),
      admin.document = editAdminDocument peer user permissions rank →
      (admin.Incremental ↔
        ∀ right, admin.current.grants right = true → permissions.grants right = true)) := by
  refine ⟨banned.incremental_iff, admin.incremental_iff, ?_, ?_⟩
  · intro peer user restrictions isDocument
    rw [banned.incremental_iff, isDocument, rightsDocument_editBanned]
    exact banned.current.listed_iff_denied restrictions
  · intro peer user permissions rank isDocument
    rw [admin.incremental_iff, isDocument, rightsDocument_editAdmin]
    exact admin.current.listed_iff_granted permissions

/-- A restricted participant who may not send messages. -/
def muted : ChatBannedRights :=
  ⟨false, true, false, false, false, false, false, false, false, false, false, false, false, false,
    false, false, false, false, false, false, false, false, false, 0⟩

/-- A request of the facade to take media away. -/
def mediaOnly : ChatRestrictions :=
  ⟨false, false, true, false, false, false, false, false, false, false, false, false, 0⟩

def mediaBan : BannedEdit where
  resolvePeer target := .ok (if target.peerHandle = some 1 then ⟨1, .channel⟩ else ⟨2, .user⟩)
  getParticipant _ _ := .ok (.banned muted)
  document := editBannedDocument 1 2 mediaOnly
  data :=
    { chat := ⟨some 1, none⟩
      user := ⟨some 2, none⟩
      rights :=
        ⟨false, false, true, false, false, false, false, false, false, false, false, false, false,
          false, false, false, false, false, false, false, false, false, false, 0⟩
      loadCurrent := true }
  channel := ⟨1, .channel⟩
  user := ⟨2, .user⟩
  participant := .banned muted
  current := muted
  accepted := rfl
  loads := rfl
  channelFound := rfl
  userFound := rfl
  isChannel := rfl
  answered := rfl
  held := rfl

/-- An administrator who may change the profile of the channel. -/
def profileEditor : ChatAdminRights :=
  ⟨true, false, false, false, false, false, false, false, false, false, false, false, false, false,
    false, false, false, false, false⟩

/-- A request of the facade to let messages be pinned. -/
def pinOnly : ChatPermissions :=
  ⟨false, false, false, false, false, false, true, false, false, false⟩

def pinGrant : AdminEdit where
  resolvePeer target := .ok (if target.peerHandle = some 1 then ⟨1, .channel⟩ else ⟨2, .user⟩)
  getParticipant _ _ := .ok (.admin profileEditor)
  document := editAdminDocument 1 2 pinOnly none
  data :=
    { chat := ⟨some 1, none⟩
      user := ⟨some 2, none⟩
      rights :=
        ⟨false, false, false, false, false, false, true, false, false, false, false, false, false,
          false, false, false, false, false, false⟩
      rank := none
      loadCurrent := true }
  channel := ⟨1, .channel⟩
  user := ⟨2, .user⟩
  participant := .admin profileEditor
  current := profileEditor
  accepted := rfl
  loads := rfl
  channelFound := rfl
  userFound := rfl
  isChannel := rfl
  answered := rfl
  held := rfl

theorem muted_participant_unmuted :
    mediaBan.current.denies .sendMessages = true ∧
      carriedFlag (rightsDocument mediaBan.document) BannedRight.sendMessages.wire = none ∧
      (∃ written : ChatBannedRights,
        setBannedRights mediaBan.resolvePeer mediaBan.getParticipant mediaBan.document =
            .ok (.editBanned mediaBan.channel mediaBan.user written) ∧
          written.denies .sendMessages = false) ∧
      ¬ mediaBan.Incremental := by
  refine ⟨rfl, rfl, ⟨_, mediaBan.call_eq, rfl⟩, fun incremental => ?_⟩
  have listed := mediaBan.incremental_iff.mp incremental
  have cleared := listed.flags .sendMessages rfl
  cases cleared

theorem incremental_iff_listed_mediaBan :
    (mediaBan.Incremental ↔
      (∀ right, mediaBan.current.denies right = true → mediaOnly.denies right = true) ∧
        (mediaOnly.untilDate = 0 → mediaBan.current.untilDate = 0)) ∧
    (pinGrant.Incremental ↔
      ∀ right, pinGrant.current.grants right = true → pinOnly.grants right = true) :=
  ⟨(incremental_iff_listed mediaBan pinGrant).2.2.1 1 2 mediaOnly rfl,
    (incremental_iff_listed mediaBan pinGrant).2.2.2 1 2 pinOnly none rfl⟩

end Kotlogramme.Chats
