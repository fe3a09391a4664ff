/-
Sending chosen inline results, any number at once.

A send draws a random id, hands its request to Telegram and looks in the updates it
is answered for the message that was made under that id.  The id is drawn in the two
steps of the generated ids, which other calls use as well.  Telegram makes a message
of a request or keeps it for later; what its updates say of a random id is true of
some message, though not always of the one that is being waited for.
-/

import Kotlogramme.Client.Peers
import Kotlogramme.Messages.GeneratedIds
import Kotlogramme.Protocol.RequestDates

namespace Kotlogramme.Messages
namespace InlineSends

open Protocol GeneratedIds

structure SendInlineBotResultPayload where
  peer : PeerTarget
  queryId : Int
  resultId : String
  silent : Bool
  background : Bool
  clearDraft : Bool
  hideVia : Bool
  replyToMessageId : Option Int
  scheduleDate : Option Int

/-- The layer's request; a reply names its message and nothing more. -/
structure SendInlineBotResult where
  silent : Bool
  background : Bool
  clearDraft : Bool
  hideVia : Bool
  peer : InputPeer
  replyTo : Option Int
  randomId : BitVec 64
  queryId : Int
  id : String
  scheduleDate : Option Int
  deriving DecidableEq

inductive Update
  | messageId (id : Int) (randomId : BitVec 64)
  | other
  deriving DecidableEq

/-- The layer's `Updates`. -/
inductive Updates
  | tooLong
  | shortMessage
  | shortChatMessage
  | short
  | combined (updates : List Update)
  | updates (updates : List Update)
  | shortSentMessage (id : Int)

/-- `made` is the request a message was made of, if it was made of one. -/
structure Message (χ : Type) where
  chat : χ
  id : Int
  made : Option SendInlineBotResult
  deriving DecidableEq

structure SentInlineResultDto (χ : Type) where
  ok : Bool
  message : Option (Message χ)
  deriving DecidableEq

variable {ρ χ : Type}

def sendRequest (inputPeer : ρ → InputPeer) (data : SendInlineBotResultPayload) (peer : ρ)
    (randomId : BitVec 64) : Except String SendInlineBotResult := do
  if data.resultId.isEmpty then .error "an inline result id must not be empty"
  else do
    let scheduleDate ← data.scheduleDate.mapM scheduleSeconds
    return {
      silent := data.silent
      background := data.background
      clearDraft := data.clearDraft
      hideVia := data.hideVia
      peer := inputPeer peer
      replyTo := data.replyToMessageId
      randomId
      queryId := data.queryId
      id := data.resultId
      scheduleDate }

def Updates.matched : Updates → Option (List Update)
  | .updates bundle => some bundle
  | .combined bundle => some bundle
  | _ => none

def namedFor (randomId : BitVec 64) : List Update → Option Int
  | [] => none
  | .messageId id drawn :: rest => if drawn = randomId then some id else namedFor randomId rest
  | .other :: rest => namedFor randomId rest

def sentMessageId (updates : Updates) (randomId : BitVec 64) : Option Int :=
  updates.matched.bind (namedFor randomId)

/-! ### Calls -/

/-- How far a call has come; the last stage has the request it made, if it made one. -/
inductive Stage (χ : Type)
  | counted
  | invoking (request : SendInlineBotResult)
  | waiting (request : SendInlineBotResult)
  | looking (request : SendInlineBotResult) (id : Int)
  | done (request : Option SendInlineBotResult)
      (answer : Except String (SentInlineResultDto χ))

/-- `place` is the one of the generated id, `peer` what the target was resolved to. -/
structure Call (ρ χ : Type) where
  data : SendInlineBotResultPayload
  peer : ρ
  place : Nat
  stage : Stage χ

structure State (ρ χ : Type) where
  process : Process
  calls : List (Call ρ χ)
  received : List SendInlineBotResult
  messages : List (Message χ)

/-- `post` is a message that is not made of one of these requests, and the last three
are the steps of other calls and of the clock. -/
inductive Action (ρ χ : Type)
  | start (data : SendInlineBotResultPayload) (peer : ρ)
  | number (index : Nat)
  | receive (index : Nat) (made : Option Int)
  | refuse (index : Nat) (error : String)
  | reply (index : Nat) (updates : Updates)
  | look (index : Nat) (answer : Except String (List (Option (Message χ))))
  | post (chat : χ) (id : Int)
  | otherCounter
  | otherClock (place : Nat)
  | pass (nanoseconds : Nat)

def State.advance (state : State ρ χ) (index : Nat) (call : Call ρ χ) (stage : Stage χ) :
    State ρ χ :=
  { state with calls := state.calls.set index { call with stage } }

def numbered (inputPeer : ρ → InputPeer) (call : Call ρ χ) (randomId : BitVec 64) : Stage χ :=
  match sendRequest inputPeer call.data call.peer randomId with
  | .ok request => .invoking request
  | .error refusal => .done none (.error refusal)

def replied (request : SendInlineBotResult) (updates : Updates) : Stage χ :=
  match sentMessageId updates request.randomId with
  | some id => .looking request id
  | none => .done (some request) (.ok ⟨true, none⟩)

/-- The first message that the answer to a lookup has, if it has any. -/
def found : Except String (List (Option (Message χ))) → Except String (SentInlineResultDto χ)
  | .ok messages => .ok ⟨true, messages.reduceOption.head?⟩
  | .error error => .error error

/-! ### What Telegram answers -/

def Free (messages : List (Message χ)) (chat : χ) (id : Int) : Prop :=
  ∀ message ∈ messages, ¬ (message.chat = chat ∧ message.id = id)

/-- A message was made under the random id and has the id. -/
def MadeUnder (messages : List (Message χ)) (randomId : BitVec 64) (id : Int) : Prop :=
  ∃ message ∈ messages, message.id = id ∧
    ∃ request ∈ message.made, request.randomId = randomId

def Update.Truthful (messages : List (Message χ)) : Update → Prop
  | .messageId id randomId => MadeUnder messages randomId id
  | .other => True

def Updates.Truthful (messages : List (Message χ)) (updates : Updates) : Prop :=
  ∀ bundle ∈ updates.matched, ∀ update ∈ bundle, update.Truthful messages

/-- A lookup answers messages of the chat that have the id. -/
def Holds (messages : List (Message χ)) (chat : χ) (id : Int)
    (answer : Except String (List (Option (Message χ)))) : Prop :=
  ∀ listed ∈ answer.toOption, ∀ message ∈ listed.reduceOption,
    message ∈ messages ∧ message.chat = chat ∧ message.id = id

section Decidable

variable [DecidableEq χ]

instance (messages : List (Message χ)) (chat : χ) (id : Int) :
    Decidable (Free messages chat id) :=
  inferInstanceAs (Decidable (∀ message ∈ messages, _))

instance (messages : List (Message χ)) (randomId : BitVec 64) (id : Int) :
    Decidable (MadeUnder messages randomId id) :=
  inferInstanceAs (Decidable (∃ message ∈ messages, _))

instance (messages : List (Message χ)) : (update : Update) →
    Decidable (update.Truthful messages)
  | .messageId id randomId => inferInstanceAs (Decidable (MadeUnder messages randomId id))
  | .other => .isTrue trivial

instance (messages : List (Message χ)) (updates : Updates) :
    Decidable (updates.Truthful messages) :=
  inferInstanceAs (Decidable (∀ bundle ∈ updates.matched, _))

instance (messages : List (Message χ)) (chat : χ) (id : Int)
    (answer : Except String (List (Option (Message χ)))) :
    Decidable (Holds messages chat id answer) :=
  inferInstanceAs (Decidable (∀ listed ∈ answer.toOption, _))

end Decidable

/-! ### Steps -/

section Steps

variable [DecidableEq χ] (inputPeer : ρ → InputPeer) (chatOf : InputPeer → χ)

def step (state : State ρ χ) : Action ρ χ → Option (State ρ χ)
  | .start data peer => some {
      state with
      process := state.process.takeCounter
      calls := state.calls ++ [⟨data, peer, state.process.calls.length, .counted⟩] }
  | .number index => do
      let call ← state.calls[index]?
      match call.stage, state.process.calls[call.place]? with
      | .counted, some (.tookCounter counter) =>
          let randomId := now state.process.clock + counter
          some {
            state.advance index call (numbered inputPeer call randomId) with
            process := state.process.readClock call.place counter }
      | _, _ => none
  | .receive index made => do
      let call ← state.calls[index]?
      match call.stage with
      | .invoking request =>
          if ∀ id ∈ made, Free state.messages (chatOf request.peer) id then
            some {
              state.advance index call (.waiting request) with
              received := state.received ++ [request]
              messages := state.messages ++
                made.toList.map fun id => ⟨chatOf request.peer, id, some request⟩ }
          else none
      | _ => none
  | .refuse index error => do
      let call ← state.calls[index]?
      match call.stage with
      | .invoking request => some (state.advance index call (.done (some request) (.error error)))
      | .waiting request => some (state.advance index call (.done (some request) (.error error)))
      | _ => none
  | .reply index updates => do
      let call ← state.calls[index]?
      match call.stage with
      | .waiting request =>
          if updates.Truthful state.messages then
            some (state.advance index call (replied request updates))
          else none
      | _ => none
  | .look index answer => do
      let call ← state.calls[index]?
      match call.stage with
      | .looking request id =>
          if Holds state.messages (chatOf request.peer) id answer then
            some (state.advance index call (.done (some request) (found answer)))
          else none
      | _ => none
  | .post chat id =>
      if Free state.messages chat id then
        some { state with messages := state.messages ++ [⟨chat, id, none⟩] }
      else none
  | .otherCounter => some { state with process := state.process.takeCounter }
  | .otherClock place =>
      match state.process.calls[place]? with
      | some (.tookCounter counter) =>
          if ∀ call ∈ state.calls, call.place ≠ place then
            some { state with process := state.process.readClock place counter }
          else none
      | _ => none
  | .pass nanoseconds => some {
      state with process := { state.process with clock := state.process.clock + nanoseconds } }

def system (clock : Int) : System (State ρ χ) (Action ρ χ) :=
  ⟨⟨⟨clock, 0, []⟩, [], [], []⟩, step inputPeer chatOf⟩

end Steps

instance (place : Nat) (clock : Int) (other : Nat) (earlier : Int) :
    Decidable (MakesUp place clock other earlier) :=
  inferInstanceAs (Decidable (_ ∨ _))

/-- A call that returned is not made up for by one at `place`. -/
def Ahead (place : Nat) (clock : Int) (other : Nat) : GeneratedIds.Call → Prop
  | .tookCounter _ => True
  | .returned earlier _ => ¬ MakesUp place clock other earlier

instance (place : Nat) (clock : Int) (other : Nat) :
    (call : GeneratedIds.Call) → Decidable (Ahead place clock other call)
  | .tookCounter _ => .isTrue trivial
  | .returned earlier _ => inferInstanceAs (Decidable (¬ MakesUp place clock other earlier))

theorem inTime_readClock_iff (process : Process) (place : Nat) :
    GeneratedIds.InTime process (.readClock place) ↔
      ∀ other < process.calls.length, ∀ call ∈ process.calls[other]?,
        Ahead place process.clock other call := by
  constructor
  · intro inTime other _ call listed
    cases call with
    | tookCounter counter => trivial
    | returned earlier value => exact inTime other earlier value listed
  · intro ahead other earlier value answered
    have within := (List.getElem?_eq_some_iff.mp answered).1
    exact ahead other within (.returned earlier value) answered

instance (process : Process) : (action : GeneratedIds.Action) →
    Decidable (GeneratedIds.InTime process action)
  | .takeCounter => .isTrue trivial
  | .pass _ => .isTrue trivial
  | .readClock place => decidable_of_iff _ (inTime_readClock_iff process place).symm

/-- No clock is read so late that the sum makes up for a later counter. -/
def InTime (state : State ρ χ) : Action ρ χ → Prop
  | .number index => ∀ call ∈ state.calls[index]?,
      GeneratedIds.InTime state.process (.readClock call.place)
  | .otherClock place => GeneratedIds.InTime state.process (.readClock place)
  | _ => True

instance (state : State ρ χ) : (action : Action ρ χ) → Decidable (InTime state action)
  | .number index => inferInstanceAs (Decidable (∀ call ∈ state.calls[index]?, _))
  | .otherClock place =>
      inferInstanceAs (Decidable (GeneratedIds.InTime state.process (.readClock place)))
  | .start _ _ => .isTrue trivial
  | .receive _ _ => .isTrue trivial
  | .refuse _ _ => .isTrue trivial
  | .reply _ _ => .isTrue trivial
  | .look _ _ => .isTrue trivial
  | .post _ _ => .isTrue trivial
  | .otherCounter => .isTrue trivial
  | .pass _ => .isTrue trivial

/-! ### The invariant -/

/-- The request a call has made. -/
def Stage.request? : Stage χ → Option SendInlineBotResult
  | .counted => none
  | .invoking request => some request
  | .waiting request => some request
  | .looking request _ => some request
  | .done request _ => request

/-- The request that a call no longer waits to hand over. -/
def Stage.sent : Stage χ → Option SendInlineBotResult
  | .counted => none
  | .invoking _ => none
  | .waiting request => some request
  | .looking request _ => some request
  | .done request _ => request

section Invariant

variable {inputPeer : ρ → InputPeer} {chatOf : InputPeer → χ}

structure CallKept (inputPeer : ρ → InputPeer) (process : Process) (messages : List (Message χ))
    (call : Call ρ χ) : Prop where
  counted : call.stage = .counted →
    ∃ counter, process.calls[call.place]? = some (.tookCounter counter)
  drawn : call.stage ≠ .counted → ∃ clock value, process.Answered call.place clock value
  request : ∀ request, call.stage.request? = some request →
    (∃ clock, process.Answered call.place clock request.randomId) ∧
      sendRequest inputPeer call.data call.peer request.randomId = .ok request
  looking : ∀ request id, call.stage = .looking request id →
    MadeUnder messages request.randomId id
  answered : ∀ request ok message, call.stage = .done request (.ok ⟨ok, some message⟩) →
    message ∈ messages ∧ message.made = request ∧ request.isSome

structure Kept (inputPeer : ρ → InputPeer) (chatOf : InputPeer → χ) (state : State ρ χ) :
    Prop where
  recorded : Recorded state.process
  unrepeated : state.process.Unrepeated
  calls : ∀ (index : Nat) (call : Call ρ χ), state.calls[index]? = some call →
    CallKept inputPeer state.process state.messages call
  places : (state.calls.map Call.place).Nodup
  received : ∀ request ∈ state.received, ∃ (index : Nat) (call : Call ρ χ),
    state.calls[index]? = some call ∧ call.stage.sent = some request
  distinct : (state.received.map SendInlineBotResult.randomId).Nodup
  made : ∀ message ∈ state.messages, ∀ request ∈ message.made,
    request ∈ state.received ∧ message.chat = chatOf request.peer
  ids : ∀ first ∈ state.messages, ∀ second ∈ state.messages,
    first.chat = second.chat → first.id = second.id → first = second
  single : ∀ first ∈ state.messages, ∀ second ∈ state.messages, ∀ request ∈ first.made,
    second.made = some request → first = second

theorem Stage.request?_of_sent {stage : Stage χ} {request : SendInlineBotResult}
    (sent : stage.sent = some request) : stage.request? = some request := by
  cases stage with
  | counted => cases sent
  | invoking made => cases sent
  | waiting made => exact sent
  | looking made id => exact sent
  | done made answer => exact sent

/-- A call outlives the steps of others, which leave its place and every message. -/
theorem CallKept.mono {before after : Process} {messages more : List (Message χ)}
    {call : Call ρ χ} (kept : CallKept inputPeer before messages call)
    (still : ∀ entry, before.calls[call.place]? = some entry →
      after.calls[call.place]? = some entry)
    (grown : messages ⊆ more) : CallKept inputPeer after more call where
  counted fresh := by
    obtain ⟨counter, taken⟩ := kept.counted fresh
    exact ⟨counter, still _ taken⟩
  drawn past := by
    obtain ⟨clock, value, answered⟩ := kept.drawn past
    exact ⟨clock, value, still _ answered⟩
  request request made := by
    obtain ⟨⟨clock, answered⟩, built⟩ := kept.request request made
    exact ⟨⟨clock, still _ answered⟩, built⟩
  looking request id looks := by
    obtain ⟨message, member, rest⟩ := kept.looking request id looks
    exact ⟨message, grown member, rest⟩
  answered request ok message answers := by
    obtain ⟨member, rest⟩ := kept.answered request ok message answers
    exact ⟨grown member, rest⟩

theorem sendRequest_randomId {data : SendInlineBotResultPayload} {peer : ρ}
    {randomId : BitVec 64} {request : SendInlineBotResult}
    (built : sendRequest inputPeer data peer randomId = .ok request) :
    request.randomId = randomId := by
  unfold sendRequest at built
  split at built
  · cases built
  · obtain ⟨scheduleDate, -, done⟩ := bind_eq_ok.mp built
    cases done
    rfl

section Moves

variable {state : State ρ χ} {index : Nat} {call : Call ρ χ} {stage : Stage χ}

theorem Kept.same_call (kept : Kept inputPeer chatOf state) {other : Nat} {second : Call ρ χ}
    (here : state.calls[index]? = some call) (there : state.calls[other]? = some second)
    (same : call.place = second.place) : index = other := by
  obtain ⟨within, isCall⟩ := List.getElem?_eq_some_iff.mp here
  obtain ⟨withinToo, isSecond⟩ := List.getElem?_eq_some_iff.mp there
  have first : (state.calls.map Call.place)[index]? = some call.place := by
    rw [List.getElem?_map, here]
    rfl
  have later : (state.calls.map Call.place)[other]? = some call.place := by
    rw [List.getElem?_map, there, same]
    rfl
  rw [← later] at first
  exact (List.getElem?_inj (by simpa using within) kept.places).mp first

/-- What Telegram received under the id of a call is the request of that call. -/
theorem Kept.own_request (kept : Kept inputPeer chatOf state)
    (here : state.calls[index]? = some call) {request other : SendInlineBotResult}
    (made : call.stage.request? = some request) (member : other ∈ state.received)
    (same : other.randomId = request.randomId) : call.stage.sent = some other := by
  obtain ⟨place, owner, held, sent⟩ := kept.received other member
  obtain ⟨⟨clock, mine⟩, -⟩ := (kept.calls index call here).request request made
  obtain ⟨⟨earlier, theirs⟩, -⟩ :=
    (kept.calls place owner held).request other (Stage.request?_of_sent sent)
  by_cases apart : call.place = owner.place
  · obtain rfl := kept.same_call here held apart
    rw [here] at held
    cases held
    exact sent
  · exact absurd same.symm (kept.unrepeated _ _ _ _ _ _ apart mine theirs).1

theorem places_set (here : state.calls[index]? = some call) :
    (state.advance index call stage).calls.map Call.place = state.calls.map Call.place := by
  obtain ⟨within, isCall⟩ := List.getElem?_eq_some_iff.mp here
  have bound : index < (state.calls.map Call.place).length := by simpa using within
  have same : call.place = (state.calls.map Call.place)[index] := by
    rw [List.getElem_map, isCall]
  rw [State.advance, List.map_set]
  exact same ▸ List.set_getElem_self _

theorem sent_set (here : state.calls[index]? = some call)
    (still : ∀ request, call.stage.sent = some request → stage.sent = some request)
    {request : SendInlineBotResult}
    (owned : ∃ (other : Nat) (owner : Call ρ χ), state.calls[other]? = some owner ∧ owner.stage.sent = some request) :
    ∃ (other : Nat) (owner : Call ρ χ), (state.advance index call stage).calls[other]? = some owner ∧
      owner.stage.sent = some request := by
  obtain ⟨other, owner, held, sent⟩ := owned
  by_cases same : other = index
  · subst same
    rw [here] at held
    cases held
    exact ⟨other, { call with stage }, Places.found_set_self here _, still request sent⟩
  · exact ⟨other, owner, Places.found_set_of_ne held same _, sent⟩

/-- A call alone moves on. -/
theorem Kept.advance (kept : Kept inputPeer chatOf state)
    (here : state.calls[index]? = some call)
    (own : CallKept inputPeer state.process state.messages { call with stage })
    (still : ∀ request, call.stage.sent = some request → stage.sent = some request) :
    Kept inputPeer chatOf (state.advance index call stage) where
  recorded := kept.recorded
  unrepeated := kept.unrepeated
  calls other held listed := by
    rcases Places.set_cases listed with ⟨-, rfl⟩ | ⟨-, before⟩
    · exact own
    · exact kept.calls other held before
  places := by
    rw [places_set here]
    exact kept.places
  received request member := sent_set here still (kept.received request member)
  distinct := kept.distinct
  made := kept.made
  ids := kept.ids
  single := kept.single

/-- Another message is made, of the request a call hands over or of none. -/
theorem ids_append {messages : List (Message χ)} {chat : χ} {id : Int}
    {made : Option SendInlineBotResult} (free : Free messages chat id)
    (ids : ∀ first ∈ messages, ∀ second ∈ messages,
      first.chat = second.chat → first.id = second.id → first = second) :
    ∀ first ∈ messages ++ [⟨chat, id, made⟩], ∀ second ∈ messages ++ [⟨chat, id, made⟩],
      first.chat = second.chat → first.id = second.id → first = second := by
  intro first member second other sameChat sameId
  rcases List.mem_append.mp member with here | new
  · rcases List.mem_append.mp other with there | newToo
    · exact ids first here second there sameChat sameId
    · rw [List.mem_singleton.mp newToo] at sameChat sameId
      exact absurd ⟨sameChat, sameId⟩ (free first here)
  · rw [List.mem_singleton.mp new] at sameChat sameId ⊢
    rcases List.mem_append.mp other with there | newToo
    · exact absurd ⟨sameChat.symm, sameId.symm⟩ (free second there)
    · exact (List.mem_singleton.mp newToo).symm

theorem Kept.post (kept : Kept inputPeer chatOf state) {chat : χ} {id : Int}
    (free : Free state.messages chat id) :
    Kept inputPeer chatOf
      { state with messages := state.messages ++ [⟨chat, id, none⟩] } where
  recorded := kept.recorded
  unrepeated := kept.unrepeated
  calls other held listed :=
    (kept.calls other held listed).mono (fun _ entry => entry) (List.subset_append_left _ _)
  places := kept.places
  received := kept.received
  distinct := kept.distinct
  made message member request made := by
    rcases List.mem_append.mp member with before | new
    · exact kept.made message before request made
    · rw [List.mem_singleton.mp new] at made
      cases made
  ids := ids_append free kept.ids
  single first member second other request made sameMade := by
    rcases List.mem_append.mp member with here | new
    · rcases List.mem_append.mp other with there | newToo
      · exact kept.single first here second there request made sameMade
      · rw [List.mem_singleton.mp newToo] at sameMade
        cases sameMade
    · rw [List.mem_singleton.mp new] at made
      cases made

/-- Telegram takes a request it has not seen, and makes a message of it or none. -/
theorem Kept.receive (kept : Kept inputPeer chatOf state)
    (here : state.calls[index]? = some call) {request : SendInlineBotResult}
    (invoking : call.stage = .invoking request) {made : Option Int}
    (free : ∀ id ∈ made, Free state.messages (chatOf request.peer) id) :
    Kept inputPeer chatOf {
      state.advance index call (.waiting request) with
      received := state.received ++ [request]
      messages := state.messages ++
        made.toList.map fun id => ⟨chatOf request.peer, id, some request⟩ } := by
  have mine := kept.calls index call here
  have own : call.stage.request? = some request := by rw [invoking]; rfl
  have moved : CallKept inputPeer state.process state.messages
      { call with stage := .waiting request } := {
    counted := by
      intro fresh
      cases fresh
    drawn := fun _ => mine.drawn (by rw [invoking]; nofun)
    request := fun other same => mine.request other (own.trans same)
    looking := by
      intro other id looks
      cases looks
    answered := by
      intro other ok message answers
      cases answers }
  have advanced := kept.advance here moved (by rw [invoking]; nofun)
  have unseen : request.randomId ∉ state.received.map SendInlineBotResult.randomId := by
    intro seen
    obtain ⟨other, member, same⟩ := List.mem_map.mp seen
    have sent := kept.own_request here own member same
    rw [invoking] at sent
    cases sent
  exact {
    recorded := kept.recorded
    unrepeated := kept.unrepeated
    calls := fun other held listed =>
      (advanced.calls other held listed).mono (fun _ entry => entry) (List.subset_append_left _ _)
    places := advanced.places
    received := by
      intro other member
      rcases List.mem_append.mp member with before | new
      · exact advanced.received other before
      · rw [List.mem_singleton.mp new]
        exact ⟨index, _, Places.found_set_self here _, rfl⟩
    distinct := by
      rw [List.map_append, List.map_singleton]
      exact List.nodup_append.mpr ⟨kept.distinct, List.nodup_singleton _, by
        intro value before last new same
        rw [List.mem_singleton.mp new] at same
        exact unseen (same ▸ before)⟩
    made := by
      intro message member other isMade
      rcases List.mem_append.mp member with before | new
      · obtain ⟨known, chat⟩ := kept.made message before other isMade
        exact ⟨List.mem_append_left _ known, chat⟩
      · obtain ⟨id, -, rfl⟩ := List.mem_map.mp new
        cases isMade
        exact ⟨List.mem_append_right _ (List.mem_singleton_self _), rfl⟩
    ids := by
      cases made with
      | none => simpa using kept.ids
      | some id => exact ids_append (free id rfl) kept.ids
    single := by
      have unmade : ∀ message ∈ state.messages, message.made ≠ some request := by
        intro message member isMade
        exact unseen (List.mem_map_of_mem (kept.made message member request isMade).1)
      intro first member second other asked isMade sameMade
      rcases List.mem_append.mp member with before | new
      · rcases List.mem_append.mp other with there | newToo
        · exact kept.single first before second there asked isMade sameMade
        · obtain ⟨id, -, rfl⟩ := List.mem_map.mp newToo
          cases sameMade
          exact absurd isMade (unmade first before)
      · obtain ⟨id, idMade, rfl⟩ := List.mem_map.mp new
        cases isMade
        rcases List.mem_append.mp other with there | newToo
        · exact absurd sameMade (unmade second there)
        · obtain ⟨last, lastMade, rfl⟩ := List.mem_map.mp newToo
          rw [Option.mem_unique (Option.mem_toList.mp idMade) (Option.mem_toList.mp lastMade)] }

/-- The process moves on and leaves the places of the calls as they are. -/
theorem Kept.process (kept : Kept inputPeer chatOf state) {process : Process}
    (recorded : Recorded process) (unrepeated : process.Unrepeated)
    (still : ∀ (index : Nat) (call : Call ρ χ), state.calls[index]? = some call → ∀ entry,
      state.process.calls[call.place]? = some entry → process.calls[call.place]? = some entry) :
    Kept inputPeer chatOf { state with process } where
  recorded := recorded
  unrepeated := unrepeated
  calls other held listed :=
    (kept.calls other held listed).mono (still other held listed) (List.Subset.refl _)
  places := kept.places
  received := kept.received
  distinct := kept.distinct
  made := kept.made
  ids := kept.ids
  single := kept.single

theorem Kept.takeCounter (kept : Kept inputPeer chatOf state) :
    Kept inputPeer chatOf { state with process := state.process.takeCounter } :=
  kept.process kept.recorded.takeCounter (takeCounter_unrepeated kept.unrepeated)
    fun _ _ _ _ entry => Places.found_append entry _

theorem CallKept.place_lt {process : Process} {messages : List (Message χ)}
    (kept : CallKept inputPeer process messages call) : call.place < process.calls.length := by
  by_cases fresh : call.stage = .counted
  · obtain ⟨counter, taken⟩ := kept.counted fresh
    exact (List.getElem?_eq_some_iff.mp taken).1
  · obtain ⟨clock, value, answered⟩ := kept.drawn fresh
    exact (List.getElem?_eq_some_iff.mp answered).1

theorem Kept.start (kept : Kept inputPeer chatOf state) (data : SendInlineBotResultPayload)
    (peer : ρ) :
    Kept inputPeer chatOf {
      state with
      process := state.process.takeCounter
      calls := state.calls ++ [⟨data, peer, state.process.calls.length, .counted⟩] } := by
  have taken := kept.takeCounter
  exact {
    recorded := taken.recorded
    unrepeated := taken.unrepeated
    calls := by
      intro other held listed
      rcases Places.concat_cases listed with before | ⟨-, rfl⟩
      · exact taken.calls other held before
      · exact {
          counted := fun _ => ⟨state.process.next, List.getElem?_concat_length⟩
          drawn := fun past => absurd rfl past
          request := by
            intro request made
            cases made
          looking := by
            intro request id looks
            cases looks
          answered := by
            intro request ok message answers
            cases answers }
    places := by
      rw [List.map_append, List.map_singleton]
      refine List.nodup_append.mpr ⟨kept.places, List.nodup_singleton _, ?_⟩
      intro place before last new same
      obtain ⟨earlier, member, rfl⟩ := List.mem_map.mp before
      obtain ⟨other, listed⟩ := List.getElem?_of_mem member
      have within := (kept.calls other earlier listed).place_lt
      rw [same, List.mem_singleton.mp new] at within
      exact absurd within (Nat.lt_irrefl _)
    received := by
      intro request member
      obtain ⟨other, owner, listed, sent⟩ := kept.received request member
      exact ⟨other, owner, Places.found_append listed _, sent⟩
    distinct := kept.distinct
    made := kept.made
    ids := kept.ids
    single := kept.single }

theorem Kept.readClock (kept : Kept inputPeer chatOf state) {place : Nat} {counter : BitVec 64}
    (taken : state.process.calls[place]? = some (.tookCounter counter))
    (inTime : GeneratedIds.InTime state.process (.readClock place)) :
    Recorded (state.process.readClock place counter) ∧
      (state.process.readClock place counter).Unrepeated :=
  ⟨kept.recorded.readClock taken,
    (readClock_unrepeated_iff kept.recorded kept.unrepeated taken).mpr inTime⟩

theorem Kept.otherClock (kept : Kept inputPeer chatOf state) {place : Nat} {counter : BitVec 64}
    (taken : state.process.calls[place]? = some (.tookCounter counter))
    (inTime : GeneratedIds.InTime state.process (.readClock place))
    (others : ∀ call ∈ state.calls, call.place ≠ place) :
    Kept inputPeer chatOf { state with process := state.process.readClock place counter } := by
  obtain ⟨recorded, unrepeated⟩ := kept.readClock taken inTime
  apply kept.process recorded unrepeated
  intro index call listed entry there
  exact Places.found_set_of_ne there (others call (List.mem_of_getElem? listed)) _

/-- The call reads its clock, and is numbered or refused. -/
theorem Kept.number (kept : Kept inputPeer chatOf state)
    (here : state.calls[index]? = some call) (fresh : call.stage = .counted)
    {counter : BitVec 64} (taken : state.process.calls[call.place]? = some (.tookCounter counter))
    (inTime : GeneratedIds.InTime state.process (.readClock call.place)) :
    Kept inputPeer chatOf {
      state.advance index call (numbered inputPeer call (now state.process.clock + counter)) with
      process := state.process.readClock call.place counter } := by
  obtain ⟨recorded, unrepeated⟩ := kept.readClock taken inTime
  have answered := answered_readClock_self taken
  have still : ∀ request, call.stage.sent = some request →
      (numbered inputPeer call (now state.process.clock + counter)).sent = some request := by
    rw [fresh]
    nofun
  exact {
    recorded := recorded
    unrepeated := unrepeated
    calls := by
      intro other held listed
      rcases Places.set_cases listed with ⟨-, rfl⟩ | ⟨apart, before⟩
      · unfold numbered
        cases built : sendRequest inputPeer call.data call.peer
            (now state.process.clock + counter) with
        | ok request =>
            have drew : request.randomId = now state.process.clock + counter :=
              sendRequest_randomId built
            exact {
              counted := by
                intro later
                cases later
              drawn := fun _ => ⟨_, _, answered⟩
              request := by
                intro other same
                cases same
                rw [drew]
                exact ⟨⟨_, answered⟩, built⟩
              looking := by
                intro other id looks
                cases looks
              answered := by
                intro other ok message answers
                cases answers }
        | error refusal =>
            exact {
              counted := by
                intro later
                cases later
              drawn := fun _ => ⟨_, _, answered⟩
              request := by
                intro other same
                cases same
              looking := by
                intro other id looks
                cases looks
              answered := by
                intro other ok message answers
                cases answers }
      · refine (kept.calls other held before).mono ?_ (List.Subset.refl _)
        intro entry there
        refine Places.found_set_of_ne there ?_ _
        intro same
        exact apart (kept.same_call before here same)
    places := by
      rw [places_set here]
      exact kept.places
    received := fun request member => sent_set here still (kept.received request member)
    distinct := kept.distinct
    made := kept.made
    ids := kept.ids
    single := kept.single }

theorem Kept.refuse (kept : Kept inputPeer chatOf state)
    (here : state.calls[index]? = some call) {request : SendInlineBotResult}
    (made : call.stage.request? = some request) (past : call.stage ≠ .counted) (error : String) :
    Kept inputPeer chatOf (state.advance index call (.done (some request) (.error error))) := by
  have mine := kept.calls index call here
  have moved : CallKept inputPeer state.process state.messages
      { call with stage := .done (some request) (.error error) } := {
    counted := by
      intro fresh
      cases fresh
    drawn := fun _ => mine.drawn past
    request := fun other same => mine.request other (made.trans same)
    looking := by
      intro other id looks
      cases looks
    answered := by
      intro other ok message answers
      cases answers }
  apply kept.advance here moved
  intro other sent
  exact made.symm.trans (Stage.request?_of_sent sent)

theorem mem_of_namedFor {randomId : BitVec 64} {id : Int} {bundle : List Update}
    (named : namedFor randomId bundle = some id) : .messageId id randomId ∈ bundle := by
  induction bundle with
  | nil => cases named
  | cons update rest ih =>
      cases update with
      | other => exact List.mem_cons_of_mem _ (ih named)
      | messageId other drawn =>
          rw [namedFor] at named
          split at named
          · next same =>
              cases named
              rw [same]
              exact List.mem_cons_self
          · exact List.mem_cons_of_mem _ (ih named)

theorem Updates.Truthful.madeUnder {messages : List (Message χ)} {updates : Updates}
    (truthful : updates.Truthful messages) {randomId : BitVec 64} {id : Int}
    (named : sentMessageId updates randomId = some id) : MadeUnder messages randomId id := by
  obtain ⟨bundle, matched, inside⟩ := Option.bind_eq_some_iff.mp named
  exact truthful bundle matched _ (mem_of_namedFor inside)

theorem Kept.reply (kept : Kept inputPeer chatOf state)
    (here : state.calls[index]? = some call) {request : SendInlineBotResult}
    (waiting : call.stage = .waiting request) {updates : Updates}
    (truthful : updates.Truthful state.messages) :
    Kept inputPeer chatOf (state.advance index call (replied request updates)) := by
  have mine := kept.calls index call here
  have own : call.stage.request? = some request := by rw [waiting]; rfl
  have drawn := mine.drawn (by rw [waiting]; nofun)
  unfold replied
  cases named : sentMessageId updates request.randomId with
  | some id =>
      have moved : CallKept inputPeer state.process state.messages
          { call with stage := .looking request id } := {
        counted := by
          intro fresh
          cases fresh
        drawn := fun _ => drawn
        request := fun other same => mine.request other (own.trans same)
        looking := by
          intro other place looks
          cases looks
          exact truthful.madeUnder named
        answered := by
          intro other ok message answers
          cases answers }
      apply kept.advance here moved
      intro other sent
      exact own.symm.trans (Stage.request?_of_sent sent)
  | none =>
      have moved : CallKept inputPeer state.process state.messages
          { call with stage := .done (some request) (.ok ⟨true, none⟩) } := {
        counted := by
          intro fresh
          cases fresh
        drawn := fun _ => drawn
        request := fun other same => mine.request other (own.trans same)
        looking := by
          intro other place looks
          cases looks
        answered := by
          intro other ok message answers
          cases answers }
      apply kept.advance here moved
      intro other sent
      exact own.symm.trans (Stage.request?_of_sent sent)

/-- A lookup answers the message that was made of the request of the call. -/
theorem Kept.made_of_looking (kept : Kept inputPeer chatOf state)
    (here : state.calls[index]? = some call) {request : SendInlineBotResult} {id : Int}
    (looking : call.stage = .looking request id) {message : Message χ}
    (member : message ∈ state.messages) (chat : message.chat = chatOf request.peer)
    (same : message.id = id) : message.made = some request := by
  obtain ⟨named, known, sameId, other, made, drew⟩ :=
    (kept.calls index call here).looking request id looking
  obtain ⟨taken, itsChat⟩ := kept.made named known other made
  have sent := kept.own_request here (by rw [looking]; rfl) taken drew
  rw [looking] at sent
  cases sent
  have equal := kept.ids message member named known (chat.trans itsChat.symm)
    (same.trans sameId.symm)
  rw [equal]
  exact made

theorem Kept.look (kept : Kept inputPeer chatOf state)
    (here : state.calls[index]? = some call) {request : SendInlineBotResult} {id : Int}
    (looking : call.stage = .looking request id)
    {answer : Except String (List (Option (Message χ)))}
    (holds : Holds state.messages (chatOf request.peer) id answer) :
    Kept inputPeer chatOf (state.advance index call (.done (some request) (found answer))) := by
  have mine := kept.calls index call here
  have own : call.stage.request? = some request := by rw [looking]; rfl
  have moved : CallKept inputPeer state.process state.messages
      { call with stage := .done (some request) (found answer) } := {
    counted := by
      intro fresh
      cases fresh
    drawn := fun _ => mine.drawn (by rw [looking]; nofun)
    request := fun other same => mine.request other (own.trans same)
    looking := by
      intro other place looks
      cases looks
    answered := by
      intro other ok message answers
      injection answers with sameRequest sameAnswer
      cases answer with
      | error refusal => cases sameAnswer
      | ok listed =>
          have head : listed.reduceOption.head? = some message :=
            congrArg SentInlineResultDto.message (Except.ok.inj sameAnswer)
          obtain ⟨member, chat, sameId⟩ :=
            holds listed rfl message (List.mem_of_mem_head? head)
          rw [← sameRequest]
          exact ⟨member, kept.made_of_looking here looking member chat sameId, rfl⟩ }
  apply kept.advance here moved
  intro other sent
  exact own.symm.trans (Stage.request?_of_sent sent)

end Moves

theorem kept_initial [DecidableEq χ] (clock : Int) :
    Kept inputPeer chatOf (system inputPeer chatOf clock).initial where
  recorded := recorded_initial clock
  unrepeated := unrepeated_initial clock
  calls index call listed := by cases listed
  places := List.nodup_nil
  received request member := by cases member
  distinct := List.nodup_nil
  made message member := by cases member
  ids message member := by cases member
  single message member := by cases member

theorem step_kept [DecidableEq χ] (before : State ρ χ) (action : Action ρ χ) (after : State ρ χ)
    (kept : Kept inputPeer chatOf before) (inTime : InTime before action)
    (stepped : step inputPeer chatOf before action = some after) :
    Kept inputPeer chatOf after := by
  cases action with
  | start data peer =>
      cases stepped
      exact kept.start data peer
  | number index =>
      obtain ⟨call, here, stepped⟩ := Option.bind_eq_some_iff.mp stepped
      split at stepped
      · next counter fresh taken =>
          cases stepped
          exact kept.number here fresh taken (inTime call here)
      · cases stepped
  | receive index made =>
      obtain ⟨call, here, stepped⟩ := Option.bind_eq_some_iff.mp stepped
      split at stepped
      · next request invoking =>
          split at stepped
          · next free =>
              cases stepped
              exact kept.receive here invoking free
          · cases stepped
      · cases stepped
  | refuse index error =>
      obtain ⟨call, here, stepped⟩ := Option.bind_eq_some_iff.mp stepped
      split at stepped
      · next request invoking =>
          cases stepped
          exact kept.refuse here (by rw [invoking]; rfl) (by rw [invoking]; nofun) error
      · next request waiting =>
          cases stepped
          exact kept.refuse here (by rw [waiting]; rfl) (by rw [waiting]; nofun) error
      · cases stepped
  | reply index updates =>
      obtain ⟨call, here, stepped⟩ := Option.bind_eq_some_iff.mp stepped
      split at stepped
      · next request waiting =>
          split at stepped
          · next truthful =>
              cases stepped
              exact kept.reply here waiting truthful
          · cases stepped
      · cases stepped
  | look index answer =>
      obtain ⟨call, here, stepped⟩ := Option.bind_eq_some_iff.mp stepped
      split at stepped
      · next request id looking =>
          split at stepped
          · next holds =>
              cases stepped
              exact kept.look here looking holds
          · cases stepped
      · cases stepped
  | post chat id =>
      rw [step] at stepped
      split at stepped
      · next free =>
          cases stepped
          exact kept.post free
      · cases stepped
  | otherCounter =>
      cases stepped
      exact kept.takeCounter
  | otherClock place =>
      rw [step] at stepped
      split at stepped
      · next counter taken =>
          split at stepped
          · next others =>
              cases stepped
              exact kept.otherClock taken inTime others
          · cases stepped
      · cases stepped
  | pass nanoseconds =>
      cases stepped
      exact kept.process (kept.recorded.pass nanoseconds) kept.unrepeated fun _ _ _ _ entry => entry

/-! ### Runs -/

/-- The message of an answer was made of the request the call itself built, no two
calls answer one message, no random id reaches Telegram twice, and a call that is told
of its message looks for that one. -/
structure EachItsOwn (inputPeer : ρ → InputPeer) (chatOf : InputPeer → χ) (state : State ρ χ) :
    Prop where
  message : ∀ (index : Nat) (call : Call ρ χ) request ok message,
    state.calls[index]? = some call → call.stage = .done request (.ok ⟨ok, some message⟩) →
      ∃ own, request = some own ∧
        sendRequest inputPeer call.data call.peer own.randomId = .ok own ∧
        message ∈ state.messages ∧ message.made = some own ∧ message.chat = chatOf own.peer
  apart : ∀ (first second : Nat) (call other : Call ρ χ) request ok message asked fine,
    state.calls[first]? = some call → state.calls[second]? = some other →
      call.stage = .done request (.ok ⟨ok, some message⟩) →
        other.stage = .done asked (.ok ⟨fine, some message⟩) → first = second
  received : ∀ request ∈ state.received, ∃ call ∈ state.calls,
    sendRequest inputPeer call.data call.peer request.randomId = .ok request
  once : (state.received.map SendInlineBotResult.randomId).Nodup
  told : ∀ request ∈ state.received, ∀ updates : Updates, updates.Truthful state.messages →
    ∀ bundle ∈ updates.matched, ∀ id, .messageId id request.randomId ∈ bundle →
      (replied request updates : Stage χ) = .looking request id

theorem namedFor_isSome {randomId : BitVec 64} {id : Int} {bundle : List Update}
    (member : .messageId id randomId ∈ bundle) : (namedFor randomId bundle).isSome := by
  induction bundle with
  | nil => cases member
  | cons update rest ih =>
      cases update with
      | other =>
          rcases List.mem_cons.mp member with same | later
          · cases same
          · exact ih later
      | messageId other drawn =>
          rw [namedFor]
          split
          · rfl
          · next apart =>
              rcases List.mem_cons.mp member with same | later
              · cases same
                exact absurd rfl apart
              · exact ih later

theorem Kept.made_unique {state : State ρ χ} (kept : Kept inputPeer chatOf state)
    {randomId : BitVec 64} {first second : Int} (here : MadeUnder state.messages randomId first)
    (there : MadeUnder state.messages randomId second) : first = second := by
  obtain ⟨message, member, rfl, request, made, drew⟩ := here
  obtain ⟨other, otherMember, rfl, asked, otherMade, drewToo⟩ := there
  have taken := (kept.made message member request made).1
  have takenToo := (kept.made other otherMember asked otherMade).1
  have same : request = asked :=
    List.inj_on_of_nodup_map kept.distinct taken takenToo (drew.trans drewToo.symm)
  subst same
  rw [kept.single message member other otherMember request made otherMade]

theorem Kept.eachItsOwn {state : State ρ χ} (kept : Kept inputPeer chatOf state) :
    EachItsOwn inputPeer chatOf state where
  message := by
    intro index call request ok message here done
    have mine := kept.calls index call here
    obtain ⟨member, made, some⟩ := mine.answered request ok message done
    obtain ⟨own, rfl⟩ := Option.isSome_iff_exists.mp some
    obtain ⟨-, built⟩ := mine.request own (by rw [done]; rfl)
    exact ⟨own, rfl, built, member, made, (kept.made message member own made).2⟩
  apart := by
    intro first second call other request ok message asked fine here there done doneToo
    have mine := kept.calls first call here
    have theirs := kept.calls second other there
    obtain ⟨member, made, some⟩ := mine.answered request ok message done
    obtain ⟨-, madeToo, -⟩ := theirs.answered asked fine message doneToo
    obtain ⟨own, rfl⟩ := Option.isSome_iff_exists.mp some
    have same : asked = Option.some own := madeToo.symm.trans made
    obtain ⟨⟨clock, drew⟩, -⟩ := mine.request own (by rw [done]; rfl)
    obtain ⟨⟨earlier, drewToo⟩, -⟩ := theirs.request own (by rw [doneToo, same]; rfl)
    by_cases place : call.place = other.place
    · exact kept.same_call here there place
    · exact absurd rfl (kept.unrepeated _ _ _ _ _ _ place drew drewToo).1
  received := by
    intro request member
    obtain ⟨index, call, here, sent⟩ := kept.received request member
    obtain ⟨-, built⟩ :=
      (kept.calls index call here).request request (Stage.request?_of_sent sent)
    exact ⟨call, List.mem_of_getElem? here, built⟩
  once := kept.distinct
  told := by
    intro request member updates truthful bundle matched id told
    obtain ⟨named, finds⟩ := Option.isSome_iff_exists.mp (namedFor_isSome told)
    have sent : sentMessageId updates request.randomId = some named :=
      Option.bind_eq_some_iff.mpr ⟨bundle, matched, finds⟩
    have same := kept.made_unique (truthful bundle matched _ told) (truthful.madeUnder sent)
    rw [replied, sent, same]

theorem sends_answer_their_own [DecidableEq χ] {clock : Int} {trace : List (Action ρ χ)}
    {final : State ρ χ} (ran : (system inputPeer chatOf clock).run trace = some final)
    (inTime : (system inputPeer chatOf clock).Along InTime
      (system inputPeer chatOf clock).initial trace) :
    EachItsOwn inputPeer chatOf final := by
  have kept : Kept inputPeer chatOf final :=
    System.runFrom_invariant_along step_kept (kept_initial clock) inTime ran
  exact kept.eachItsOwn

end Invariant

/-! ### Two sends at once -/

def chosen (resultId : String) : SendInlineBotResultPayload :=
  ⟨⟨some 1, none⟩, 42, resultId, false, false, false, false, none, none⟩

def request (resultId : String) (randomId : BitVec 64) : SendInlineBotResult :=
  ⟨false, false, false, false, .self, none, randomId, 42, resultId, none⟩

/-- The second send is numbered first; each is told of both messages. -/
def crossing : List (Action InputPeer InputPeer) :=
  [.start (chosen "a") .self, .start (chosen "b") .self, .number 1, .pass 7, .number 0,
    .receive 1 (some 11), .receive 0 (some 10),
    .reply 0 (.updates [.messageId 11 1001, .other, .messageId 10 1007]),
    .reply 1 (.combined [.messageId 11 1001]),
    .look 1 (.ok [some ⟨.self, 11, some (request "b" 1001)⟩]),
    .look 0 (.ok [some ⟨.self, 10, some (request "a" 1007)⟩])]

def crossed : System (State InputPeer InputPeer) (Action InputPeer InputPeer) :=
  system id id 1000

theorem sends_answer_their_own_crossing : ∃ final, crossed.run crossing = some final ∧
    EachItsOwn id id final := by
  have runs : (crossed.run crossing).isSome = true := by decide +kernel
  obtain ⟨final, ran⟩ := Option.isSome_iff_exists.mp runs
  exact ⟨final, ran, sends_answer_their_own ran (by decide +kernel)⟩

end InlineSends
end Kotlogramme.Messages
