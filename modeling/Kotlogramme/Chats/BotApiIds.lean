/-
Reading a Bot API dialog id back into a peer id.

The ranges tell which of the constructors of a peer id is asked.  The bounds of
the second channel range are the wrong way round, so no id is in it.
-/

import Kotlogramme.Client.PeerId

namespace Kotlogramme.Chats

open Kotlogramme.Client

def notBotApiPeerId (id : Int) : String := "not a bot API peer id: " ++ toString id

def okOrNotPeerId (id : Int) : Option PeerId → Except String PeerId
  | some peer => .ok peer
  | none => .error (notBotApiPeerId id)

variable (constructors : PeerId.Constructors)

/-- No branch leaves the 64 bits of the id. -/
def peerIdFromBotApiId (id : Int) : Except String PeerId :=
  if 1 ≤ id ∧ id ≤ 0xffffffffff then okOrNotPeerId id (constructors.user id)
  else if -999999999999 ≤ id ∧ id ≤ -1 then okOrNotPeerId id (constructors.chat (-id))
  else if (-1997852516352 ≤ id ∧ id ≤ -1000000000001) ∨
      (-2002147483649 ≤ id ∧ id ≤ -4000000000000) then
    okOrNotPeerId id (constructors.channel (-id - 1000000000000))
  else .error (notBotApiPeerId id)

/-- The encoding of a peer is read as the peer, and nothing else as one. -/
def ReadExactly (id : Int) : Prop :=
  (∀ kind bare, PeerId.InRange kind bare → PeerId.encode kind bare = id →
    peerIdFromBotApiId constructors id = .ok ⟨kind, some bare⟩) ∧
  ((∀ kind bare, PeerId.InRange kind bare → PeerId.encode kind bare ≠ id) →
    ∃ failure, peerIdFromBotApiId constructors id = .error failure)

theorem peerIdFromBotApiId_user {id : Int} (inRange : PeerId.InRange .user id) :
    peerIdFromBotApiId constructors id = .ok ⟨.user, some id⟩ := by
  have read := constructors.user_of_inRange inRange
  simp only [PeerId.InRange] at inRange
  rw [peerIdFromBotApiId, if_pos inRange, read]
  rfl

theorem peerIdFromBotApiId_chat {bare : Int} (inRange : PeerId.InRange .chat bare) :
    peerIdFromBotApiId constructors (-bare) = .ok ⟨.chat, some bare⟩ := by
  have read := constructors.chat_of_inRange inRange
  simp only [PeerId.InRange] at inRange
  rw [peerIdFromBotApiId, if_neg (by omega), if_pos (by omega), Int.neg_neg, read]
  rfl

/-- A channel is read back unless it is a monoforum. -/
theorem peerIdFromBotApiId_channel {bare : Int} (inRange : 1 ≤ bare ∧ bare ≤ 997852516352) :
    peerIdFromBotApiId constructors (-(1000000000000 + bare)) = .ok ⟨.channel, some bare⟩ := by
  have read := constructors.channel_of_inRange (.inl inRange)
  have restored : -(-(1000000000000 + bare)) - 1000000000000 = bare := by omega
  rw [peerIdFromBotApiId, if_neg (by omega), if_neg (by omega), if_pos (by omega), restored, read]
  rfl

theorem peerIdFromBotApiId_refused {id : Int} (notUser : ¬ (1 ≤ id ∧ id ≤ 0xffffffffff))
    (notChat : ¬ (-999999999999 ≤ id ∧ id ≤ -1))
    (notChannel : ¬ (-1997852516352 ≤ id ∧ id ≤ -1000000000001)) :
    peerIdFromBotApiId constructors id = .error (notBotApiPeerId id) := by
  rw [peerIdFromBotApiId, if_neg notUser, if_neg notChat, if_neg (by omega)]

theorem readExactly_of_not_monoforum {id : Int}
    (other : ¬ (-4000000000000 ≤ id ∧ id ≤ -2002147483649)) : ReadExactly constructors id := by
  constructor
  · rintro kind bare inRange rfl
    cases kind with
    | user => exact peerIdFromBotApiId_user constructors inRange
    | chat => exact peerIdFromBotApiId_chat constructors inRange
    | channel =>
        rcases inRange with plain | monoforum
        · exact peerIdFromBotApiId_channel constructors plain
        · simp only [PeerId.encode] at other
          omega
  · intro unnamed
    refine ⟨notBotApiPeerId id, peerIdFromBotApiId_refused constructors ?_ ?_ ?_⟩
    · intro user
      exact unnamed .user id user rfl
    · intro chat
      refine unnamed .chat (-id) ?_ (Int.neg_neg id)
      simp only [PeerId.InRange]
      omega
    · intro channel
      refine unnamed .channel (-id - 1000000000000) (.inl ?_) ?_
      · omega
      · simp only [PeerId.encode]
        omega

/-- Every id is read exactly but those of the monoforum channels, which are
refused. -/
theorem readExactly_iff (id : Int) :
    ReadExactly constructors id ↔ ¬ (-4000000000000 ≤ id ∧ id ≤ -2002147483649) := by
  constructor
  · intro exactly monoforum
    obtain ⟨named, -⟩ := exactly
    have inRange : PeerId.InRange .channel (-id - 1000000000000) := .inr (by omega)
    have same : PeerId.encode .channel (-id - 1000000000000) = id := by
      simp only [PeerId.encode]
      omega
    have refused : peerIdFromBotApiId constructors id = .error (notBotApiPeerId id) :=
      peerIdFromBotApiId_refused constructors (by omega) (by omega) (by omega)
    rw [named .channel _ inRange same] at refused
    cases refused
  · exact readExactly_of_not_monoforum constructors

/-- The first monoforum channel is no peer id. -/
theorem monoforum_refused :
    PeerId.botApiDialogId ⟨.channel, some 1002147483649⟩ = some (-2002147483649) ∧
      peerIdFromBotApiId .documented (-2002147483649) =
        .error (notBotApiPeerId (-2002147483649)) ∧
      ¬ ReadExactly .documented (-2002147483649) := by
  refine ⟨rfl, peerIdFromBotApiId_refused .documented (by omega) (by omega) (by omega), ?_⟩
  intro exactly
  obtain ⟨named, -⟩ := exactly
  cases named .channel 1002147483649 (by decide) rfl

end Kotlogramme.Chats
