/-
The peer ids of grammers.

A peer id has a kind and a bare id within the ranges of the kind, and the account
itself has an id without a bare one.  The constructors are a parameter.  The dialog
ids of the Bot API tell the kinds apart by their sign and an offset.
-/

import Mathlib.Algebra.Order.Ring.Int

namespace Kotlogramme.Client

inductive PeerKind
  | user
  | chat
  | channel
  deriving DecidableEq

structure PeerId where
  kind : PeerKind
  bareId : Option Int
  deriving DecidableEq

namespace PeerId

/-- Channels have two ranges, the second of which is that of monoforums. -/
def InRange : PeerKind → Int → Prop
  | .user, bare => 1 ≤ bare ∧ bare ≤ 0xffffffffff
  | .chat, bare => 1 ≤ bare ∧ bare ≤ 999999999999
  | .channel, bare =>
      (1 ≤ bare ∧ bare ≤ 997852516352) ∨ (1002147483649 ≤ bare ∧ bare ≤ 3000000000000)

instance : (kind : PeerKind) → (bare : Int) → Decidable (InRange kind bare)
  | .user, bare => inferInstanceAs (Decidable (1 ≤ bare ∧ bare ≤ 0xffffffffff))
  | .chat, bare => inferInstanceAs (Decidable (1 ≤ bare ∧ bare ≤ 999999999999))
  | .channel, bare =>
      inferInstanceAs (Decidable ((1 ≤ bare ∧ bare ≤ 997852516352) ∨
        (1002147483649 ≤ bare ∧ bare ≤ 3000000000000)))

def selfUser : PeerId := ⟨.user, none⟩

def ofBare (kind : PeerKind) (bare : Int) : Option PeerId :=
  if InRange kind bare then some ⟨kind, some bare⟩ else none

/-- The constructors of grammers, by what is documented of them: each takes the bare ids
of its kind, and no others. -/
structure Constructors where
  user : Int → Option PeerId
  chat : Int → Option PeerId
  channel : Int → Option PeerId
  user_eq : ∀ bare, user bare = ofBare .user bare
  chat_eq : ∀ bare, chat bare = ofBare .chat bare
  channel_eq : ∀ bare, channel bare = ofBare .channel bare

namespace Constructors

def documented : Constructors where
  user := ofBare .user
  chat := ofBare .chat
  channel := ofBare .channel
  user_eq _ := rfl
  chat_eq _ := rfl
  channel_eq _ := rfl

variable (constructors : Constructors) {bare : Int}

theorem user_of_inRange (inRange : InRange .user bare) :
    constructors.user bare = some ⟨.user, some bare⟩ := by
  rw [constructors.user_eq]
  exact if_pos inRange

theorem chat_of_inRange (inRange : InRange .chat bare) :
    constructors.chat bare = some ⟨.chat, some bare⟩ := by
  rw [constructors.chat_eq]
  exact if_pos inRange

theorem channel_of_inRange (inRange : InRange .channel bare) :
    constructors.channel bare = some ⟨.channel, some bare⟩ := by
  rw [constructors.channel_eq]
  exact if_pos inRange

end Constructors

/-- What the constructors make. -/
def Valid (id : PeerId) : Prop :=
  id = selfUser ∨ ∃ bare, InRange id.kind bare ∧ id.bareId = some bare

def encode : PeerKind → Int → Int
  | .user, bare => bare
  | .chat, bare => -bare
  | .channel, bare => -(1000000000000 + bare)

def botApiDialogId (id : PeerId) : Option Int := id.bareId.map (encode id.kind)

theorem encode_inj {kind other : PeerKind} {bare otherBare : Int} (inRange : InRange kind bare)
    (otherInRange : InRange other otherBare) (same : encode kind bare = encode other otherBare) :
    kind = other ∧ bare = otherBare := by
  cases kind with
  | user =>
      cases other with
      | user => exact ⟨rfl, same⟩
      | chat => simp only [encode, InRange] at *; omega
      | channel => simp only [encode, InRange] at *; omega
  | chat =>
      cases other with
      | user => simp only [encode, InRange] at *; omega
      | chat => exact ⟨rfl, Int.neg_inj.mp same⟩
      | channel => simp only [encode, InRange] at *; omega
  | channel =>
      cases other with
      | user => simp only [encode, InRange] at *; omega
      | chat => simp only [encode, InRange] at *; omega
      | channel => exact ⟨rfl, by simp only [encode] at same; omega⟩

theorem encode_ne_zero {kind : PeerKind} {bare : Int} (inRange : InRange kind bare) :
    encode kind bare ≠ 0 := by
  cases kind with
  | user => simp only [encode, InRange] at *; omega
  | chat => simp only [encode, InRange] at *; omega
  | channel => simp only [encode, InRange] at *; omega

/-- A dialog id names one peer. -/
theorem eq_of_botApiDialogId {first second : PeerId} (valid : first.Valid) (also : second.Valid)
    (same : first.botApiDialogId = second.botApiDialogId) : first = second := by
  obtain ⟨kind, bareId⟩ := first
  obtain ⟨otherKind, otherBareId⟩ := second
  rcases valid with isSelf | ⟨bare, inRange, rfl⟩
  · cases isSelf
    rcases also with otherSelf | ⟨otherBare, otherInRange, rfl⟩
    · exact otherSelf.symm
    · cases same
  · rcases also with otherSelf | ⟨otherBare, otherInRange, rfl⟩
    · cases otherSelf
      cases same
    · obtain ⟨rfl, rfl⟩ := encode_inj inRange otherInRange (Option.some.inj same)
      rfl

theorem botApiDialogId_ne_zero {id : PeerId} (valid : id.Valid) :
    id.botApiDialogId ≠ some 0 := by
  obtain ⟨kind, bareId⟩ := id
  rcases valid with isSelf | ⟨bare, inRange, rfl⟩
  · cases isSelf
    exact nofun
  · exact fun zero => encode_ne_zero inRange (Option.some.inj zero)

end PeerId
end Kotlogramme.Client
