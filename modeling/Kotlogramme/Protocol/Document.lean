/-
The JSON documents that requests are sent as.

A document is kept as the tree that a JSON text denotes.  A number is an integer
or a double, as its text has it.  An object is a list of members with distinct
names, as an encoder writes it.  A reader of one member says what a missing member stands for.
-/

import Kotlogramme.Foundation.Decoder
import Mathlib.Algebra.Group.Int.Defs
import Mathlib.Algebra.Group.Nat.Defs

namespace Kotlogramme.Protocol

/-- A finite double, by its sign, its mantissa and its binary exponent. -/
structure Double where
  negative : Bool
  mantissa : Nat
  exponent : Int
  deriving DecidableEq

def Double.ofInt (number : Int) : Double where
  negative := number < 0
  mantissa := number.natAbs
  exponent := 0

inductive Json
  | null
  | bool (value : Bool)
  | int (value : Int)
  | double (value : Double)
  | string (text : String)
  | array (items : List Json)
  | object (members : List (String × Json))

/-- Why serde refuses a document. -/
inductive Refusal
  | missingField (name : String)
  | invalidType
  | invalidValue
  | numberOutOfRange
  | unknownVariant (name : String)
  deriving DecidableEq

/-! ### Readers -/

def readBool : Json → Except Refusal Bool
  | .bool value => .ok value
  | _ => .error .invalidType

/-- The integers from `low` up to `high`. -/
def readInt (low high : Int) : Json → Except Refusal Int
  | .int value => if low ≤ value ∧ value ≤ high then .ok value else .error .invalidValue
  | _ => .error .invalidType

def readI32 : Json → Except Refusal Int := readInt (-2 ^ 31) (2 ^ 31 - 1)

def readI64 : Json → Except Refusal Int := readInt (-2 ^ 63) (2 ^ 63 - 1)

def readString : Json → Except Refusal String
  | .string text => .ok text
  | _ => .error .invalidType

def readObject : Json → Except Refusal (List (String × Json))
  | .object members => .ok members
  | _ => .error .invalidType

/-- A derived `Deserialize` of an `Option`. -/
def readOption {α : Type} (read : Json → Except Refusal α) : Json → Except Refusal (Option α)
  | .null => .ok none
  | document => some <$> read document

/-- One field of a derived `Deserialize`; `absent` is what a missing member stands
for, if it may be missing. -/
def field {α : Type} (absent : Option α) (read : Json → Except Refusal α) (name : String)
    (members : List (String × Json)) : Except Refusal α :=
  match members.lookup name with
  | some document => read document
  | none =>
      match absent with
      | some value => .ok value
      | none => .error (.missingField name)

section Fields

variable {α : Type} {absent : Option α} {read : Json → Except Refusal α} {name : String}
  {members : List (String × Json)} {value : α}

theorem field_eq_ok (accepted : field absent read name members = .ok value) :
    (∃ document, members.lookup name = some document ∧ read document = .ok value) ∨
      members.lookup name = none ∧ absent = some value := by
  unfold field at accepted
  cases carried : members.lookup name with
  | some document =>
      rw [carried] at accepted
      exact .inl ⟨document, rfl, accepted⟩
  | none =>
      rw [carried] at accepted
      cases absent with
      | none => cases accepted
      | some held => exact .inr ⟨rfl, congrArg some (Except.ok.inj accepted)⟩

end Fields

/-! ### Counts -/

/-- A count as a Kotlin `Int`. -/
def kotlinInt (count : Nat) : Int := (count : Int).bmod (2 ^ 32)

theorem kotlinInt_eq {count : Nat} (small : count < 2 ^ 31) : kotlinInt count = count := by
  unfold kotlinInt
  apply Int.bmod_eq_of_le
  · omega
  · omega

/-! ### Peer targets -/

/-- Names a peer by a handle or by its username. -/
structure PeerTarget where
  peerHandle : Option Int
  username : Option String

def PeerTarget.deserialize (document : Json) : Except Refusal PeerTarget := do
  let members ← readObject document
  let peerHandle ← field (some none) (readOption readI64) "peerHandle" members
  let username ← field (some none) (readOption readString) "username" members
  return ⟨peerHandle, username⟩

end Kotlogramme.Protocol
