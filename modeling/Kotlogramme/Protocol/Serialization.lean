/-
A Kotlin writer and a Rust reader of one document.

A class of kotlinx.serialization and a struct of serde are given as tables: the
names of the members, their types and what an absent member stands for.  The
writer omits a property that is at its default, as with `encodeDefaults` off;
the reader fills in what is missing.  Members carry the names they have in the
document.  A text of the writer is any sequence of UTF-16 units; what arrives of it,
and the double that the reader makes of the digits of a written one, are parameters.
-/

import Kotlogramme.Protocol.Document
import Kotlogramme.Foundation.Traverse
import Kotlogramme.Foundation.Utf

namespace Kotlogramme.Protocol

open Utf

/-- What a property of a class holds.  The members of a record carry their names,
and so does the variant of a sealed class. -/
inductive KotlinValue
  | null
  | bool (value : Bool)
  | int (number : Int)
  | double (value : Double)
  /-- An infinity, or what is not a number. -/
  | notFinite
  | string (text : JString)
  | list (items : List KotlinValue)
  | record (members : List (String × KotlinValue))
  | variant (name : String) (members : List (String × KotlinValue))

/-- What a field of a struct holds, with the names that the members of a record and
the variant of an enum have in the document. -/
inductive Value
  | null
  | bool (value : Bool)
  | int (number : Int)
  | double (value : Double)
  | string (text : String)
  | list (items : List Value)
  | record (members : List (String × Value))
  | variant (name : String) (members : List (String × Value))

/-- A default that is written out in a declaration. -/
inductive Literal
  | null
  | bool (value : Bool)
  | int (number : Int)
  | string (text : String)
  | emptyList
  deriving DecidableEq

namespace Literal

/-- The literal as a class holds it. -/
def kotlin : Literal → KotlinValue
  | .null => .null
  | .bool value => .bool value
  | .int number => .int number
  | .string text => .string (utf16 text.toList)
  | .emptyList => .list []

def isKotlin : Literal → KotlinValue → Bool
  | .null, .null => true
  | .bool expected, .bool value => value == expected
  | .int expected, .int number => number == expected
  | .string expected, .string text => text == utf16 expected.toList
  | .emptyList, .list items => items.isEmpty
  | _, _ => false

theorem isKotlin_iff {literal : Literal} {held : KotlinValue} :
    literal.isKotlin held = true ↔ held = literal.kotlin := by
  cases literal <;> cases held <;> simp [isKotlin, kotlin]

/-- The literal as a struct holds it. -/
def value : Literal → Value
  | .null => .null
  | .bool value => .bool value
  | .int number => .int number
  | .string text => .string text
  | .emptyList => .list []

/-- Whether a value equals the literal. -/
def is : Literal → Value → Bool
  | .null, .null => true
  | .bool expected, .bool value => value == expected
  | .int expected, .int number => number == expected
  | .string expected, .string text => text == expected
  | .emptyList, .list items => items.isEmpty
  | _, _ => false

theorem is_iff {literal : Literal} {held : Value} :
    literal.is held = true ↔ held = literal.value := by
  cases literal <;> cases held <;> simp [is, value]

end Literal

/-! ### Kotlin classes -/

/-- Whether the constructor of a class may leave a property out. -/
inductive Declared
  | required
  | withDefault (default : Literal)
  /-- `T? = null` -/
  | nullable
  deriving DecidableEq

/-- With `encodeDefaults` off a property at its default is not written. -/
def Declared.omits : Declared → KotlinValue → Bool
  | .required, _ => false
  | .withDefault default, held => default.isKotlin held
  | .nullable, held => Literal.null.isKotlin held

structure Property (Kind : Type) where
  name : String
  type : Kind
  declared : Declared

inductive KotlinType
  | boolean
  | int
  | long
  | double
  | string
  | list (item : KotlinType)
  | dataClass (properties : List (Property KotlinType))
  | sealedClass (discriminator : String) (variants : List (String × KotlinType))

mutual

/-- Whether a value is an instance of the type. -/
def KotlinType.admits : KotlinType → KotlinValue → Bool
  | .boolean, .bool _ => true
  | .int, .int number => -2 ^ 31 ≤ number && number ≤ 2 ^ 31 - 1
  | .long, .int number => -2 ^ 63 ≤ number && number ≤ 2 ^ 63 - 1
  | .double, .double _ => true
  | .double, .notFinite => true
  | .string, .string _ => true
  | .list item, .list items => items.all fun held => item.admits held
  | .dataClass properties, .record members => admitsMembers properties members
  | .sealedClass _ variants, .variant name members => admitsVariant variants name members
  | _, _ => false

def admitsMembers : List (Property KotlinType) → List (String × KotlinValue) → Bool
  | [], [] => true
  | property :: properties, member :: members =>
      admitsMember property member && admitsMembers properties members
  | _, _ => false

def admitsMember : Property KotlinType → String × KotlinValue → Bool
  | ⟨name, type, declared⟩, member =>
      member.1 == name &&
        match member.2 with
        | .null => declared = .nullable
        | held => type.admits held

def admitsVariant : List (String × KotlinType) → String → List (String × KotlinValue) → Bool
  | [], _, _ => false
  | variant :: variants, name, members =>
      if name == variant.1 then admitsContent variant members
      else admitsVariant variants name members

def admitsContent : String × KotlinType → List (String × KotlinValue) → Bool
  | (_, type), members => type.admits (.record members)

end

/-- The members of an object. -/
def Json.members : Json → List (String × Json)
  | .object members => members
  | _ => []

section Encode

variable (arriving : JString → String)

mutual

/-- The document of an instance, with what arrives of its texts. -/
def KotlinType.encode : KotlinType → KotlinValue → Json
  | .boolean, .bool value => .bool value
  | .int, .int number => .int number
  | .long, .int number => .int number
  | .double, .double value => .double value
  | .string, .string text => .string (arriving text)
  | .list item, .list items => .array (items.map fun held => item.encode held)
  | .dataClass properties, .record members => .object (encodeMembers properties members)
  | .sealedClass discriminator variants, .variant name members =>
      .object ((discriminator, .string name) :: (encodeVariant variants name members).members)
  -- no instance of the type is left that the encoder writes
  | _, _ => .null

def encodeMembers : List (Property KotlinType) → List (String × KotlinValue) →
    List (String × Json)
  | property :: properties, member :: members =>
      (encodeMember property member).toList ++ encodeMembers properties members
  | _, _ => []

def encodeMember : Property KotlinType → String × KotlinValue → Option (String × Json)
  | ⟨name, type, declared⟩, member =>
      if declared.omits member.2 then none else some (name, type.encode member.2)

def encodeVariant : List (String × KotlinType) → String → List (String × KotlinValue) → Json
  | [], _, _ => .null
  | variant :: variants, name, members =>
      if name == variant.1 then encodeContent variant members
      else encodeVariant variants name members

def encodeContent : String × KotlinType → List (String × KotlinValue) → Json
  | (_, type), members => type.encode (.record members)

end

end Encode

/-! ### Rust structs -/

/-- What a struct makes of a missing member. -/
inductive Presence
  | required
  /-- `#[serde(default)]` -/
  | default
  /-- `Option<T>`; `absent` is what the code that takes the struct puts for a `None`. -/
  | option (absent : Literal)
  deriving DecidableEq

structure RustField (Kind : Type) where
  name : String
  type : Kind
  presence : Presence

inductive RustType
  | bool
  | i32
  | i64
  | usize
  | f64
  | string
  | vec (item : RustType)
  | struct (fields : List (RustField RustType))
  /-- An internally tagged enum. -/
  | tagged (tag : String) (variants : List (String × RustType))

mutual

/-- `Default::default()` of the type. -/
def RustType.default : RustType → Value
  | .bool => .bool false
  | .i32 | .i64 | .usize => .int 0
  | .f64 => .double (.ofInt 0)
  | .string => .string ""
  | .vec _ => .list []
  | .struct fields => .record (defaultFields fields)
  | .tagged _ _ => .null

def defaultFields : List (RustField RustType) → List (String × Value)
  | [] => []
  | rustField :: fields => defaultField rustField :: defaultFields fields

def defaultField : RustField RustType → String × Value
  | ⟨name, _, .option absent⟩ => (name, absent.value)
  | ⟨name, type, _⟩ => (name, type.default)

end

/-- An index or a count is at most `2 ^ 31 - 1` on the writer's side, which a `usize`
of either width holds. -/
def readUsize : Json → Except Refusal Int := readInt 0 (2 ^ 64 - 1)

/-- `reread` is what serde_json makes of the digits of a double, none where it finds
them out of range. -/
def readF64 (reread : Double → Option Double) : Json → Except Refusal Value
  | .double value =>
      match reread value with
      | some taken => .ok (.double taken)
      | none => .error .numberOutOfRange
  | .int number => .ok (.double (.ofInt number))
  | _ => .error .invalidType

def readArray : Json → Except Refusal (List Json)
  | .array items => .ok items
  | _ => .error .invalidType

/-- The content of a variant is a struct. -/
def asVariant (name : String) : Value → Except Refusal Value
  | .record members => .ok (.variant name members)
  | _ => .error .invalidType

/-- What a field takes when its member is missing. -/
def Presence.absent (type : RustType) : Presence → Option Value
  | .required => none
  | .default => some type.default
  | .option absent => some absent.value

/-- What a field takes from its member. -/
def Presence.read (deserialize : Json → Except Refusal Value) :
    Presence → Json → Except Refusal Value
  | .option absent, .null => .ok absent.value
  | _, document => deserialize document

section Deserialize

variable (reread : Double → Option Double)

mutual

/-- Reads a document and puts the values for what is `None`. -/
def RustType.deserialize : RustType → Json → Except Refusal Value
  | .bool, document => Value.bool <$> readBool document
  | .i32, document => Value.int <$> readI32 document
  | .i64, document => Value.int <$> readI64 document
  | .usize, document => Value.int <$> readUsize document
  | .f64, document => readF64 reread document
  | .string, document => Value.string <$> readString document
  | .vec item, document => do
      let items ← readArray document
      Value.list <$> items.mapM fun member => item.deserialize member
  | .struct fields, document => do
      let members ← readObject document
      Value.record <$> readFields fields members
  | .tagged tag variants, document => do
      let members ← readObject document
      let name ← field none readString tag members
      readVariant variants name members

def readFields : List (RustField RustType) → List (String × Json) →
    Except Refusal (List (String × Value))
  | [], _ => .ok []
  | rustField :: fields, members => do
      let held ← readField rustField members
      let rest ← readFields fields members
      return (rustField.name, held) :: rest

def readField : RustField RustType → List (String × Json) → Except Refusal Value
  | ⟨name, type, presence⟩, members =>
      field (presence.absent type) (presence.read fun document => type.deserialize document)
        name members

def readVariant : List (String × RustType) → String → List (String × Json) →
    Except Refusal Value
  | [], name, _ => .error (.unknownVariant name)
  | variant :: variants, name, members =>
      if name == variant.1 then readContent variant members else readVariant variants name members

def readContent : String × RustType → List (String × Json) → Except Refusal Value
  | (name, type), members => do
      let content ← type.deserialize (.object members)
      asVariant name content

end

end Deserialize

/-! ### What is written -/

section Written

variable {arriving : JString → String} {properties : List (Property KotlinType)}
  {members : List (String × KotlinValue)} {name : String}

theorem name_of_encodeMember {property : Property KotlinType} {member : String × KotlinValue}
    {written : String × Json} (encoded : encodeMember arriving property member = some written) :
    written.1 = property.name := by
  obtain ⟨named, type, declared⟩ := property
  unfold encodeMember at encoded
  split at encoded
  · cases encoded
  · rw [← Option.some.inj encoded]

theorem lookup_encodeMember_of_ne {property : Property KotlinType} {member : String × KotlinValue}
    (other : property.name ≠ name) :
    (encodeMember arriving property member).toList.lookup name = none := by
  cases encoded : encodeMember arriving property member with
  | none => rfl
  | some written =>
      obtain ⟨written, document⟩ := written
      have named : written = property.name := name_of_encodeMember encoded
      have differs : (name == written) = false := by
        rw [named, beq_eq_false_iff_ne]
        exact other.symm
      simp only [Option.toList_some, List.lookup_cons, differs, List.lookup_nil]

theorem lookup_encodeMembers_of_fresh (fresh : name ∉ properties.map Property.name) :
    (encodeMembers arriving properties members).lookup name = none := by
  induction properties generalizing members with
  | nil => rfl
  | cons property rest ih =>
      rw [List.map_cons, List.mem_cons, not_or] at fresh
      cases members with
      | nil => rfl
      | cons member others =>
          rw [encodeMembers, List.lookup_append,
            lookup_encodeMember_of_ne (Ne.symm fresh.1), ih fresh.2, Option.or_none]

/-- The document has under the name of a property what that property wrote. -/
theorem lookup_encodeMembers {property : Property KotlinType} {member : String × KotlinValue}
    (distinct : (properties.map Property.name).Nodup)
    (paired : (property, member) ∈ properties.zip members) :
    (encodeMembers arriving properties members).lookup property.name =
      (encodeMember arriving property member).toList.lookup property.name := by
  induction properties generalizing members with
  | nil => cases paired
  | cons first rest ih =>
      cases members with
      | nil => cases paired
      | cons head others =>
          rw [List.map_cons, List.nodup_cons] at distinct
          rw [encodeMembers, List.lookup_append]
          rw [List.zip_cons_cons, List.mem_cons] at paired
          rcases paired with here | later
          · cases here
            rw [lookup_encodeMembers_of_fresh distinct.1, Option.or_none]
          · have listed : property.name ∈ rest.map Property.name :=
              List.mem_map_of_mem (List.of_mem_zip later).1
            have differs : first.name ≠ property.name := by
              rintro same
              exact distinct.1 (same ▸ listed)
            rw [lookup_encodeMember_of_ne differs, Option.none_or, ih distinct.2 later]

theorem admitsMembers_iff : admitsMembers properties members = true ↔
    List.Forall₂ (fun property member => admitsMember property member = true)
      properties members := by
  induction properties generalizing members with
  | nil => cases members <;> simp [admitsMembers]
  | cons property rest ih => cases members <;> simp [admitsMembers, ih]

end Written

theorem KotlinType.admits_null {type : KotlinType} : type.admits .null = false := by
  cases type <;> rfl

theorem admitsMember_iff {property : Property KotlinType} {member : String × KotlinValue} :
    admitsMember property member = true ↔ member.1 = property.name ∧
      (member.2 = .null ∧ property.declared = .nullable ∨
        property.type.admits member.2 = true) := by
  obtain ⟨name, type, declared⟩ := property
  obtain ⟨named, held⟩ := member
  cases held <;> simp [admitsMember, KotlinType.admits_null]

/-- An instance that is written is not written as `null`. -/
theorem KotlinType.encode_ne_null {type : KotlinType} {held : KotlinValue}
    (finite : held ≠ .notFinite) (admitted : type.admits held = true) :
    type.encode arriving held ≠ .null := by
  cases type <;> cases held <;> simp_all [KotlinType.admits, KotlinType.encode]

/-! ### What is read -/

theorem readInt_of_within {low high number : Int} (within : low ≤ number ∧ number ≤ high) :
    Value.int <$> readInt low high (.int number) = .ok (.int number) := by
  have read : readInt low high (.int number) = .ok number := if_pos within
  rw [read]
  rfl

section Read

variable {reread : Double → Option Double} {fields : List (RustField RustType)}
  {members others : List (String × Json)} {name : String}

theorem readField_congr {rustField : RustField RustType}
    (same : members.lookup rustField.name = others.lookup rustField.name) :
    readField reread rustField members = readField reread rustField others := by
  obtain ⟨named, type, presence⟩ := rustField
  simp only [readField, field]
  rw [same]

theorem readFields_congr
    (same : ∀ rustField ∈ fields,
      members.lookup rustField.name = others.lookup rustField.name) :
    readFields reread fields members = readFields reread fields others := by
  induction fields with
  | nil => rfl
  | cons rustField rest ih =>
      obtain ⟨first, later⟩ := List.forall_mem_cons.mp same
      rw [readFields, readFields, readField_congr first, ih later]

theorem readFields_succeeds
    (succeeds : ∀ rustField ∈ fields, ∃ held, readField reread rustField members = .ok held) :
    ∃ taken, readFields reread fields members = .ok taken := by
  induction fields with
  | nil => exact ⟨[], rfl⟩
  | cons rustField rest ih =>
      obtain ⟨⟨held, first⟩, later⟩ := List.forall_mem_cons.mp succeeds
      obtain ⟨taken, remaining⟩ := ih later
      refine ⟨(rustField.name, held) :: taken, ?_⟩
      rw [readFields, first, remaining]
      rfl

/-- A struct holds under a name what its first field of that name read. -/
theorem lookup_of_readFields {taken : List (String × Value)} {held : Value}
    (read : readFields reread fields members = .ok taken) :
    taken.lookup name = some held ↔
      ∃ rustField, fields.find? (fun rustField => rustField.name == name) = some rustField ∧
        readField reread rustField members = .ok held := by
  induction fields generalizing taken with
  | nil =>
      rw [readFields] at read
      cases read
      simp
  | cons rustField rest ih =>
      rw [readFields] at read
      obtain ⟨first, readFirst, continued⟩ := bind_eq_ok.mp read
      obtain ⟨later, readLater, finished⟩ := bind_eq_ok.mp continued
      cases finished
      by_cases here : rustField.name = name
      · subst here
        simp [readFirst]
      · have differs : (name == rustField.name) = false := by
          rw [beq_eq_false_iff_ne]
          exact Ne.symm here
        simp [List.lookup_cons, differs, here, ih readLater]

end Read

end Kotlogramme.Protocol
