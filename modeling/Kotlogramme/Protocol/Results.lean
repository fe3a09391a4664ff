/-
A Rust writer and a Kotlin reader of one document.

Results go the other way than requests.  A struct of serde writes every field it
has, `null` for a `None`; a class of kotlinx.serialization looks its properties up by
name, puts the default for one that is missing and ignores what it does not know.
Two checks of the tables alone cover every value of a struct: `reads`, that its
document is accepted, and `complete`, that nothing of it is lost.
-/

import Kotlogramme.Protocol.Serialization
import Mathlib.Data.List.Nodup

namespace Kotlogramme.Protocol

/-- Each member of the first value has the same value in the second, whatever order
its members are in and whatever else it has. -/
inductive Carried : Value → Value → Prop
  | null : Carried .null .null
  | bool (value : Bool) : Carried (.bool value) (.bool value)
  | int (number : Int) : Carried (.int number) (.int number)
  | double (value : Double) : Carried (.double value) (.double value)
  | string (text : String) : Carried (.string text) (.string text)
  | list {items others : List Value} (each : List.Forall₂ Carried items others) :
      Carried (.list items) (.list others)
  | record {members others : List (String × Value)}
      (present : ∀ member ∈ members, (others.lookup member.1).isSome)
      (same : ∀ member ∈ members, ∀ other, others.lookup member.1 = some other →
        Carried member.2 other) :
      Carried (.record members) (.record others)
  | variant (name : String) {members others : List (String × Value)}
      (content : Carried (.record members) (.record others)) :
      Carried (.variant name members) (.variant name others)

/-! ### Documents of values -/

mutual

/-- What serde writes for a value. -/
def Value.document : Value → Json
  | .null => .null
  | .bool value => .bool value
  | .int number => .int number
  | .double value => .double value
  | .string text => .string text
  | .list items => .array (documents items)
  | .record members => .object (documentMembers members)
  | .variant name members => .object [(name, .object (documentMembers members))]

def documents : List Value → List Json
  | [] => []
  | held :: items => held.document :: documents items

def documentMembers : List (String × Value) → List (String × Json)
  | [] => []
  | member :: members => documentMember member :: documentMembers members

def documentMember : String × Value → String × Json
  | (name, held) => (name, held.document)

end

theorem documents_eq_map (items : List Value) : documents items = items.map Value.document := by
  induction items with
  | nil => rfl
  | cons held items ih => rw [documents, ih, List.map_cons]

theorem lookup_documentMembers (name : String) (members : List (String × Value)) :
    (documentMembers members).lookup name = (members.lookup name).map Value.document := by
  induction members with
  | nil => rfl
  | cons member members ih =>
      obtain ⟨named, held⟩ := member
      rw [documentMembers, documentMember, List.lookup_cons, List.lookup_cons]
      cases name == named with
      | true => rfl
      | false => exact ih

/-- Only a `None` is written as `null`. -/
theorem document_ne_null {held : Value} (present : held ≠ .null) : held.document ≠ .null := by
  cases held with
  | null => exact absurd rfl present
  | _ => simp [Value.document]

/-! ### Rust structs -/

/-- What a struct of the native library writes. -/
inductive DtoType
  | bool
  /-- The integers from `least` up to `most`. -/
  | int (least most : Int)
  /-- A finite double. -/
  | f64
  | string
  | vec (item : DtoType)
  | option (type : DtoType)
  | struct (fields : List (String × DtoType))

namespace DtoType

def i32 : DtoType := .int (-2 ^ 31) (2 ^ 31 - 1)

def i64 : DtoType := .int (-2 ^ 63) (2 ^ 63 - 1)

/-- The length of a file or a time in milliseconds, which an `i64` holds. -/
def u64 : DtoType := .int 0 (2 ^ 63 - 1)

/-- A count, which Telegram answers as an `int`. -/
def usize : DtoType := .int 0 (2 ^ 31 - 1)

end DtoType

mutual

/-- Whether a value is one of the type. -/
def DtoType.admits : DtoType → Value → Bool
  | .bool, .bool _ => true
  | .int least most, .int number => least ≤ number && number ≤ most
  | .f64, .double _ => true
  | .string, .string _ => true
  | .vec item, .list items => items.all fun held => item.admits held
  | .option _, .null => true
  | .option type, held => type.admits held
  | .struct fields, .record members => admitsFields fields members
  | _, _ => false

def admitsFields : List (String × DtoType) → List (String × Value) → Bool
  | [], [] => true
  | dtoField :: fields, member :: members =>
      admitsField dtoField member && admitsFields fields members
  | _, _ => false

def admitsField : String × DtoType → String × Value → Bool
  | (name, type), (named, held) => named == name && type.admits held

end

/-! ### Kotlin classes -/

structure ResultProperty (Kind : Type) where
  name : String
  type : Kind
  /-- The default of the constructor, if it has one. -/
  default : Option Literal

/-- What a class that a bridge decodes reads. -/
inductive ResultType
  | boolean
  /-- The integers from `least` up to `most`. -/
  | integer (least most : Int)
  | double
  | string
  | list (item : ResultType)
  | nullable (type : ResultType)
  | dataClass (properties : List (ResultProperty ResultType))

namespace ResultType

def int : ResultType := .integer (-2 ^ 31) (2 ^ 31 - 1)

def long : ResultType := .integer (-2 ^ 63) (2 ^ 63 - 1)

@[elab_as_elim]
theorem induct {motive : ResultType → Prop} (boolean : motive .boolean)
    (integer : ∀ least most, motive (.integer least most)) (double : motive .double)
    (string : motive .string) (list : ∀ item, motive item → motive (.list item))
    (nullable : ∀ type, motive type → motive (.nullable type))
    (dataClass : ∀ properties, (∀ property ∈ properties, motive property.type) →
      motive (.dataClass properties))
    (type : ResultType) : motive type :=
  @ResultType.rec motive (fun properties => ∀ property ∈ properties, motive property.type)
    (fun property => motive property.type)
    boolean integer double string list nullable dataClass
    (fun _ member => by cases member)
    (fun _ _ head tail => List.forall_mem_cons.mpr ⟨head, tail⟩)
    (fun _ _ _ held => held) type

end ResultType

/-- The digits that serde writes of a double are read as that double. -/
def readDouble : Json → Except Refusal Value
  | .double value => .ok (.double value)
  | .int number => .ok (.double (.ofInt number))
  | _ => .error .invalidType

mutual

/-- Reads a document with `ignoreUnknownKeys`. -/
def ResultType.decode : ResultType → Json → Except Refusal Value
  | .boolean, document => Value.bool <$> readBool document
  | .integer least most, document => Value.int <$> readInt least most document
  | .double, document => readDouble document
  | .string, document => Value.string <$> readString document
  | .list item, document => do
      let items ← readArray document
      Value.list <$> items.mapM fun member => item.decode member
  | .nullable _, .null => .ok .null
  | .nullable type, document => type.decode document
  | .dataClass properties, document => do
      let members ← readObject document
      Value.record <$> decodeProperties properties members

def decodeProperties : List (ResultProperty ResultType) → List (String × Json) →
    Except Refusal (List (String × Value))
  | [], _ => .ok []
  | property :: properties, members => do
      let first ← decodeProperty property members
      let rest ← decodeProperties properties members
      return first :: rest

def decodeProperty : ResultProperty ResultType → List (String × Json) →
    Except Refusal (String × Value)
  | ⟨name, type, default⟩, members =>
      (name, ·) <$>
        field (default.map Literal.value) (fun document => type.decode document) name members

end

mutual

/-- An instance that takes its properties out of a value by their names, and its
defaults for the others. -/
def ResultType.view : ResultType → Value → Value
  | .list item, .list items => .list (items.map fun held => item.view held)
  | .nullable _, .null => .null
  | .nullable type, held => type.view held
  | .dataClass properties, .record members => .record (viewProperties properties members)
  | _, held => held

def viewProperties : List (ResultProperty ResultType) → List (String × Value) →
    List (String × Value)
  | [], _ => []
  | property :: properties, members =>
      viewProperty property members :: viewProperties properties members

def viewProperty : ResultProperty ResultType → List (String × Value) → String × Value
  | ⟨name, type, default⟩, members =>
      (name,
        match members.lookup name with
        | some held => type.view held
        | none => (default.map Literal.value).getD .null)

end

/-! ### The checks -/

/-- The bytes of a name as one number, which is compared at once where a name takes a
comparison of its bytes. -/
def bytesCode : List UInt8 → Nat
  | [] => 0
  | byte :: bytes => (byte.toNat + 1) + 257 * bytesCode bytes

def nameCode (name : String) : Nat := bytesCode name.toByteArray.data.toList

theorem bytesCode_inj {bytes others : List UInt8} (same : bytesCode bytes = bytesCode others) :
    bytes = others := by
  induction bytes generalizing others with
  | nil =>
      cases others with
      | nil => rfl
      | cons byte rest =>
          simp only [bytesCode] at same
          omega
  | cons byte rest ih =>
      cases others with
      | nil =>
          simp only [bytesCode] at same
          omega
      | cons other later =>
          simp only [bytesCode] at same
          have small := byte.toNat_lt
          have otherSmall := other.toNat_lt
          have first : byte.toNat = other.toNat := by omega
          have remaining : bytesCode rest = bytesCode later := by omega
          rw [UInt8.toNat_inj.mp first, ih remaining]

theorem nameCode_inj {name other : String} : nameCode name = nameCode other ↔ name = other := by
  constructor
  · intro same
    apply String.toByteArray_inj.mp
    apply ByteArray.ext
    exact Array.toList_inj.mp (bytesCode_inj same)
  · exact congrArg nameCode

/-- `List.lookup`, by the codes of the names. -/
def lookupName {α : Type} (name : String) : List (String × α) → Option α
  | [] => none
  | entry :: entries =>
      if nameCode name = nameCode entry.1 then some entry.2 else lookupName name entries

theorem lookupName_eq {α : Type} (name : String) (entries : List (String × α)) :
    lookupName name entries = entries.lookup name := by
  induction entries with
  | nil => rfl
  | cons entry entries ih =>
      obtain ⟨named, held⟩ := entry
      rw [lookupName, List.lookup_cons]
      by_cases same : name = named
      · rw [if_pos (congrArg nameCode same), beq_iff_eq.mpr same]
      · have differs : ¬nameCode name = nameCode named :=
          fun codes => same (nameCode_inj.mp codes)
        rw [if_neg differs, beq_eq_false_iff_ne.mpr same, ih]

mutual

/-- Every document of the struct is accepted, as far as the tables tell. -/
def ResultType.reads : ResultType → DtoType → Bool
  | .boolean, .bool => true
  | .integer least most, .int low high => least ≤ low && high ≤ most
  | .double, .f64 => true
  | .string, .string => true
  | .list item, .vec dtoItem => item.reads dtoItem
  | .nullable type, .option dtoType => type.reads dtoType
  | .nullable type, dtoType => type.reads dtoType
  | .dataClass properties, .struct fields => readsProperties properties fields
  | _, _ => false

def readsProperties : List (ResultProperty ResultType) → List (String × DtoType) → Bool
  | [], _ => true
  | property :: properties, fields =>
      readsProperty property fields && readsProperties properties fields

/-- A property that is no field has to have a default. -/
def readsProperty : ResultProperty ResultType → List (String × DtoType) → Bool
  | ⟨name, type, default⟩, fields =>
      match lookupName name fields with
      | some dtoType => type.reads dtoType
      | none => default.isSome

end

/-- The names are distinct, and every field is a property. -/
def covers (properties : List (ResultProperty ResultType)) (fields : List (String × DtoType)) :
    Bool :=
  let fieldCodes := fields.map fun dtoField => nameCode dtoField.1
  let propertyCodes := properties.map fun property => nameCode property.name
  decide fieldCodes.Nodup && decide propertyCodes.Nodup &&
    fieldCodes.all fun code => propertyCodes.contains code

mutual

/-- No field of the struct is left out, as far as the tables tell. -/
def ResultType.complete : ResultType → DtoType → Bool
  | .list item, .vec dtoItem => item.complete dtoItem
  | .nullable type, .option dtoType => type.complete dtoType
  | .nullable type, dtoType => type.complete dtoType
  | .dataClass properties, .struct fields =>
      covers properties fields && completeProperties properties fields
  | _, _ => true

def completeProperties : List (ResultProperty ResultType) → List (String × DtoType) → Bool
  | [], _ => true
  | property :: properties, fields =>
      completeProperty property fields && completeProperties properties fields

def completeProperty : ResultProperty ResultType → List (String × DtoType) → Bool
  | ⟨name, type, _⟩, fields =>
      match lookupName name fields with
      | some dtoType => type.complete dtoType
      | none => true

end

theorem covers_iff {properties : List (ResultProperty ResultType)}
    {fields : List (String × DtoType)} (covered : covers properties fields = true) :
    (fields.map Prod.fst).Nodup ∧ (properties.map ResultProperty.name).Nodup ∧
      ∀ dtoField ∈ fields, dtoField.1 ∈ properties.map ResultProperty.name := by
  simp only [covers, Bool.and_eq_true, decide_eq_true_eq] at covered
  obtain ⟨⟨distinctFields, distinctProperties⟩, contained⟩ := covered
  refine ⟨?_, ?_, ?_⟩
  · apply List.Nodup.of_map nameCode
    rw [List.map_map]
    exact distinctFields
  · apply List.Nodup.of_map nameCode
    rw [List.map_map]
    exact distinctProperties
  · intro dtoField listed
    have code := List.all_eq_true.mp contained _ (List.mem_map_of_mem listed)
    obtain ⟨property, propertyListed, same⟩ := List.mem_map.mp (List.contains_iff_mem.mp code)
    exact List.mem_map.mpr ⟨property, propertyListed, nameCode_inj.mp same⟩

theorem readsProperties_iff {properties : List (ResultProperty ResultType)}
    {fields : List (String × DtoType)} :
    readsProperties properties fields = true ↔
      ∀ property ∈ properties, readsProperty property fields = true := by
  induction properties with
  | nil => simp [readsProperties]
  | cons property rest ih => simp [readsProperties, ih]

theorem completeProperties_iff {properties : List (ResultProperty ResultType)}
    {fields : List (String × DtoType)} :
    completeProperties properties fields = true ↔
      ∀ property ∈ properties, completeProperty property fields = true := by
  induction properties with
  | nil => simp [completeProperties]
  | cons property rest ih => simp [completeProperties, ih]

/-! ### Values of a struct -/

section Fields

variable {fields : List (String × DtoType)} {members : List (String × Value)}

theorem names_of_admitsFields (admitted : admitsFields fields members = true) :
    members.map Prod.fst = fields.map Prod.fst := by
  induction fields generalizing members with
  | nil =>
      cases members with
      | nil => rfl
      | cons member others => cases admitted
  | cons dtoField rest ih =>
      cases members with
      | nil => cases admitted
      | cons member others =>
          obtain ⟨named, type⟩ := dtoField
          obtain ⟨written, held⟩ := member
          simp only [admitsFields, admitsField, Bool.and_eq_true, beq_iff_eq] at admitted
          obtain ⟨⟨same, -⟩, later⟩ := admitted
          rw [List.map_cons, List.map_cons, ih later, same]

/-- A value has under a name what the field of that name takes. -/
theorem lookup_of_admitsFields (name : String) (admitted : admitsFields fields members = true) :
    fields.lookup name = none ∧ members.lookup name = none ∨
      ∃ type held, fields.lookup name = some type ∧ members.lookup name = some held ∧
        type.admits held = true := by
  induction fields generalizing members with
  | nil =>
      cases members with
      | nil => exact .inl ⟨rfl, rfl⟩
      | cons member others => cases admitted
  | cons dtoField rest ih =>
      cases members with
      | nil => cases admitted
      | cons member others =>
          obtain ⟨named, type⟩ := dtoField
          obtain ⟨written, held⟩ := member
          simp only [admitsFields, admitsField, Bool.and_eq_true, beq_iff_eq] at admitted
          obtain ⟨⟨rfl, here⟩, later⟩ := admitted
          rw [List.lookup_cons, List.lookup_cons]
          cases name == written with
          | true => exact .inr ⟨type, held, rfl, rfl, here⟩
          | false => exact ih later

end Fields

theorem DtoType.admits_some {inner : DtoType} {held : Value} (present : held ≠ .null)
    (admitted : (DtoType.option inner).admits held = true) : inner.admits held = true := by
  cases held with
  | null => exact absurd rfl present
  | _ => exact admitted

/-! ### What is decoded -/

section Decoded

variable {type : ResultType} {dtoType : DtoType} {held : Value}

theorem decode_nullable_of_ne {document : Json} (present : document ≠ .null) :
    (ResultType.nullable type).decode document = type.decode document := by
  cases document with
  | null => exact absurd rfl present
  | _ => rfl

theorem view_nullable_of_ne (present : held ≠ .null) :
    (ResultType.nullable type).view held = type.view held := by
  cases held with
  | null => exact absurd rfl present
  | _ => rfl

/-- A nullable type that reads a struct's field reads what stands in it. -/
theorem reads_of_nullable (present : held ≠ .null)
    (reads : (ResultType.nullable type).reads dtoType = true)
    (admitted : dtoType.admits held = true) :
    ∃ inner, type.reads inner = true ∧ inner.admits held = true := by
  cases dtoType with
  | option inner => exact ⟨inner, reads, DtoType.admits_some present admitted⟩
  | _ => exact ⟨_, reads, admitted⟩

theorem decodeProperties_eq {properties : List (ResultProperty ResultType)}
    {members : List (String × Json)} {held : List (String × Value)}
    (each : ∀ property ∈ properties,
      decodeProperty property members = .ok (viewProperty property held)) :
    decodeProperties properties members = .ok (viewProperties properties held) := by
  induction properties with
  | nil => rfl
  | cons property rest ih =>
      obtain ⟨first, later⟩ := List.forall_mem_cons.mp each
      rw [decodeProperties, first, ih later]
      rfl

/-- Every value of the struct is read from its document. -/
def Reads (type : ResultType) : Prop :=
  ∀ (dtoType : DtoType) (held : Value), type.reads dtoType = true →
    dtoType.admits held = true → type.decode held.document = .ok (type.view held)

theorem decodeProperty_eq {property : ResultProperty ResultType}
    {fields : List (String × DtoType)} {members : List (String × Value)}
    (readsType : Reads property.type) (reads : readsProperty property fields = true)
    (admitted : admitsFields fields members = true) :
    decodeProperty property (documentMembers members) = .ok (viewProperty property members) := by
  obtain ⟨name, type, default⟩ := property
  simp only [decodeProperty, viewProperty, field, lookup_documentMembers]
  rcases lookup_of_admitsFields name admitted with ⟨noField, missing⟩ |
    ⟨dtoType, held, here, present, typed⟩
  · simp only [readsProperty, lookupName_eq, noField] at reads
    obtain ⟨literal, rfl⟩ := Option.isSome_iff_exists.mp reads
    simp only [missing]
    rfl
  · simp only [readsProperty, lookupName_eq, here] at reads
    simp only [present, Option.map_some, readsType dtoType held reads typed]
    rfl

theorem reads_list {item : ResultType} (readsItem : Reads item) : Reads (.list item) := by
  intro dtoType held reads admitted
  cases dtoType with
  | vec dtoItem =>
      cases held with
      | list items =>
          have each : ∀ held ∈ items, item.decode held.document = .ok (item.view held) := by
            intro held listed
            exact readsItem dtoItem held reads (List.all_eq_true.mp admitted held listed)
          have collected : (items.map Value.document).mapM item.decode =
              .ok (items.map item.view) := by
            rw [List.mapM_map]
            exact mapM_eq_ok_map each
          change Value.list <$> (documents items).mapM item.decode = _
          rw [documents_eq_map, collected]
          rfl
      | _ => cases admitted
  | _ => cases reads

theorem reads_nullable (readsType : Reads type) : Reads (.nullable type) := by
  intro dtoType held reads admitted
  by_cases absent : held = .null
  · subst absent
    rfl
  · obtain ⟨inner, readsInner, typed⟩ := reads_of_nullable absent reads admitted
    rw [decode_nullable_of_ne (document_ne_null absent), view_nullable_of_ne absent]
    exact readsType inner held readsInner typed

theorem reads_dataClass {properties : List (ResultProperty ResultType)}
    (readsEach : ∀ property ∈ properties, Reads property.type) :
    Reads (.dataClass properties) := by
  intro dtoType held reads admitted
  cases dtoType with
  | struct fields =>
      cases held with
      | record members =>
          have decoded : decodeProperties properties (documentMembers members) =
              .ok (viewProperties properties members) := by
            apply decodeProperties_eq
            intro property listed
            exact decodeProperty_eq (readsEach property listed)
              (readsProperties_iff.mp reads property listed) admitted
          change Value.record <$> decodeProperties properties (documentMembers members) = _
          rw [decoded]
          rfl
      | _ => cases admitted
  | _ => cases reads

theorem reads_integer (least most : Int) : Reads (.integer least most) := by
  intro dtoType held reads admitted
  cases dtoType with
  | int low high =>
      cases held with
      | int number =>
          simp only [ResultType.reads, Bool.and_eq_true, decide_eq_true_eq] at reads
          simp only [DtoType.admits, Bool.and_eq_true, decide_eq_true_eq] at admitted
          have within : least ≤ number ∧ number ≤ most := by omega
          exact readInt_of_within within
      | _ => cases admitted
  | _ => cases reads

/-- The document of a value is accepted, and what is decoded is the value as the class
views it. -/
theorem decode_document (type : ResultType) : Reads type := by
  induction type using ResultType.induct with
  | boolean =>
      intro dtoType held reads admitted
      cases dtoType with
      | bool => cases held <;> first | rfl | cases admitted
      | _ => cases reads
  | integer least most => exact reads_integer least most
  | double =>
      intro dtoType held reads admitted
      cases dtoType with
      | f64 => cases held <;> first | rfl | cases admitted
      | _ => cases reads
  | string =>
      intro dtoType held reads admitted
      cases dtoType with
      | string => cases held <;> first | rfl | cases admitted
      | _ => cases reads
  | list item ih => exact reads_list ih
  | nullable type ih => exact reads_nullable ih
  | dataClass properties ih => exact reads_dataClass ih

end Decoded

/-! ### What is kept -/

section Kept

variable {properties : List (ResultProperty ResultType)} {fields : List (String × DtoType)}
  {members : List (String × Value)}

theorem name_viewProperty (property : ResultProperty ResultType) :
    (viewProperty property members).1 = property.name := by
  obtain ⟨name, type, default⟩ := property
  rfl

theorem lookup_of_distinct (distinct : (members.map Prod.fst).Nodup) {member : String × Value}
    (listed : member ∈ members) : members.lookup member.1 = some member.2 := by
  induction members with
  | nil => cases listed
  | cons first rest ih =>
      rw [List.map_cons, List.nodup_cons] at distinct
      rw [List.lookup_cons]
      rcases List.mem_cons.mp listed with rfl | later
      · rw [beq_self_eq_true]
      · have differs : (member.1 == first.1) = false := by
          rw [beq_eq_false_iff_ne]
          intro same
          exact distinct.1 (same ▸ List.mem_map_of_mem later)
        rw [differs]
        exact ih distinct.2 later

theorem viewProperties_eq_map : viewProperties properties members =
    properties.map fun property => viewProperty property members := by
  induction properties with
  | nil => rfl
  | cons property rest ih => rw [viewProperties, ih, List.map_cons]

/-- An instance has under the name of a property what that property views. -/
theorem lookup_viewProperties (distinct : (properties.map ResultProperty.name).Nodup)
    {property : ResultProperty ResultType} (listed : property ∈ properties) :
    (viewProperties properties members).lookup property.name =
      some (viewProperty property members).2 := by
  have names : (viewProperties properties members).map Prod.fst =
      properties.map ResultProperty.name := by
    rw [viewProperties_eq_map, List.map_map]
    exact List.map_congr_left fun property _ => name_viewProperty property
  have viewed : viewProperty property members ∈ viewProperties properties members := by
    rw [viewProperties_eq_map]
    exact List.mem_map_of_mem listed
  rw [← name_viewProperty property]
  exact lookup_of_distinct (names ▸ distinct) viewed

/-- Nothing of a value of the struct is lost. -/
def Keeps (type : ResultType) : Prop :=
  ∀ (dtoType : DtoType) (held : Value), type.reads dtoType = true →
    type.complete dtoType = true → dtoType.admits held = true → Carried held (type.view held)

theorem keeps_list {item : ResultType} (keepsItem : Keeps item) : Keeps (.list item) := by
  intro dtoType held reads complete admitted
  cases dtoType with
  | vec dtoItem =>
      cases held with
      | list items =>
          apply Carried.list
          rw [List.forall₂_map_right_iff, List.forall₂_same]
          intro held listed
          exact keepsItem dtoItem held reads complete (List.all_eq_true.mp admitted held listed)
      | _ => cases admitted
  | _ => cases reads

theorem keeps_nullable {type : ResultType} (keepsType : Keeps type) : Keeps (.nullable type) := by
  intro dtoType held reads complete admitted
  by_cases absent : held = .null
  · subst absent
    exact .null
  · rw [view_nullable_of_ne absent]
    cases dtoType with
    | option inner =>
        exact keepsType inner held reads complete (DtoType.admits_some absent admitted)
    | _ => exact keepsType _ held reads complete admitted

/-- A member reaches the property of its name. -/
theorem carried_member (keepsEach : ∀ property ∈ properties, Keeps property.type)
    (reads : readsProperties properties fields = true)
    (complete : ResultType.complete (.dataClass properties) (.struct fields) = true)
    (admitted : admitsFields fields members = true) {member : String × Value}
    (listed : member ∈ members) :
    ∃ taken, (viewProperties properties members).lookup member.1 = some taken ∧
      Carried member.2 taken := by
  simp only [ResultType.complete, Bool.and_eq_true] at complete
  obtain ⟨covered, completeEach⟩ := complete
  obtain ⟨distinctFields, distinctProperties, covered⟩ := covers_iff covered
  have names := names_of_admitsFields admitted
  have held : members.lookup member.1 = some member.2 :=
    lookup_of_distinct (names ▸ distinctFields) listed
  have isField : member.1 ∈ fields.map Prod.fst := names ▸ List.mem_map_of_mem listed
  obtain ⟨dtoField, fieldListed, sameName⟩ := List.mem_map.mp isField
  have isProperty : member.1 ∈ properties.map ResultProperty.name := by
    rw [← sameName]
    exact covered dtoField fieldListed
  obtain ⟨property, propertyListed, named⟩ := List.mem_map.mp isProperty
  refine ⟨(viewProperty property members).2, ?_, ?_⟩
  · rw [← named]
    exact lookup_viewProperties distinctProperties propertyListed
  · have readsHere := readsProperties_iff.mp reads property propertyListed
    have completeHere := completeProperties_iff.mp completeEach property propertyListed
    have keepsHere := keepsEach property propertyListed
    obtain ⟨name, type, default⟩ := property
    cases named
    rcases lookup_of_admitsFields member.1 admitted with ⟨-, missing⟩ |
      ⟨dtoType, taken, here, present, typed⟩
    · rw [held] at missing
      cases missing
    · rw [held] at present
      cases present
      simp only [readsProperty, lookupName_eq, here] at readsHere
      simp only [completeProperty, lookupName_eq, here] at completeHere
      simp only [viewProperty, held]
      exact keepsHere dtoType member.2 readsHere completeHere typed

theorem keeps_dataClass (keepsEach : ∀ property ∈ properties, Keeps property.type) :
    Keeps (.dataClass properties) := by
  intro dtoType held reads complete admitted
  cases dtoType with
  | struct fields =>
      cases held with
      | record members =>
          apply Carried.record
          · intro member listed
            obtain ⟨taken, there, -⟩ := carried_member keepsEach reads complete admitted listed
            rw [there]
            rfl
          · intro member listed other there
            obtain ⟨taken, found, carried⟩ :=
              carried_member keepsEach reads complete admitted listed
            rw [found] at there
            exact Option.some.inj there ▸ carried
      | _ => cases admitted
  | _ => cases reads

/-- A class that has a property for every field views every value whole. -/
theorem carried_view (type : ResultType) : Keeps type := by
  induction type using ResultType.induct with
  | boolean =>
      intro dtoType held reads _ admitted
      cases dtoType with
      | bool => cases held <;> first | exact .bool _ | cases admitted
      | _ => cases reads
  | integer least most =>
      intro dtoType held reads _ admitted
      cases dtoType with
      | int low high => cases held <;> first | exact .int _ | cases admitted
      | _ => cases reads
  | double =>
      intro dtoType held reads _ admitted
      cases dtoType with
      | f64 => cases held <;> first | exact .double _ | cases admitted
      | _ => cases reads
  | string =>
      intro dtoType held reads _ admitted
      cases dtoType with
      | string => cases held <;> first | exact .string _ | cases admitted
      | _ => cases reads
  | list item ih => exact keeps_list ih
  | nullable type ih => exact keeps_nullable ih
  | dataClass properties ih => exact keeps_dataClass ih

end Kept

/-! ### Fields that a class does not take -/

def Value.without (names : List String) : Value → Value
  | .record members => .record (members.filter fun member => !names.contains member.1)
  | held => held

def DtoType.without (names : List String) : DtoType → DtoType
  | .struct fields => .struct (fields.filter fun dtoField => !names.contains dtoField.1)
  | type => type

/-- No property of the class has one of the names. -/
def ResultType.ignores (names : List String) : ResultType → Bool
  | .dataClass properties => properties.all fun property => !names.contains property.name
  | _ => names.isEmpty

section Without

variable {names : List String}

theorem lookup_filter {α : Type} {entries : List (String × α)} {name : String}
    (kept : names.contains name = false) :
    (entries.filter fun entry => !names.contains entry.1).lookup name = entries.lookup name := by
  induction entries with
  | nil => rfl
  | cons entry rest ih =>
      obtain ⟨written, held⟩ := entry
      rw [List.filter_cons, List.lookup_cons]
      by_cases same : name = written
      · subst same
        simp only [kept, Bool.not_false, if_true, List.lookup_cons, beq_self_eq_true]
      · have differs : (name == written) = false := beq_eq_false_iff_ne.mpr same
        rw [differs]
        cases names.contains written with
        | true => exact ih
        | false => simp only [Bool.not_false, if_true, List.lookup_cons, differs, ih]

theorem admitsFields_filter {fields : List (String × DtoType)} {members : List (String × Value)}
    (admitted : admitsFields fields members = true) :
    admitsFields (fields.filter fun dtoField => !names.contains dtoField.1)
      (members.filter fun member => !names.contains member.1) = true := by
  induction fields generalizing members with
  | nil =>
      cases members with
      | nil => rfl
      | cons member others => cases admitted
  | cons dtoField rest ih =>
      cases members with
      | nil => cases admitted
      | cons member others =>
          obtain ⟨named, type⟩ := dtoField
          obtain ⟨written, held⟩ := member
          simp only [admitsFields, admitsField, Bool.and_eq_true, beq_iff_eq] at admitted
          obtain ⟨⟨rfl, here⟩, later⟩ := admitted
          rw [List.filter_cons, List.filter_cons]
          cases names.contains written with
          | true => exact ih later
          | false =>
              simp only [Bool.not_false, if_true, admitsFields, admitsField, beq_self_eq_true, here,
                Bool.and_self, Bool.true_and]
              exact ih later

variable {properties : List (ResultProperty ResultType)}

theorem view_filter
    (unread : ∀ property ∈ properties, names.contains property.name = false)
    (members : List (String × Value)) :
    viewProperties properties (members.filter fun member => !names.contains member.1) =
      viewProperties properties members := by
  rw [viewProperties_eq_map, viewProperties_eq_map]
  apply List.map_congr_left
  intro property listed
  obtain ⟨name, type, default⟩ := property
  have kept : names.contains name = false := unread _ listed
  rw [viewProperty, viewProperty, lookup_filter kept]

theorem reads_filter {fields : List (String × DtoType)}
    (unread : ∀ property ∈ properties, names.contains property.name = false)
    (reads : readsProperties properties fields = true) :
    readsProperties properties (fields.filter fun dtoField => !names.contains dtoField.1) =
      true := by
  apply readsProperties_iff.mpr
  intro property listed
  have readsHere := readsProperties_iff.mp reads property listed
  obtain ⟨name, type, default⟩ := property
  have kept : names.contains name = false := unread _ listed
  rw [readsProperty, lookupName_eq] at readsHere ⊢
  rw [lookup_filter kept]
  exact readsHere

theorem without_nil (held : Value) : held.without [] = held := by
  cases held with
  | record members => simp [Value.without]
  | _ => rfl

theorem dtoType_without_nil (dtoType : DtoType) : dtoType.without [] = dtoType := by
  cases dtoType with
  | struct fields => simp [DtoType.without]
  | _ => rfl

/-- A class that ignores some fields views the rest of every value whole. -/
theorem carried_without {type : ResultType} {dtoType : DtoType} {held : Value}
    (ignores : type.ignores names = true) (reads : type.reads dtoType = true)
    (complete : type.complete (dtoType.without names) = true)
    (admitted : dtoType.admits held = true) : Carried (held.without names) (type.view held) := by
  cases type with
  | dataClass properties =>
      cases dtoType with
      | struct fields =>
          cases held with
          | record members =>
              have unread : ∀ property ∈ properties, names.contains property.name = false := by
                intro property listed
                simpa using List.all_eq_true.mp ignores property listed
              have carried := carried_view (.dataClass properties)
                ((DtoType.struct fields).without names) ((Value.record members).without names)
                (reads_filter unread reads) complete (admitsFields_filter admitted)
              have viewed : ResultType.view (.dataClass properties)
                  ((Value.record members).without names) =
                    ResultType.view (.dataClass properties) (.record members) :=
                congrArg Value.record (view_filter unread members)
              rw [viewed] at carried
              exact carried
          | _ => cases admitted
      | _ => cases reads
  | _ =>
      cases (List.isEmpty_iff.mp ignores : names = [])
      rw [without_nil]
      rw [dtoType_without_nil] at complete
      exact carried_view _ dtoType held reads complete admitted

end Without

end Kotlogramme.Protocol
