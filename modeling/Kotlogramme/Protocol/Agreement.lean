/-
When a writer and a reader agree on a value.

A reader agrees if it accepts the document and every member of the value reaches
it unchanged.  For two tables this is decided property by property; a check of
the tables alone, `lossless`, leaves only the texts and the doubles of a value to
look at, and what is left beside them are single properties whose values can stand
in the way.
-/

import Kotlogramme.Protocol.Serialization

namespace Kotlogramme.Protocol

open Utf

/-- Each member of the first value has the same value in the second, whatever order
its members are in and whatever else it has. -/
inductive Reaches : KotlinValue → Value → Prop
  | null : Reaches .null .null
  | bool (value : Bool) : Reaches (.bool value) (.bool value)
  | int (number : Int) : Reaches (.int number) (.int number)
  | double (value : Double) : Reaches (.double value) (.double value)
  | string {text : JString} {taken : String} (same : utf16 taken.toList = text) :
      Reaches (.string text) (.string taken)
  | list {items : List KotlinValue} {others : List Value}
      (each : List.Forall₂ Reaches items others) : Reaches (.list items) (.list others)
  | record {members : List (String × KotlinValue)} {others : List (String × Value)}
      (present : ∀ member ∈ members, (others.lookup member.1).isSome)
      (same : ∀ member ∈ members, ∀ other, others.lookup member.1 = some other →
        Reaches member.2 other) :
      Reaches (.record members) (.record others)
  | variant (name : String) {members : List (String × KotlinValue)}
      {others : List (String × Value)} (content : Reaches (.record members) (.record others)) :
      Reaches (.variant name members) (.variant name others)

theorem Literal.reaches (literal : Literal) : Reaches literal.kotlin literal.value := by
  cases literal with
  | null => exact .null
  | bool value => exact .bool value
  | int number => exact .int number
  | string text => exact .string rfl
  | emptyList => exact .list .nil

/-- The text of a string that arrives whole. -/
def arrived (text : JString) : String := String.ofList (unicode text)

theorem utf16_arrived_iff {text : JString} :
    utf16 (arrived text).toList = text ↔ wellFormed text = true := by
  rw [arrived, String.toList_ofList]
  constructor
  · intro same
    rw [← same]
    exact wellFormed_utf16 _
  · exact utf16_unicode

/-- The document of a value is accepted, and what is read from it is the value. -/
def Agrees (reread : Double → Option Double) (type : KotlinType) (rustType : RustType)
    (held : KotlinValue) : Prop :=
  ∃ taken, rustType.deserialize reread (type.encode arrived held) = .ok taken ∧
    Reaches held taken

/-! ### Texts and doubles -/

mutual

/-- What is in a value that is made of no other values. -/
def KotlinValue.leaves : KotlinValue → List KotlinValue
  | .list items => itemLeaves items
  | .record members => membersLeaves members
  | .variant _ members => membersLeaves members
  | leaf => [leaf]

def itemLeaves : List KotlinValue → List KotlinValue
  | [] => []
  | held :: items => held.leaves ++ itemLeaves items

def membersLeaves : List (String × KotlinValue) → List KotlinValue
  | [] => []
  | member :: members => memberLeaves member ++ membersLeaves members

def memberLeaves : String × KotlinValue → List KotlinValue
  | (_, held) => held.leaves

end

theorem mem_itemLeaves {leaf : KotlinValue} {items : List KotlinValue} :
    leaf ∈ itemLeaves items ↔ ∃ held ∈ items, leaf ∈ held.leaves := by
  induction items with
  | nil => simp [itemLeaves]
  | cons held rest ih => simp [itemLeaves, ih]

theorem mem_membersLeaves {leaf : KotlinValue} {members : List (String × KotlinValue)} :
    leaf ∈ membersLeaves members ↔ ∃ member ∈ members, leaf ∈ member.2.leaves := by
  induction members with
  | nil => simp [membersLeaves]
  | cons member rest ih =>
      obtain ⟨name, held⟩ := member
      simp [membersLeaves, memberLeaves, ih]

/-- A text has no surrogate without its partner, a double is read as it was written, and
nothing else can change on the way. -/
def LeafKept (reread : Double → Option Double) : KotlinValue → Prop
  | .string text => wellFormed text = true
  | .double value => reread value = some value
  | .notFinite => False
  | _ => True

def Kept (reread : Double → Option Double) (held : KotlinValue) : Prop :=
  ∀ leaf ∈ held.leaves, LeafKept reread leaf

section Leaves

variable {reread : Double → Option Double}

theorem kept_list {items : List KotlinValue} :
    Kept reread (.list items) ↔ ∀ held ∈ items, Kept reread held := by
  unfold Kept
  rw [KotlinValue.leaves]
  constructor
  · intro kept held listed leaf inside
    exact kept leaf (mem_itemLeaves.mpr ⟨held, listed, inside⟩)
  · intro each leaf inside
    obtain ⟨held, listed, within⟩ := mem_itemLeaves.mp inside
    exact each held listed leaf within

theorem kept_record {members : List (String × KotlinValue)} :
    Kept reread (.record members) ↔ ∀ member ∈ members, Kept reread member.2 := by
  unfold Kept
  rw [KotlinValue.leaves]
  constructor
  · intro kept member listed leaf inside
    exact kept leaf (mem_membersLeaves.mpr ⟨member, listed, inside⟩)
  · intro each leaf inside
    obtain ⟨member, listed, within⟩ := mem_membersLeaves.mp inside
    exact each member listed leaf within

theorem kept_variant {name : String} {members : List (String × KotlinValue)} :
    Kept reread (.variant name members) ↔ Kept reread (.record members) :=
  Iff.rfl

theorem Literal.kept (literal : Literal) : Kept reread literal.kotlin := by
  intro leaf inside
  cases literal with
  | emptyList => cases inside
  | string text =>
      cases List.mem_singleton.mp inside
      exact wellFormed_utf16 _
  | null | bool value | int number =>
      cases List.mem_singleton.mp inside
      trivial

theorem kept_of_omitted {declared : Declared} {held : KotlinValue}
    (omitted : declared.omits held = true) : Kept reread held := by
  cases declared with
  | required => cases omitted
  | withDefault literal =>
      rw [Literal.isKotlin_iff.mp omitted]
      exact literal.kept
  | nullable =>
      rw [Literal.isKotlin_iff.mp omitted]
      exact Literal.null.kept

end Leaves

@[elab_as_elim]
theorem KotlinValue.induct {motive : KotlinValue → Prop} (null : motive .null)
    (bool : ∀ value, motive (.bool value)) (int : ∀ number, motive (.int number))
    (double : ∀ value, motive (.double value))
    (notFinite : motive .notFinite) (string : ∀ text, motive (.string text))
    (list : ∀ items, (∀ held ∈ items, motive held) → motive (.list items))
    (record : ∀ members, (∀ member ∈ members, motive member.2) → motive (.record members))
    (variant : ∀ name members, (∀ member ∈ members, motive member.2) →
      motive (.variant name members))
    (held : KotlinValue) : motive held :=
  @KotlinValue.rec motive (fun items => ∀ held ∈ items, motive held)
    (fun members => ∀ member ∈ members, motive member.2) (fun member => motive member.2)
    null bool int double notFinite string list record variant
    (fun _ member => by cases member)
    (fun _ _ head tail => List.forall_mem_cons.mpr ⟨head, tail⟩)
    (fun _ member => by cases member)
    (fun _ _ head tail => List.forall_mem_cons.mpr ⟨head, tail⟩)
    (fun _ _ held => held) held

/-- A leaf that some value is read for. -/
def KotlinValue.Readable : KotlinValue → Prop
  | .string text => wellFormed text = true
  | .notFinite => False
  | _ => True

theorem readable_of_record {members : List (String × KotlinValue)} {taken : Value}
    (each : ∀ member ∈ members, ∀ other, Reaches member.2 other →
      ∀ leaf ∈ member.2.leaves, leaf.Readable)
    (reaches : Reaches (.record members) taken) :
    ∀ leaf ∈ membersLeaves members, leaf.Readable := by
  intro leaf inside
  obtain ⟨member, listed, within⟩ := mem_membersLeaves.mp inside
  cases reaches with
  | record present same =>
      obtain ⟨other, holds⟩ := Option.isSome_iff_exists.mp (present member listed)
      exact each member listed other (same member listed other holds) leaf within

/-- Only texts without unpaired surrogates and finite numbers reach a reader. -/
theorem Reaches.readable (held : KotlinValue) :
    ∀ taken, Reaches held taken → ∀ leaf ∈ held.leaves, leaf.Readable := by
  induction held using KotlinValue.induct with
  | null | bool value | int number | double value =>
      intro taken reaches leaf inside
      cases List.mem_singleton.mp inside
      trivial
  | notFinite =>
      intro taken reaches
      cases reaches
  | string text =>
      intro taken reaches leaf inside
      cases List.mem_singleton.mp inside
      cases reaches with
      | string same =>
          rw [← same]
          exact wellFormed_utf16 _
  | list items ih =>
      intro taken reaches leaf inside
      obtain ⟨held, listed, within⟩ := mem_itemLeaves.mp inside
      cases reaches with
      | list each =>
          obtain ⟨other, -, reached⟩ := exists_of_forall₂ each listed
          exact ih held listed other reached leaf within
  | record members ih =>
      intro taken reaches
      exact readable_of_record ih reaches
  | variant name members ih =>
      intro taken reaches
      cases reaches with
      | variant _ content => exact readable_of_record ih content

/-! ### Induction over a type -/

@[elab_as_elim, induction_eliminator]
theorem KotlinType.induct {motive : KotlinType → Prop} (boolean : motive .boolean)
    (int : motive .int) (long : motive .long) (double : motive .double) (string : motive .string)
    (list : ∀ item, motive item → motive (.list item))
    (dataClass : ∀ properties, (∀ property ∈ properties, motive property.type) →
      motive (.dataClass properties))
    (sealedClass : ∀ discriminator variants, (∀ variant ∈ variants, motive variant.2) →
      motive (.sealedClass discriminator variants))
    (type : KotlinType) : motive type :=
  @KotlinType.rec motive (fun properties => ∀ property ∈ properties, motive property.type)
    (fun variants => ∀ variant ∈ variants, motive variant.2)
    (fun property => motive property.type) (fun variant => motive variant.2)
    boolean int long double string list dataClass sealedClass
    (fun _ member => by cases member)
    (fun _ _ head tail => List.forall_mem_cons.mpr ⟨head, tail⟩)
    (fun _ member => by cases member)
    (fun _ _ head tail => List.forall_mem_cons.mpr ⟨head, tail⟩)
    (fun _ _ _ held => held) (fun _ _ held => held) type

/-! ### One property and its field -/

/-- A field reads what a property wrote as the value it came from. -/
def FieldAgrees (reread : Double → Option Double) (property : Property KotlinType)
    (rustField : RustField RustType) (member : String × KotlinValue) : Prop :=
  ∃ taken, readField reread rustField (encodeMember arrived property member).toList = .ok taken ∧
    Reaches member.2 taken

section OneField

variable {reread : Double → Option Double} {property : Property KotlinType}
  {rustField : RustField RustType} {member : String × KotlinValue}

theorem readField_of_omitted (omitted : property.declared.omits member.2 = true) {taken : Value} :
    readField reread rustField (encodeMember arrived property member).toList = .ok taken ↔
      rustField.presence.absent rustField.type = some taken := by
  obtain ⟨name, type, declared⟩ := property
  obtain ⟨named, rustType, presence⟩ := rustField
  have nothing : encodeMember arrived ⟨name, type, declared⟩ member = none := if_pos omitted
  rw [nothing]
  simp only [readField, field, Option.toList_none, List.lookup_nil]
  cases presence.absent rustType <;> simp

theorem readField_of_written (named : rustField.name = property.name)
    (written : property.declared.omits member.2 = false) (finite : member.2 ≠ .notFinite)
    (admitted : property.type.admits member.2 = true) :
    readField reread rustField (encodeMember arrived property member).toList =
      rustField.type.deserialize reread (property.type.encode arrived member.2) := by
  obtain ⟨name, type, declared⟩ := property
  obtain ⟨_, rustType, presence⟩ := rustField
  cases named
  have something : encodeMember arrived ⟨name, type, declared⟩ member =
      some (name, type.encode arrived member.2) := if_neg (Bool.eq_false_iff.mp written)
  have present : type.encode arrived member.2 ≠ .null := KotlinType.encode_ne_null finite admitted
  rw [something]
  simp only [readField, field, Option.toList_some, List.lookup_cons, beq_self_eq_true]
  -- an `Option` only differs on `null`
  cases presence with
  | required => rfl
  | default => rfl
  | option absent =>
      cases document : type.encode arrived member.2 with
      | null => exact absurd document present
      | _ => rfl

/-- What is written is a value of the type, and no `null`. -/
theorem typed_of_written (written : property.declared.omits member.2 = false)
    (admitted : admitsMember property member = true) :
    property.type.admits member.2 = true := by
  rcases (admitsMember_iff.mp admitted).2 with ⟨absent, nullable⟩ | typed
  · rw [absent, nullable] at written
    cases written
  · exact typed

theorem fieldAgrees_iff (named : rustField.name = property.name)
    (admitted : admitsMember property member = true) :
    FieldAgrees reread property rustField member ↔
      property.declared.omits member.2 = true ∧
          (∃ taken, rustField.presence.absent rustField.type = some taken ∧
            Reaches member.2 taken) ∨
        property.declared.omits member.2 = false ∧
          Agrees reread property.type rustField.type member.2 := by
  unfold FieldAgrees Agrees
  cases omitted : property.declared.omits member.2 with
  | true =>
      simp only [readField_of_omitted omitted, true_and, Bool.true_eq_false, false_and, or_false]
  | false =>
      simp only [true_and, Bool.false_eq_true, false_and, false_or]
      by_cases finite : member.2 = .notFinite
      · rw [finite]
        refine iff_of_false ?_ ?_
        · rintro ⟨taken, -, impossible⟩
          cases impossible
        · rintro ⟨taken, -, impossible⟩
          cases impossible
      · rw [readField_of_written named omitted finite (typed_of_written omitted admitted)]

/-- The field takes for a missing member what the property is when it is left out. -/
def Declared.agrees : Declared → RustField RustType → Bool
  | .required, _ => true
  | .withDefault default, ⟨_, type, .default⟩ => default.is type.default
  | .withDefault default, ⟨_, _, .option absent⟩ => default = absent
  | .withDefault _, ⟨_, _, .required⟩ => false
  | .nullable, ⟨_, _, .option absent⟩ => absent = .null
  | .nullable, _ => false

theorem absent_of_agrees {declared : Declared} {held : KotlinValue}
    (agrees : declared.agrees rustField = true) (omitted : declared.omits held = true) :
    ∃ taken, rustField.presence.absent rustField.type = some taken ∧ Reaches held taken := by
  obtain ⟨name, type, presence⟩ := rustField
  cases declared with
  | required => cases omitted
  | withDefault literal =>
      rw [Literal.isKotlin_iff.mp omitted]
      cases presence with
      | required => cases agrees
      | default => exact ⟨literal.value, congrArg some (Literal.is_iff.mp agrees), literal.reaches⟩
      | option absent =>
          cases (of_decide_eq_true agrees : literal = absent)
          exact ⟨literal.value, rfl, literal.reaches⟩
  | nullable =>
      rw [Literal.isKotlin_iff.mp omitted]
      cases presence with
      | required => cases agrees
      | default => cases agrees
      | option absent =>
          cases (of_decide_eq_true agrees : absent = .null)
          exact ⟨.null, rfl, .null⟩

/-- Where a missing member is filled in as it was, a field agrees if what is written of
its property is kept. -/
theorem fieldAgrees_iff_kept (named : rustField.name = property.name)
    (admitted : admitsMember property member = true)
    (agrees : property.declared.agrees rustField = true)
    (written : property.type.admits member.2 = true →
      (Agrees reread property.type rustField.type member.2 ↔ Kept reread member.2)) :
    FieldAgrees reread property rustField member ↔ Kept reread member.2 := by
  rw [fieldAgrees_iff named admitted]
  cases omitted : property.declared.omits member.2 with
  | true =>
      exact iff_of_true (.inl ⟨rfl, absent_of_agrees agrees omitted⟩)
        (kept_of_omitted omitted)
  | false =>
      simp only [Bool.false_eq_true, false_and, false_or, true_and]
      exact written (typed_of_written omitted admitted)

end OneField

/-! ### A class and its struct -/

/-- Names are distinct on both sides, and every field that must be there is a property. -/
def wellNamed (properties : List (Property KotlinType)) (fields : List (RustField RustType)) :
    Bool :=
  decide (properties.map Property.name).Nodup && decide (fields.map RustField.name).Nodup &&
    fields.all fun rustField =>
      rustField.presence ≠ .required || (properties.map Property.name).contains rustField.name

/-- The field that has the name of a property. -/
def fieldNamed (name : String) (fields : List (RustField RustType)) : Option (RustField RustType) :=
  fields.find? fun rustField => rustField.name == name

theorem name_of_fieldNamed {name : String} {fields : List (RustField RustType)}
    {rustField : RustField RustType} (found : fieldNamed name fields = some rustField) :
    rustField.name = name := by
  simpa using List.find?_some found

theorem fieldNamed_of_mem {fields : List (RustField RustType)} {rustField : RustField RustType}
    (distinct : (fields.map RustField.name).Nodup) (member : rustField ∈ fields) :
    fieldNamed rustField.name fields = some rustField := by
  induction fields with
  | nil => cases member
  | cons first rest ih =>
      rw [List.map_cons, List.nodup_cons] at distinct
      rcases List.mem_cons.mp member with rfl | later
      · simp [fieldNamed]
      · have differs : first.name ≠ rustField.name := by
          intro same
          exact distinct.1 (same ▸ List.mem_map_of_mem later)
        have found := ih distinct.2 later
        simpa [fieldNamed, differs] using found

theorem deserialize_struct_iff {reread : Double → Option Double}
    {fields : List (RustField RustType)} {members : List (String × Json)} {taken : Value} :
    RustType.deserialize reread (.struct fields) (.object members) = .ok taken ↔
      ∃ read, readFields reread fields members = .ok read ∧ .record read = taken := by
  exact map_eq_ok

section Pairs

variable {properties : List (Property KotlinType)} {members : List (String × KotlinValue)}

theorem admitsMember_of_paired (admitted : admitsMembers properties members = true)
    {property : Property KotlinType} {member : String × KotlinValue}
    (paired : (property, member) ∈ properties.zip members) :
    admitsMember property member = true :=
  (List.forall₂_iff_zip.mp (admitsMembers_iff.mp admitted)).2 paired

theorem paired_of_property (admitted : admitsMembers properties members = true)
    {property : Property KotlinType} (listed : property ∈ properties) :
    ∃ member, (property, member) ∈ properties.zip members := by
  have sameLength := (admitsMembers_iff.mp admitted).length_eq
  rw [← List.map_fst_zip sameLength.le] at listed
  obtain ⟨⟨_, member⟩, paired, rfl⟩ := List.mem_map.mp listed
  exact ⟨member, paired⟩

theorem paired_of_member (admitted : admitsMembers properties members = true)
    {member : String × KotlinValue} (listed : member ∈ members) :
    ∃ property, (property, member) ∈ properties.zip members := by
  have sameLength := (admitsMembers_iff.mp admitted).length_eq
  rw [← List.map_snd_zip sameLength.ge] at listed
  obtain ⟨⟨property, _⟩, paired, rfl⟩ := List.mem_map.mp listed
  exact ⟨property, paired⟩

end Pairs

section Structs

variable {reread : Double → Option Double} {properties : List (Property KotlinType)}
  {fields : List (RustField RustType)} {members : List (String × KotlinValue)}

theorem distinct_of_wellNamed (named : wellNamed properties fields = true) :
    (properties.map Property.name).Nodup ∧ (fields.map RustField.name).Nodup := by
  simp only [wellNamed, Bool.and_eq_true, decide_eq_true_eq] at named
  exact named.1

/-- A field reads from the whole document what the property of its name wrote. -/
theorem readField_encodeMembers (named : wellNamed properties fields = true)
    {property : Property KotlinType} {member : String × KotlinValue}
    {rustField : RustField RustType}
    (paired : (property, member) ∈ properties.zip members)
    (sameName : rustField.name = property.name) :
    readField reread rustField (encodeMembers arrived properties members) =
      readField reread rustField (encodeMember arrived property member).toList := by
  apply readField_congr
  rw [sameName]
  exact lookup_encodeMembers (distinct_of_wellNamed named).1 paired

/-- A field that is no property is filled in. -/
theorem readField_of_unnamed (named : wellNamed properties fields = true)
    {rustField : RustField RustType} (listed : rustField ∈ fields)
    (unnamed : rustField.name ∉ properties.map Property.name) :
    ∃ held, readField reread rustField (encodeMembers arrived properties members) = .ok held := by
  simp only [wellNamed, Bool.and_eq_true] at named
  have notRequired : rustField.presence ≠ .required := by
    have either := List.all_eq_true.mp named.2 rustField listed
    simpa [unnamed] using either
  have missing : (encodeMembers arrived properties members).lookup rustField.name = none :=
    lookup_encodeMembers_of_fresh unnamed
  obtain ⟨name, type, presence⟩ := rustField
  simp only [readField, field, missing]
  cases presence with
  | required => exact absurd rfl notRequired
  | default => exact ⟨type.default, rfl⟩
  | option absent => exact ⟨absent.value, rfl⟩

/-- The field of every property agrees with it. -/
def FieldsAgree (reread : Double → Option Double)
    (properties : List (Property KotlinType)) (fields : List (RustField RustType))
    (members : List (String × KotlinValue)) : Prop :=
  ∀ property member, (property, member) ∈ properties.zip members →
    ∃ rustField, fieldNamed property.name fields = some rustField ∧
      FieldAgrees reread property rustField member

theorem fieldsAgree_of_agrees (named : wellNamed properties fields = true)
    (admitted : admitsMembers properties members = true)
    (agrees : Agrees reread (.dataClass properties) (.struct fields) (.record members)) :
    FieldsAgree reread properties fields members := by
  obtain ⟨taken, read, reaches⟩ := agrees
  obtain ⟨others, readOthers, rfl⟩ := deserialize_struct_iff.mp read
  intro property member paired
  have listed := (List.of_mem_zip paired).2
  have sameName := (admitsMember_iff.mp (admitsMember_of_paired admitted paired)).1
  cases reaches with
  | record present same =>
      obtain ⟨other, holds⟩ := Option.isSome_iff_exists.mp (present member listed)
      obtain ⟨rustField, found, readOther⟩ := (lookup_of_readFields readOthers).mp holds
      rw [sameName] at found
      rw [readField_encodeMembers named paired (name_of_fieldNamed found)] at readOther
      exact ⟨rustField, found, other, readOther, same member listed other holds⟩

theorem readFields_of_fieldsAgree (named : wellNamed properties fields = true)
    (admitted : admitsMembers properties members = true)
    (agree : FieldsAgree reread properties fields members) :
    ∃ others, readFields reread fields (encodeMembers arrived properties members) = .ok others := by
  apply readFields_succeeds
  intro rustField listed
  by_cases isProperty : rustField.name ∈ properties.map Property.name
  · obtain ⟨property, propertyListed, sameName⟩ := List.mem_map.mp isProperty
    obtain ⟨member, paired⟩ := paired_of_property admitted propertyListed
    obtain ⟨found, foundHere, held, read, -⟩ := agree property member paired
    rw [sameName, fieldNamed_of_mem (distinct_of_wellNamed named).2 listed] at foundHere
    cases foundHere
    rw [readField_encodeMembers named paired sameName.symm]
    exact ⟨held, read⟩
  · exact readField_of_unnamed named listed isProperty

theorem agrees_of_fieldsAgree (named : wellNamed properties fields = true)
    (admitted : admitsMembers properties members = true)
    (agree : FieldsAgree reread properties fields members) :
    Agrees reread (.dataClass properties) (.struct fields) (.record members) := by
  obtain ⟨others, readOthers⟩ := readFields_of_fieldsAgree named admitted agree
  have holds : ∀ member ∈ members,
      ∃ other, others.lookup member.1 = some other ∧ Reaches member.2 other := by
    intro member listed
    obtain ⟨property, paired⟩ := paired_of_member admitted listed
    obtain ⟨rustField, found, other, read, reaches⟩ := agree property member paired
    have sameName := (admitsMember_iff.mp (admitsMember_of_paired admitted paired)).1
    rw [← readField_encodeMembers named paired (name_of_fieldNamed found)] at read
    refine ⟨other, (lookup_of_readFields readOthers).mpr ⟨rustField, ?_, read⟩, reaches⟩
    rw [sameName]
    exact found
  refine ⟨.record others, deserialize_struct_iff.mpr ⟨others, readOthers, rfl⟩, .record ?_ ?_⟩
  · intro member listed
    obtain ⟨other, held, -⟩ := holds member listed
    rw [held]
    rfl
  · intro member listed other held
    obtain ⟨there, heldThere, reaches⟩ := holds member listed
    rw [held] at heldThere
    exact Option.some.inj heldThere ▸ reaches

/-- A struct agrees exactly if the field of every property does. -/
theorem agrees_struct_iff (named : wellNamed properties fields = true)
    (admitted : admitsMembers properties members = true) :
    Agrees reread (.dataClass properties) (.struct fields) (.record members) ↔
      FieldsAgree reread properties fields members :=
  ⟨fieldsAgree_of_agrees named admitted, agrees_of_fieldsAgree named admitted⟩

end Structs

/-! ### Tables that always agree -/

/-- The fields of the struct of a variant leave the tag alone. -/
def untagged (tag : String) : RustType → Bool
  | .struct fields => fields.all fun rustField => rustField.name != tag
  | _ => false

mutual

/-- As far as the tables tell, every value of the type reaches the reader unchanged but
for its texts and its doubles. -/
def KotlinType.lossless : KotlinType → RustType → Bool
  | .boolean, .bool => true
  | .int, .i32 => true
  | .int, .i64 => true
  | .long, .i64 => true
  | .double, .f64 => true
  | .string, .string => true
  | .list item, .vec rustItem => item.lossless rustItem
  | .dataClass properties, .struct fields =>
      wellNamed properties fields && losslessProperties properties fields
  | .sealedClass discriminator variants, .tagged tag rustVariants =>
      discriminator == tag && losslessVariants tag variants rustVariants
  | _, _ => false

def losslessProperties : List (Property KotlinType) → List (RustField RustType) → Bool
  | [], _ => true
  | property :: properties, fields =>
      losslessProperty property fields && losslessProperties properties fields

def losslessProperty : Property KotlinType → List (RustField RustType) → Bool
  | ⟨name, type, declared⟩, fields =>
      match fieldNamed name fields with
      | none => false
      | some rustField => declared.agrees rustField && type.lossless rustField.type

def losslessVariants (tag : String) :
    List (String × KotlinType) → List (String × RustType) → Bool
  | [], _ => true
  | variant :: variants, rustVariants =>
      losslessVariant tag variant rustVariants && losslessVariants tag variants rustVariants

def losslessVariant (tag : String) : String × KotlinType → List (String × RustType) → Bool
  | (name, type), rustVariants =>
      match rustVariants.lookup name with
      | none => false
      | some content => untagged tag content && type.lossless content

end

theorem losslessProperties_iff {properties : List (Property KotlinType)}
    {fields : List (RustField RustType)} :
    losslessProperties properties fields = true ↔
      ∀ property ∈ properties, losslessProperty property fields = true := by
  induction properties with
  | nil => simp [losslessProperties]
  | cons property rest ih => simp [losslessProperties, ih]

theorem losslessProperty_iff {property : Property KotlinType}
    {fields : List (RustField RustType)} :
    losslessProperty property fields = true ↔
      ∃ rustField, fieldNamed property.name fields = some rustField ∧
        property.declared.agrees rustField = true ∧
        property.type.lossless rustField.type = true := by
  obtain ⟨name, type, declared⟩ := property
  rw [losslessProperty]
  cases fieldNamed name fields <;> simp

theorem losslessVariants_iff {tag : String} {variants : List (String × KotlinType)}
    {rustVariants : List (String × RustType)} :
    losslessVariants tag variants rustVariants = true ↔
      ∀ variant ∈ variants, losslessVariant tag variant rustVariants = true := by
  induction variants with
  | nil => simp [losslessVariants]
  | cons variant rest ih => simp [losslessVariants, ih]

theorem losslessVariant_iff {tag : String} {variant : String × KotlinType}
    {rustVariants : List (String × RustType)} :
    losslessVariant tag variant rustVariants = true ↔
      ∃ content, rustVariants.lookup variant.1 = some content ∧
        untagged tag content = true ∧ variant.2.lossless content = true := by
  obtain ⟨name, type⟩ := variant
  rw [losslessVariant]
  cases rustVariants.lookup name <;> simp

/-! ### Variants -/

/-- A value of a sealed class is written as the content of its variant. -/
theorem variant_of_admits {variants : List (String × KotlinType)} {name : String}
    {members : List (String × KotlinValue)}
    (admitted : admitsVariant variants name members = true) :
    ∃ variant ∈ variants, variant.1 = name ∧ variant.2.admits (.record members) = true ∧
      encodeVariant arrived variants name members =
        variant.2.encode arrived (.record members) := by
  induction variants with
  | nil => cases admitted
  | cons first rest ih =>
      obtain ⟨firstName, type⟩ := first
      by_cases here : name = firstName
      · refine ⟨(firstName, type), List.mem_cons_self, here.symm, ?_, ?_⟩
        · simpa [admitsVariant, admitsContent, here] using admitted
        · simp [encodeVariant, encodeContent, here]
      · have later : admitsVariant rest name members = true := by
          simpa [admitsVariant, here] using admitted
        obtain ⟨variant, listed, sameName, content, encoded⟩ := ih later
        refine ⟨variant, List.mem_cons_of_mem _ listed, sameName, content, ?_⟩
        simpa [encodeVariant, here] using encoded

section Variants

variable {reread : Double → Option Double}

theorem readVariant_of_lookup {variants : List (String × RustType)} {name : String}
    {content : RustType} {members : List (String × Json)}
    (found : variants.lookup name = some content) :
    readVariant reread variants name members = readContent reread (name, content) members := by
  induction variants with
  | nil => cases found
  | cons first rest ih =>
      obtain ⟨firstName, type⟩ := first
      by_cases here : name = firstName
      · subst here
        have same : type = content := by simpa using found
        simp [readVariant, same]
      · have differs : (name == firstName) = false := beq_eq_false_iff_ne.mpr here
        rw [List.lookup_cons, differs] at found
        simpa [readVariant, here] using ih found

theorem dataClass_of_admits_record {type : KotlinType}
    {members : List (String × KotlinValue)}
    (admitted : type.admits (.record members) = true) :
    ∃ properties, type = .dataClass properties := by
  cases type with
  | dataClass properties => exact ⟨properties, rfl⟩
  | _ => cases admitted

/-- The tag does not get in the way of the fields. -/
theorem readFields_tagged {tag name : String} {fields : List (RustField RustType)}
    {members : List (String × Json)} (clear : untagged tag (.struct fields) = true) :
    readFields reread fields ((tag, .string name) :: members) =
      readFields reread fields members := by
  apply readFields_congr
  intro rustField listed
  have other : rustField.name ≠ tag := by
    simpa using List.all_eq_true.mp clear rustField listed
  have differs : (rustField.name == tag) = false := beq_eq_false_iff_ne.mpr other
  rw [List.lookup_cons, differs]

theorem deserialize_tagged {tag name : String} {variants : List (String × RustType)}
    {fields : List (RustField RustType)} {members : List (String × Json)}
    (found : variants.lookup name = some (.struct fields))
    (clear : untagged tag (.struct fields) = true) :
    RustType.deserialize reread (.tagged tag variants)
        (.object ((tag, .string name) :: members)) =
      Value.variant name <$> readFields reread fields members := by
  have tagRead : field none readString tag ((tag, .string name) :: members) = .ok name := by
    simp [field, readString]
  change (field none readString tag ((tag, .string name) :: members) >>= fun read =>
    readVariant reread variants read ((tag, .string name) :: members)) = _
  rw [tagRead]
  change readVariant reread variants name ((tag, .string name) :: members) = _
  rw [readVariant_of_lookup found, readContent]
  change (Value.record <$> readFields reread fields ((tag, .string name) :: members) >>=
    asVariant name) = _
  rw [readFields_tagged clear]
  cases readFields reread fields members <;> rfl

theorem encode_sealedClass {tag name : String} {variants : List (String × KotlinType)}
    {properties : List (Property KotlinType)} {members : List (String × KotlinValue)}
    (encoded : encodeVariant arrived variants name members =
      KotlinType.encode arrived (.dataClass properties) (.record members)) :
    KotlinType.encode arrived (.sealedClass tag variants) (.variant name members) =
      .object ((tag, .string name) :: encodeMembers arrived properties members) := by
  rw [KotlinType.encode, encoded]
  rfl

/-- A variant agrees exactly if its struct agrees with its class; the tag comes on top. -/
theorem agrees_variant_iff {tag name : String} {variants : List (String × KotlinType)}
    {rustVariants : List (String × RustType)} {members : List (String × KotlinValue)}
    {type : KotlinType} {content : RustType} (admitted : type.admits (.record members) = true)
    (encoded : encodeVariant arrived variants name members =
      type.encode arrived (.record members))
    (found : rustVariants.lookup name = some content) (clear : untagged tag content = true) :
    Agrees reread (.sealedClass tag variants) (.tagged tag rustVariants) (.variant name members) ↔
      Agrees reread type content (.record members) := by
  obtain ⟨properties, rfl⟩ := dataClass_of_admits_record admitted
  cases content with
  | struct fields =>
      unfold Agrees
      rw [encode_sealedClass encoded, deserialize_tagged found clear]
      constructor
      · rintro ⟨taken, read, reaches⟩
        obtain ⟨others, readOthers, rfl⟩ := map_eq_ok.mp read
        cases reaches with
        | variant _ content =>
            exact ⟨.record others, deserialize_struct_iff.mpr ⟨others, readOthers, rfl⟩, content⟩
      · rintro ⟨taken, read, reaches⟩
        obtain ⟨others, readOthers, rfl⟩ := deserialize_struct_iff.mp read
        exact ⟨.variant name others, map_eq_ok.mpr ⟨others, readOthers, rfl⟩, .variant name reaches⟩
  | _ => cases clear

end Variants

/-! ### Every value of a type -/

section Covered

variable {reread : Double → Option Double}

/-- Under tables that the check lets pass, the values that agree are those whose texts and
doubles are kept. -/
def Covered (reread : Double → Option Double) (type : KotlinType) : Prop :=
  ∀ {rustType : RustType} {held : KotlinValue}, type.lossless rustType = true →
    type.admits held = true → (Agrees reread type rustType held ↔ Kept reread held)

theorem kept_leaf {leaf : KotlinValue} (alone : leaf.leaves = [leaf]) :
    Kept reread leaf ↔ LeafKept reread leaf := by
  unfold Kept
  rw [alone, List.forall_mem_singleton]

theorem agrees_int {number : Int} (rustType : RustType)
    (lossless : KotlinType.lossless .int rustType = true)
    (admitted : KotlinType.admits .int (.int number) = true) :
    Agrees reread .int rustType (.int number) := by
  simp only [KotlinType.admits, Bool.and_eq_true, decide_eq_true_eq] at admitted
  refine ⟨.int number, ?_, .int number⟩
  cases rustType with
  | i32 => exact readInt_of_within admitted
  | i64 => exact readInt_of_within (by omega)
  | _ => cases lossless

theorem agrees_long {number : Int} (rustType : RustType)
    (lossless : KotlinType.lossless .long rustType = true)
    (admitted : KotlinType.admits .long (.int number) = true) :
    Agrees reread .long rustType (.int number) := by
  simp only [KotlinType.admits, Bool.and_eq_true, decide_eq_true_eq] at admitted
  refine ⟨.int number, ?_, .int number⟩
  cases rustType with
  | i64 => exact readInt_of_within admitted
  | _ => cases lossless

theorem agrees_double_iff {held : KotlinValue}
    (admitted : KotlinType.admits .double held = true) :
    Agrees reread .double .f64 held ↔ Kept reread held := by
  cases held with
  | double value =>
      rw [kept_leaf rfl, LeafKept]
      constructor
      · rintro ⟨taken, read, reaches⟩
        cases reaches with
        | double =>
            change readF64 reread (.double value) = _ at read
            rw [readF64] at read
            cases again : reread value with
            | none =>
                rw [again] at read
                cases read
            | some taken =>
                rw [again] at read
                cases read
                rfl
      · intro kept
        refine ⟨.double value, ?_, .double value⟩
        change readF64 reread (.double value) = _
        rw [readF64, kept]
  | notFinite =>
      rw [kept_leaf rfl]
      refine iff_of_false ?_ id
      rintro ⟨taken, -, impossible⟩
      cases impossible
  | _ => cases admitted

theorem agrees_string_iff {text : JString} :
    Agrees reread .string .string (.string text) ↔ Kept reread (.string text) := by
  rw [kept_leaf rfl, LeafKept, ← utf16_arrived_iff]
  constructor
  · rintro ⟨taken, read, reaches⟩
    cases read
    cases reaches with
    | string same => exact same
  · intro same
    exact ⟨.string (arrived text), rfl, .string same⟩

theorem agrees_list_iff {item : KotlinType} {rustItem : RustType} {items : List KotlinValue} :
    Agrees reread (.list item) (.vec rustItem) (.list items) ↔
      ∀ held ∈ items, Agrees reread item rustItem held := by
  unfold Agrees
  rw [← mapM_relates_iff]
  change (∃ taken, Value.list <$> (items.map (item.encode arrived)).mapM
    (rustItem.deserialize reread) = .ok taken ∧ _) ↔ _
  constructor
  · rintro ⟨taken, read, reaches⟩
    obtain ⟨others, readOthers, rfl⟩ := map_eq_ok.mp read
    cases reaches with
    | list each => exact ⟨others, readOthers, each⟩
  · rintro ⟨others, readOthers, each⟩
    exact ⟨.list others, map_eq_ok.mpr ⟨others, readOthers, rfl⟩, .list each⟩

theorem agrees_dataClass_iff {properties : List (Property KotlinType)}
    {fields : List (RustField RustType)} {members : List (String × KotlinValue)}
    (covered : ∀ property ∈ properties, Covered reread property.type)
    (named : wellNamed properties fields = true)
    (lossless : losslessProperties properties fields = true)
    (admitted : admitsMembers properties members = true) :
    Agrees reread (.dataClass properties) (.struct fields) (.record members) ↔
      Kept reread (.record members) := by
  rw [agrees_struct_iff named admitted, kept_record]
  have own : ∀ property member, (property, member) ∈ properties.zip members →
      ∃ rustField, fieldNamed property.name fields = some rustField ∧
        (FieldAgrees reread property rustField member ↔ Kept reread member.2) := by
    intro property member paired
    have listed := (List.of_mem_zip paired).1
    obtain ⟨rustField, found, agrees, same⟩ :=
      losslessProperty_iff.mp (losslessProperties_iff.mp lossless property listed)
    exact ⟨rustField, found, fieldAgrees_iff_kept (name_of_fieldNamed found)
      (admitsMember_of_paired admitted paired) agrees (covered property listed same)⟩
  constructor
  · intro agree member listed
    obtain ⟨property, paired⟩ := paired_of_member admitted listed
    obtain ⟨rustField, found, agrees⟩ := agree property member paired
    obtain ⟨_, foundToo, iff⟩ := own property member paired
    cases found.symm.trans foundToo
    exact iff.mp agrees
  · intro kept property member paired
    obtain ⟨rustField, found, iff⟩ := own property member paired
    exact ⟨rustField, found, iff.mpr (kept member (List.of_mem_zip paired).2)⟩

theorem agrees_sealedClass_iff {tag name : String} {variants : List (String × KotlinType)}
    {rustVariants : List (String × RustType)} {members : List (String × KotlinValue)}
    (covered : ∀ variant ∈ variants, Covered reread variant.2)
    (lossless : losslessVariants tag variants rustVariants = true)
    (admitted : admitsVariant variants name members = true) :
    Agrees reread (.sealedClass tag variants) (.tagged tag rustVariants)
        (.variant name members) ↔ Kept reread (.variant name members) := by
  obtain ⟨variant, listed, sameName, content, encoded⟩ := variant_of_admits admitted
  obtain ⟨rustContent, found, clear, same⟩ :=
    losslessVariant_iff.mp (losslessVariants_iff.mp lossless variant listed)
  rw [sameName] at found
  rw [agrees_variant_iff content encoded found clear, kept_variant]
  exact covered variant listed same content

/-- Under lossless tables a value agrees exactly if its texts and doubles are kept. -/
theorem agrees_iff_kept (type : KotlinType) : Covered reread type := by
  intro rustType held lossless admitted
  induction type generalizing rustType held with
  | boolean =>
      cases held with
      | bool value =>
          cases rustType with
          | bool => exact iff_of_true ⟨.bool value, rfl, .bool value⟩ ((kept_leaf rfl).mpr trivial)
          | _ => cases lossless
      | _ => cases admitted
  | int =>
      cases held with
      | int number =>
          exact iff_of_true (agrees_int rustType lossless admitted) ((kept_leaf rfl).mpr trivial)
      | _ => cases admitted
  | long =>
      cases held with
      | int number =>
          exact iff_of_true (agrees_long rustType lossless admitted) ((kept_leaf rfl).mpr trivial)
      | _ => cases admitted
  | double =>
      cases rustType with
      | f64 => exact agrees_double_iff admitted
      | _ => cases lossless
  | string =>
      cases held with
      | string text =>
          cases rustType with
          | string => exact agrees_string_iff
          | _ => cases lossless
      | _ => cases admitted
  | list item ih =>
      cases held with
      | list items =>
          cases rustType with
          | vec rustItem =>
              rw [KotlinType.lossless] at lossless
              rw [KotlinType.admits] at admitted
              rw [agrees_list_iff, kept_list]
              refine forall₂_congr fun held listed => ?_
              exact ih lossless (List.all_eq_true.mp admitted held listed)
          | _ => cases lossless
      | _ => cases admitted
  | dataClass properties ih =>
      cases held with
      | record members =>
          cases rustType with
          | struct fields =>
              rw [KotlinType.lossless, Bool.and_eq_true] at lossless
              rw [KotlinType.admits] at admitted
              exact agrees_dataClass_iff ih lossless.1 lossless.2 admitted
          | _ => cases lossless
      | _ => cases admitted
  | sealedClass tag variants ih =>
      cases held with
      | variant name members =>
          cases rustType with
          | tagged rustTag rustVariants =>
              rw [KotlinType.lossless, Bool.and_eq_true, beq_iff_eq] at lossless
              rw [KotlinType.admits] at admitted
              obtain ⟨rfl, variantsLossless⟩ := lossless
              exact agrees_sealedClass_iff ih variantsLossless admitted
          | _ => cases lossless
      | _ => cases admitted

end Covered

/-! ### What can stand in the way -/

/-- What a property can hold that keeps an instance from its reader. -/
inductive Obstacle
  /-- A negative number where the struct has a `usize`. -/
  | negative (name : String)
  /-- The default of a property that the struct requires. -/
  | atDefault (name : String) (default : Literal)

namespace Obstacle

def name : Obstacle → String
  | .negative name => name
  | .atDefault name _ => name

def Clear : Obstacle → KotlinValue → Prop
  | .negative _, held => ∀ number, held = .int number → 0 ≤ number
  | .atDefault _ default, held => held ≠ default.kotlin

/-- No member of an instance is in the way. -/
def Avoided (obstacle : Obstacle) (members : List (String × KotlinValue)) : Prop :=
  ∀ held, (obstacle.name, held) ∈ members → obstacle.Clear held

/-- The tables make the obstacle of a property. -/
def explains : Obstacle → Property KotlinType → RustField RustType → Bool
  | .negative _, ⟨_, .int, .required⟩, ⟨_, .usize, _⟩ => true
  | .negative _, ⟨_, .int, .withDefault (.int default)⟩, ⟨name, .usize, presence⟩ =>
      decide (0 ≤ default) &&
        Declared.agrees (.withDefault (.int default)) ⟨name, .usize, presence⟩
  | .atDefault _ default, ⟨_, type, .withDefault declared⟩, ⟨_, rustType, .required⟩ =>
      decide (default = declared) && type.lossless rustType
  | _, _, _ => false

end Obstacle

theorem agrees_usize_iff {reread : Double → Option Double} {held : KotlinValue}
    (admitted : KotlinType.admits .int held = true) :
    Agrees reread .int .usize held ↔ ∀ number, held = .int number → 0 ≤ number := by
  cases held with
  | int number =>
      simp only [KotlinType.admits, Bool.and_eq_true, decide_eq_true_eq] at admitted
      constructor
      · rintro ⟨taken, read, -⟩ _ same
        cases same
        change Value.int <$> readInt _ _ (.int number) = _ at read
        by_cases within : 0 ≤ number
        · exact within
        · have refused : readInt 0 (2 ^ 64 - 1) (.int number) = .error .invalidValue :=
            if_neg fun both => within both.1
          rw [refused] at read
          cases read
      · intro nonNegative
        have bound : number ≤ 2 ^ 64 - 1 := by omega
        exact ⟨.int number, readInt_of_within ⟨nonNegative number rfl, bound⟩, .int number⟩
  | _ => cases admitted

theorem kept_of_int {reread : Double → Option Double} {held : KotlinValue}
    (admitted : KotlinType.admits .int held = true) : Kept reread held := by
  cases held with
  | int number => exact (kept_leaf rfl).mpr trivial
  | _ => cases admitted

/-- Where the tables make an obstacle, a field agrees unless it is met. -/
theorem fieldAgrees_iff_clear {reread : Double → Option Double} {obstacle : Obstacle}
    {property : Property KotlinType} {rustField : RustField RustType}
    {member : String × KotlinValue}
    (explained : obstacle.explains property rustField = true)
    (named : rustField.name = property.name) (admitted : admitsMember property member = true) :
    FieldAgrees reread property rustField member ↔
      obstacle.Clear member.2 ∧ Kept reread member.2 := by
  rw [fieldAgrees_iff named admitted]
  unfold Obstacle.explains at explained
  split at explained
  · -- a required number
    have typed := typed_of_written (by rfl) admitted
    simpa [Declared.omits, Obstacle.Clear, kept_of_int typed] using agrees_usize_iff typed
  · -- a number with a default
    rw [Bool.and_eq_true, decide_eq_true_eq] at explained
    cases omitted : Declared.omits _ member.2 with
    | true =>
        have absent := absent_of_agrees explained.2 omitted
        have atDefault := Literal.isKotlin_iff.mp omitted
        simp only [true_and, Bool.true_eq_false, false_and, or_false]
        refine iff_of_true absent ⟨?_, kept_of_omitted omitted⟩
        intro number same
        rw [atDefault] at same
        cases same
        exact explained.1
    | false =>
        have typed := typed_of_written omitted admitted
        simpa [Obstacle.Clear, kept_of_int typed] using agrees_usize_iff typed
  · -- a default that is required
    rw [Bool.and_eq_true, decide_eq_true_eq] at explained
    obtain ⟨rfl, lossless⟩ := explained
    cases omitted : Declared.omits _ member.2 with
    | true =>
        have atDefault := Literal.isKotlin_iff.mp omitted
        simp [Presence.absent, Obstacle.Clear, atDefault]
    | false =>
        have typed := typed_of_written omitted admitted
        have other : member.2 ≠ _ := fun same =>
          Bool.eq_false_iff.mp omitted (Literal.isKotlin_iff.mpr same)
        simpa [Obstacle.Clear, other] using agrees_iff_kept _ lossless typed
  · cases explained

/-- A property is lossless, or the obstacle is what its tables make. -/
def faithfulProperty (fields : List (RustField RustType)) (obstacle : Option Obstacle)
    (property : Property KotlinType) : Bool :=
  match obstacle.filter fun met => met.name == property.name, fieldNamed property.name fields with
  | none, _ => losslessProperty property fields
  | some _, none => false
  | some met, some rustField => met.explains property rustField

/-- Nothing but the obstacle can keep an instance from its reader. -/
def faithful (properties : List (Property KotlinType)) (fields : List (RustField RustType))
    (obstacle : Option Obstacle) : Bool :=
  wellNamed properties fields && properties.all (faithfulProperty fields obstacle)

section Faithful

variable {reread : Double → Option Double} {properties : List (Property KotlinType)}
  {fields : List (RustField RustType)} {obstacle : Option Obstacle}
  {members : List (String × KotlinValue)}

theorem found_of_faithful (tables : faithful properties fields obstacle = true)
    {property : Property KotlinType} (listed : property ∈ properties) :
    ∃ rustField, fieldNamed property.name fields = some rustField ∧
      ((∀ met ∈ obstacle, met.name ≠ property.name) ∧
          losslessProperty property fields = true ∨
        ∃ met ∈ obstacle, met.name = property.name ∧
          met.explains property rustField = true) := by
  rw [faithful, Bool.and_eq_true] at tables
  have own := List.all_eq_true.mp tables.2 property listed
  unfold faithfulProperty at own
  split at own
  · rename_i clear
    obtain ⟨rustField, found, -⟩ := losslessProperty_iff.mp own
    refine ⟨rustField, found, .inl ⟨?_, own⟩⟩
    intro met isObstacle sameName
    simpa [sameName] using Option.filter_eq_none_iff.mp clear met isObstacle
  · cases own
  · rename_i met rustField filtered found
    obtain ⟨isObstacle, sameName⟩ := Option.filter_eq_some_iff.mp filtered
    exact ⟨rustField, found, .inr ⟨met, isObstacle, beq_iff_eq.mp sameName, own⟩⟩

/-- The field of a property agrees with a member exactly if the member is not what stands
in the way and its texts and doubles are kept. -/
theorem fieldAgrees_iff_of_faithful (tables : faithful properties fields obstacle = true)
    (admitted : admitsMembers properties members = true) {property : Property KotlinType}
    {member : String × KotlinValue} (paired : (property, member) ∈ properties.zip members) :
    ∃ rustField, fieldNamed property.name fields = some rustField ∧
      (FieldAgrees reread property rustField member ↔
        (∀ met ∈ obstacle, met.name = member.1 → met.Clear member.2) ∧
          Kept reread member.2) := by
  have memberAdmitted := admitsMember_of_paired admitted paired
  have named : member.1 = property.name := (admitsMember_iff.mp memberAdmitted).1
  obtain ⟨rustField, found, own⟩ := found_of_faithful tables (List.of_mem_zip paired).1
  refine ⟨rustField, found, ?_⟩
  rw [named]
  rcases own with ⟨clear, lossless⟩ | ⟨met, isObstacle, sameName, explained⟩
  · obtain ⟨_, foundHere, agrees, same⟩ := losslessProperty_iff.mp lossless
    cases found.symm.trans foundHere
    rw [fieldAgrees_iff_kept (name_of_fieldNamed found) memberAdmitted agrees
      (agrees_iff_kept property.type same)]
    exact ⟨fun kept => ⟨fun met isObstacle same => absurd same (clear met isObstacle), kept⟩,
      And.right⟩
  · rw [fieldAgrees_iff_clear explained (name_of_fieldNamed found) memberAdmitted]
    refine and_congr_left' ⟨?_, fun avoided => avoided met isObstacle sameName⟩
    intro clear other isOther _
    cases isObstacle.symm.trans isOther
    exact clear

/-- An instance agrees exactly if it avoids the obstacle of its tables and its texts and
doubles are kept. -/
theorem agrees_iff_avoided (tables : faithful properties fields obstacle = true)
    (admitted : admitsMembers properties members = true) :
    Agrees reread (.dataClass properties) (.struct fields) (.record members) ↔
      (∀ met ∈ obstacle, met.Avoided members) ∧ Kept reread (.record members) := by
  have named : wellNamed properties fields = true := (Bool.and_eq_true_iff.mp tables).1
  rw [agrees_struct_iff named admitted, kept_record]
  constructor
  · intro agree
    have each : ∀ member ∈ members,
        (∀ met ∈ obstacle, met.name = member.1 → met.Clear member.2) ∧
          Kept reread member.2 := by
      intro member listed
      obtain ⟨property, paired⟩ := paired_of_member admitted listed
      obtain ⟨rustField, found, iff⟩ := fieldAgrees_iff_of_faithful tables admitted paired
      obtain ⟨_, foundHere, agrees⟩ := agree property member paired
      cases found.symm.trans foundHere
      exact iff.mp agrees
    exact ⟨fun met isObstacle held listed => (each _ listed).1 met isObstacle rfl,
      fun member listed => (each member listed).2⟩
  · rintro ⟨avoided, kept⟩ property member paired
    obtain ⟨rustField, found, iff⟩ := fieldAgrees_iff_of_faithful tables admitted paired
    have listed := (List.of_mem_zip paired).2
    refine ⟨rustField, found, iff.mpr ⟨?_, kept member listed⟩⟩
    intro met isObstacle same
    apply avoided met isObstacle member.2
    rw [same]
    exact listed

end Faithful

end Kotlogramme.Protocol
