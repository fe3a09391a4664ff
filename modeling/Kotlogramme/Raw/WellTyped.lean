/-
Which schemas and which values the codec is for.

A well-formed schema can be told apart by name and by id, and declares its
flag words before the fields that use them.  A value is well typed when its
declaration can carry it: all or none of the fields that share a flag bit,
nothing for a flag word, and a text and a vector size the wire admits.
-/

import Kotlogramme.Raw.DynamicCodec

namespace Kotlogramme.Raw

/-! ### Well-formed schemas -/

/-- A type a parameter may have, `#` and `true` aside. -/
inductive PlainType : JString → Prop
  | primitive {type : JString} (shape : typeShape type ∈ [TypeShape.int, .long, .double, .string,
      .bytes, .int128, .int256, .bool]) : PlainType type
  | vector {type elementType : JString} (shape : typeShape type = .vector elementType)
      (element : PlainType elementType) : PlainType type
  | boxed {type : JString} (shape : typeShape type = .boxed) (concrete : type ≠ variableType) :
      PlainType type

theorem PlainType.element {type elementType : JString} (plain : PlainType type)
    (shape : typeShape type = .vector elementType) : PlainType elementType := by
  cases plain with
  | primitive primitive => simp [shape] at primitive
  | vector same element =>
      cases shape.symm.trans same
      exact element
  | boxed boxed => cases shape.symm.trans boxed

theorem PlainType.concrete {type : JString} (plain : PlainType type)
    (shape : typeShape type = .boxed) : type ≠ variableType := by
  cases plain with
  | primitive primitive => simp [shape] at primitive
  | vector same => cases shape.symm.trans same
  | boxed _ concrete => exact concrete

theorem PlainType.not_generic {type : JString} (plain : PlainType type) :
    typeShape type ≠ .generic := by
  intro shape
  cases plain with
  | primitive primitive => simp [shape] at primitive
  | vector same => cases shape.symm.trans same
  | boxed boxed => cases shape.symm.trans boxed

/-- The flag word of every field is one of `words` or comes before the field. -/
def flagWordsFirst (words : List JString) : List Field → Bool
  | [] => true
  | field :: rest =>
      (match field.flag with
        | none => true
        | some (flagName, _) => words.contains flagName) &&
      flagWordsFirst (if field.type = flagsType then field.name :: words else words) rest

structure WellFormedFields (fields : List Field) : Prop where
  names : (fields.map Field.name).Nodup
  bits : ∀ field ∈ fields, ∀ flag ∈ field.flag, flag.2 ≤ 31
  order : flagWordsFirst [] fields = true
  types : ∀ field ∈ fields, field.type = flagsType ∨ field.type = trueType ∨ PlainType field.type

theorem name_not_mem_passed {fields passed rest : List Field} {field : Field}
    (names : (fields.map Field.name).Nodup) (split : fields = passed ++ field :: rest) :
    field.name ∉ passed.map Field.name := by
  rw [split, List.map_append, List.map_cons] at names
  intro repeated
  exact (List.nodup_append.mp names).2.2 _ repeated _ List.mem_cons_self rfl

/-- A declaration whose parameters do not parse, such as `vector`, is left
aside: no value of it is written or read. -/
structure RawSchema.WellFormed (schema : RawSchema) : Prop where
  names : ∀ left ∈ schema.constructors, ∀ right ∈ schema.constructors,
    left.name = right.name → left = right
  ids : ∀ left ∈ schema.constructors, ∀ right ∈ schema.constructors,
    left.constructorId = right.constructorId → left = right
  declarations : ∀ constructor ∈ schema.constructors, ∀ fields,
    parseFields constructor.parameters = .ok fields → WellFormedFields fields

theorem RawSchema.WellFormed.constructorsByName_of_mem {schema : RawSchema}
    (formed : schema.WellFormed) {constructor : RawConstructor}
    (member : constructor ∈ schema.constructors) :
    schema.constructorsByName constructor.name = some constructor :=
  LinkedMap.associateBy_of_mem RawConstructor.name schema.constructors constructor member
    formed.names

theorem RawSchema.WellFormed.constructorsById_of_mem {schema : RawSchema}
    (formed : schema.WellFormed) {constructor : RawConstructor}
    (member : constructor ∈ schema.constructors) :
    schema.constructorsById constructor.constructorId = some constructor :=
  LinkedMap.associateBy_of_mem RawConstructor.constructorId schema.constructors constructor member
    formed.ids

/-! ### Equal values -/

/-- Equality of values, field maps being compared as maps. -/
inductive Same : RawValue → RawValue → Prop
  | intValue (value : BitVec 32) : Same (.intValue value) (.intValue value)
  | longValue (value : BitVec 64) : Same (.longValue value) (.longValue value)
  | doubleValue (value : BitVec 64) : Same (.doubleValue value) (.doubleValue value)
  | stringValue (value : JString) : Same (.stringValue value) (.stringValue value)
  | bytesValue (value : List Byte) : Same (.bytesValue value) (.bytesValue value)
  | booleanValue (value : Bool) : Same (.booleanValue value) (.booleanValue value)
  | vectorValue {left right : List RawValue} (size : left.length = right.length)
      (elements : ∀ (index : Nat) (first second : RawValue), left[index]? = some first →
        right[index]? = some second → Same first second) :
      Same (.vectorValue left) (.vectorValue right)
  | object {name : JString} {left right : FieldMap}
      (keys : ∀ key, (left.lookup key).isSome = (right.lookup key).isSome)
      (values : ∀ (key : JString) (first second : RawValue), left.lookup key = some first →
        right.lookup key = some second → Same first second) :
      Same (.object name left) (.object name right)

theorem Same.symm {left right : RawValue} (same : Same left right) : Same right left := by
  induction same with
  | vectorValue size elements ih =>
      exact .vectorValue size.symm fun index first second inRight inLeft =>
        ih index second first inLeft inRight
  | object keys values ih =>
      exact .object (fun key => (keys key).symm) fun key first second inRight inLeft =>
        ih key second first inLeft inRight
  | intValue value => exact .intValue value
  | longValue value => exact .longValue value
  | doubleValue value => exact .doubleValue value
  | stringValue value => exact .stringValue value
  | bytesValue value => exact .bytesValue value
  | booleanValue value => exact .booleanValue value

/-! ### Well-typed values -/

/-- A field map a parameter list can carry, whatever the types of its values. -/
structure Carried (fields : List Field) (values : FieldMap) : Prop where
  known : ∀ key ∈ LinkedMap.keys values, key ∈ fields.map Field.name
  required : ∀ field ∈ fields, field.type ≠ flagsType → field.flag = none →
    LinkedMap.containsKey values field.name = true
  flagWords : ∀ field ∈ fields, field.type = flagsType →
    LinkedMap.containsKey values field.name = false
  present : ∀ field ∈ fields, field.type = trueType →
    ∀ value ∈ values.lookup field.name, value = .booleanValue true
  /-- All or none of the fields that share a flag bit are there. -/
  shared : ∀ left ∈ fields, ∀ right ∈ fields, left.type ≠ flagsType → right.type ≠ flagsType →
    ∀ flag ∈ left.flag, right.flag = some flag →
      LinkedMap.containsKey values left.name = LinkedMap.containsKey values right.name

/-- A text the wire gives back as it was. -/
def Writable (string : JString) : Prop :=
  Utf.wellFormed string = true ∧ (Utf.encodeUtf8 string).length ≤ maxByteArraySize

/-- The values of a type; `admits` says which texts are allowed. -/
inductive WellTyped (admits : JString → Prop) (schema : RawSchema) : JString → RawValue → Prop
  | int {type : JString} {value : BitVec 32} (shape : typeShape type = .int) :
      WellTyped admits schema type (.intValue value)
  | long {type : JString} {value : BitVec 64} (shape : typeShape type = .long) :
      WellTyped admits schema type (.longValue value)
  | double {type : JString} {value : BitVec 64} (shape : typeShape type = .double) :
      WellTyped admits schema type (.doubleValue value)
  | string {type value : JString} (shape : typeShape type = .string) (admitted : admits value) :
      WellTyped admits schema type (.stringValue value)
  | bytes {type : JString} {value : List Byte} (shape : typeShape type = .bytes)
      (small : value.length ≤ maxByteArraySize) :
      WellTyped admits schema type (.bytesValue value)
  | int128 {type : JString} {value : List Byte} (shape : typeShape type = .int128)
      (size : value.length = 16) : WellTyped admits schema type (.bytesValue value)
  | int256 {type : JString} {value : List Byte} (shape : typeShape type = .int256)
      (size : value.length = 32) : WellTyped admits schema type (.bytesValue value)
  | bool {type : JString} {value : Bool} (shape : typeShape type = .bool) :
      WellTyped admits schema type (.booleanValue value)
  | vector {type elementType : JString} {values : List RawValue}
      (shape : typeShape type = .vector elementType) (small : values.length ≤ maxVectorSize)
      (elements : ∀ value ∈ values, WellTyped admits schema elementType value) :
      WellTyped admits schema type (.vectorValue values)
  | object {type : JString} {constructor : RawConstructor} {fields : List Field}
      {values : FieldMap} (shape : typeShape type = .boxed) (concrete : type ≠ variableType)
      (member : constructor ∈ schema.constructors)
      (result : matchesType constructor.result type = true)
      (parsed : parseFields constructor.parameters = .ok fields)
      (carried : Carried fields values)
      (typed : ∀ field ∈ fields, field.type ≠ flagsType → field.type ≠ trueType → ∀ value,
        values.lookup field.name = some value → WellTyped admits schema field.type value) :
      WellTyped admits schema type (.object constructor.name values)

structure WellTypedFields (admits : JString → Prop) (schema : RawSchema) (fields : List Field)
    (values : FieldMap) : Prop where
  carried : Carried fields values
  typed : ∀ field ∈ fields, field.type ≠ flagsType → field.type ≠ trueType → ∀ value,
    values.lookup field.name = some value → WellTyped admits schema field.type value

/-! ### An extract of the bundled schema -/

private def declared (name : JString) (constructorId : Int) (parameters result : JString) :
    RawConstructor :=
  { name, constructorId := BitVec.ofInt 32 constructorId, parameters, result }

private def function (name : JString) (constructorId : Int) (parameters result : JString) :
    RawMethod :=
  { name, constructorId := BitVec.ofInt 32 constructorId, parameters, result }

def messageEntityBold : RawConstructor :=
  declared (text "messageEntityBold") (-1117713463) (text "offset:int length:int")
    (text "MessageEntity")

def textWithEntities : RawConstructor :=
  declared (text "textWithEntities") 1964978502 (text "text:string entities:Vector<MessageEntity>")
    (text "TextWithEntities")

def factCheck : RawConstructor :=
  declared (text "factCheck") (-1197736753)
    (text "flags:# need_check:flags.0?true country:flags.1?string " ++
      text "text:flags.1?TextWithEntities hash:long")
    (text "FactCheck")

def nearestDc : RawConstructor :=
  declared (text "nearestDc") (-1910892683) (text "country:string this_dc:int nearest_dc:int")
    (text "NearestDc")

def invokeAfterMsg : RawMethod :=
  function (text "invokeAfterMsg") (-878758099) (text "\x7bX:Type\x7d msg_id:long query:!X") (text "X")

def getNearestDc : RawMethod :=
  function (text "help.getNearestDc") 531836966 [] (text "NearestDc")

def getContactIDs : RawMethod :=
  function (text "contacts.getContactIDs") 2061264541 (text "hash:long") (text "Vector<int>")

def layer232Extract : RawSchema where
  constructors :=
    [declared (text "vector") 481674261 (text "\x7bt:Type\x7d # [ t ]") (text "Vector t"),
      messageEntityBold, textWithEntities, factCheck, nearestDc]
  functions := [invokeAfterMsg, getNearestDc, getContactIDs]
  layer := 232

theorem messageEntityBold_fields : parseFields messageEntityBold.parameters =
    .ok [⟨text "offset", text "int", none⟩, ⟨text "length", text "int", none⟩] := by
  decide

theorem textWithEntities_fields : parseFields textWithEntities.parameters =
    .ok [⟨text "text", text "string", none⟩,
      ⟨text "entities", text "Vector<MessageEntity>", none⟩] := by
  decide

theorem factCheck_fields : parseFields factCheck.parameters =
    .ok [⟨text "flags", text "#", none⟩, ⟨text "need_check", text "true", some (text "flags", 0)⟩,
      ⟨text "country", text "string", some (text "flags", 1)⟩,
      ⟨text "text", text "TextWithEntities", some (text "flags", 1)⟩,
      ⟨text "hash", text "long", none⟩] := by
  decide

theorem nearestDc_fields : parseFields nearestDc.parameters =
    .ok [⟨text "country", text "string", none⟩, ⟨text "this_dc", text "int", none⟩,
        ⟨text "nearest_dc", text "int", none⟩] := by
  decide

/-- What of a parameter list can be decided by running it. -/
private theorem wellFormedFields_of_checks {fields : List Field}
    (names : (fields.map Field.name).Nodup)
    (bits : ∀ field ∈ fields, ∀ flag ∈ field.flag, flag.2 ≤ 31)
    (order : flagWordsFirst [] fields = true)
    (types : ∀ field ∈ fields, field.type = flagsType ∨ field.type = trueType ∨
      (typeShape field.type = .boxed ∧ field.type ≠ variableType) ∨
      typeShape field.type ∈ [TypeShape.int, .long, .double, .string, .bytes, .int128, .int256,
        .bool] ∨
      typeShape field.type = .vector (text "MessageEntity")) : WellFormedFields fields := by
  refine ⟨names, bits, order, fun field member => ?_⟩
  rcases types field member with word | isTrue | boxed | primitive | vector
  · exact .inl word
  · exact .inr (.inl isTrue)
  · exact .inr (.inr (.boxed boxed.1 boxed.2))
  · exact .inr (.inr (.primitive primitive))
  · exact .inr (.inr (.vector vector (.boxed (by decide) (by decide))))

theorem layer232Extract_wellFormed : layer232Extract.WellFormed := by
  refine ⟨by decide, by decide, ?_⟩
  intro constructor member fields parsed
  simp only [layer232Extract, List.mem_cons, List.not_mem_nil, or_false] at member
  rcases member with rfl | rfl | rfl | rfl | rfl
  · have failed : parseFields (text "\x7bt:Type\x7d # [ t ]") = .error (.unsupportedParameter
        (text "#")) := by decide
    simp only [declared, failed] at parsed
    cases parsed
  · cases messageEntityBold_fields.symm.trans parsed
    exact wellFormedFields_of_checks (by decide) (by decide) (by decide) (by decide)
  · cases textWithEntities_fields.symm.trans parsed
    exact wellFormedFields_of_checks (by decide) (by decide) (by decide) (by decide)
  · cases factCheck_fields.symm.trans parsed
    exact wellFormedFields_of_checks (by decide) (by decide) (by decide) (by decide)
  · cases nearestDc_fields.symm.trans parsed
    exact wellFormedFields_of_checks (by decide) (by decide) (by decide) (by decide)

private def isTrueValue : RawValue → Bool
  | .booleanValue true => true
  | _ => false

/-- What of a field map can be decided by running it. -/
private theorem carried_of_checks {fields : List Field} {values : FieldMap}
    (known : ∀ key ∈ LinkedMap.keys values, key ∈ fields.map Field.name)
    (required : ∀ field ∈ fields, field.type ≠ flagsType → field.flag = none →
      LinkedMap.containsKey values field.name = true)
    (flagWords : ∀ field ∈ fields, field.type = flagsType →
      LinkedMap.containsKey values field.name = false)
    (present : ∀ field ∈ fields, field.type = trueType →
      (values.lookup field.name).all isTrueValue = true)
    (shared : ∀ left ∈ fields, ∀ right ∈ fields, left.type ≠ flagsType →
      right.type ≠ flagsType → ∀ flag ∈ left.flag, right.flag = some flag →
        LinkedMap.containsKey values left.name = LinkedMap.containsKey values right.name) :
    Carried fields values := by
  refine ⟨known, required, flagWords, fun field member isTrue value found => ?_, shared⟩
  have checked := present field member isTrue
  rw [Option.mem_def.mp found, Option.all_some] at checked
  unfold isTrueValue at checked
  split at checked
  · rfl
  · cases checked

/-- A field map with a nested object, in it a vector of objects. -/
def factCheckValues : FieldMap :=
  [(text "need_check", .booleanValue true), (text "country", .stringValue (text "AT")),
    (text "text", .object (text "textWithEntities") [(text "text", .stringValue (text "bold")),
      (text "entities", .vectorValue [.object (text "messageEntityBold")
        [(text "offset", .intValue 0), (text "length", .intValue 4)]])]),
    (text "hash", .longValue 7)]

private theorem bold_wellTyped (admits : JString → Prop) :
    WellTyped admits layer232Extract (text "MessageEntity") (.object (text "messageEntityBold")
      [(text "offset", .intValue 0), (text "length", .intValue 4)]) := by
  have carried : Carried [⟨text "offset", text "int", none⟩, ⟨text "length", text "int", none⟩]
      [(text "offset", .intValue 0), (text "length", .intValue 4)] :=
    carried_of_checks (by decide) (by decide) (by decide) (by decide) (by decide)
  apply WellTyped.object (by decide) (by decide) (by decide : messageEntityBold ∈ _) (by decide)
    messageEntityBold_fields carried
  simp only [List.forall_mem_cons]
  refine ⟨fun _ _ value found => ?_, fun _ _ value found => ?_, by simp⟩
  · cases found
    exact .int (by decide)
  · cases found
    exact .int (by decide)

private theorem writable_of_checks {string : JString} (formed : Utf.wellFormed string = true)
    (small : (Utf.encodeUtf8 string).length ≤ 100) : Writable string :=
  ⟨formed, Nat.le_trans small (by decide)⟩

private theorem text_wellTyped : WellTyped Writable layer232Extract (text "TextWithEntities")
    (.object (text "textWithEntities") [(text "text", .stringValue (text "bold")),
      (text "entities", .vectorValue [.object (text "messageEntityBold")
        [(text "offset", .intValue 0), (text "length", .intValue 4)]])]) := by
  have carried : Carried [⟨text "text", text "string", none⟩,
      ⟨text "entities", text "Vector<MessageEntity>", none⟩]
      [(text "text", .stringValue (text "bold")),
        (text "entities", .vectorValue [.object (text "messageEntityBold")
          [(text "offset", .intValue 0), (text "length", .intValue 4)]])] :=
    carried_of_checks (by decide) (by decide) (by decide) (by decide) (by decide)
  apply WellTyped.object (by decide) (by decide) (by decide : textWithEntities ∈ _) (by decide)
    textWithEntities_fields carried
  simp only [List.forall_mem_cons]
  refine ⟨fun _ _ value found => ?_, fun _ _ value found => ?_, by simp⟩
  · cases found
    exact .string (by decide) (writable_of_checks (by decide) (by decide))
  · cases found
    apply WellTyped.vector (by decide : typeShape (text "Vector<MessageEntity>") =
      .vector (text "MessageEntity")) (by decide)
    intro value member
    rw [List.mem_singleton.mp member]
    exact bold_wellTyped Writable

theorem factCheckValues_wellTyped : WellTyped Writable layer232Extract (text "FactCheck")
    (.object (text "factCheck") factCheckValues) := by
  have carried : Carried [⟨text "flags", text "#", none⟩,
      ⟨text "need_check", text "true", some (text "flags", 0)⟩,
      ⟨text "country", text "string", some (text "flags", 1)⟩,
      ⟨text "text", text "TextWithEntities", some (text "flags", 1)⟩,
      ⟨text "hash", text "long", none⟩] factCheckValues :=
    carried_of_checks (by decide) (by decide) (by decide) (by decide) (by decide)
  apply WellTyped.object (by decide) (by decide) (by decide : factCheck ∈ _) (by decide)
    factCheck_fields carried
  simp only [List.forall_mem_cons]
  refine ⟨fun notWord => absurd rfl notWord, fun _ notTrue => absurd rfl notTrue,
    fun _ _ value found => ?_, fun _ _ value found => ?_, fun _ _ value found => ?_, by simp⟩
  · cases found
    exact .string (by decide) (writable_of_checks (by decide) (by decide))
  · cases found
    exact text_wellTyped
  · cases found
    exact .long (by decide)

end Kotlogramme.Raw
