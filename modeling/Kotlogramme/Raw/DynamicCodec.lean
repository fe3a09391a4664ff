/-
The codec that writes and reads raw values by the bundled schema.

Both directions interpret the parameter list of a declaration.  The writer
derives every flag word from the keys of the field map it is given; the reader
takes a guarded field exactly when its bit is set in the word it has read.
-/

import Kotlogramme.Raw.TlCodec

namespace Kotlogramme.Raw

/-- A TL value.  A double stands for its raw bits, and a field map for the
entries that `List.lookup` reads. -/
inductive RawValue
  | intValue (value : BitVec 32)
  | longValue (value : BitVec 64)
  | doubleValue (value : BitVec 64)
  | stringValue (value : JString)
  | bytesValue (value : List Byte)
  | booleanValue (value : Bool)
  | vectorValue (values : List RawValue)
  | object (constructorName : JString) (fields : List (JString × RawValue))

abbrev FieldMap := List (JString × RawValue)

def RawValue.simpleName : RawValue → JString
  | .intValue _ => text "IntValue"
  | .longValue _ => text "LongValue"
  | .doubleValue _ => text "DoubleValue"
  | .stringValue _ => text "StringValue"
  | .bytesValue _ => text "BytesValue"
  | .booleanValue _ => text "BooleanValue"
  | .vectorValue _ => text "VectorValue"
  | .object _ _ => text "Object"

namespace RawSchema

def methods (schema : RawSchema) : JString → Option RawMethod :=
  LinkedMap.associateBy RawMethod.name schema.functions

def constructorsByName (schema : RawSchema) : JString → Option RawConstructor :=
  LinkedMap.associateBy RawConstructor.name schema.constructors

def constructorsById (schema : RawSchema) : BitVec 32 → Option RawConstructor :=
  LinkedMap.associateBy RawConstructor.constructorId schema.constructors

end RawSchema

def requireNotNull {α : Type} (failure : TlError) : Option α → Except TlError α
  | some value => .ok value
  | none => .error failure

def require (condition : Bool) (failure : TlError) : Except TlError Unit :=
  if condition then .ok () else .error failure

def typeError {α : Type} (expected : JString) (value : RawValue) : Except TlError α :=
  .error (.typeError expected value.simpleName)

/-- `1 shl bit`, which uses the five lowest bits of the distance. -/
def flagMask (flagBit : Nat) : BitVec 32 := 1#32 <<< (flagBit % 32)

/-! ### Writing -/

/-- The bit a field adds to the flag word of the given name. -/
def flagBits (values : FieldMap) (flagName : JString) (field : Field) : BitVec 32 :=
  match field.flag with
  | some (name, flagBit) =>
      if name = flagName ∧ LinkedMap.containsKey values field.name then flagMask flagBit else 0
  | none => 0

def flagWord (fields : List Field) (values : FieldMap) (flagName : JString) : BitVec 32 :=
  fields.foldl (fun bits field => bits ||| flagBits values flagName field) 0

def requireBoolean (values : FieldMap) (name : JString) (expected : Bool) : Except TlError Unit :=
  match values.lookup name with
  | some (.booleanValue value) => require (value == expected) (.mustBe name expected)
  | _ => .error (.mustBe name expected)

/-- What one field contributes to the body, `fields` being all of the
declaration. -/
def writeField (writeNamed : JString → JString → Except TlError (List Byte)) (fields : List Field)
    (values : FieldMap) (field : Field) : Except TlError (List Byte) :=
  if field.type = flagsType then .ok (TlWriter.int (flagWord fields values field.name))
  else if field.flag.isSome && !LinkedMap.containsKey values field.name then .ok []
  else if field.type = trueType then do
    requireBoolean values field.name true
    return []
  else writeNamed field.name field.type

def writeEach (write : Field → Except TlError (List Byte)) :
    List Field → Except TlError (List Byte)
  | [] => .ok []
  | field :: rest => do
      let here ← write field
      let later ← writeEach write rest
      return here ++ later

/-- `writeNamed name type` writes the value of a key at a type. -/
def writeFields (writeNamed : JString → JString → Except TlError (List Byte)) (fields : List Field)
    (values : FieldMap) : Except TlError (List Byte) := do
  let allowed := fields.map Field.name
  require ((LinkedMap.keys values).all fun key => allowed.contains key)
    (.unknownFields ((LinkedMap.keys values).filter fun key => !allowed.contains key))
  writeEach (writeField writeNamed fields values) fields

def writeParameters (writeNamed : JString → JString → Except TlError (List Byte))
    (parameters : JString) (values : FieldMap) : Except TlError (List Byte) := do
  let fields ← parseFields parameters
  writeFields writeNamed fields values

/-- The fields of a declaration, written after its id. -/
def writeDeclared (writeNamed : JString → JString → Except TlError (List Byte))
    (constructorId : BitVec 32) (parameters : JString) (values : FieldMap) :
    Except TlError (List Byte) := do
  let body ← writeParameters writeNamed parameters values
  return TlWriter.constructor constructorId ++ body

def writeObjectWith (writeNamed : JString → JString → Except TlError (List Byte))
    (schema : RawSchema) (constructorName : JString) (fields : FieldMap)
    (expectedType : JString) : Except TlError (List Byte) := do
  let constructor ← requireNotNull (.unknownConstructor schema.layer constructorName)
    (schema.constructorsByName constructorName)
  require (matchesType constructor.result expectedType)
    (.wrongResult constructorName constructor.result expectedType)
  writeDeclared writeNamed constructor.constructorId constructor.parameters fields

def writeUntypedObjectWith (writeNamed : JString → JString → Except TlError (List Byte))
    (schema : RawSchema) (constructorName : JString) (fields : FieldMap) :
    Except TlError (List Byte) := do
  let constructor ← requireNotNull (.unknownConstructor schema.layer constructorName)
    (schema.constructorsByName constructorName)
  writeDeclared writeNamed constructor.constructorId constructor.parameters fields

def fixedBytes (value : RawValue) (size : Nat) (type : JString) : Except TlError (List Byte) :=
  match value with
  | .bytesValue bytes => do
      require (bytes.length == size) (.wrongSize type size)
      return bytes
  | _ => typeError type value

mutual

def writeValue (schema : RawSchema) (value : RawValue) (type : JString) :
    Except TlError (List Byte) :=
  match typeShape type with
  | .int => match value with
    | .intValue number => .ok (TlWriter.int number)
    | _ => typeError type value
  | .long => match value with
    | .longValue number => .ok (TlWriter.long number)
    | _ => typeError type value
  | .double => match value with
    | .doubleValue number => .ok (TlWriter.double number)
    | _ => typeError type value
  | .string => match value with
    | .stringValue string => TlWriter.string string
    | _ => typeError type value
  | .bytes => match value with
    | .bytesValue bytes => TlWriter.bytes bytes
    | _ => typeError type value
  | .int128 => fixedBytes value 16 type
  | .int256 => fixedBytes value 32 type
  | .bool => match value with
    | .booleanValue boolean => .ok (TlWriter.boolean boolean)
    | _ => typeError type value
  | .vector elementType => match value with
    | .vectorValue values => do
        let elements ← writeElements schema values elementType
        return TlWriter.vectorHeader values.length ++ elements
    | _ => typeError type value
  | .generic => match value with
    | .object constructorName fields =>
        writeUntypedObjectWith (fun name type => writeEntry schema fields name type) schema
          constructorName fields
    | _ => typeError (text "generic object") value
  | .boxed => match value with
    | .object constructorName fields =>
        writeObjectWith (fun name type => writeEntry schema fields name type) schema
          constructorName fields type
    | _ => typeError type value

/-- The elements of a vector, one after the other. -/
def writeElements (schema : RawSchema) (values : List RawValue) (type : JString) :
    Except TlError (List Byte) :=
  match values with
  | [] => .ok []
  | value :: rest => do
      let here ← writeValue schema value type
      let later ← writeElements schema rest type
      return here ++ later

/-- The value of a key, which has to be there. -/
def writeEntry (schema : RawSchema) (entries : List (JString × RawValue)) (name type : JString) :
    Except TlError (List Byte) :=
  match entries with
  | [] => .error (.missingField name)
  | (key, value) :: rest =>
      if key == name then writeValue schema value type else writeEntry schema rest name type

end

def writeObject (schema : RawSchema) (constructorName : JString) (fields : FieldMap)
    (expectedType : JString) : Except TlError (List Byte) :=
  writeObjectWith (writeEntry schema fields) schema constructorName fields expectedType

def writeUntypedObject (schema : RawSchema) (constructorName : JString) (fields : FieldMap) :
    Except TlError (List Byte) :=
  writeUntypedObjectWith (writeEntry schema fields) schema constructorName fields

def encodeMethod (schema : RawSchema) (name : JString) (fields : FieldMap) :
    Except TlError (List Byte) := do
  let method ← requireNotNull (.unknownMethod schema.layer name) (schema.methods name)
  writeDeclared (writeEntry schema fields) method.constructorId method.parameters fields

/-! ### Reading -/

/-- Whether a field is on the wire, by the flag words read so far. -/
def isGiven (flags : List (JString × BitVec 32)) (field : Field) : Except TlError Bool :=
  match field.flag with
  | none => .ok true
  | some (flagName, flagBit) => do
      let word ← requireNotNull .requiredNull (flags.lookup flagName)
      return (word &&& flagMask flagBit) != 0

def readFields (readValue : JString → TlReader RawValue) :
    List Field → List (JString × BitVec 32) → FieldMap → TlReader FieldMap
  | [], _, values => pure values
  | field :: rest, flags, values =>
      if field.type = flagsType then do
        let word ← TlReader.int
        readFields readValue rest (LinkedMap.put flags field.name word) values
      else do
        let given ← isGiven flags field
        if !given then readFields readValue rest flags values
        else if field.type = trueType then
          readFields readValue rest flags
            (LinkedMap.put values field.name (.booleanValue true))
        else do
          let value ← readValue field.type
          readFields readValue rest flags (LinkedMap.put values field.name value)

def requireResult (constructor : RawConstructor) : Option JString → Except TlError Unit
  | some expectedType => require (matchesType constructor.result expectedType)
      (.wrongResult constructor.name constructor.result expectedType)
  | none => .ok ()

def readObjectWith (readValue : JString → TlReader RawValue) (schema : RawSchema)
    (expectedType : Option JString) : TlReader RawValue := do
  let constructorId ← TlReader.int
  let constructor ← requireNotNull (.unknownConstructorId schema.layer constructorId)
    (schema.constructorsById constructorId)
  requireResult constructor expectedType
  let fields ← parseFields constructor.parameters
  let values ← readFields readValue fields [] []
  return .object constructor.name values

/-- `fuel` bounds the nesting; the codec itself recurses without a bound. -/
def readValueWithin (action : CodingErrorAction) (schema : RawSchema) :
    Nat → JString → TlReader RawValue
  | 0, _ => throw .depthExceeded
  | fuel + 1, type =>
      match typeShape type with
      | .int => RawValue.intValue <$> TlReader.int
      | .long => RawValue.longValue <$> TlReader.long
      | .double => RawValue.doubleValue <$> TlReader.double
      | .string => RawValue.stringValue <$> TlReader.string action
      | .bytes => RawValue.bytesValue <$> TlReader.bytes
      | .int128 => RawValue.bytesValue <$> TlReader.fixedBytes 16
      | .int256 => RawValue.bytesValue <$> TlReader.fixedBytes 32
      | .bool => RawValue.booleanValue <$> TlReader.boolean
      | .vector elementType =>
          RawValue.vectorValue <$> TlReader.vector (readValueWithin action schema fuel elementType)
      | .generic => readObjectWith (readValueWithin action schema fuel) schema none
      | .boxed => readObjectWith (readValueWithin action schema fuel) schema
          (if type = variableType then none else some type)

/-- Every nested value takes bytes of its own, so that the length of the input
bounds the nesting. -/
def readValue (action : CodingErrorAction) (schema : RawSchema) (type : JString) :
    TlReader RawValue := fun input =>
  (readValueWithin action schema (input.length + 1) type).run input

def readObject (action : CodingErrorAction) (schema : RawSchema) (expectedType : Option JString) :
    TlReader RawValue := fun input =>
  (readObjectWith (readValueWithin action schema input.length) schema expectedType).run input

def requireFullyRead : TlReader Unit := fun input =>
  if input.length = 0 then .ok ((), input) else .error (.trailingBytes input.length)

/-- The codec replaces malformed UTF-8, as `String(bytes, UTF_8)` does. -/
def decodeMethodResult (schema : RawSchema) (name : JString) (body : List Byte) :
    Except TlError RawValue := do
  let method ← requireNotNull (.unknownMethod schema.layer name) (schema.methods name)
  let (result, _) ← (do
    let result ← readValue .replace schema method.result
    requireFullyRead
    return result).run body
  return result

/-! ### What the writer accepts -/

open Decoder

theorem requireNotNull_eq_ok {α : Type} {failure : TlError} {found : Option α} {value : α} :
    requireNotNull failure found = .ok value ↔ found = some value := by
  cases found with
  | none => simp [requireNotNull]
  | some other => simp [requireNotNull]

theorem require_eq_ok {condition : Bool} {failure : TlError} :
    require condition failure = .ok () ↔ condition = true := by
  cases condition <;> simp [require]

theorem writeEntry_eq (schema : RawSchema) (entries : FieldMap) (name type : JString) :
    writeEntry schema entries name type =
      match entries.lookup name with
      | some value => writeValue schema value type
      | none => .error (.missingField name) := by
  induction entries with
  | nil => rfl
  | cons entry rest ih =>
      rcases entry with ⟨key, value⟩
      rw [writeEntry, LinkedMap.lookup_cons]
      by_cases same : (key == name) = true
      · rw [if_pos same, if_pos same]
      · rw [if_neg same, if_neg same, ih]

theorem writeEntry_of_lookup {schema : RawSchema} {entries : FieldMap} {name : JString}
    {value : RawValue} (found : entries.lookup name = some value) (type : JString) :
    writeEntry schema entries name type = writeValue schema value type := by
  rw [writeEntry_eq, found]

/-- What the writer makes of a value, by the shape of its type. -/
structure WriterCases (schema : RawSchema) (type : JString) : Prop where
  int (shape : typeShape type = .int) (number : BitVec 32) :
    writeValue schema (.intValue number) type = .ok (TlWriter.int number)
  long (shape : typeShape type = .long) (number : BitVec 64) :
    writeValue schema (.longValue number) type = .ok (TlWriter.long number)
  double (shape : typeShape type = .double) (number : BitVec 64) :
    writeValue schema (.doubleValue number) type = .ok (TlWriter.double number)
  string (shape : typeShape type = .string) (string : JString) :
    writeValue schema (.stringValue string) type = TlWriter.string string
  bytes (shape : typeShape type = .bytes) (bytes : List Byte) :
    writeValue schema (.bytesValue bytes) type = TlWriter.bytes bytes
  int128 (shape : typeShape type = .int128) (value : RawValue) :
    writeValue schema value type = fixedBytes value 16 type
  int256 (shape : typeShape type = .int256) (value : RawValue) :
    writeValue schema value type = fixedBytes value 32 type
  bool (shape : typeShape type = .bool) (boolean : Bool) :
    writeValue schema (.booleanValue boolean) type = .ok (TlWriter.boolean boolean)
  vector {elementType : JString} (shape : typeShape type = .vector elementType)
    (values : List RawValue) :
    writeValue schema (.vectorValue values) type = do
      let elements ← writeElements schema values elementType
      return TlWriter.vectorHeader values.length ++ elements
  generic (shape : typeShape type = .generic) (constructorName : JString) (fields : FieldMap) :
    writeValue schema (.object constructorName fields) type =
      writeUntypedObject schema constructorName fields
  boxed (shape : typeShape type = .boxed) (constructorName : JString) (fields : FieldMap) :
    writeValue schema (.object constructorName fields) type =
      writeObject schema constructorName fields type

theorem writeValue_cases (schema : RawSchema) (type : JString) : WriterCases schema type := by
  constructor
  case vector =>
    intro elementType shape values
    unfold writeValue
    rw [shape]
  case generic =>
    intro shape constructorName fields
    unfold writeValue
    rw [shape]
    rfl
  case boxed =>
    intro shape constructorName fields
    unfold writeValue
    rw [shape]
    rfl
  all_goals
    intro shape held
    unfold writeValue
    rw [shape]

theorem fixedBytes_of_length {value : List Byte} {size : Nat} (fits : value.length = size)
    (type : JString) : fixedBytes (.bytesValue value) size type = .ok value := by
  simp only [fixedBytes, fits, beq_self_eq_true, require, if_true]
  rfl

section Field

variable {writeNamed : JString → JString → Except TlError (List Byte)} {fields : List Field}
  {values : FieldMap} {field : Field}

theorem writeField_flagWord (isWord : field.type = flagsType) :
    writeField writeNamed fields values field =
      .ok (TlWriter.int (flagWord fields values field.name)) := by
  rw [writeField, if_pos isWord]

theorem writeField_absent (notWord : field.type ≠ flagsType) (guarded : field.flag.isSome = true)
    (missing : values.lookup field.name = none) :
    writeField writeNamed fields values field = .ok [] := by
  have skipped : (field.flag.isSome && !LinkedMap.containsKey values field.name) = true := by
    rw [guarded, LinkedMap.containsKey_eq_false_iff.mpr missing]
    rfl
  rw [writeField, if_neg notWord, if_pos skipped]

theorem kept_of_lookup {value : RawValue} (found : values.lookup field.name = some value) :
    (field.flag.isSome && !LinkedMap.containsKey values field.name) = false := by
  rw [LinkedMap.containsKey_of_lookup found, Bool.not_true, Bool.and_false]

theorem writeField_true (notWord : field.type ≠ flagsType) (isTrue : field.type = trueType)
    (found : values.lookup field.name = some (.booleanValue true)) :
    writeField writeNamed fields values field = .ok [] := by
  rw [writeField, if_neg notWord, kept_of_lookup found, if_neg Bool.false_ne_true, if_pos isTrue,
    requireBoolean, found]
  rfl

theorem writeField_value (notWord : field.type ≠ flagsType) (notTrue : field.type ≠ trueType)
    {value : RawValue} (found : values.lookup field.name = some value) :
    writeField writeNamed fields values field = writeNamed field.name field.type := by
  rw [writeField, if_neg notWord, kept_of_lookup found, if_neg Bool.false_ne_true, if_neg notTrue]

end Field

theorem writeEach_cons {write : Field → Except TlError (List Byte)} {field : Field}
    {rest : List Field} {here later : List Byte} (wrote : write field = .ok here)
    (written : writeEach write rest = .ok later) :
    writeEach write (field :: rest) = .ok (here ++ later) := by
  rw [writeEach, wrote, written]
  rfl

theorem writeFields_eq_ok {writeNamed : JString → JString → Except TlError (List Byte)}
    {fields : List Field} {values : FieldMap} {body : List Byte} :
    writeFields writeNamed fields values = .ok body ↔
      (∀ key ∈ LinkedMap.keys values, key ∈ fields.map Field.name) ∧
        writeEach (writeField writeNamed fields values) fields = .ok body := by
  have allowed : ((LinkedMap.keys values).all fun key => (fields.map Field.name).contains key) =
      true ↔ ∀ key ∈ LinkedMap.keys values, key ∈ fields.map Field.name := by
    simp only [List.all_eq_true, List.contains_iff_mem]
  unfold writeFields
  rw [bind_eq_ok]
  constructor
  · rintro ⟨⟨⟩, checked, written⟩
    exact ⟨allowed.mp (require_eq_ok.mp checked), written⟩
  · rintro ⟨known, written⟩
    exact ⟨(), require_eq_ok.mpr (allowed.mpr known), written⟩

theorem writeParameters_of_parsed {writeNamed : JString → JString → Except TlError (List Byte)}
    {parameters : JString} {fields : List Field} (parsed : parseFields parameters = .ok fields)
    (values : FieldMap) :
    writeParameters writeNamed parameters values = writeFields writeNamed fields values := by
  rw [writeParameters, parsed]
  rfl

theorem writeDeclared_eq_ok {writeNamed : JString → JString → Except TlError (List Byte)}
    {constructorId : BitVec 32} {parameters : JString} {values : FieldMap} {bytes : List Byte} :
    writeDeclared writeNamed constructorId parameters values = .ok bytes ↔
      ∃ body, writeParameters writeNamed parameters values = .ok body ∧
        bytes = TlWriter.constructor constructorId ++ body := by
  unfold writeDeclared
  rw [bind_eq_ok]
  constructor
  · rintro ⟨body, accepted, same⟩
    exact ⟨body, accepted, (Except.ok.inj same).symm⟩
  · rintro ⟨body, accepted, same⟩
    exact ⟨body, accepted, congrArg Except.ok same.symm⟩

theorem writeUntypedObjectWith_eq_ok
    {writeNamed : JString → JString → Except TlError (List Byte)} {schema : RawSchema}
    {name : JString} {values : FieldMap} {bytes : List Byte} :
    writeUntypedObjectWith writeNamed schema name values = .ok bytes ↔
      ∃ constructor, schema.constructorsByName name = some constructor ∧
        writeDeclared writeNamed constructor.constructorId constructor.parameters values =
          .ok bytes := by
  unfold writeUntypedObjectWith
  rw [bind_eq_ok]
  simp only [requireNotNull_eq_ok]

theorem writeObjectWith_eq_ok {writeNamed : JString → JString → Except TlError (List Byte)}
    {schema : RawSchema} {name expectedType : JString} {values : FieldMap} {bytes : List Byte} :
    writeObjectWith writeNamed schema name values expectedType = .ok bytes ↔
      ∃ constructor, schema.constructorsByName name = some constructor ∧
        matchesType constructor.result expectedType = true ∧
        writeDeclared writeNamed constructor.constructorId constructor.parameters values =
          .ok bytes := by
  unfold writeObjectWith
  rw [bind_eq_ok]
  constructor
  · rintro ⟨constructor, found, written⟩
    obtain ⟨⟨⟩, matched, accepted⟩ := bind_eq_ok.mp written
    exact ⟨constructor, requireNotNull_eq_ok.mp found, require_eq_ok.mp matched, accepted⟩
  · rintro ⟨constructor, found, matched, accepted⟩
    exact ⟨constructor, requireNotNull_eq_ok.mpr found,
      bind_eq_ok.mpr ⟨(), require_eq_ok.mpr matched, accepted⟩⟩

/-! ### What the reader takes -/

theorem requireResult_eq_ok {constructor : RawConstructor} {expected : Option JString} :
    requireResult constructor expected = .ok () ↔
      ∀ expectedType ∈ expected, matchesType constructor.result expectedType = true := by
  cases expected with
  | none => simp [requireResult]
  | some expectedType => simp [requireResult, require_eq_ok]

/-- The reader takes an object whose id it knows and whose fields it can take. -/
theorem decodes_object {readValue : JString → TlReader RawValue} {schema : RawSchema}
    {expected : Option JString} {constructor : RawConstructor} {fields : List Field}
    {body : List Byte} {values : FieldMap}
    (found : schema.constructorsById constructor.constructorId = some constructor)
    (result : ∀ expectedType ∈ expected, matchesType constructor.result expectedType = true)
    (parsed : parseFields constructor.parameters = .ok fields)
    (read : Decodes (readFields readValue fields [] []) body values) :
    Decodes (readObjectWith readValue schema expected)
      (TlWriter.constructor constructor.constructorId ++ body)
      (.object constructor.name values) := by
  intro rest
  unfold readObjectWith
  rw [List.append_assoc]
  apply run_bind_eq_ok.mpr
  refine ⟨constructor.constructorId, body ++ rest, decodes_int _ _, run_bind_eq_ok.mpr ?_⟩
  refine ⟨constructor, body ++ rest,
    run_lift_eq_ok.mpr ⟨requireNotNull_eq_ok.mpr found, rfl⟩, run_bind_eq_ok.mpr ?_⟩
  refine ⟨(), body ++ rest, run_lift_eq_ok.mpr ⟨requireResult_eq_ok.mpr result, rfl⟩,
    run_bind_eq_ok.mpr ?_⟩
  refine ⟨fields, body ++ rest, run_lift_eq_ok.mpr ⟨parsed, rfl⟩, run_bind_eq_ok.mpr ?_⟩
  exact ⟨values, rest, read rest, rfl⟩

theorem readObjectWith_eq_ok {readValue : JString → TlReader RawValue} {schema : RawSchema}
    {expected : Option JString} {input rest : List Byte} {value : RawValue}
    (accepted : (readObjectWith readValue schema expected).run input = .ok (value, rest)) :
    ∃ constructor fields values between,
      schema.constructorsById constructor.constructorId = some constructor ∧
      (∀ expectedType ∈ expected, matchesType constructor.result expectedType = true) ∧
      parseFields constructor.parameters = .ok fields ∧
      TlReader.int.run input = .ok (constructor.constructorId, between) ∧
      (readFields readValue fields [] []).run between = .ok (values, rest) ∧
      value = .object constructor.name values := by
  obtain ⟨constructorId, between, id, tail⟩ := run_bind_eq_ok.mp accepted
  obtain ⟨constructor, _, found, tail⟩ := run_bind_eq_ok.mp tail
  obtain ⟨known, rfl⟩ := run_lift_eq_ok.mp found
  obtain ⟨⟨⟩, _, checked, tail⟩ := run_bind_eq_ok.mp tail
  obtain ⟨result, rfl⟩ := run_lift_eq_ok.mp checked
  obtain ⟨fields, _, split, tail⟩ := run_bind_eq_ok.mp tail
  obtain ⟨parsed, rfl⟩ := run_lift_eq_ok.mp split
  obtain ⟨values, _, read, ended⟩ := run_bind_eq_ok.mp tail
  obtain ⟨whole, rfl⟩ := run_pure_eq_ok.mp ended
  have byId := requireNotNull_eq_ok.mp known
  obtain ⟨-, idOf⟩ := LinkedMap.associateBy_some _ _ _ _ byId
  subst idOf
  exact ⟨constructor, fields, values, between, byId, requireResult_eq_ok.mp result, parsed, id,
    read, whole.symm⟩

/-! ### One field of the reader's loop -/

variable {readValue : JString → TlReader RawValue} {field : Field} {rest : List Field}
  {flags : List (JString × BitVec 32)} {values final : FieldMap} {here later : List Byte}

theorem decodes_flagWord {word : BitVec 32} (isWord : field.type = flagsType)
    (continued : Decodes (readFields readValue rest (LinkedMap.put flags field.name word) values)
      later final) :
    Decodes (readFields readValue (field :: rest) flags values) (TlWriter.int word ++ later)
      final := by
  rw [readFields, if_pos isWord]
  exact (decodes_int word).bind _ continued

theorem decodes_absent (notWord : field.type ≠ flagsType)
    (given : isGiven flags field = .ok false)
    (continued : Decodes (readFields readValue rest flags values) later final) :
    Decodes (readFields readValue (field :: rest) flags values) later final := by
  rw [readFields, if_neg notWord]
  exact (decodes_lift given).bind _ continued

theorem decodes_true (notWord : field.type ≠ flagsType) (given : isGiven flags field = .ok true)
    (isTrue : field.type = trueType)
    (continued : Decodes (readFields readValue rest flags
      (LinkedMap.put values field.name (.booleanValue true))) later final) :
    Decodes (readFields readValue (field :: rest) flags values) later final := by
  rw [readFields, if_neg notWord]
  apply (decodes_lift given).bind
  simp only [Bool.not_true, Bool.false_eq_true, if_false, if_pos isTrue]
  exact continued

theorem decodes_value {value : RawValue} (notWord : field.type ≠ flagsType)
    (given : isGiven flags field = .ok true) (notTrue : field.type ≠ trueType)
    (read : Decodes (readValue field.type) here value)
    (continued : Decodes (readFields readValue rest flags
      (LinkedMap.put values field.name value)) later final) :
    Decodes (readFields readValue (field :: rest) flags values) (here ++ later) final := by
  rw [readFields, if_neg notWord]
  apply (decodes_lift given).bind
  simp only [Bool.not_true, Bool.false_eq_true, if_false, if_neg notTrue]
  exact read.bind _ continued

/-- The four ways through one turn of the reader's loop. -/
theorem readFields_cons_eq_ok {input output : List Byte}
    (accepted : (readFields readValue (field :: rest) flags values).run input =
      .ok (final, output)) :
    (field.type = flagsType ∧ ∃ word between,
        (readFields readValue rest (LinkedMap.put flags field.name word) values).run between =
          .ok (final, output)) ∨
      (field.type ≠ flagsType ∧ isGiven flags field = .ok false ∧
        (readFields readValue rest flags values).run input = .ok (final, output)) ∨
      (field.type ≠ flagsType ∧ isGiven flags field = .ok true ∧ field.type = trueType ∧
        (readFields readValue rest flags
          (LinkedMap.put values field.name (.booleanValue true))).run input =
            .ok (final, output)) ∨
      (field.type ≠ flagsType ∧ isGiven flags field = .ok true ∧ field.type ≠ trueType ∧
        ∃ value between, (readValue field.type).run input = .ok (value, between) ∧
          (readFields readValue rest flags (LinkedMap.put values field.name value)).run between =
            .ok (final, output)) := by
  rw [readFields] at accepted
  by_cases isWord : field.type = flagsType
  · rw [if_pos isWord] at accepted
    obtain ⟨word, between, -, continued⟩ := run_bind_eq_ok.mp accepted
    exact .inl ⟨isWord, word, between, continued⟩
  · rw [if_neg isWord] at accepted
    obtain ⟨given, _, answered, continued⟩ := run_bind_eq_ok.mp accepted
    obtain ⟨decided, rfl⟩ := run_lift_eq_ok.mp answered
    cases given with
    | false => exact .inr (.inl ⟨isWord, decided, continued⟩)
    | true =>
        simp only [Bool.not_true, Bool.false_eq_true, if_false] at continued
        by_cases isTrue : field.type = trueType
        · rw [if_pos isTrue] at continued
          exact .inr (.inr (.inl ⟨isWord, decided, isTrue, continued⟩))
        · rw [if_neg isTrue] at continued
          obtain ⟨value, between, read, continued⟩ := run_bind_eq_ok.mp continued
          exact .inr (.inr (.inr ⟨isWord, decided, isTrue, value, between, read, continued⟩))

end Kotlogramme.Raw
