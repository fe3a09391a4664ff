/-
Methods that wrap the call of another method.

The type variable of a wrapper is resolved at run time.  The writer resolves
it among the constructors only, where a method is found just by sharing its
name with one, and the reader takes every result for an object.
-/

import Kotlogramme.Raw.RoundTrip

namespace Kotlogramme.Raw

open Decoder

/-! ### Writing the wrapped call -/

theorem writeEach_append {write : Field → Except TlError (List Byte)} {first second : List Field}
    {before : List Byte} (accepted : writeEach write first = .ok before) :
    writeEach write (first ++ second) = do
      let after ← writeEach write second
      return before ++ after := by
  induction first generalizing before with
  | nil =>
      cases accepted
      rw [List.nil_append]
      cases writeEach write second <;> rfl
  | cons field rest ih =>
      obtain ⟨here, wrote, continued⟩ := bind_eq_ok.mp accepted
      obtain ⟨later, wroteLater, same⟩ := bind_eq_ok.mp continued
      cases same
      rw [List.cons_append, writeEach, wrote, ih wroteLater]
      cases writeEach write second with
      | error failure => rfl
      | ok after =>
          change Except.ok (here ++ (later ++ after)) = Except.ok (here ++ later ++ after)
          rw [List.append_assoc]

section Query

variable {schema : RawSchema} {before after : List Field} {query : Field} {values : FieldMap}
  {queryName : JString} {queryFields : FieldMap} {beforeBody afterBody : List Byte}

/-- The wrapped call is written as an object of whatever constructor has its
name, between the parameters around it. -/
theorem writeFields_query (generic : typeShape query.type = .generic)
    (known : ∀ key ∈ LinkedMap.keys values, key ∈ (before ++ query :: after).map Field.name)
    (entry : values.lookup query.name = some (.object queryName queryFields))
    (beforeValid : writeEach
      (writeField (writeEntry schema values) (before ++ query :: after) values) before =
        .ok beforeBody)
    (afterValid : writeEach
      (writeField (writeEntry schema values) (before ++ query :: after) values) after =
        .ok afterBody) :
    writeFields (writeEntry schema values) (before ++ query :: after) values = do
      let queryBytes ← writeUntypedObject schema queryName queryFields
      return beforeBody ++ (queryBytes ++ afterBody) := by
  have notWord : query.type ≠ flagsType := by
    intro isWord
    rw [isWord] at generic
    exact absurd generic (by decide)
  have notTrue : query.type ≠ trueType := by
    intro isTrue
    rw [isTrue] at generic
    exact absurd generic (by decide)
  have own : writeField (writeEntry schema values) (before ++ query :: after) values query =
      writeUntypedObject schema queryName queryFields := by
    rw [writeField_value notWord notTrue entry, writeEntry_of_lookup entry,
      (writeValue_cases schema _).generic generic]
  have allowed : ((LinkedMap.keys values).all fun key =>
      ((before ++ query :: after).map Field.name).contains key) = true := by
    simpa only [List.all_eq_true, List.contains_iff_mem] using known
  rw [writeFields, allowed, writeEach_append beforeValid, writeEach, own, afterValid]
  cases writeUntypedObject schema queryName queryFields <;> rfl

end Query

/-! ### Reading the result of the wrapped call -/

theorem decodeMethodResult_eq_ok {schema : RawSchema} {method : RawMethod} {body : List Byte}
    {result : RawValue} (declared : schema.methods method.name = some method) :
    decodeMethodResult schema method.name body = .ok result ↔
      (readValue .replace schema method.result).run body = .ok (result, []) := by
  unfold decodeMethodResult
  rw [bind_eq_ok]
  simp only [requireNotNull_eq_ok, declared, Option.some.injEq, exists_eq_left']
  rw [bind_eq_ok]
  constructor
  · rintro ⟨⟨answer, rest⟩, read, same⟩
    cases same
    obtain ⟨value, between, taken, continued⟩ := run_bind_eq_ok.mp read
    obtain ⟨⟨⟩, after, full, ended⟩ := run_bind_eq_ok.mp continued
    obtain ⟨rfl, rfl⟩ := run_pure_eq_ok.mp ended
    change (if between.length = 0 then Except.ok ((), between)
      else .error (TlError.trailingBytes between.length)) = .ok ((), after) at full
    by_cases empty : between.length = 0
    · rw [List.length_eq_zero_iff.mp empty] at taken
      exact taken
    · rw [if_neg empty] at full
      cases full
  · intro read
    refine ⟨(result, []), run_bind_eq_ok.mpr ⟨result, [], read, ?_⟩, rfl⟩
    exact run_bind_eq_ok.mpr ⟨(), [], rfl, rfl⟩

/-- Without an expected type, an object of any type is taken. -/
theorem readObjectWith_extends_none (read : JString → TlReader RawValue) (schema : RawSchema)
    (expected : Option JString) :
    Extends (readObjectWith read schema expected) (readObjectWith read schema none) := by
  unfold readObjectWith
  apply (Extends.refl TlReader.int).bind
  intro constructorId
  apply (Extends.refl _).bind
  intro constructor
  apply Extends.bind
  · intro input value rest accepted
    exact run_lift_eq_ok.mpr ⟨rfl, (run_lift_eq_ok.mp accepted).2⟩
  · intro _
    exact Extends.refl _

/-- A value of any shape other than an object is not one. -/
theorem readValueWithin_object {action : CodingErrorAction} {schema : RawSchema} {fuel : Nat}
    {type constructorName : JString} {fields : FieldMap} {input rest : List Byte}
    (read : (readValueWithin action schema fuel type).run input =
      .ok (.object constructorName fields, rest)) :
    typeShape type = .boxed ∨ typeShape type = .generic := by
  cases fuel with
  | zero => exact absurd read run_throw_ne_ok
  | succ fuel =>
      rw [readValueWithin] at read
      cases shape : typeShape type with
      | boxed => exact .inl rfl
      | generic => exact .inr rfl
      | int => rw [shape] at read; obtain ⟨_, -, same⟩ := run_map_eq_ok.mp read; cases same
      | long => rw [shape] at read; obtain ⟨_, -, same⟩ := run_map_eq_ok.mp read; cases same
      | double => rw [shape] at read; obtain ⟨_, -, same⟩ := run_map_eq_ok.mp read; cases same
      | string => rw [shape] at read; obtain ⟨_, -, same⟩ := run_map_eq_ok.mp read; cases same
      | bytes => rw [shape] at read; obtain ⟨_, -, same⟩ := run_map_eq_ok.mp read; cases same
      | int128 => rw [shape] at read; obtain ⟨_, -, same⟩ := run_map_eq_ok.mp read; cases same
      | int256 => rw [shape] at read; obtain ⟨_, -, same⟩ := run_map_eq_ok.mp read; cases same
      | bool => rw [shape] at read; obtain ⟨_, -, same⟩ := run_map_eq_ok.mp read; cases same
      | vector elementType =>
          rw [shape] at read
          obtain ⟨_, -, same⟩ := run_map_eq_ok.mp read
          cases same

theorem readValue_variable (action : CodingErrorAction) (schema : RawSchema) (input : List Byte) :
    (readValue action schema variableType).run input =
      (readObjectWith (readValueWithin action schema input.length) schema none).run input :=
  rfl

/-- A valid result of a query is a result of its wrapper exactly when it is an
object. -/
theorem decode_wrapped_iff {schema : RawSchema} {wrapper method : RawMethod}
    (wrapperDeclared : schema.methods wrapper.name = some wrapper)
    (methodDeclared : schema.methods method.name = some method)
    (result : wrapper.result = variableType) {body : List Byte} {value : RawValue}
    (valid : decodeMethodResult schema method.name body = .ok value) :
    decodeMethodResult schema wrapper.name body = .ok value ↔
      typeShape method.result = .boxed ∨ typeShape method.result = .generic := by
  rw [decodeMethodResult_eq_ok methodDeclared] at valid
  rw [decodeMethodResult_eq_ok wrapperDeclared, result, readValue_variable]
  change (readValueWithin .replace schema (body.length + 1) method.result).run body =
    .ok (value, []) at valid
  constructor
  · intro read
    obtain ⟨constructor, fields, values, between, -, -, -, -, -, same⟩ := readObjectWith_eq_ok read
    subst same
    exact readValueWithin_object valid
  · rintro (boxed | generic)
    · simp only [readValueWithin, boxed] at valid
      exact readObjectWith_extends_none _ schema _ body value [] valid
    · simp only [readValueWithin, generic] at valid
      exact valid

private theorem constructor_append_inj {left right : BitVec 32} {first second : List Byte}
    (same : TlWriter.constructor left ++ first = TlWriter.constructor right ++ second) :
    left = right ∧ first = second := by
  have reads := decodes_int left first
  change TlReader.int.run (TlWriter.constructor left ++ first) = _ at reads
  rw [same] at reads
  have pairs := Except.ok.inj (reads.symm.trans (decodes_int right second))
  exact ⟨congrArg Prod.fst pairs, congrArg Prod.snd pairs⟩

/-- A wrapper carries the call of a method exactly when some constructor has
the name and the id of the method and its parameters are written as those of
the method are. -/
theorem encode_wrapped_iff {schema : RawSchema} {wrapper method : RawMethod}
    {before after : List Field} {query : Field} {values queryFields : FieldMap}
    {beforeBody afterBody queryBytes : List Byte}
    (wrapperDeclared : schema.methods wrapper.name = some wrapper)
    (methodDeclared : schema.methods method.name = some method)
    (parsed : parseFields wrapper.parameters = .ok (before ++ query :: after))
    (generic : typeShape query.type = .generic)
    (known : ∀ key ∈ LinkedMap.keys values, key ∈ (before ++ query :: after).map Field.name)
    (entry : values.lookup query.name = some (.object method.name queryFields))
    (beforeValid : writeEach
      (writeField (writeEntry schema values) (before ++ query :: after) values) before =
        .ok beforeBody)
    (afterValid : writeEach
      (writeField (writeEntry schema values) (before ++ query :: after) values) after =
        .ok afterBody)
    (queryValid : encodeMethod schema method.name queryFields = .ok queryBytes) :
    encodeMethod schema wrapper.name values = .ok (TlWriter.constructor wrapper.constructorId ++
        (beforeBody ++ (queryBytes ++ afterBody))) ↔
      ∃ constructor, schema.constructorsByName method.name = some constructor ∧
        constructor.constructorId = method.constructorId ∧
        writeParameters (writeEntry schema queryFields) constructor.parameters queryFields =
          writeParameters (writeEntry schema queryFields) method.parameters queryFields := by
  obtain ⟨body, bodyWritten, queryBytesEq⟩ : ∃ body,
      writeParameters (writeEntry schema queryFields) method.parameters queryFields = .ok body ∧
        queryBytes = TlWriter.constructor method.constructorId ++ body := by
    rw [encodeMethod, methodDeclared] at queryValid
    exact writeDeclared_eq_ok.mp queryValid
  have encoded : encodeMethod schema wrapper.name values =
      .ok (TlWriter.constructor wrapper.constructorId ++
        (beforeBody ++ (queryBytes ++ afterBody))) ↔
      writeUntypedObject schema method.name queryFields = .ok queryBytes := by
    rw [encodeMethod, wrapperDeclared]
    change writeDeclared _ wrapper.constructorId wrapper.parameters _ = _ ↔ _
    rw [writeDeclared, writeParameters_of_parsed parsed,
      writeFields_query generic known entry beforeValid afterValid]
    cases writeUntypedObject schema method.name queryFields with
    | error failure =>
        constructor
        · intro impossible
          cases impossible
        · intro impossible
          cases impossible
    | ok bytes =>
        change Except.ok (TlWriter.constructor wrapper.constructorId ++
            (beforeBody ++ (bytes ++ afterBody))) =
          Except.ok (TlWriter.constructor wrapper.constructorId ++
            (beforeBody ++ (queryBytes ++ afterBody))) ↔
          Except.ok bytes = Except.ok queryBytes
        rw [Except.ok.injEq, Except.ok.injEq, List.append_cancel_left_eq,
          List.append_cancel_left_eq, List.append_cancel_right_eq]
  rw [encoded, queryBytesEq, bodyWritten]
  unfold writeUntypedObject
  rw [writeUntypedObjectWith_eq_ok]
  constructor
  · rintro ⟨constructor, found, written⟩
    obtain ⟨other, accepted, same⟩ := writeDeclared_eq_ok.mp written
    obtain ⟨ids, bodies⟩ := constructor_append_inj same
    exact ⟨constructor, found, ids.symm, bodies ▸ accepted⟩
  · rintro ⟨constructor, found, ids, accepted⟩
    exact ⟨constructor, found, writeDeclared_eq_ok.mpr ⟨body, accepted, by rw [ids]⟩⟩

/-- Where no constructor has the name of the method, as in the bundled schema,
the wrapper refuses every call of it. -/
theorem encode_wrapped_unknown {schema : RawSchema} {wrapper method : RawMethod}
    {before after : List Field} {query : Field} {values queryFields : FieldMap}
    {beforeBody afterBody : List Byte}
    (wrapperDeclared : schema.methods wrapper.name = some wrapper)
    (parsed : parseFields wrapper.parameters = .ok (before ++ query :: after))
    (generic : typeShape query.type = .generic)
    (known : ∀ key ∈ LinkedMap.keys values, key ∈ (before ++ query :: after).map Field.name)
    (entry : values.lookup query.name = some (.object method.name queryFields))
    (beforeValid : writeEach
      (writeField (writeEntry schema values) (before ++ query :: after) values) before =
        .ok beforeBody)
    (afterValid : writeEach
      (writeField (writeEntry schema values) (before ++ query :: after) values) after =
        .ok afterBody)
    (apart : schema.constructorsByName method.name = none) :
    encodeMethod schema wrapper.name values =
      .error (.unknownConstructor schema.layer method.name) := by
  have refused : writeUntypedObject schema method.name queryFields =
      .error (.unknownConstructor schema.layer method.name) := by
    rw [writeUntypedObject, writeUntypedObjectWith, apart]
    rfl
  rw [encodeMethod, wrapperDeclared]
  change writeDeclared _ wrapper.constructorId wrapper.parameters _ = _
  rw [writeDeclared, writeParameters_of_parsed parsed,
    writeFields_query generic known entry beforeValid afterValid, refused]
  rfl

/-- A constructor under the name of the method, with its id and its parameters. -/
def Twin (schema : RawSchema) (method : RawMethod) (constructor : RawConstructor) : Prop :=
  schema.constructorsByName method.name = some constructor ∧
    constructor.constructorId = method.constructorId ∧
    parseFields constructor.parameters = parseFields method.parameters

theorem Twin.writeParameters {schema : RawSchema} {method : RawMethod}
    {constructor : RawConstructor} (twin : Twin schema method constructor)
    (writeNamed : JString → JString → Except TlError (List Byte)) (values : FieldMap) :
    writeParameters writeNamed constructor.parameters values =
      writeParameters writeNamed method.parameters values := by
  obtain ⟨-, -, same⟩ := twin
  rw [Raw.writeParameters, same]
  rfl

/-- When a wrapper works for a method.  Its call is carried, whatever its fields,
where the method has a twin among the constructors, and only where a constructor
has its name and its id; its valid results are read exactly where the result is
an object. -/
theorem wrapper_works_of_twin {schema : RawSchema} {wrapper method : RawMethod}
    {before after : List Field} {query : Field} {values queryFields : FieldMap}
    {beforeBody afterBody queryBytes : List Byte}
    (wrapperDeclared : schema.methods wrapper.name = some wrapper)
    (methodDeclared : schema.methods method.name = some method)
    (parsed : parseFields wrapper.parameters = .ok (before ++ query :: after))
    (generic : typeShape query.type = .generic) (result : wrapper.result = variableType)
    (known : ∀ key ∈ LinkedMap.keys values, key ∈ (before ++ query :: after).map Field.name)
    (entry : values.lookup query.name = some (.object method.name queryFields))
    (beforeValid : writeEach
      (writeField (writeEntry schema values) (before ++ query :: after) values) before =
        .ok beforeBody)
    (afterValid : writeEach
      (writeField (writeEntry schema values) (before ++ query :: after) values) after =
        .ok afterBody)
    (queryValid : encodeMethod schema method.name queryFields = .ok queryBytes) :
    ((∃ constructor, Twin schema method constructor) →
      encodeMethod schema wrapper.name values = .ok (TlWriter.constructor wrapper.constructorId ++
        (beforeBody ++ (queryBytes ++ afterBody)))) ∧
    (encodeMethod schema wrapper.name values = .ok (TlWriter.constructor wrapper.constructorId ++
        (beforeBody ++ (queryBytes ++ afterBody))) →
      ∃ constructor, schema.constructorsByName method.name = some constructor ∧
        constructor.constructorId = method.constructorId) ∧
    ∀ body value, decodeMethodResult schema method.name body = .ok value →
      (decodeMethodResult schema wrapper.name body = .ok value ↔
        typeShape method.result = .boxed ∨ typeShape method.result = .generic) := by
  have encoded := encode_wrapped_iff wrapperDeclared methodDeclared parsed generic known entry
    beforeValid afterValid queryValid
  refine ⟨?_, ?_, fun _ _ => decode_wrapped_iff wrapperDeclared methodDeclared result⟩
  · rintro ⟨constructor, twin⟩
    exact encoded.mpr ⟨constructor, twin.1, twin.2.1, twin.writeParameters _ _⟩
  · intro carried
    obtain ⟨constructor, found, ids, -⟩ := encoded.mp carried
    exact ⟨constructor, found, ids⟩

/-- The parameters of `invokeAfterMsg`, the last one being the query. -/
def msgIdField : Field := ⟨text "msg_id", text "long", none⟩

def queryField : Field := ⟨text "query", text "!X", none⟩

def wrappedNearestDc : FieldMap :=
  [(text "msg_id", .longValue 1), (text "query", .object (text "help.getNearestDc") [])]

/-- A constructor that has everything of `help.getNearestDc`. -/
def getNearestDcTwin : RawConstructor where
  name := getNearestDc.name
  constructorId := getNearestDc.constructorId
  parameters := getNearestDc.parameters
  result := getNearestDc.result

def twinnedExtract : RawSchema :=
  { layer232Extract with constructors := layer232Extract.constructors ++ [getNearestDcTwin] }

private theorem invokeAfterMsg_declared :
    layer232Extract.methods invokeAfterMsg.name = some invokeAfterMsg := by
  decide

private theorem getNearestDc_declared :
    layer232Extract.methods getNearestDc.name = some getNearestDc := by
  decide

private theorem getContactIDs_declared :
    layer232Extract.methods getContactIDs.name = some getContactIDs := by
  decide

private theorem invokeAfterMsg_fields :
    parseFields invokeAfterMsg.parameters = .ok ([msgIdField] ++ queryField :: []) := by
  decide

private theorem msgId_written (schema : RawSchema) :
    writeEach (writeField (writeEntry schema wrappedNearestDc)
      ([msgIdField] ++ queryField :: []) wrappedNearestDc) [msgIdField] =
      .ok [1, 0, 0, 0, 0, 0, 0, 0] :=
  rfl

private theorem nothing_written (schema : RawSchema) :
    writeEach (writeField (writeEntry schema wrappedNearestDc)
      ([msgIdField] ++ queryField :: []) wrappedNearestDc) [] = .ok [] :=
  rfl

private theorem query_entry : wrappedNearestDc.lookup queryField.name =
    some (.object getNearestDc.name []) :=
  rfl

private theorem getNearestDc_encoded {schema : RawSchema}
    (found : schema.methods getNearestDc.name = some getNearestDc) :
    encodeMethod schema getNearestDc.name [] =
      .ok (TlWriter.constructor getNearestDc.constructorId) := by
  rw [encodeMethod, found]
  rfl

theorem wrapper_works_of_twin_getNearestDc :
    (∃ constructor, Twin twinnedExtract getNearestDc constructor) ∧
    ((∃ constructor, Twin twinnedExtract getNearestDc constructor) →
      encodeMethod twinnedExtract invokeAfterMsg.name wrappedNearestDc =
        .ok (TlWriter.constructor invokeAfterMsg.constructorId ++ ([1, 0, 0, 0, 0, 0, 0, 0] ++
          (TlWriter.constructor getNearestDc.constructorId ++ [])))) ∧
    (encodeMethod twinnedExtract invokeAfterMsg.name wrappedNearestDc =
        .ok (TlWriter.constructor invokeAfterMsg.constructorId ++ ([1, 0, 0, 0, 0, 0, 0, 0] ++
          (TlWriter.constructor getNearestDc.constructorId ++ []))) →
      ∃ constructor, twinnedExtract.constructorsByName getNearestDc.name = some constructor ∧
        constructor.constructorId = getNearestDc.constructorId) ∧
    ∀ body value, decodeMethodResult twinnedExtract getNearestDc.name body = .ok value →
      (decodeMethodResult twinnedExtract invokeAfterMsg.name body = .ok value ↔
        typeShape getNearestDc.result = .boxed ∨ typeShape getNearestDc.result = .generic) := by
  refine ⟨⟨getNearestDcTwin, by decide, rfl, rfl⟩, ?_⟩
  exact wrapper_works_of_twin invokeAfterMsg_declared getNearestDc_declared invokeAfterMsg_fields
    (by decide) (by decide) (by decide) query_entry (msgId_written _) (nothing_written _)
    (getNearestDc_encoded getNearestDc_declared)

/-- `invokeAfterMsg` refuses a call that is valid on its own, and a vector that
is a valid result of its query. -/
theorem invokeAfterMsg_fails :
    encodeMethod layer232Extract getNearestDc.name [] =
        .ok (TlWriter.constructor getNearestDc.constructorId) ∧
      encodeMethod layer232Extract invokeAfterMsg.name wrappedNearestDc =
        .error (.unknownConstructor 232 (text "help.getNearestDc")) ∧
      decodeMethodResult layer232Extract getContactIDs.name
          (TlWriter.vectorHeader 1 ++ TlWriter.int 5) = .ok (.vectorValue [.intValue 5]) ∧
      decodeMethodResult layer232Extract invokeAfterMsg.name
          (TlWriter.vectorHeader 1 ++ TlWriter.int 5) =
        .error (.unsupportedParameter (text "#")) := by
  have unknown : layer232Extract.constructorsByName getNearestDc.name = none := by decide
  refine ⟨getNearestDc_encoded getNearestDc_declared, ?_, ?_, ?_⟩
  · exact encode_wrapped_unknown invokeAfterMsg_declared invokeAfterMsg_fields (by decide)
      (by decide) query_entry (msgId_written _) (nothing_written _) unknown
  · rw [decodeMethodResult, getContactIDs_declared]
    rfl
  · rw [decodeMethodResult, invokeAfterMsg_declared]
    rfl

end Kotlogramme.Raw
