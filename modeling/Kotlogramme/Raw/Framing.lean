/-
How the bytes of a value are framed, whatever the schema.

The reader tells from the bytes of a value where it ends, so what follows them makes
no difference.  The writer appends whole words, so that every request is one of the
sizes that the transport carries.
-/

import Kotlogramme.Raw.Reading
import Kotlogramme.Raw.Wrapper

namespace Kotlogramme.Raw

open Decoder

/-! ### The reader's primitives -/

theorem selfDelimiting_int : SelfDelimiting TlReader.int :=
  (selfDelimiting_advance TlError.truncated 4).bind fun _ => selfDelimiting_pure _

theorem selfDelimiting_long : SelfDelimiting TlReader.long :=
  (selfDelimiting_advance TlError.truncated 8).bind fun _ => selfDelimiting_pure _

theorem selfDelimiting_constructor (id : BitVec 32) :
    SelfDelimiting (TlReader.constructor id) := by
  unfold TlReader.constructor
  apply selfDelimiting_int.bind
  intro actual
  exact (selfDelimiting_pure ()).ite (actual = id) (selfDelimiting_throw _)

theorem selfDelimiting_boolean : SelfDelimiting TlReader.boolean := by
  unfold TlReader.boolean
  apply selfDelimiting_int.bind
  intro actual
  apply (selfDelimiting_pure true).ite (actual = boolTrue)
  exact (selfDelimiting_pure false).ite (actual = boolFalse) (selfDelimiting_throw _)

theorem selfDelimiting_longHeader (first : Nat) :
    SelfDelimiting (TlReader.longHeader first) := by
  unfold TlReader.longHeader
  apply SelfDelimiting.ite (first = 254) _ (selfDelimiting_throw _)
  apply SelfDelimiting.bind (selfDelimiting_advance TlError.truncated 3)
  intro input
  exact selfDelimiting_pure _

theorem selfDelimiting_header : SelfDelimiting TlReader.header := by
  unfold TlReader.header
  apply SelfDelimiting.bind (selfDelimiting_advance TlError.truncated 1)
  intro input
  exact (selfDelimiting_pure _).ite ((input.getD 0 0).toNat < 254) (selfDelimiting_longHeader _)

/-- The size stands before the bytes, and with it that of the filler after them. -/
theorem selfDelimiting_bytes : SelfDelimiting TlReader.bytes := by
  unfold TlReader.bytes
  apply selfDelimiting_header.bind
  intro sizes
  apply SelfDelimiting.bind (selfDelimiting_advance TlError.truncated sizes.2)
  intro value
  apply SelfDelimiting.bind (selfDelimiting_advance TlError.truncated _)
  intro filler
  exact selfDelimiting_pure value

theorem selfDelimiting_string (action : CodingErrorAction) :
    SelfDelimiting (TlReader.string action) := by
  unfold TlReader.string
  apply selfDelimiting_bytes.bind
  intro encoded
  cases Utf.decodeUtf8 action encoded with
  | none => exact selfDelimiting_throw _
  | some decoded => exact selfDelimiting_pure decoded

theorem selfDelimiting_vector {α : Type} {readElement : TlReader α}
    (element : SelfDelimiting readElement) : SelfDelimiting (TlReader.vector readElement) := by
  unfold TlReader.vector
  apply (selfDelimiting_constructor vectorConstructor).bind
  intro _
  apply selfDelimiting_int.bind
  intro size
  exact (element.times size.toNat).ite (0 ≤ size.toInt ∧ size.toInt ≤ maxVectorSize)
    (selfDelimiting_throw _)

/-! ### Objects and values -/

theorem selfDelimiting_readFields {read : JString → TlReader RawValue}
    (each : ∀ type, SelfDelimiting (read type)) (fields : List Field) :
    ∀ words values, SelfDelimiting (readFields read fields words values) := by
  induction fields with
  | nil =>
      intro words values
      exact selfDelimiting_pure values
  | cons field rest ih =>
      intro words values
      rw [readFields]
      by_cases isWord : field.type = flagsType
      · rw [if_pos isWord]
        exact selfDelimiting_int.bind fun word => ih _ _
      · rw [if_neg isWord]
        apply (selfDelimiting_lift _).bind
        intro given
        cases given with
        | false => exact ih words values
        | true =>
            by_cases isTrue : field.type = trueType
            · simp only [if_pos isTrue]
              exact ih _ _
            · simp only [if_neg isTrue]
              exact (each field.type).bind fun value => ih _ _

theorem selfDelimiting_readObjectWith {read : JString → TlReader RawValue}
    (each : ∀ type, SelfDelimiting (read type)) (schema : RawSchema) (expected : Option JString) :
    SelfDelimiting (readObjectWith read schema expected) := by
  unfold readObjectWith
  apply selfDelimiting_int.bind
  intro constructorId
  apply (selfDelimiting_lift _).bind
  intro constructor
  apply (selfDelimiting_lift _).bind
  intro _
  apply (selfDelimiting_lift _).bind
  intro fields
  apply (selfDelimiting_readFields each fields [] []).bind
  intro values
  exact selfDelimiting_pure _

theorem selfDelimiting_readValueWithin (action : CodingErrorAction) (schema : RawSchema)
    (fuel : Nat) : ∀ type, SelfDelimiting (readValueWithin action schema fuel type) := by
  induction fuel with
  | zero =>
      intro type
      exact selfDelimiting_throw _
  | succ fuel ih =>
      intro type
      rw [readValueWithin]
      cases typeShape type with
      | int => exact selfDelimiting_int.map _
      | long => exact selfDelimiting_long.map _
      | double => exact selfDelimiting_long.map _
      | string => exact (selfDelimiting_string action).map _
      | bytes => exact selfDelimiting_bytes.map _
      | int128 => exact (selfDelimiting_advance TlError.truncated 16).map _
      | int256 => exact (selfDelimiting_advance TlError.truncated 32).map _
      | bool => exact selfDelimiting_boolean.map _
      | vector elementType => exact (selfDelimiting_vector (ih elementType)).map _
      | generic => exact selfDelimiting_readObjectWith ih schema none
      | boxed => exact selfDelimiting_readObjectWith ih schema _

/-- The bound on the nesting grows with the input and makes no difference. -/
theorem selfDelimiting_readValue (action : CodingErrorAction) (schema : RawSchema)
    (type : JString) : SelfDelimiting (readValue action schema type) := by
  intro input value rest accepted
  have split : ∃ taken, input = taken ++ rest := by
    rw [readValue_run action schema type (Nat.lt_succ_self input.length)] at accepted
    obtain ⟨taken, split, -⟩ :=
      selfDelimiting_readValueWithin action schema _ type input value rest accepted
    exact ⟨taken, split⟩
  obtain ⟨taken, split⟩ := split
  refine ⟨taken, split, fun more => ?_⟩
  have enough : (taken ++ more).length < input.length + (taken ++ more).length + 1 := by omega
  have within : input.length < input.length + (taken ++ more).length + 1 := by omega
  rw [readValue_run action schema type within] at accepted
  obtain ⟨other, splitAgain, decodes⟩ :=
    selfDelimiting_readValueWithin action schema _ type input value rest accepted
  have same : other = taken := List.append_cancel_right (splitAgain.symm.trans split)
  subst same
  rw [readValue_run action schema type enough]
  exact decodes more

theorem decodeMethodResult_read {schema : RawSchema} {name : JString} {body : List Byte}
    {answer : RawValue} (accepted : decodeMethodResult schema name body = .ok answer) :
    ∃ method, schema.methods name = some method ∧
      (readValue .replace schema method.result).run body = .ok (answer, []) := by
  have found := accepted
  unfold decodeMethodResult at found
  obtain ⟨method, known, -⟩ := bind_eq_ok.mp found
  have declared := requireNotNull_eq_ok.mp known
  obtain ⟨-, named⟩ := LinkedMap.associateBy_some _ _ _ _ declared
  subst named
  exact ⟨method, declared, (decodeMethodResult_eq_ok declared).mp accepted⟩

/-- What follows a body that is accepted is trailing bytes. -/
theorem decodeMethodResult_extension {schema : RawSchema} {name : JString}
    {body more : List Byte} {answer other : RawValue}
    (accepted : decodeMethodResult schema name body = .ok answer)
    (acceptedMore : decodeMethodResult schema name (body ++ more) = .ok other) : more = [] := by
  obtain ⟨method, declared, read⟩ := decodeMethodResult_read accepted
  obtain ⟨again, declaredAgain, readMore⟩ := decodeMethodResult_read acceptedMore
  cases declared.symm.trans declaredAgain
  obtain ⟨taken, split, decodes⟩ :=
    selfDelimiting_readValue .replace schema method.result body answer [] read
  rw [List.append_nil] at split
  subst split
  have both := (decodes more).symm.trans readMore
  exact (Prod.mk.inj (Except.ok.inj both)).2

/-- A success has read `count` bytes, and reads the same with anything else after
them.  No body is accepted beside a proper extension of it. -/
theorem readValue_never_looks_ahead (schema : RawSchema) :
    (∀ action type input value rest,
      (readValue action schema type).run input = .ok (value, rest) →
        ∃ count, count ≤ input.length ∧ rest = input.drop count ∧
          ∀ more, (readValue action schema type).run (input.take count ++ more) =
            .ok (value, more)) ∧
    ∀ name body answer, decodeMethodResult schema name body = .ok answer →
      ∀ other, other <+: body ∨ body <+: other → other ≠ body →
        ¬ ∃ answer, decodeMethodResult schema name other = .ok answer := by
  constructor
  · intro action type input value rest accepted
    obtain ⟨taken, split, decodes⟩ :=
      selfDelimiting_readValue action schema type input value rest accepted
    subst split
    refine ⟨taken.length, ?_, List.drop_left.symm, fun more => ?_⟩
    · rw [List.length_append]
      omega
    · rw [List.take_left]
      exact decodes more
  · intro name body answer accepted other related differ acceptedOther
    obtain ⟨otherAnswer, acceptedOther⟩ := acceptedOther
    rcases related with ⟨more, extended⟩ | ⟨more, extended⟩
    · rw [← extended] at accepted
      have none := decodeMethodResult_extension acceptedOther accepted
      rw [none, List.append_nil] at extended
      exact differ extended
    · rw [← extended] at acceptedOther
      have none := decodeMethodResult_extension accepted acceptedOther
      rw [none, List.append_nil] at extended
      exact differ extended.symm

/-- The answer `[5]` of `contacts.getContactIDs`, with and without a byte too many. -/
theorem readValue_never_looks_ahead_getContactIDs :
    (∃ count, count ≤ 13 ∧ [7] = (TlWriter.vectorHeader 1 ++ TlWriter.int 5 ++ [7]).drop count ∧
      ∀ more, (readValue .replace layer232Extract (text "Vector<int>")).run
          ((TlWriter.vectorHeader 1 ++ TlWriter.int 5 ++ [7]).take count ++ more) =
        .ok (.vectorValue [.intValue 5], more)) ∧
    ¬ ∃ answer, decodeMethodResult layer232Extract (text "contacts.getContactIDs")
      (TlWriter.vectorHeader 1 ++ TlWriter.int 5 ++ [7]) = .ok answer := by
  have read : (readValue .replace layer232Extract (text "Vector<int>")).run
      (TlWriter.vectorHeader 1 ++ TlWriter.int 5 ++ [7]) =
        .ok (.vectorValue [.intValue 5], [7]) := rfl
  have declared : layer232Extract.methods getContactIDs.name = some getContactIDs := by decide
  have accepted : decodeMethodResult layer232Extract (text "contacts.getContactIDs")
      (TlWriter.vectorHeader 1 ++ TlWriter.int 5) = .ok (.vectorValue [.intValue 5]) :=
    (decodeMethodResult_eq_ok declared).mpr rfl
  exact ⟨(readValue_never_looks_ahead layer232Extract).1 _ _ _ _ _ read,
    (readValue_never_looks_ahead layer232Extract).2 _ _ _ accepted _
      (.inr (List.prefix_append _ _)) (by decide)⟩

/-! ### The writer's words -/

/-- A size the transport carries. -/
def WordAligned (body : List Byte) : Prop := 4 ∣ body.length

theorem wordAligned_nil : WordAligned [] := Nat.dvd_zero 4

theorem WordAligned.append {here later : List Byte} (first : WordAligned here)
    (second : WordAligned later) : WordAligned (here ++ later) := by
  unfold WordAligned
  rw [List.length_append]
  exact Nat.dvd_add first second

theorem wordAligned_int (value : BitVec 32) : WordAligned (TlWriter.int value) :=
  Nat.dvd_of_mod_eq_zero (congrArg (· % 4) (TlWriter.int_length value))

theorem wordAligned_constructor (id : BitVec 32) : WordAligned (TlWriter.constructor id) :=
  wordAligned_int id

theorem wordAligned_long (value : BitVec 64) : WordAligned (TlWriter.long value) := by
  unfold WordAligned
  rw [TlWriter.long_length]
  decide

theorem wordAligned_vectorHeader (size : Nat) : WordAligned (TlWriter.vectorHeader size) :=
  (wordAligned_constructor vectorConstructor).append (wordAligned_int _)

/-- The filler counts the header in, whichever of its two sizes it has. -/
theorem wordAligned_framed (value : List Byte) : WordAligned (TlWriter.framed value) := by
  have filled (size : Nat) : 4 ∣ size + padding size := by
    unfold padding
    omega
  unfold WordAligned TlWriter.framed
  rw [List.length_append, List.length_append, List.length_replicate]
  exact filled _

theorem wordAligned_bytes {value body : List Byte} (accepted : TlWriter.bytes value = .ok body) :
    WordAligned body := by
  rw [(TlWriter.bytes_eq_ok accepted).2]
  exact wordAligned_framed value

theorem wordAligned_fixedBytes {value : RawValue} {size : Nat} {type : JString}
    {body : List Byte} (words : 4 ∣ size) (accepted : fixedBytes value size type = .ok body) :
    WordAligned body := by
  cases value with
  | bytesValue bytes =>
      obtain ⟨⟨⟩, checked, same⟩ := bind_eq_ok.mp accepted
      have length := require_eq_ok.mp checked
      cases same
      unfold WordAligned
      rw [eq_of_beq length]
      exact words
  | intValue number => cases accepted
  | longValue number => cases accepted
  | doubleValue number => cases accepted
  | stringValue string => cases accepted
  | booleanValue boolean => cases accepted
  | vectorValue values => cases accepted
  | object name fields => cases accepted

/-! ### Declarations and values in words -/

section Declared

variable {writeNamed : JString → JString → Except TlError (List Byte)}

theorem wordAligned_writeField
    (named : ∀ name type body, writeNamed name type = .ok body → WordAligned body)
    {fields : List Field} {values : FieldMap} {field : Field} {body : List Byte}
    (accepted : writeField writeNamed fields values field = .ok body) : WordAligned body := by
  unfold writeField at accepted
  split at accepted
  · cases accepted
    exact wordAligned_int _
  · split at accepted
    · cases accepted
      exact wordAligned_nil
    · split at accepted
      · obtain ⟨⟨⟩, -, same⟩ := bind_eq_ok.mp accepted
        cases same
        exact wordAligned_nil
      · exact named _ _ _ accepted

theorem wordAligned_writeEach {write : Field → Except TlError (List Byte)}
    (each : ∀ field body, write field = .ok body → WordAligned body) (fields : List Field) :
    ∀ body, writeEach write fields = .ok body → WordAligned body := by
  induction fields with
  | nil =>
      intro body accepted
      cases accepted
      exact wordAligned_nil
  | cons field rest ih =>
      intro body accepted
      obtain ⟨here, wrote, continued⟩ := bind_eq_ok.mp accepted
      obtain ⟨later, wroteLater, same⟩ := bind_eq_ok.mp continued
      cases same
      exact (each field here wrote).append (ih later wroteLater)

theorem wordAligned_writeDeclared
    (named : ∀ name type body, writeNamed name type = .ok body → WordAligned body)
    {constructorId : BitVec 32} {parameters : JString} {values : FieldMap} {body : List Byte}
    (accepted : writeDeclared writeNamed constructorId parameters values = .ok body) :
    WordAligned body := by
  obtain ⟨written, parametersWritten, same⟩ := writeDeclared_eq_ok.mp accepted
  obtain ⟨fields, -, fieldsWritten⟩ := bind_eq_ok.mp parametersWritten
  have each := (writeFields_eq_ok.mp fieldsWritten).2
  rw [same]
  exact (wordAligned_constructor constructorId).append
    (wordAligned_writeEach (fun field body => wordAligned_writeField named) fields written each)

end Declared

/-- A primitive takes a value of its own kind and no other. -/
theorem wordAligned_primitive {schema : RawSchema} {value : RawValue} {type : JString}
    {body : List Byte} (shape : typeShape type ∈ [TypeShape.int, .long, .double, .string, .bytes,
      .int128, .int256, .bool]) (accepted : writeValue schema value type = .ok body) :
    WordAligned body := by
  unfold writeValue at accepted
  simp only [List.mem_cons, List.not_mem_nil, or_false] at shape
  rcases shape with int | long | double | string | bytes | int128 | int256 | bool
  · rw [int] at accepted
    cases value <;> cases accepted
    exact wordAligned_int _
  · rw [long] at accepted
    cases value <;> cases accepted
    exact wordAligned_long _
  · rw [double] at accepted
    cases value <;> cases accepted
    exact wordAligned_long _
  · rw [string] at accepted
    cases value with
    | stringValue string => exact wordAligned_bytes accepted
    | _ => cases accepted
  · rw [bytes] at accepted
    cases value with
    | bytesValue bytes => exact wordAligned_bytes accepted
    | _ => cases accepted
  · rw [int128] at accepted
    exact wordAligned_fixedBytes (by decide) accepted
  · rw [int256] at accepted
    exact wordAligned_fixedBytes (by decide) accepted
  · rw [bool] at accepted
    cases value <;> cases accepted
    exact wordAligned_constructor _

mutual

theorem wordAligned_writeValue (schema : RawSchema) (value : RawValue) :
    ∀ type body, writeValue schema value type = .ok body → WordAligned body := by
  intro type body accepted
  cases shape : typeShape type with
  | vector elementType =>
      unfold writeValue at accepted
      rw [shape] at accepted
      cases value with
      | vectorValue values =>
          obtain ⟨elements, wrote, same⟩ := bind_eq_ok.mp accepted
          cases same
          exact (wordAligned_vectorHeader _).append
            (wordAligned_writeElements schema values elementType elements wrote)
      | _ => cases accepted
  | generic =>
      unfold writeValue at accepted
      rw [shape] at accepted
      cases value with
      | object constructorName fields =>
          obtain ⟨constructor, -, wrote⟩ := writeUntypedObjectWith_eq_ok.mp accepted
          exact wordAligned_writeDeclared (wordAligned_writeEntry schema fields) wrote
      | _ => cases accepted
  | boxed =>
      unfold writeValue at accepted
      rw [shape] at accepted
      cases value with
      | object constructorName fields =>
          obtain ⟨constructor, -, -, wrote⟩ := writeObjectWith_eq_ok.mp accepted
          exact wordAligned_writeDeclared (wordAligned_writeEntry schema fields) wrote
      | _ => cases accepted
  | _ => exact wordAligned_primitive (by rw [shape]; decide) accepted

theorem wordAligned_writeElements (schema : RawSchema) (values : List RawValue) :
    ∀ type body, writeElements schema values type = .ok body → WordAligned body := by
  intro type body accepted
  cases values with
  | nil =>
      cases accepted
      exact wordAligned_nil
  | cons value rest =>
      obtain ⟨here, wrote, continued⟩ := bind_eq_ok.mp accepted
      obtain ⟨later, wroteLater, same⟩ := bind_eq_ok.mp continued
      cases same
      exact (wordAligned_writeValue schema value type here wrote).append
        (wordAligned_writeElements schema rest type later wroteLater)

theorem wordAligned_writeEntry (schema : RawSchema) (entries : List (JString × RawValue)) :
    ∀ name type body, writeEntry schema entries name type = .ok body → WordAligned body := by
  intro name type body accepted
  cases entries with
  | nil => cases accepted
  | cons entry rest =>
      rcases entry with ⟨key, value⟩
      rw [writeEntry] at accepted
      split at accepted
      · exact wordAligned_writeValue schema value type body accepted
      · exact wordAligned_writeEntry schema rest name type body accepted

end

theorem encodeMethod_wordAligned (schema : RawSchema) (name : JString) (fields : FieldMap)
    (body : List Byte) (accepted : encodeMethod schema name fields = .ok body) :
    4 ∣ body.length := by
  obtain ⟨method, -, wrote⟩ := bind_eq_ok.mp accepted
  exact wordAligned_writeDeclared (wordAligned_writeEntry schema fields) wrote

def hashField : Field := ⟨text "hash", text "long", none⟩

def contactsHash : FieldMap := [(text "hash", .longValue 5)]

private theorem getContactIDs_parsed :
    parseFields getContactIDs.parameters = .ok [hashField] := by
  decide

private theorem hash_written : writeEach
    (writeField (writeEntry layer232Extract contactsHash) [hashField] contactsHash) [hashField] =
      .ok [5, 0, 0, 0, 0, 0, 0, 0] :=
  rfl

/-- The request of `contacts.getContactIDs` for the hash 5. -/
theorem encodeMethod_wordAligned_getContactIDs :
    4 ∣ (TlWriter.constructor getContactIDs.constructorId ++ [5, 0, 0, 0, 0, 0, 0, 0]).length := by
  have declared : layer232Extract.methods getContactIDs.name = some getContactIDs := by decide
  have fields : writeFields (writeEntry layer232Extract contactsHash) [hashField] contactsHash =
      .ok [5, 0, 0, 0, 0, 0, 0, 0] := writeFields_eq_ok.mpr ⟨by decide, hash_written⟩
  rw [← writeParameters_of_parsed getContactIDs_parsed] at fields
  have written : encodeMethod layer232Extract getContactIDs.name contactsHash =
      .ok (TlWriter.constructor getContactIDs.constructorId ++ [5, 0, 0, 0, 0, 0, 0, 0]) :=
    bind_eq_ok.mpr ⟨getContactIDs, requireNotNull_eq_ok.mpr declared,
      writeDeclared_eq_ok.mpr ⟨_, fields, rfl⟩⟩
  exact encodeMethod_wordAligned layer232Extract getContactIDs.name contactsHash _ written

end Kotlogramme.Raw
