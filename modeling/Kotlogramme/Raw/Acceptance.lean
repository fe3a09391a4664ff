/-
What the reader accepts, and what that says about the writer.

Every value the reader answers is well typed, because a field is taken exactly
when its bit is set.  So what was read can be written again; and a field map
the writer accepts is read back only if it was well typed to begin with.
-/

import Kotlogramme.Raw.Reading
import Kotlogramme.Raw.RoundTrip

namespace Kotlogramme.Raw

open Decoder

/-! ### The fields taken so far -/

/-- The four ways the reader deals with one field. -/
inductive TakenField (readValue : JString → TlReader RawValue)
    (flags : List (JString × BitVec 32)) (gathered : FieldMap) (field : Field) : Prop
  | word (isWord : field.type = flagsType) (missing : gathered.lookup field.name = none)
  | absent (notWord : field.type ≠ flagsType) (given : isGiven flags field = .ok false)
      (missing : gathered.lookup field.name = none)
  | present (notWord : field.type ≠ flagsType) (given : isGiven flags field = .ok true)
      (isTrue : field.type = trueType)
      (found : gathered.lookup field.name = some (.booleanValue true))
  | value (notWord : field.type ≠ flagsType) (given : isGiven flags field = .ok true)
      (notTrue : field.type ≠ trueType) {value : RawValue}
      (found : gathered.lookup field.name = some value) {before after : List Byte}
      (read : (readValue field.type).run before = .ok (value, after))

theorem TakenField.congr {readValue : JString → TlReader RawValue}
    {flags laterFlags : List (JString × BitVec 32)} {gathered later : FieldMap} {field : Field}
    (taken : TakenField readValue flags gathered field)
    (given : ∀ answer, isGiven flags field = .ok answer → isGiven laterFlags field = .ok answer)
    (same : later.lookup field.name = gathered.lookup field.name) :
    TakenField readValue laterFlags later field := by
  cases taken with
  | word isWord missing => exact .word isWord (same.trans missing)
  | absent notWord isFalse missing => exact .absent notWord (given _ isFalse) (same.trans missing)
  | present notWord isGiven isTrue found =>
      exact .present notWord (given _ isGiven) isTrue (same.trans found)
  | value notWord isGiven notTrue found read =>
      exact .value notWord (given _ isGiven) notTrue (same.trans found) read

structure Taken (readValue : JString → TlReader RawValue) (flags : List (JString × BitVec 32))
    (passed : List Field) (gathered : FieldMap) : Prop where
  words : ∀ name, LinkedMap.containsKey flags name = true → name ∈ passed.map Field.name
  known : ∀ name, LinkedMap.containsKey gathered name = true → name ∈ passed.map Field.name
  fields : ∀ field ∈ passed, TakenField readValue flags gathered field

theorem taken_nil (readValue : JString → TlReader RawValue) : Taken readValue [] [] [] := by
  refine ⟨fun name impossible => ?_, fun name impossible => ?_, fun field member => ?_⟩
  · cases impossible
  · cases impossible
  · exact absurd member List.not_mem_nil

variable {readValue : JString → TlReader RawValue} {flags : List (JString × BitVec 32)}
  {passed : List Field} {gathered : FieldMap} {field : Field}

private theorem isGiven_put {name : JString} {word : BitVec 32} {answer : Bool}
    (fresh : LinkedMap.containsKey flags name = false) (given : isGiven flags field = .ok answer) :
    isGiven (LinkedMap.put flags name word) field = .ok answer := by
  unfold isGiven at given ⊢
  cases guard : field.flag with
  | none =>
      rw [guard] at given
      exact given
  | some flag =>
      rcases flag with ⟨flagName, flagBit⟩
      rw [guard] at given
      have different : flagName ≠ name := by
        rintro rfl
        simp only [LinkedMap.containsKey_eq_false_iff.mp fresh] at given
        cases given
      simp only [LinkedMap.lookup_put_of_ne flags word different]
      exact given

private theorem containsKey_put {ν : Type} {entries : List (JString × ν)} {key sought : JString}
    {value : ν} (there : LinkedMap.containsKey (LinkedMap.put entries key value) sought = true) :
    LinkedMap.containsKey entries sought = true ∨ sought = key := by
  by_cases own : sought = key
  · exact .inr own
  · rw [LinkedMap.containsKey, LinkedMap.lookup_put_of_ne entries value own] at there
    exact .inl there

private theorem mem_names_append {name : JString} (member : name ∈ passed.map Field.name ∨
    name = field.name) : name ∈ (passed ++ [field]).map Field.name := by
  rw [List.map_append, List.mem_append, List.map_singleton, List.mem_singleton]
  exact member

theorem Taken.putWord (taken : Taken readValue flags passed gathered)
    (fresh : field.name ∉ passed.map Field.name) (isWord : field.type = flagsType)
    (word : BitVec 32) :
    Taken readValue (LinkedMap.put flags field.name word) (passed ++ [field]) gathered := by
  have newWord : LinkedMap.containsKey flags field.name = false :=
    Bool.eq_false_iff.mpr fun there => fresh (taken.words field.name there)
  refine ⟨fun name there => ?_, fun name there => ?_, fun other member => ?_⟩
  · exact mem_names_append ((containsKey_put there).imp_left (taken.words name))
  · exact mem_names_append (.inl (taken.known name there))
  · rcases List.mem_append.mp member with before | own
    · exact (taken.fields other before).congr (fun answer => isGiven_put newWord) rfl
    · rw [List.mem_singleton.mp own]
      have missing : LinkedMap.containsKey gathered field.name = false :=
        Bool.eq_false_iff.mpr fun there => fresh (taken.known field.name there)
      exact .word isWord (LinkedMap.containsKey_eq_false_iff.mp missing)

theorem Taken.skip (taken : Taken readValue flags passed gathered)
    (fresh : field.name ∉ passed.map Field.name) (notWord : field.type ≠ flagsType)
    (given : isGiven flags field = .ok false) :
    Taken readValue flags (passed ++ [field]) gathered := by
  refine ⟨fun name there => ?_, fun name there => ?_, fun other member => ?_⟩
  · exact mem_names_append (.inl (taken.words name there))
  · exact mem_names_append (.inl (taken.known name there))
  · rcases List.mem_append.mp member with before | own
    · exact taken.fields other before
    · rw [List.mem_singleton.mp own]
      have missing : LinkedMap.containsKey gathered field.name = false :=
        Bool.eq_false_iff.mpr fun there => fresh (taken.known field.name there)
      exact .absent notWord given (LinkedMap.containsKey_eq_false_iff.mp missing)

theorem Taken.putValue {value : RawValue} (taken : Taken readValue flags passed gathered)
    (fresh : field.name ∉ passed.map Field.name)
    (own : TakenField readValue flags (LinkedMap.put gathered field.name value) field) :
    Taken readValue flags (passed ++ [field]) (LinkedMap.put gathered field.name value) := by
  refine ⟨fun name there => ?_, fun name there => ?_, fun other member => ?_⟩
  · exact mem_names_append (.inl (taken.words name there))
  · exact mem_names_append ((containsKey_put there).imp_left (taken.known name))
  · rcases List.mem_append.mp member with before | same
    · have different : other.name ≠ field.name := fun equal =>
        fresh (equal ▸ List.mem_map_of_mem before)
      exact (taken.fields other before).congr (fun answer => id)
        (LinkedMap.lookup_put_of_ne gathered value different)
    · rw [List.mem_singleton.mp same]
      exact own

theorem readFields_taken {fields : List Field} (names : (fields.map Field.name).Nodup)
    (todo : List Field) :
    ∀ passed flags gathered input final output, fields = passed ++ todo →
      Taken readValue flags passed gathered →
      (readFields readValue todo flags gathered).run input = .ok (final, output) →
      ∃ lastFlags, Taken readValue lastFlags fields final := by
  induction todo with
  | nil =>
      intro passed flags gathered input final output split taken accepted
      obtain ⟨same, -⟩ := run_pure_eq_ok.mp accepted
      rw [List.append_nil] at split
      subst split
      subst same
      exact ⟨flags, taken⟩
  | cons field rest ih =>
      intro passed flags gathered input final output split taken accepted
      have split' : fields = (passed ++ [field]) ++ rest := by rw [split]; simp
      have fresh := name_not_mem_passed names split
      rcases readFields_cons_eq_ok accepted with ⟨isWord, word, between, continued⟩ |
        ⟨notWord, given, continued⟩ | ⟨notWord, given, isTrue, continued⟩ |
        ⟨notWord, given, notTrue, value, between, read, continued⟩
      · exact ih _ _ _ _ _ _ split' (taken.putWord fresh isWord word) continued
      · exact ih _ _ _ _ _ _ split' (taken.skip fresh notWord given) continued
      · have own : TakenField readValue flags
            (LinkedMap.put gathered field.name (.booleanValue true)) field :=
          .present notWord given isTrue (LinkedMap.lookup_put_self _ _ _)
        exact ih _ _ _ _ _ _ split' (taken.putValue fresh own) continued
      · have own : TakenField readValue flags (LinkedMap.put gathered field.name value) field :=
          .value notWord given notTrue (LinkedMap.lookup_put_self _ _ _) read
        exact ih _ _ _ _ _ _ split' (taken.putValue fresh own) continued

/-! ### What was taken is well typed -/

private theorem TakenField.containsKey_eq (taken : TakenField readValue flags gathered field)
    (notWord : field.type ≠ flagsType) :
    isGiven flags field = .ok (LinkedMap.containsKey gathered field.name) := by
  cases taken with
  | word isWord missing => exact absurd isWord notWord
  | absent _ given missing => rw [given, LinkedMap.containsKey, missing]; rfl
  | present _ given _ found => rw [given, LinkedMap.containsKey_of_lookup found]
  | value _ given _ found => rw [given, LinkedMap.containsKey_of_lookup found]

theorem Taken.carried (taken : Taken readValue flags passed gathered) :
    Carried passed gathered where
  known := fun key listed => taken.known key ((LinkedMap.mem_keys_iff gathered key).mp listed)
  required := by
    intro field member notWord guard
    have given := (taken.fields field member).containsKey_eq notWord
    simp only [isGiven, guard, Except.ok.injEq] at given
    exact given.symm
  flagWords := by
    intro field member isWord
    cases taken.fields field member with
    | word _ missing => exact LinkedMap.containsKey_eq_false_iff.mpr missing
    | absent notWord => exact absurd isWord notWord
    | present notWord => exact absurd isWord notWord
    | value notWord => exact absurd isWord notWord
  present := by
    intro field member isTrue value found
    cases taken.fields field member with
    | word _ missing => exact absurd (missing.symm.trans found) (by simp)
    | absent _ _ missing => exact absurd (missing.symm.trans found) (by simp)
    | present _ _ _ same => exact Option.some.inj (found.symm.trans same)
    | value _ _ notTrue => exact absurd isTrue notTrue
  shared := by
    intro left inLeft right inRight leftNotWord rightNotWord flag leftGuard rightGuard
    have leftGiven := (taken.fields left inLeft).containsKey_eq leftNotWord
    have rightGiven := (taken.fields right inRight).containsKey_eq rightNotWord
    have sameWay : isGiven flags left = isGiven flags right := by
      unfold isGiven
      rw [Option.mem_def.mp leftGuard, rightGuard]
    exact Except.ok.inj (leftGiven.symm.trans (sameWay.trans rightGiven))

theorem Taken.read_of_lookup (taken : Taken readValue flags passed gathered)
    (member : field ∈ passed) (notWord : field.type ≠ flagsType) (notTrue : field.type ≠ trueType)
    {value : RawValue} (found : gathered.lookup field.name = some value) :
    ∃ before after, (readValue field.type).run before = .ok (value, after) := by
  cases taken.fields field member with
  | word isWord => exact absurd isWord notWord
  | absent _ _ missing => exact absurd (missing.symm.trans found) (by simp)
  | present _ _ isTrue => exact absurd isTrue notTrue
  | @value _ _ _ _ same before after read =>
      cases found.symm.trans same
      exact ⟨before, after, read⟩

/-- Every value the reader answers is well typed; `texts` says which texts it
can answer. -/
theorem readValueWithin_wellTyped {schema : RawSchema} (formed : schema.WellFormed)
    {action : CodingErrorAction} {admits : JString → Prop}
    (texts : ∀ encoded string, encoded.length ≤ maxByteArraySize →
      Utf.decodeUtf8 action encoded = some string → admits string)
    (fuel : Nat) :
    ∀ type, PlainType type → ∀ input value rest,
      (readValueWithin action schema fuel type).run input = .ok (value, rest) →
      WellTyped admits schema type value := by
  induction fuel with
  | zero =>
      intro type plain input value rest accepted
      exact absurd accepted run_throw_ne_ok
  | succ fuel ih =>
      intro type plain input value rest accepted
      rw [readValueWithin] at accepted
      cases shape : typeShape type with
      | int =>
          rw [shape] at accepted
          obtain ⟨number, -, rfl⟩ := run_map_eq_ok.mp accepted
          exact .int shape
      | long =>
          rw [shape] at accepted
          obtain ⟨number, -, rfl⟩ := run_map_eq_ok.mp accepted
          exact .long shape
      | double =>
          rw [shape] at accepted
          obtain ⟨number, -, rfl⟩ := run_map_eq_ok.mp accepted
          exact .double shape
      | string =>
          rw [shape] at accepted
          obtain ⟨string, read, rfl⟩ := run_map_eq_ok.mp accepted
          obtain ⟨encoded, small, decoded⟩ := TlReader.string_eq_ok read
          exact .string shape (texts encoded string small decoded)
      | bytes =>
          rw [shape] at accepted
          obtain ⟨bytes, read, rfl⟩ := run_map_eq_ok.mp accepted
          exact .bytes shape (TlReader.bytes_eq_ok read)
      | int128 =>
          rw [shape] at accepted
          obtain ⟨bytes, read, rfl⟩ := run_map_eq_ok.mp accepted
          exact .int128 shape (run_advance_eq_ok.mp read).1
      | int256 =>
          rw [shape] at accepted
          obtain ⟨bytes, read, rfl⟩ := run_map_eq_ok.mp accepted
          exact .int256 shape (run_advance_eq_ok.mp read).1
      | bool =>
          rw [shape] at accepted
          obtain ⟨boolean, -, rfl⟩ := run_map_eq_ok.mp accepted
          exact .bool shape
      | vector elementType =>
          rw [shape] at accepted
          obtain ⟨values, read, rfl⟩ := run_map_eq_ok.mp accepted
          obtain ⟨small, each⟩ := TlReader.vector_eq_ok read
          refine .vector shape small fun value member => ?_
          obtain ⟨before, after, readElement⟩ := each value member
          exact ih elementType (plain.element shape) before value after readElement
      | generic => exact absurd shape plain.not_generic
      | boxed =>
          have concrete := plain.concrete shape
          rw [shape] at accepted
          simp only [if_neg concrete] at accepted
          obtain ⟨constructor, fields, values, between, found, result, parsed, -, read, rfl⟩ :=
            readObjectWith_eq_ok accepted
          obtain ⟨member, -⟩ := LinkedMap.associateBy_some _ _ _ _ found
          have declared := formed.declarations constructor member fields parsed
          obtain ⟨flags, taken⟩ := readFields_taken declared.names fields [] [] [] _ _ _ rfl
            (taken_nil _) read
          refine .object shape concrete member (result type rfl) parsed taken.carried ?_
          intro field inFields notWord notTrue value present
          have fieldPlain : PlainType field.type :=
            ((declared.types field inFields).resolve_left notWord).resolve_left notTrue
          obtain ⟨before, after, read⟩ := taken.read_of_lookup inFields notWord notTrue present
          exact ih field.type fieldPlain before value after read

/-! ### Valid texts -/

/-- A text the strict action answers can be written as it was read. -/
theorem writable_of_report (encoded : List Byte) (string : JString)
    (small : encoded.length ≤ maxByteArraySize)
    (decoded : Utf.decodeUtf8 .report encoded = some string) : Writable string := by
  refine ⟨Utf.decodeFrom_wellFormed .report 0 encoded string decoded, ?_⟩
  rw [(Utf.decodeUtf8_report encoded string decoded).1]
  exact small

theorem wellFormed_of_replace (encoded : List Byte) (string : JString)
    (_ : encoded.length ≤ maxByteArraySize)
    (decoded : Utf.decodeUtf8 .replace encoded = some string) : Utf.wellFormed string = true :=
  Utf.decodeFrom_wellFormed .replace 0 encoded string decoded

/-- Whatever the reader accepts, with valid texts, can be written again and
is then read back as an equal value. -/
theorem writeObject_readObject {schema : RawSchema} (formed : schema.WellFormed) {type : JString}
    (shape : typeShape type = .boxed) (concrete : type ≠ variableType)
    {input rest : List Byte} {value : RawValue}
    (accepted : (readObject .replace schema (some type)).run input = .ok (value, rest))
    (valid : ∃ strict, (readObject .report schema (some type)).run input = .ok strict) :
    ∃ constructorName fields bytes again,
      value = .object constructorName fields ∧
      writeObject schema constructorName fields type = .ok bytes ∧
      Same again value ∧
      ∀ suffix, (readObject .replace schema (some type)).run (bytes ++ suffix) =
        .ok (again, suffix) := by
  obtain ⟨⟨strict, left⟩, read⟩ := valid
  rw [readObject_run shape concrete] at accepted read
  have same := accepted.symm.trans (readValueWithin_extends schema _ type _ _ _ read)
  cases same
  have typed := readValueWithin_wellTyped formed writable_of_report _ type
    (.boxed shape concrete) _ _ _ read
  obtain ⟨constructor, fields, values, between, -, -, -, -, -, object⟩ := by
    simp only [readValueWithin, shape, if_neg concrete] at read
    exact readObjectWith_eq_ok read
  subst object
  obtain ⟨bytes, again, written, equal, reads⟩ := readObject_writeObject formed typed
  exact ⟨constructor.name, values, bytes, again, rfl, written, equal, reads⟩

/-- A short text with the long announcement and padding that is not zero. -/
def looseNearestDc : List Byte :=
  TlWriter.constructor nearestDc.constructorId ++ [254, 2, 0, 0, 65, 84, 7, 9] ++
    TlWriter.int 2 ++ TlWriter.int 1

theorem writeObject_readObject_nearestDc :
    ∃ constructorName fields bytes again,
      RawValue.object (text "nearestDc") [(text "country", .stringValue (text "AT")),
        (text "this_dc", .intValue 2), (text "nearest_dc", .intValue 1)] =
          .object constructorName fields ∧
      writeObject layer232Extract constructorName fields (text "NearestDc") = .ok bytes ∧
      Same again (.object (text "nearestDc") [(text "country", .stringValue (text "AT")),
        (text "this_dc", .intValue 2), (text "nearest_dc", .intValue 1)]) ∧
      ∀ suffix, (readObject .replace layer232Extract (some (text "NearestDc"))).run
        (bytes ++ suffix) = .ok (again, suffix) := by
  have accepted : (readObject .replace layer232Extract (some (text "NearestDc"))).run
      looseNearestDc = .ok (.object (text "nearestDc") [(text "country", .stringValue (text "AT")),
        (text "this_dc", .intValue 2), (text "nearest_dc", .intValue 1)], []) := rfl
  exact writeObject_readObject layer232Extract_wellFormed (by decide) (by decide) accepted
    ⟨_, rfl⟩

/-! ### What the writer lets through -/

theorem writeEach_mem {write : Field → Except TlError (List Byte)} {fields : List Field}
    {body : List Byte} (accepted : writeEach write fields = .ok body) {field : Field}
    (member : field ∈ fields) : ∃ bytes, write field = .ok bytes := by
  induction fields generalizing body with
  | nil => exact absurd member List.not_mem_nil
  | cons first rest ih =>
      obtain ⟨here, wrote, continued⟩ := bind_eq_ok.mp accepted
      obtain ⟨later, wroteLater, -⟩ := bind_eq_ok.mp continued
      rcases List.mem_cons.mp member with own | other
      · exact ⟨here, own ▸ wrote⟩
      · exact ih wroteLater other

theorem writeElements_mem {schema : RawSchema} {elementType : JString} {values : List RawValue}
    {body : List Byte} (accepted : writeElements schema values elementType = .ok body)
    {value : RawValue} (member : value ∈ values) :
    ∃ bytes, writeValue schema value elementType = .ok bytes := by
  induction values generalizing body with
  | nil => exact absurd member List.not_mem_nil
  | cons first rest ih =>
      rw [writeElements] at accepted
      obtain ⟨here, wrote, continued⟩ := bind_eq_ok.mp accepted
      obtain ⟨later, wroteLater, -⟩ := bind_eq_ok.mp continued
      rcases List.mem_cons.mp member with own | other
      · exact ⟨here, own ▸ wrote⟩
      · exact ih wroteLater other

/-- A key that is there is written at the type of its field. -/
theorem writeFields_mem {schema : RawSchema} {fields : List Field} {values : FieldMap}
    {body : List Byte} (accepted : writeFields (writeEntry schema values) fields values = .ok body)
    {field : Field} (member : field ∈ fields) (notWord : field.type ≠ flagsType)
    (notTrue : field.type ≠ trueType) {value : RawValue}
    (found : values.lookup field.name = some value) :
    ∃ bytes, writeValue schema value field.type = .ok bytes := by
  obtain ⟨bytes, wrote⟩ := writeEach_mem (writeFields_eq_ok.mp accepted).2 member
  rw [writeField_value notWord notTrue found, writeEntry_of_lookup found] at wrote
  exact ⟨bytes, wrote⟩

theorem Same.containsKey_eq {name : JString} {left right : FieldMap}
    (same : Same (.object name left) (.object name right)) (key : JString) :
    LinkedMap.containsKey left key = LinkedMap.containsKey right key := by
  cases same with
  | object keys values => exact keys key

theorem Same.of_lookup {name : JString} {left right : FieldMap}
    (same : Same (.object name left) (.object name right)) {key : JString} {second : RawValue}
    (found : right.lookup key = some second) :
    ∃ first, left.lookup key = some first ∧ Same first second := by
  have there := LinkedMap.containsKey_of_lookup found
  rw [← same.containsKey_eq key, LinkedMap.containsKey, Option.isSome_iff_exists] at there
  obtain ⟨first, foundFirst⟩ := there
  cases same with
  | object keys values => exact ⟨first, foundFirst, values key first second foundFirst found⟩

theorem Carried.of_same {name : JString} {fields : List Field} {left right : FieldMap}
    (carried : Carried fields left) (same : Same (.object name left) (.object name right)) :
    Carried fields right where
  known := by
    intro key listed
    rw [LinkedMap.mem_keys_iff, ← same.containsKey_eq key, ← LinkedMap.mem_keys_iff] at listed
    exact carried.known key listed
  required := by
    intro field member notWord guard
    rw [← same.containsKey_eq]
    exact carried.required field member notWord guard
  flagWords := by
    intro field member isWord
    rw [← same.containsKey_eq]
    exact carried.flagWords field member isWord
  present := by
    intro field member isTrue value found
    obtain ⟨first, foundFirst, equal⟩ := same.of_lookup found
    rw [carried.present field member isTrue first foundFirst] at equal
    cases equal
    rfl
  shared := by
    intro left inLeft right inRight leftNotWord rightNotWord flag leftGuard rightGuard
    rw [← same.containsKey_eq, ← same.containsKey_eq]
    exact carried.shared left inLeft right inRight leftNotWord rightNotWord flag leftGuard
      rightGuard

/-- A value that equals a well-typed one and that the writer accepts is well
typed, its texts included. -/
theorem WellTyped.of_same {schema : RawSchema} (formed : schema.WellFormed) {type : JString}
    {first : RawValue}
    (typed : WellTyped (fun string => Utf.wellFormed string = true) schema type first) :
    ∀ second bytes, Same first second → writeValue schema second type = .ok bytes →
      WellTyped Writable schema type second := by
  induction typed with
  | int shape =>
      intro second bytes same written
      cases same
      exact .int shape
  | long shape =>
      intro second bytes same written
      cases same
      exact .long shape
  | double shape =>
      intro second bytes same written
      cases same
      exact .double shape
  | string shape admitted =>
      intro second bytes same written
      cases same
      rw [(writeValue_cases schema _).string shape] at written
      exact .string shape ⟨admitted, (TlWriter.bytes_eq_ok written).1⟩
  | bytes shape small =>
      intro second bytes same written
      cases same
      exact .bytes shape small
  | int128 shape size =>
      intro second bytes same written
      cases same
      exact .int128 shape size
  | int256 shape size =>
      intro second bytes same written
      cases same
      exact .int256 shape size
  | bool shape =>
      intro second bytes same written
      cases same
      exact .bool shape
  | @vector type elementType left shape small elements ih =>
      intro second bytes same written
      cases same with
      | @vectorValue _ right size each =>
          rw [(writeValue_cases schema _).vector shape] at written
          obtain ⟨body, wrote, -⟩ := bind_eq_ok.mp written
          refine .vector shape (size ▸ small) fun value member => ?_
          obtain ⟨index, inside, found⟩ := List.getElem_of_mem member
          have atRight : right[index]? = some value := by
            rw [List.getElem?_eq_getElem inside, found]
          have atLeft : left[index]? = some left[index] := List.getElem?_eq_getElem (by omega)
          obtain ⟨here, wroteHere⟩ := writeElements_mem wrote member
          exact ih _ (List.getElem_mem _) value here (each index _ value atLeft atRight) wroteHere
  | object shape concrete member result parsed carried typed ih =>
      intro second bytes same written
      obtain ⟨right, rfl⟩ : ∃ right, second = .object _ right := by
        cases same
        exact ⟨_, rfl⟩
      rw [(writeValue_cases schema _).boxed shape] at written
      obtain ⟨constructor, found, -, accepted⟩ := writeObjectWith_eq_ok.mp written
      cases (formed.constructorsByName_of_mem member).symm.trans found
      obtain ⟨body, wrote, -⟩ := writeDeclared_eq_ok.mp accepted
      rw [writeParameters_of_parsed parsed] at wrote
      refine .object shape concrete member result parsed (carried.of_same same) ?_
      intro field inFields notWord notTrue value present
      obtain ⟨first, foundFirst, equal⟩ := same.of_lookup present
      obtain ⟨here, wroteHere⟩ := writeFields_mem wrote inFields notWord notTrue present
      exact ih field inFields notWord notTrue first foundFirst value here equal wroteHere

/-- A field map the writer accepts is read back exactly when it is well typed. -/
theorem readObject_writeFields_iff {schema : RawSchema} (formed : schema.WellFormed)
    {constructor : RawConstructor} (member : constructor ∈ schema.constructors)
    {fields : List Field} (parsed : parseFields constructor.parameters = .ok fields)
    {values : FieldMap} {body : List Byte}
    (accepted : writeFields (writeEntry schema values) fields values = .ok body) :
    (∃ answer rest, (readObject .replace schema none).run
        (TlWriter.constructor constructor.constructorId ++ body) = .ok (answer, rest) ∧
        Same answer (.object constructor.name values)) ↔
      WellTypedFields Writable schema fields values := by
  constructor
  · rintro ⟨answer, rest, read, same⟩
    obtain ⟨other, otherFields, read, between, found, -, otherParsed, id, taken, rfl⟩ :=
      readObjectWith_eq_ok read
    -- the id is the one just written, so the declaration is the same
    have ids := (decodes_int constructor.constructorId body).symm.trans id
    simp only [Except.ok.injEq, Prod.mk.injEq] at ids
    have sameConstructor : other = constructor :=
      formed.ids other (LinkedMap.associateBy_some _ _ _ _ found).1 constructor member ids.1.symm
    subst sameConstructor
    cases parsed.symm.trans otherParsed
    have declared := formed.declarations other member fields parsed
    obtain ⟨flags, all⟩ := readFields_taken declared.names fields [] [] [] _ _ _ rfl
      (taken_nil _) taken
    refine ⟨all.carried.of_same same, fun field inFields notWord notTrue value present => ?_⟩
    obtain ⟨first, foundFirst, equal⟩ := same.of_lookup present
    obtain ⟨here, wrote⟩ := writeFields_mem accepted inFields notWord notTrue present
    have plain : PlainType field.type :=
      ((declared.types field inFields).resolve_left notWord).resolve_left notTrue
    obtain ⟨before, after, read⟩ := all.read_of_lookup inFields notWord notTrue foundFirst
    have typed := readValueWithin_wellTyped formed wellFormed_of_replace _ field.type plain
      before first after read
    exact typed.of_same formed value here equal wrote
  · rintro ⟨carried, typed⟩
    obtain ⟨again, final, written, same, reads⟩ := transfers_declared formed member parsed carried
      fun field inFields notWord notTrue value found =>
        (typed field inFields notWord notTrue value found).transfers .replace formed
    cases accepted.symm.trans written
    have anyResult : ∀ expectedType ∈ (none : Option JString),
        matchesType constructor.result expectedType = true := by simp
    have whole := decodes_object (formed.constructorsById_of_mem member) anyResult parsed
      (reads (TlWriter.constructor constructor.constructorId ++ body).length
        (by rw [List.length_append]; simp [TlWriter.constructor]))
    exact ⟨_, [], whole.run_eq, same⟩

/-- One of the two fields that share a flag bit. -/
def partialFactCheck : FieldMap :=
  [(text "country", .stringValue (text "AT")), (text "hash", .longValue 7)]

/-- A value for the flag word itself. -/
def flaggedFactCheck : FieldMap := [(text "flags", .intValue 5), (text "hash", .longValue 7)]

def factCheckFields : List Field :=
  [⟨text "flags", text "#", none⟩, ⟨text "need_check", text "true", some (text "flags", 0)⟩,
    ⟨text "country", text "string", some (text "flags", 1)⟩,
    ⟨text "text", text "TextWithEntities", some (text "flags", 1)⟩,
    ⟨text "hash", text "long", none⟩]

theorem readObject_writeFields_iff_factCheck :
    (∃ answer rest, (readObject .replace layer232Extract none).run
        (TlWriter.constructor factCheck.constructorId ++
          [2, 0, 0, 0, 2, 65, 84, 0, 7, 0, 0, 0, 0, 0, 0, 0]) = .ok (answer, rest) ∧
        Same answer (.object factCheck.name partialFactCheck)) ↔
      WellTypedFields Writable layer232Extract factCheckFields partialFactCheck := by
  have accepted : writeFields (writeEntry layer232Extract partialFactCheck) factCheckFields
      partialFactCheck = .ok [2, 0, 0, 0, 2, 65, 84, 0, 7, 0, 0, 0, 0, 0, 0, 0] := rfl
  exact readObject_writeFields_iff layer232Extract_wellFormed (by decide : factCheck ∈ _)
    factCheck_fields accepted

/-- The writer accepts both maps.  The first body does not decode at all, the
second decodes to another map. -/
theorem factCheck_accepted_not_read_back :
    (∃ body, writeFields (writeEntry layer232Extract partialFactCheck) factCheckFields
        partialFactCheck = .ok body ∧
      ¬ ∃ answer rest, (readObject .replace layer232Extract none).run
        (TlWriter.constructor factCheck.constructorId ++ body) = .ok (answer, rest) ∧
        Same answer (.object factCheck.name partialFactCheck)) ∧
    (∃ body, writeFields (writeEntry layer232Extract flaggedFactCheck) factCheckFields
        flaggedFactCheck = .ok body ∧
      ¬ ∃ answer rest, (readObject .replace layer232Extract none).run
        (TlWriter.constructor factCheck.constructorId ++ body) = .ok (answer, rest) ∧
        Same answer (.object factCheck.name flaggedFactCheck)) := by
  constructor
  · refine ⟨[2, 0, 0, 0, 2, 65, 84, 0, 7, 0, 0, 0, 0, 0, 0, 0], rfl, ?_⟩
    rintro ⟨answer, rest, read, -⟩
    have failed : (readObject .replace layer232Extract none).run
        (TlWriter.constructor factCheck.constructorId ++
          [2, 0, 0, 0, 2, 65, 84, 0, 7, 0, 0, 0, 0, 0, 0, 0]) =
        .error (.unknownConstructorId 232 7) := rfl
    cases failed.symm.trans read
  · refine ⟨[0, 0, 0, 0, 7, 0, 0, 0, 0, 0, 0, 0], rfl, ?_⟩
    rintro ⟨answer, rest, read, same⟩
    have decoded : (readObject .replace layer232Extract none).run
        (TlWriter.constructor factCheck.constructorId ++ [0, 0, 0, 0, 7, 0, 0, 0, 0, 0, 0, 0]) =
        .ok (.object factCheck.name [(text "hash", .longValue 7)], []) := rfl
    cases decoded.symm.trans read
    exact absurd (same.containsKey_eq (text "flags")) (by decide)

end Kotlogramme.Raw
