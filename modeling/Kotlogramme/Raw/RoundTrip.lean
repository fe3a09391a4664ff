/-
Reading back what the writer writes.

Writing a well-typed value succeeds, and reading the bytes gives an equal
value and leaves whatever followed them.  The proof follows the typing of the
value; for an object it follows the parameter list, with the flag words read
so far and the field map gathered so far as its invariant.
-/

import Kotlogramme.Raw.WellTyped

namespace Kotlogramme.Raw

open Decoder

/-! ### Flag words -/

private theorem flagMask_getLsbD (flagBit index : Nat) (inside : index < 32) :
    (flagMask flagBit).getLsbD index = decide (index = flagBit % 32) := by
  have small : flagBit % 32 < 32 := Nat.mod_lt _ (by decide)
  simp only [flagMask, BitVec.getLsbD_shiftLeft, BitVec.getLsbD_one, inside, decide_true,
    Bool.true_and]
  by_cases below : index < flagBit % 32
  · have different : index ≠ flagBit % 32 := by omega
    simp [below, different]
  · by_cases same : index = flagBit % 32
    · simp [same]
    · have positive : index - flagBit % 32 ≠ 0 := by omega
      simp [same, positive]

private theorem and_flagMask (word : BitVec 32) (flagBit : Nat) :
    ((word &&& flagMask flagBit) != 0) = word.getLsbD (flagBit % 32) := by
  have small : flagBit % 32 < 32 := Nat.mod_lt _ (by decide)
  cases set : word.getLsbD (flagBit % 32) with
  | true =>
      rw [bne_iff_ne]
      intro zero
      have bit := congrArg (fun bits => BitVec.getLsbD bits (flagBit % 32)) zero
      simp [flagMask_getLsbD _ _ small, set] at bit
  | false =>
      have zero : word &&& flagMask flagBit = 0 := by
        apply BitVec.eq_of_getLsbD_eq
        intro index inside
        rw [BitVec.getLsbD_and, flagMask_getLsbD _ _ inside]
        by_cases same : index = flagBit % 32
        · simp [same, set]
        · simp [same]
      simp [zero]

private theorem foldl_flagBits_getLsbD (values : FieldMap) (flagName : JString)
    (fields : List Field) (start : BitVec 32) (index : Nat) :
    (fields.foldl (fun bits field => bits ||| flagBits values flagName field) start).getLsbD index =
      (start.getLsbD index ||
        fields.any fun field => (flagBits values flagName field).getLsbD index) := by
  induction fields generalizing start with
  | nil => simp
  | cons field rest ih =>
      rw [List.foldl_cons, ih, BitVec.getLsbD_or, List.any_cons, Bool.or_assoc]

/-- A bit of a flag word is set exactly when a field guarded by it has a key. -/
theorem flagWord_and_flagMask (fields : List Field) (values : FieldMap) (flagName : JString)
    (flagBit : Nat) :
    ((flagWord fields values flagName &&& flagMask flagBit) != 0) = true ↔
      ∃ field ∈ fields, ∃ other, field.flag = some (flagName, other) ∧
        other % 32 = flagBit % 32 ∧ LinkedMap.containsKey values field.name = true := by
  have small : flagBit % 32 < 32 := Nat.mod_lt _ (by decide)
  have one (field : Field) : (flagBits values flagName field).getLsbD (flagBit % 32) = true ↔
      ∃ other, field.flag = some (flagName, other) ∧ other % 32 = flagBit % 32 ∧
        LinkedMap.containsKey values field.name = true := by
    unfold flagBits
    cases guard : field.flag with
    | none => simp
    | some flag =>
        rcases flag with ⟨name, other⟩
        by_cases set : name = flagName ∧ LinkedMap.containsKey values field.name = true
        · simp only [if_pos set, flagMask_getLsbD _ _ small, decide_eq_true_eq, Option.some.injEq,
            Prod.mk.injEq]
          constructor
          · intro same
            exact ⟨other, ⟨set.1, rfl⟩, same.symm, set.2⟩
          · rintro ⟨other', ⟨-, rfl⟩, same, -⟩
            exact same.symm
        · simp only [if_neg set, Option.some.injEq, Prod.mk.injEq]
          constructor
          · intro impossible
            simp at impossible
          · rintro ⟨other', ⟨name', -⟩, -, key⟩
            exact absurd ⟨name', key⟩ set
  rw [and_flagMask, flagWord, foldl_flagBits_getLsbD]
  simp only [BitVec.ofNat_eq_ofNat, BitVec.getLsbD_zero, Bool.false_or, List.any_eq_true, one]

/-- In a map the declaration can carry, a bit the writer sets tells of every
field it guards. -/
theorem Carried.isGiven_eq {fields : List Field} {values : FieldMap}
    (formed : WellFormedFields fields) (carried : Carried fields values) {field : Field}
    (member : field ∈ fields) (notWord : field.type ≠ flagsType)
    {flags : List (JString × BitVec 32)}
    (known : ∀ flag ∈ field.flag, flags.lookup flag.1 = some (flagWord fields values flag.1)) :
    isGiven flags field = .ok (LinkedMap.containsKey values field.name) := by
  unfold isGiven
  cases guard : field.flag with
  | none => rw [carried.required field member notWord guard]
  | some flag =>
      rcases flag with ⟨flagName, flagBit⟩
      have word : flags.lookup flagName = some (flagWord fields values flagName) :=
        known (flagName, flagBit) guard
      have given : ((flagWord fields values flagName &&& flagMask flagBit) != 0) =
          LinkedMap.containsKey values field.name := by
        rw [Bool.eq_iff_iff, flagWord_and_flagMask]
        constructor
        · rintro ⟨other, otherMember, otherBit, otherGuard, same, key⟩
          have low : flagBit ≤ 31 := formed.bits field member _ guard
          have otherLow : otherBit ≤ 31 := formed.bits other otherMember _ otherGuard
          have sameBit : otherBit = flagBit := by omega
          have otherNotWord : other.type ≠ flagsType := by
            intro isWord
            rw [carried.flagWords other otherMember isWord] at key
            exact Bool.false_ne_true key
          rw [carried.shared field member other otherMember notWord otherNotWord
            (flagName, flagBit) guard (sameBit ▸ otherGuard)]
          exact key
        · intro key
          exact ⟨field, member, flagBit, guard, rfl, key⟩
      simp only [word, requireNotNull]
      rw [← given]
      rfl

/-! ### Gathering the field map -/

/-- Each key of the fields passed so far has an equal value, and no other key
has any. -/
def Gathered (passed : List Field) (values : FieldMap) (gathered : FieldMap) : Prop :=
  ∀ key, (key ∈ passed.map Field.name →
      Option.Rel Same (gathered.lookup key) (values.lookup key)) ∧
    (key ∉ passed.map Field.name → gathered.lookup key = none)

theorem gathered_nil (values : FieldMap) : Gathered [] values [] := by
  intro key
  exact ⟨fun member => absurd member List.not_mem_nil, fun _ => rfl⟩

theorem Gathered.put {passed : List Field} {values gathered : FieldMap} {field : Field}
    {value answer : RawValue} (before : Gathered passed values gathered)
    (found : values.lookup field.name = some value) (same : Same answer value) :
    Gathered (passed ++ [field]) values (LinkedMap.put gathered field.name answer) := by
  intro key
  rw [List.map_append, List.mem_append, List.map_singleton, List.mem_singleton]
  by_cases own : key = field.name
  · subst own
    refine ⟨fun _ => ?_, fun outside => absurd (Or.inr rfl) outside⟩
    rw [LinkedMap.lookup_put_self, found]
    exact .some same
  · rw [LinkedMap.lookup_put_of_ne gathered answer own]
    simp only [own, or_false]
    exact before key

theorem Gathered.skip {passed : List Field} {values gathered : FieldMap} {field : Field}
    (before : Gathered passed values gathered) (missing : values.lookup field.name = none)
    (fresh : field.name ∉ passed.map Field.name) :
    Gathered (passed ++ [field]) values gathered := by
  intro key
  rw [List.map_append, List.mem_append, List.map_singleton, List.mem_singleton]
  by_cases own : key = field.name
  · subst own
    refine ⟨fun _ => ?_, fun outside => absurd (Or.inr rfl) outside⟩
    rw [missing, (before field.name).2 fresh]
    exact .none
  · simp only [own, or_false]
    exact before key

private theorem rel_isSome {left right : Option RawValue} (related : Option.Rel Same left right) :
    left.isSome = right.isSome := by
  cases related <;> rfl

theorem same_object_of_rel {name : JString} {left right : FieldMap}
    (related : ∀ key, Option.Rel Same (left.lookup key) (right.lookup key)) :
    Same (.object name left) (.object name right) := by
  apply Same.object
  · intro key
    exact rel_isSome (related key)
  · intro key first second inLeft inRight
    have same := related key
    rw [inLeft, inRight] at same
    cases same
    assumption

theorem Gathered.same {fields : List Field} {values gathered : FieldMap}
    (whole : Gathered fields values gathered) (carried : Carried fields values) (name : JString) :
    Same (.object name gathered) (.object name values) := by
  apply same_object_of_rel
  intro key
  by_cases member : key ∈ fields.map Field.name
  · exact (whole key).1 member
  · have missing : values.lookup key = none := by
      cases found : values.lookup key with
      | none => rfl
      | some value =>
          have listed := (LinkedMap.mem_keys_iff values key).mpr
            (LinkedMap.containsKey_of_lookup found)
          exact absurd (carried.known key listed) member
    rw [(whole key).2 member, missing]
    exact .none

/-! ### Values -/

/-- The written bytes are read back as an equal value. -/
def Transfers (written : Except TlError (List Byte)) (read : Nat → TlReader RawValue)
    (value : RawValue) : Prop :=
  ∃ bytes answer, written = .ok bytes ∧ Same answer value ∧
    ∀ fuel, bytes.length < fuel → Decodes (read fuel) bytes answer

/-- Only a guarded field may be absent. -/
theorem Carried.guarded {fields : List Field} {values : FieldMap} (carried : Carried fields values)
    {field : Field} (member : field ∈ fields) (notWord : field.type ≠ flagsType)
    (missing : values.lookup field.name = none) : field.flag.isSome = true := by
  cases guard : field.flag with
  | some flag => rfl
  | none =>
      have present := carried.required field member notWord guard
      rw [LinkedMap.containsKey_eq_false_iff.mpr missing] at present
      exact absurd present Bool.false_ne_true

/-- A flag word that has been read is known to the fields after it. -/
theorem known_put {flags : List (JString × BitVec 32)} {words : List JString}
    {expected : JString → BitVec 32}
    (known : ∀ word ∈ words, flags.lookup word = some (expected word)) (name : JString) :
    ∀ word ∈ name :: words,
      (LinkedMap.put flags name (expected name)).lookup word = some (expected word) := by
  intro word listed
  by_cases own : word = name
  · rw [own, LinkedMap.lookup_put_self]
  · rw [LinkedMap.lookup_put_of_ne _ _ own]
    exact known word ((List.mem_cons.mp listed).resolve_left own)

/-- The loops over the fields of one declaration. -/
theorem transfers_fields {fields : List Field} {values : FieldMap}
    {writeNamed : JString → JString → Except TlError (List Byte)}
    {read : Nat → JString → TlReader RawValue}
    (formed : WellFormedFields fields) (carried : Carried fields values)
    (typed : ∀ field ∈ fields, field.type ≠ flagsType → field.type ≠ trueType → ∀ value,
      values.lookup field.name = some value →
        Transfers (writeNamed field.name field.type) (fun fuel => read fuel field.type) value)
    (todo : List Field) :
    ∀ passed words flags gathered, fields = passed ++ todo → flagWordsFirst words todo = true →
      (∀ word ∈ words, flags.lookup word = some (flagWord fields values word)) →
      Gathered passed values gathered →
      ∃ bytes final, writeEach (writeField writeNamed fields values) todo = .ok bytes ∧
        Gathered fields values final ∧
        ∀ fuel, bytes.length < fuel →
          Decodes (readFields (read fuel) todo flags gathered) bytes final := by
  induction todo with
  | nil =>
      intro passed words flags gathered split _ _ before
      rw [List.append_nil] at split
      exact ⟨[], gathered, rfl, split ▸ before, fun fuel _ => decodes_pure gathered⟩
  | cons field rest ih =>
      intro passed words flags gathered split ordered known before
      have member : field ∈ fields := by rw [split]; simp
      have split' : fields = (passed ++ [field]) ++ rest := by rw [split]; simp
      have fresh := name_not_mem_passed formed.names split
      rw [flagWordsFirst, Bool.and_eq_true] at ordered
      by_cases isWord : field.type = flagsType
      · -- a flag word: what is read is the word the writer derived
        have ordered' := ordered.2
        rw [if_pos isWord] at ordered'
        have missing :=
          LinkedMap.containsKey_eq_false_iff.mp (carried.flagWords field member isWord)
        obtain ⟨bytes, final, written, whole, reads⟩ :=
          ih _ _ _ gathered split' ordered' (known_put known field.name) (before.skip missing fresh)
        refine ⟨_, final, writeEach_cons (writeField_flagWord isWord) written, whole, ?_⟩
        intro fuel enough
        rw [List.length_append] at enough
        exact decodes_flagWord isWord (reads fuel (by omega))
      · have ordered' := ordered.2
        rw [if_neg isWord] at ordered'
        have given : isGiven flags field = .ok (LinkedMap.containsKey values field.name) := by
          apply carried.isGiven_eq formed member isWord
          intro flag guard
          have listed := ordered.1
          rw [Option.mem_def.mp guard] at listed
          exact known flag.1 (List.contains_iff_mem.mp listed)
        cases found : values.lookup field.name with
        | none =>
            rw [LinkedMap.containsKey_eq_false_iff.mpr found] at given
            have guarded := carried.guarded member isWord found
            obtain ⟨bytes, final, written, whole, reads⟩ := ih _ _ _ gathered split' ordered'
              known (before.skip found fresh)
            refine ⟨bytes, final, writeEach_cons (writeField_absent isWord guarded found) written,
              whole, ?_⟩
            intro fuel enough
            exact decodes_absent isWord given (reads fuel enough)
        | some value =>
            rw [LinkedMap.containsKey_of_lookup found] at given
            by_cases isTrue : field.type = trueType
            · have valueEq := carried.present field member isTrue value found
              subst valueEq
              obtain ⟨bytes, final, written, whole, reads⟩ := ih _ _ _ _ split' ordered' known
                (before.put found (.booleanValue true))
              refine ⟨bytes, final, writeEach_cons (writeField_true isWord isTrue found) written,
                whole, ?_⟩
              intro fuel enough
              exact decodes_true isWord given isTrue (reads fuel enough)
            · obtain ⟨here, answer, wrote, same, readsHere⟩ :=
                typed field member isWord isTrue value found
              obtain ⟨bytes, final, written, whole, reads⟩ := ih _ _ _ _ split' ordered' known
                (before.put found same)
              have wroteHere : writeField writeNamed fields values field = .ok here :=
                (writeField_value isWord isTrue found).trans wrote
              refine ⟨here ++ bytes, final, writeEach_cons wroteHere written, whole, ?_⟩
              intro fuel enough
              rw [List.length_append] at enough
              exact decodes_value isWord given isTrue (readsHere fuel (by omega))
                (reads fuel (by omega))

theorem transfers_elements {schema : RawSchema} {elementType : JString}
    {read : Nat → TlReader RawValue} (values : List RawValue)
    (each : ∀ value ∈ values, Transfers (writeValue schema value elementType) read value) :
    ∃ pieces : List (List Byte × RawValue),
      writeElements schema values elementType = .ok (pieces.map Prod.fst).flatten ∧
      List.Forall₂ Same (pieces.map Prod.snd) values ∧
      ∀ piece ∈ pieces, ∀ fuel, piece.1.length < fuel → Decodes (read fuel) piece.1 piece.2 := by
  induction values with
  | nil => exact ⟨[], by rw [writeElements]; rfl, .nil, by simp⟩
  | cons value rest ih =>
      obtain ⟨bytes, answer, written, same, reads⟩ := each value List.mem_cons_self
      obtain ⟨pieces, writtenRest, sameRest, readsRest⟩ :=
        ih fun other member => each other (List.mem_cons_of_mem value member)
      refine ⟨(bytes, answer) :: pieces, ?_, .cons same sameRest, ?_⟩
      · rw [writeElements, written, writtenRest]
        rfl
      · intro piece member
        rcases List.mem_cons.mp member with rfl | later
        · exact reads
        · exact readsRest piece later

private theorem length_le_flatten {pieces : List (List Byte × RawValue)}
    {piece : List Byte × RawValue} (member : piece ∈ pieces) :
    piece.1.length ≤ ((pieces.map Prod.fst).flatten).length := by
  exact (List.sublist_flatten_of_mem (List.mem_map_of_mem member)).length_le

private theorem same_vector {left right : List RawValue} (related : List.Forall₂ Same left right) :
    Same (.vectorValue left) (.vectorValue right) := by
  apply Same.vectorValue related.length_eq
  intro index first second inLeft inRight
  have inside := (List.getElem?_eq_some_iff.mp inLeft)
  obtain ⟨leftBound, leftAt⟩ := inside
  obtain ⟨rightBound, rightAt⟩ := List.getElem?_eq_some_iff.mp inRight
  rw [← leftAt, ← rightAt]
  exact related.get leftBound rightBound

section Values

variable {schema : RawSchema} {action : CodingErrorAction} {type : JString}

/-- A value whose bytes one primitive reads back, whatever the fuel. -/
private theorem transfers_of_decodes {written : Except TlError (List Byte)} {bytes : List Byte}
    {value : RawValue} {primitive : TlReader RawValue} (written_eq : written = .ok bytes)
    (same : Same value value) (reads : Decodes primitive bytes value)
    (step : ∀ fuel, readValueWithin action schema (fuel + 1) type = primitive) :
    Transfers written (fun fuel => readValueWithin action schema fuel type) value := by
  refine ⟨bytes, value, written_eq, same, fun fuel enough => ?_⟩
  cases fuel with
  | zero => omega
  | succ fuel =>
      change Decodes (readValueWithin action schema (fuel + 1) type) bytes value
      rw [step fuel]
      exact reads

theorem transfers_vector {elementType : JString} {values : List RawValue}
    (shape : typeShape type = .vector elementType) (small : values.length ≤ maxVectorSize)
    (each : ∀ value ∈ values, Transfers (writeValue schema value elementType)
      (fun fuel => readValueWithin action schema fuel elementType) value) :
    Transfers (writeValue schema (.vectorValue values) type)
      (fun fuel => readValueWithin action schema fuel type) (.vectorValue values) := by
  obtain ⟨pieces, written, same, reads⟩ := transfers_elements values each
  have size : pieces.length = values.length := by
    have equal := same.length_eq
    rwa [List.length_map] at equal
  refine ⟨TlWriter.vectorHeader pieces.length ++ (pieces.map Prod.fst).flatten,
    .vectorValue (pieces.map Prod.snd), ?_, same_vector same, fun fuel enough => ?_⟩
  · rw [(writeValue_cases schema _).vector shape, written, size]
    rfl
  · cases fuel with
    | zero => omega
    | succ fuel =>
        have header : (TlWriter.vectorHeader pieces.length).length = 8 := rfl
        rw [List.length_append, header] at enough
        have elements : ∀ piece ∈ pieces,
            Decodes (readValueWithin action schema fuel elementType) piece.1 piece.2 := by
          intro piece member
          have bound := length_le_flatten member
          exact reads piece member fuel (by omega)
        have read := (decodes_vector elements (size ▸ small)).map RawValue.vectorValue
        simp only [readValueWithin, shape]
        exact read

/-- The fields of one declaration, read one level further down. -/
theorem transfers_declared {constructor : RawConstructor} {fields : List Field}
    {values : FieldMap} (formed : schema.WellFormed) (member : constructor ∈ schema.constructors)
    (parsed : parseFields constructor.parameters = .ok fields) (carried : Carried fields values)
    (typed : ∀ field ∈ fields, field.type ≠ flagsType → field.type ≠ trueType → ∀ value,
      values.lookup field.name = some value → Transfers (writeValue schema value field.type)
        (fun fuel => readValueWithin action schema fuel field.type) value) :
    ∃ body final, writeFields (writeEntry schema values) fields values = .ok body ∧
      Same (.object constructor.name final) (.object constructor.name values) ∧
      ∀ fuel, body.length < fuel →
        Decodes (readFields (readValueWithin action schema fuel) fields [] []) body final := by
  have entries : ∀ field ∈ fields, field.type ≠ flagsType → field.type ≠ trueType → ∀ value,
      values.lookup field.name = some value →
        Transfers (writeEntry schema values field.name field.type)
          (fun fuel => readValueWithin action schema fuel field.type) value := by
    intro field inFields notWord notTrue value found
    rw [writeEntry_of_lookup found]
    exact typed field inFields notWord notTrue value found
  have declared := formed.declarations constructor member fields parsed
  obtain ⟨body, final, written, whole, reads⟩ := transfers_fields declared carried entries fields
    [] [] [] [] rfl declared.order (by simp) (gathered_nil values)
  exact ⟨body, final, writeFields_eq_ok.mpr ⟨carried.known, written⟩,
    whole.same carried constructor.name, reads⟩

theorem transfers_object {constructor : RawConstructor} {fields : List Field} {values : FieldMap}
    (formed : schema.WellFormed) (shape : typeShape type = .boxed)
    (concrete : type ≠ variableType) (member : constructor ∈ schema.constructors)
    (result : matchesType constructor.result type = true)
    (parsed : parseFields constructor.parameters = .ok fields) (carried : Carried fields values)
    (typed : ∀ field ∈ fields, field.type ≠ flagsType → field.type ≠ trueType → ∀ value,
      values.lookup field.name = some value → Transfers (writeValue schema value field.type)
        (fun fuel => readValueWithin action schema fuel field.type) value) :
    Transfers (writeValue schema (.object constructor.name values) type)
      (fun fuel => readValueWithin action schema fuel type) (.object constructor.name values) := by
  obtain ⟨body, final, accepted, same, reads⟩ :=
    transfers_declared formed member parsed carried typed
  refine ⟨TlWriter.constructor constructor.constructorId ++ body, .object constructor.name final,
    ?_, same, fun fuel enough => ?_⟩
  · rw [(writeValue_cases schema _).boxed shape]
    apply writeObjectWith_eq_ok.mpr
    refine ⟨constructor, formed.constructorsByName_of_mem member, result, ?_⟩
    rw [← writeParameters_of_parsed parsed] at accepted
    exact writeDeclared_eq_ok.mpr ⟨body, accepted, rfl⟩
  · cases fuel with
    | zero => omega
    | succ fuel =>
        have header : (TlWriter.constructor constructor.constructorId).length = 4 := rfl
        rw [List.length_append, header] at enough
        simp only [readValueWithin, shape, if_neg concrete]
        apply decodes_object (formed.constructorsById_of_mem member) _ parsed
          (reads fuel (by omega))
        intro expectedType same
        cases same
        exact result

/-- Every well-typed value is written, and read back from its bytes. -/
theorem WellTyped.transfers (action : CodingErrorAction) (formed : schema.WellFormed)
    {value : RawValue} (typed : WellTyped Writable schema type value) :
    Transfers (writeValue schema value type)
      (fun fuel => readValueWithin action schema fuel type) value := by
  induction typed with
  | @int type value shape =>
      have read := (decodes_int value).map RawValue.intValue
      have written := (writeValue_cases schema type).int shape value
      apply transfers_of_decodes written (.intValue value) read
      intro fuel
      simp only [readValueWithin, shape]
  | @long type value shape =>
      have read := (decodes_long value).map RawValue.longValue
      have written := (writeValue_cases schema type).long shape value
      apply transfers_of_decodes written (.longValue value) read
      intro fuel
      simp only [readValueWithin, shape]
  | @double type value shape =>
      have read := (decodes_double value).map RawValue.doubleValue
      have written := (writeValue_cases schema type).double shape value
      apply transfers_of_decodes written (.doubleValue value) read
      intro fuel
      simp only [readValueWithin, shape]
  | @string type value shape admitted =>
      have written := ((writeValue_cases schema type).string shape value).trans
        (TlWriter.bytes_eq _ admitted.2)
      have read := (decodes_string action value admitted.1 admitted.2).map RawValue.stringValue
      apply transfers_of_decodes written (.stringValue value) read
      intro fuel
      simp only [readValueWithin, shape]
  | @bytes type value shape small =>
      have written := ((writeValue_cases schema type).bytes shape value).trans
        (TlWriter.bytes_eq value small)
      have read := (decodes_bytes value small).map RawValue.bytesValue
      apply transfers_of_decodes written (.bytesValue value) read
      intro fuel
      simp only [readValueWithin, shape]
  | @int128 type value shape size =>
      have written := ((writeValue_cases schema type).int128 shape _).trans
        (fixedBytes_of_length size type)
      have read := (decodes_fixedBytes value).map RawValue.bytesValue
      apply transfers_of_decodes written (.bytesValue value) read
      intro fuel
      simp only [readValueWithin, shape, size]
  | @int256 type value shape size =>
      have written := ((writeValue_cases schema type).int256 shape _).trans
        (fixedBytes_of_length size type)
      have read := (decodes_fixedBytes value).map RawValue.bytesValue
      apply transfers_of_decodes written (.bytesValue value) read
      intro fuel
      simp only [readValueWithin, shape, size]
  | @bool type value shape =>
      have read := (decodes_boolean value).map RawValue.booleanValue
      have written := (writeValue_cases schema type).bool shape value
      apply transfers_of_decodes written (.booleanValue value) read
      intro fuel
      simp only [readValueWithin, shape]
  | vector shape small elements ih => exact transfers_vector shape small ih
  | object shape concrete member result parsed carried typed ih =>
      exact transfers_object formed shape concrete member result parsed carried ih

end Values

/-! ### Whole objects -/

theorem readObject_run {action : CodingErrorAction} {schema : RawSchema} {type : JString}
    (shape : typeShape type = .boxed) (concrete : type ≠ variableType) (input : List Byte) :
    (readObject action schema (some type)).run input =
      (readValueWithin action schema (input.length + 1) type).run input := by
  simp only [readValueWithin, shape, if_neg concrete]
  rfl

/-- A well-typed object is written, and read back from the bytes, whatever
follows them. -/
theorem readObject_writeObject {schema : RawSchema} (formed : schema.WellFormed)
    {type constructorName : JString} {fields : FieldMap}
    (typed : WellTyped Writable schema type (.object constructorName fields)) :
    ∃ bytes answer, writeObject schema constructorName fields type = .ok bytes ∧
      Same answer (.object constructorName fields) ∧
      ∀ rest, (readObject .replace schema (some type)).run (bytes ++ rest) =
        .ok (answer, rest) := by
  obtain ⟨bytes, answer, written, same, reads⟩ := typed.transfers .replace formed
  cases typed with
  | object shape concrete =>
      rw [(writeValue_cases schema _).boxed shape] at written
      refine ⟨bytes, answer, written, same, fun rest => ?_⟩
      rw [readObject_run shape concrete]
      apply reads
      rw [List.length_append]
      omega

theorem readObject_writeObject_factCheck :
    ∃ bytes answer,
      writeObject layer232Extract (text "factCheck") factCheckValues (text "FactCheck") =
        .ok bytes ∧
      Same answer (.object (text "factCheck") factCheckValues) ∧
      ∀ rest, (readObject .replace layer232Extract (some (text "FactCheck"))).run (bytes ++ rest) =
        .ok (answer, rest) :=
  readObject_writeObject layer232Extract_wellFormed factCheckValues_wellTyped

end Kotlogramme.Raw
