/-
What the bytes of a request say.

Equal values are written as equal bytes, and the fields of a request are read back from
its body by the declaration of its method.  The body of a request therefore names its
method and its fields, and is no proper prefix of the body of another one.
-/

import Kotlogramme.Raw.Framing
import Kotlogramme.Raw.Acceptance

namespace Kotlogramme.Raw

open Decoder

/-! ### Equal values are written alike -/

theorem Same.trans {first second third : RawValue} (left : Same first second)
    (right : Same second third) : Same first third := by
  induction left generalizing third with
  | vectorValue size elements ih =>
      cases right with
      | vectorValue otherSize otherElements =>
          refine .vectorValue (size.trans otherSize) fun index one last inFirst inLast => ?_
          obtain ⟨within, -⟩ := List.getElem?_eq_some_iff.mp inFirst
          have between := List.getElem?_eq_getElem (size ▸ within)
          exact ih index one _ inFirst between (otherElements index _ last between inLast)
  | object keys values ih =>
      cases right with
      | object otherKeys otherValues =>
          refine .object (fun key => (keys key).trans (otherKeys key))
            fun key one last inFirst inLast => ?_
          have there := keys key
          rw [inFirst, Option.isSome_some, eq_comm, Option.isSome_iff_exists] at there
          obtain ⟨middle, between⟩ := there
          exact ih key one middle inFirst between (otherValues key middle last between inLast)
  | intValue value => exact right
  | longValue value => exact right
  | doubleValue value => exact right
  | stringValue value => exact right
  | bytesValue value => exact right
  | booleanValue value => exact right

section Written

variable {schema : RawSchema}

/-- Wherever the first value is written, the second is written as the same bytes. -/
def WrittenAlike (schema : RawSchema) (left right : RawValue) : Prop :=
  ∀ type body, writeValue schema left type = .ok body → writeValue schema right type = .ok body

theorem writeElements_alike {type : JString} {left right : List RawValue} {body : List Byte}
    (size : left.length = right.length)
    (alike : ∀ (index : Nat) (first second : RawValue), left[index]? = some first →
      right[index]? = some second → WrittenAlike schema first second)
    (accepted : writeElements schema left type = .ok body) :
    writeElements schema right type = .ok body := by
  induction left generalizing right body with
  | nil =>
      cases right with
      | nil => exact accepted
      | cons value rest => cases size
  | cons first rest ih =>
      cases right with
      | nil => cases size
      | cons second others =>
          rw [writeElements] at accepted
          obtain ⟨here, wrote, continued⟩ := bind_eq_ok.mp accepted
          obtain ⟨later, wroteLater, same⟩ := bind_eq_ok.mp continued
          have wroteOthers := ih (Nat.succ.inj size)
            (fun index one other inRest inOthers => alike (index + 1) one other inRest inOthers)
            wroteLater
          rw [writeElements, alike 0 first second rfl rfl type here wrote, wroteOthers]
          exact same

section Maps

variable {fields : List Field} {left right : FieldMap}
  (keys : ∀ key, (left.lookup key).isSome = (right.lookup key).isSome)
  (alike : ∀ (key : JString) (first second : RawValue), left.lookup key = some first →
    right.lookup key = some second → Same first second ∧ WrittenAlike schema first second)

include keys

theorem flagWord_alike (flagName : JString) :
    flagWord fields left flagName = flagWord fields right flagName := by
  have bits : flagBits left flagName = flagBits right flagName := by
    funext field
    have there : LinkedMap.containsKey left field.name = LinkedMap.containsKey right field.name :=
      keys field.name
    unfold flagBits
    rw [there]
  unfold flagWord
  rw [bits]

theorem lookup_alike {key : JString} {first : RawValue} (found : left.lookup key = some first) :
    ∃ second, right.lookup key = some second := by
  rw [← Option.isSome_iff_exists, ← keys key, found]
  rfl

include alike

theorem writeField_alike {field : Field} {here : List Byte}
    (accepted : writeField (writeEntry schema left) fields left field = .ok here) :
    writeField (writeEntry schema right) fields right field = .ok here := by
  by_cases isWord : field.type = flagsType
  · rw [writeField_flagWord isWord, flagWord_alike keys] at accepted
    rw [writeField_flagWord isWord, accepted]
  have there : LinkedMap.containsKey left field.name = LinkedMap.containsKey right field.name :=
    keys field.name
  unfold writeField at accepted ⊢
  rw [if_neg isWord] at accepted ⊢
  rw [← there]
  by_cases absent : (field.flag.isSome && !LinkedMap.containsKey left field.name) = true
  · rw [if_pos absent] at accepted ⊢
    exact accepted
  rw [if_neg absent] at accepted ⊢
  by_cases isTrue : field.type = trueType
  · rw [if_pos isTrue] at accepted ⊢
    cases found : left.lookup field.name with
    | none =>
        rw [requireBoolean, found] at accepted
        cases accepted
    | some first =>
        obtain ⟨second, foundSecond⟩ := lookup_alike keys found
        have same := (alike field.name first second found foundSecond).1
        rw [requireBoolean, found] at accepted
        cases same with
        | booleanValue value =>
            rw [requireBoolean, foundSecond]
            exact accepted
        | _ => cases accepted
  · rw [if_neg isTrue] at accepted ⊢
    rw [writeEntry_eq] at accepted ⊢
    cases found : left.lookup field.name with
    | none =>
        rw [found] at accepted
        cases accepted
    | some first =>
        obtain ⟨second, foundSecond⟩ := lookup_alike keys found
        rw [found] at accepted
        rw [foundSecond]
        exact (alike field.name first second found foundSecond).2 _ _ accepted

theorem writeEach_alike {todo : List Field} {body : List Byte}
    (accepted : writeEach (writeField (writeEntry schema left) fields left) todo = .ok body) :
    writeEach (writeField (writeEntry schema right) fields right) todo = .ok body := by
  induction todo generalizing body with
  | nil => exact accepted
  | cons field rest ih =>
      rw [writeEach] at accepted
      obtain ⟨here, wrote, continued⟩ := bind_eq_ok.mp accepted
      obtain ⟨later, wroteLater, same⟩ := bind_eq_ok.mp continued
      rw [writeEach, writeField_alike keys alike wrote, ih wroteLater]
      exact same

theorem writeDeclared_alike {constructorId : BitVec 32} {parameters : JString}
    {body : List Byte}
    (accepted : writeDeclared (writeEntry schema left) constructorId parameters left = .ok body) :
    writeDeclared (writeEntry schema right) constructorId parameters right = .ok body := by
  obtain ⟨written, wrote, same⟩ := writeDeclared_eq_ok.mp accepted
  refine writeDeclared_eq_ok.mpr ⟨written, ?_, same⟩
  obtain ⟨fields, parsed, wroteFields⟩ := bind_eq_ok.mp wrote
  obtain ⟨known, each⟩ := writeFields_eq_ok.mp wroteFields
  rw [writeParameters_of_parsed parsed]
  refine writeFields_eq_ok.mpr ⟨fun key listed => known key ?_, writeEach_alike keys alike each⟩
  rw [LinkedMap.mem_keys_iff] at listed ⊢
  exact (keys key).trans listed

end Maps

theorem Same.writtenAlike {left right : RawValue} (same : Same left right) :
    WrittenAlike schema left right := by
  induction same with
  | @vectorValue left right size elements ih =>
      intro type body accepted
      cases shape : typeShape type with
      | vector elementType =>
          rw [(writeValue_cases schema type).vector shape] at accepted ⊢
          obtain ⟨written, wrote, result⟩ := bind_eq_ok.mp accepted
          rw [writeElements_alike size ih wrote, ← size]
          exact result
      | _ =>
          unfold writeValue at accepted
          rw [shape] at accepted
          cases accepted
  | @object name left right keys values ih =>
      intro type body accepted
      have alike (key : JString) (first second : RawValue) (inLeft : left.lookup key = some first)
          (inRight : right.lookup key = some second) :
          Same first second ∧ WrittenAlike schema first second :=
        ⟨values key first second inLeft inRight, ih key first second inLeft inRight⟩
      cases shape : typeShape type with
      | generic =>
          rw [(writeValue_cases schema type).generic shape] at accepted ⊢
          obtain ⟨constructor, named, wrote⟩ := writeUntypedObjectWith_eq_ok.mp accepted
          exact writeUntypedObjectWith_eq_ok.mpr
            ⟨constructor, named, writeDeclared_alike keys alike wrote⟩
      | boxed =>
          rw [(writeValue_cases schema type).boxed shape] at accepted ⊢
          obtain ⟨constructor, named, result, wrote⟩ := writeObjectWith_eq_ok.mp accepted
          exact writeObjectWith_eq_ok.mpr
            ⟨constructor, named, result, writeDeclared_alike keys alike wrote⟩
      | _ =>
          unfold writeValue at accepted
          rw [shape] at accepted
          cases accepted
  | _ => exact fun _ _ accepted => accepted

end Written

/-! ### Requests -/

/-- The methods of a schema can be told apart by name and by id. -/
structure RawSchema.MethodsDistinct (schema : RawSchema) : Prop where
  names : ∀ left ∈ schema.functions, ∀ right ∈ schema.functions,
    left.name = right.name → left = right
  ids : ∀ left ∈ schema.functions, ∀ right ∈ schema.functions,
    left.constructorId = right.constructorId → left = right

/-- A call of a method with fields that its declaration can carry. -/
structure Callable (schema : RawSchema) (method : RawMethod) (fields : List Field)
    (values : FieldMap) : Prop where
  member : method ∈ schema.functions
  parsed : parseFields method.parameters = .ok fields
  formed : WellFormedFields fields
  typed : WellTypedFields Writable schema fields values

section Requests

variable {schema : RawSchema}

/-- The fields of a request are read back from its body. -/
theorem Callable.transfers {method : RawMethod} {fields : List Field} {values : FieldMap}
    (formed : schema.WellFormed) (distinct : schema.MethodsDistinct)
    (call : Callable schema method fields values) :
    ∃ body final,
      encodeMethod schema method.name values =
        .ok (TlWriter.constructor method.constructorId ++ body) ∧
      Same (.object method.name final) (.object method.name values) ∧
      ∀ fuel, body.length < fuel →
        Decodes (readFields (readValueWithin .replace schema fuel) fields [] []) body final := by
  have carried := call.typed.carried
  have entries : ∀ field ∈ fields, field.type ≠ flagsType → field.type ≠ trueType → ∀ value,
      values.lookup field.name = some value →
        Transfers (writeEntry schema values field.name field.type)
          (fun fuel => readValueWithin .replace schema fuel field.type) value := by
    intro field inFields notWord notTrue value found
    rw [writeEntry_of_lookup found]
    exact (call.typed.typed field inFields notWord notTrue value found).transfers .replace formed
  obtain ⟨body, final, written, whole, reads⟩ := transfers_fields call.formed carried entries
    fields [] [] [] [] rfl call.formed.order (by simp) (gathered_nil values)
  have named : schema.methods method.name = some method :=
    LinkedMap.associateBy_of_mem RawMethod.name schema.functions method call.member distinct.names
  refine ⟨body, final, ?_, whole.same carried method.name, reads⟩
  have accepted := writeFields_eq_ok.mpr ⟨carried.known, written⟩
  rw [← writeParameters_of_parsed call.parsed] at accepted
  exact bind_eq_ok.mpr ⟨method, requireNotNull_eq_ok.mpr named,
    writeDeclared_eq_ok.mpr ⟨body, accepted, rfl⟩⟩

theorem int_injective {left right : BitVec 32} (same : TlWriter.int left = TlWriter.int right) :
    left = right := by
  have first := decodes_int left []
  rw [same, decodes_int right []] at first
  exact (Prod.mk.inj (Except.ok.inj first)).1.symm

/-- Equal maps are encoded alike. -/
theorem encodeMethod_alike {name : JString} {left right : FieldMap} {body : List Byte}
    (same : Same (.object name left) (.object name right))
    (accepted : encodeMethod schema name left = .ok body) :
    encodeMethod schema name right = .ok body := by
  obtain ⟨method, named, wrote⟩ := bind_eq_ok.mp accepted
  cases same with
  | object keys values =>
      refine bind_eq_ok.mpr ⟨method, named, writeDeclared_alike keys ?_ wrote⟩
      intro key first second inLeft inRight
      have equal := values key first second inLeft inRight
      exact ⟨equal, equal.writtenAlike⟩

/-- A body that begins another one is of the same method, with equal fields. -/
theorem Callable.of_prefix {first second : RawMethod} {firstFields secondFields : List Field}
    {firstValues secondValues : FieldMap} {firstBody secondBody : List Byte}
    (formed : schema.WellFormed) (distinct : schema.MethodsDistinct)
    (one : Callable schema first firstFields firstValues)
    (other : Callable schema second secondFields secondValues)
    (firstEncoded : encodeMethod schema first.name firstValues = .ok firstBody)
    (secondEncoded : encodeMethod schema second.name secondValues = .ok secondBody)
    (begins : firstBody <+: secondBody) :
    first = second ∧ Same (.object first.name firstValues) (.object second.name secondValues) := by
  obtain ⟨body, final, encoded, same, reads⟩ := one.transfers formed distinct
  obtain ⟨otherBody, otherFinal, otherEncoded, otherSame, otherReads⟩ :=
    other.transfers formed distinct
  cases firstEncoded.symm.trans encoded
  cases secondEncoded.symm.trans otherEncoded
  obtain ⟨more, joined⟩ := begins
  rw [List.append_assoc] at joined
  have parts := List.append_inj joined rfl
  have method : first = second :=
    distinct.ids first one.member second other.member (int_injective parts.1)
  subst method
  cases one.parsed.symm.trans other.parsed
  -- both bodies are read with one bound on the nesting
  have here := reads (body.length + otherBody.length + 1) (by omega) more
  have there := otherReads (body.length + otherBody.length + 1) (by omega) []
  rw [parts.2] at here
  rw [List.append_nil] at there
  have finals := (Prod.mk.inj (Except.ok.inj (here.symm.trans there))).1
  rw [finals] at same
  exact ⟨rfl, same.symm.trans otherSame⟩

/-- The body of a request begins the body of another one exactly where both are the
same method with equal fields, and then the bodies are equal. -/
theorem requests_told_apart {first second : RawMethod} {firstFields secondFields : List Field}
    {firstValues secondValues : FieldMap} (formed : schema.WellFormed)
    (distinct : schema.MethodsDistinct) (one : Callable schema first firstFields firstValues)
    (other : Callable schema second secondFields secondValues) :
    ∃ firstBody secondBody, encodeMethod schema first.name firstValues = .ok firstBody ∧
      encodeMethod schema second.name secondValues = .ok secondBody ∧
      (firstBody <+: secondBody ↔ first = second ∧
        Same (.object first.name firstValues) (.object second.name secondValues)) ∧
      (firstBody <+: secondBody → firstBody = secondBody) := by
  obtain ⟨body, final, encoded, -⟩ := one.transfers formed distinct
  obtain ⟨otherBody, otherFinal, otherEncoded, -⟩ := other.transfers formed distinct
  have alike (same : first = second ∧
      Same (.object first.name firstValues) (.object second.name secondValues)) :
      TlWriter.constructor first.constructorId ++ body =
        TlWriter.constructor second.constructorId ++ otherBody := by
    obtain ⟨method, values⟩ := same
    subst method
    exact Except.ok.inj ((encodeMethod_alike values encoded).symm.trans otherEncoded)
  have told := one.of_prefix formed distinct other encoded otherEncoded
  refine ⟨_, _, encoded, otherEncoded, ⟨told, fun same => ?_⟩, fun begins => alike (told begins)⟩
  exact ⟨[], by rw [List.append_nil, alike same]⟩

theorem getContactIDs_callable (hash : BitVec 64) :
    Callable layer232Extract getContactIDs [hashField] [(text "hash", .longValue hash)] where
  member := by decide
  parsed := by decide
  formed := {
    names := by decide
    bits := by decide
    order := by decide
    types := fun field member => by
      rw [List.mem_singleton.mp member]
      exact .inr (.inr (.primitive (by decide))) }
  typed := {
    carried := {
      known := fun key member => member
      required := fun field member _ _ => by rw [List.mem_singleton.mp member]; rfl
      flagWords := fun field member isWord => by
        rw [List.mem_singleton.mp member] at isWord
        exact absurd isWord (by decide)
      present := fun field member isTrue => by
        rw [List.mem_singleton.mp member] at isTrue
        exact absurd isTrue (by decide)
      shared := fun left inLeft right inRight _ _ flag guard => by
        rw [List.mem_singleton.mp inLeft] at guard
        cases guard }
    typed := fun field member _ _ value found => by
      rw [List.mem_singleton.mp member] at found ⊢
      cases found
      exact .long (by decide) }

/-- Requests of `contacts.getContactIDs` for two hashes. -/
theorem requests_told_apart_getContactIDs :
    ∃ firstBody secondBody,
      encodeMethod layer232Extract getContactIDs.name [(text "hash", .longValue 5)] =
        .ok firstBody ∧
      encodeMethod layer232Extract getContactIDs.name [(text "hash", .longValue 6)] =
        .ok secondBody ∧ ¬ firstBody <+: secondBody := by
  obtain ⟨firstBody, secondBody, encoded, otherEncoded, told, -⟩ :=
    requests_told_apart layer232Extract_wellFormed ⟨by decide, by decide⟩
      (getContactIDs_callable 5) (getContactIDs_callable 6)
  refine ⟨firstBody, secondBody, encoded, otherEncoded, fun begins => ?_⟩
  cases (told.mp begins).2 with
  | object keys values =>
      have same := values (text "hash") (.longValue 5) (.longValue 6) rfl rfl
      cases same

end Requests

end Kotlogramme.Raw
