/-
What holds of the reader whatever the schema.

The strict reader, which reports a malformed text, differs from the codec's
only in accepting less.  The bound on the nesting makes no difference once it
exceeds the length of the input, because every nested value takes bytes of its
own.
-/

import Kotlogramme.Raw.DynamicCodec

namespace Kotlogramme.Raw

open Decoder

/-! ### The strict reader -/

theorem string_extends : Extends (TlReader.string .report) (TlReader.string .replace) := by
  unfold TlReader.string
  apply (Extends.refl TlReader.bytes).bind
  intro encoded
  cases decoded : Utf.decodeUtf8 .report encoded with
  | none =>
      intro input value rest accepted
      exact absurd accepted run_throw_ne_ok
  | some string =>
      rw [(Utf.decodeUtf8_report encoded string decoded).2]
      exact Extends.refl _

theorem vector_extends {α : Type} {weak strong : TlReader α} (element : Extends weak strong) :
    Extends (TlReader.vector weak) (TlReader.vector strong) := by
  unfold TlReader.vector
  apply (Extends.refl (TlReader.constructor vectorConstructor)).bind
  intro _
  apply (Extends.refl TlReader.int).bind
  intro size
  by_cases bounds : 0 ≤ size.toInt ∧ size.toInt ≤ maxVectorSize
  · rw [if_pos bounds, if_pos bounds]
    exact element.times size.toNat
  · rw [if_neg bounds, if_neg bounds]
    exact Extends.refl _

theorem readFields_extends {weak strong : JString → TlReader RawValue}
    (each : ∀ type, Extends (weak type) (strong type)) (fields : List Field) :
    ∀ flags gathered,
      Extends (readFields weak fields flags gathered) (readFields strong fields flags gathered) := by
  induction fields with
  | nil =>
      intro flags gathered
      exact Extends.refl _
  | cons field rest ih =>
      intro flags gathered
      rw [readFields, readFields]
      by_cases isWord : field.type = flagsType
      · rw [if_pos isWord, if_pos isWord]
        exact (Extends.refl TlReader.int).bind fun word => ih _ _
      · rw [if_neg isWord, if_neg isWord]
        apply (Extends.refl _).bind
        intro given
        cases given with
        | false => exact ih flags gathered
        | true =>
            by_cases isTrue : field.type = trueType
            · simp only [if_pos isTrue]
              exact ih _ _
            · simp only [if_neg isTrue]
              exact (each field.type).bind fun value => ih _ _

theorem readObjectWith_extends {weak strong : JString → TlReader RawValue}
    (each : ∀ type, Extends (weak type) (strong type)) (schema : RawSchema)
    (expected : Option JString) :
    Extends (readObjectWith weak schema expected) (readObjectWith strong schema expected) := by
  unfold readObjectWith
  apply (Extends.refl TlReader.int).bind
  intro constructorId
  apply (Extends.refl _).bind
  intro constructor
  apply (Extends.refl _).bind
  intro _
  apply (Extends.refl _).bind
  intro fields
  apply (readFields_extends each fields [] []).bind
  intro values
  exact Extends.refl _

/-- Where every text is valid, replacing makes no difference. -/
theorem readValueWithin_extends (schema : RawSchema) (fuel : Nat) :
    ∀ type, Extends (readValueWithin .report schema fuel type)
      (readValueWithin .replace schema fuel type) := by
  induction fuel with
  | zero =>
      intro type
      exact Extends.refl _
  | succ fuel ih =>
      intro type
      rw [readValueWithin, readValueWithin]
      cases typeShape type with
      | string => exact string_extends.map RawValue.stringValue
      | vector elementType => exact (vector_extends (ih elementType)).map RawValue.vectorValue
      | generic => exact readObjectWith_extends ih schema none
      | boxed => exact readObjectWith_extends ih schema _
      | int => exact Extends.refl _
      | long => exact Extends.refl _
      | double => exact Extends.refl _
      | bytes => exact Extends.refl _
      | int128 => exact Extends.refl _
      | int256 => exact Extends.refl _
      | bool => exact Extends.refl _

/-! ### The bound on the nesting -/

theorem consumes_readFields {read : JString → TlReader RawValue}
    (each : ∀ type, Consumes 0 (read type)) (fields : List Field) :
    ∀ words values, Consumes 0 (readFields read fields words values) := by
  induction fields with
  | nil =>
      intro words values
      exact consumes_pure values
  | cons field rest ih =>
      intro words values
      rw [readFields]
      by_cases isWord : field.type = flagsType
      · rw [if_pos isWord]
        exact (consumes_int.mono (Nat.zero_le 4)).seq fun word => ih _ _
      · rw [if_neg isWord]
        apply (consumes_lift _).seq
        intro given
        cases given with
        | false => exact ih words values
        | true =>
            by_cases isTrue : field.type = trueType
            · simp only [if_pos isTrue]
              exact ih _ _
            · simp only [if_neg isTrue]
              exact (each field.type).seq fun value => ih _ _

theorem consumes_readObjectWith {read : JString → TlReader RawValue}
    (each : ∀ type, Consumes 0 (read type)) (schema : RawSchema) (expected : Option JString) :
    Consumes 4 (readObjectWith read schema expected) := by
  unfold readObjectWith
  apply consumes_int.seq
  intro constructorId
  apply (consumes_lift _).seq
  intro constructor
  apply (consumes_lift _).seq
  intro _
  apply (consumes_lift _).seq
  intro fields
  exact (consumes_readFields each fields [] []).seq fun values => consumes_pure _

theorem consumes_readValueWithin (action : CodingErrorAction) (schema : RawSchema) (fuel : Nat) :
    ∀ type, Consumes 0 (readValueWithin action schema fuel type) := by
  induction fuel with
  | zero =>
      intro type
      exact consumes_throw 0 _
  | succ fuel ih =>
      intro type
      rw [readValueWithin]
      cases typeShape type with
      | int => exact (consumes_int.map _).mono (Nat.zero_le _)
      | long => exact (consumes_long.map _).mono (Nat.zero_le _)
      | double => exact (consumes_long.map _).mono (Nat.zero_le _)
      | string => exact ((consumes_string action).map _).mono (Nat.zero_le _)
      | bytes => exact (consumes_bytes.map _).mono (Nat.zero_le _)
      | int128 => exact ((consumes_advance TlError.truncated 16).map _).mono (Nat.zero_le _)
      | int256 => exact ((consumes_advance TlError.truncated 32).map _).mono (Nat.zero_le _)
      | bool => exact (consumes_boolean.map _).mono (Nat.zero_le _)
      | vector elementType => exact ((consumes_vector (ih elementType)).map _).mono (Nat.zero_le _)
      | generic => exact (consumes_readObjectWith ih schema none).mono (Nat.zero_le _)
      | boxed => exact (consumes_readObjectWith ih schema _).mono (Nat.zero_le _)

section Agreement

variable {left right : JString → TlReader RawValue}

theorem readFields_agree {limit : Nat} (agree : ∀ type, AgreeWithin limit (left type) (right type))
    (each : ∀ type, Consumes 0 (left type)) (fields : List Field) :
    ∀ words values,
      AgreeWithin limit (readFields left fields words values)
        (readFields right fields words values) := by
  induction fields with
  | nil =>
      intro words values
      exact AgreeWithin.refl limit _
  | cons field rest ih =>
      intro words values
      rw [readFields, readFields]
      by_cases isWord : field.type = flagsType
      · rw [if_pos isWord, if_pos isWord]
        exact (AgreeWithin.refl limit TlReader.int).bind (consumes_int.mono (Nat.zero_le 4))
          fun _ word => ih _ _
      · rw [if_neg isWord, if_neg isWord]
        apply (AgreeWithin.refl limit _).bind (consumes_lift _)
        intro _ given
        cases given with
        | false => exact ih words values
        | true =>
            by_cases isTrue : field.type = trueType
            · simp only [if_pos isTrue]
              exact ih _ _
            · simp only [if_neg isTrue]
              exact (agree field.type).bind (each field.type) fun _ value => ih _ _

theorem readObjectWith_agree {limit : Nat}
    (agree : 4 ≤ limit → ∀ type, AgreeWithin (limit - 4) (left type) (right type))
    (each : ∀ type, Consumes 0 (left type)) (schema : RawSchema) (expected : Option JString) :
    AgreeWithin limit (readObjectWith left schema expected)
      (readObjectWith right schema expected) := by
  unfold readObjectWith
  apply (AgreeWithin.refl limit TlReader.int).bind consumes_int
  intro enough constructorId
  apply (AgreeWithin.refl _ _).bind (consumes_lift _)
  intro _ constructor
  apply (AgreeWithin.refl _ _).bind (consumes_lift _)
  intro _ _
  apply (AgreeWithin.refl _ _).bind (consumes_lift _)
  intro _ fields
  apply (readFields_agree (agree enough) each fields [] []).bind
    (consumes_readFields each fields [] [])
  intro _ values
  exact AgreeWithin.refl _ _

theorem vector_agree {limit : Nat} {α : Type} {left right : TlReader α}
    (agree : 8 ≤ limit → AgreeWithin (limit - 8) left right) (each : Consumes 0 left) :
    AgreeWithin limit (TlReader.vector left) (TlReader.vector right) := by
  unfold TlReader.vector
  apply (AgreeWithin.refl limit _).bind (consumes_constructor vectorConstructor)
  intro first _
  apply (AgreeWithin.refl _ _).bind consumes_int
  intro second size
  by_cases bounds : 0 ≤ size.toInt ∧ size.toInt ≤ maxVectorSize
  · rw [if_pos bounds, if_pos bounds]
    have shorter : limit - 4 - 4 = limit - 8 := by omega
    rw [shorter]
    exact (agree (by omega)).times each size.toNat
  · rw [if_neg bounds, if_neg bounds]
    exact AgreeWithin.refl _ _

end Agreement

/-- Any two bounds above the length of the input give the same result. -/
theorem readValueWithin_agree (action : CodingErrorAction) (schema : RawSchema) (fuel : Nat) :
    ∀ other limit type, limit < fuel → limit < other →
      AgreeWithin limit (readValueWithin action schema fuel type)
        (readValueWithin action schema other type) := by
  induction fuel with
  | zero =>
      intro other limit type above
      omega
  | succ fuel ih =>
      intro other limit type above otherAbove
      cases other with
      | zero => omega
      | succ other =>
          have each := consumes_readValueWithin action schema fuel
          have nested (least : Nat) (positive : 0 < least) (enough : least ≤ limit) (type : JString) :
              AgreeWithin (limit - least) (readValueWithin action schema fuel type)
                (readValueWithin action schema other type) :=
            ih other (limit - least) type (by omega) (by omega)
          rw [readValueWithin, readValueWithin]
          cases typeShape type with
          | vector elementType =>
              exact (vector_agree (fun enough => nested 8 (by decide) enough elementType)
                (each elementType)).map RawValue.vectorValue
          | generic => exact readObjectWith_agree (nested 4 (by decide)) each schema none
          | boxed => exact readObjectWith_agree (nested 4 (by decide)) each schema _
          | int => exact AgreeWithin.refl _ _
          | long => exact AgreeWithin.refl _ _
          | double => exact AgreeWithin.refl _ _
          | string => exact AgreeWithin.refl _ _
          | bytes => exact AgreeWithin.refl _ _
          | int128 => exact AgreeWithin.refl _ _
          | int256 => exact AgreeWithin.refl _ _
          | bool => exact AgreeWithin.refl _ _

theorem readValue_run (action : CodingErrorAction) (schema : RawSchema) (type : JString)
    {fuel : Nat} {input : List Byte} (enough : input.length < fuel) :
    (readValue action schema type).run input =
      (readValueWithin action schema fuel type).run input :=
  readValueWithin_agree action schema (input.length + 1) fuel input.length type (by omega) enough
    input (Nat.le_refl _)

end Kotlogramme.Raw
