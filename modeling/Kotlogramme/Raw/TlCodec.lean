/-
The Layer-independent TL primitives: what the writer appends for each and how
the reader takes it off again.

A writer function answers the bytes it appends.  A reader function is a
decoder over what is left of the input.
-/

import Kotlogramme.Foundation.Decoder
import Kotlogramme.Raw.Schema

namespace Kotlogramme.Raw

def boolFalse : BitVec 32 := BitVec.ofInt 32 (-1132882121)

def boolTrue : BitVec 32 := BitVec.ofInt 32 (-1720552011)

def vectorConstructor : BitVec 32 := BitVec.ofInt 32 481674261

def maxVectorSize : Nat := 1000000

def maxByteArraySize : Nat := 0x00ffffff

def padding (size : Nat) : Nat := (4 - size % 4) % 4

/-! ### The writer -/

namespace TlWriter

/-- `output.write` keeps the low eight bits. -/
def write (value : BitVec 32) : Byte := value.setWidth 8

def int (value : BitVec 32) : List Byte :=
  [write (value &&& 0xff), write ((value >>> 8) &&& 0xff), write ((value >>> 16) &&& 0xff),
    write ((value >>> 24) &&& 0xff)]

def constructor (id : BitVec 32) : List Byte := int id

def boolean (value : Bool) : List Byte := constructor (if value then boolTrue else boolFalse)

def long (value : BitVec 64) : List Byte :=
  (List.range 8).map fun byte => write (((value >>> (byte * 8)) &&& 0xff).setWidth 32)

def double (rawBits : BitVec 64) : List Byte := long rawBits

def header (size : Nat) : List Byte :=
  if size < 254 then [write (BitVec.ofNat 32 size)]
  else [write 254, write (BitVec.ofNat 32 size &&& 0xff),
    write ((BitVec.ofNat 32 size >>> 8) &&& 0xff), write ((BitVec.ofNat 32 size >>> 16) &&& 0xff)]

def bytes (value : List Byte) : Except TlError (List Byte) :=
  if value.length ≤ maxByteArraySize then
    .ok (header value.length ++ value ++
      List.replicate (padding ((header value.length).length + value.length)) 0)
  else .error .byteArrayTooLong

def string (value : JString) : Except TlError (List Byte) := bytes (Utf.encodeUtf8 value)

def vectorHeader (size : Nat) : List Byte :=
  constructor vectorConstructor ++ int (BitVec.ofNat 32 size)

end TlWriter

/-! ### The reader -/

abbrev TlReader (α : Type) := Decoder TlError α

namespace TlReader

def advance (count : Nat) : TlReader (List Byte) := Decoder.advance .truncated count

/-- Byte `index` of a window, widened without its sign. -/
def unsigned (width : Nat) (window : List Byte) (index : Nat) : BitVec width :=
  (window.getD index 0).setWidth width

def int : TlReader (BitVec 32) := do
  let input ← advance 4
  return unsigned 32 input 0 ||| (unsigned 32 input 1 <<< 8) ||| (unsigned 32 input 2 <<< 16) |||
    (unsigned 32 input 3 <<< 24)

def constructor (expected : BitVec 32) : TlReader Unit := do
  let actual ← int
  if actual = expected then pure () else throw (.unexpectedConstructor actual)

def long : TlReader (BitVec 64) := do
  let input ← advance 8
  return (List.range 8).foldl
    (fun value byte => value ||| (unsigned 64 input byte <<< (byte * 8))) 0

def double : TlReader (BitVec 64) := long

def boolean : TlReader Bool := do
  let actual ← int
  if actual = boolTrue then pure true
  else if actual = boolFalse then pure false
  else throw (.unexpectedBoolean actual)

def size (input : List Byte) : Nat :=
  (unsigned 32 input 0 ||| (unsigned 32 input 1 <<< 8) ||| (unsigned 32 input 2 <<< 16)).toNat

def longHeader (first : Nat) : TlReader (Nat × Nat) :=
  if first = 254 then do
    let input ← advance 3
    return (4, size input)
  else throw (.invalidByteArrayPrefix first)

/-- What announces a byte array: how many bytes that takes, and its size. -/
def header : TlReader (Nat × Nat) := do
  let input ← advance 1
  let first := (input.getD 0 0).toNat
  if first < 254 then return (1, first) else longHeader first

def bytes : TlReader (List Byte) := do
  let (headerSize, size) ← header
  let value ← advance size
  let _ ← advance (padding (headerSize + size))
  return value

def fixedBytes (size : Nat) : TlReader (List Byte) := advance size

/-- The codec decodes with the action `replace`. -/
def string (action : CodingErrorAction) : TlReader JString := do
  let value ← bytes
  match Utf.decodeUtf8 action value with
  | some decoded => pure decoded
  | none => throw .malformedInput

def vector {α : Type} (readElement : TlReader α) : TlReader (List α) := do
  constructor vectorConstructor
  let size ← int
  if 0 ≤ size.toInt ∧ size.toInt ≤ maxVectorSize then Decoder.times size.toNat readElement
  else throw (.invalidVectorSize size.toInt)

end TlReader

/-! ### Fixed-width primitives -/

open Decoder

private theorem write_mask (value : BitVec 32) :
    TlWriter.write (value &&& 0xff) = value.setWidth 8 := by
  apply BitVec.eq_of_toNat_eq
  simp only [TlWriter.write, BitVec.toNat_setWidth, BitVec.toNat_and]
  change (value.toNat &&& (2 ^ 8 - 1)) % 2 ^ 8 = value.toNat % 2 ^ 8
  rw [Nat.and_two_pow_sub_one_eq_mod, Nat.mod_mod]

private theorem write_long_mask (value : BitVec 64) :
    TlWriter.write ((value &&& 0xff).setWidth 32) = value.setWidth 8 := by
  apply BitVec.eq_of_toNat_eq
  simp only [TlWriter.write, BitVec.toNat_setWidth, BitVec.toNat_and]
  change (value.toNat &&& (2 ^ 8 - 1)) % 2 ^ 32 % 2 ^ 8 = value.toNat % 2 ^ 8
  rw [Nat.and_two_pow_sub_one_eq_mod]
  omega

theorem TlWriter.int_eq_split (value : BitVec 32) :
    TlWriter.int value = LittleEndian.split 4 value := by
  simp only [TlWriter.int, write_mask]
  simp [LittleEndian.split, List.range_succ]

theorem TlWriter.long_eq_split (value : BitVec 64) :
    TlWriter.long value = LittleEndian.split 8 value := by
  simp only [TlWriter.long, write_long_mask, LittleEndian.split, Nat.mul_comm]

@[simp] theorem TlWriter.int_length (value : BitVec 32) : (TlWriter.int value).length = 4 := rfl

@[simp] theorem TlWriter.long_length (value : BitVec 64) : (TlWriter.long value).length = 8 := by
  simp [TlWriter.long]

private theorem unsigned_int_eq_join (first second third fourth : Byte) :
    TlReader.unsigned 32 [first, second, third, fourth] 0 |||
      (TlReader.unsigned 32 [first, second, third, fourth] 1 <<< 8) |||
      (TlReader.unsigned 32 [first, second, third, fourth] 2 <<< 16) |||
      (TlReader.unsigned 32 [first, second, third, fourth] 3 <<< 24) =
      LittleEndian.join 32 [first, second, third, fourth] := by
  simp [TlReader.unsigned, LittleEndian.join, BitVec.shiftLeft_or_distrib, BitVec.or_assoc,
    ← BitVec.shiftLeft_add]

private theorem unsigned_long_eq_join (b0 b1 b2 b3 b4 b5 b6 b7 : Byte) :
    (List.range 8).foldl (fun value byte => value |||
      (TlReader.unsigned 64 [b0, b1, b2, b3, b4, b5, b6, b7] byte <<< (byte * 8))) 0 =
      LittleEndian.join 64 [b0, b1, b2, b3, b4, b5, b6, b7] := by
  simp [TlReader.unsigned, LittleEndian.join, BitVec.shiftLeft_or_distrib, BitVec.or_assoc,
    ← BitVec.shiftLeft_add, List.range_succ]

theorem decodes_int (value : BitVec 32) :
    Decodes TlReader.int (TlWriter.int value) value := by
  have whole := LittleEndian.join_split 4 value (by decide)
  rw [← TlWriter.int_eq_split] at whole
  have taken := decodes_advance TlError.truncated (TlWriter.int value)
  have result := taken.bind (fun input => pure (TlReader.unsigned 32 input 0 |||
    (TlReader.unsigned 32 input 1 <<< 8) ||| (TlReader.unsigned 32 input 2 <<< 16) |||
    (TlReader.unsigned 32 input 3 <<< 24))) (decodes_pure _)
  rw [List.append_nil] at result
  simp only [TlWriter.int, unsigned_int_eq_join] at result whole
  rw [whole] at result
  exact result

theorem decodes_long (value : BitVec 64) :
    Decodes TlReader.long (TlWriter.long value) value := by
  have whole := LittleEndian.join_split 8 value (by decide)
  rw [← TlWriter.long_eq_split] at whole
  have taken := decodes_advance TlError.truncated (TlWriter.long value)
  have result := taken.bind (fun input => pure ((List.range 8).foldl
    (fun value byte => value ||| (TlReader.unsigned 64 input byte <<< (byte * 8))) 0))
    (decodes_pure _)
  rw [List.append_nil, TlWriter.long_length] at result
  have spread : TlWriter.long value = [_, _, _, _, _, _, _, _] := rfl
  rw [spread] at result whole
  rw [unsigned_long_eq_join, whole] at result
  rw [spread]
  exact result

theorem decodes_double (rawBits : BitVec 64) :
    Decodes TlReader.double (TlWriter.double rawBits) rawBits :=
  decodes_long rawBits

theorem decodes_boolean (value : Bool) :
    Decodes TlReader.boolean (TlWriter.boolean value) value := by
  have read := decodes_int (if value then boolTrue else boolFalse)
  have chosen : Decodes (if (if value then boolTrue else boolFalse) = boolTrue then pure true
      else if (if value then boolTrue else boolFalse) = boolFalse then pure false
      else throw (TlError.unexpectedBoolean (if value then boolTrue else boolFalse)) :
      TlReader Bool) [] value := by
    cases value
    · exact decodes_pure false
    · exact decodes_pure true
  have result := read.bind (fun actual => if actual = boolTrue then pure true
    else if actual = boolFalse then pure false else throw (.unexpectedBoolean actual)) chosen
  rw [List.append_nil] at result
  exact result

theorem decodes_constructor (id : BitVec 32) :
    Decodes (TlReader.constructor id) (TlWriter.constructor id) () := by
  have agreed : Decodes (if id = id then pure () else throw (TlError.unexpectedConstructor id) :
      TlReader Unit) [] () := by
    rw [if_pos rfl]
    exact decodes_pure ()
  have result := (decodes_int id).bind (fun actual => if actual = id then pure ()
    else throw (.unexpectedConstructor actual)) agreed
  rw [List.append_nil] at result
  exact result

/-! ### Byte arrays -/

private theorem size_eq_join (first second third : Byte) :
    TlReader.size [first, second, third] =
      (LittleEndian.join 32 [first, second, third, 0]).toNat := by
  rw [← unsigned_int_eq_join]
  simp [TlReader.size, TlReader.unsigned]

/-- Three bytes carry any size the writer accepts. -/
private theorem size_split (size : Nat) (small : size ≤ maxByteArraySize) :
    TlReader.size [(BitVec.ofNat 32 size).setWidth 8,
      (BitVec.ofNat 32 size >>> 8).setWidth 8, (BitVec.ofNat 32 size >>> 16).setWidth 8] =
      size := by
  have bound : size < 2 ^ 24 := Nat.lt_of_le_of_lt small (by decide)
  have fourth : (BitVec.ofNat 32 size >>> 24).setWidth 8 = (0 : Byte) := by
    apply BitVec.eq_of_toNat_eq
    simp only [BitVec.toNat_setWidth, BitVec.toNat_ushiftRight, BitVec.toNat_ofNat,
      Nat.shiftRight_eq_div_pow]
    change size % 2 ^ 32 / 2 ^ 24 % 2 ^ 8 = 0
    omega
  have split : LittleEndian.split 4 (BitVec.ofNat 32 size) =
      [(BitVec.ofNat 32 size).setWidth 8, (BitVec.ofNat 32 size >>> 8).setWidth 8,
        (BitVec.ofNat 32 size >>> 16).setWidth 8, 0] := by
    rw [← fourth]
    simp [LittleEndian.split, List.range_succ]
  rw [size_eq_join, ← split, LittleEndian.join_split 4 _ (by decide), BitVec.toNat_ofNat]
  omega

theorem decodes_header (size : Nat) (small : size ≤ maxByteArraySize) :
    Decodes TlReader.header (TlWriter.header size) ((TlWriter.header size).length, size) := by
  by_cases short : size < 254
  · have value : (TlWriter.write (BitVec.ofNat 32 size)).toNat = size := by
      simp only [TlWriter.write, BitVec.toNat_setWidth, BitVec.toNat_ofNat]
      omega
    have taken := decodes_advance TlError.truncated [TlWriter.write (BitVec.ofNat 32 size)]
    have chosen : Decodes (if (TlWriter.write (BitVec.ofNat 32 size)).toNat < 254 then
        pure (1, (TlWriter.write (BitVec.ofNat 32 size)).toNat)
        else TlReader.longHeader (TlWriter.write (BitVec.ofNat 32 size)).toNat) [] (1, size) := by
      rw [value, if_pos short]
      exact decodes_pure (1, size)
    have result := taken.bind (fun input =>
      if (input.getD 0 0).toNat < 254 then pure (1, (input.getD 0 0).toNat)
      else TlReader.longHeader (input.getD 0 0).toNat) chosen
    rw [List.append_nil] at result
    rw [TlWriter.header, if_pos short]
    exact result
  · have taken := decodes_advance TlError.truncated [TlWriter.write 254]
    have three := decodes_advance TlError.truncated [(BitVec.ofNat 32 size).setWidth 8,
      (BitVec.ofNat 32 size >>> 8).setWidth 8, (BitVec.ofNat 32 size >>> 16).setWidth 8]
    have sized := three.bind (fun input => pure (4, TlReader.size input)) (decodes_pure _)
    rw [List.append_nil, size_split size small] at sized
    have result := taken.bind (fun input =>
      if (input.getD 0 0).toNat < 254 then pure (1, (input.getD 0 0).toNat)
      else TlReader.longHeader (input.getD 0 0).toNat) sized
    rw [TlWriter.header, if_neg short, write_mask, write_mask, write_mask]
    exact result

/-- What the writer appends for a byte array it accepts. -/
def TlWriter.framed (value : List Byte) : List Byte :=
  TlWriter.header value.length ++ value ++
    List.replicate (padding ((TlWriter.header value.length).length + value.length)) 0

theorem TlWriter.bytes_eq (value : List Byte) (small : value.length ≤ maxByteArraySize) :
    TlWriter.bytes value = .ok (TlWriter.framed value) := by
  rw [TlWriter.bytes, if_pos small]
  rfl

theorem TlWriter.bytes_eq_ok {value encoded : List Byte}
    (accepted : TlWriter.bytes value = .ok encoded) :
    value.length ≤ maxByteArraySize ∧ encoded = TlWriter.framed value := by
  unfold TlWriter.bytes at accepted
  split at accepted
  · rename_i small
    exact ⟨small, (Except.ok.inj accepted).symm⟩
  · cases accepted

theorem decodes_bytes (value : List Byte) (small : value.length ≤ maxByteArraySize) :
    Decodes TlReader.bytes (TlWriter.framed value) value := by
  have header := decodes_header value.length small
  have body := decodes_advance TlError.truncated value
  have filler := decodes_advance TlError.truncated
    (List.replicate (padding ((TlWriter.header value.length).length + value.length)) (0 : Byte))
  rw [List.length_replicate] at filler
  have last := filler.bind (fun _ => pure value) (decodes_pure value)
  have middle := body.bind (fun value' => do
    let _ ← TlReader.advance
      (padding ((TlWriter.header value.length).length + value.length))
    return value') last
  have result := header.bind (fun sizes => do
    let value ← TlReader.advance sizes.2
    let _ ← TlReader.advance (padding (sizes.1 + sizes.2))
    return value) middle
  rw [List.append_nil, ← List.append_assoc] at result
  exact result

theorem decodes_fixedBytes (value : List Byte) :
    Decodes (TlReader.fixedBytes value.length) value value :=
  decodes_advance TlError.truncated value

theorem decodes_string (action : CodingErrorAction) (value : JString)
    (formed : Utf.wellFormed value = true)
    (small : (Utf.encodeUtf8 value).length ≤ maxByteArraySize) :
    Decodes (TlReader.string action) (TlWriter.framed (Utf.encodeUtf8 value)) value := by
  have read := decodes_bytes (Utf.encodeUtf8 value) small
  have chosen : Decodes (match Utf.decodeUtf8 action (Utf.encodeUtf8 value) with
      | some decoded => pure decoded
      | none => throw TlError.malformedInput : TlReader JString) [] value := by
    rw [Utf.decodeUtf8_encodeUtf8 action value formed]
    exact decodes_pure value
  have result := read.bind (fun value => match Utf.decodeUtf8 action value with
    | some decoded => pure decoded
    | none => throw TlError.malformedInput) chosen
  rw [List.append_nil] at result
  exact result

/-! ### Vectors -/

theorem decodes_vector {α : Type} {readElement : TlReader α} {pieces : List (List Byte × α)}
    (each : ∀ piece ∈ pieces, Decodes readElement piece.1 piece.2)
    (small : pieces.length ≤ maxVectorSize) :
    Decodes (TlReader.vector readElement)
      (TlWriter.vectorHeader pieces.length ++ (pieces.map Prod.fst).flatten)
      (pieces.map Prod.snd) := by
  have bound : pieces.length < 2 ^ 31 := Nat.lt_of_le_of_lt small (by decide)
  have size : (BitVec.ofNat 32 pieces.length).toNat = pieces.length := by
    rw [BitVec.toNat_ofNat]
    omega
  have signed : (BitVec.ofNat 32 pieces.length).toInt = pieces.length := by
    rw [BitVec.toInt_eq_toNat_of_lt (by rw [size]; omega), size]
  have elements : Decodes (if 0 ≤ (BitVec.ofNat 32 pieces.length).toInt ∧
      (BitVec.ofNat 32 pieces.length).toInt ≤ maxVectorSize then
        Decoder.times (BitVec.ofNat 32 pieces.length).toNat readElement
      else throw (TlError.invalidVectorSize (BitVec.ofNat 32 pieces.length).toInt))
      (pieces.map Prod.fst).flatten (pieces.map Prod.snd) := by
    rw [signed, size, if_pos ⟨by omega, by exact_mod_cast small⟩]
    exact decodes_times each
  have counted := (decodes_int (BitVec.ofNat 32 pieces.length)).bind (fun size =>
    if 0 ≤ size.toInt ∧ size.toInt ≤ maxVectorSize then Decoder.times size.toNat readElement
    else throw (.invalidVectorSize size.toInt)) elements
  have result := (decodes_constructor vectorConstructor).bind (fun _ => do
    let size ← TlReader.int
    if 0 ≤ size.toInt ∧ size.toInt ≤ maxVectorSize then Decoder.times size.toNat readElement
    else throw (.invalidVectorSize size.toInt)) counted
  rw [← List.append_assoc] at result
  exact result

/-! ### What an accepted input shows -/

private theorem size_lt (input : List Byte) : TlReader.size input ≤ maxByteArraySize := by
  have low (index : Nat) : ((input.getD index 0).setWidth 32).toNat < 2 ^ 8 := by
    rw [BitVec.toNat_setWidth]
    have := (input.getD index 0).isLt
    omega
  have shifted (index distance : Nat) (small : distance ≤ 16) :
      ((input.getD index 0).setWidth 32 <<< distance).toNat < 2 ^ 24 := by
    rw [BitVec.toNat_shiftLeft, Nat.shiftLeft_eq]
    have factor : 2 ^ distance ≤ 2 ^ 16 := Nat.pow_le_pow_right (by decide) small
    have product := Nat.mul_lt_mul_of_lt_of_le (low index) factor (by decide)
    exact Nat.lt_of_le_of_lt (Nat.mod_le _ _) (by omega)
  have whole : TlReader.size input < 2 ^ 24 := by
    simp only [TlReader.size, TlReader.unsigned, BitVec.toNat_or]
    exact Nat.or_lt_two_pow (Nat.or_lt_two_pow (Nat.lt_trans (low 0) (by decide))
      (shifted 1 8 (by decide))) (shifted 2 16 (by decide))
  have bound : maxByteArraySize = 2 ^ 24 - 1 := by decide
  omega

theorem TlReader.header_eq_ok {input rest : List Byte} {headerSize size : Nat}
    (accepted : TlReader.header.run input = .ok ((headerSize, size), rest)) :
    size ≤ maxByteArraySize := by
  obtain ⟨first, between, -, chosen⟩ := run_bind_eq_ok.mp accepted
  dsimp only at chosen
  split at chosen
  · rename_i short
    obtain ⟨same, -⟩ := run_pure_eq_ok.mp chosen
    cases same
    exact Nat.le_trans (Nat.le_of_lt short) (by decide)
  · unfold TlReader.longHeader at chosen
    split at chosen
    · obtain ⟨three, between', -, ended⟩ := run_bind_eq_ok.mp chosen
      obtain ⟨same, -⟩ := run_pure_eq_ok.mp ended
      cases same
      exact size_lt three
    · exact absurd chosen run_throw_ne_ok

theorem TlReader.bytes_eq_ok {input rest value : List Byte}
    (accepted : TlReader.bytes.run input = .ok (value, rest)) :
    value.length ≤ maxByteArraySize := by
  obtain ⟨⟨headerSize, size⟩, between, announced, tail⟩ := run_bind_eq_ok.mp accepted
  obtain ⟨body, between', taken, tail⟩ := run_bind_eq_ok.mp tail
  obtain ⟨filler, between'', -, ended⟩ := run_bind_eq_ok.mp tail
  obtain ⟨same, -⟩ := run_pure_eq_ok.mp ended
  obtain ⟨length, -⟩ := run_advance_eq_ok.mp taken
  rw [← same, length]
  exact TlReader.header_eq_ok announced

theorem TlReader.string_eq_ok {action : CodingErrorAction} {input rest : List Byte}
    {value : JString} (accepted : (TlReader.string action).run input = .ok (value, rest)) :
    ∃ encoded, encoded.length ≤ maxByteArraySize ∧ Utf.decodeUtf8 action encoded = some value := by
  obtain ⟨encoded, between, read, chosen⟩ := run_bind_eq_ok.mp accepted
  refine ⟨encoded, TlReader.bytes_eq_ok read, ?_⟩
  cases decoded : Utf.decodeUtf8 action encoded with
  | none =>
      rw [decoded] at chosen
      exact absurd chosen run_throw_ne_ok
  | some text =>
      rw [decoded] at chosen
      rw [(run_pure_eq_ok.mp chosen).1]

theorem TlReader.vector_eq_ok {α : Type} {readElement : TlReader α} {input rest : List Byte}
    {values : List α} (accepted : (TlReader.vector readElement).run input = .ok (values, rest)) :
    values.length ≤ maxVectorSize ∧
      ∀ value ∈ values, ∃ before after, readElement.run before = .ok (value, after) := by
  obtain ⟨-, between, -, tail⟩ := run_bind_eq_ok.mp accepted
  obtain ⟨size, between', -, chosen⟩ := run_bind_eq_ok.mp tail
  split at chosen
  · rename_i bounds
    obtain ⟨length, each⟩ := run_times_eq_ok chosen
    refine ⟨?_, each⟩
    have nonnegative := bounds.1
    have small := bounds.2
    have signed := BitVec.toInt_eq_toNat_cond size
    have word := size.isLt
    split at signed <;> omega
  · exact absurd chosen run_throw_ne_ok

/-! ### What a success takes -/

theorem consumes_int : Consumes 4 TlReader.int :=
  (consumes_advance TlError.truncated 4).seq fun _ => consumes_pure _

theorem consumes_long : Consumes 8 TlReader.long :=
  (consumes_advance TlError.truncated 8).seq fun _ => consumes_pure _

theorem consumes_constructor (id : BitVec 32) : Consumes 4 (TlReader.constructor id) := by
  unfold TlReader.constructor
  apply consumes_int.seq
  intro actual
  exact (consumes_pure ()).ite (actual = id) (consumes_throw 0 _)

theorem consumes_boolean : Consumes 4 TlReader.boolean := by
  unfold TlReader.boolean
  apply consumes_int.seq
  intro actual
  apply (consumes_pure true).ite (actual = boolTrue)
  exact (consumes_pure false).ite (actual = boolFalse) (consumes_throw 0 _)

theorem consumes_longHeader (first : Nat) : Consumes 0 (TlReader.longHeader first) := by
  unfold TlReader.longHeader
  apply Consumes.ite (first = 254) _ (consumes_throw 0 _)
  apply Consumes.seq ((consumes_advance TlError.truncated 3).mono (Nat.zero_le 3))
  intro input
  exact consumes_pure _

theorem consumes_header : Consumes 1 TlReader.header := by
  unfold TlReader.header
  apply Consumes.seq (consumes_advance TlError.truncated 1)
  intro input
  exact (consumes_pure _).ite ((input.getD 0 0).toNat < 254) (consumes_longHeader _)

theorem consumes_bytes : Consumes 1 TlReader.bytes := by
  unfold TlReader.bytes
  apply consumes_header.seq
  intro sizes
  apply Consumes.seq ((consumes_advance TlError.truncated sizes.2).mono (Nat.zero_le _))
  intro value
  apply Consumes.seq ((consumes_advance TlError.truncated _).mono (Nat.zero_le _))
  intro filler
  exact consumes_pure value

theorem consumes_string (action : CodingErrorAction) : Consumes 1 (TlReader.string action) := by
  unfold TlReader.string
  apply consumes_bytes.seq
  intro encoded
  cases Utf.decodeUtf8 action encoded with
  | none => exact consumes_throw 0 _
  | some decoded => exact consumes_pure decoded

theorem consumes_vector {α : Type} {readElement : TlReader α} (element : Consumes 0 readElement) :
    Consumes 8 (TlReader.vector readElement) := by
  have counted : Consumes 4 (TlReader.int >>= fun size =>
      if 0 ≤ size.toInt ∧ size.toInt ≤ maxVectorSize then Decoder.times size.toNat readElement
      else throw (.invalidVectorSize size.toInt)) := by
    apply consumes_int.seq
    intro size
    exact (element.times size.toNat).ite (0 ≤ size.toInt ∧ size.toInt ≤ maxVectorSize)
      (consumes_throw 0 _)
  exact (consumes_constructor vectorConstructor).bind fun _ => counted

end Kotlogramme.Raw
