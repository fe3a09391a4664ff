/-
The base64 that byte strings travel in, and its decoder.

A text is the list of its UTF-8 bytes.  The encoder is copied out in three places,
one of them beside the projection of updates, and is the one of RFC 4648.  The
decoder takes every text of whole groups over the alphabet, padded at its end: the
encodings, and the texts whose last character has bits over, which it drops.
-/

import Kotlogramme.Foundation.Decoder
import Kotlogramme.Foundation.Rfc4648
import Kotlogramme.Updates.Projection

namespace Kotlogramme

open Rfc4648 (symbol filler)

namespace Files

/-! ### The encoders -/

def byteString (text : String) : List Byte :=
  text.toList.map fun character => BitVec.ofNat 8 character.toNat

/-- The three bytes of a chunk as one 24-bit group, whose missing bits are zero. -/
def groupOf (chunk : List Byte) : BitVec 32 :=
  chunk.zipIdx.foldl
    (fun group (item : Byte × Nat) => group ||| (item.1.setWidth 32 <<< (16 - 8 * item.2))) 0

def characterAt (alphabet : List Byte) (group : BitVec 32) (shift : Nat) : Byte :=
  alphabet.getD ((group >>> shift) &&& 0x3f).toNat 0

def encodeChunk (alphabet chunk : List Byte) : List Byte :=
  ((List.range (chunk.length + 1)).map fun index =>
    characterAt alphabet (groupOf chunk) (18 - 6 * index)) ++
      List.replicate (3 - chunk.length) (0x3d : Byte)

def encodeWith (alphabet bytes : List Byte) : List Byte :=
  (chunks 3 bytes).flatMap (encodeChunk alphabet)

def base64 (bytes : List Byte) : List Byte :=
  encodeWith (byteString "ABCDEFGHIJKLMNOPQRSTUVWXYZabcdefghijklmnopqrstuvwxyz0123456789+/") bytes

end Files

def Messages.base64 (bytes : List Byte) : List Byte :=
  Files.encodeWith
    (Files.byteString "ABCDEFGHIJKLMNOPQRSTUVWXYZabcdefghijklmnopqrstuvwxyz0123456789+/") bytes

namespace Files

/-! ### The decoder -/

def isAsciiWhitespace (byte : Byte) : Bool :=
  byte == 0x20 || byte == 0x09 || byte == 0x0a || byte == 0x0c || byte == 0x0d

/-- The value one character stands for. -/
def sextet (byte : Byte) : Except String Byte :=
  if 0x41 ≤ byte ∧ byte ≤ 0x5a then .ok (byte - 0x41)
  else if 0x61 ≤ byte ∧ byte ≤ 0x7a then .ok (byte - 0x61 + 26)
  else if 0x30 ≤ byte ∧ byte ≤ 0x39 then .ok (byte - 0x30 + 52)
  else if byte = 0x2b then .ok 62
  else if byte = 0x2f then .ok 63
  else .error ("invalid base64 character: " ++ (Char.ofNat byte.toNat).toString)

/-- What is read of a group, and how much of it is padding. -/
structure Group where
  value : BitVec 32
  padding : Nat
  deriving DecidableEq

def takeCharacter (final : Bool) (position : Nat) (group : Group) (byte : Byte) :
    Except String Group :=
  if byte = 0x3d then
    if !final || position < 2 then .error "base64 padding may only trail the final group"
    else .ok ⟨group.value <<< 6, group.padding + 1⟩
  else if 0 < group.padding then .error "base64 data must not follow its padding"
  else do
    let six ← sextet byte
    return ⟨(group.value <<< 6) ||| six.setWidth 32, group.padding⟩

def readGroup (final : Bool) : Nat → Group → List Byte → Except String Group
  | _, group, [] => .ok group
  | position, group, byte :: rest => do
      let next ← takeCharacter final position group byte
      readGroup final (position + 1) next rest

/-- The bytes of a group, of which the padded ones are not produced. -/
def produce (group : Group) : List Byte :=
  let produced := 3 - group.padding
  (group.value >>> 16).setWidth 8 ::
    ((if 2 ≤ produced then [(group.value >>> 8).setWidth 8] else []) ++
      if 3 ≤ produced then [group.value.setWidth 8] else [])

def decodeGroups (groups : Nat) : Nat → List (List Byte) → Except String (List Byte)
  | _, [] => .ok []
  | index, chunk :: rest => do
      let group ← readGroup (index + 1 == groups) 0 ⟨0, 0⟩ chunk
      let later ← decodeGroups groups (index + 1) rest
      return produce group ++ later

def withoutWhitespace (text : List Byte) : List Byte :=
  text.filter fun byte => !isAsciiWhitespace byte

def decodeBase64 (text : List Byte) : Except String (List Byte) :=
  let bytes := withoutWhitespace text
  if bytes.length % 4 ≠ 0 then
    .error ("base64 data must be a whole number of four-character groups, got " ++
      toString bytes.length)
  else decodeGroups (bytes.length / 4) 0 (chunks 4 bytes)

/-! ### The encoders are the one of the RFC -/

theorem characterAt_eq (group : BitVec 32) (shift : Nat) :
    characterAt Rfc4648.alphabet group shift = symbol (group.toNat / 2 ^ shift % 64) := by
  have index : ((group >>> shift) &&& 0x3f).toNat = group.toNat / 2 ^ shift % 64 := by
    rw [BitVec.toNat_and, BitVec.toNat_ushiftRight, Nat.shiftRight_eq_div_pow]
    exact Nat.and_two_pow_sub_one_eq_mod _ 6
  rw [characterAt, index]
  rfl

theorem shiftLeft_or (high : BitVec 32) (low : BitVec 32) (shift : Nat)
    (fits : high.toNat * 2 ^ shift < 2 ^ 32) (small : low.toNat < 2 ^ shift) :
    ((high <<< shift) ||| low).toNat = high.toNat * 2 ^ shift + low.toNat := by
  rw [BitVec.toNat_or, BitVec.toNat_shiftLeft, Nat.shiftLeft_eq, Nat.mod_eq_of_lt fits,
    ← Nat.shiftLeft_eq, ← Nat.shiftLeft_add_eq_or_of_lt small]

theorem widened_toNat (byte : Byte) : (byte.setWidth 32).toNat = byte.toNat := by
  have bound := byte.isLt
  rw [BitVec.toNat_setWidth]
  omega

theorem groupOf_three (first second third : Byte) :
    (groupOf [first, second, third]).toNat =
      first.toNat * 65536 + second.toNat * 256 + third.toNat := by
  have nested : groupOf [first, second, third] =
      (((first.setWidth 32 <<< 8) ||| second.setWidth 32) <<< 8) ||| third.setWidth 32 := by
    simp [groupOf, BitVec.shiftLeft_or_distrib, ← BitVec.shiftLeft_add]
  have firstBound := first.isLt
  have secondBound := second.isLt
  have thirdBound := third.isLt
  have upper : ((first.setWidth 32 <<< 8) ||| second.setWidth 32).toNat =
      first.toNat * 2 ^ 8 + second.toNat := by
    rw [shiftLeft_or _ _ 8 (by rw [widened_toNat]; omega) (by rw [widened_toNat]; omega),
      widened_toNat, widened_toNat]
  rw [nested, shiftLeft_or, upper, widened_toNat]
  · omega
  · rw [upper]
    omega
  · rw [widened_toNat]
    omega

/-- A byte that is missing is zero in the group. -/
theorem groupOf_two (first second : Byte) : groupOf [first, second] = groupOf [first, second, 0] := by
  simp [groupOf]

theorem groupOf_one (first : Byte) : groupOf [first] = groupOf [first, 0, 0] := by
  simp [groupOf]

theorem encodeChunk_three (first second third : Byte) :
    encodeChunk Rfc4648.alphabet [first, second, third] =
      [symbol (first.toNat / 4), symbol (first.toNat % 4 * 16 + second.toNat / 16),
        symbol (second.toNat % 16 * 4 + third.toNat / 64), symbol (third.toNat % 64)] := by
  have spread : encodeChunk Rfc4648.alphabet [first, second, third] =
      [characterAt Rfc4648.alphabet (groupOf [first, second, third]) 18,
        characterAt Rfc4648.alphabet (groupOf [first, second, third]) 12,
        characterAt Rfc4648.alphabet (groupOf [first, second, third]) 6,
        characterAt Rfc4648.alphabet (groupOf [first, second, third]) 0] := rfl
  have firstBound := first.isLt
  have secondBound := second.isLt
  have thirdBound := third.isLt
  rw [spread, characterAt_eq, characterAt_eq, characterAt_eq, characterAt_eq, groupOf_three]
  have at18 : (first.toNat * 65536 + second.toNat * 256 + third.toNat) / 2 ^ 18 % 64 =
      first.toNat / 4 := by omega
  have at12 : (first.toNat * 65536 + second.toNat * 256 + third.toNat) / 2 ^ 12 % 64 =
      first.toNat % 4 * 16 + second.toNat / 16 := by omega
  have at6 : (first.toNat * 65536 + second.toNat * 256 + third.toNat) / 2 ^ 6 % 64 =
      second.toNat % 16 * 4 + third.toNat / 64 := by omega
  have at0 : (first.toNat * 65536 + second.toNat * 256 + third.toNat) / 2 ^ 0 % 64 =
      third.toNat % 64 := by omega
  rw [at18, at12, at6, at0]

theorem encodeChunk_two (first second : Byte) : encodeChunk Rfc4648.alphabet [first, second] =
    (encodeChunk Rfc4648.alphabet [first, second, 0]).take 3 ++ [filler] := by
  unfold encodeChunk
  rw [groupOf_two]
  rfl

theorem encodeChunk_one (first : Byte) : encodeChunk Rfc4648.alphabet [first] =
    (encodeChunk Rfc4648.alphabet [first, 0, 0]).take 2 ++ [filler, filler] := by
  unfold encodeChunk
  rw [groupOf_one]
  rfl

section Chunked

variable (alphabet : List Byte)

theorem encodeWith_short {bytes : List Byte} (some : bytes ≠ []) (short : bytes.length ≤ 3) :
    encodeWith alphabet bytes = encodeChunk alphabet bytes := by
  rw [encodeWith, chunks_short some short, List.flatMap_singleton]

theorem encodeWith_three (first second third : Byte) (rest : List Byte) :
    encodeWith alphabet (first :: second :: third :: rest) =
      encodeChunk alphabet [first, second, third] ++ encodeWith alphabet rest := by
  have cut : chunks 3 (first :: second :: third :: rest) =
      [first, second, third] :: chunks 3 rest :=
    chunks_append (by decide) [first, second, third] rest rfl
  rw [encodeWith, cut, List.flatMap_cons]
  rfl

end Chunked

/-- The encoder and the RFC agree a chunk at a time. -/
theorem encodeWith_alphabet (bytes : List Byte) :
    encodeWith Rfc4648.alphabet bytes = Rfc4648.encode bytes := by
  induction bytes using byThrees with
  | nil => rfl
  | one first =>
      rw [encodeWith_short _ (List.cons_ne_nil _ _) (by simp), encodeChunk_one, encodeChunk_three,
        Rfc4648.encode_one]
      rfl
  | two first second =>
      rw [encodeWith_short _ (List.cons_ne_nil _ _) (by simp), encodeChunk_two, encodeChunk_three,
        Rfc4648.encode_two]
      rfl
  | three first second third rest ih =>
      rw [encodeWith_three, encodeChunk_three, Rfc4648.encode_three, ih]
      rfl

theorem base64_eq_encode (bytes : List Byte) : base64 bytes = Rfc4648.encode bytes :=
  encodeWith_alphabet bytes

theorem base64Alphabet_symbol {value : Nat} (small : value < 64) :
    BitVec.ofNat 8 (Updates.base64Alphabet.getD value '=').toNat = symbol value := by
  have all : ∀ value : Fin 64,
      BitVec.ofNat 8 (Updates.base64Alphabet.getD value '=').toNat = symbol value := by
    decide +kernel
  exact all ⟨value, small⟩

theorem byteString_chunk (chunk : List Byte) :
    byteString (String.ofList (Updates.base64Chunk chunk)) =
      encodeChunk Rfc4648.alphabet chunk := by
  have character (index : Nat) :
      BitVec.ofNat 8 (Updates.base64Alphabet.getD
        ((groupOf chunk >>> (18 - 6 * index)) &&& 0x3f).toNat '=').toNat =
          characterAt Rfc4648.alphabet (groupOf chunk) (18 - 6 * index) := by
    have small : ((groupOf chunk >>> (18 - 6 * index)) &&& 0x3f).toNat < 64 := by
      rw [BitVec.toNat_and]
      exact Nat.lt_of_le_of_lt Nat.and_le_right (by decide)
    exact base64Alphabet_symbol small
  rw [byteString, String.toList_ofList, Updates.base64Chunk, encodeChunk, List.map_append,
    List.map_map, List.map_replicate]
  congr 1
  apply List.map_congr_left
  intro index _
  exact character index

/-- The copy beside the projection goes through the chunks as they come. -/
theorem byteString_base64 (bytes : List Byte) :
    byteString (Updates.base64 bytes) = encodeWith Rfc4648.alphabet bytes := by
  have chars : ∀ text : List Byte, byteString (String.ofList (Updates.base64Chars text)) =
      encodeWith Rfc4648.alphabet text := by
    intro text
    induction text using byThrees with
    | nil => rfl
    | one first =>
        rw [encodeWith_short _ (List.cons_ne_nil _ _) (by simp)]
        exact byteString_chunk [first]
    | two first second =>
        rw [encodeWith_short _ (List.cons_ne_nil _ _) (by simp)]
        exact byteString_chunk [first, second]
    | three first second third rest ih =>
        have spread : byteString (String.ofList
            (Updates.base64Chars (first :: second :: third :: rest))) =
              byteString (String.ofList (Updates.base64Chunk [first, second, third])) ++
                byteString (String.ofList (Updates.base64Chars rest)) := by
          simp only [byteString, String.toList_ofList, Updates.base64Chars, List.map_append]
        rw [spread, ih, byteString_chunk, encodeWith_three]
  exact chars bytes

/-! ### What a group reads -/

theorem sextet_symbol {value : Nat} (small : value < 64) :
    sextet (symbol value) = .ok (BitVec.ofNat 8 value) := by
  have all : ∀ value : Fin 64, sextet (symbol value) = .ok (BitVec.ofNat 8 value) := by
    decide +kernel
  exact all ⟨value, small⟩

theorem symbol_ne_filler {value : Nat} (small : value < 64) : symbol value ≠ 0x3d := by
  intro same
  have read := sextet_symbol small
  rw [same] at read
  cases read

theorem symbol_of_sextet {byte six : Byte} (read : sextet byte = .ok six) :
    six.toNat < 64 ∧ byte = symbol six.toNat := by
  have whole {start : Nat} (above : start ≤ byte.toNat) :
      BitVec.ofNat 8 (byte.toNat - start + start) = byte := by
    rw [Nat.sub_add_cancel above, BitVec.ofNat_toNat, BitVec.setWidth_eq]
  unfold sextet at read
  split at read
  · rename_i upper
    cases read
    have value : (byte - 0x41).toNat = byte.toNat - 0x41 := by bv_omega
    rw [value, Rfc4648.symbol_upper (by bv_omega), whole (by bv_omega)]
    exact ⟨by bv_omega, rfl⟩
  · split at read
    · rename_i lower
      cases read
      have value : (byte - 0x61 + 26).toNat = byte.toNat - 0x61 + 26 := by bv_omega
      rw [value, Rfc4648.symbol_lower (by bv_omega), whole (by bv_omega)]
      exact ⟨by bv_omega, rfl⟩
    · split at read
      · rename_i digit
        cases read
        have value : (byte - 0x30 + 52).toNat = byte.toNat - 0x30 + 52 := by bv_omega
        rw [value, Rfc4648.symbol_digit (by bv_omega), whole (by bv_omega)]
        exact ⟨by bv_omega, rfl⟩
      · split at read
        · rename_i plus
          cases read
          rw [plus]
          decide +kernel
        · split at read
          · rename_i slash
            cases read
            rw [slash]
            decide +kernel
          · cases read

/-- A character of the alphabet and its value. -/
def Stands (byte : Byte) (value : Nat) : Prop := value < 64 ∧ byte = symbol value

theorem Stands.read {byte : Byte} {value : Nat} (stands : Stands byte value) :
    sextet byte = .ok (BitVec.ofNat 8 value) := by
  rw [stands.2]
  exact sextet_symbol stands.1

theorem Stands.ne_filler {byte : Byte} {value : Nat} (stands : Stands byte value) :
    byte ≠ filler := by
  rw [stands.2]
  exact symbol_ne_filler stands.1

theorem not_stands_filler {value : Nat} (stands : Stands filler value) : False :=
  stands.ne_filler rfl

theorem Stands.unique {byte : Byte} {value other : Nat} (first : Stands byte value)
    (second : Stands byte other) : value = other := by
  have same := Except.ok.inj (first.read.symm.trans second.read)
  have values := congrArg BitVec.toNat same
  rw [BitVec.toNat_ofNat, BitVec.toNat_ofNat] at values
  have small := first.1
  have otherSmall := second.1
  omega

/-- `value` with six more bits at its end. -/
def pushed (value : BitVec 32) (six : Nat) : BitVec 32 :=
  (value <<< 6) ||| (BitVec.ofNat 8 six).setWidth 32

theorem pushed_toNat {value : BitVec 32} {six : Nat} (fits : value.toNat < 2 ^ 26)
    (small : six < 64) : (pushed value six).toNat = value.toNat * 64 + six := by
  have low : ((BitVec.ofNat 8 six).setWidth 32).toNat = six := by
    rw [widened_toNat, BitVec.toNat_ofNat]
    omega
  rw [pushed, shiftLeft_or _ _ 6 (by omega) (by rw [low]; exact small), low]
  rfl

theorem pushed_zero (value : BitVec 32) : pushed value 0 = value <<< 6 := by
  simp [pushed]

theorem takeCharacter_stands {byte : Byte} {six : Nat} (stands : Stands byte six) (final : Bool)
    (position : Nat) (value : BitVec 32) :
    takeCharacter final position ⟨value, 0⟩ byte = .ok ⟨pushed value six, 0⟩ := by
  have notFiller : ¬ byte = 0x3d := stands.ne_filler
  rw [takeCharacter, if_neg notFiller, if_neg (Nat.lt_irrefl 0), stands.read]
  rfl

theorem takeCharacter_filler {position : Nat} (late : 2 ≤ position) (group : Group) :
    takeCharacter true position group filler = .ok ⟨pushed group.value 0, group.padding + 1⟩ := by
  have placed : ¬ (!true || decide (position < 2)) = true := by
    simp only [Bool.not_true, Bool.false_or, decide_eq_true_eq]
    omega
  have isFiller : filler = 0x3d := rfl
  rw [takeCharacter, if_pos isFiller, if_neg placed, pushed_zero]

/-- The two ways of taking a character. -/
theorem takeCharacter_eq_ok {final : Bool} {position : Nat} {group next : Group} {byte : Byte}
    (accepted : takeCharacter final position group byte = .ok next) :
    (byte = filler ∧ final = true ∧ 2 ≤ position ∧
        next = ⟨pushed group.value 0, group.padding + 1⟩) ∨
      (group.padding = 0 ∧ ∃ six, Stands byte six ∧ next = ⟨pushed group.value six, 0⟩) := by
  unfold takeCharacter at accepted
  split at accepted
  · rename_i isFiller
    split at accepted
    · cases accepted
    · rename_i placed
      cases accepted
      simp only [Bool.or_eq_true, Bool.not_eq_true', decide_eq_true_eq, not_or,
        Bool.not_eq_false] at placed
      rw [pushed_zero]
      exact .inl ⟨isFiller, placed.1, Nat.not_lt.mp placed.2, rfl⟩
  · split at accepted
    · cases accepted
    · rename_i unpadded
      have none : group.padding = 0 := Nat.eq_zero_of_not_pos unpadded
      cases read : sextet byte with
      | error failure =>
          rw [read] at accepted
          cases accepted
      | ok six =>
          rw [read] at accepted
          cases accepted
          obtain ⟨small, same⟩ := symbol_of_sextet read
          refine .inr ⟨none, six.toNat, ⟨small, same⟩, ?_⟩
          rw [none, pushed, BitVec.ofNat_toNat, BitVec.setWidth_eq]

/-! ### Groups -/

def groupValue (first second third fourth : Nat) : BitVec 32 :=
  pushed (pushed (pushed (pushed 0 first) second) third) fourth

/-- What a group of four characters is read as. -/
inductive GroupRead (final : Bool) : List Byte → Group → Prop
  | full {w x y z : Byte} {s0 s1 s2 s3 : Nat} (first : Stands w s0) (second : Stands x s1)
      (third : Stands y s2) (fourth : Stands z s3) :
      GroupRead final [w, x, y, z] ⟨groupValue s0 s1 s2 s3, 0⟩
  | one {w x y : Byte} {s0 s1 s2 : Nat} (last : final = true) (first : Stands w s0)
      (second : Stands x s1) (third : Stands y s2) :
      GroupRead final [w, x, y, filler] ⟨groupValue s0 s1 s2 0, 1⟩
  | two {w x : Byte} {s0 s1 : Nat} (last : final = true) (first : Stands w s0)
      (second : Stands x s1) :
      GroupRead final [w, x, filler, filler] ⟨groupValue s0 s1 0 0, 2⟩

theorem readGroup_eq_ok {final : Bool} {w x y z : Byte} {group : Group} :
    readGroup final 0 ⟨0, 0⟩ [w, x, y, z] = .ok group ↔ GroupRead final [w, x, y, z] group := by
  constructor
  · intro accepted
    obtain ⟨afterFirst, tookFirst, accepted⟩ := bind_eq_ok.mp accepted
    obtain ⟨afterSecond, tookSecond, accepted⟩ := bind_eq_ok.mp accepted
    obtain ⟨afterThird, tookThird, accepted⟩ := bind_eq_ok.mp accepted
    obtain ⟨afterFourth, tookFourth, same⟩ := bind_eq_ok.mp accepted
    cases same
    -- The first two positions hold characters, and nothing follows padding.
    rcases takeCharacter_eq_ok tookFirst with ⟨-, -, late, -⟩ | ⟨-, s0, first, rfl⟩
    · omega
    rcases takeCharacter_eq_ok tookSecond with ⟨-, -, late, -⟩ | ⟨-, s1, second, rfl⟩
    · omega
    rcases takeCharacter_eq_ok tookThird with ⟨rfl, last, -, rfl⟩ | ⟨-, s2, third, rfl⟩
    · rcases takeCharacter_eq_ok tookFourth with ⟨rfl, -, -, rfl⟩ | ⟨unpadded, -⟩
      · exact .two last first second
      · cases unpadded
    · rcases takeCharacter_eq_ok tookFourth with ⟨rfl, last, -, rfl⟩ | ⟨-, s3, fourth, rfl⟩
      · exact .one last first second third
      · exact .full first second third fourth
  · intro read
    cases read with
    | full first second third fourth =>
        simp only [readGroup, takeCharacter_stands first, takeCharacter_stands second,
          takeCharacter_stands third, takeCharacter_stands fourth, bind, Except.bind]
        rfl
    | one last first second third =>
        rw [last]
        simp only [readGroup, takeCharacter_stands first, takeCharacter_stands second,
          takeCharacter_stands third, bind, Except.bind]
        rw [takeCharacter_filler (by decide)]
        rfl
    | two last first second =>
        rw [last]
        simp only [readGroup, takeCharacter_stands first, takeCharacter_stands second, bind,
          Except.bind]
        rw [takeCharacter_filler (by decide)]
        dsimp only
        rw [takeCharacter_filler (by decide)]
        rfl

section Produced

variable {s0 s1 s2 s3 : Nat}

theorem groupValue_toNat (h0 : s0 < 64) (h1 : s1 < 64) (h2 : s2 < 64) (h3 : s3 < 64) :
    (groupValue s0 s1 s2 s3).toNat = ((s0 * 64 + s1) * 64 + s2) * 64 + s3 := by
  have zero : (0 : BitVec 32).toNat = 0 := rfl
  have one : (pushed 0 s0).toNat = s0 := by
    rw [pushed_toNat (by omega) h0, zero, Nat.zero_mul, Nat.zero_add]
  have two : (pushed (pushed 0 s0) s1).toNat = s0 * 64 + s1 := by
    rw [pushed_toNat (by omega) h1, one]
  have three : (pushed (pushed (pushed 0 s0) s1) s2).toNat = (s0 * 64 + s1) * 64 + s2 := by
    rw [pushed_toNat (by omega) h2, two]
  rw [groupValue, pushed_toNat (by omega) h3, three]

def firstByte (s0 s1 : Nat) : Byte := BitVec.ofNat 8 (s0 * 4 + s1 / 16)

def secondByte (s1 s2 : Nat) : Byte := BitVec.ofNat 8 (s1 % 16 * 16 + s2 / 4)

def thirdByte (s2 s3 : Nat) : Byte := BitVec.ofNat 8 (s2 % 4 * 64 + s3)

theorem low_byte (value : BitVec 32) (shift : Nat) :
    (value >>> shift).setWidth 8 = BitVec.ofNat 8 (value.toNat / 2 ^ shift) := by
  apply BitVec.eq_of_toNat_eq
  rw [BitVec.toNat_setWidth, BitVec.toNat_ushiftRight, Nat.shiftRight_eq_div_pow, BitVec.toNat_ofNat]

theorem ofNat_congr {left right : Nat} (same : left % 256 = right % 256) :
    BitVec.ofNat 8 left = BitVec.ofNat 8 right :=
  BitVec.eq_of_toNat_eq (by rw [BitVec.toNat_ofNat, BitVec.toNat_ofNat]; exact same)

theorem produce_groupValue (h0 : s0 < 64) (h1 : s1 < 64) (h2 : s2 < 64) (h3 : s3 < 64)
    (padding : Nat) : produce ⟨groupValue s0 s1 s2 s3, padding⟩ =
      firstByte s0 s1 :: ((if 2 ≤ 3 - padding then [secondByte s1 s2] else []) ++
        if 3 ≤ 3 - padding then [thirdByte s2 s3] else []) := by
  have value := groupValue_toNat h0 h1 h2 h3
  have first : ((groupValue s0 s1 s2 s3) >>> 16).setWidth 8 = firstByte s0 s1 := by
    rw [low_byte, value]
    exact ofNat_congr (by omega)
  have second : ((groupValue s0 s1 s2 s3) >>> 8).setWidth 8 = secondByte s1 s2 := by
    rw [low_byte, value]
    exact ofNat_congr (by omega)
  have third : (groupValue s0 s1 s2 s3).setWidth 8 = thirdByte s2 s3 := by
    have all := low_byte (groupValue s0 s1 s2 s3) 0
    rw [BitVec.ushiftRight_zero] at all
    rw [all, value]
    exact ofNat_congr (by omega)
  rw [produce, first, second, third]

end Produced

/-- The texts that are taken, and the bytes that they are taken for. -/
inductive Accepted : List Byte → List Byte → Prop
  | nil : Accepted [] []
  | one {w x y : Byte} {s0 s1 s2 : Nat} (first : Stands w s0) (second : Stands x s1)
      (third : Stands y s2) :
      Accepted [w, x, y, filler] [firstByte s0 s1, secondByte s1 s2]
  | two {w x : Byte} {s0 s1 : Nat} (first : Stands w s0) (second : Stands x s1) :
      Accepted [w, x, filler, filler] [firstByte s0 s1]
  | group {w x y z : Byte} {s0 s1 s2 s3 : Nat} {rest bytes : List Byte} (first : Stands w s0)
      (second : Stands x s1) (third : Stands y s2) (fourth : Stands z s3)
      (later : Accepted rest bytes) :
      Accepted (w :: x :: y :: z :: rest)
        (firstByte s0 s1 :: secondByte s1 s2 :: thirdByte s2 s3 :: bytes)

/-- What the groups of a text give, the last of which may be padded. -/
theorem accepted_cons_iff {w x y z : Byte} {rest bytes : List Byte} :
    Accepted (w :: x :: y :: z :: rest) bytes ↔
      ∃ group later, GroupRead (rest = []) [w, x, y, z] group ∧ Accepted rest later ∧
        bytes = produce group ++ later := by
  constructor
  · intro accepted
    cases accepted with
    | one first second third =>
        refine ⟨_, [], .one (decide_eq_true rfl) first second third, .nil, ?_⟩
        rw [produce_groupValue first.1 second.1 third.1 (by decide)]
        rfl
    | two first second =>
        refine ⟨_, [], .two (decide_eq_true rfl) first second, .nil, ?_⟩
        rw [produce_groupValue first.1 second.1 (by decide) (by decide)]
        rfl
    | group first second third fourth later =>
        refine ⟨_, _, .full first second third fourth, later, ?_⟩
        rw [produce_groupValue first.1 second.1 third.1 fourth.1]
        rfl
  · intro read
    obtain ⟨group, later, groupRead, accepted, same⟩ := read
    subst same
    cases groupRead with
    | full first second third fourth =>
        rw [produce_groupValue first.1 second.1 third.1 fourth.1]
        exact .group first second third fourth accepted
    | one last first second third =>
        have ended := of_decide_eq_true last
        subst ended
        cases accepted
        rw [produce_groupValue first.1 second.1 third.1 (by decide)]
        exact .one first second third
    | two last first second =>
        have ended := of_decide_eq_true last
        subst ended
        cases accepted
        rw [produce_groupValue first.1 second.1 (by decide) (by decide)]
        exact .two first second

theorem four_of_length {text : List Byte} {count : Nat} (length : text.length = 4 * (count + 1)) :
    ∃ w x y z rest, text = w :: x :: y :: z :: rest ∧ rest.length = 4 * count := by
  match text, length with
  | w :: x :: y :: z :: rest, length =>
      refine ⟨w, x, y, z, rest, rfl, ?_⟩
      simp only [List.length_cons] at length
      omega

theorem decodeGroups_eq_ok (count : Nat) :
    ∀ (text bytes : List Byte) (index : Nat), text.length = 4 * count →
      (decodeGroups (index + count) index (chunks 4 text) = .ok bytes ↔ Accepted text bytes) := by
  induction count with
  | zero =>
      intro text bytes index empty
      have none := List.length_eq_zero_iff.mp empty
      subst none
      constructor
      · intro decoded
        cases decoded
        exact .nil
      · intro accepted
        cases accepted
        rfl
  | succ count ih =>
      intro text bytes index length
      obtain ⟨w, x, y, z, rest, split, shorter⟩ := four_of_length length
      have cut : chunks 4 (w :: x :: y :: z :: rest) = [w, x, y, z] :: chunks 4 rest :=
        chunks_append (by decide) [w, x, y, z] rest rfl
      have last : (index + 1 == index + (count + 1)) = decide (rest = []) := by
        rw [Bool.eq_iff_iff, beq_iff_eq, decide_eq_true_eq, ← List.length_eq_zero_iff, shorter]
        omega
      have next : index + (count + 1) = index + 1 + count := by omega
      rw [split, cut, decodeGroups, last, accepted_cons_iff, bind_eq_ok]
      constructor
      · intro decoded
        obtain ⟨group, read, continued⟩ := decoded
        obtain ⟨later, decodedLater, same⟩ := bind_eq_ok.mp continued
        rw [next] at decodedLater
        exact ⟨group, later, readGroup_eq_ok.mp read, (ih rest later _ shorter).mp decodedLater,
          (Except.ok.inj same).symm⟩
      · intro accepted
        obtain ⟨group, later, read, acceptedLater, same⟩ := accepted
        have decodedLater := (ih rest later (index + 1) shorter).mpr acceptedLater
        rw [← next] at decodedLater
        rw [same]
        exact ⟨group, readGroup_eq_ok.mpr read, bind_eq_ok.mpr ⟨later, decodedLater, rfl⟩⟩

theorem Accepted.length_mod {text bytes : List Byte} (accepted : Accepted text bytes) :
    text.length % 4 = 0 := by
  induction accepted with
  | nil => rfl
  | one => simp
  | two => simp
  | group first second third fourth later ih =>
      simp only [List.length_cons]
      omega

/-- The decoder takes exactly the padded texts. -/
theorem decodeBase64_eq_ok {text bytes : List Byte} :
    decodeBase64 text = .ok bytes ↔ Accepted (withoutWhitespace text) bytes := by
  by_cases whole : (withoutWhitespace text).length % 4 = 0
  · have length : (withoutWhitespace text).length = 4 * ((withoutWhitespace text).length / 4) := by
      omega
    have groups := decodeGroups_eq_ok _ (withoutWhitespace text) bytes 0 length
    rw [Nat.zero_add] at groups
    rw [decodeBase64, if_neg (not_not_intro whole), groups]
  · constructor
    · intro decoded
      rw [decodeBase64, if_pos whole] at decoded
      cases decoded
    · intro accepted
      exact absurd accepted.length_mod whole

/-! ### The round trip -/

theorem ofNat_toNat {byte : Byte} {value : Nat} (same : value = byte.toNat) :
    BitVec.ofNat 8 value = byte := by
  rw [same, BitVec.ofNat_toNat, BitVec.setWidth_eq]

/-- A byte is put together again from the values that it is spread over. -/
theorem firstByte_split (first : Byte) {low : Nat} (small : low < 16) :
    firstByte (first.toNat / 4) (first.toNat % 4 * 16 + low) = first :=
  ofNat_toNat (by omega)

theorem secondByte_split (second : Byte) (high : Nat) {low : Nat} (small : low < 4) :
    secondByte (high * 16 + second.toNat / 16) (second.toNat % 16 * 4 + low) = second := by
  have bound := second.isLt
  exact ofNat_toNat (by omega)

theorem thirdByte_split (third : Byte) (high : Nat) :
    thirdByte (high * 4 + third.toNat / 64) (third.toNat % 64) = third := by
  have bound := third.isLt
  exact ofNat_toNat (by omega)

theorem accepted_encode (bytes : List Byte) : Accepted (Rfc4648.encode bytes) bytes := by
  induction bytes using byThrees with
  | nil => exact .nil
  | one first =>
      have bound := first.isLt
      have accepted : Accepted [symbol (first.toNat / 4), symbol (first.toNat % 4 * 16 + 0), filler,
          filler] [firstByte (first.toNat / 4) (first.toNat % 4 * 16 + 0)] :=
        .two ⟨by omega, rfl⟩ ⟨by omega, rfl⟩
      rw [firstByte_split first (by decide)] at accepted
      rw [Rfc4648.encode_one]
      exact accepted
  | two first second =>
      have bound := first.isLt
      have secondBound := second.isLt
      have accepted : Accepted [symbol (first.toNat / 4),
          symbol (first.toNat % 4 * 16 + second.toNat / 16), symbol (second.toNat % 16 * 4 + 0),
          filler]
          [firstByte (first.toNat / 4) (first.toNat % 4 * 16 + second.toNat / 16),
            secondByte (first.toNat % 4 * 16 + second.toNat / 16) (second.toNat % 16 * 4 + 0)] :=
        .one ⟨by omega, rfl⟩ ⟨by omega, rfl⟩ ⟨by omega, rfl⟩
      rw [firstByte_split first (by omega), secondByte_split second _ (by decide)] at accepted
      rw [Rfc4648.encode_two]
      exact accepted
  | three first second third rest ih =>
      have bound := first.isLt
      have secondBound := second.isLt
      have thirdBound := third.isLt
      have accepted : Accepted (symbol (first.toNat / 4) ::
          symbol (first.toNat % 4 * 16 + second.toNat / 16) ::
          symbol (second.toNat % 16 * 4 + third.toNat / 64) :: symbol (third.toNat % 64) ::
            Rfc4648.encode rest)
          (firstByte (first.toNat / 4) (first.toNat % 4 * 16 + second.toNat / 16) ::
            secondByte (first.toNat % 4 * 16 + second.toNat / 16)
              (second.toNat % 16 * 4 + third.toNat / 64) ::
            thirdByte (second.toNat % 16 * 4 + third.toNat / 64) (third.toNat % 64) :: rest) :=
        .group ⟨by omega, rfl⟩ ⟨by omega, rfl⟩ ⟨by omega, rfl⟩ ⟨by omega, rfl⟩ ih
      rw [firstByte_split first (by omega), secondByte_split second _ (by omega),
        thirdByte_split] at accepted
      rw [Rfc4648.encode_three]
      exact accepted

/-- `spread` is `text` with ASCII whitespace inserted anywhere. -/
inductive Spread : List Byte → List Byte → Prop
  | nil : Spread [] []
  | keep {text spread : List Byte} (byte : Byte) (later : Spread text spread) :
      Spread (byte :: text) (byte :: spread)
  | space {text spread : List Byte} {byte : Byte} (white : isAsciiWhitespace byte = true)
      (later : Spread text spread) : Spread text (byte :: spread)

theorem Spread.withoutWhitespace {text spread : List Byte} (inserted : Spread text spread)
    (plain : ∀ byte ∈ text, isAsciiWhitespace byte = false) :
    withoutWhitespace spread = text := by
  induction inserted with
  | nil => rfl
  | keep byte later ih =>
      have own := plain byte List.mem_cons_self
      have rest := ih fun other member => plain other (List.mem_cons_of_mem byte member)
      rw [Files.withoutWhitespace, List.filter_cons, own]
      exact congrArg (byte :: ·) rest
  | space white later ih =>
      rw [Files.withoutWhitespace, List.filter_cons, white]
      exact ih plain

theorem symbol_plain {value : Nat} (small : value < 64) :
    isAsciiWhitespace (symbol value) = false := by
  have all : ∀ value : Fin 64, isAsciiWhitespace (symbol value) = false := by decide +kernel
  exact all ⟨value, small⟩

theorem Accepted.plain {text bytes : List Byte} (accepted : Accepted text bytes) :
    ∀ byte ∈ text, isAsciiWhitespace byte = false := by
  have stands {byte : Byte} {value : Nat} (stands : Stands byte value) :
      isAsciiWhitespace byte = false := by
    rw [stands.2]
    exact symbol_plain stands.1
  have filled : isAsciiWhitespace filler = false := by decide
  induction accepted with
  | nil => simp
  | one first second third => simp [stands first, stands second, stands third, filled]
  | two first second => simp [stands first, stands second, filled]
  | group first second third fourth later ih =>
      simpa [stands first, stands second, stands third, stands fourth] using ih

/-- The three encoders are the one of the RFC, and the decoder inverts it whatever
whitespace is inserted. -/
theorem base64_round_trip :
    (∀ bytes, base64 bytes = Rfc4648.encode bytes ∧
      Messages.base64 bytes = Rfc4648.encode bytes ∧
      byteString (Updates.base64 bytes) = Rfc4648.encode bytes) ∧
    ∀ bytes text, Spread (base64 bytes) text → decodeBase64 text = .ok bytes := by
  constructor
  · intro bytes
    exact ⟨encodeWith_alphabet bytes, encodeWith_alphabet bytes,
      (byteString_base64 bytes).trans (encodeWith_alphabet bytes)⟩
  · intro bytes text inserted
    have accepted := accepted_encode bytes
    rw [← base64_eq_encode] at accepted
    rw [decodeBase64_eq_ok, inserted.withoutWhitespace accepted.plain]
    exact accepted

/-- The text `Zm9v`, a line feed, a space and `YmFy`. -/
theorem base64_round_trip_wrapped : base64 (byteString "foobar") = byteString "Zm9vYmFy" ∧
    decodeBase64 (byteString "Zm9v\n YmFy") = .ok (byteString "foobar") := by
  have encoded : base64 (byteString "foobar") = byteString "Zm9vYmFy" := by decide
  refine ⟨encoded, base64_round_trip.2 _ _ ?_⟩
  have group (w x y z : Byte) {text spread : List Byte} (later : Spread text spread) :
      Spread (w :: x :: y :: z :: text) (w :: x :: y :: z :: spread) :=
    .keep w (.keep x (.keep y (.keep z later)))
  rw [encoded]
  exact group _ _ _ _ (.space (by decide) (.space (by decide) (group _ _ _ _ .nil)))

/-! ### Bits over -/

/-- The texts whose last character before the padding has bits that no byte needs. -/
inductive LeavesBits : List Byte → Prop
  | one {w x y : Byte} {s0 s1 s2 : Nat} (first : Stands w s0) (second : Stands x s1)
      (third : Stands y s2) (left : s2 % 4 ≠ 0) : LeavesBits [w, x, y, filler]
  | two {w x : Byte} {s0 s1 : Nat} (first : Stands w s0) (second : Stands x s1)
      (left : s1 % 16 ≠ 0) : LeavesBits [w, x, filler, filler]
  | group {w x y z : Byte} {s0 s1 s2 s3 : Nat} {rest : List Byte} (first : Stands w s0)
      (second : Stands x s1) (third : Stands y s2) (fourth : Stands z s3)
      (later : LeavesBits rest) : LeavesBits (w :: x :: y :: z :: rest)

theorem LeavesBits.accepted {text : List Byte} (leaves : LeavesBits text) :
    ∃ bytes, Accepted text bytes := by
  induction leaves with
  | one first second third left => exact ⟨_, .one first second third⟩
  | two first second left => exact ⟨_, .two first second⟩
  | group first second third fourth later ih =>
      obtain ⟨bytes, accepted⟩ := ih
      exact ⟨_, .group first second third fourth accepted⟩

theorem Stands.value_eq {value other : Nat} (stands : Stands (symbol value) other)
    (small : value < 64) : other = value :=
  stands.unique ⟨small, rfl⟩

theorem LeavesBits.cons_cases {w x y z : Byte} {rest : List Byte}
    (leaves : LeavesBits (w :: x :: y :: z :: rest)) :
    (∃ s2, Stands y s2 ∧ s2 % 4 ≠ 0 ∧ z = filler) ∨
      (∃ s1, Stands x s1 ∧ s1 % 16 ≠ 0 ∧ y = filler ∧ z = filler) ∨
      (∃ s3, Stands z s3 ∧ LeavesBits rest) := by
  cases leaves with
  | one _ _ third left => exact .inl ⟨_, third, left, rfl⟩
  | two _ second left => exact .inr (.inl ⟨_, second, left, rfl, rfl⟩)
  | group _ _ _ fourth later => exact .inr (.inr ⟨_, fourth, later⟩)

theorem encode_leaves_none (bytes : List Byte) : ¬ LeavesBits (Rfc4648.encode bytes) := by
  induction bytes using byThrees with
  | nil =>
      intro leaves
      cases leaves
  | one first =>
      intro leaves
      rw [Rfc4648.encode_one] at leaves
      rcases leaves.cons_cases with ⟨s2, third, -⟩ | ⟨s1, second, left, -⟩ | ⟨s3, fourth, -⟩
      · exact not_stands_filler third
      · rw [second.value_eq (by omega)] at left
        omega
      · exact not_stands_filler fourth
  | two first second =>
      intro leaves
      rw [Rfc4648.encode_two] at leaves
      rcases leaves.cons_cases with ⟨s2, third, left, -⟩ | ⟨s1, -, -, padded, -⟩ | ⟨s3, fourth, -⟩
      · rw [third.value_eq (by omega)] at left
        omega
      · exact symbol_ne_filler (by omega) padded
      · exact not_stands_filler fourth
  | three first second third rest ih =>
      intro leaves
      rw [Rfc4648.encode_three] at leaves
      rcases leaves.cons_cases with ⟨s2, -, -, padded⟩ | ⟨s1, -, -, -, padded⟩ | ⟨s3, -, later⟩
      · exact symbol_ne_filler (by omega) padded
      · exact symbol_ne_filler (by omega) padded
      · exact ih later

section Bytes

variable {s0 s1 s2 s3 : Nat}

theorem firstByte_toNat (h0 : s0 < 64) (h1 : s1 < 64) :
    (firstByte s0 s1).toNat = s0 * 4 + s1 / 16 := by
  rw [firstByte, BitVec.toNat_ofNat]
  omega

theorem secondByte_toNat (h2 : s2 < 64) :
    (secondByte s1 s2).toNat = s1 % 16 * 16 + s2 / 4 := by
  rw [secondByte, BitVec.toNat_ofNat]
  omega

theorem thirdByte_toNat (h3 : s3 < 64) : (thirdByte s2 s3).toNat = s2 % 4 * 64 + s3 := by
  rw [thirdByte, BitVec.toNat_ofNat]
  omega

end Bytes

theorem Stands.eq_symbol {byte : Byte} {value other : Nat} (stands : Stands byte value)
    (same : value = other) : byte = symbol other := by
  rw [stands.2, same]

theorem Accepted.encoded {text bytes : List Byte} (accepted : Accepted text bytes) :
    ¬ LeavesBits text → text = Rfc4648.encode bytes := by
  induction accepted with
  | nil =>
      intro none
      rfl
  | @one w x y s0 s1 s2 first second third =>
      intro none
      have zero : s2 % 4 = 0 := by
        by_contra left
        exact none (.one first second third left)
      have secondSmall := second.1
      have thirdSmall := third.1
      rw [Rfc4648.encode_two, firstByte_toNat first.1 second.1, secondByte_toNat third.1,
        first.eq_symbol (by omega : s0 = (s0 * 4 + s1 / 16) / 4),
        second.eq_symbol
          (by omega : s1 = (s0 * 4 + s1 / 16) % 4 * 16 + (s1 % 16 * 16 + s2 / 4) / 16),
        third.eq_symbol (by omega : s2 = (s1 % 16 * 16 + s2 / 4) % 16 * 4)]
  | @two w x s0 s1 first second =>
      intro none
      have zero : s1 % 16 = 0 := by
        by_contra left
        exact none (.two first second left)
      have secondSmall := second.1
      rw [Rfc4648.encode_one, firstByte_toNat first.1 second.1,
        first.eq_symbol (by omega : s0 = (s0 * 4 + s1 / 16) / 4),
        second.eq_symbol (by omega : s1 = (s0 * 4 + s1 / 16) % 4 * 16)]
  | @group w x y z s0 s1 s2 s3 rest bytes first second third fourth later ih =>
      intro none
      have encoded := ih fun leaves => none (.group first second third fourth leaves)
      have secondSmall := second.1
      have thirdSmall := third.1
      have fourthSmall := fourth.1
      rw [Rfc4648.encode_three, ← encoded, firstByte_toNat first.1 second.1,
        secondByte_toNat third.1, thirdByte_toNat fourth.1,
        first.eq_symbol (by omega : s0 = (s0 * 4 + s1 / 16) / 4),
        second.eq_symbol
          (by omega : s1 = (s0 * 4 + s1 / 16) % 4 * 16 + (s1 % 16 * 16 + s2 / 4) / 16),
        third.eq_symbol
          (by omega : s2 = (s1 % 16 * 16 + s2 / 4) % 16 * 4 + (s2 % 4 * 64 + s3) / 64),
        fourth.eq_symbol (by omega : s3 = (s2 % 4 * 64 + s3) % 64)]

/-- What is decoded is the encoding of the answer exactly if no bits are over. -/
theorem decoded_is_encoding_iff (text : List Byte) :
    (∀ bytes, decodeBase64 text = .ok bytes → withoutWhitespace text = base64 bytes) ↔
      ¬ LeavesBits (withoutWhitespace text) := by
  constructor
  · intro canonical leaves
    obtain ⟨bytes, accepted⟩ := leaves.accepted
    have encoded := canonical bytes (decodeBase64_eq_ok.mpr accepted)
    rw [base64_eq_encode] at encoded
    rw [encoded] at leaves
    exact encode_leaves_none bytes leaves
  · intro none bytes decoded
    rw [base64_eq_encode]
    exact (decodeBase64_eq_ok.mp decoded).encoded none

/-- `Zh==` is taken for the byte that `Zg==` encodes. -/
theorem leftover_bits_decoded : decodeBase64 (byteString "Zh==") = .ok (byteString "f") ∧
    base64 (byteString "f") = byteString "Zg==" ∧
    ¬ ∀ bytes, decodeBase64 (byteString "Zh==") = .ok bytes →
      withoutWhitespace (byteString "Zh==") = base64 bytes := by
  refine ⟨by decide, by decide, ?_⟩
  intro canonical
  exact absurd (canonical (byteString "f") (by decide)) (by decide)

end Files
end Kotlogramme
