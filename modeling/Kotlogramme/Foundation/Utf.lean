/-
UTF-16 strings and their UTF-8 encoding, with the replacements of the Java
charset.

A string is any sequence of UTF-16 code units, so it may hold a surrogate
without its partner.  Encoding writes a question mark for such a unit.
Decoding malformed bytes either fails or writes U+FFFD for each malformed
sequence, by the action the caller chooses.
-/

import Kotlogramme.Foundation.LittleEndian

namespace Kotlogramme

abbrev CodeUnit := BitVec 16

/-- A Java string: any sequence of code units. -/
abbrev JString := List CodeUnit

def unitOf (character : Char) : CodeUnit := BitVec.ofNat 16 character.toNat

/-- The string of a literal whose characters are all in the basic plane. -/
def text (literal : String) : JString := literal.toList.map unitOf

/-- What a charset decoder does with a malformed sequence. -/
inductive CodingErrorAction
  | replace
  | report
  deriving DecidableEq

namespace Utf

def isHighSurrogate (unit : CodeUnit) : Bool := 0xD800 ≤ unit.toNat && unit.toNat < 0xDC00

def isLowSurrogate (unit : CodeUnit) : Bool := 0xDC00 ≤ unit.toNat && unit.toNat < 0xE000

def isSurrogate (unit : CodeUnit) : Bool := isHighSurrogate unit || isLowSurrogate unit

/-- Every surrogate of the string stands in a high-low pair. -/
def wellFormed : JString → Bool
  | [] => true
  | unit :: rest =>
      if isHighSurrogate unit then
        match rest with
        | [] => false
        | next :: others => isLowSurrogate next && wellFormed others
      else !isLowSurrogate unit && wellFormed rest

def toCodePoint (high low : CodeUnit) : Nat :=
  0x10000 + (high.toNat - 0xD800) * 0x400 + (low.toNat - 0xDC00)

def toChars (code : Nat) : JString :=
  if code < 0x10000 then [BitVec.ofNat 16 code]
  else [BitVec.ofNat 16 (0xD800 + (code - 0x10000) / 0x400),
    BitVec.ofNat 16 (0xDC00 + (code - 0x10000) % 0x400)]

def IsScalar (code : Nat) : Prop := code < 0xD800 ∨ (0xE000 ≤ code ∧ code < 0x110000)

def encodeCode (code : Nat) : List Byte :=
  if code < 0x80 then [BitVec.ofNat 8 code]
  else if code < 0x800 then
    [BitVec.ofNat 8 (0xC0 + code / 0x40), BitVec.ofNat 8 (0x80 + code % 0x40)]
  else if code < 0x10000 then
    [BitVec.ofNat 8 (0xE0 + code / 0x1000), BitVec.ofNat 8 (0x80 + code / 0x40 % 0x40),
      BitVec.ofNat 8 (0x80 + code % 0x40)]
  else
    [BitVec.ofNat 8 (0xF0 + code / 0x40000), BitVec.ofNat 8 (0x80 + code / 0x1000 % 0x40),
      BitVec.ofNat 8 (0x80 + code / 0x40 % 0x40), BitVec.ofNat 8 (0x80 + code % 0x40)]

/-- The low surrogate that makes a pair with `unit`, if one follows it. -/
def lowAfter (unit : CodeUnit) : JString → Option CodeUnit
  | [] => none
  | next :: _ => if isHighSurrogate unit && isLowSurrogate next then some next else none

/-- Encodes a string; `paired` says that its first unit is a low surrogate
already written with its partner.  A surrogate outside a pair becomes `?`. -/
def encodeFrom : Bool → JString → List Byte
  | _, [] => []
  | true, _ :: rest => encodeFrom false rest
  | false, unit :: rest =>
      match lowAfter unit rest with
      | some low => encodeCode (toCodePoint unit low) ++ encodeFrom true rest
      | none =>
          (if isSurrogate unit then [0x3F] else encodeCode unit.toNat) ++ encodeFrom false rest

/-- `String.toByteArray(UTF_8)`. -/
def encodeUtf8 (string : JString) : List Byte := encodeFrom false string

def isContinuation (byte : Byte) : Bool := 0x80 ≤ byte.toNat && byte.toNat < 0xC0

/-- The code point of a well-formed sequence at the front of an input, with
the number of bytes it has after its first one. -/
def decodeHead (first : Byte) (rest : List Byte) : Option (Nat × Nat) :=
  if first.toNat < 0x80 then some (first.toNat, 0)
  else if 0xC2 ≤ first.toNat ∧ first.toNat < 0xE0 then
    match rest with
    | second :: _ =>
        if isContinuation second then
          some ((first.toNat - 0xC0) * 0x40 + (second.toNat - 0x80), 1)
        else none
    | [] => none
  else if 0xE0 ≤ first.toNat ∧ first.toNat < 0xF0 then
    match rest with
    | second :: third :: _ =>
        let code := (first.toNat - 0xE0) * 0x1000 + (second.toNat - 0x80) * 0x40 +
          (third.toNat - 0x80)
        if isContinuation second && isContinuation third && decide (0x800 ≤ code) &&
            decide (code < 0xD800 ∨ 0xE000 ≤ code) then some (code, 2)
        else none
    | _ => none
  else if 0xF0 ≤ first.toNat ∧ first.toNat < 0xF8 then
    match rest with
    | second :: third :: fourth :: _ =>
        let code := (first.toNat - 0xF0) * 0x40000 + (second.toNat - 0x80) * 0x1000 +
          (third.toNat - 0x80) * 0x40 + (fourth.toNat - 0x80)
        if isContinuation second && isContinuation third && isContinuation fourth &&
            decide (0x10000 ≤ code) && decide (code < 0x110000) then some (code, 3)
        else none
    | _ => none
  else none

/-- No well-formed sequence that starts with `first` goes on with `second`. -/
def isMalformedSecond (first second : Byte) : Bool :=
  !isContinuation second || (first == 0xE0 && decide (second.toNat < 0xA0)) ||
    (first == 0xF0 && decide (second.toNat < 0x90)) ||
    (first == 0xF4 && decide (0x90 ≤ second.toNat)) || decide (0xF4 < first.toNat)

/-- How many bytes after the first one a malformed sequence takes with it. -/
def malformedLength (first : Byte) (rest : List Byte) : Nat :=
  if first.toNat < 0xE0 ∨ 0xF8 ≤ first.toNat then 0
  else match rest with
    | [] => 0
    | second :: others =>
        if isMalformedSecond first second then 0
        else match others with
          | [] => 1
          | third :: _ =>
              if !isContinuation third then 1 else 2

/-- Decodes what stands after `skip` more bytes of the current sequence. -/
def decodeFrom (action : CodingErrorAction) : Nat → List Byte → Option JString
  | _, [] => some []
  | skip + 1, _ :: rest => decodeFrom action skip rest
  | 0, first :: rest =>
      match decodeHead first rest with
      | some (code, skip) => (decodeFrom action skip rest).map (toChars code ++ ·)
      | none =>
          match action with
          | .replace => (decodeFrom action (malformedLength first rest) rest).map (0xFFFD :: ·)
          | .report => none

/-- Decodes a whole byte string; `String(bytes, UTF_8)` is the action
`replace`. -/
def decodeUtf8 (action : CodingErrorAction) (bytes : List Byte) : Option JString :=
  decodeFrom action 0 bytes

/-! ### One code point -/

/-- The bytes of a scalar value decode to it, whatever follows them. -/
theorem encodeCode_decodes (code : Nat) (scalar : IsScalar code) :
    ∃ first others, encodeCode code = first :: others ∧
      ∀ rest, decodeHead first (others ++ rest) = some (code, others.length) := by
  unfold IsScalar at scalar
  unfold encodeCode
  by_cases one : code < 0x80
  · refine ⟨BitVec.ofNat 8 code, [], by simp [one], fun rest => ?_⟩
    have firstValue : (BitVec.ofNat 8 code).toNat = code := by simp; omega
    simp [decodeHead, firstValue, one]
  · by_cases two : code < 0x800
    · refine ⟨_, _, by rw [if_neg one, if_pos two], fun rest => ?_⟩
      have firstValue : (BitVec.ofNat 8 (0xC0 + code / 0x40)).toNat = 0xC0 + code / 0x40 := by
        simp; omega
      have secondValue : (BitVec.ofNat 8 (0x80 + code % 0x40)).toNat = 0x80 + code % 0x40 := by
        simp; omega
      simp only [decodeHead, firstValue, secondValue, isContinuation, List.cons_append]
      rw [if_neg (by omega), if_pos (by omega), if_pos (by simp; omega)]
      simp
      omega
    · by_cases three : code < 0x10000
      · refine ⟨_, _, by rw [if_neg one, if_neg two, if_pos three], fun rest => ?_⟩
        have firstValue : (BitVec.ofNat 8 (0xE0 + code / 0x1000)).toNat =
            0xE0 + code / 0x1000 := by simp; omega
        have secondValue : (BitVec.ofNat 8 (0x80 + code / 0x40 % 0x40)).toNat =
            0x80 + code / 0x40 % 0x40 := by simp; omega
        have thirdValue : (BitVec.ofNat 8 (0x80 + code % 0x40)).toNat =
            0x80 + code % 0x40 := by simp; omega
        have whole : (0xE0 + code / 0x1000 - 0xE0) * 0x1000 +
            (0x80 + code / 0x40 % 0x40 - 0x80) * 0x40 + (0x80 + code % 0x40 - 0x80) = code := by
          omega
        simp only [decodeHead, firstValue, secondValue, thirdValue, isContinuation,
          List.cons_append, whole]
        rw [if_neg (by omega), if_neg (by omega), if_pos (by omega), if_pos (by simp; omega)]
        simp
      · refine ⟨_, _, by rw [if_neg one, if_neg two, if_neg three], fun rest => ?_⟩
        have firstValue : (BitVec.ofNat 8 (0xF0 + code / 0x40000)).toNat =
            0xF0 + code / 0x40000 := by simp; omega
        have secondValue : (BitVec.ofNat 8 (0x80 + code / 0x1000 % 0x40)).toNat =
            0x80 + code / 0x1000 % 0x40 := by simp; omega
        have thirdValue : (BitVec.ofNat 8 (0x80 + code / 0x40 % 0x40)).toNat =
            0x80 + code / 0x40 % 0x40 := by simp; omega
        have fourthValue : (BitVec.ofNat 8 (0x80 + code % 0x40)).toNat =
            0x80 + code % 0x40 := by simp; omega
        have whole : (0xF0 + code / 0x40000 - 0xF0) * 0x40000 +
            (0x80 + code / 0x1000 % 0x40 - 0x80) * 0x1000 +
            (0x80 + code / 0x40 % 0x40 - 0x80) * 0x40 + (0x80 + code % 0x40 - 0x80) = code := by
          omega
        simp only [decodeHead, firstValue, secondValue, thirdValue, fourthValue, isContinuation,
          List.cons_append, whole]
        rw [if_neg (by omega), if_neg (by omega), if_neg (by omega), if_pos (by omega),
          if_pos (by simp; omega)]
        simp

private theorem byte_eq (byte : Byte) (value : Nat) (same : byte.toNat = value) :
    BitVec.ofNat 8 value = byte := by
  rw [← same, BitVec.ofNat_toNat, BitVec.setWidth_eq]

/-- A decoded code point is a scalar value, and the bytes taken are its
encoding. -/
theorem decodeHead_sound (first : Byte) (rest : List Byte) (code skip : Nat)
    (decoded : decodeHead first rest = some (code, skip)) :
    IsScalar code ∧ encodeCode code = first :: rest.take skip ∧ skip ≤ rest.length := by
  have firstBound := first.isLt
  unfold decodeHead at decoded
  split at decoded
  · rename_i one
    cases decoded
    refine ⟨Or.inl (by omega), ?_, Nat.zero_le _⟩
    rw [encodeCode, if_pos one, byte_eq first _ rfl, List.take_zero]
  · split at decoded
    · rename_i lead
      cases rest with
      | nil => cases decoded
      | cons second others =>
          simp only at decoded
          split at decoded
          · rename_i continued
            simp only [isContinuation, Bool.and_eq_true, decide_eq_true_eq] at continued
            simp only [Option.some.injEq, Prod.mk.injEq] at decoded
            obtain ⟨rfl, rfl⟩ := decoded
            refine ⟨Or.inl (by omega), ?_, by simp⟩
            rw [encodeCode, if_neg (by omega), if_pos (by omega),
              byte_eq first _ (by omega), byte_eq second _ (by omega), List.take_succ_cons,
              List.take_zero]
          · cases decoded
    · split at decoded
      · rename_i lead
        match rest, decoded with
        | [], decoded => cases decoded
        | [_], decoded => cases decoded
        | second :: third :: others, decoded =>
            simp only at decoded
            split at decoded
            · rename_i continued
              simp only [isContinuation, Bool.and_eq_true, decide_eq_true_eq] at continued
              simp only [Option.some.injEq, Prod.mk.injEq] at decoded
              obtain ⟨rfl, rfl⟩ := decoded
              refine ⟨by unfold IsScalar; omega, ?_, by simp⟩
              rw [encodeCode, if_neg (by omega), if_neg (by omega), if_pos (by omega),
                byte_eq first _ (by omega), byte_eq second _ (by omega),
                byte_eq third _ (by omega), List.take_succ_cons, List.take_succ_cons,
                List.take_zero]
            · cases decoded
      · split at decoded
        · rename_i lead
          match rest, decoded with
          | [], decoded => cases decoded
          | [_], decoded => cases decoded
          | [_, _], decoded => cases decoded
          | second :: third :: fourth :: others, decoded =>
              simp only at decoded
              split at decoded
              · rename_i continued
                simp only [isContinuation, Bool.and_eq_true, decide_eq_true_eq] at continued
                simp only [Option.some.injEq, Prod.mk.injEq] at decoded
                obtain ⟨rfl, rfl⟩ := decoded
                refine ⟨by unfold IsScalar; omega, ?_, by simp⟩
                rw [encodeCode, if_neg (by omega), if_neg (by omega), if_neg (by omega),
                  byte_eq first _ (by omega), byte_eq second _ (by omega),
                  byte_eq third _ (by omega), byte_eq fourth _ (by omega), List.take_succ_cons,
                  List.take_succ_cons, List.take_succ_cons, List.take_zero]
              · cases decoded
        · cases decoded

/-! ### Code points as code units -/

theorem isScalar_of_not_surrogate (unit : CodeUnit) (plain : isSurrogate unit = false) :
    IsScalar unit.toNat := by
  have bound := unit.isLt
  simp only [isSurrogate, isHighSurrogate, isLowSurrogate, Bool.or_eq_false_iff,
    Bool.and_eq_false_iff, decide_eq_false_iff_not] at plain
  unfold IsScalar
  omega

theorem toChars_of_not_surrogate (unit : CodeUnit) : toChars unit.toNat = [unit] := by
  have bound := unit.isLt
  rw [toChars, if_pos bound, BitVec.ofNat_toNat, BitVec.setWidth_eq]

private theorem unit_eq (unit : CodeUnit) (value : Nat) (same : unit.toNat = value) :
    BitVec.ofNat 16 value = unit := by
  rw [← same, BitVec.ofNat_toNat, BitVec.setWidth_eq]

theorem toCodePoint_isScalar (high low : CodeUnit) (isHigh : isHighSurrogate high = true)
    (isLow : isLowSurrogate low = true) : IsScalar (toCodePoint high low) := by
  simp only [isHighSurrogate, isLowSurrogate, Bool.and_eq_true, decide_eq_true_eq] at isHigh isLow
  unfold IsScalar toCodePoint
  omega

theorem toChars_toCodePoint (high low : CodeUnit) (isHigh : isHighSurrogate high = true)
    (isLow : isLowSurrogate low = true) : toChars (toCodePoint high low) = [high, low] := by
  simp only [isHighSurrogate, isLowSurrogate, Bool.and_eq_true, decide_eq_true_eq] at isHigh isLow
  have highPart : high.toNat = 0xD800 + (toCodePoint high low - 0x10000) / 0x400 := by
    unfold toCodePoint
    omega
  have lowPart : low.toNat = 0xDC00 + (toCodePoint high low - 0x10000) % 0x400 := by
    unfold toCodePoint
    omega
  have outside : ¬ toCodePoint high low < 0x10000 := by
    unfold toCodePoint
    omega
  unfold toChars
  rw [if_neg outside, unit_eq high _ highPart, unit_eq low _ lowPart]

theorem wellFormed_cons_of_not_surrogate (unit : CodeUnit) (rest : JString)
    (plain : isSurrogate unit = false) : wellFormed (unit :: rest) = wellFormed rest := by
  simp only [isSurrogate, Bool.or_eq_false_iff] at plain
  rw [wellFormed.eq_def]
  simp [plain]

theorem encodeUtf8_cons_of_not_surrogate (unit : CodeUnit) (rest : JString)
    (plain : isSurrogate unit = false) :
    encodeUtf8 (unit :: rest) = encodeCode unit.toNat ++ encodeUtf8 rest := by
  have notHigh : isHighSurrogate unit = false := by
    simp only [isSurrogate, Bool.or_eq_false_iff] at plain
    exact plain.1
  have alone : lowAfter unit rest = none := by
    cases rest with
    | nil => rfl
    | cons next others => simp [lowAfter, notHigh]
  simp [encodeUtf8, encodeFrom, alone, plain]

theorem encodeUtf8_pair (high low : CodeUnit) (rest : JString)
    (isHigh : isHighSurrogate high = true) (isLow : isLowSurrogate low = true) :
    encodeUtf8 (high :: low :: rest) =
      encodeCode (toCodePoint high low) ++ encodeUtf8 rest := by
  simp [encodeUtf8, encodeFrom, lowAfter, isHigh, isLow]

theorem toChars_cases (code : Nat) (scalar : IsScalar code) :
    (∃ unit, toChars code = [unit] ∧ isSurrogate unit = false ∧ unit.toNat = code) ∨
      ∃ high low, toChars code = [high, low] ∧ isHighSurrogate high = true ∧
        isLowSurrogate low = true ∧ toCodePoint high low = code := by
  unfold IsScalar at scalar
  by_cases plane : code < 0x10000
  · left
    have value : (BitVec.ofNat 16 code).toNat = code := by simp; omega
    refine ⟨BitVec.ofNat 16 code, by rw [toChars, if_pos plane], ?_, value⟩
    simp only [isSurrogate, isHighSurrogate, isLowSurrogate, value, Bool.or_eq_false_iff,
      Bool.and_eq_false_iff, decide_eq_false_iff_not]
    omega
  · right
    have highValue : (BitVec.ofNat 16 (0xD800 + (code - 0x10000) / 0x400)).toNat =
        0xD800 + (code - 0x10000) / 0x400 := by simp; omega
    have lowValue : (BitVec.ofNat 16 (0xDC00 + (code - 0x10000) % 0x400)).toNat =
        0xDC00 + (code - 0x10000) % 0x400 := by simp; omega
    refine ⟨_, _, if_neg plane, ?_, ?_, ?_⟩
    · simp only [isHighSurrogate, highValue, Bool.and_eq_true, decide_eq_true_eq]
      omega
    · simp only [isLowSurrogate, lowValue, Bool.and_eq_true, decide_eq_true_eq]
      omega
    · unfold toCodePoint
      rw [highValue, lowValue]
      omega

theorem wellFormed_toChars_append (code : Nat) (rest : JString) (scalar : IsScalar code) :
    wellFormed (toChars code ++ rest) = wellFormed rest := by
  rcases toChars_cases code scalar with ⟨unit, chars, plain, _⟩ | ⟨high, low, chars, isHigh, isLow, _⟩
  · rw [chars]
    exact wellFormed_cons_of_not_surrogate unit rest plain
  · rw [chars]
    change wellFormed (high :: low :: rest) = wellFormed rest
    simp [wellFormed, isHigh, isLow]

theorem encodeUtf8_toChars_append (code : Nat) (rest : JString) (scalar : IsScalar code) :
    encodeUtf8 (toChars code ++ rest) = encodeCode code ++ encodeUtf8 rest := by
  rcases toChars_cases code scalar with
    ⟨unit, chars, plain, value⟩ | ⟨high, low, chars, isHigh, isLow, value⟩
  · rw [chars, ← value]
    exact encodeUtf8_cons_of_not_surrogate unit rest plain
  · rw [chars, ← value]
    exact encodeUtf8_pair high low rest isHigh isLow

/-! ### Whole strings -/

theorem decodeFrom_eq_drop (action : CodingErrorAction) (skip : Nat) (bytes : List Byte) :
    decodeFrom action skip bytes = decodeFrom action 0 (bytes.drop skip) := by
  induction bytes generalizing skip with
  | nil => simp [decodeFrom]
  | cons first rest ih =>
      cases skip with
      | zero => rfl
      | succ skip =>
          simp only [decodeFrom, List.drop_succ_cons]
          exact ih skip

theorem decodeUtf8_encodeCode_append (action : CodingErrorAction) (code : Nat)
    (rest : List Byte) (scalar : IsScalar code) :
    decodeUtf8 action (encodeCode code ++ rest) =
      (decodeUtf8 action rest).map (toChars code ++ ·) := by
  obtain ⟨first, others, encoded, decoded⟩ := encodeCode_decodes code scalar
  rw [encoded, List.cons_append]
  simp only [decodeUtf8, decodeFrom, decoded rest]
  rw [decodeFrom_eq_drop, List.drop_left]

/-- A string without unpaired surrogates survives the round trip. -/
theorem decodeUtf8_encodeUtf8 (action : CodingErrorAction) (string : JString)
    (formed : wellFormed string = true) :
    decodeUtf8 action (encodeUtf8 string) = some string := by
  fun_induction wellFormed string with
  | case1 => rfl
  | case2 unit isHigh => cases formed
  | case3 unit isHigh next others ih =>
      simp only [Bool.and_eq_true] at formed
      have scalar := toCodePoint_isScalar unit next isHigh formed.1
      rw [encodeUtf8_pair unit next others isHigh formed.1,
        decodeUtf8_encodeCode_append action _ _ scalar, ih formed.2,
        toChars_toCodePoint unit next isHigh formed.1]
      rfl
  | case4 unit rest notHigh ih =>
      simp only [Bool.and_eq_true, Bool.not_eq_true'] at formed
      have plain : isSurrogate unit = false := by
        simp [isSurrogate, notHigh, formed.1]
      have scalar := isScalar_of_not_surrogate unit plain
      rw [encodeUtf8_cons_of_not_surrogate unit _ plain,
        decodeUtf8_encodeCode_append action _ _ scalar, ih formed.2, toChars_of_not_surrogate]
      rfl

/-- Whatever the bytes, no decoded string holds an unpaired surrogate. -/
theorem decodeFrom_wellFormed (action : CodingErrorAction) (skip : Nat) (bytes : List Byte)
    (string : JString) (decoded : decodeFrom action skip bytes = some string) :
    wellFormed string = true := by
  induction bytes generalizing skip string with
  | nil =>
      cases decoded
      rfl
  | cons first rest ih =>
      cases skip with
      | succ skip => exact ih skip string decoded
      | zero =>
          simp only [decodeFrom] at decoded
          cases head : decodeHead first rest with
          | some found =>
              rcases found with ⟨code, skip⟩
              rw [head] at decoded
              obtain ⟨tail, tailDecoded, rfl⟩ := Option.map_eq_some_iff.mp decoded
              rw [wellFormed_toChars_append code tail (decodeHead_sound _ _ _ _ head).1]
              exact ih skip tail tailDecoded
          | none =>
              rw [head] at decoded
              cases action with
              | report => cases decoded
              | replace =>
                  obtain ⟨tail, tailDecoded, rfl⟩ := Option.map_eq_some_iff.mp decoded
                  rw [wellFormed_cons_of_not_surrogate _ _ (by decide)]
                  exact ih _ tail tailDecoded

/-- Bytes that decode without a replacement are the encoding of the string,
and the replacing decoder reads the same string. -/
theorem decodeFrom_report (skip : Nat) (bytes : List Byte) (string : JString)
    (decoded : decodeFrom .report skip bytes = some string) :
    encodeUtf8 string = bytes.drop skip ∧ decodeFrom .replace skip bytes = some string := by
  induction bytes generalizing skip string with
  | nil =>
      cases decoded
      exact ⟨by rw [List.drop_nil]; rfl, rfl⟩
  | cons first rest ih =>
      cases skip with
      | succ skip => exact ih skip string decoded
      | zero =>
          simp only [decodeFrom] at decoded ⊢
          cases head : decodeHead first rest with
          | none =>
              rw [head] at decoded
              cases decoded
          | some found =>
              rcases found with ⟨code, skip⟩
              rw [head] at decoded
              obtain ⟨tail, tailDecoded, rfl⟩ := Option.map_eq_some_iff.mp decoded
              obtain ⟨scalar, encoded, _⟩ := decodeHead_sound _ _ _ _ head
              obtain ⟨tailEncoded, replaced⟩ := ih skip tail tailDecoded
              constructor
              · rw [encodeUtf8_toChars_append code tail scalar, encoded, tailEncoded,
                  List.cons_append, List.take_append_drop, List.drop_zero]
              · simp only [replaced, Option.map_some]

theorem decodeUtf8_report (bytes : List Byte) (string : JString)
    (decoded : decodeUtf8 .report bytes = some string) :
    encodeUtf8 string = bytes ∧ decodeUtf8 .replace bytes = some string := by
  have result := decodeFrom_report 0 bytes string decoded
  rwa [List.drop_zero] at result

/-! ### Unicode texts -/

/-- A text as UTF-16. -/
def utf16 (characters : List Char) : JString :=
  characters.flatMap (fun character => toChars character.toNat)

/-- The text of a well-formed string. -/
def unicode : JString → List Char
  | [] => []
  | unit :: rest =>
      if isHighSurrogate unit then
        match rest with
        | [] => []
        | next :: others => Char.ofNat (toCodePoint unit next) :: unicode others
      else Char.ofNat unit.toNat :: unicode rest

theorem isScalar_toNat (character : Char) : IsScalar character.toNat := by
  have valid : character.toNat.isValidChar := character.valid
  unfold Nat.isValidChar at valid
  unfold IsScalar
  omega

theorem toNat_ofNat_of_isScalar {code : Nat} (scalar : IsScalar code) :
    (Char.ofNat code).toNat = code := by
  have valid : code.isValidChar := by
    unfold IsScalar at scalar
    unfold Nat.isValidChar
    omega
  have built : Char.ofNat code = Char.ofNatAux code valid := dif_pos valid
  rw [built]
  rfl

theorem wellFormed_utf16 (characters : List Char) : wellFormed (utf16 characters) = true := by
  induction characters with
  | nil => rfl
  | cons character rest ih =>
      rw [utf16, List.flatMap_cons, wellFormed_toChars_append _ _ (isScalar_toNat character)]
      exact ih

theorem utf16_unicode {string : JString} (formed : wellFormed string = true) :
    utf16 (unicode string) = string := by
  fun_induction wellFormed string with
  | case1 => rfl
  | case2 unit isHigh => cases formed
  | case3 unit isHigh next others ih =>
      simp only [Bool.and_eq_true] at formed
      have scalar := toCodePoint_isScalar unit next isHigh formed.1
      rw [unicode, if_pos isHigh, utf16, List.flatMap_cons, toNat_ofNat_of_isScalar scalar,
        toChars_toCodePoint unit next isHigh formed.1]
      exact congrArg (fun later => unit :: next :: later) (ih formed.2)
  | case4 unit rest notHigh ih =>
      simp only [Bool.and_eq_true, Bool.not_eq_true'] at formed
      have plain : isSurrogate unit = false := by
        simp [isSurrogate, notHigh, formed.1]
      have scalar := isScalar_of_not_surrogate unit plain
      rw [unicode.eq_def]
      simp only [notHigh, Bool.false_eq_true, if_false]
      rw [utf16, List.flatMap_cons, toNat_ofNat_of_isScalar scalar, toChars_of_not_surrogate]
      exact congrArg (fun later => unit :: later) (ih formed.2)

end Utf
end Kotlogramme
