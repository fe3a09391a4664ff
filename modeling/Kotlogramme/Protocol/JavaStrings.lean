/-
How a Java string crosses into Rust.

Modified UTF-8 spells every code unit on its own, and the null character in two
bytes.  The strict decoder refuses a string with an unpaired surrogate; the whole
string is then decoded as if it were standard UTF-8, where neither a surrogate nor
that spelling of the null character is valid.  A Rust string is given by its code
units.
-/

import Kotlogramme.Foundation.Utf
import Mathlib.Algebra.Group.Nat.Defs

namespace Kotlogramme.Protocol

open Utf

namespace JavaStrings

def modifiedUtf8Unit (unit : CodeUnit) : List Byte :=
  if unit = 0 then [0xC0, 0x80] else encodeCode unit.toNat

/-- The bytes of `GetStringUTFChars`. -/
def modifiedUtf8 (string : JString) : List Byte := string.flatMap modifiedUtf8Unit

/-- The decoder of the cesu8 crate, by what it does with the bytes of a Java string. -/
structure Cesu8 where
  fromJavaCesu8 : List Byte → Option JString
  decodes : ∀ string, wellFormed string = true →
    fromJavaCesu8 (modifiedUtf8 string) = some string
  rejects : ∀ string, wellFormed string = false → fromJavaCesu8 (modifiedUtf8 string) = none

/-! ### The lossy decoder of the standard library -/

/-- Some well-formed sequence of three or four bytes starts with these two. -/
def isSequenceStart (first second : Byte) : Bool :=
  (first == 0xE0 && decide (0xA0 ≤ second.toNat ∧ second.toNat ≤ 0xBF)) ||
    (decide (0xE1 ≤ first.toNat ∧ first.toNat ≤ 0xEC) && isContinuation second) ||
    (first == 0xED && decide (0x80 ≤ second.toNat ∧ second.toNat ≤ 0x9F)) ||
    (decide (0xEE ≤ first.toNat ∧ first.toNat ≤ 0xEF) && isContinuation second) ||
    (first == 0xF0 && decide (0x90 ≤ second.toNat ∧ second.toNat ≤ 0xBF)) ||
    (decide (0xF1 ≤ first.toNat ∧ first.toNat ≤ 0xF3) && isContinuation second) ||
    (first == 0xF4 && decide (0x80 ≤ second.toNat ∧ second.toNat ≤ 0x8F))

/-- How many bytes after the first one an invalid chunk takes with it. -/
def invalidLength (first : Byte) : List Byte → Nat
  | [] => 0
  | second :: others =>
      if !isSequenceStart first second then 0
      else match others with
        | [] => 1
        | third :: _ => if isContinuation third && decide (0xF0 ≤ first.toNat) then 2 else 1

def lossyFrom : Nat → List Byte → JString
  | _, [] => []
  | skip + 1, _ :: rest => lossyFrom skip rest
  | 0, first :: rest =>
      match decodeHead first rest with
      | some (code, skip) => toChars code ++ lossyFrom skip rest
      | none => 0xFFFD :: lossyFrom (invalidLength first rest) rest

/-- `String::from_utf8_lossy`. -/
def fromUtf8Lossy (bytes : List Byte) : JString := lossyFrom 0 bytes

def decodeJavaString (cesu8 : Cesu8) (bytes : List Byte) : JString :=
  match cesu8.fromJavaCesu8 bytes with
  | some value => value
  | none => fromUtf8Lossy bytes

/-! ### What arrives -/

/-- Only unpaired surrogates are replaced. -/
inductive Intact : JString → JString → Prop
  | nil : Intact [] []
  | plain {unit : CodeUnit} {rest result : JString} (plain : isSurrogate unit = false)
      (later : Intact rest result) : Intact (unit :: rest) (unit :: result)
  | pair {high low : CodeUnit} {rest result : JString} (isHigh : isHighSurrogate high = true)
      (isLow : isLowSurrogate low = true) (later : Intact rest result) :
      Intact (high :: low :: rest) (high :: low :: result)
  | replaced {unit : CodeUnit} {rest result : JString} {marks : Nat}
      (surrogate : isSurrogate unit = true) (unpaired : lowAfter unit rest = none)
      (marked : 0 < marks) (later : Intact rest result) :
      Intact (unit :: rest) (List.replicate marks 0xFFFD ++ result)

def hasPair : JString → Bool
  | [] => false
  | unit :: rest => (lowAfter unit rest).isSome || hasPair rest

theorem intact_self {string : JString} (formed : wellFormed string = true) :
    Intact string string := by
  fun_induction wellFormed string with
  | case1 => exact .nil
  | case2 unit isHigh => cases formed
  | case3 unit isHigh next others ih =>
      simp only [Bool.and_eq_true] at formed
      exact .pair isHigh formed.1 (ih formed.2)
  | case4 unit rest notHigh ih =>
      simp only [Bool.and_eq_true, Bool.not_eq_true'] at formed
      have plain : isSurrogate unit = false := by
        simp [isSurrogate, notHigh, formed.1]
      exact .plain plain (ih formed.2)

theorem Intact.nul_mem {string result : JString} (intact : Intact string result) :
    0 ∈ string → 0 ∈ result := by
  induction intact with
  | nil => exact id
  | plain plain later ih =>
      intro member
      rcases List.mem_cons.mp member with own | other
      · exact List.mem_cons.mpr (.inl own)
      · exact List.mem_cons_of_mem _ (ih other)
  | pair isHigh isLow later ih =>
      intro member
      rcases List.mem_cons.mp member with own | member
      · exact List.mem_cons.mpr (.inl own)
      · rcases List.mem_cons.mp member with own | other
        · exact List.mem_cons_of_mem _ (List.mem_cons.mpr (.inl own))
        · exact List.mem_cons_of_mem _ (List.mem_cons_of_mem _ (ih other))
  | replaced surrogate unpaired marked later ih =>
      intro member
      rcases List.mem_cons.mp member with own | other
      · rw [← own] at surrogate
        exact absurd surrogate (by decide)
      · exact List.mem_append_right _ (ih other)

theorem Intact.surrogate_mem {string result : JString} (intact : Intact string result) :
    hasPair string = true → ∃ unit ∈ result, isSurrogate unit = true := by
  induction intact with
  | nil =>
      intro pair
      cases pair
  | @plain unit rest result plain later ih =>
      intro pair
      have unpaired : lowAfter unit rest = none := by
        simp only [isSurrogate, Bool.or_eq_false_iff] at plain
        cases rest with
        | nil => rfl
        | cons next others => simp [lowAfter, plain.1]
      rw [hasPair, unpaired] at pair
      obtain ⟨found, member, surrogate⟩ := ih pair
      exact ⟨found, List.mem_cons_of_mem _ member, surrogate⟩
  | @pair high low rest result isHigh isLow later ih =>
      intro pair
      exact ⟨high, List.mem_cons_self, by simp [isSurrogate, isHigh]⟩
  | @replaced unit rest result marks surrogate unpaired marked later ih =>
      intro pair
      rw [hasPair, unpaired] at pair
      obtain ⟨found, member, surrogate⟩ := ih pair
      exact ⟨found, List.mem_append_right _ member, surrogate⟩

/-! ### The fallback, unit by unit -/

/-- What the lossy decoder makes of the bytes of a unit. -/
def lossyUnit (unit : CodeUnit) : JString :=
  if unit = 0 then [0xFFFD, 0xFFFD]
  else if isSurrogate unit then [0xFFFD, 0xFFFD, 0xFFFD]
  else [unit]

theorem lossyFrom_eq_drop (skip : Nat) (bytes : List Byte) :
    lossyFrom skip bytes = lossyFrom 0 (bytes.drop skip) := by
  induction bytes generalizing skip with
  | nil => cases skip <;> rfl
  | cons first rest ih =>
      cases skip with
      | zero => rfl
      | succ skip =>
          rw [lossyFrom, List.drop_succ_cons]
          exact ih skip

theorem fromUtf8Lossy_encodeCode_append {code : Nat} (scalar : IsScalar code) (rest : List Byte) :
    fromUtf8Lossy (encodeCode code ++ rest) = toChars code ++ fromUtf8Lossy rest := by
  obtain ⟨first, others, encoded, decoded⟩ := encodeCode_decodes code scalar
  rw [encoded, List.cons_append]
  simp only [fromUtf8Lossy, lossyFrom, decoded rest]
  rw [lossyFrom_eq_drop, List.drop_left]

/-- A byte that starts no sequence is replaced alone. -/
theorem fromUtf8Lossy_cons_of_none {first : Byte} {rest : List Byte}
    (none : decodeHead first rest = none) (alone : invalidLength first rest = 0) :
    fromUtf8Lossy (first :: rest) = 0xFFFD :: fromUtf8Lossy rest := by
  simp only [fromUtf8Lossy, lossyFrom, none, alone]

/-- A continuation byte or `C0`, wherever a sequence should start. -/
theorem fromUtf8Lossy_stray_append {first : Byte} (stray : 0x80 ≤ first.toNat ∧ first.toNat < 0xC2)
    (rest : List Byte) : fromUtf8Lossy (first :: rest) = 0xFFFD :: fromUtf8Lossy rest := by
  apply fromUtf8Lossy_cons_of_none
  · unfold decodeHead
    rw [if_neg (by omega), if_neg (by omega), if_neg (by omega), if_neg (by omega)]
  · cases rest with
    | nil => rfl
    | cons second others =>
        have notStart : isSequenceStart first second = false := by
          have differ (lead : Byte) (above : 0xC2 ≤ lead.toNat) : (first == lead) = false := by
            rw [beq_eq_false_iff_ne]
            intro same
            rw [same] at stray
            omega
          simp only [isSequenceStart, differ _ (by decide : 0xC2 ≤ (0xE0 : Byte).toNat),
            differ _ (by decide : 0xC2 ≤ (0xED : Byte).toNat),
            differ _ (by decide : 0xC2 ≤ (0xF0 : Byte).toNat),
            differ _ (by decide : 0xC2 ≤ (0xF4 : Byte).toNat)]
          simp
          omega
        simp [invalidLength, notStart]

theorem fromUtf8Lossy_nul_append (rest : List Byte) :
    fromUtf8Lossy ([0xC0, 0x80] ++ rest) = [0xFFFD, 0xFFFD] ++ fromUtf8Lossy rest := by
  rw [List.cons_append, List.cons_append, List.nil_append,
    fromUtf8Lossy_stray_append (by decide), fromUtf8Lossy_stray_append (by decide)]
  rfl

/-- Each of the three bytes of a surrogate is replaced alone. -/
theorem fromUtf8Lossy_surrogate_append {unit : CodeUnit} (surrogate : isSurrogate unit = true)
    (rest : List Byte) : fromUtf8Lossy (encodeCode unit.toNat ++ rest) =
      [0xFFFD, 0xFFFD, 0xFFFD] ++ fromUtf8Lossy rest := by
  simp only [isSurrogate, isHighSurrogate, isLowSurrogate, Bool.or_eq_true, Bool.and_eq_true,
    decide_eq_true_eq] at surrogate
  have spread : encodeCode unit.toNat = [0xED, BitVec.ofNat 8 (0x80 + unit.toNat / 0x40 % 0x40),
      BitVec.ofNat 8 (0x80 + unit.toNat % 0x40)] := by
    have lead : 0xE0 + unit.toNat / 0x1000 = 0xED := by omega
    rw [encodeCode, if_neg (by omega), if_neg (by omega), if_pos (by omega), lead]
    rfl
  have secondValue : (BitVec.ofNat 8 (0x80 + unit.toNat / 0x40 % 0x40)).toNat =
      0x80 + unit.toNat / 0x40 % 0x40 := by
    rw [BitVec.toNat_ofNat]
    omega
  have thirdValue : (BitVec.ofNat 8 (0x80 + unit.toNat % 0x40)).toNat =
      0x80 + unit.toNat % 0x40 := by
    rw [BitVec.toNat_ofNat]
    omega
  rw [spread, List.cons_append, List.cons_append, List.cons_append, List.nil_append,
    fromUtf8Lossy_cons_of_none, fromUtf8Lossy_stray_append (by omega),
    fromUtf8Lossy_stray_append (by omega)]
  · rfl
  · have code : (0xED - 0xE0) * 0x1000 + (0x80 + unit.toNat / 0x40 % 0x40 - 0x80) * 0x40 +
        (0x80 + unit.toNat % 0x40 - 0x80) = unit.toNat := by omega
    have lead : (0xED : Byte).toNat = 0xED := rfl
    have refused : ¬ (unit.toNat < 0xD800 ∨ 0xE000 ≤ unit.toNat) := by omega
    simp only [decodeHead, lead, secondValue, thirdValue, code, decide_eq_false refused,
      Bool.and_false]
    rfl
  · have late : ¬ 0x80 + unit.toNat / 0x40 % 0x40 ≤ 0x9F := by omega
    have notStart : isSequenceStart 0xED (BitVec.ofNat 8 (0x80 + unit.toNat / 0x40 % 0x40)) =
        false := by
      simp [isSequenceStart, secondValue]
      omega
    simp only [invalidLength, notStart]
    rfl

theorem fromUtf8Lossy_unit_append (unit : CodeUnit) (rest : List Byte) :
    fromUtf8Lossy (modifiedUtf8Unit unit ++ rest) = lossyUnit unit ++ fromUtf8Lossy rest := by
  unfold modifiedUtf8Unit lossyUnit
  by_cases nul : unit = 0
  · rw [if_pos nul, if_pos nul]
    exact fromUtf8Lossy_nul_append rest
  · rw [if_neg nul, if_neg nul]
    cases surrogate : isSurrogate unit with
    | true =>
        rw [if_pos rfl]
        exact fromUtf8Lossy_surrogate_append surrogate rest
    | false =>
        rw [if_neg Bool.false_ne_true, ← toChars_of_not_surrogate unit]
        exact fromUtf8Lossy_encodeCode_append (isScalar_of_not_surrogate unit surrogate) rest

theorem fromUtf8Lossy_modifiedUtf8 (string : JString) :
    fromUtf8Lossy (modifiedUtf8 string) = string.flatMap lossyUnit := by
  induction string with
  | nil => rfl
  | cons unit rest ih =>
      have spread : modifiedUtf8 (unit :: rest) = modifiedUtf8Unit unit ++ modifiedUtf8 rest := rfl
      rw [spread, fromUtf8Lossy_unit_append, ih, List.flatMap_cons]

/-- What is decoded of a string, whole or as a part of one; `whole` says that the strict
decoder takes all of it. -/
def decoded (whole : Bool) (string : JString) : JString :=
  if whole then string else string.flatMap lossyUnit

theorem decoded_append (whole : Bool) (first second : JString) :
    decoded whole (first ++ second) = decoded whole first ++ decoded whole second := by
  cases whole with
  | true => rfl
  | false => exact List.flatMap_append

theorem decodeJavaString_modifiedUtf8 (cesu8 : Cesu8) (string : JString) :
    decodeJavaString cesu8 (modifiedUtf8 string) = decoded (wellFormed string) string := by
  cases formed : wellFormed string with
  | true =>
      rw [decodeJavaString, cesu8.decodes string formed]
      rfl
  | false =>
      rw [decodeJavaString, cesu8.rejects string formed]
      exact fromUtf8Lossy_modifiedUtf8 string

/-- No null character and no surrogate comes out of the fallback. -/
theorem lossyUnit_plain (unit : CodeUnit) : 0 ∉ lossyUnit unit ∧
    ∀ found ∈ lossyUnit unit, isSurrogate found = false := by
  have mark : isSurrogate 0xFFFD = false := by decide
  unfold lossyUnit
  by_cases nul : unit = 0
  · rw [if_pos nul]
    exact ⟨by simp, by simpa using mark⟩
  · rw [if_neg nul]
    cases surrogate : isSurrogate unit with
    | true =>
        rw [if_pos rfl]
        exact ⟨by simp, by simpa using mark⟩
    | false =>
        rw [if_neg Bool.false_ne_true]
        exact ⟨by simpa using Ne.symm nul, by simpa using surrogate⟩

theorem intact_fallback {string : JString} (noNul : 0 ∉ string) (noPair : hasPair string = false) :
    Intact string (string.flatMap lossyUnit) := by
  induction string with
  | nil => exact .nil
  | cons unit rest ih =>
      rw [hasPair, Bool.or_eq_false_iff] at noPair
      have later := ih (fun member => noNul (List.mem_cons_of_mem _ member)) noPair.2
      have notNul : ¬ unit = 0 := fun nul => noNul (nul ▸ List.mem_cons_self)
      rw [List.flatMap_cons, lossyUnit, if_neg notNul]
      cases surrogate : isSurrogate unit with
      | true =>
          rw [if_pos rfl]
          have missing := Option.isNone_iff_eq_none.mp (Option.isSome_eq_false_iff.mp noPair.1)
          exact .replaced surrogate missing (by decide : 0 < 3) later
      | false =>
          rw [if_neg Bool.false_ne_true]
          exact .plain surrogate later

/-- A Java string arrives intact exactly if the strict decoder takes it, or if nothing in
it but unpaired surrogates is spelled otherwise than in standard UTF-8. -/
theorem arrives_intact_iff (cesu8 : Cesu8) (string : JString) :
    Intact string (decodeJavaString cesu8 (modifiedUtf8 string)) ↔
      wellFormed string = true ∨ (0 ∉ string ∧ hasPair string = false) := by
  rw [decodeJavaString_modifiedUtf8]
  cases formed : wellFormed string with
  | true => exact iff_of_true (intact_self formed) (.inl rfl)
  | false =>
      rw [decoded, if_neg Bool.false_ne_true]
      constructor
      · intro intact
        refine .inr ⟨?_, ?_⟩
        · intro member
          obtain ⟨unit, -, found⟩ := List.mem_flatMap.mp (intact.nul_mem member)
          exact (lossyUnit_plain unit).1 found
        · rw [Bool.eq_false_iff]
          intro pair
          obtain ⟨found, member, surrogate⟩ := intact.surrogate_mem pair
          obtain ⟨unit, -, inUnit⟩ := List.mem_flatMap.mp member
          rw [(lossyUnit_plain unit).2 found inUnit] at surrogate
          cases surrogate
      · intro met
        rcases met with impossible | ⟨noNul, noPair⟩
        · cases impossible
        · exact intact_fallback noNul noPair

/-! ### A strict decoder -/

def decodeUnit (first : Byte) (rest : List Byte) : Option (CodeUnit × Nat) :=
  if first.toNat < 0x80 then some (BitVec.ofNat 16 first.toNat, 0)
  else if 0xC0 ≤ first.toNat ∧ first.toNat < 0xE0 then
    match rest with
    | second :: _ =>
        if isContinuation second then
          some (BitVec.ofNat 16 ((first.toNat - 0xC0) * 0x40 + (second.toNat - 0x80)), 1)
        else none
    | [] => none
  else if 0xE0 ≤ first.toNat ∧ first.toNat < 0xF0 then
    match rest with
    | second :: third :: _ =>
        if isContinuation second && isContinuation third then
          some (BitVec.ofNat 16 ((first.toNat - 0xE0) * 0x1000 + (second.toNat - 0x80) * 0x40 +
            (third.toNat - 0x80)), 2)
        else none
    | _ => none
  else none

def unitsFrom : Nat → List Byte → Option JString
  | _, [] => some []
  | skip + 1, _ :: rest => unitsFrom skip rest
  | 0, first :: rest =>
      match decodeUnit first rest with
      | some (unit, skip) => (unitsFrom skip rest).map (unit :: ·)
      | none => none

theorem modifiedUtf8Unit_decodes (unit : CodeUnit) :
    ∃ first others, modifiedUtf8Unit unit = first :: others ∧
      ∀ rest, decodeUnit first (others ++ rest) = some (unit, others.length) := by
  have whole : BitVec.ofNat 16 unit.toNat = unit := by
    rw [BitVec.ofNat_toNat, BitVec.setWidth_eq]
  have bound := unit.isLt
  unfold modifiedUtf8Unit
  by_cases nul : unit = 0
  · exact ⟨0xC0, [0x80], if_pos nul, fun rest => by rw [nul]; rfl⟩
  · rw [if_neg nul, encodeCode]
    by_cases one : unit.toNat < 0x80
    · refine ⟨BitVec.ofNat 8 unit.toNat, [], if_pos one, fun rest => ?_⟩
      have firstValue : (BitVec.ofNat 8 unit.toNat).toNat = unit.toNat := by
        rw [BitVec.toNat_ofNat]
        omega
      simp only [decodeUnit, firstValue, if_pos one, whole]
      rfl
    · by_cases two : unit.toNat < 0x800
      · refine ⟨_, _, by rw [if_neg one, if_pos two], fun rest => ?_⟩
        have firstValue : (BitVec.ofNat 8 (0xC0 + unit.toNat / 0x40)).toNat =
            0xC0 + unit.toNat / 0x40 := by simp; omega
        have secondValue : (BitVec.ofNat 8 (0x80 + unit.toNat % 0x40)).toNat =
            0x80 + unit.toNat % 0x40 := by simp; omega
        have code : (0xC0 + unit.toNat / 0x40 - 0xC0) * 0x40 +
            (0x80 + unit.toNat % 0x40 - 0x80) = unit.toNat := by omega
        simp only [decodeUnit, firstValue, secondValue, isContinuation, List.cons_append, code,
          whole]
        rw [if_neg (by omega), if_pos (by omega), if_pos (by simp; omega)]
        rfl
      · refine ⟨_, _, by rw [if_neg one, if_neg two, if_pos bound], fun rest => ?_⟩
        have firstValue : (BitVec.ofNat 8 (0xE0 + unit.toNat / 0x1000)).toNat =
            0xE0 + unit.toNat / 0x1000 := by simp; omega
        have secondValue : (BitVec.ofNat 8 (0x80 + unit.toNat / 0x40 % 0x40)).toNat =
            0x80 + unit.toNat / 0x40 % 0x40 := by simp; omega
        have thirdValue : (BitVec.ofNat 8 (0x80 + unit.toNat % 0x40)).toNat =
            0x80 + unit.toNat % 0x40 := by simp; omega
        have code : (0xE0 + unit.toNat / 0x1000 - 0xE0) * 0x1000 +
            (0x80 + unit.toNat / 0x40 % 0x40 - 0x80) * 0x40 +
              (0x80 + unit.toNat % 0x40 - 0x80) = unit.toNat := by omega
        simp only [decodeUnit, firstValue, secondValue, thirdValue, isContinuation,
          List.cons_append, code, whole]
        rw [if_neg (by omega), if_neg (by omega), if_pos (by omega), if_pos (by simp; omega)]
        rfl

theorem unitsFrom_eq_drop (skip : Nat) (bytes : List Byte) :
    unitsFrom skip bytes = unitsFrom 0 (bytes.drop skip) := by
  induction bytes generalizing skip with
  | nil => cases skip <;> rfl
  | cons first rest ih =>
      cases skip with
      | zero => rfl
      | succ skip =>
          rw [unitsFrom, List.drop_succ_cons]
          exact ih skip

theorem unitsFrom_modifiedUtf8 (string : JString) :
    unitsFrom 0 (modifiedUtf8 string) = some string := by
  induction string with
  | nil => rfl
  | cons unit rest ih =>
      obtain ⟨first, others, encoded, decoded⟩ := modifiedUtf8Unit_decodes unit
      have spread : modifiedUtf8 (unit :: rest) = first :: (others ++ modifiedUtf8 rest) := by
        rw [modifiedUtf8, List.flatMap_cons, encoded]
        rfl
      rw [spread, unitsFrom, decoded]
      dsimp only
      rw [unitsFrom_eq_drop, List.drop_left, ih]
      rfl

def strictCesu8 : Cesu8 where
  fromJavaCesu8 bytes := (unitsFrom 0 bytes).filter wellFormed
  decodes := by
    intro string formed
    rw [unitsFrom_modifiedUtf8, Option.filter_some, if_pos formed]
  rejects := by
    intro string formed
    rw [unitsFrom_modifiedUtf8, Option.filter_some, formed, if_neg Bool.false_ne_true]

/-- An emoji and half of another one. -/
def halfEmoji : JString := [0xD83D, 0xDE00, 0xD83D]

theorem arrives_intact_iff_halfEmoji :
    Intact halfEmoji (decodeJavaString strictCesu8 (modifiedUtf8 halfEmoji)) ↔
      wellFormed halfEmoji = true ∨ (0 ∉ halfEmoji ∧ hasPair halfEmoji = false) :=
  arrives_intact_iff strictCesu8 halfEmoji

/-- Nine marks arrive, six of them for the whole emoji. -/
theorem halfEmoji_replaced :
    decodeJavaString strictCesu8 (modifiedUtf8 halfEmoji) = List.replicate 9 0xFFFD ∧
      ¬ Intact halfEmoji (decodeJavaString strictCesu8 (modifiedUtf8 halfEmoji)) := by
  have marks : decodeJavaString strictCesu8 (modifiedUtf8 halfEmoji) =
      List.replicate 9 0xFFFD := by decide
  refine ⟨marks, ?_⟩
  intro intact
  obtain ⟨unit, member, surrogate⟩ := intact.surrogate_mem (by decide)
  rw [marks] at member
  rw [List.eq_of_mem_replicate member] at surrogate
  exact absurd surrogate (by decide)

end JavaStrings
end Kotlogramme.Protocol
