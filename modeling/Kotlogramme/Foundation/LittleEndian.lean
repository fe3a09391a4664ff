/-
Little-endian words over lists of bytes.

A word of any width splits into as many bytes as it needs, the least
significant first, and a byte list joins back into a word.  Splitting into
enough bytes and joining again gives back the word.
-/

import Mathlib.Data.List.Range

namespace Kotlogramme

/-- An eight-bit unit of a wire format. -/
abbrev Byte := BitVec 8

namespace LittleEndian

/-- The `count` lowest bytes of a word, the least significant one first. -/
def split {width : Nat} (count : Nat) (word : BitVec width) : List Byte :=
  (List.range count).map fun index => (word >>> (8 * index)).setWidth 8

/-- The word whose bytes, the least significant one first, are given.  Bytes
above the width are cut off. -/
def join (width : Nat) : List Byte → BitVec width
  | [] => 0
  | byte :: rest => byte.setWidth width ||| (join width rest <<< 8)

@[simp] theorem split_length {width : Nat} (count : Nat) (word : BitVec width) :
    (split count word).length = count := by
  simp [split]

/-- Bit `index` of a joined word is bit `index % 8` of byte `index / 8`. -/
theorem getLsbD_join (width : Nat) (bytes : List Byte) (index : Nat) :
    (join width bytes).getLsbD index =
      (decide (index < width) && (bytes.getD (index / 8) 0).getLsbD (index % 8)) := by
  induction bytes generalizing index with
  | nil => simp [join]
  | cons byte rest ih =>
      simp only [join, BitVec.getLsbD_or, BitVec.getLsbD_setWidth, BitVec.getLsbD_shiftLeft]
      by_cases low : index < 8
      · have quotient : index / 8 = 0 := by omega
        have remainder : index % 8 = index := by omega
        simp [low, quotient, remainder]
      · have above : byte.getLsbD index = false :=
          BitVec.getLsbD_of_ge byte index (by omega)
        have quotient : index / 8 = (index - 8) / 8 + 1 := by omega
        have remainder : index % 8 = (index - 8) % 8 := by omega
        rw [above, ih, quotient, remainder, List.getD_cons_succ]
        by_cases inside : index < width
        · have earlier : index - 8 < width := by omega
          simp [low, inside, earlier]
        · simp [inside]

theorem join_split {width : Nat} (count : Nat) (word : BitVec width)
    (enough : width ≤ 8 * count) :
    join width (split count word) = word := by
  apply BitVec.eq_of_getLsbD_eq
  intro index inside
  rw [getLsbD_join]
  have position : index / 8 < count := by omega
  have bit : 8 * (index / 8) + index % 8 = index := by omega
  have small : index % 8 < 8 := Nat.mod_lt _ (by decide)
  have found : (split count word).getD (index / 8) 0 =
      (word >>> (8 * (index / 8))).setWidth 8 := by
    simp [split, List.getD_eq_getElem?_getD, position]
  rw [found]
  simp [BitVec.getLsbD_ushiftRight, inside, small, bit]

end LittleEndian
end Kotlogramme
