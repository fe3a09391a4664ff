/-
The padded base64 of RFC 4648, over the bits of a list of bytes.

The bits are cut into groups of six, the last one filled up with zeros, and every
group stands for a character of the alphabet.  Filler makes the number of the
characters a multiple of four.
-/

import Kotlogramme.Foundation.LittleEndian
import Mathlib.Algebra.Group.Nat.Defs

namespace Kotlogramme

/-! ### Chunks -/

section Chunks

variable {α : Type} {size : Nat}

def chunksWithin (size : Nat) : Nat → List α → List (List α)
  | 0, _ => []
  | fuel + 1, items =>
      if items.isEmpty then [] else items.take size :: chunksWithin size fuel (items.drop size)

/-- The chunks of the given size, the last one of which may be shorter. -/
def chunks (size : Nat) (items : List α) : List (List α) := chunksWithin size items.length items

theorem chunksWithin_agree (positive : 0 < size) (fuel : Nat) :
    ∀ (other : Nat) (items : List α), items.length ≤ fuel → items.length ≤ other →
      chunksWithin size fuel items = chunksWithin size other items := by
  induction fuel with
  | zero =>
      intro other items enough otherEnough
      have none := List.length_eq_zero_iff.mp (Nat.le_zero.mp enough)
      subst none
      cases other <;> rfl
  | succ fuel ih =>
      intro other items enough otherEnough
      cases items with
      | nil => cases other <;> rfl
      | cons first rest =>
          cases other with
          | zero => cases otherEnough
          | succ other =>
              have shorter : ((first :: rest).drop size).length ≤ rest.length := by
                rw [List.length_drop, List.length_cons]
                omega
              rw [List.length_cons] at enough otherEnough
              have same := ih other ((first :: rest).drop size) (by omega) (by omega)
              simp only [chunksWithin, same]

theorem chunks_of_ne_nil {items : List α} (positive : 0 < size) (some : items ≠ []) :
    chunks size items = items.take size :: chunks size (items.drop size) := by
  cases items with
  | nil => exact absurd rfl some
  | cons first rest =>
      have shorter : ((first :: rest).drop size).length ≤ rest.length := by
        rw [List.length_drop, List.length_cons]
        omega
      have same := chunksWithin_agree positive rest.length _ _ shorter (Nat.le_refl _)
      simp only [chunks, List.length_cons, chunksWithin, same]
      rfl

theorem chunks_append (positive : 0 < size) (block rest : List α)
    (full : block.length = size) : chunks size (block ++ rest) = block :: chunks size rest := by
  have some : block ++ rest ≠ [] := by
    intro none
    rw [(List.append_eq_nil_iff.mp none).1] at full
    exact absurd full (Nat.ne_of_lt positive)
  rw [chunks_of_ne_nil positive some, ← full, List.take_left, List.drop_left]

theorem chunks_short {items : List α} (some : items ≠ []) (short : items.length ≤ size) :
    chunks size items = [items] := by
  have positive : 0 < size := Nat.lt_of_lt_of_le (List.length_pos_of_ne_nil some) short
  rw [chunks_of_ne_nil positive some, List.take_of_length_le short, List.drop_eq_nil_of_le short]
  rfl

theorem byThrees {motive : List α → Prop} (nil : motive []) (one : ∀ first, motive [first])
    (two : ∀ first second, motive [first, second])
    (three : ∀ first second third rest, motive rest →
      motive (first :: second :: third :: rest)) : ∀ items, motive items
  | [] => nil
  | [first] => one first
  | [first, second] => two first second
  | first :: second :: third :: rest =>
      three first second third rest (byThrees nil one two three rest)

end Chunks

namespace Rfc4648

def bits (bytes : List Byte) : List Bool :=
  bytes.flatMap fun byte => (List.range 8).map fun index => byte.getMsbD index

def number (bits : List Bool) : Nat := bits.foldl (fun high bit => 2 * high + bit.toNat) 0

def alphabet : List Byte :=
  "ABCDEFGHIJKLMNOPQRSTUVWXYZabcdefghijklmnopqrstuvwxyz0123456789+/".toList.map
    fun character => BitVec.ofNat 8 character.toNat

def symbol (value : Nat) : Byte := alphabet.getD value 0

def filler : Byte := 0x3d

/-! ### The alphabet, run by run -/

theorem symbol_upper {value : Nat} (inside : value < 26) :
    symbol value = BitVec.ofNat 8 (value + 0x41) := by
  have all : ∀ value : Fin 26, symbol value = BitVec.ofNat 8 (value + 0x41) := by decide +kernel
  exact all ⟨value, inside⟩

theorem symbol_lower {value : Nat} (inside : value < 26) :
    symbol (value + 26) = BitVec.ofNat 8 (value + 0x61) := by
  have all : ∀ value : Fin 26, symbol (value + 26) = BitVec.ofNat 8 (value + 0x61) := by
    decide +kernel
  exact all ⟨value, inside⟩

theorem symbol_digit {value : Nat} (inside : value < 10) :
    symbol (value + 52) = BitVec.ofNat 8 (value + 0x30) := by
  have all : ∀ value : Fin 10, symbol (value + 52) = BitVec.ofNat 8 (value + 0x30) := by
    decide +kernel
  exact all ⟨value, inside⟩

/-! ### The encoding -/

def group (six : List Bool) : Byte :=
  symbol (number (six ++ List.replicate (6 - six.length) false))

def characters (bytes : List Byte) : List Byte := (chunks 6 (bits bytes)).map group

def encode (bytes : List Byte) : List Byte :=
  characters bytes ++ List.replicate ((4 - (characters bytes).length % 4) % 4) filler

/-! ### The characters of three bytes -/

theorem bit_toNat (byte : Byte) (index : Nat) (inside : index < 8) :
    (byte.getMsbD index).toNat = byte.toNat / 2 ^ (7 - index) % 2 := by
  rw [BitVec.getMsbD_eq_getLsbD, decide_eq_true inside, Bool.true_and, BitVec.getLsbD,
    Nat.toNat_testBit]

theorem group_six (b0 b1 b2 b3 b4 b5 : Bool) :
    group [b0, b1, b2, b3, b4, b5] =
      symbol (32 * b0.toNat + 16 * b1.toNat + 8 * b2.toNat + 4 * b3.toNat + 2 * b4.toNat +
        b5.toNat) := by
  have value : number [b0, b1, b2, b3, b4, b5] = 32 * b0.toNat + 16 * b1.toNat + 8 * b2.toNat +
      4 * b3.toNat + 2 * b4.toNat + b5.toNat := by
    simp only [number, List.foldl_cons, List.foldl_nil]
    omega
  rw [← value]
  rfl

theorem groups_append (b0 b1 b2 b3 b4 b5 : Bool) (rest : List Bool) :
    (chunks 6 ([b0, b1, b2, b3, b4, b5] ++ rest)).map group =
      group [b0, b1, b2, b3, b4, b5] :: (chunks 6 rest).map group := by
  have cut : chunks 6 ([b0, b1, b2, b3, b4, b5] ++ rest) =
      [b0, b1, b2, b3, b4, b5] :: chunks 6 rest := chunks_append (by decide) _ rest rfl
  rw [cut, List.map_cons]

theorem groups_short {six : List Bool} (some : six ≠ []) (short : six.length ≤ 6) :
    (chunks 6 six).map group = [group six] := by
  rw [chunks_short some short, List.map_singleton]

section Groups

variable (first second third : Byte)

theorem group_first : group [first.getMsbD 0, first.getMsbD 1, first.getMsbD 2, first.getMsbD 3,
    first.getMsbD 4, first.getMsbD 5] = symbol (first.toNat / 4) := by
  rw [group_six]
  simp only [bit_toNat, Nat.reduceLT, Nat.reduceSub, Nat.reducePow]
  have bound := first.isLt
  congr 1
  omega

theorem group_second : group [first.getMsbD 6, first.getMsbD 7, second.getMsbD 0,
    second.getMsbD 1, second.getMsbD 2, second.getMsbD 3] =
      symbol (first.toNat % 4 * 16 + second.toNat / 16) := by
  rw [group_six]
  simp only [bit_toNat, Nat.reduceLT, Nat.reduceSub, Nat.reducePow]
  have bound := second.isLt
  congr 1
  omega

theorem group_third : group [second.getMsbD 4, second.getMsbD 5, second.getMsbD 6,
    second.getMsbD 7, third.getMsbD 0, third.getMsbD 1] =
      symbol (second.toNat % 16 * 4 + third.toNat / 64) := by
  rw [group_six]
  simp only [bit_toNat, Nat.reduceLT, Nat.reduceSub, Nat.reducePow]
  have bound := third.isLt
  congr 1
  omega

theorem group_fourth : group [third.getMsbD 2, third.getMsbD 3, third.getMsbD 4,
    third.getMsbD 5, third.getMsbD 6, third.getMsbD 7] = symbol (third.toNat % 64) := by
  rw [group_six]
  simp only [bit_toNat, Nat.reduceLT, Nat.reduceSub, Nat.reducePow]
  congr 1
  omega

theorem characters_three (rest : List Byte) :
    characters (first :: second :: third :: rest) =
      symbol (first.toNat / 4) :: symbol (first.toNat % 4 * 16 + second.toNat / 16) ::
        symbol (second.toNat % 16 * 4 + third.toNat / 64) :: symbol (third.toNat % 64) ::
          characters rest := by
  have split : bits (first :: second :: third :: rest) =
      [first.getMsbD 0, first.getMsbD 1, first.getMsbD 2, first.getMsbD 3, first.getMsbD 4,
        first.getMsbD 5] ++ ([first.getMsbD 6, first.getMsbD 7, second.getMsbD 0,
        second.getMsbD 1, second.getMsbD 2, second.getMsbD 3] ++ ([second.getMsbD 4,
        second.getMsbD 5, second.getMsbD 6, second.getMsbD 7, third.getMsbD 0,
        third.getMsbD 1] ++ ([third.getMsbD 2, third.getMsbD 3, third.getMsbD 4,
        third.getMsbD 5, third.getMsbD 6, third.getMsbD 7] ++ bits rest))) := rfl
  rw [characters, split, groups_append, groups_append, groups_append, groups_append,
    group_first, group_second, group_third, group_fourth]
  rfl

theorem characters_two : characters [first, second] =
    [symbol (first.toNat / 4), symbol (first.toNat % 4 * 16 + second.toNat / 16),
      symbol (second.toNat % 16 * 4)] := by
  have split : bits [first, second] =
      [first.getMsbD 0, first.getMsbD 1, first.getMsbD 2, first.getMsbD 3, first.getMsbD 4,
        first.getMsbD 5] ++ ([first.getMsbD 6, first.getMsbD 7, second.getMsbD 0,
        second.getMsbD 1, second.getMsbD 2, second.getMsbD 3] ++ [second.getMsbD 4,
        second.getMsbD 5, second.getMsbD 6, second.getMsbD 7]) := rfl
  have filled : group [second.getMsbD 4, second.getMsbD 5, second.getMsbD 6, second.getMsbD 7] =
      group [second.getMsbD 4, second.getMsbD 5, second.getMsbD 6, second.getMsbD 7,
        (0 : Byte).getMsbD 0, (0 : Byte).getMsbD 1] := rfl
  rw [characters, split, groups_append, groups_append,
    groups_short (List.cons_ne_nil _ _) (by simp), filled, group_first, group_second, group_third]
  rfl

theorem characters_one : characters [first] =
    [symbol (first.toNat / 4), symbol (first.toNat % 4 * 16)] := by
  have split : bits [first] =
      [first.getMsbD 0, first.getMsbD 1, first.getMsbD 2, first.getMsbD 3, first.getMsbD 4,
        first.getMsbD 5] ++ [first.getMsbD 6, first.getMsbD 7] := rfl
  have filled : group [first.getMsbD 6, first.getMsbD 7] =
      group [first.getMsbD 6, first.getMsbD 7, (0 : Byte).getMsbD 0, (0 : Byte).getMsbD 1,
        (0 : Byte).getMsbD 2, (0 : Byte).getMsbD 3] := rfl
  rw [characters, split, groups_append, groups_short (List.cons_ne_nil _ _) (by simp), filled,
    group_first, group_second]
  rfl

/-! ### The encoding, three bytes at a time -/

theorem encode_three (rest : List Byte) :
    encode (first :: second :: third :: rest) =
      symbol (first.toNat / 4) :: symbol (first.toNat % 4 * 16 + second.toNat / 16) ::
        symbol (second.toNat % 16 * 4 + third.toNat / 64) :: symbol (third.toNat % 64) ::
          encode rest := by
  have aligned (count : Nat) : (4 - (count + 1 + 1 + 1 + 1) % 4) % 4 = (4 - count % 4) % 4 := by
    omega
  simp only [encode, characters_three, List.length_cons, aligned, List.cons_append]

theorem encode_two : encode [first, second] =
    [symbol (first.toNat / 4), symbol (first.toNat % 4 * 16 + second.toNat / 16),
      symbol (second.toNat % 16 * 4), filler] := by
  rw [encode, characters_two]
  rfl

theorem encode_one : encode [first] =
    [symbol (first.toNat / 4), symbol (first.toNat % 4 * 16), filler, filler] := by
  rw [encode, characters_one]
  rfl

end Groups

end Rfc4648
end Kotlogramme
