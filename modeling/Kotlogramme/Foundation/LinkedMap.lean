/-
Insertion-ordered maps over entry lists.

An entry list denotes the map that `List.lookup` reads from it.  `put` keeps
the place of a key that is already there, as a linked hash map does, and
`associateBy` keeps the last of several items with one key.
-/

import Mathlib.Data.List.Basic

namespace Kotlogramme
namespace LinkedMap

variable {κ ν α : Type} [BEq κ]

/-- Sets the value of a key, in its old place when it has one. -/
def put : List (κ × ν) → κ → ν → List (κ × ν)
  | [], key, value => [(key, value)]
  | (other, held) :: rest, key, value =>
      if other == key then (key, value) :: rest else (other, held) :: put rest key value

def containsKey (entries : List (κ × ν)) (key : κ) : Bool := (entries.lookup key).isSome

def keys (entries : List (κ × ν)) : List κ := entries.map Prod.fst

theorem containsKey_of_lookup {entries : List (κ × ν)} {key : κ} {value : ν}
    (found : entries.lookup key = some value) : containsKey entries key = true := by
  rw [containsKey, found]
  rfl

theorem containsKey_eq_false_iff {entries : List (κ × ν)} {key : κ} :
    containsKey entries key = false ↔ entries.lookup key = none := by
  unfold containsKey
  cases entries.lookup key <;> simp

variable [LawfulBEq κ]

theorem lookup_cons (key other : κ) (held : ν) (rest : List (κ × ν)) :
    List.lookup key ((other, held) :: rest) =
      if other == key then some held else List.lookup key rest := by
  rw [List.lookup_cons, BEq.comm]
  cases other == key <;> rfl

@[simp] theorem lookup_put_self (entries : List (κ × ν)) (key : κ) (value : ν) :
    (put entries key value).lookup key = some value := by
  induction entries with
  | nil => simp [put]
  | cons entry rest ih =>
      rcases entry with ⟨other, held⟩
      by_cases same : (other == key) = true
      · simp [put, same]
      · rw [put, if_neg same, lookup_cons, if_neg same, ih]

theorem lookup_put_of_ne (entries : List (κ × ν)) {key sought : κ} (value : ν)
    (different : sought ≠ key) :
    (put entries key value).lookup sought = entries.lookup sought := by
  have apart : ¬ (key == sought) = true := fun same => different (eq_of_beq same).symm
  induction entries with
  | nil => rw [put, lookup_cons, if_neg apart]
  | cons entry rest ih =>
      rcases entry with ⟨other, held⟩
      by_cases same : (other == key) = true
      · have otherEq := eq_of_beq same
        subst otherEq
        rw [put, if_pos same, lookup_cons, lookup_cons, if_neg apart, if_neg apart]
      · rw [put, if_neg same, lookup_cons, lookup_cons, ih]

theorem mem_keys_iff (entries : List (κ × ν)) (key : κ) :
    key ∈ keys entries ↔ containsKey entries key = true := by
  unfold containsKey
  induction entries with
  | nil => simp [keys]
  | cons entry rest ih =>
      rcases entry with ⟨other, held⟩
      simp only [keys, List.map_cons, List.mem_cons] at ih ⊢
      rw [lookup_cons]
      by_cases same : (other == key) = true
      · simp [(eq_of_beq same).symm]
      · have different : ¬ key = other := fun equal => same (by simp [equal])
        rw [if_neg same]
        simp only [different, false_or]
        exact ih

/-- The last item with the given key. -/
def associateBy (keyOf : α → κ) (items : List α) (key : κ) : Option α :=
  items.reverse.find? fun item => keyOf item == key

theorem associateBy_some (keyOf : α → κ) (items : List α) (key : κ) (item : α)
    (found : associateBy keyOf items key = some item) : item ∈ items ∧ keyOf item = key := by
  unfold associateBy at found
  have member := List.mem_of_find?_eq_some found
  have keyed := List.find?_some found
  exact ⟨List.mem_reverse.mp member, eq_of_beq keyed⟩

/-- Where no two items share a key, the item with a key is found by it. -/
theorem associateBy_of_mem (keyOf : α → κ) (items : List α) (item : α) (member : item ∈ items)
    (unique : ∀ left ∈ items, ∀ right ∈ items, keyOf left = keyOf right → left = right) :
    associateBy keyOf items (keyOf item) = some item := by
  cases found : associateBy keyOf items (keyOf item) with
  | none =>
      have missing := List.find?_eq_none.mp found item (List.mem_reverse.mpr member)
      simp at missing
  | some other =>
      obtain ⟨otherMember, keyed⟩ := associateBy_some keyOf items (keyOf item) other found
      rw [unique other otherMember item member keyed]

end LinkedMap
end Kotlogramme
