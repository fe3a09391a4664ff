/-
Lists whose items are named by their place.

Items are added at the end and replaced where they are, so a place that is taken
stays taken.
-/

import Mathlib.Data.List.Basic

namespace Kotlogramme
namespace Places

variable {α : Type} {items : List α} {place index : Nat} {item last old new : α}

theorem concat_cases (found : (items ++ [last])[place]? = some item) :
    items[place]? = some item ∨ (place = items.length ∧ item = last) := by
  have within := (List.getElem?_eq_some_iff.mp found).1
  rw [List.length_append, List.length_singleton] at within
  by_cases earlier : place < items.length
  · rw [List.getElem?_append_left earlier] at found
    exact .inl found
  · obtain rfl : place = items.length := by omega
    rw [List.getElem?_concat_length] at found
    exact .inr ⟨rfl, (Option.some.inj found).symm⟩

theorem found_append (found : items[place]? = some item) (more : List α) :
    (items ++ more)[place]? = some item := by
  rw [List.getElem?_append_left (List.getElem?_eq_some_iff.mp found).1]
  exact found

theorem set_cases (found : (items.set index new)[place]? = some item) :
    (place = index ∧ item = new) ∨ (place ≠ index ∧ items[place]? = some item) := by
  have within := (List.getElem?_eq_some_iff.mp found).1
  rw [List.length_set] at within
  by_cases same : place = index
  · subst same
    rw [List.getElem?_set_self within] at found
    exact .inl ⟨rfl, (Option.some.inj found).symm⟩
  · rw [List.getElem?_set_ne (Ne.symm same)] at found
    exact .inr ⟨same, found⟩

theorem found_set_self (found : items[index]? = some old) (new : α) :
    (items.set index new)[index]? = some new :=
  List.getElem?_set_self (List.getElem?_eq_some_iff.mp found).1

theorem found_set_of_ne (found : items[place]? = some item) (apart : place ≠ index) (new : α) :
    (items.set index new)[place]? = some item :=
  (List.getElem?_set_ne (Ne.symm apart)).trans found

theorem forall_mem_set {fine : α → Prop} (all : ∀ item ∈ items, fine item) (also : fine new)
    (place : Nat) : ∀ item ∈ items.set place new, fine item := by
  intro item member
  rcases List.mem_or_eq_of_mem_set member with held | rfl
  · exact all item held
  · exact also

end Places
end Kotlogramme
