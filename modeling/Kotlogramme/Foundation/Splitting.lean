/-
Lists split where a pattern first occurs, and where a run of items ends.
-/

import Mathlib.Data.List.DropRight
import Mathlib.Data.Nat.Find

namespace Kotlogramme
namespace Splitting

variable {α : Type}

/-! ### The first occurrence of a pattern -/

section Occurrence

variable {pattern text before after : List α}

structure FirstAt (pattern text before after : List α) : Prop where
  split : text = before ++ (pattern ++ after)
  first : ∀ early late, text = early ++ (pattern ++ late) → before.length ≤ early.length

theorem FirstAt.unique {other later : List α} (first : FirstAt pattern text before after)
    (second : FirstAt pattern text other later) : before = other ∧ after = later := by
  have length : before.length = other.length :=
    Nat.le_antisymm (first.first other later second.split) (second.first before after first.split)
  have whole := first.split.symm.trans second.split
  obtain ⟨same, rest⟩ := List.append_inj whole length
  exact ⟨same, List.append_cancel_left rest⟩

theorem FirstAt.occurs (first : FirstAt pattern text before after) : pattern <:+: text :=
  ⟨before, after, by rw [first.split, List.append_assoc]⟩

/-- An occurrence that is not later than the first one is the first one. -/
theorem FirstAt.eq_of_le {early late : List α} (first : FirstAt pattern text before after)
    (split : text = early ++ (pattern ++ late)) (least : early.length ≤ before.length) :
    before = early ∧ after = late :=
  first.unique ⟨split, fun other later whole => Nat.le_trans least (first.first other later whole)⟩

theorem exists_firstAt (occurs : pattern <:+: text) :
    ∃ before after, FirstAt pattern text before after := by
  classical
  have somewhere : ∃ place, ∃ early late,
      text = early ++ (pattern ++ late) ∧ early.length = place := by
    obtain ⟨early, late, whole⟩ := occurs
    exact ⟨early.length, early, late, by rw [← whole, List.append_assoc], rfl⟩
  obtain ⟨before, after, split, place⟩ := Nat.find_spec somewhere
  refine ⟨before, after, split, ?_⟩
  intro early late whole
  rw [place]
  exact Nat.find_min' somewhere ⟨early, late, whole, rfl⟩

/-- Nothing before the pattern has its first item. -/
theorem firstAt_of_not_mem {item : α} (absent : item ∉ before) :
    FirstAt (item :: pattern) (before ++ (item :: pattern ++ after)) before after where
  split := rfl
  first := by
    intro early late whole
    by_contra shorter
    have inside : early.length < before.length := Nat.not_le.mp shorter
    have left : (before ++ (item :: pattern ++ after))[early.length]? = some item := by
      rw [whole, List.getElem?_append_right (Nat.le_refl _), Nat.sub_self]
      rfl
    rw [List.getElem?_append_left inside] at left
    exact absent (List.mem_of_getElem? left)

theorem FirstAt.not_mem {item : α} (first : FirstAt [item] text before after) : item ∉ before := by
  intro member
  obtain ⟨early, late, split⟩ := List.append_of_mem member
  have whole : text = early ++ ([item] ++ (late ++ ([item] ++ after))) := by
    rw [first.split, split, List.append_assoc]
    rfl
  have earliest := first.first early _ whole
  rw [split, List.length_append, List.length_cons] at earliest
  omega

variable [DecidableEq α]

/-- What stands before the first occurrence of the pattern, and after it. -/
def splitOnce (pattern text : List α) : Option (List α × List α) := text.dropInfix? pattern

theorem splitOnce_eq_some :
    splitOnce pattern text = some (before, after) ↔ FirstAt pattern text before after := by
  rw [splitOnce, List.dropInfix?_eq_some_iff]
  simp only [beq_iff_eq, exists_eq_right, List.append_assoc]
  constructor
  · intro found
    obtain ⟨split, first⟩ := found
    exact ⟨split, fun early late whole => first early pattern late whole rfl⟩
  · intro first
    refine ⟨first.split, ?_⟩
    intro early same late whole equal
    rw [equal] at whole
    exact first.first early late whole

theorem splitOnce_eq_none : splitOnce pattern text = none ↔ ¬ pattern <:+: text := by
  constructor
  · intro missing occurs
    obtain ⟨before, after, first⟩ := exists_firstAt occurs
    rw [splitOnce_eq_some.mpr first] at missing
    cases missing
  · intro absent
    rw [Option.eq_none_iff_forall_ne_some]
    intro parts found
    exact absent (splitOnce_eq_some.mp found).occurs

theorem splitOnce_eq_some_or_none (pattern text : List α) :
    (∃ before after, splitOnce pattern text = some (before, after) ∧
        FirstAt pattern text before after) ∨
      (splitOnce pattern text = none ∧ ¬ pattern <:+: text) := by
  by_cases occurs : pattern <:+: text
  · obtain ⟨before, after, first⟩ := exists_firstAt occurs
    exact .inl ⟨before, after, splitOnce_eq_some.mpr first, first⟩
  · exact .inr ⟨splitOnce_eq_none.mpr occurs, occurs⟩

end Occurrence

/-! ### Segments -/

theorem splitOn_cases [DecidableEq α] (separator : α) (text : List α) :
    (separator ∉ text ∧ text.splitOn separator = [text]) ∨
      ∃ first later, separator ∉ first ∧ text = first ++ separator :: later ∧
        text.splitOn separator = first :: later.splitOn separator := by
  by_cases member : separator ∈ text
  · obtain ⟨first, later, split, absent⟩ := List.eq_append_cons_of_mem member
    refine .inr ⟨first, later, absent, split, ?_⟩
    rw [split, List.splitOn_append_cons_self_of_not_mem absent]
  · exact .inl ⟨member, List.splitOn_eq_singleton member⟩

/-- The text of a first segment, and of the one after it. -/
theorem splitOn_eq_cons [DecidableEq α] {separator : α} {text first : List α}
    {more : List (List α)} (split : text.splitOn separator = first :: more) :
    separator ∉ first ∧ ((text = first ∧ more = []) ∨
      ∃ later, text = first ++ separator :: later ∧ later.splitOn separator = more) := by
  rcases splitOn_cases separator text with ⟨absent, alone⟩ | ⟨here, later, absent, whole, cut⟩
  · rw [split] at alone
    obtain ⟨same, none⟩ := List.cons.inj alone
    rw [same]
    exact ⟨absent, .inl ⟨rfl, none⟩⟩
  · rw [split] at cut
    obtain ⟨same, rest⟩ := List.cons.inj cut
    rw [same]
    exact ⟨absent, .inr ⟨later, whole, rest.symm⟩⟩

/-! ### Runs -/

section Runs

variable {inside : α → Bool} {front back : List α}

/-- Nothing follows that goes on with the run. -/
def Stops (inside : α → Bool) (back : List α) : Prop := ∀ item ∈ back.head?, inside item = false

theorem takeWhile_append_stops (all : ∀ item ∈ front, inside item = true)
    (stops : Stops inside back) : (front ++ back).takeWhile inside = front := by
  rw [List.takeWhile_append_of_pos all]
  cases back with
  | nil => rw [List.takeWhile_nil, List.append_nil]
  | cons item rest =>
      rw [List.takeWhile_cons_of_neg (Bool.eq_false_iff.mp (stops item rfl)), List.append_nil]

theorem dropWhile_append_stops (all : ∀ item ∈ front, inside item = true)
    (stops : Stops inside back) : (front ++ back).dropWhile inside = back := by
  rw [List.dropWhile_append_of_pos all]
  cases back with
  | nil => rfl
  | cons item rest => rw [List.dropWhile_cons_of_neg (Bool.eq_false_iff.mp (stops item rfl))]

theorem stops_dropWhile (inside : α → Bool) (items : List α) :
    Stops inside (items.dropWhile inside) := by
  intro item found
  have last := List.head?_dropWhile_not inside items
  rw [Option.mem_def] at found
  rw [found] at last
  exact last

theorem rtakeWhile_append_stops (all : ∀ item ∈ back, inside item = true)
    (stops : ∀ item ∈ front.getLast?, inside item = false) :
    (front ++ back).rtakeWhile inside = back := by
  rw [List.rtakeWhile, List.reverse_append,
    takeWhile_append_stops (fun item member => all item (List.mem_reverse.mp member)),
    List.reverse_reverse]
  intro item found
  rw [List.head?_reverse] at found
  exact stops item found

end Runs

/-! ### Segments as runs -/

section SegmentRuns

variable [DecidableEq α] {separator : α} {text first : List α} {rest : List (List α)}

theorem splitOn_head (split : text.splitOn separator = first :: rest) :
    separator ∉ first ∧ ∃ after, text = first ++ after ∧ Stops (· != separator) after := by
  obtain ⟨absent, ⟨whole, -⟩ | ⟨later, whole, -⟩⟩ := splitOn_eq_cons split
  · refine ⟨absent, [], by rw [whole, List.append_nil], ?_⟩
    intro item impossible
    cases impossible
  · refine ⟨absent, separator :: later, whole, ?_⟩
    intro item same
    cases same
    exact bne_self_eq_false separator

end SegmentRuns

end Splitting
end Kotlogramme
