/-
The words of a text: its longest pieces without white space.

Which items are white space is a parameter.  A text that spreads words over gaps
has these words, whatever the gaps are made of; joining words with a blank and
taking the result apart again leads back to them.
-/

import Kotlogramme.Foundation.Splitting

namespace Kotlogramme
namespace Words

open Splitting

variable {α : Type}

/-! ### Patterns and separators -/

/-- A pattern without the separator stands on one side of it. -/
theorem infix_of_separated {pattern before after : List α} {separator : α}
    (absent : separator ∉ pattern) (found : pattern <:+: before ++ separator :: after) :
    pattern <:+: before ∨ pattern <:+: after := by
  rw [List.infix_append_iff] at found
  rcases found with left | right | ⟨front, back, whole, ends, starts⟩
  · exact .inl left
  · rcases List.infix_cons_iff.mp right with first | later
    · cases pattern with
      | nil => exact .inl List.nil_infix
      | cons item rest =>
          obtain ⟨same, -⟩ := List.cons_prefix_cons.mp first
          exact absurd (List.mem_cons.mpr (.inl same.symm)) absent
    · exact .inr later
  · cases back with
    | nil =>
        rw [List.append_nil] at whole
        rw [whole]
        exact .inl ends.isInfix
    | cons item rest =>
        obtain ⟨same, -⟩ := List.cons_prefix_cons.mp starts
        have member : separator ∈ pattern := by
          rw [whole, ← same]
          exact List.mem_append_right front List.mem_cons_self
        exact absurd member absent

theorem infix_of_intercalate {pattern : List α} {separator : α} {parts : List (List α)}
    (absent : separator ∉ pattern) (present : pattern ≠ [])
    (found : pattern <:+: List.intercalate [separator] parts) :
    ∃ part ∈ parts, pattern <:+: part := by
  induction parts with
  | nil => exact absurd (List.infix_nil.mp found) present
  | cons part others ih =>
      cases others with
      | nil =>
          rw [List.intercalate_singleton] at found
          exact ⟨part, List.mem_cons_self, found⟩
      | cons next more =>
          rw [List.intercalate_cons_cons, List.append_assoc] at found
          rcases infix_of_separated absent found with here | later
          · exact ⟨part, List.mem_cons_self, here⟩
          · obtain ⟨other, member, inside⟩ := ih later
            exact ⟨other, List.mem_cons_of_mem part member, inside⟩

theorem infix_of_mem_splitOn [DecidableEq α] {separator : α} {text part : List α}
    (member : part ∈ text.splitOn separator) : part <:+: text := by
  induction length : text.length using Nat.strongRecOn generalizing text with
  | ind size ih =>
      rcases splitOn_cases separator text with ⟨-, alone⟩ | ⟨first, later, -, whole, cut⟩
      · rw [alone, List.mem_singleton] at member
        subst member
        exact List.infix_refl part
      · rw [cut] at member
        have shorter : later.length < size := by
          rw [← length, whole, List.length_append, List.length_cons]
          omega
        rw [whole]
        rcases List.mem_cons.mp member with rfl | inLater
        · exact (List.prefix_append part (separator :: later)).isInfix
        · have inside := ih later.length shorter inLater rfl
          exact List.infix_append_of_infix_right (List.infix_cons inside)

/-! ### Words -/

variable {space : α → Bool} {text : List α}

def words (space : α → Bool) (text : List α) : List (List α) :=
  (text.splitOnP space).filter (fun word => !word.isEmpty)

structure IsWord (space : α → Bool) (word : List α) : Prop where
  present : word ≠ []
  solid : ∀ item ∈ word, space item = false

def Blank (space : α → Bool) (gap : List α) : Prop := ∀ item ∈ gap, space item = true

theorem Blank.append {front back : List α} (first : Blank space front)
    (second : Blank space back) : Blank space (front ++ back) := by
  intro item member
  rcases List.mem_append.mp member with here | later
  · exact first item here
  · exact second item later

theorem words_append_cons {separator : α} (blank : space separator = true) (front back : List α) :
    words space (front ++ separator :: back) = words space front ++ words space back := by
  unfold words
  rw [List.splitOnP_append_cons front back blank, List.filter_append]

theorem words_nil : words space [] = [] := by
  rw [words, List.splitOnP_nil]
  rfl

theorem words_blank_append {gap : List α} (blank : Blank space gap) (text : List α) :
    words space (gap ++ text) = words space text := by
  induction gap with
  | nil => rw [List.nil_append]
  | cons item rest ih =>
      have split := words_append_cons (blank item List.mem_cons_self) [] (rest ++ text)
      rw [words_nil, List.nil_append, List.nil_append] at split
      rw [List.cons_append, split]
      exact ih fun other member => blank other (List.mem_cons_of_mem item member)

theorem words_append_blank {gap : List α} (blank : Blank space gap) (text : List α) :
    words space (text ++ gap) = words space text := by
  cases gap with
  | nil => rw [List.append_nil]
  | cons item rest =>
      have rests : Blank space rest := fun other member =>
        blank other (List.mem_cons_of_mem item member)
      have none := words_blank_append rests []
      rw [List.append_nil, words_nil] at none
      rw [words_append_cons (blank item List.mem_cons_self), none, List.append_nil]

theorem words_of_isWord {word : List α} (is : IsWord space word) : words space word = [word] := by
  have one : (!word.isEmpty) = true := by
    cases word with
    | nil => exact absurd rfl is.present
    | cons item rest => rfl
  rw [words, List.splitOnP_eq_singleton is.solid]
  exact List.filter_cons_of_pos one

theorem words_word_append {word gap : List α} (is : IsWord space word) (blank : Blank space gap)
    (apart : gap ≠ []) (text : List α) :
    words space (word ++ (gap ++ text)) = word :: words space text := by
  cases gap with
  | nil => exact absurd rfl apart
  | cons item rest =>
      have rests : Blank space rest := fun other member =>
        blank other (List.mem_cons_of_mem item member)
      rw [List.cons_append, words_append_cons (blank item List.mem_cons_self),
        words_of_isWord is, words_blank_append rests]
      rfl

theorem solid_of_mem_splitOnP {piece : List α} (member : piece ∈ text.splitOnP space) :
    ∀ item ∈ piece, space item = false := by
  induction text generalizing piece with
  | nil =>
      rw [List.splitOnP_nil, List.mem_singleton] at member
      rw [member]
      exact nofun
  | cons first rest ih =>
      rw [List.splitOnP_cons_eq_if_modifyHead] at member
      by_cases blank : space first = true
      · rw [if_pos blank] at member
        rcases List.mem_cons.mp member with rfl | later
        · exact nofun
        · exact ih later
      · rw [if_neg blank] at member
        obtain ⟨head, others, split⟩ :=
          List.exists_cons_of_ne_nil (List.splitOnP_ne_nil space rest)
        rw [split, List.modifyHead_cons] at member
        rcases List.mem_cons.mp member with rfl | later
        · intro item inside
          rcases List.mem_cons.mp inside with rfl | deeper
          · exact Bool.not_eq_true _ ▸ blank
          · exact ih (split ▸ List.mem_cons_self) item deeper
        · exact ih (split ▸ List.mem_cons_of_mem head later)

theorem isWord_of_mem_words {word : List α} (member : word ∈ words space text) :
    IsWord space word := by
  obtain ⟨piece, filled⟩ := List.mem_filter.mp member
  refine ⟨?_, solid_of_mem_splitOnP piece⟩
  intro empty
  rw [empty] at filled
  cases filled

theorem infix_of_mem_splitOnP {piece : List α} (member : piece ∈ text.splitOnP space) :
    piece <:+: text ∧ (∀ rest, text.splitOnP space = piece :: rest → piece <+: text) := by
  induction text generalizing piece with
  | nil =>
      rw [List.splitOnP_nil, List.mem_singleton] at member
      rw [member]
      exact ⟨List.infix_refl [], fun _ _ => List.prefix_refl []⟩
  | cons first rest ih =>
      rw [List.splitOnP_cons_eq_if_modifyHead] at member ⊢
      by_cases blank : space first = true
      · rw [if_pos blank] at member ⊢
        rcases List.mem_cons.mp member with rfl | later
        · exact ⟨List.nil_infix, fun _ _ => List.nil_prefix⟩
        · refine ⟨List.infix_cons (ih later).1, ?_⟩
          intro others split
          rw [← (List.cons.inj split).1]
          exact List.nil_prefix
      · rw [if_neg blank] at member ⊢
        obtain ⟨head, others, split⟩ :=
          List.exists_cons_of_ne_nil (List.splitOnP_ne_nil space rest)
        have begins := (ih (split ▸ List.mem_cons_self)).2 others split
        have grown : first :: head <+: first :: rest := List.cons_prefix_cons.mpr ⟨rfl, begins⟩
        rw [split, List.modifyHead_cons] at member ⊢
        rcases List.mem_cons.mp member with rfl | later
        · exact ⟨grown.isInfix, fun _ _ => grown⟩
        · refine ⟨List.infix_cons (ih (split ▸ List.mem_cons_of_mem head later)).1, ?_⟩
          intro more same
          rw [← (List.cons.inj same).1]
          exact grown

theorem infix_of_mem_words {word : List α} (member : word ∈ words space text) : word <:+: text :=
  (infix_of_mem_splitOnP (List.mem_filter.mp member).1).1

/-! ### Words in a row -/

/-- The words of a list, each after a gap. -/
inductive Spread (Gap : List α → Prop) : List (List α) → List α → Prop
  | nil : Spread Gap [] []
  | cons {gap word rest : List α} {others : List (List α)} (apart : Gap gap)
      (spread : Spread Gap others rest) : Spread Gap (word :: others) (gap ++ (word ++ rest))

/-- White space that parts two words. -/
def Parting (space : α → Bool) (gap : List α) : Prop := gap ≠ [] ∧ Blank space gap

theorem words_spread {others : List (List α)} {word rest gap : List α} (is : IsWord space word)
    (all : ∀ other ∈ others, IsWord space other) (spread : Spread (Parting space) others rest)
    (blank : Blank space gap) : words space (word ++ (rest ++ gap)) = word :: others := by
  induction spread generalizing word with
  | nil => rw [List.nil_append, words_append_blank blank, words_of_isWord is]
  | @cons between next later others apart _ ih =>
      have nexts := ih (all next List.mem_cons_self) fun other member =>
        all other (List.mem_cons_of_mem next member)
      rw [List.append_assoc, words_word_append is apart.2 apart.1, List.append_assoc, nexts]

/-- Words joined by a blank. -/
def join (blank : α) (parts : List (List α)) : List α := List.intercalate [blank] parts

section Joined

variable {blank : α} {parts : List (List α)}

theorem join_cons_cons (first second : List α) (others : List (List α)) :
    join blank (first :: second :: others) = first ++ blank :: join blank (second :: others) := by
  rw [join, List.intercalate_cons_cons, List.append_assoc]
  rfl

theorem join_singleton (part : List α) : join blank [part] = part := List.intercalate_singleton

/-- What stands between a first part and the others, if there are any. -/
theorem join_cons (separates : space blank = true) (part : List α) (others : List (List α)) :
    ∃ gap, Blank space gap ∧ join blank (part :: others) = part ++ (gap ++ join blank others) := by
  cases others with
  | nil => exact ⟨[], nofun, by rw [join_singleton]; exact (List.append_nil part).symm⟩
  | cons next more =>
      refine ⟨[blank], ?_, join_cons_cons part next more⟩
      intro item member
      rw [List.mem_singleton.mp member]
      exact separates

theorem join_append (first : List α) (front : List (List α)) (second : List α)
    (back : List (List α)) : join blank (first :: front ++ second :: back) =
      join blank (first :: front) ++ blank :: join blank (second :: back) := by
  induction front generalizing first with
  | nil =>
      rw [List.cons_append, List.nil_append, join_cons_cons, join_singleton]
  | cons next others ih =>
      rw [List.cons_append, List.cons_append, join_cons_cons, join_cons_cons, ← List.cons_append,
        ih next, List.append_assoc]
      rfl

theorem words_join (separates : space blank = true) (all : ∀ part ∈ parts, IsWord space part) :
    words space (join blank parts) = parts := by
  induction parts with
  | nil => exact words_nil
  | cons part others ih =>
      have rest := ih fun other member => all other (List.mem_cons_of_mem part member)
      have is := words_of_isWord (all part List.mem_cons_self)
      cases others with
      | nil =>
          rw [join_singleton]
          exact is
      | cons next more =>
          rw [join_cons_cons, words_append_cons separates, is, rest]
          rfl

theorem mem_join {item : α} (member : item ∈ join blank parts) :
    item = blank ∨ ∃ part ∈ parts, item ∈ part := by
  induction parts with
  | nil => cases member
  | cons part others ih =>
      cases others with
      | nil =>
          rw [join_singleton] at member
          exact .inr ⟨part, List.mem_cons_self, member⟩
      | cons next more =>
          rw [join_cons_cons] at member
          rcases List.mem_append.mp member with here | later
          · exact .inr ⟨part, List.mem_cons_self, here⟩
          · rcases List.mem_cons.mp later with same | deeper
            · exact .inl same
            · rcases ih deeper with same | ⟨other, found, inside⟩
              · exact .inl same
              · exact .inr ⟨other, List.mem_cons_of_mem part found, inside⟩

/-- Joined words neither begin nor end with white space. -/
theorem join_ends (all : ∀ part ∈ parts, IsWord space part) :
    (∀ item ∈ (join blank parts).head?, space item = false) ∧
      ∀ item ∈ (join blank parts).getLast?, space item = false := by
  induction parts with
  | nil => exact ⟨nofun, nofun⟩
  | cons part others ih =>
      have is := all part List.mem_cons_self
      obtain ⟨-, last⟩ := ih fun other member => all other (List.mem_cons_of_mem part member)
      cases others with
      | nil =>
          rw [join_singleton]
          exact ⟨fun item found => is.solid item (List.mem_of_mem_head? found),
            fun item found => is.solid item (List.mem_of_mem_getLast? found)⟩
      | cons next more =>
          have nextIs := all next (List.mem_cons_of_mem part List.mem_cons_self)
          rw [join_cons_cons]
          constructor
          · intro item found
            rw [List.head?_append_of_ne_nil _ is.present] at found
            exact is.solid item (List.mem_of_mem_head? found)
          · intro item found
            apply last item
            rw [List.getLast?_append, List.getLast?_cons] at found
            have filled : join blank (next :: more) ≠ [] := by
              cases more with
              | nil =>
                  rw [join_singleton]
                  exact nextIs.present
              | cons other rest =>
                  rw [join_cons_cons]
                  exact fun empty => absurd (List.append_eq_nil_iff.mp empty).2 (List.cons_ne_nil _ _)
            rw [List.getLast?_eq_some_getLast filled] at found ⊢
            exact found

end Joined

/-! ### What surrounds a text -/

def strip (space : α → Bool) (text : List α) : List α := (text.dropWhile space).rdropWhile space

theorem strip_surrounded {before core after : List α} (front : Blank space before)
    (back : Blank space after) (starts : Stops space core)
    (ends : ∀ item ∈ core.getLast?, space item = false) :
    strip space (before ++ (core ++ after)) = core := by
  have trimmed : (core ++ after).rdropWhile space = core := by
    rw [List.rdropWhile, List.reverse_append, dropWhile_append_stops, List.reverse_reverse]
    · exact fun item member => back item (List.mem_reverse.mp member)
    · intro item found
      rw [List.head?_reverse] at found
      exact ends item found
  cases core with
  | nil =>
      rw [strip, List.nil_append, List.dropWhile_eq_nil_iff.mpr (front.append back)]
      exact List.rdropWhile_nil space
  | cons item rest =>
      rw [strip, dropWhile_append_stops front, trimmed]
      intro first found
      exact starts first found

theorem strip_join {before after : List α} {parts : List (List α)} (front : Blank space before)
    (back : Blank space after) (blank : α)
    (all : ∀ part ∈ parts, IsWord space part) :
    strip space (before ++ (join blank parts ++ after)) = join blank parts :=
  strip_surrounded front back (join_ends all).1 (join_ends all).2

end Words
end Kotlogramme
