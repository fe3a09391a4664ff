/-
Sources that are read one item at a time.

A source yields its items and then ends or fails, and does the same again at a later
read.  A listing whose cursor is an index reads the source from the beginning for each
page, and passes over what comes before the page.
-/

import Kotlogramme.Foundation.Loop
import Mathlib.Data.List.TakeDrop

namespace Kotlogramme

structure Source (ε α : Type) where
  items : List α
  ending : Except ε Unit

namespace Source

variable {ε α β : Type}

/-- One read: the item and what is left, or the end. -/
def next (source : Source ε α) : Except ε (Option (α × Source ε α)) :=
  match source.items with
  | [] => source.ending.map fun _ => none
  | item :: rest => .ok (some (item, ⟨rest, source.ending⟩))

/-- Passes over that many items, or to the end. -/
def skip : Nat → Source ε α → Except ε (Source ε α)
  | 0, source => .ok source
  | count + 1, source => do
      match ← source.next with
      | none => return source
      | some (_, rest) => skip count rest

/-- Reads that many items, or to the end. -/
def collect : Nat → Source ε α → Except ε (List α)
  | 0, _ => .ok []
  | limit + 1, source => do
      match ← source.next with
      | none => return []
      | some (item, rest) => return item :: (← collect limit rest)

/-- Reads to the end. -/
def drain (source : Source ε α) : Except ε (List α) :=
  go source.items
where
  go : List α → Except ε (List α)
    | [] => source.ending.map fun _ => []
    | item :: rest => do return item :: (← go rest)

def page (offset limit : Nat) (source : Source ε α) : Except ε (List α) := do
  let rest ← source.skip offset
  rest.collect limit

theorem next_nil (ending : Except ε Unit) :
    (⟨[], ending⟩ : Source ε α).next = ending.map fun _ => none := rfl

theorem next_cons (item : α) (rest : List α) (ending : Except ε Unit) :
    (⟨item :: rest, ending⟩ : Source ε α).next = .ok (some (item, ⟨rest, ending⟩)) := rfl

theorem drain_eq (source : Source ε α) :
    source.drain = source.ending.map fun _ => source.items := by
  have whole (items : List α) : drain.go source items = source.ending.map fun _ => items := by
    induction items with
    | nil => rfl
    | cons item rest ih =>
        rw [drain.go, ih]
        cases source.ending <;> rfl
  exact whole source.items

theorem skip_eq (count : Nat) (source : Source ε α) :
    source.skip count =
      if count ≤ source.items.length then .ok ⟨source.items.drop count, source.ending⟩
      else source.ending.map fun _ => ⟨[], source.ending⟩ := by
  obtain ⟨items, ending⟩ := source
  induction count generalizing items with
  | zero => rw [if_pos (Nat.zero_le _)]; rfl
  | succ count ih =>
      rw [skip]
      cases items with
      | nil =>
          have short : ¬ count + 1 ≤ ([] : List α).length := Nat.not_succ_le_zero count
          rw [next_nil, if_neg short]
          cases ending <;> rfl
      | cons item rest =>
          have same : (⟨rest, ending⟩ : Source ε α).skip count = _ := ih rest
          rw [next_cons]
          change (⟨rest, ending⟩ : Source ε α).skip count = _
          rw [same]
          simp only [List.length_cons, Nat.add_le_add_iff_right, List.drop_succ_cons]

theorem collect_eq (limit : Nat) (source : Source ε α) :
    source.collect limit =
      if limit ≤ source.items.length then .ok (source.items.take limit)
      else source.ending.map fun _ => source.items := by
  obtain ⟨items, ending⟩ := source
  induction limit generalizing items with
  | zero => rw [if_pos (Nat.zero_le _)]; rfl
  | succ limit ih =>
      rw [collect]
      cases items with
      | nil =>
          have short : ¬ limit + 1 ≤ ([] : List α).length := Nat.not_succ_le_zero limit
          rw [next_nil, if_neg short]
          cases ending <;> rfl
      | cons item rest =>
          have same : (⟨rest, ending⟩ : Source ε α).collect limit = _ := ih rest
          rw [next_cons]
          change (do return item :: (← (⟨rest, ending⟩ : Source ε α).collect limit)) = _
          rw [same]
          simp only [List.length_cons, Nat.add_le_add_iff_right, List.take_succ_cons]
          split
          · rfl
          · cases ending <;> rfl

/-- A page is what the source has there; it fails where the source fails before the
page is full. -/
theorem page_eq (offset limit : Nat) (source : Source ε α) (within : offset ≤ source.items.length) :
    source.page offset limit =
      if offset + limit ≤ source.items.length then
        .ok ((source.items.drop offset).take limit)
      else source.ending.map fun _ => source.items.drop offset := by
  rw [page, skip_eq, if_pos within]
  change (⟨source.items.drop offset, source.ending⟩ : Source ε α).collect limit = _
  rw [collect_eq, List.length_drop]
  by_cases full : offset + limit ≤ source.items.length
  · rw [if_pos full, if_pos (by omega)]
  · rw [if_neg full, if_neg (by omega)]

/-! ### Page after page -/

/-- The walk asks for what follows the items it has, until a page is empty or fails. -/
def pageWalk (serve : Nat → Except ε (List β)) : Loop (List β) (Except ε (List β)) where
  step collected :=
    match serve collected.length with
    | .error failure => .inl (.error failure)
    | .ok [] => .inl (.ok collected)
    | .ok page => .inr (collected ++ page)

theorem pageWalk_fails {serve : Nat → Except ε (List β)} {failure : ε}
    (failed : serve 0 = .error failure) : (pageWalk serve).Ends [] (.error failure) := by
  apply Loop.ends_of_inl
  simp only [pageWalk, List.length_nil, failed]

/-- Serves the pages of a source. -/
def Serves (project : α → β) (source : Source ε α) (limit : Nat)
    (serve : Nat → Except ε (List β)) : Prop :=
  ∀ offset ≤ source.items.length, serve offset = (source.page offset limit).map (List.map project)

theorem pageWalk_from {project : α → β} {source : Source ε α} {limit : Nat}
    {serve : Nat → Except ε (List β)} (serves : Serves project source limit serve)
    (positive : 0 < limit) (left taken : Nat) (total : taken + left = source.items.length) :
    (pageWalk serve).Ends ((source.items.take taken).map project)
      (source.drain.map (List.map project)) := by
  induction left using Nat.strongRecOn generalizing taken with
  | ind left ih =>
    have length : ((source.items.take taken).map project).length = taken := by
      simp
      omega
    have served := serves taken (by omega)
    rw [page_eq taken limit source (by omega)] at served
    by_cases full : taken + limit ≤ source.items.length
    · rw [if_pos full] at served
      have filled : (source.items.drop taken).take limit ≠ [] := by
        intro empty
        have none := congrArg List.length empty
        simp at none
        omega
      have goesOn : (pageWalk serve).step ((source.items.take taken).map project) =
          .inr ((source.items.take (taken + limit)).map project) := by
        simp only [pageWalk, length, served]
        cases page : (source.items.drop taken).take limit with
        | nil => exact absurd page filled
        | cons item rest =>
            simp only [Except.map, List.map_cons]
            rw [List.take_add, page, List.map_append, List.map_cons]
      rw [Loop.ends_inr_iff goesOn]
      exact ih (left - limit) (by omega) (taken + limit) (by omega)
    · rw [if_neg full] at served
      rw [drain_eq]
      cases ending : source.ending with
      | error failure =>
          refine Loop.ends_of_inl ?_
          simp only [pageWalk, length, served, ending, Except.map]
      | ok done =>
          rw [ending] at served
          cases rest : source.items.drop taken with
          | nil =>
              have whole : source.items.take taken = source.items := by
                have joined := List.take_append_drop taken source.items
                rwa [rest, List.append_nil] at joined
              refine Loop.ends_of_inl ?_
              simp only [pageWalk, length, served, rest, Except.map, List.map_nil]
              rw [whole]
          | cons item others =>
              have goesOn : (pageWalk serve).step ((source.items.take taken).map project) =
                  .inr ((source.items.take source.items.length).map project) := by
                simp only [pageWalk, length, served, rest, Except.map, List.map_cons]
                rw [← List.map_cons, ← rest, ← List.map_append, List.take_append_drop,
                  List.take_length]
              have here : left ≠ 0 := by
                intro none
                have none' := congrArg List.length rest
                simp at none'
                omega
              rw [Loop.ends_inr_iff goesOn]
              have ended := ih 0 (by omega) source.items.length (by omega)
              rw [drain_eq, ending] at ended
              exact ended

/-- Going through a source page by page comes to what draining it comes to. -/
theorem pageWalk_ends {project : α → β} {source : Source ε α} {limit : Nat}
    {serve : Nat → Except ε (List β)} (serves : Serves project source limit serve)
    (positive : 0 < limit) :
    (pageWalk serve).Ends [] (source.drain.map (List.map project)) :=
  pageWalk_from serves positive source.items.length 0 (Nat.zero_add _)

end Source
end Kotlogramme
