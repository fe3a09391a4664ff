/-
Listings that a page is asked of by the key of the last item.

The keys of a listing fall, and a page is what is older than the cursor, up to a
limit.  The walk goes on from the key of the last item it was given, asks again where
a request fails, and ends with an empty page.  The listing may change from one request
to the next, so what a walk comes to is said of the requests that it makes.
-/

import Kotlogramme.Foundation.Loop
import Mathlib.Data.List.Sort

namespace Kotlogramme

/-- Newer items have greater keys and come first. -/
def Falling {α : Type} (key : α → Int) (items : List α) : Prop :=
  items.Pairwise fun newer older => key older < key newer

structure Listing (α : Type) (key : α → Int) where
  items : List α
  falling : Falling key items

namespace Listing

variable {α ε : Type} {key : α → Int}

def ids (listing : Listing α key) : List Int := listing.items.map key

/-- The items a page with that cursor begins with. -/
def older (listing : Listing α key) : Option Int → List α
  | none => listing.items
  | some cursor => listing.items.filter fun item => key item < cursor

def page (listing : Listing α key) (limit : Nat) (cursor : Option Int) : List α :=
  (listing.older cursor).take limit

theorem older_falling (listing : Listing α key) (cursor : Option Int) :
    Falling key (listing.older cursor) := by
  cases cursor with
  | none => exact listing.falling
  | some cursor => exact listing.falling.filter _

theorem mem_older {listing : Listing α key} {cursor : Option Int} {item : α} :
    item ∈ listing.older cursor ↔ item ∈ listing.items ∧ ∀ bound ∈ cursor, key item < bound := by
  cases cursor with
  | none => simp [older]
  | some cursor => simp [older, List.mem_filter]

/-- What is older than the cursor and not older than the last item of the page is on
the page. -/
theorem mem_page_of_le {listing : Listing α key} {limit : Nat} {cursor : Option Int} {last : α}
    (ends : (listing.page limit cursor).getLast? = some last) {item : α}
    (member : item ∈ listing.older cursor) (above : key last ≤ key item) :
    item ∈ listing.page limit cursor := by
  have split := List.take_append_drop limit (listing.older cursor)
  rw [← split] at member
  rcases List.mem_append.mp member with here | later
  · exact here
  · have falling := listing.older_falling cursor
    rw [Falling, ← split, List.pairwise_append] at falling
    have below := falling.2.2 last (List.mem_of_getLast? ends) item later
    omega

theorem last_le_of_mem {items : List α} (falling : Falling key items) {last item : α}
    (ends : items.getLast? = some last) (member : item ∈ items) : key last ≤ key item := by
  obtain ⟨front, split⟩ := List.getLast?_eq_some_iff.mp ends
  rw [split] at member falling
  rcases List.mem_append.mp member with before | here
  · have less := (List.pairwise_append.mp falling).2.2 item before last List.mem_cons_self
    omega
  · rw [List.mem_singleton.mp here]

/-- Two listings with the same items are the same list. -/
theorem items_eq_of_mem_iff {first second : List α} (one : Falling key first)
    (other : Falling key second) (same : ∀ item, item ∈ first ↔ item ∈ second) :
    first = second := by
  have irrefl : Std.Irrefl fun newer older : α => key older < key newer :=
    ⟨fun item => Int.lt_irrefl (key item)⟩
  have antisymm : Std.Antisymm fun newer older : α => key older < key newer :=
    ⟨fun left right less greater => absurd (Int.lt_trans less greater) (Int.lt_irrefl _)⟩
  exact List.Pairwise.eq_of_mem_iff one other same

/-- A projection of the items that keeps their keys. -/
def map {β : Type} {keyOf : β → Int} (project : α → β) (same : ∀ item, keyOf (project item) = key item)
    (listing : Listing α key) : Listing β keyOf where
  items := listing.items.map project
  falling := by
    refine List.pairwise_map.mpr (listing.falling.imp fun less => ?_)
    rwa [same, same]

theorem page_map {β : Type} {keyOf : β → Int} (project : α → β)
    (same : ∀ item, keyOf (project item) = key item) (listing : Listing α key) (limit : Nat)
    (cursor : Option Int) :
    (listing.map project same).page limit cursor = (listing.page limit cursor).map project := by
  unfold page
  rw [List.map_take]
  cases cursor with
  | none => rfl
  | some cursor => simp only [older, map, List.filter_map, Function.comp_def, same]

/-! ### The walk -/

/-- How far a walk has come. -/
structure Walk (α : Type) where
  cursor : Option Int
  collected : List α
  requests : Nat

def Walk.initial : Walk α := ⟨none, [], 0⟩

/-- `serve` is what comes back for a request, by its number and cursor. -/
def walk (key : α → Int) (serve : Nat → Option Int → Except ε (List α)) :
    Loop (Walk α) (List α) where
  step state :=
    match serve state.requests state.cursor with
    | .error _ => .inr { state with requests := state.requests + 1 }
    | .ok page =>
        match page.getLast? with
        | none => .inl state.collected
        | some last => .inr {
            cursor := some (key last)
            collected := state.collected ++ page
            requests := state.requests + 1 }

/-- Each answer is a page of the listing at its time, or a failure. -/
def Serves (listings : Nat → Listing α key) (limit : Nat)
    (serve : Nat → Option Int → Except ε (List α)) : Prop :=
  ∀ request cursor page, serve request cursor = .ok page →
    page = (listings request).page limit cursor

/-- What a walk has collected so far. -/
structure Consistent (listings : Nat → Listing α key) (state : Walk α) : Prop where
  falling : Falling key state.collected
  bounded : ∀ item ∈ state.collected, ∃ cursor ∈ state.cursor, cursor ≤ key item
  /-- What the listing never loses is collected once the cursor has passed it. -/
  complete : ∀ cursor ∈ state.cursor, ∀ id, cursor ≤ id →
    (∀ request < state.requests, id ∈ (listings request).ids) →
      id ∈ state.collected.map key

theorem consistent_initial (listings : Nat → Listing α key) :
    Consistent listings (Walk.initial : Walk α) where
  falling := List.Pairwise.nil
  bounded := nofun
  complete := nofun

theorem Consistent.asksAgain {listings : Nat → Listing α key} {state : Walk α}
    (consistent : Consistent listings state) :
    Consistent listings { state with requests := state.requests + 1 } where
  falling := consistent.falling
  bounded := consistent.bounded
  complete cursor at' id above kept :=
    consistent.complete cursor at' id above fun request before =>
      kept request (Nat.lt_succ_of_lt before)

theorem Consistent.goesOn {listings : Nat → Listing α key} {state : Walk α} {limit : Nat}
    {last : α} (consistent : Consistent listings state)
    (ends : ((listings state.requests).page limit state.cursor).getLast? = some last) :
    Consistent listings {
      cursor := some (key last)
      collected := state.collected ++ (listings state.requests).page limit state.cursor
      requests := state.requests + 1 } where
  falling := by
    have page : Falling key ((listings state.requests).page limit state.cursor) :=
      ((listings state.requests).older_falling state.cursor).sublist (List.take_sublist _ _)
    refine List.pairwise_append.mpr ⟨consistent.falling, page, fun item before next here => ?_⟩
    obtain ⟨cursor, at', above⟩ := consistent.bounded item before
    have below := (mem_older.mp (List.mem_of_mem_take here)).2 cursor at'
    omega
  bounded item member := by
    refine ⟨key last, rfl, ?_⟩
    rcases List.mem_append.mp member with before | here
    · obtain ⟨cursor, at', above⟩ := consistent.bounded item before
      have below := (mem_older.mp (List.mem_of_mem_take (List.mem_of_getLast? ends))).2 cursor at'
      omega
    · have page : Falling key ((listings state.requests).page limit state.cursor) :=
        ((listings state.requests).older_falling state.cursor).sublist (List.take_sublist _ _)
      exact last_le_of_mem page ends here
  complete cursor at' id above kept := by
    cases at'
    rw [List.map_append, List.mem_append]
    by_cases passed : ∃ before ∈ state.cursor, before ≤ id
    · obtain ⟨before, at', below⟩ := passed
      exact .inl (consistent.complete before at' id below fun request earlier =>
        kept request (Nat.lt_succ_of_lt earlier))
    · obtain ⟨item, listed, same⟩ := List.mem_map.mp (kept state.requests (Nat.lt_succ_self _))
      have member : item ∈ (listings state.requests).older state.cursor := by
        refine mem_older.mpr ⟨listed, fun bound at' => ?_⟩
        by_contra notBelow
        exact passed ⟨bound, at', by omega⟩
      exact .inr (List.mem_map.mpr ⟨item, mem_page_of_le ends member (by omega), same⟩)

theorem older_nil_of_page {listing : Listing α key} {limit : Nat} {cursor : Option Int}
    (positive : 0 < limit) (empty : listing.page limit cursor = []) :
    listing.older cursor = [] := by
  rcases List.take_eq_nil_iff.mp empty with none | none
  · omega
  · exact none

/-- What a walk has where a page is empty. -/
theorem Consistent.ended {listings : Nat → Listing α key} {state : Walk α} {limit : Nat}
    (consistent : Consistent listings state) (positive : 0 < limit)
    (empty : (listings state.requests).page limit state.cursor = []) {id : Int}
    (kept : ∀ request ≤ state.requests, id ∈ (listings request).ids) :
    id ∈ state.collected.map key := by
  have none := older_nil_of_page positive empty
  by_cases passed : ∃ cursor ∈ state.cursor, cursor ≤ id
  · obtain ⟨cursor, at', below⟩ := passed
    exact consistent.complete cursor at' id below fun request before =>
      kept request (Nat.le_of_lt before)
  · obtain ⟨item, listed, same⟩ := List.mem_map.mp (kept state.requests (Nat.le_refl _))
    have member : item ∈ (listings state.requests).older state.cursor := by
      refine mem_older.mpr ⟨listed, fun bound at' => ?_⟩
      by_contra notBelow
      exact passed ⟨bound, at', by omega⟩
    rw [none] at member
    cases member

/-! ### The requests of a walk -/

/-- The cursor of a walk's request, by the number of the request. -/
def cursorAt (key : α → Int) (serve : Nat → Option Int → Except ε (List α)) : Nat → Option Int
  | 0 => none
  | request + 1 =>
      match serve request (cursorAt key serve request) with
      | .error _ => cursorAt key serve request
      | .ok page => (page.getLast?.map key).or (cursorAt key serve request)

/-- The items that came back for it. -/
def answerAt (key : α → Int) (serve : Nat → Option Int → Except ε (List α)) (request : Nat) :
    List α :=
  match serve request (cursorAt key serve request) with
  | .error _ => []
  | .ok page => page

/-- The result is what came back for that many requests, and an empty page came back for
the next one, and for none before. -/
structure Asked (key : α → Int) (serve : Nat → Option Int → Except ε (List α)) (requests : Nat)
    (result : List α) : Prop where
  last : serve requests (cursorAt key serve requests) = .ok []
  earlier : ∀ request < requests, serve request (cursorAt key serve request) ≠ .ok []
  whole : result = (List.range requests).flatMap (answerAt key serve)

/-- How far the requests of a walk have come. -/
structure OnCourse (key : α → Int) (serve : Nat → Option Int → Except ε (List α))
    (state : Walk α) : Prop where
  cursor : state.cursor = cursorAt key serve state.requests
  earlier : ∀ request < state.requests, serve request (cursorAt key serve request) ≠ .ok []
  whole : state.collected = (List.range state.requests).flatMap (answerAt key serve)

theorem onCourse_initial (serve : Nat → Option Int → Except ε (List α)) :
    OnCourse key serve (Walk.initial : Walk α) where
  cursor := rfl
  earlier := nofun
  whole := rfl

theorem OnCourse.asked {serve : Nat → Option Int → Except ε (List α)} {state : Walk α}
    (onCourse : OnCourse key serve state) (served : serve state.requests state.cursor = .ok []) :
    Asked key serve state.requests state.collected where
  last := by
    rw [← onCourse.cursor]
    exact served
  earlier := onCourse.earlier
  whole := onCourse.whole

/-- A request that is answered by anything but an empty page is one more. -/
theorem OnCourse.next {serve : Nat → Option Int → Except ε (List α)} {state : Walk α}
    (onCourse : OnCourse key serve state) (going : serve state.requests state.cursor ≠ .ok [])
    {cursor : Option Int} {answer : List α}
    (cursorNext : cursorAt key serve (state.requests + 1) = cursor)
    (answered : answerAt key serve state.requests = answer) :
    OnCourse key serve
      { cursor, collected := state.collected ++ answer, requests := state.requests + 1 } where
  cursor := cursorNext.symm
  earlier request before := by
    rcases Nat.lt_succ_iff_lt_or_eq.mp before with earlier | same
    · exact onCourse.earlier request earlier
    · rw [same, ← onCourse.cursor]
      exact going
  whole := by
    rw [List.range_succ, List.flatMap_append, ← onCourse.whole, List.flatMap_singleton, answered]

theorem OnCourse.failed {serve : Nat → Option Int → Except ε (List α)} {state : Walk α}
    (onCourse : OnCourse key serve state) {failure : ε}
    (served : serve state.requests state.cursor = .error failure) :
    OnCourse key serve { state with requests := state.requests + 1 } := by
  have going : serve state.requests state.cursor ≠ .ok [] := by
    rw [served]
    nofun
  have same := onCourse.cursor
  rw [same] at served
  have next : OnCourse key serve
      ⟨state.cursor, state.collected ++ [], state.requests + 1⟩ :=
    onCourse.next going (by rw [cursorAt, served, same]) (by rw [answerAt, served])
  rw [List.append_nil] at next
  exact next

theorem OnCourse.went {serve : Nat → Option Int → Except ε (List α)} {state : Walk α}
    (onCourse : OnCourse key serve state) {page : List α} {last : α}
    (served : serve state.requests state.cursor = .ok page) (ends : page.getLast? = some last) :
    OnCourse key serve
      { cursor := some (key last), collected := state.collected ++ page
        requests := state.requests + 1 } := by
  have going : serve state.requests state.cursor ≠ .ok [] := by
    rw [served]
    intro empty
    cases empty
    cases ends
  rw [onCourse.cursor] at served
  refine onCourse.next going ?_ (by rw [answerAt, served])
  rw [cursorAt, served]
  change (page.getLast?.map key).or _ = _
  rw [ends]
  rfl

/-- For the requests that a walk makes: no item comes twice, each is in the listing that
its request is answered from, and what the listing has at each of them comes. -/
def Covers (listings : Nat → Listing α key) (serve : Nat → Option Int → Except ε (List α))
    (result : List α) : Prop :=
  ∃ requests, Asked key serve requests result ∧ Falling key result ∧
    (∀ request < requests, ∀ item ∈ answerAt key serve request,
      item ∈ (listings request).items) ∧
    ∀ id, (∀ request ≤ requests, id ∈ (listings request).ids) → id ∈ result.map key

/-- What covers a listing that stays the same is the listing. -/
theorem Covers.eq_items {listing : Listing α key}
    {serve : Nat → Option Int → Except ε (List α)} {result : List α}
    (covers : Covers (fun _ => listing) serve result) : result = listing.items := by
  obtain ⟨requests, asked, falling, listed, complete⟩ := covers
  have there : ∀ item ∈ result, item ∈ listing.items := by
    intro item member
    rw [asked.whole] at member
    obtain ⟨request, before, answered⟩ := List.mem_flatMap.mp member
    exact listed request (List.mem_range.mp before) item answered
  refine items_eq_of_mem_iff falling listing.falling fun item => ⟨there item, fun member => ?_⟩
  obtain ⟨other, inResult, same⟩ :=
    List.mem_map.mp (complete (key item) fun _ _ => List.mem_map_of_mem member)
  have nodup : (listing.items.map key).Nodup :=
    List.pairwise_map.mpr (listing.falling.imp fun less => (Int.ne_of_lt less).symm)
  rw [← List.inj_on_of_nodup_map nodup (there other inResult) member same]
  exact inResult

/-- What a step of the walk can do. -/
inductive Stepped (listings : Nat → Listing α key) (limit : Nat)
    (serve : Nat → Option Int → Except ε (List α)) (state : Walk α) : List α ⊕ Walk α → Prop
  | failed (failure : ε) (served : serve state.requests state.cursor = .error failure) :
      Stepped listings limit serve state (.inr { state with requests := state.requests + 1 })
  | ended (served : serve state.requests state.cursor = .ok [])
      (empty : (listings state.requests).page limit state.cursor = []) :
      Stepped listings limit serve state (.inl state.collected)
  | went (last : α)
      (served : serve state.requests state.cursor =
        .ok ((listings state.requests).page limit state.cursor))
      (ends : ((listings state.requests).page limit state.cursor).getLast? = some last) :
      Stepped listings limit serve state (.inr {
        cursor := some (key last)
        collected := state.collected ++ (listings state.requests).page limit state.cursor
        requests := state.requests + 1 })

/-- A request that fails is made before the listing is quiet. -/
theorem early_of_failed {serve : Nat → Option Int → Except ε (List α)} {quiet : Nat}
    (recovers : ∀ request ≥ quiet, ∀ cursor, ∃ page, serve request cursor = .ok page)
    {state : Walk α} {failure : ε}
    (served : serve state.requests state.cursor = .error failure) : state.requests < quiet := by
  by_contra late
  obtain ⟨page, answered⟩ := recovers state.requests (by omega) state.cursor
  rw [served] at answered
  cases answered

section Serving

variable {listings : Nat → Listing α key} {limit : Nat}
  {serve : Nat → Option Int → Except ε (List α)} (serves : Serves listings limit serve)
include serves

theorem step_cases (state : Walk α) :
    Stepped listings limit serve state ((walk key serve).step state) := by
  simp only [walk]
  split
  · next failure served => exact .failed failure served
  · next page served =>
      have same := serves _ _ _ served
      subst same
      split
      · next none =>
          have empty := List.getLast?_eq_none_iff.mp none
          rw [empty] at served
          exact .ended served empty
      · next last ends => exact .went last served ends

/-- What comes back is of the listing at the time of the request. -/
theorem mem_items_of_answerAt {request : Nat} {item : α}
    (member : item ∈ answerAt key serve request) : item ∈ (listings request).items := by
  unfold answerAt at member
  split at member
  · cases member
  · next page served =>
      rw [serves _ _ _ served] at member
      exact (mem_older.mp (List.mem_of_mem_take member)).1

theorem walk_ends_with (positive : 0 < limit) {result : List α}
    (ended : (walk key serve).Ends Walk.initial result) : Covers listings serve result := by
  refine Loop.Ends.invariant
    (fun state => Consistent listings state ∧ OnCourse key serve state)
    (Covers listings serve) ?_ ?_ ended
    ⟨consistent_initial listings, onCourse_initial serve⟩
  · rintro state result ⟨consistent, onCourse⟩ stepped
    have step := step_cases serves state
    rw [stepped] at step
    cases step with
    | ended served empty =>
        exact ⟨state.requests, onCourse.asked served, consistent.falling,
          fun request _ item member => mem_items_of_answerAt serves member,
          fun id kept => consistent.ended positive empty kept⟩
  · rintro state after ⟨consistent, onCourse⟩ stepped
    have step := step_cases serves state
    rw [stepped] at step
    cases step with
    | failed failure served => exact ⟨consistent.asksAgain, onCourse.failed served⟩
    | went last served ends => exact ⟨consistent.goesOn ends, onCourse.went served ends⟩

section Ending

variable (positive : ∀ request, ∀ item ∈ (listings request).items, 0 < key item)
  {quiet : Nat} (recovers : ∀ request ≥ quiet, ∀ cursor, ∃ page, serve request cursor = .ok page)
include positive recovers

/-- Each request either fails before the listing is quiet or lowers the cursor. -/
theorem walk_ends_from (bound : Nat) : ∀ state : Walk α, ∀ cursor ∈ state.cursor,
    quiet - state.requests + cursor.toNat < bound →
      ∃ result, (walk key serve).Ends state result := by
  induction bound with
  | zero =>
      intro state cursor _ within
      omega
  | succ bound ih =>
      intro state cursor at' within
      have step := step_cases serves state
      cases stepped : (walk key serve).step state with
      | inl result => exact ⟨result, Loop.ends_of_inl stepped⟩
      | inr after =>
          simp only [Loop.ends_inr_iff stepped]
          rw [stepped] at step
          cases step with
          | failed failure served =>
              have early := early_of_failed recovers served
              exact ih _ cursor at' (by simp only; omega)
          | went last answered ends =>
              obtain ⟨listed, below⟩ :=
                mem_older.mp (List.mem_of_mem_take (List.mem_of_getLast? ends))
              have lower := below cursor at'
              have least := positive _ last listed
              exact ih _ (key last) rfl (by simp only; omega)

theorem walk_ends_without_cursor (bound : Nat) : ∀ state : Walk α, state.cursor = none →
    quiet - state.requests < bound → ∃ result, (walk key serve).Ends state result := by
  induction bound with
  | zero =>
      intro state _ within
      omega
  | succ bound ih =>
      intro state start within
      have step := step_cases serves state
      cases stepped : (walk key serve).step state with
      | inl result => exact ⟨result, Loop.ends_of_inl stepped⟩
      | inr after =>
          simp only [Loop.ends_inr_iff stepped]
          rw [stepped] at step
          cases step with
          | failed failure served =>
              have early := early_of_failed recovers served
              exact ih _ start (by simp only; omega)
          | went last answered ends =>
              exact walk_ends_from serves positive recovers _ _ (key last) rfl
                (Nat.lt_succ_self _)

/-- The walk ends, whatever the listing does meanwhile. -/
theorem walk_ends : ∃ result, (walk key serve).Ends Walk.initial result :=
  walk_ends_without_cursor serves positive recovers _ Walk.initial rfl (Nat.lt_succ_self _)

end Ending

end Serving

end Listing
end Kotlogramme
