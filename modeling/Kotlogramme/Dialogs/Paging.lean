/-
Following the cursor of the last row, page by page.

The cursor has the peer and the last message of a row, and a row without a last
message makes none: the listing then begins again at the top.  A row without a dialog
id makes one that no dialog is at.
-/

import Kotlogramme.Dialogs.Listing
import Kotlogramme.Foundation.Loop
import Mathlib.Data.List.TakeDrop

namespace Kotlogramme.Dialogs

open Kotlogramme.Client

structure DialogList (χ μ : Type) where
  dialogs : List (Dialog χ μ)
  valid : ∀ dialog ∈ dialogs, dialog.peer.id.Valid
  distinct : (dialogs.map fun dialog => dialog.peer.id).Nodup

variable {χ μ ρ : Type}

/-! ### The walk -/

def allRequest : DialogsPayload where
  all := some true
  limit := none
  offsetPeer := none
  offsetId := none
  offsetDate := none

/-- The request of the facade after a row; what the row does not have is left out. -/
def pageRequest (limit : Nat) (last : Option (DialogDto χ μ)) : DialogsPayload where
  all := some false
  limit := some limit
  offsetPeer := last.map fun row => row.peer.id
  offsetId := last.bind fun row => row.lastMessage.map fun message => message.id
  offsetDate := last.bind fun row => row.lastMessage.map fun message => message.date

structure PageWalk (ρ : Type) where
  last : Option ρ
  collected : List ρ

def PageWalk.initial : PageWalk ρ := ⟨none, []⟩

/-- The walk through a listing whose rows have those of the plain listing in them. -/
def pageWalk (listing : List (Dialog χ μ) → DialogsPayload → List ρ) (row : ρ → DialogDto χ μ)
    (dialogs : List (Dialog χ μ)) (limit : Nat) : Loop (PageWalk ρ) (List ρ) where
  step walk :=
    let page := listing dialogs (pageRequest limit (walk.last.map row))
    match page.getLast? with
    | none => .inl walk.collected
    | some last => .inr ⟨some last, walk.collected ++ page⟩

/-- The walk ends with the rows of `all`, and these are the dialogs, each once. -/
def Enumerates (listing : List (Dialog χ μ) → DialogsPayload → List ρ) (row : ρ → DialogDto χ μ)
    (project : Dialog χ μ → ρ) (list : DialogList χ μ) (limit : Nat) : Prop :=
  (pageWalk listing row list.dialogs limit).Ends .initial (listing list.dialogs allRequest) ∧
    listing list.dialogs allRequest = list.dialogs.map project

/-- A dialog has a last message, and a dialog id unless it is the last. -/
def Named (dialogs : List (Dialog χ μ)) (index : Nat) (dialog : Dialog χ μ) : Prop :=
  dialog.lastMessage.isSome ∧
    (dialog.peer.id.botApiDialogId.isSome ∨ index + 1 = dialogs.length)

/-- The dialogs that a page of the whole listing ends with. -/
def PageEndsNamed (dialogs : List (Dialog χ μ)) (limit : Nat) : Prop :=
  ∀ index dialog, dialogs[index]? = some dialog →
    (index + 1) % limit = 0 ∨ index + 1 = dialogs.length → Named dialogs index dialog

/-! ### Where a page begins -/

/-- A projection of dialogs with the row of the plain listing in it. -/
structure Rows (χ μ ρ : Type) where
  project : Dialog χ μ → ρ
  row : ρ → DialogDto χ μ
  row_project : ∀ dialog, row (project dialog) = dialogDto dialog

def dialogRows : Rows χ μ (DialogDto χ μ) := ⟨dialogDto, id, fun _ => rfl⟩

def metaRows : Rows χ μ (DialogWithMetaDto χ μ) :=
  ⟨dialogWithMetaDto, DialogWithMetaDto.dialog, fun _ => rfl⟩

def Rows.walk (rows : Rows χ μ ρ) (list : DialogList χ μ) (limit : Nat) :
    Loop (PageWalk ρ) (List ρ) :=
  pageWalk (listDialogs rows.project) rows.row list.dialogs limit

theorem page_eq (rows : Rows χ μ ρ) (dialogs : List (Dialog χ μ)) (limit : Nat)
    (last : Option (DialogDto χ μ)) :
    listDialogs rows.project dialogs (pageRequest limit last) =
      ((resume (DialogsCursor.fromPayload (pageRequest limit last)) dialogs).take
        (clampLimit limit)).map rows.project := rfl

/-- The cursor of a dialog's row, if it makes one. -/
def cursorAfter (dialog : Dialog χ μ) : Option DialogsCursor :=
  dialog.lastMessage.map fun message =>
    ⟨dialog.peer.id.botApiDialogId.getD 0, message.id, message.date⟩

theorem fromPayload_pageRequest (limit : Nat) (dialog : Dialog χ μ) :
    DialogsCursor.fromPayload (pageRequest limit (some (dialogDto dialog))) =
      cursorAfter dialog := by
  have peer := dialogDto_peer dialog
  have lastMessage := dialogDto_lastMessage dialog
  unfold cursorAfter DialogsCursor.fromPayload pageRequest
  simp only [Option.map_some, Option.bind_some, peer, lastMessage]
  cases dialog.lastMessage with
  | none => rfl
  | some message => rfl

theorem matches_iff (cursor : DialogsCursor) (dialog : Dialog χ μ) :
    cursor.matches dialog.peer.id.botApiDialogId
        (dialog.lastMessage.map fun message => (message.id, message.date)) = true ↔
      dialog.peer.id.botApiDialogId = some cursor.peer ∧
        cursorAfter dialog = some cursor := by
  obtain ⟨peer, id, date⟩ := cursor
  unfold DialogsCursor.matches cursorAfter
  cases dialog.lastMessage with
  | none => simp
  | some message =>
      simp only [Bool.and_eq_true, beq_iff_eq, Option.map_some, Option.some.injEq, Prod.mk.injEq,
        DialogsCursor.mk.injEq]
      constructor
      · rintro ⟨found, same⟩
        exact ⟨found, by rw [found, Option.getD_some], same⟩
      · rintro ⟨found, -, same⟩
        exact ⟨found, same⟩

/-- No dialog is at a cursor without a dialog id. -/
theorem skipPastCursor_unnamed (cursor : DialogsCursor) (unnamed : cursor.peer = 0)
    (dialogs : List (Dialog χ μ)) (valid : ∀ dialog ∈ dialogs, dialog.peer.id.Valid) :
    skipPastCursor cursor dialogs = [] := by
  induction dialogs with
  | nil => rfl
  | cons dialog rest ih =>
      have passed : ¬ cursor.matches dialog.peer.id.botApiDialogId
          (dialog.lastMessage.map fun message => (message.id, message.date)) = true := by
        rw [matches_iff, unnamed]
        rintro ⟨found, -⟩
        exact PeerId.botApiDialogId_ne_zero (valid dialog List.mem_cons_self) found
      rw [skipPastCursor, if_neg passed]
      exact ih fun later member => valid later (List.mem_cons_of_mem _ member)

/-- The dialogs that are left are those after the cursor's. -/
theorem skipPastCursor_named (cursor : DialogsCursor) (dialogs : List (Dialog χ μ))
    (valid : ∀ dialog ∈ dialogs, dialog.peer.id.Valid)
    (distinct : (dialogs.map fun dialog => dialog.peer.id).Nodup) (index : Nat)
    (dialog : Dialog χ μ) (found : dialogs[index]? = some dialog)
    (named : dialog.peer.id.botApiDialogId = some cursor.peer)
    (made : cursorAfter dialog = some cursor) :
    skipPastCursor cursor dialogs = dialogs.drop (index + 1) := by
  induction dialogs generalizing index with
  | nil => cases found
  | cons first rest ih =>
      rw [skipPastCursor]
      cases index with
      | zero =>
          obtain rfl := Option.some.inj found
          rw [if_pos ((matches_iff cursor first).mpr ⟨named, made⟩)]
          rfl
      | succ index =>
          have member : dialog ∈ rest := List.mem_of_getElem? found
          rw [List.map_cons, List.nodup_cons] at distinct
          have passed : ¬ cursor.matches first.peer.id.botApiDialogId
              (first.lastMessage.map fun message => (message.id, message.date)) = true := by
            rw [matches_iff]
            rintro ⟨also, -⟩
            have same := PeerId.eq_of_botApiDialogId (valid first List.mem_cons_self)
              (valid dialog (List.mem_cons_of_mem _ member)) (also.trans named.symm)
            exact distinct.1 (same ▸ List.mem_map_of_mem member)
          rw [if_neg passed]
          exact ih (fun later within => valid later (List.mem_cons_of_mem _ within)) distinct.2
            index found

theorem resume_named (list : DialogList χ μ) {index : Nat} {dialog : Dialog χ μ}
    (found : list.dialogs[index]? = some dialog) (message : dialog.lastMessage.isSome)
    (named : dialog.peer.id.botApiDialogId.isSome) :
    resume (cursorAfter dialog) list.dialogs = list.dialogs.drop (index + 1) := by
  obtain ⟨last, held⟩ := Option.isSome_iff_exists.mp message
  obtain ⟨id, named⟩ := Option.isSome_iff_exists.mp named
  have made : cursorAfter dialog = some ⟨id, last.id, last.date⟩ := by
    rw [cursorAfter, held, named]
    rfl
  rw [made]
  exact skipPastCursor_named _ _ list.valid list.distinct index dialog found named made

theorem resume_without_message (list : DialogList χ μ) {dialog : Dialog χ μ}
    (missing : dialog.lastMessage = none) :
    resume (cursorAfter dialog) list.dialogs = list.dialogs := by
  rw [cursorAfter, missing]
  rfl

theorem resume_without_id (list : DialogList χ μ) {dialog : Dialog χ μ}
    (message : dialog.lastMessage.isSome) (missing : dialog.peer.id.botApiDialogId = none) :
    resume (cursorAfter dialog) list.dialogs = [] := by
  obtain ⟨last, held⟩ := Option.isSome_iff_exists.mp message
  rw [cursorAfter, held, missing]
  exact skipPastCursor_unnamed _ rfl _ list.valid

/-! ### What a step does -/

section Steps

variable (rows : Rows χ μ ρ) (list : DialogList χ μ) (limit : Nat)

theorem step_eq (walk : PageWalk ρ) (page : List ρ)
    (served : listDialogs rows.project list.dialogs (pageRequest limit (walk.last.map rows.row)) =
      page) :
    (page = [] ∧ (rows.walk list limit).step walk = .inl walk.collected) ∨
    (page ≠ [] ∧ (rows.walk list limit).step walk =
      .inr ⟨page.getLast?, walk.collected ++ page⟩) := by
  subst served
  unfold Rows.walk pageWalk
  cases ending : (listDialogs rows.project list.dialogs
      (pageRequest limit (walk.last.map rows.row))).getLast? with
  | none => exact .inl ⟨List.getLast?_eq_none_iff.mp ending, by simp only [ending]⟩
  | some last =>
      refine .inr ⟨fun empty => ?_, by simp only [ending]⟩
      rw [empty] at ending
      cases ending

/-- The walk after the first dialogs. -/
def walkAt (count : Nat) : PageWalk ρ where
  last := ((list.dialogs.take count).map rows.project).getLast?
  collected := (list.dialogs.take count).map rows.project

/-- The dialogs that come after the first ones, by the cursor. -/
def following (count : Nat) : List (Dialog χ μ) :=
  resume ((list.dialogs.take count).getLast?.bind cursorAfter) list.dialogs

theorem page_at (count : Nat) :
    listDialogs rows.project list.dialogs
        (pageRequest limit ((walkAt rows list count).last.map rows.row)) =
      ((following list count).take (clampLimit limit)).map rows.project := by
  rw [page_eq, following, walkAt, List.getLast?_map]
  cases (list.dialogs.take count).getLast? with
  | none => rfl
  | some dialog =>
      rw [Option.map_some, Option.map_some, rows.row_project, fromPayload_pageRequest]
      rfl

end Steps

theorem clampLimit_pos (limit : Nat) : 0 < clampLimit limit := by
  unfold clampLimit
  omega

variable {rows : Rows χ μ ρ} {list : DialogList χ μ} {limit : Nat}

/-- A walk that goes on where the first dialogs end is over or a page further. -/
theorem step_at (rows : Rows χ μ ρ) (limit : Nat) {count : Nat}
    (within : count ≤ list.dialogs.length)
    (resumed : following list count = list.dialogs.drop count) :
    (count = list.dialogs.length ∧ (rows.walk list limit).step
      (walkAt rows list count) = .inl (list.dialogs.map rows.project)) ∨
    (count < list.dialogs.length ∧ (rows.walk list limit).step
      (walkAt rows list count) =
        .inr (walkAt rows list (min (count + clampLimit limit) list.dialogs.length))) := by
  have page := page_at rows list limit count
  have positive := clampLimit_pos limit
  rw [resumed] at page
  have size : (((list.dialogs.drop count).take (clampLimit limit)).map rows.project).length =
      min (clampLimit limit) (list.dialogs.length - count) := by
    rw [List.length_map, List.length_take, List.length_drop]
  rcases step_eq rows list limit _ _ page with ⟨empty, finished⟩ | ⟨more, goesOn⟩
  · left
    rw [empty, List.length_nil] at size
    have whole : count = list.dialogs.length := by omega
    refine ⟨whole, ?_⟩
    rw [finished, walkAt, whole, List.take_length]
  · right
    have positive_size := List.length_pos_iff.mpr more
    refine ⟨by omega, ?_⟩
    have further : (list.dialogs.take (min (count + clampLimit limit) list.dialogs.length)) =
        list.dialogs.take count ++ (list.dialogs.drop count).take (clampLimit limit) := by
      rw [← List.take_add, ← List.take_eq_take_min]
    rw [goesOn]
    unfold walkAt
    rw [further, List.map_append, List.getLast?_append_of_ne_nil _ more]

theorem following_succ {index : Nat} {dialog : Dialog χ μ}
    (found : list.dialogs[index]? = some dialog) :
    following list (index + 1) = resume (cursorAfter dialog) list.dialogs := by
  rw [following, List.getLast?_take, if_neg (Nat.succ_ne_zero index), Nat.add_sub_cancel, found]
  rfl

/-! ### Every page end named -/

theorem following_of_named {count : Nat} (within : count ≤ list.dialogs.length)
    (named : ∀ index dialog, index + 1 = count → list.dialogs[index]? = some dialog →
      Named list.dialogs index dialog) :
    following list count = list.dialogs.drop count := by
  cases count with
  | zero => rfl
  | succ index =>
      have found := @List.getElem?_eq_getElem _ list.dialogs index (by omega)
      obtain ⟨message, id⟩ := named index _ rfl found
      rw [following_succ found]
      cases held : list.dialogs[index].peer.id.botApiDialogId with
      | some id => exact resume_named list found message (by rw [held]; rfl)
      | none =>
          rw [held] at id
          rcases id with absent | last
          · cases absent
          · rw [resume_without_id list message held, last, List.drop_length]

theorem ends_of_named (named : PageEndsNamed list.dialogs (clampLimit limit)) (count : Nat)
    (within : count ≤ list.dialogs.length)
    (boundary : count % clampLimit limit = 0 ∨ count = list.dialogs.length) :
    (rows.walk list limit).Ends (walkAt rows list count)
      (list.dialogs.map rows.project) := by
  induction left : list.dialogs.length - count using Nat.strongRecOn generalizing count with
  | ind left ih =>
      have positive := clampLimit_pos limit
      have resumed := following_of_named within fun index dialog last found =>
        named index dialog found (last ▸ boundary)
      rcases step_at rows limit within resumed with
        ⟨-, finished⟩ | ⟨before, goesOn⟩
      · exact Loop.ends_of_inl finished
      · refine (Loop.ends_inr_iff goesOn).mpr (ih _ ?_ _ (Nat.min_le_right _ _) ?_ rfl)
        · omega
        · rcases Nat.le_total (count + clampLimit limit) list.dialogs.length with inside | beyond
          · rcases boundary with multiple | whole
            · left
              rw [Nat.min_eq_left inside, Nat.add_mod_right, multiple]
            · omega
          · exact .inr (Nat.min_eq_right beyond)

/-! ### A page end that is not named -/

/-- What is collected before does not change what is collected after. -/
theorem ends_prepend (front : List ρ) {walk : PageWalk ρ} {result : List ρ}
    (ended : (rows.walk list limit).Ends walk result) :
    (rows.walk list limit).Ends ⟨walk.last, front ++ walk.collected⟩
      (front ++ result) := by
  obtain ⟨fuel, ran⟩ := ended
  induction fuel generalizing walk with
  | zero => cases ran
  | succ fuel ih =>
      rcases step_eq rows list limit walk _ rfl with ⟨empty, finished⟩ | ⟨more, goesOn⟩
      · rcases step_eq rows list limit ⟨walk.last, front ++ walk.collected⟩ _ rfl with
          ⟨-, also⟩ | ⟨other, -⟩
        · rw [Loop.run_succ_inl finished] at ran
          obtain rfl := Option.some.inj ran
          exact Loop.ends_of_inl also
        · exact absurd empty other
      · rcases step_eq rows list limit ⟨walk.last, front ++ walk.collected⟩ _ rfl with
          ⟨other, -⟩ | ⟨-, also⟩
        · exact absurd other more
        · rw [Loop.run_succ_inr goesOn] at ran
          refine (Loop.ends_inr_iff also).mpr ?_
          rw [List.append_assoc]
          exact ih ran

theorem named_of_ends {index : Nat} {dialog : Dialog χ μ}
    (found : list.dialogs[index]? = some dialog)
    (whole : (rows.walk list limit).Ends (walkAt rows list 0)
      (list.dialogs.map rows.project))
    (ended : (rows.walk list limit).Ends (walkAt rows list (index + 1))
      (list.dialogs.map rows.project)) : Named list.dialogs index dialog := by
  have within : index < list.dialogs.length := (List.getElem?_eq_some_iff.mp found).1
  have page := page_at rows list limit (index + 1)
  rw [following_succ found] at page
  cases held : dialog.lastMessage with
  | none =>
      -- The first page comes again, after rows that are collected already.
      have top : following list 0 = list.dialogs := rfl
      have first := page_at rows list limit 0
      have positive := clampLimit_pos limit
      rw [top] at first
      rw [resume_without_message list held] at page
      exfalso
      rcases step_eq rows list limit _ _ first with ⟨empty, -⟩ | ⟨more, begins⟩
      · have size := congrArg List.length empty
        rw [List.length_map, List.length_take, List.length_nil] at size
        omega
      · rcases step_eq rows list limit _ _ page with ⟨empty, -⟩ | ⟨-, again⟩
        · exact more empty
        · have later := ends_prepend ((list.dialogs.take (index + 1)).map rows.project)
            ((Loop.ends_inr_iff begins).mp whole)
          have same := later.unique ((Loop.ends_inr_iff again).mp ended)
          have size := congrArg List.length same
          rw [List.length_append, List.length_map, List.length_take] at size
          omega
  | some message =>
      refine ⟨by rw [held]; rfl, ?_⟩
      cases id : dialog.peer.id.botApiDialogId with
      | some id => exact .inl rfl
      | none =>
          right
          rw [resume_without_id list (by rw [held]; rfl) id, List.take_nil, List.map_nil] at page
          rcases step_eq rows list limit _ _ page with ⟨-, finished⟩ | ⟨more, -⟩
          · have size := congrArg List.length ((Loop.ends_inl_iff finished).mp ended)
            rw [walkAt, List.length_map, List.length_map, List.length_take] at size
            omega
          · exact absurd rfl more

theorem ends_at (whole : (rows.walk list limit).Ends (walkAt rows list 0)
      (list.dialogs.map rows.project)) (pages : Nat) :
    (rows.walk list limit).Ends
      (walkAt rows list (min (pages * clampLimit limit) list.dialogs.length))
      (list.dialogs.map rows.project) := by
  induction pages with
  | zero =>
      rw [Nat.zero_mul, Nat.zero_min]
      exact whole
  | succ pages ih =>
      have resumed := following_of_named
        (Nat.min_le_right (pages * clampLimit limit) list.dialogs.length)
        fun index dialog last found => named_of_ends found whole (last ▸ ih)
      rcases step_at rows limit (Nat.min_le_right _ _) resumed with
        ⟨finished, -⟩ | ⟨before, goesOn⟩
      · have still : min ((pages + 1) * clampLimit limit) list.dialogs.length =
            min (pages * clampLimit limit) list.dialogs.length := by
          rw [Nat.succ_mul]
          omega
        rw [still]
        exact ih
      · have next : min ((pages + 1) * clampLimit limit) list.dialogs.length =
            min (min (pages * clampLimit limit) list.dialogs.length + clampLimit limit)
              list.dialogs.length := by
          rw [Nat.succ_mul]
          omega
        rw [next]
        exact (Loop.ends_inr_iff goesOn).mp ih

theorem pageEndsNamed_of_ends (whole : (rows.walk list limit).Ends
      (walkAt rows list 0) (list.dialogs.map rows.project)) :
    PageEndsNamed list.dialogs (clampLimit limit) := by
  intro index dialog found boundary
  have within : index < list.dialogs.length := (List.getElem?_eq_some_iff.mp found).1
  refine named_of_ends found whole ?_
  rcases boundary with multiple | last
  · have reached := ends_at whole ((index + 1) / clampLimit limit)
    rw [Nat.div_mul_cancel (Nat.dvd_of_mod_eq_zero multiple), Nat.min_eq_left within] at reached
    exact reached
  · have positive := clampLimit_pos limit
    have reached := ends_at whole list.dialogs.length
    rw [Nat.min_eq_right (Nat.le_mul_of_pos_right _ positive)] at reached
    rw [last]
    exact reached

theorem enumerates_iff (rows : Rows χ μ ρ) (list : DialogList χ μ) (limit : Nat) :
    Enumerates (listDialogs rows.project) rows.row rows.project list limit ↔
      PageEndsNamed list.dialogs (clampLimit limit) := by
  constructor
  · intro enumerates
    obtain ⟨whole, all⟩ := enumerates
    rw [all] at whole
    exact pageEndsNamed_of_ends whole
  · intro named
    exact ⟨ends_of_named named 0 (Nat.zero_le _) (.inl (Nat.zero_mod _)), rfl⟩

theorem listings_enumerate_iff (list : DialogList χ μ) (limit : Nat) :
    (Enumerates getDialogs id dialogDto list limit ↔
      PageEndsNamed list.dialogs (clampLimit limit)) ∧
    (Enumerates getDialogsMeta DialogWithMetaDto.dialog dialogWithMetaDto list limit ↔
      PageEndsNamed list.dialogs (clampLimit limit)) :=
  ⟨enumerates_iff dialogRows list limit, enumerates_iff metaRows list limit⟩

/-- A chat whose history is cleared. -/
def cleared : DialogList Unit Unit where
  dialogs := [{
    peer := ⟨⟨.user, some 7⟩, ()⟩
    lastMessage := none
    raw := .dialog {
      pinned := false
      unreadMark := false
      viewForumAsMessages := false
      topMessage := 0
      readInboxMaxId := 0
      readOutboxMaxId := 0
      unreadCount := 0
      unreadMentionsCount := 0
      unreadReactionsCount := 0
      notifySettings := ⟨none, none, none⟩
      pts := none
      draft := none
      folderId := none
      ttlPeriod := none } }]
  valid := by
    intro dialog member
    obtain rfl := List.mem_singleton.mp member
    exact .inr ⟨7, by decide, rfl⟩
  distinct := List.nodup_singleton _

/-- Its row is served on every page. -/
theorem cleared_not_enumerated : ¬ Enumerates getDialogs id dialogDto cleared 50 := by
  intro enumerated
  have named := (enumerates_iff dialogRows cleared 50).mp enumerated 0 _ rfl (.inr rfl)
  cases named.1

end Kotlogramme.Dialogs
