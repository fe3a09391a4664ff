/-
Fetching every blocked peer, a page at a time.

The walk goes on from where the last page ended until a page comes back short.
The layer answers a request with a slice or with the whole list, and the walk does
not look which of them an answer is.  What is collected is projected row by row.
-/

import Kotlogramme.Contacts.AnswerPeers
import Kotlogramme.Foundation.Loop
import Mathlib.Data.List.TakeDrop

namespace Kotlogramme.Contacts

open Kotlogramme.Client

structure PeerBlocked where
  peerId : LayerPeer
  date : Int

structure BlockedPage where
  blocked : List PeerBlocked
  chats : List Chat
  users : List User

/-- The layer's `contacts.Blocked`. -/
inductive BlockedAnswer
  | blocked (page : BlockedPage)
  | slice (count : Int) (page : BlockedPage)

namespace BlockedAnswer

def page : BlockedAnswer → BlockedPage
  | .blocked page => page
  | .slice _ page => page

def isSlice : BlockedAnswer → Bool
  | .blocked _ => false
  | .slice _ _ => true

end BlockedAnswer

def maxContactsLimit : Nat := 100

/-! ### The walk -/

structure BlockedWalk where
  offset : Int
  collected : BlockedPage
  requests : Nat

def BlockedPage.extend (collected page : BlockedPage) : BlockedPage where
  blocked := collected.blocked ++ page.blocked
  chats := collected.chats ++ page.chats
  users := collected.users ++ page.users

/-- `answers` is what comes back for a request, by its number, offset and limit. -/
def getAllBlocked (answers : Nat → Int → Nat → BlockedAnswer) : Loop BlockedWalk BlockedPage where
  step walk :=
    let page := (answers walk.requests walk.offset maxContactsLimit).page
    let collected := walk.collected.extend page
    if page.blocked.length < maxContactsLimit then .inl collected
    else .inr {
      offset := (walk.offset + page.blocked.length).bmod (2 ^ 32)
      collected
      requests := walk.requests + 1 }

def BlockedWalk.initial : BlockedWalk where
  offset := 0
  collected := ⟨[], [], []⟩
  requests := 0

structure BlockedPeerDto where
  date : Int
  user : Option UserDto
  peer : PeerDto

structure BlockedContactsDto where
  count : Option Int
  blocked : List BlockedPeerDto
  users : List ContactUserDto

def blockedRows (chats : List Chat) (users : List User) :
    List PeerBlocked → Stateful (PeerRegistry Peer) (List BlockedPeerDto)
  | [] => return []
  | entry :: rest => do
      match ← contactPeerDto entry.peerId users chats with
      | none => blockedRows chats users rest
      | some projected => do
          let rows ← blockedRows chats users rest
          return ⟨entry.date * 1000, projected.user, projected.peer⟩ :: rows

def projectBlocked (page : BlockedPage) (count : Option Int) :
    Stateful (PeerRegistry Peer) BlockedContactsDto := do
  let blocked ← blockedRows page.chats page.users page.blocked
  let users ← page.users.mapM contactUserDto
  return { count, blocked, users }

/-! ### The rows of an answer -/

/-- The row has the date of an entry in milliseconds and the peer that the entry names. -/
def Lists (registry : PeerRegistry Peer) (entry : PeerBlocked) (row : BlockedPeerDto) : Prop :=
  row.date = entry.date * 1000 ∧ Names registry entry.peerId row.peer

theorem blockedRows_lists {chats : List Chat} {users : List User} {blocked : List PeerBlocked}
    (unshadowed : ∀ entry ∈ blocked, Unshadowed chats entry.peerId)
    {registry after : PeerRegistry Peer} {rows : List BlockedPeerDto}
    (ran : (blockedRows chats users blocked).runOn registry = (.ok rows, after)) :
    registry.Extends after ∧
      ∃ found, found.Sublist blocked ∧ List.Forall₂ (Lists after) found rows := by
  induction blocked generalizing registry rows with
  | nil =>
      cases ran
      exact ⟨.refl _, [], .slnil, .nil⟩
  | cons entry rest ih =>
      obtain ⟨first, others⟩ := List.forall_mem_cons.mp unshadowed
      rw [blockedRows] at ran
      obtain ⟨projected, middle, looked, continued⟩ := Fallible.runOn_bind_eq_ok ran
      cases projected with
      | none =>
          obtain ⟨extended, found, sublist, listed⟩ := ih others continued
          have unchanged : registry.Extends middle := contactPeerDto_extends looked
          exact ⟨unchanged.trans extended, found, sublist.cons entry, listed⟩
      | some peer =>
          obtain ⟨later, last, collected, done⟩ := Fallible.runOn_bind_eq_ok continued
          cases done
          obtain ⟨extended, found, sublist, listed⟩ := ih others collected
          have named : Names middle entry.peerId peer.peer :=
            contactNamed_of_unshadowed first users registry peer middle looked
          refine ⟨(contactPeerDto_extends looked).trans extended, entry :: found,
            sublist.cons_cons entry, .cons ⟨rfl, named.extends extended⟩ listed⟩

/-- An answer has the entries of the page in their order, but for those whose peer the page
does not carry, and all of its users. -/
theorem projectBlocked_lists {page : BlockedPage} {count : Option Int}
    (unshadowed : ∀ entry ∈ page.blocked, Unshadowed page.chats entry.peerId)
    {registry after : PeerRegistry Peer} {answer : BlockedContactsDto}
    (ran : (projectBlocked page count).runOn registry = (.ok answer, after)) :
    answer.count = count ∧
      (∃ found, found.Sublist page.blocked ∧ List.Forall₂ (Lists after) found answer.blocked) ∧
      List.Forall₂ (UserNamed after) page.users answer.users := by
  obtain ⟨rows, middle, collected, continued⟩ := Fallible.runOn_bind_eq_ok ran
  obtain ⟨users, last, projected, done⟩ := Fallible.runOn_bind_eq_ok continued
  cases done
  obtain ⟨-, found, sublist, listed⟩ := blockedRows_lists unshadowed collected
  obtain ⟨extended, named⟩ := contactUsers_named projected
  exact ⟨rfl, ⟨found, sublist, listed.imp fun _ _ both => ⟨both.1, both.2.extends extended⟩⟩,
    named⟩

/-! ### The server -/

/-- The entries of a list from an offset on, up to a limit. -/
def entries (list : List PeerBlocked) (offset : Int) (limit : Nat) : List PeerBlocked :=
  (list.take (offset + limit).toNat).drop offset.toNat

/-- Each answer has the whole list or the slice that is asked for; the layer counts
a list in 32 bits. -/
structure BlockedServer where
  list : List PeerBlocked
  fits : list.length < 2 ^ 31
  answers : Nat → Int → Nat → BlockedAnswer
  whole : ∀ request offset limit, (answers request offset limit).isSlice = false →
    (answers request offset limit).page.blocked = list
  sliced : ∀ request offset limit, (answers request offset limit).isSlice = true →
    (answers request offset limit).page.blocked = entries list offset limit

namespace BlockedServer

variable (server : BlockedServer)

def walk : Loop BlockedWalk BlockedPage := getAllBlocked server.answers

/-- The walk ends with the blocked list. -/
def Exact : Prop :=
  ∃ collected, server.walk.Ends .initial collected ∧ collected.blocked = server.list

/-- The request of a walk of slices. -/
def sliceAt (request : Nat) : Bool :=
  (server.answers request (maxContactsLimit * request : Nat) maxContactsLimit).isSlice

/-- A list of a full page is answered by slices, or by the whole list and a slice. -/
def Suited : Prop :=
  server.list.length < maxContactsLimit ∨
    (∀ request, maxContactsLimit * request ≤ server.list.length → server.sliceAt request = true) ∨
    (server.sliceAt 0 = false ∧
      (server.answers 1 server.list.length maxContactsLimit).isSlice = true)

variable {server}

theorem entries_at (list : List PeerBlocked) (offset limit : Nat) :
    entries list offset limit = (list.drop offset).take limit := by
  have sum : ((offset : Int) + limit).toNat = offset + limit := by omega
  rw [entries, sum, Int.toNat_natCast, List.drop_take, Nat.add_sub_cancel_left]

/-- What a step does, by the page it gets. -/
theorem step_eq (server : BlockedServer) (walk : BlockedWalk) (blocked : List PeerBlocked)
    (page : (server.answers walk.requests walk.offset maxContactsLimit).page.blocked = blocked) :
    (blocked.length < maxContactsLimit ∧ ∃ collected,
      server.walk.step walk = .inl collected ∧
        collected.blocked = walk.collected.blocked ++ blocked) ∨
    (maxContactsLimit ≤ blocked.length ∧ ∃ next, server.walk.step walk = .inr next ∧
      next.offset = (walk.offset + blocked.length).bmod (2 ^ 32) ∧
        next.collected.blocked = walk.collected.blocked ++ blocked ∧
          next.requests = walk.requests + 1) := by
  subst page
  by_cases short : (server.answers walk.requests walk.offset maxContactsLimit).page.blocked.length <
      maxContactsLimit
  · exact .inl ⟨short, _, if_pos short, rfl⟩
  · exact .inr ⟨Nat.not_lt.mp short, _, if_neg short, rfl, rfl, rfl⟩

/-- What is collected is kept. -/
theorem collected_le {walk : BlockedWalk} {collected : BlockedPage}
    (ended : server.walk.Ends walk collected) :
    walk.collected.blocked.length ≤ collected.blocked.length := by
  refine Loop.Ends.invariant
    (fun reached => walk.collected.blocked.length ≤ reached.collected.blocked.length)
    (fun page => walk.collected.blocked.length ≤ page.blocked.length) ?_ ?_ ended (Nat.le_refl _)
  · intro reached page kept stepped
    rcases step_eq server reached _ rfl with ⟨-, last, finished, grown⟩ | ⟨-, next, goesOn, -⟩
    · rw [stepped] at finished
      cases finished
      rw [grown, List.length_append]
      omega
    · rw [stepped] at goesOn
      cases goesOn
  · intro reached next kept stepped
    rcases step_eq server reached _ rfl with
      ⟨-, last, finished, -⟩ | ⟨-, other, goesOn, -, grown, -⟩
    · rw [stepped] at finished
      cases finished
    · rw [stepped] at goesOn
      cases goesOn
      rw [grown, List.length_append]
      omega

/-- Only slices are collected up to here. -/
structure Sliced (server : BlockedServer) (walk : BlockedWalk) : Prop where
  offset : walk.offset = (maxContactsLimit * walk.requests : Nat)
  collected : walk.collected.blocked = server.list.take (maxContactsLimit * walk.requests)
  within : maxContactsLimit * walk.requests ≤ server.list.length

theorem sliced_initial : Sliced server .initial :=
  ⟨rfl, rfl, Nat.zero_le _⟩

/-- A further slice ends the walk with the list or takes it a page on. -/
theorem slice_step {walk : BlockedWalk} (sliced : Sliced server walk)
    (slice : server.sliceAt walk.requests = true) :
    (server.list.length < maxContactsLimit * (walk.requests + 1) ∧ ∃ collected,
      server.walk.step walk = .inl collected ∧ collected.blocked = server.list) ∨
    (∃ next, server.walk.step walk = .inr next ∧ Sliced server next ∧
      next.requests = walk.requests + 1) := by
  have limit : maxContactsLimit = 100 := rfl
  have fits := server.fits
  have page : (server.answers walk.requests walk.offset maxContactsLimit).page.blocked =
      (server.list.drop (maxContactsLimit * walk.requests)).take maxContactsLimit := by
    rw [sliced.offset, server.sliced _ _ _ slice, entries_at]
  have size : ((server.list.drop (maxContactsLimit * walk.requests)).take maxContactsLimit).length =
      min maxContactsLimit (server.list.length - maxContactsLimit * walk.requests) := by
    rw [List.length_take, List.length_drop]
  rcases step_eq server walk _ page with
    ⟨short, collected, finished, grown⟩ | ⟨full, next, goesOn, offset, grown, requests⟩
  · left
    have rest :
        (server.list.drop (maxContactsLimit * walk.requests)).length ≤ maxContactsLimit := by
      rw [List.length_drop]
      omega
    refine ⟨by rw [Nat.mul_succ]; omega, collected, finished, ?_⟩
    rw [grown, sliced.collected, List.take_of_length_le rest, List.take_append_drop]
  · right
    have exactly : maxContactsLimit * next.requests =
        maxContactsLimit * walk.requests + maxContactsLimit := by
      rw [requests, Nat.mul_succ]
    refine ⟨next, goesOn, ⟨?_, ?_, by omega⟩, requests⟩
    · rw [offset, sliced.offset, Int.bmod_eq_of_le] <;> omega
    · rw [grown, sliced.collected, exactly, List.take_add]

/-- The whole list takes a walk on where it has a full page. -/
theorem whole_step (walk : BlockedWalk) (full : maxContactsLimit ≤ server.list.length)
    (whole : (server.answers walk.requests walk.offset maxContactsLimit).isSlice = false) :
    ∃ next, server.walk.step walk = .inr next ∧
      next.offset = (walk.offset + server.list.length).bmod (2 ^ 32) ∧
        next.collected.blocked = walk.collected.blocked ++ server.list ∧
          next.requests = walk.requests + 1 := by
  rcases step_eq server walk _ (server.whole _ _ _ whole) with ⟨short, -⟩ | ⟨-, stepped⟩
  · omega
  · exact stepped

/-- A list that is collected and then whole again is not what the walk ends with. -/
theorem not_exact_of_whole {walk : BlockedWalk} {collected : BlockedPage}
    (full : maxContactsLimit ≤ server.list.length)
    (whole : (server.answers walk.requests walk.offset maxContactsLimit).isSlice = false)
    (some : 0 < walk.collected.blocked.length) (ended : server.walk.Ends walk collected) :
    collected.blocked ≠ server.list := by
  intro exactly
  obtain ⟨next, goesOn, -, grown, -⟩ := whole_step walk full whole
  have least := collected_le ((Loop.ends_inr_iff goesOn).mp ended)
  rw [grown, exactly, List.length_append] at least
  omega

theorem ends_of_slices {walk : BlockedWalk} (sliced : Sliced server walk)
    (slices : ∀ request, maxContactsLimit * request ≤ server.list.length →
      server.sliceAt request = true) :
    ∃ collected, server.walk.Ends walk collected ∧ collected.blocked = server.list := by
  induction rest : server.list.length - maxContactsLimit * walk.requests using Nat.strongRecOn
    generalizing walk with
  | ind rest ih =>
      rcases slice_step sliced (slices _ sliced.within) with
        ⟨-, collected, finished, exactly⟩ | ⟨next, goesOn, further, requests⟩
      · exact ⟨collected, Loop.ends_of_inl finished, exactly⟩
      · have within := further.within
        have exactly : maxContactsLimit * next.requests =
            maxContactsLimit * walk.requests + maxContactsLimit := by
          rw [requests, Nat.mul_succ]
        have limit : maxContactsLimit = 100 := rfl
        obtain ⟨collected, ends, whole⟩ := ih _ (by omega) further rfl
        exact ⟨collected, (Loop.ends_inr_iff goesOn).mpr ends, whole⟩

/-- A walk that ends with a list has slices all the way, once it began with one. -/
theorem slices_of_exact {collected : BlockedPage}
    (full : maxContactsLimit ≤ server.list.length) (first : server.sliceAt 0 = true)
    (ended : server.walk.Ends .initial collected) (exactly : collected.blocked = server.list)
    (request : Nat) (within : maxContactsLimit * request ≤ server.list.length) :
    server.sliceAt request = true ∧ ∃ walk, Sliced server walk ∧ walk.requests = request ∧
      server.walk.Ends walk collected := by
  induction request with
  | zero => exact ⟨first, .initial, sliced_initial, rfl, ended⟩
  | succ request ih =>
      obtain ⟨slice, walk, sliced, rfl, ends⟩ := ih (by rw [Nat.mul_succ] at within; omega)
      rcases slice_step sliced slice with ⟨short, -⟩ | ⟨next, goesOn, further, requests⟩
      · omega
      · have onwards := (Loop.ends_inr_iff goesOn).mp ends
        refine ⟨?_, next, further, requests, onwards⟩
        rw [← requests]
        by_contra answered
        refine not_exact_of_whole full ?_ ?_ onwards exactly
        · rw [further.offset]
          exact Bool.eq_false_of_not_eq_true answered
        · have limit : maxContactsLimit = 100 := rfl
          rw [further.collected, List.length_take, requests, Nat.mul_succ]
          omega

theorem whole_first (full : maxContactsLimit ≤ server.list.length)
    (whole : server.sliceAt 0 = false) :
    ∃ next, server.walk.step .initial = .inr next ∧ next.offset = server.list.length ∧
      next.collected.blocked = server.list ∧ next.requests = 1 := by
  have fits := server.fits
  obtain ⟨next, goesOn, offset, grown, requests⟩ := whole_step .initial full whole
  refine ⟨next, goesOn, ?_, grown, requests⟩
  have start : BlockedWalk.initial.offset = 0 := rfl
  rw [offset, start, Int.zero_add, Int.bmod_eq_of_le] <;> omega

theorem exact_of_short (short : server.list.length < maxContactsLimit) : server.Exact := by
  have fits := server.fits
  have page : ∀ slice, server.sliceAt 0 = slice →
      (server.answers 0 0 maxContactsLimit).page.blocked = server.list := by
    intro slice answered
    cases slice with
    | false => exact server.whole _ _ _ answered
    | true =>
        have slice := server.sliced 0 0 maxContactsLimit answered
        have all := List.take_of_length_le (Nat.le_of_lt short)
        exact slice.trans ((entries_at server.list 0 maxContactsLimit).trans all)
  rcases step_eq server .initial _ (page _ rfl) with ⟨-, collected, finished, grown⟩ | ⟨full, -⟩
  · exact ⟨collected, Loop.ends_of_inl finished, grown⟩
  · omega

theorem exact_of_slices
    (slices : ∀ request, maxContactsLimit * request ≤ server.list.length →
      server.sliceAt request = true) : server.Exact :=
  ends_of_slices sliced_initial slices

/-- After the whole list nothing is left for a slice. -/
theorem exact_of_whole_first (full : maxContactsLimit ≤ server.list.length)
    (whole : server.sliceAt 0 = false)
    (slice : (server.answers 1 server.list.length maxContactsLimit).isSlice = true) :
    server.Exact := by
  obtain ⟨next, goesOn, offset, grown, requests⟩ := whole_first full whole
  have page : (server.answers next.requests next.offset maxContactsLimit).page.blocked = [] := by
    rw [requests, offset, server.sliced _ _ _ slice, entries_at, List.drop_length, List.take_nil]
  rcases step_eq server next _ page with ⟨-, collected, finished, last⟩ | ⟨more, -⟩
  · refine ⟨collected, (Loop.ends_inr_iff goesOn).mpr (Loop.ends_of_inl finished), ?_⟩
    rw [last, List.append_nil, grown]
  · cases more

theorem suited_of_exact (full : maxContactsLimit ≤ server.list.length)
    (exactly : server.Exact) : server.Suited := by
  obtain ⟨collected, ends, eq⟩ := exactly
  right
  cases first : server.sliceAt 0 with
  | true => exact .inl fun request within => (slices_of_exact full first ends eq request within).1
  | false =>
      right
      obtain ⟨next, goesOn, offset, grown, requests⟩ := whole_first full first
      refine ⟨rfl, ?_⟩
      by_contra answered
      refine not_exact_of_whole full ?_ ?_ ((Loop.ends_inr_iff goesOn).mp ends) eq
      · rw [requests, offset]
        exact Bool.eq_false_of_not_eq_true answered
      · have limit : maxContactsLimit = 100 := rfl
        rw [grown]
        omega

theorem exact_iff_suited (server : BlockedServer) : server.Exact ↔ server.Suited := by
  constructor
  · intro exactly
    rcases Nat.lt_or_ge server.list.length maxContactsLimit with short | full
    · exact .inl short
    · exact suited_of_exact full exactly
  · intro suited
    rcases suited with short | slices | ⟨whole, slice⟩
    · exact exact_of_short short
    · exact exact_of_slices slices
    · rcases Nat.lt_or_ge server.list.length maxContactsLimit with short | full
      · exact exact_of_short short
      · exact exact_of_whole_first full whole slice

/-- A server that knows only the whole list. -/
def wholeAlways (list : List PeerBlocked) (fits : list.length < 2 ^ 31) : BlockedServer where
  list
  fits
  answers _ _ _ := .blocked ⟨list, [], []⟩
  whole _ _ _ _ := rfl
  sliced _ _ _ slice := by cases slice

/-- A hundred blocked peers, answered whole, are asked for again and again. -/
theorem hundred_blocked_not_exact :
    ¬ (wholeAlways (List.replicate 100 ⟨.user 1, 0⟩) (by decide)).Exact := by
  intro exactly
  have full : maxContactsLimit ≤ (List.replicate 100 (PeerBlocked.mk (.user 1) 0)).length := by
    decide
  rcases suited_of_exact full exactly with short | slices | ⟨-, slice⟩
  · exact Nat.not_lt.mpr full short
  · cases slices 0 (Nat.zero_le _)
  · cases slice

end BlockedServer
end Kotlogramme.Contacts
