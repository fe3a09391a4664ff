/-
The hash of a private invite link.

A link is the list of its characters.  What names Telegram in it is read apart from
what the path says: every link to one of Telegram's hosts has its path, and the path
is its segments.
-/

import Kotlogramme.Foundation.Splitting

namespace Kotlogramme.Chats
namespace InviteLinks

open Splitting

/-! ### The parser -/

def eqIgnoreAsciiCase (left right : List Char) : Bool :=
  left.map Char.toLower == right.map Char.toLower

def hosts : List (List Char) :=
  ["t.me".toList, "telegram.me".toList, "telegram.dog".toList, "tg.dev".toList,
    "telesco.pe".toList]

def isWeb (scheme : List Char) : Bool :=
  eqIgnoreAsciiCase scheme "https".toList || eqIgnoreAsciiCase scheme "http".toList

/-- Neither a query nor a fragment starts here. -/
def inPage (character : Char) : Bool := character != '?' && character != '#'

def hostOf (authority : List Char) : List Char :=
  ((authority.rtakeWhile (· != '@')).takeWhile (· != ':')).map Char.toLower

/-- The path of a link on one of Telegram's hosts. -/
def linkPath (link : List Char) : Option (List Char) := do
  let (scheme, rest) ← splitOnce [':', '/', '/'] link
  if !isWeb scheme then none
  else
    let rest := rest.takeWhile inPage
    let (authority, path) := (splitOnce ['/'] rest).getD (rest, [])
    if hosts.contains (hostOf authority) then some path else none

/-- `replace('+', "")`. -/
def withoutPlus (segment : List Char) : List Char := segment.filter (· != '+')

def segmentsHash : List (List Char) → Option (List Char)
  | [] => none
  | ['+' :: hash] => some (withoutPlus hash)
  | [_] => none
  | first :: second :: _ =>
      if "joinchat".toList <+: first then some second
      else if ['+'] <+: first then some (withoutPlus first)
      else none

def inviteHash (link : List Char) : Option (List Char) := do
  let path ← linkPath link
  segmentsHash (path.splitOn '/')

/-! ### Links to Telegram -/

/-- An http or https link to one of Telegram's hosts, with its path. -/
inductive TelegramLink : List Char → List Char → Prop
  | intro {scheme credentials host port place path extra : List Char}
      (web : isWeb scheme = true)
      (user : ∀ character ∈ credentials.getLast?, character = '@')
      (telegram : host.map Char.toLower ∈ hosts)
      (number : ∀ character ∈ port.head?, character = ':')
      (noUser : '@' ∉ port)
      (authority : ∀ character ∈ credentials ++ (host ++ port),
        character ≠ '/' ∧ inPage character = true)
      (placed : (place = [] ∧ path = []) ∨ place = '/' :: path)
      (page : ∀ character ∈ path, inPage character = true)
      (ended : Stops inPage extra) :
      TelegramLink (scheme ++ ([':', '/', '/'] ++ (credentials ++ (host ++ port) ++ place ++ extra)))
        path

theorem mem_lower {character : Char} {text : List Char} (member : character ∈ text)
    (fixed : character.toLower = character) : character ∈ text.map Char.toLower := by
  rw [← fixed]
  exact List.mem_map_of_mem member

theorem not_mem_web {scheme : List Char} (web : isWeb scheme = true) {character : Char}
    (fixed : character.toLower = character)
    (absent : character ∉ "https".toList.map Char.toLower ∧
      character ∉ "http".toList.map Char.toLower) : character ∉ scheme := by
  intro member
  have lower := mem_lower member fixed
  simp only [isWeb, eqIgnoreAsciiCase, Bool.or_eq_true, beq_iff_eq] at web
  rcases web with https | http
  · rw [https] at lower
    exact absent.1 lower
  · rw [http] at lower
    exact absent.2 lower

theorem web_ne_nil {scheme : List Char} (web : isWeb scheme = true) : scheme ≠ [] := by
  intro empty
  subst empty
  exact absurd web (by decide)

theorem host_plain {host : List Char} (telegram : host.map Char.toLower ∈ hosts) :
    '@' ∉ host ∧ ':' ∉ host := by
  have plain : ∀ known ∈ hosts, '@' ∉ known ∧ ':' ∉ known := by decide
  have known := plain _ telegram
  exact ⟨fun member => known.1 (mem_lower member (by decide)),
    fun member => known.2 (mem_lower member (by decide))⟩

theorem hostOf_eq {credentials host port : List Char}
    (user : ∀ character ∈ credentials.getLast?, character = '@')
    (number : ∀ character ∈ port.head?, character = ':')
    (plain : '@' ∉ host ∧ ':' ∉ host) (noUser : '@' ∉ port) :
    hostOf (credentials ++ (host ++ port)) = host.map Char.toLower := by
  have named : (credentials ++ (host ++ port)).rtakeWhile (· != '@') = host ++ port := by
    apply rtakeWhile_append_stops
    · intro character member
      rw [bne_iff_ne]
      intro same
      rcases List.mem_append.mp member with inHost | inPort
      · exact plain.1 (same ▸ inHost)
      · exact noUser (same ▸ inPort)
    · intro character last
      rw [user character last]
      rfl
  have bare : (host ++ port).takeWhile (· != ':') = host := by
    apply takeWhile_append_stops
    · intro character member
      rw [bne_iff_ne]
      intro same
      exact plain.2 (same ▸ member)
    · intro character first
      rw [number character first]
      rfl
  rw [hostOf, named, bare]

/-- The authority ends at the first slash, if there is one. -/
theorem splitOnce_authority {authority place path : List Char} (plain : '/' ∉ authority)
    (placed : (place = [] ∧ path = []) ∨ place = '/' :: path) :
    (splitOnce ['/'] (authority ++ place)).getD (authority ++ place, []) = (authority, path) := by
  rcases placed with ⟨none, empty⟩ | slash
  · subst none empty
    rw [List.append_nil]
    have absent : ¬ ['/'] <:+: authority := by
      intro occurs
      exact plain (occurs.subset (List.mem_singleton_self _))
    rw [splitOnce_eq_none.mpr absent]
    rfl
  · subst slash
    have first : FirstAt ['/'] (authority ++ '/' :: path) authority path :=
      firstAt_of_not_mem plain
    rw [splitOnce_eq_some.mpr first]
    rfl

theorem page_of_parts {authority place path : List Char}
    (inAuthority : ∀ character ∈ authority, inPage character = true)
    (placed : (place = [] ∧ path = []) ∨ place = '/' :: path)
    (page : ∀ character ∈ path, inPage character = true) :
    ∀ character ∈ authority ++ place, inPage character = true := by
  intro character member
  rcases List.mem_append.mp member with early | late
  · exact inAuthority character early
  · rcases placed with ⟨none, -⟩ | slash
    · rw [none] at late
      exact absurd late List.not_mem_nil
    · rw [slash] at late
      rcases List.mem_cons.mp late with here | later
      · rw [here]
        rfl
      · exact page character later

theorem linkPath_of_telegramLink {link path : List Char} (telegram : TelegramLink link path) :
    linkPath link = some path := by
  cases telegram with
  | @intro scheme credentials host port place path extra web user telegram number noUser authority
      placed page ended =>
      have cut : splitOnce [':', '/', '/'] (scheme ++ ([':', '/', '/'] ++
          (credentials ++ (host ++ port) ++ place ++ extra))) =
            some (scheme, credentials ++ (host ++ port) ++ place ++ extra) :=
        splitOnce_eq_some.mpr (firstAt_of_not_mem (not_mem_web web (by decide) (by decide)))
      have shown : (credentials ++ (host ++ port) ++ place ++ extra).takeWhile inPage =
          credentials ++ (host ++ port) ++ place :=
        takeWhile_append_stops (page_of_parts (fun _ member => (authority _ member).2) placed page)
          ended
      have noSlash : '/' ∉ credentials ++ (host ++ port) :=
        fun member => (authority '/' member).1 rfl
      have known : hosts.contains (hostOf (credentials ++ (host ++ port))) = true := by
        rw [hostOf_eq user number (host_plain telegram) noUser, List.contains_iff_mem]
        exact telegram
      unfold linkPath
      rw [cut]
      simp only [Option.bind_eq_bind, Option.bind_some, web, shown,
        splitOnce_authority noSlash placed, known]
      rfl

theorem authority_cases (page : List Char) :
    ∃ authority place path, page = authority ++ place ∧ '/' ∉ authority ∧
      ((place = [] ∧ path = []) ∨ place = '/' :: path) ∧
      (splitOnce ['/'] page).getD (page, []) = (authority, path) := by
  rcases splitOnce_eq_some_or_none ['/'] page with
    ⟨authority, path, found, first⟩ | ⟨missing, absent⟩
  · refine ⟨authority, '/' :: path, path, first.split, first.not_mem, .inr rfl, ?_⟩
    rw [found]
    rfl
  · refine ⟨page, [], [], (List.append_nil page).symm, ?_, .inl ⟨rfl, rfl⟩, ?_⟩
    · intro member
      obtain ⟨early, late, split⟩ := List.append_of_mem member
      exact absent ⟨early, late, by rw [split, List.append_assoc]; rfl⟩
    · rw [missing]
      rfl

/-- Every authority is credentials, a host and a port. -/
theorem authority_parts (authority : List Char) :
    ∃ credentials host port, authority = credentials ++ (host ++ port) ∧
      (∀ character ∈ credentials.getLast?, character = '@') ∧
      (∀ character ∈ port.head?, character = ':') ∧ '@' ∉ port ∧
      hostOf authority = host.map Char.toLower := by
  refine ⟨authority.rdropWhile (· != '@'), (authority.rtakeWhile (· != '@')).takeWhile (· != ':'),
    (authority.rtakeWhile (· != '@')).dropWhile (· != ':'), ?_, ?_, ?_, ?_, rfl⟩
  · rw [List.takeWhile_append_dropWhile, List.rdropWhile_append_rtakeWhile]
  · intro character last
    obtain ⟨some, same⟩ := List.mem_getLast?_eq_getLast last
    have stopped := List.rdropWhile_last_not (· != '@') authority some
    rw [← same] at stopped
    simpa using stopped
  · intro character first
    simpa using stops_dropWhile _ _ character first
  · intro member
    have inside := List.mem_rtakeWhile_imp ((List.dropWhile_suffix _).subset member)
    simp at inside

/-- A page after the scheme whose host is known is a link to Telegram. -/
theorem telegramLink_of_parts {scheme authority place path extra : List Char}
    (web : isWeb scheme = true) (known : hostOf authority ∈ hosts) (noSlash : '/' ∉ authority)
    (placed : (place = [] ∧ path = []) ∨ place = '/' :: path)
    (shown : ∀ character ∈ authority ++ place, inPage character = true)
    (ended : Stops inPage extra) :
    TelegramLink (scheme ++ ([':', '/', '/'] ++ (authority ++ place ++ extra))) path := by
  obtain ⟨credentials, host, port, parts, user, number, noUser, named⟩ := authority_parts authority
  rw [named] at known
  subst parts
  refine .intro web user known number noUser ?_ placed ?_ ended
  · intro character member
    refine ⟨?_, shown character (List.mem_append_left place member)⟩
    intro same
    exact noSlash (same ▸ member)
  · intro character member
    rcases placed with ⟨-, empty⟩ | slash
    · rw [empty] at member
      exact absurd member List.not_mem_nil
    · apply shown
      rw [slash]
      exact List.mem_append_right _ (List.mem_cons_of_mem _ member)

theorem telegramLink_of_linkPath {link path : List Char} (found : linkPath link = some path) :
    TelegramLink link path := by
  unfold linkPath at found
  cases cut : splitOnce [':', '/', '/'] link with
  | none =>
      rw [cut] at found
      cases found
  | some parts =>
      rcases parts with ⟨scheme, rest⟩
      rw [cut] at found
      simp only [Option.bind_eq_bind, Option.bind_some] at found
      cases web : isWeb scheme with
      | false =>
          rw [web] at found
          cases found
      | true =>
          rw [web] at found
          simp only [Bool.not_true, Bool.false_eq_true, if_false] at found
          obtain ⟨authority, place, other, page, noSlash, placed, split⟩ :=
            authority_cases (rest.takeWhile inPage)
          rw [split] at found
          dsimp only at found
          split at found
          · rename_i known
            cases found
            have shown : ∀ character ∈ authority ++ place, inPage character = true := by
              intro character member
              rw [← page] at member
              exact List.mem_takeWhile_imp member
            have built := telegramLink_of_parts web (List.contains_iff_mem.mp known) noSlash placed
              shown (stops_dropWhile inPage rest)
            rw [← page, List.takeWhile_append_dropWhile] at built
            rw [(splitOnce_eq_some.mp cut).split]
            exact built
          · cases found

theorem linkPath_eq_some {link path : List Char} :
    linkPath link = some path ↔ TelegramLink link path :=
  ⟨telegramLink_of_linkPath, linkPath_of_telegramLink⟩

/-! ### Private invites -/

/-- The two private shapes of a path, by its segments. -/
inductive InvitePath (hash : List Char) : List (List Char) → Prop
  | plus (some : hash ≠ []) (more : List (List Char)) : InvitePath hash (('+' :: hash) :: more)
  | joinchat (some : hash ≠ []) (more : List (List Char)) :
      InvitePath hash ("joinchat".toList :: hash :: more)

theorem invitePath_iff {hash : List Char} {segments : List (List Char)} :
    InvitePath hash segments ↔ hash ≠ [] ∧
      ((∃ more, segments = ('+' :: hash) :: more) ∨
        ∃ more, segments = "joinchat".toList :: hash :: more) := by
  constructor
  · intro invite
    cases invite with
    | plus some more => exact ⟨some, .inl ⟨more, rfl⟩⟩
    | joinchat some more => exact ⟨some, .inr ⟨more, rfl⟩⟩
  · intro shape
    obtain ⟨some, ⟨more, same⟩ | ⟨more, same⟩⟩ := shape
    · rw [same]
      exact .plus some more
    · rw [same]
      exact .joinchat some more

def PrivateInvite (link hash : List Char) : Prop :=
  ∃ path, TelegramLink link path ∧ InvitePath hash (path.splitOn '/')

/-- The first segment is one of the two shapes as soon as it begins like it. -/
def PlainPath (segments : List (List Char)) : Prop :=
  (∀ hash more, segments = ('+' :: hash) :: more → hash ≠ [] ∧ '+' ∉ hash) ∧
    ∀ tail next more, segments = ("joinchat".toList ++ tail) :: next :: more →
      tail = [] ∧ next ≠ []

theorem segmentsHash_plus (hash : List Char) (more : List (List Char)) :
    segmentsHash (('+' :: hash) :: more) = some (withoutPlus hash) := by
  cases more with
  | nil => rfl
  | cons second rest =>
      have notJoinchat : ¬ "joinchat".toList <+: '+' :: hash := by
        intro begins
        exact absurd (List.cons_prefix_cons.mp begins).1 (by decide)
      rw [segmentsHash, if_neg notJoinchat, if_pos ⟨hash, rfl⟩]
      rfl

theorem segmentsHash_joinchat (tail next : List Char) (more : List (List Char)) :
    segmentsHash (("joinchat".toList ++ tail) :: next :: more) = some next := by
  rw [segmentsHash, if_pos (List.prefix_append _ tail)]

/-- Any other path has no hash. -/
theorem segmentsHash_none {segments : List (List Char)}
    (noPlus : ∀ hash more, segments ≠ ('+' :: hash) :: more)
    (noJoinchat : ∀ tail next more, segments ≠ ("joinchat".toList ++ tail) :: next :: more) :
    segmentsHash segments = none := by
  match segments, noPlus, noJoinchat with
  | [], _, _ => rfl
  | [[]], _, _ => rfl
  | [character :: rest], noPlus, _ =>
      have other : character ≠ '+' := by
        intro same
        exact noPlus rest [] (by rw [same])
      simp [segmentsHash, other]
  | first :: second :: more, noPlus, noJoinchat =>
      have notJoinchat : ¬ "joinchat".toList <+: first := by
        intro begins
        obtain ⟨tail, same⟩ := begins
        exact noJoinchat tail second more (by rw [same])
      have notPlus : ¬ ['+'] <+: first := by
        intro begins
        obtain ⟨hash, same⟩ := begins
        exact noPlus hash (second :: more) (by rw [← same]; rfl)
      rw [segmentsHash, if_neg notJoinchat, if_neg notPlus]

theorem withoutPlus_eq {hash : List Char} : withoutPlus hash = hash ↔ '+' ∉ hash := by
  rw [withoutPlus, List.filter_eq_self]
  constructor
  · intro all member
    simpa using all '+' member
  · intro absent character member
    rw [bne_iff_ne]
    intro same
    exact absent (same ▸ member)

theorem plainPath_of_exact {segments : List (List Char)}
    (exact : ∀ hash, segmentsHash segments = some hash → InvitePath hash segments) :
    PlainPath segments := by
  refine ⟨?_, ?_⟩
  · intro hash more same
    subst same
    obtain ⟨some, ⟨_, split⟩ | ⟨_, split⟩⟩ :=
      invitePath_iff.mp (exact _ (segmentsHash_plus hash more))
    · have kept := (List.cons.inj (List.cons.inj split).1).2
      rw [← kept] at some
      exact ⟨some, withoutPlus_eq.mp kept.symm⟩
    · exact absurd (List.cons.inj (List.cons.inj split).1).1 (by decide)
  · intro tail next more same
    subst same
    obtain ⟨some, ⟨_, split⟩ | ⟨_, split⟩⟩ :=
      invitePath_iff.mp (exact _ (segmentsHash_joinchat tail next more))
    · exact absurd (List.cons.inj (List.cons.inj split).1).1 (by decide)
    · have bare : "joinchat".toList ++ tail = "joinchat".toList ++ [] := by
        rw [List.append_nil]
        exact (List.cons.inj split).1
      exact ⟨List.append_cancel_left bare, some⟩

theorem PlainPath.invitePath {segments : List (List Char)} (plain : PlainPath segments)
    {hash : List Char} (found : segmentsHash segments = some hash) :
    InvitePath hash segments := by
  by_cases plus : ∃ text more, segments = ('+' :: text) :: more
  · obtain ⟨text, more, same⟩ := plus
    obtain ⟨some, single⟩ := plain.1 text more same
    subst same
    rw [segmentsHash_plus, withoutPlus_eq.mpr single] at found
    cases found
    exact .plus some more
  · by_cases joinchat : ∃ tail next more, segments = ("joinchat".toList ++ tail) :: next :: more
    · obtain ⟨tail, next, more, same⟩ := joinchat
      obtain ⟨bare, some⟩ := plain.2 tail next more same
      subst same bare
      rw [segmentsHash_joinchat] at found
      cases found
      rw [List.append_nil]
      exact .joinchat some more
    · rw [segmentsHash_none (fun text more same => plus ⟨text, more, same⟩)
        (fun tail next more same => joinchat ⟨tail, next, more, same⟩)] at found
      cases found

theorem segmentsHash_iff (segments : List (List Char)) :
    (∀ hash, segmentsHash segments = some hash ↔ InvitePath hash segments) ↔
      PlainPath segments := by
  constructor
  · intro exact
    exact plainPath_of_exact fun hash => (exact hash).mp
  · intro plain hash
    constructor
    · exact plain.invitePath
    · intro invite
      cases invite with
      | plus some more =>
          rw [segmentsHash_plus, withoutPlus_eq.mpr (plain.1 hash more rfl).2]
      | joinchat some more =>
          have found := segmentsHash_joinchat [] hash more
          rw [List.append_nil] at found
          exact found

theorem inviteHash_eq_some {link hash : List Char} :
    inviteHash link = some hash ↔
      ∃ path, TelegramLink link path ∧ segmentsHash (path.splitOn '/') = some hash := by
  unfold inviteHash
  simp only [Option.bind_eq_bind, Option.bind_eq_some_iff, linkPath_eq_some]

theorem inviteHash_of_telegramLink {link path : List Char} (telegram : TelegramLink link path) :
    inviteHash link = segmentsHash (path.splitOn '/') := by
  rw [inviteHash, linkPath_of_telegramLink telegram]
  rfl

theorem TelegramLink.unique {link path other : List Char} (first : TelegramLink link path)
    (second : TelegramLink link other) : path = other :=
  Option.some.inj ((linkPath_of_telegramLink first).symm.trans (linkPath_of_telegramLink second))

/-- The parser takes exactly the private invites, with their hash, if the link is none to
Telegram or its path begins like an invite only where it is one. -/
theorem inviteHash_exact_iff (link : List Char) :
    (∀ hash, inviteHash link = some hash ↔ PrivateInvite link hash) ↔
      ∀ path, TelegramLink link path → PlainPath (path.splitOn '/') := by
  constructor
  · intro exact path telegram
    apply (segmentsHash_iff _).mp
    intro hash
    have same := exact hash
    rw [inviteHash_of_telegramLink telegram] at same
    rw [same]
    constructor
    · intro invite
      obtain ⟨other, telegramToo, shape⟩ := invite
      rw [telegram.unique telegramToo]
      exact shape
    · intro shape
      exact ⟨path, telegram, shape⟩
  · intro plain hash
    rw [inviteHash_eq_some]
    constructor
    · intro found
      obtain ⟨path, telegram, hashed⟩ := found
      exact ⟨path, telegram, ((segmentsHash_iff _).mpr (plain path telegram) hash).mp hashed⟩
    · intro invite
      obtain ⟨path, telegram, shape⟩ := invite
      exact ⟨path, telegram, ((segmentsHash_iff _).mpr (plain path telegram) hash).mpr shape⟩

/-- A hash that is empty. -/
theorem bare_plus_accepted : inviteHash "https://t.me/+".toList = some [] ∧
    inviteHash "https://t.me/+a+b".toList = some "ab".toList ∧
    inviteHash "https://t.me/joinchatter/abc".toList = some "abc".toList ∧
    ¬ ∀ hash, inviteHash "https://t.me/+".toList = some hash ↔
      PrivateInvite "https://t.me/+".toList hash := by
  have accepted : inviteHash "https://t.me/+".toList = some [] := by decide
  refine ⟨accepted, by decide, by decide, ?_⟩
  intro exact
  obtain ⟨path, -, shape⟩ := (exact []).mp accepted
  exact (invitePath_iff.mp shape).1 rfl

end InviteLinks
end Kotlogramme.Chats
