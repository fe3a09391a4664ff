/-
The slug of a folder invite, read from the URL that the layer reports.

The marker in front of the slug is looked for in the whole URL, and what follows it
is cut off afterwards.  The path of a URL is the one of the generic syntax, which
every text has.
-/

import Kotlogramme.Chats.InviteLinks

namespace Kotlogramme.Chats
namespace InviteSlugs

open Splitting InviteLinks

def plusMarker : List Char := ['/', '+']

def joinchatMarker : List Char := "joinchat/".toList

def slugTail (url : List Char) : Option (List Char) :=
  ((splitOnce plusMarker url).map Prod.snd).or ((splitOnce joinchatMarker url).map Prod.snd)

def inSlug (character : Char) : Bool := character != '?' && character != '#' && character != '/'

def noSlug (url : List Char) : String :=
  "the invite URL " ++ String.ofList url ++ " carries no slug"

def slugOf (url : List Char) : Except String (List Char) :=
  match slugTail url with
  | none => .error (noSlug url)
  | some tail =>
      let slug := tail.takeWhile inSlug
      if slug = [] then .error (noSlug url) else .ok slug

/-! ### The path of a URL -/

/-- What stands before a query and a fragment. -/
def hierarchy (url : List Char) : List Char := url.takeWhile inPage

def inScheme (character : Char) : Bool := character != ':' && character != '/'

/-- A scheme is what ends at a colon before any slash. -/
def afterScheme (text : List Char) : List Char :=
  match text.takeWhile inScheme, text.dropWhile inScheme with
  | _ :: _, ':' :: rest => rest
  | _, _ => text

def urlPath (url : List Char) : List Char :=
  match afterScheme (hierarchy url) with
  | '/' :: '/' :: rest => rest.dropWhile (· != '/')
  | rest => rest

theorem afterScheme_suffix (text : List Char) : afterScheme text <:+ text := by
  unfold afterScheme
  split
  · rename_i rest scheme colon
    have inside := List.dropWhile_suffix inScheme (l := text)
    rw [colon] at inside
    exact (List.suffix_cons ':' rest).trans inside
  · exact List.suffix_rfl

theorem urlPath_suffix (url : List Char) : urlPath url <:+ hierarchy url := by
  unfold urlPath
  split
  · rename_i rest slashes
    have inside := afterScheme_suffix (hierarchy url)
    rw [slashes] at inside
    exact (List.dropWhile_suffix _).trans (((List.suffix_cons '/' rest).trans
      (List.suffix_cons '/' _)).trans inside)
  · exact afterScheme_suffix _

/-- The scheme and the authority. -/
def urlFront (url : List Char) : List Char :=
  (hierarchy url).take ((hierarchy url).length - (urlPath url).length)

def urlBack (url : List Char) : List Char := url.dropWhile inPage

theorem url_parts (url : List Char) : url = urlFront url ++ (urlPath url ++ urlBack url) := by
  obtain ⟨front, whole⟩ := urlPath_suffix url
  have length := congrArg List.length whole
  rw [List.length_append] at length
  have front_eq : urlFront url = front := by
    rw [urlFront, ← length, Nat.add_sub_cancel, ← whole, List.take_left]
  rw [front_eq, ← List.append_assoc, whole]
  exact List.takeWhile_append_dropWhile.symm

theorem urlPath_page (url : List Char) : ∀ character ∈ urlPath url, inPage character = true := by
  intro character member
  exact List.mem_takeWhile_imp ((urlPath_suffix url).subset member)

/-- The non-empty rest of a segment that begins with a plus sign, or the non-empty
segment after `joinchat`. -/
def Follows (url slug : List Char) : Prop :=
  slug ≠ [] ∧ '/' ∉ slug ∧ ∃ before after, Stops (· != '/') after ∧
    (urlPath url = before ++ (plusMarker ++ (slug ++ after)) ∨
      urlPath url = before ++ (('/' :: joinchatMarker) ++ (slug ++ after)))

/-- The slug is a segment of the invite's own path, and the one that joining takes. -/
structure Exact (url : List Char) : Prop where
  own : ∀ slug, slugOf url = .ok slug → Follows url slug
  refused : (∀ slug, ¬ Follows url slug) → slugOf url = .error (noSlug url)
  agrees : ∀ slug hash, slugOf url = .ok slug → inviteHash url = some hash → slug = hash

/-! ### Where the marker is -/

inductive Marked (url : List Char) : List Char → List Char → List Char → Prop
  | plus {before tail : List Char} (first : FirstAt plusMarker url before tail) :
      Marked url before plusMarker tail
  | joinchat {before tail : List Char} (noPlus : ¬ plusMarker <:+: url)
      (first : FirstAt joinchatMarker url before tail) : Marked url before joinchatMarker tail

/-- The tail begins with a text that ends where the tail does, or at a delimiter. -/
def Reads (tail slug : List Char) : Prop :=
  (∀ character ∈ slug, inSlug character = true) ∧
    ∃ after, tail = slug ++ after ∧ Stops inSlug after

theorem slugTail_eq_some {url tail : List Char} :
    slugTail url = some tail ↔ ∃ before marker, Marked url before marker tail := by
  unfold slugTail
  rcases splitOnce_eq_some_or_none plusMarker url with
    ⟨before, after, found, first⟩ | ⟨missing, absent⟩
  · rw [found]
    constructor
    · intro same
      cases same
      exact ⟨before, plusMarker, .plus first⟩
    · intro marked
      obtain ⟨other, marker, marked⟩ := marked
      cases marked with
      | plus second =>
          rw [(first.unique second).2]
          rfl
      | joinchat noPlus => exact absurd first.occurs noPlus
  · rw [missing, Option.map_none, Option.none_or, Option.map_eq_some_iff]
    constructor
    · intro found
      obtain ⟨⟨before, after⟩, found, same⟩ := found
      cases same
      exact ⟨before, joinchatMarker, .joinchat absent (splitOnce_eq_some.mp found)⟩
    · intro marked
      obtain ⟨before, marker, marked⟩ := marked
      cases marked with
      | plus first => exact absurd first.occurs absent
      | joinchat _ first => exact ⟨(before, tail), splitOnce_eq_some.mpr first, rfl⟩

theorem reads_iff {tail slug : List Char} : Reads tail slug ↔ tail.takeWhile inSlug = slug := by
  constructor
  · intro reads
    obtain ⟨inside, after, split, stops⟩ := reads
    rw [split, takeWhile_append_stops inside stops]
  · intro same
    subst same
    exact ⟨fun _ member => List.mem_takeWhile_imp member, _,
      List.takeWhile_append_dropWhile.symm, stops_dropWhile inSlug tail⟩

theorem slugOf_eq_ok {url slug : List Char} :
    slugOf url = .ok slug ↔
      ∃ before marker tail, Marked url before marker tail ∧ Reads tail slug ∧ slug ≠ [] := by
  unfold slugOf
  cases found : slugTail url with
  | none =>
      refine iff_of_false (fun impossible => by cases impossible) ?_
      intro marked
      obtain ⟨before, marker, tail, marked, -⟩ := marked
      rw [slugTail_eq_some.mpr ⟨before, marker, marked⟩] at found
      cases found
  | some tail =>
      dsimp only
      constructor
      · intro accepted
        split at accepted
        · cases accepted
        · rename_i some
          obtain ⟨before, marker, marked⟩ := slugTail_eq_some.mp found
          have same := Except.ok.inj accepted
          rw [same] at some
          exact ⟨before, marker, tail, marked, reads_iff.mpr same, some⟩
      · intro marked
        obtain ⟨before, marker, other, marked, reads, some⟩ := marked
        rw [slugTail_eq_some.mpr ⟨before, marker, marked⟩] at found
        cases found
        rw [reads_iff.mp reads, if_neg some]

theorem slugOf_eq_error {url : List Char} (refused : ∀ slug, slugOf url ≠ .ok slug) :
    slugOf url = .error (noSlug url) := by
  unfold slugOf at refused ⊢
  cases found : slugTail url with
  | none => rfl
  | some tail =>
      rw [found] at refused
      dsimp only at refused ⊢
      by_cases empty : tail.takeWhile inSlug = []
      · rw [if_pos empty]
      · rw [if_neg empty] at refused
        exact absurd rfl (refused _)

/-- The marker, with the slash in front of `joinchat`, is part of the path. -/
inductive InPath (url : List Char) : List Char → List Char → Prop
  | plus {inner rest : List Char} (path : urlPath url = inner ++ (plusMarker ++ rest)) :
      InPath url (urlFront url ++ inner) plusMarker
  | joinchat {inner rest : List Char}
      (path : urlPath url = inner ++ ('/' :: joinchatMarker ++ rest)) :
      InPath url (urlFront url ++ inner ++ ['/']) joinchatMarker

theorem Marked.split {url before marker tail : List Char} (marked : Marked url before marker tail) :
    url = before ++ (marker ++ tail) := by
  cases marked with
  | plus first => exact first.split
  | joinchat _ first => exact first.split

theorem inSlug_eq (character : Char) :
    inSlug character = (inPage character && (character != '/')) :=
  rfl

/-- What is read in the path is the rest of a segment. -/
theorem reads_in_path {url rest slug : List Char}
    (page : ∀ character ∈ rest, inPage character = true)
    (reads : Reads (rest ++ urlBack url) slug) : slug = rest.takeWhile (· != '/') := by
  have stops : Stops inSlug (rest.dropWhile (· != '/') ++ urlBack url) := by
    intro character first
    cases left : rest.dropWhile (· != '/') with
    | nil =>
        rw [left, List.nil_append] at first
        rw [inSlug_eq, stops_dropWhile inPage url character first]
        rfl
    | cons other later =>
        have ended : (other != '/') = false :=
          stops_dropWhile (· != '/') rest other (by rw [left]; rfl)
        rw [left, List.cons_append, List.head?_cons, Option.mem_some_iff] at first
        subst first
        rw [inSlug_eq, ended, Bool.and_false]
  have whole : rest ++ urlBack url =
      rest.takeWhile (· != '/') ++ (rest.dropWhile (· != '/') ++ urlBack url) := by
    rw [← List.append_assoc, List.takeWhile_append_dropWhile]
  rw [← reads_iff.mp reads, whole]
  apply takeWhile_append_stops _ stops
  intro character member
  have noSlash := List.mem_takeWhile_imp member
  rw [inSlug_eq, page character ((List.takeWhile_prefix _).subset member), Bool.true_and]
  exact noSlash

theorem page_of_path {url inner whole rest : List Char}
    (path : urlPath url = inner ++ (whole ++ rest)) :
    ∀ character ∈ rest, inPage character = true := by
  intro character member
  apply urlPath_page url
  rw [path]
  exact List.mem_append_right _ (List.mem_append_right _ member)

theorem InPath.parts {url before marker : List Char} (place : InPath url before marker) :
    ∃ inner rest, url = before ++ (marker ++ (rest ++ urlBack url)) ∧
      (urlPath url = inner ++ (plusMarker ++ rest) ∨
        urlPath url = inner ++ (('/' :: joinchatMarker) ++ rest)) := by
  have parts := url_parts url
  cases place with
  | @plus inner rest path =>
      rw [path] at parts
      refine ⟨inner, rest, ?_, .inl path⟩
      simpa only [List.append_assoc] using parts
  | @joinchat inner rest path =>
      rw [path] at parts
      refine ⟨inner, rest, ?_, .inr path⟩
      simpa only [List.append_assoc, List.cons_append, List.nil_append] using parts

theorem follows_of_inPath {url before marker tail slug : List Char}
    (marked : Marked url before marker tail) (place : InPath url before marker)
    (reads : Reads tail slug) (some : slug ≠ []) : Follows url slug := by
  obtain ⟨inner, rest, parts, path⟩ := place.parts
  have page : ∀ character ∈ rest, inPage character = true := by
    rcases path with plus | joinchat
    · exact page_of_path plus
    · exact page_of_path joinchat
  have tail_eq : tail = rest ++ urlBack url :=
    List.append_cancel_left (List.append_cancel_left (marked.split.symm.trans parts))
  rw [tail_eq] at reads
  have own := reads_in_path page reads
  refine ⟨some, ?_, inner, rest.dropWhile (· != '/'), stops_dropWhile _ rest, ?_⟩
  · intro member
    rw [own] at member
    simpa using List.mem_takeWhile_imp member
  · rw [own, List.takeWhile_append_dropWhile]
    exact path

/-! ### Links to Telegram -/

theorem web_inScheme {scheme : List Char} (web : isWeb scheme = true) :
    ∀ character ∈ scheme, inScheme character = true := by
  have noColon := not_mem_web web (by decide : ':'.toLower = ':') (by decide)
  have noSlash := not_mem_web web (by decide : '/'.toLower = '/') (by decide)
  intro character member
  rw [inScheme, Bool.and_eq_true, bne_iff_ne, bne_iff_ne]
  exact ⟨fun same => noColon (same ▸ member), fun same => noSlash (same ▸ member)⟩

theorem web_inPage {scheme : List Char} (web : isWeb scheme = true) :
    ∀ character ∈ scheme, inPage character = true := by
  have noQuery := not_mem_web web (by decide : '?'.toLower = '?') (by decide)
  have noFragment := not_mem_web web (by decide : '#'.toLower = '#') (by decide)
  intro character member
  rw [inPage, Bool.and_eq_true, bne_iff_ne, bne_iff_ne]
  exact ⟨fun same => noQuery (same ▸ member), fun same => noFragment (same ▸ member)⟩

theorem afterScheme_web {scheme : List Char} (web : isWeb scheme = true) (rest : List Char) :
    afterScheme (scheme ++ ':' :: rest) = rest := by
  have stops : Stops inScheme (':' :: rest) := by
    intro character first
    cases first
    rfl
  obtain ⟨letter, letters, named⟩ := List.exists_cons_of_ne_nil (web_ne_nil web)
  rw [afterScheme, takeWhile_append_stops (web_inScheme web) stops,
    dropWhile_append_stops (web_inScheme web) stops, named]
  rfl

theorem urlPath_of_parts {scheme authority place extra : List Char} (web : isWeb scheme = true)
    (plain : ∀ character ∈ authority, character ≠ '/')
    (placed : place = [] ∨ ∃ path, place = '/' :: path)
    (page : ∀ character ∈ authority ++ place, inPage character = true)
    (ended : Stops inPage extra) :
    urlPath (scheme ++ ([':', '/', '/'] ++ (authority ++ place ++ extra))) = place := by
  have spread : scheme ++ ([':', '/', '/'] ++ (authority ++ place ++ extra)) =
      scheme ++ ':' :: '/' :: '/' :: (authority ++ place) ++ extra := by
    simp only [List.append_assoc, List.cons_append, List.nil_append]
  have inPage_all : ∀ character ∈ scheme ++ ':' :: '/' :: '/' :: (authority ++ place),
      inPage character = true := by
    intro character member
    rcases List.mem_append.mp member with inScheme | later
    · exact web_inPage web character inScheme
    · simp only [List.mem_cons] at later
      rcases later with colon | slash | slash | later
      · rw [colon]
        rfl
      · rw [slash]
        rfl
      · rw [slash]
        rfl
      · exact page character later
  have stops : Stops (· != '/') place := by
    intro character first
    rcases placed with none | ⟨path, slash⟩
    · rw [none] at first
      cases first
    · rw [slash] at first
      cases first
      rfl
  rw [spread, urlPath, hierarchy, takeWhile_append_stops inPage_all ended, afterScheme_web web]
  exact dropWhile_append_stops
    (fun character member => bne_iff_ne.mpr (plain character member)) stops

theorem urlPath_of_telegramLink {url path : List Char} (telegram : TelegramLink url path) :
    urlPath url = '/' :: path ∨ (urlPath url = [] ∧ path = []) := by
  cases telegram with
  | @intro scheme credentials host port place path extra web user telegram number noUser authority
      placed page ended =>
      have whole := urlPath_of_parts web (fun character member => (authority character member).1)
        (placed.imp And.left fun slash => ⟨path, slash⟩)
        (page_of_parts (fun _ member => (authority _ member).2) placed page) ended
      rw [whole]
      rcases placed with ⟨none, empty⟩ | slash
      · exact .inr ⟨none, empty⟩
      · exact .inl slash

theorem Marked.cases_marker {url before marker tail : List Char}
    (marked : Marked url before marker tail) :
    (marker = plusMarker ∧ FirstAt plusMarker url before tail) ∨
      (marker = joinchatMarker ∧ ¬ plusMarker <:+: url ∧
        FirstAt joinchatMarker url before tail) := by
  cases marked with
  | plus first => exact .inl ⟨rfl, first⟩
  | joinchat noPlus first => exact .inr ⟨rfl, noPlus, first⟩

theorem InPath.cases_marker {url before marker : List Char} (place : InPath url before marker) :
    (marker = plusMarker ∧ ∃ inner rest, before = urlFront url ++ inner ∧
        urlPath url = inner ++ (plusMarker ++ rest)) ∨
      (marker = joinchatMarker ∧ ∃ inner rest, before = urlFront url ++ inner ++ ['/'] ∧
        urlPath url = inner ++ ('/' :: joinchatMarker ++ rest)) := by
  cases place with
  | plus path => exact .inl ⟨rfl, _, _, rfl, path⟩
  | joinchat path => exact .inr ⟨rfl, _, _, rfl, path⟩

theorem markers_apart : plusMarker ≠ joinchatMarker := by decide

/-- A marker in the path is the one that the path begins with. -/
theorem reads_after_plus {url before marker tail slug rest : List Char}
    (marked : Marked url before marker tail) (place : InPath url before marker)
    (reads : Reads tail slug) (path : urlPath url = plusMarker ++ rest) :
    slug = rest.takeWhile (· != '/') := by
  have parts := url_parts url
  rw [path, List.append_assoc] at parts
  rcases marked.cases_marker with ⟨isPlus, first⟩ | ⟨-, absent, -⟩
  · rcases place.cases_marker with ⟨-, inner, other, before_eq, -⟩ | ⟨isJoinchat, -⟩
    · have least : (urlFront url).length ≤ before.length := by
        rw [before_eq, List.length_append]
        exact Nat.le_add_right _ _
      rw [(first.eq_of_le parts least).2] at reads
      exact reads_in_path (page_of_path (path.trans (List.nil_append _).symm)) reads
    · exact absurd (isPlus.symm.trans isJoinchat) markers_apart
  · exact absurd ⟨_, _, by rw [List.append_assoc]; exact parts.symm⟩ absent

theorem reads_after_joinchat {url before marker tail slug rest : List Char}
    (marked : Marked url before marker tail) (place : InPath url before marker)
    (noPlus : ¬ plusMarker <:+: url) (reads : Reads tail slug)
    (path : urlPath url = '/' :: joinchatMarker ++ rest) : slug = rest.takeWhile (· != '/') := by
  have parts := url_parts url
  have spread : urlFront url ++ ('/' :: joinchatMarker ++ rest ++ urlBack url) =
      urlFront url ++ ['/'] ++ (joinchatMarker ++ (rest ++ urlBack url)) := by
    simp only [List.append_assoc, List.cons_append, List.nil_append]
  rw [path, spread] at parts
  rcases marked.cases_marker with ⟨-, first⟩ | ⟨isJoinchat, -, first⟩
  · exact absurd first.occurs noPlus
  · rcases place.cases_marker with ⟨isPlus, -⟩ | ⟨-, inner, other, before_eq, -⟩
    · exact absurd (isPlus.symm.trans isJoinchat) markers_apart
    · have least : (urlFront url ++ ['/']).length ≤ before.length := by
        rw [before_eq, List.length_append, List.length_append, List.length_append]
        omega
      rw [(first.eq_of_le parts least).2] at reads
      exact reads_in_path (page_of_path (path.trans (List.nil_append _).symm)) reads

/-! ### Where both readers agree -/

theorem first_segment {text first : List Char} {more : List (List Char)}
    (split : text.splitOn '/' = first :: more) : text.takeWhile (· != '/') = first := by
  obtain ⟨noSlash, after, whole, stops⟩ := splitOn_head split
  rw [whole]
  apply takeWhile_append_stops _ stops
  intro character member
  rw [bne_iff_ne]
  intro same
  exact noSlash (same ▸ member)

/-- The path of a link to Telegram begins with its first segment. -/
theorem urlPath_eq_cons {url path : List Char} (telegram : TelegramLink url path)
    (some : path ≠ []) : urlPath url = '/' :: path := by
  rcases urlPath_of_telegramLink telegram with here | ⟨-, none⟩
  · exact here
  · exact absurd none some

theorem slug_after_plus {url before marker tail slug path hash : List Char}
    {more : List (List Char)} (telegram : TelegramLink url path)
    (split : path.splitOn '/' = ('+' :: hash) :: more) (marked : Marked url before marker tail)
    (place : InPath url before marker) (reads : Reads tail slug) : slug = hash := by
  have first := first_segment split
  obtain ⟨rest, whole⟩ : ∃ rest, path = '+' :: rest := by
    have begins := List.takeWhile_prefix (· != '/') (l := path)
    rw [first] at begins
    obtain ⟨rest, whole⟩ := begins
    exact ⟨hash ++ rest, whole.symm⟩
  have found := urlPath_eq_cons telegram (by rw [whole]; exact List.cons_ne_nil _ _)
  rw [whole, List.takeWhile_cons_of_pos (by decide)] at first
  rw [whole] at found
  rw [reads_after_plus marked place reads found]
  exact (List.cons.inj first).2

theorem slug_after_joinchat {url before marker tail slug path next : List Char}
    {more : List (List Char)} (telegram : TelegramLink url path)
    (split : path.splitOn '/' = "joinchat".toList :: next :: more)
    (noPlus : ¬ plusMarker <:+: url) (marked : Marked url before marker tail)
    (place : InPath url before marker) (reads : Reads tail slug) : slug = next := by
  obtain ⟨-, ⟨-, none⟩ | ⟨later, whole, rest⟩⟩ := splitOn_eq_cons split
  · exact absurd none (List.cons_ne_nil _ _)
  · have found := urlPath_eq_cons telegram (by rw [whole]; exact List.cons_ne_nil _ _)
    rw [whole] at found
    rw [reads_after_joinchat marked place noPlus reads found]
    exact first_segment rest

/-- Something stands between the marker and the next delimiter. -/
def Followed (tail : List Char) : Prop := ∃ character ∈ tail.head?, inSlug character = true

theorem Reads.followed {tail slug : List Char} (reads : Reads tail slug) (some : slug ≠ []) :
    Followed tail := by
  obtain ⟨inside, after, split, -⟩ := reads
  obtain ⟨character, rest, begins⟩ := List.exists_cons_of_ne_nil some
  refine ⟨character, ?_, inside character (by rw [begins]; exact List.mem_cons_self ..)⟩
  rw [split, begins]
  rfl

theorem Followed.reads {tail : List Char} (followed : Followed tail) :
    ∃ slug, Reads tail slug ∧ slug ≠ [] := by
  obtain ⟨character, first, inside⟩ := followed
  refine ⟨tail.takeWhile inSlug, reads_iff.mpr rfl, ?_⟩
  cases tail with
  | nil => cases first
  | cons other rest =>
      cases first
      rw [List.takeWhile_cons_of_pos inside]
      exact List.cons_ne_nil _ _

/-- Where the first marker has to be, and how the path of a link to Telegram then
begins. -/
structure Regular (url : List Char) : Prop where
  placed : ∀ before marker tail, Marked url before marker tail → Followed tail →
    InPath url before marker
  afterPlus : ∀ before marker tail path hash more, Marked url before marker tail →
    Followed tail → TelegramLink url path → path.splitOn '/' = ('+' :: hash) :: more →
      '+' ∉ hash
  afterJoinchat : ∀ before marker tail path rest next more, Marked url before marker tail →
    Followed tail → TelegramLink url path →
    path.splitOn '/' = ("joinchat".toList ++ rest) :: next :: more →
      rest = [] ∧ ¬ plusMarker <:+: url

theorem Regular.own {url : List Char} (regular : Regular url) :
    ∀ slug, slugOf url = .ok slug → Follows url slug := by
  intro slug found
  obtain ⟨before, marker, tail, marked, reads, some⟩ := slugOf_eq_ok.mp found
  exact follows_of_inPath marked (regular.placed before marker tail marked (reads.followed some))
    reads some

theorem Regular.agrees {url : List Char} (regular : Regular url) :
    ∀ slug hash, slugOf url = .ok slug → inviteHash url = some hash → slug = hash := by
  intro slug hash found joined
  obtain ⟨before, marker, tail, marked, reads, some⟩ := slugOf_eq_ok.mp found
  have followed := reads.followed some
  have place := regular.placed before marker tail marked followed
  obtain ⟨path, telegram, hashed⟩ := inviteHash_eq_some.mp joined
  by_cases plus : ∃ text more, path.splitOn '/' = ('+' :: text) :: more
  · obtain ⟨text, more, split⟩ := plus
    have single := regular.afterPlus before marker tail path text more marked followed telegram
      split
    rw [split, segmentsHash_plus, withoutPlus_eq.mpr single] at hashed
    rw [← Option.some.inj hashed]
    exact slug_after_plus telegram split marked place reads
  · by_cases joinchat : ∃ rest next more,
        path.splitOn '/' = ("joinchat".toList ++ rest) :: next :: more
    · obtain ⟨rest, next, more, split⟩ := joinchat
      obtain ⟨bare, noPlus⟩ := regular.afterJoinchat before marker tail path rest next more marked
        followed telegram split
      rw [split, segmentsHash_joinchat] at hashed
      rw [← Option.some.inj hashed]
      rw [bare, List.append_nil] at split
      exact slug_after_joinchat telegram split noPlus marked place reads
    · rw [segmentsHash_none (fun text more same => plus ⟨text, more, same⟩)
        (fun rest next more same => joinchat ⟨rest, next, more, same⟩)] at hashed
      cases hashed

/-! ### A slug that stands in one place only -/

/-- Only one place of the URL has the text. -/
def Once (url text : List Char) : Prop :=
  ∀ before after early late, url = before ++ (text ++ after) → url = early ++ (text ++ late) →
    before = early

theorem Marked.reads_at {url before marker tail slug : List Char}
    (marked : Marked url before marker tail) (reads : Reads tail slug) :
    ∃ after, url = (before ++ marker) ++ (slug ++ after) := by
  obtain ⟨-, after, split, -⟩ := reads
  refine ⟨after, ?_⟩
  rw [← split, List.append_assoc]
  exact marked.split

/-- A text that ends in a plus sign is none that ends in a slash. -/
theorem append_plusMarker_ne {before early : List Char} :
    before ++ plusMarker ≠ early ++ ['/'] := by
  intro same
  have last := congrArg List.getLast? same
  rw [plusMarker, List.getLast?_append, List.getLast?_append] at last
  exact absurd (Option.some.inj last) (by decide)

theorem joinchatMarker_eq : joinchatMarker = "joinchat".toList ++ ['/'] := rfl

/-- The one place where the slug stands is after the marker, and in the path. -/
theorem inPath_of_once {url before marker tail slug : List Char}
    (marked : Marked url before marker tail) (reads : Reads tail slug) (once : Once url slug)
    (follows : Follows url slug) : InPath url before marker := by
  obtain ⟨after, here⟩ := marked.reads_at reads
  obtain ⟨-, -, inner, rest, -, path | path⟩ := follows
  · have there : url = urlFront url ++ inner ++ plusMarker ++ (slug ++ (rest ++ urlBack url)) := by
      have parts := url_parts url
      rw [path] at parts
      simpa only [List.append_assoc] using parts
    have same := once _ _ _ _ here there
    rcases marked.cases_marker with ⟨isPlus, -⟩ | ⟨isJoinchat, -⟩
    · subst isPlus
      rw [List.append_cancel_right same]
      exact .plus path
    · rw [isJoinchat, joinchatMarker_eq, ← List.append_assoc] at same
      exact absurd same.symm append_plusMarker_ne
  · have there : url = urlFront url ++ inner ++ ['/'] ++ joinchatMarker ++
        (slug ++ (rest ++ urlBack url)) := by
      have parts := url_parts url
      rw [path] at parts
      simpa only [List.append_assoc, List.cons_append, List.nil_append] using parts
    have same := once _ _ _ _ here there
    rcases marked.cases_marker with ⟨isPlus, -⟩ | ⟨isJoinchat, -⟩
    · rw [isPlus, joinchatMarker_eq, ← List.append_assoc] at same
      exact absurd same append_plusMarker_ne
    · subst isJoinchat
      rw [List.append_cancel_right same]
      exact .joinchat path

/-- Two texts without a slash that end at one place and begin after a slash. -/
theorem segment_unique {front segment other : List Char} (noSlash : '/' ∉ segment)
    (same : front ++ ['/'] ++ other = '/' :: segment) : other = segment := by
  cases front with
  | nil => exact (List.cons.inj same).2
  | cons first front =>
      obtain ⟨-, rest⟩ := List.cons.inj same
      refine absurd ?_ noSlash
      rw [← rest]
      simp

theorem bare_of_once {url before marker tail slug path rest : List Char} {more : List (List Char)}
    (telegram : TelegramLink url path)
    (split : path.splitOn '/' = ("joinchat".toList ++ rest) :: slug :: more)
    (marked : Marked url before marker tail) (place : InPath url before marker)
    (reads : Reads tail slug) (once : Once url slug) : rest = [] ∧ ¬ plusMarker <:+: url := by
  obtain ⟨noSlash, ⟨-, none⟩ | ⟨later, whole, splitLater⟩⟩ := splitOn_eq_cons split
  · exact absurd none (List.cons_ne_nil _ _)
  obtain ⟨-, behind, wholeLater, -⟩ := splitOn_head splitLater
  have found := urlPath_eq_cons telegram (by rw [whole]; simp)
  obtain ⟨after, here⟩ := marked.reads_at reads
  have there : url = urlFront url ++ '/' :: ("joinchat".toList ++ rest) ++ ['/'] ++
      (slug ++ (behind ++ urlBack url)) := by
    have parts := url_parts url
    rw [found, whole, wholeLater] at parts
    simpa only [List.append_assoc, List.cons_append, List.nil_append] using parts
  have same := once _ _ _ _ here there
  rcases marked.cases_marker with ⟨isPlus, -⟩ | ⟨isJoinchat, noPlus, -⟩
  · rw [isPlus] at same
    exact absurd same append_plusMarker_ne
  · refine ⟨?_, noPlus⟩
    rcases place.cases_marker with ⟨isPlus, -⟩ | ⟨-, inner, -, before_eq, -⟩
    · exact absurd (isPlus.symm.trans isJoinchat) markers_apart
    · rw [isJoinchat, joinchatMarker_eq, before_eq, ← List.append_assoc] at same
      have ends := List.append_cancel_right same
      rw [List.append_assoc, List.append_assoc] at ends
      have bare := segment_unique noSlash
        ((List.append_assoc _ _ _).trans (List.append_cancel_left ends))
      have length := congrArg List.length bare
      rw [List.length_append] at length
      exact List.length_eq_zero_iff.mp (by omega)

theorem Exact.regular {url : List Char} (exact : Exact url)
    (once : ∀ slug, slugOf url = .ok slug → Once url slug) : Regular url := by
  have placed : ∀ before marker tail slug, Marked url before marker tail → Reads tail slug →
      slug ≠ [] → slugOf url = .ok slug ∧ InPath url before marker := by
    intro before marker tail slug marked reads some
    have found := slugOf_eq_ok.mpr ⟨before, marker, tail, marked, reads, some⟩
    exact ⟨found, inPath_of_once marked reads (once slug found) (exact.own slug found)⟩
  refine ⟨?_, ?_, ?_⟩
  · intro before marker tail marked followed
    obtain ⟨slug, reads, some⟩ := followed.reads
    exact (placed before marker tail slug marked reads some).2
  · intro before marker tail path hash more marked followed telegram split
    obtain ⟨slug, reads, some⟩ := followed.reads
    obtain ⟨found, place⟩ := placed before marker tail slug marked reads some
    have joined := inviteHash_of_telegramLink telegram
    rw [split, segmentsHash_plus] at joined
    have same := exact.agrees slug _ found joined
    rw [slug_after_plus telegram split marked place reads] at same
    exact withoutPlus_eq.mp same.symm
  · intro before marker tail path rest next more marked followed telegram split
    obtain ⟨slug, reads, some⟩ := followed.reads
    obtain ⟨found, place⟩ := placed before marker tail slug marked reads some
    have joined := inviteHash_of_telegramLink telegram
    rw [split, segmentsHash_joinchat] at joined
    have same := exact.agrees slug _ found joined
    rw [← same] at split
    exact bare_of_once telegram split marked place reads (once slug found)

/-- Only the first marker of the whole URL counts.  The slug is the invite's own
segment where that marker is in the path and the link begins like an invite only if
it is one; elsewhere it is so only by accident, where its text stands in the URL
more than once. -/
theorem slugOf_exact_of_regular (url : List Char) :
    (Regular url → Exact url) ∧
      ((∀ slug, slugOf url = .ok slug → Once url slug) → Exact url → Regular url) := by
  constructor
  · intro regular
    refine ⟨regular.own, ?_, regular.agrees⟩
    intro none
    apply slugOf_eq_error
    intro slug found
    exact none slug (regular.own slug found)
  · intro once exact
    exact exact.regular once

/-- An invite of the older shape, with a query behind it. -/
def joinchatLink : List Char := "https://t.me/joinchat/abc?from=x".toList

theorem slugOf_exact_of_regular_joinchat :
    Exact joinchatLink ∧ slugOf joinchatLink = .ok "abc".toList := by
  have noPlus : ¬ plusMarker <:+: joinchatLink := splitOnce_eq_none.mp (by decide)
  have path (path : List Char) (telegram : TelegramLink joinchatLink path) :
      path.splitOn '/' = ["joinchat".toList, "abc".toList] := by
    have found := linkPath_of_telegramLink telegram
    have same : path = "joinchat/abc".toList := by
      rw [show linkPath joinchatLink = some "joinchat/abc".toList by decide] at found
      exact (Option.some.inj found).symm
    rw [same]
    decide
  refine ⟨(slugOf_exact_of_regular joinchatLink).1 ⟨?_, ?_, ?_⟩, by rfl⟩
  · intro before marker tail marked followed
    cases marked with
    | plus first => exact absurd first.occurs noPlus
    | joinchat _ first =>
        have found : splitOnce joinchatMarker joinchatLink =
            some (urlFront joinchatLink ++ [] ++ ['/'], "abc?from=x".toList) := by decide
        rw [(first.unique (splitOnce_eq_some.mp found)).1]
        exact .joinchat (show urlPath joinchatLink =
          [] ++ ('/' :: joinchatMarker ++ "abc".toList) by decide)
  · intro before marker tail place hash more marked followed telegram split
    rw [path place telegram] at split
    have plus := congrArg List.head? (List.cons.inj split).1
    exact absurd (Option.some.inj plus) (by decide)
  · intro before marker tail place rest next more marked followed telegram split
    rw [path place telegram] at split
    have bare := congrArg (List.drop 8) (List.cons.inj split).1
    exact ⟨bare.symm, noPlus⟩

/-- A marker in the query. -/
theorem query_marker_read :
    slugOf "https://t.me/joinchat/abc?next=/+xyz".toList = .ok "xyz".toList ∧
      inviteHash "https://t.me/joinchat/abc?next=/+xyz".toList = some "abc".toList ∧
      slugOf "https://t.me/xjoinchat/abc".toList = .ok "abc".toList ∧
      ¬ Exact "https://t.me/joinchat/abc?next=/+xyz".toList := by
  have found : slugOf "https://t.me/joinchat/abc?next=/+xyz".toList = .ok "xyz".toList := by rfl
  have joined : inviteHash "https://t.me/joinchat/abc?next=/+xyz".toList = some "abc".toList := by
    decide
  refine ⟨found, joined, by rfl, ?_⟩
  intro exact
  exact absurd (exact.agrees _ _ found joined) (by decide)

end InviteSlugs
end Kotlogramme.Chats
