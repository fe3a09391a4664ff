/-
What the manifest of a TL schema says, however its text is laid out.

A layout puts white space and comments between the words of the declarations.  The
generator is shown to see the words alone, and the codec to find in its manifest
the declarations as they were written.  The declarations of a manifest are a schema
again, of which the generator makes the same ones.
-/

import Kotlogramme.Raw.Manifest
import Mathlib.Data.List.Forall2

namespace Kotlogramme.Raw
namespace SchemaGenerator

open Protocol Splitting Utf Words

theorem none_of_any {holds : Char → Bool} {text : Text} (none : text.any holds = false) :
    ∀ character ∈ text, holds character = false :=
  fun character member => Bool.eq_false_iff.mpr (List.any_eq_false.mp none character member)

/-! ### Lines without their comments -/

theorem space_of_boundary {character : Char} (boundary : isBoundary character = true) :
    isSpace character = true := by
  simp only [isBoundary, isSpace, Bool.or_eq_true, Bool.and_eq_true, decide_eq_true_eq,
    beq_iff_eq] at boundary ⊢
  omega

/-- An occurrence whose first item is not in a front stands behind the front. -/
theorem occurs_behind {α : Type} {item : α} {pattern front rest early late : List α}
    (absent : item ∉ front) (whole : front ++ rest = early ++ (item :: pattern ++ late)) :
    ∃ middle, early = front ++ middle ∧ rest = middle ++ (item :: pattern ++ late) := by
  rcases List.append_eq_append_iff.mp whole with ⟨middle, before, after⟩ | ⟨middle, before, after⟩
  · exact ⟨middle, before, after⟩
  · cases middle with
    | nil => exact ⟨[], by rw [before, List.append_nil, List.append_nil], by simpa using after.symm⟩
    | cons first others =>
        have same : first = item := by
          rw [List.cons_append, List.cons_append] at after
          exact (List.cons.inj after).1.symm
        rw [before, same] at absent
        exact absurd (List.mem_append_right early List.mem_cons_self) absent

theorem beforeComment_append {front : Text} (absent : '/' ∉ front) (rest : Text) :
    beforeComment (front ++ rest) = front ++ beforeComment rest := by
  unfold beforeComment
  rcases splitOnce_eq_some_or_none ['/', '/'] rest with ⟨before, after, found, first⟩ | ⟨none, free⟩
  · have moved : FirstAt ['/', '/'] (front ++ rest) (front ++ before) after := by
      constructor
      · rw [first.split, List.append_assoc]
      · intro early late whole
        obtain ⟨middle, place, rests⟩ := occurs_behind absent whole
        have least := first.first middle late rests
        rw [place, List.length_append, List.length_append]
        omega
    rw [found, splitOnce_eq_some.mpr moved]
  · have still : ¬ ['/', '/'] <:+: front ++ rest := by
      intro occurs
      obtain ⟨early, late, whole⟩ := occurs
      rw [List.append_assoc] at whole
      obtain ⟨middle, -, rests⟩ := occurs_behind absent whole.symm
      exact free ⟨middle, late, by rw [rests, List.append_assoc]⟩
    rw [none, splitOnce_eq_none.mpr still]

theorem beforeComment_comment (body : Text) : beforeComment ('/' :: '/' :: body) = [] := by
  have first : FirstAt ['/', '/'] ('/' :: '/' :: body) [] body :=
    ⟨rfl, fun _ _ _ => Nat.zero_le _⟩
  rw [beforeComment, splitOnce_eq_some.mpr first]

theorem beforeComment_of_free {line : Text} (free : ¬ ['/', '/'] <:+: line) :
    beforeComment line = line := by
  rw [beforeComment, splitOnce_eq_none.mpr free]

theorem free_beforeComment (line : Text) : ¬ ['/', '/'] <:+: beforeComment line := by
  unfold beforeComment
  rcases splitOnce_eq_some_or_none ['/', '/'] line with ⟨before, after, found, first⟩ | ⟨none, free⟩
  · rw [found]
    intro occurs
    obtain ⟨early, late, (whole : early ++ ['/', '/'] ++ late = before)⟩ := occurs
    have least := first.first early (late ++ (['/', '/'] ++ after))
      (by rw [first.split, ← whole]; simp only [List.append_assoc])
    rw [← whole] at least
    simp only [List.length_append, List.length_cons, List.length_nil] at least
    omega
  · rw [none]
    exact free

/-- The lines of a text without their comments, each followed by a line feed. -/
def cleanedFrom : Bool → Text → Text → Text
  | _, line, [] => beforeComment line ++ ['\n']
  | returned, line, character :: rest =>
      if returned && character == '\n' then cleanedFrom false line rest
      else if isBoundary character then
        beforeComment line ++ '\n' :: cleanedFrom (character == '\r') [] rest
      else cleanedFrom false (line ++ [character]) rest

theorem blank_lineFeed : Blank isSpace ['\n'] := by
  intro character member
  rw [List.mem_singleton.mp member]
  rfl

theorem beforeComment_nil : beforeComment [] = [] :=
  beforeComment_of_free fun occurs => absurd (List.infix_nil.mp occurs) (List.cons_ne_nil _ _)

theorem cleanedFrom_eq (returned : Bool) (line text : Text) :
    ∃ gap, Blank isSpace gap ∧ cleanedFrom returned line text =
      List.intercalate ['\n'] ((splitlinesFrom returned line text).map beforeComment) ++ gap := by
  induction text generalizing returned line with
  | nil =>
      refine ⟨['\n'], blank_lineFeed, ?_⟩
      cases line with
      | nil =>
          rw [cleanedFrom, beforeComment_nil]
          rfl
      | cons first rest =>
          rw [cleanedFrom, splitlinesFrom, if_neg (by simp), List.map_singleton,
            List.intercalate_singleton]
  | cons character rest ih =>
      rw [cleanedFrom, splitlinesFrom]
      by_cases swallowed : (returned && character == '\n') = true
      · rw [if_pos swallowed, if_pos swallowed]
        exact ih false line
      · rw [if_neg swallowed, if_neg swallowed]
        by_cases boundary : isBoundary character = true
        · rw [if_pos boundary, if_pos boundary, List.map_cons]
          obtain ⟨gap, blank, same⟩ := ih (character == '\r') []
          rw [same]
          by_cases last : splitlinesFrom (character == '\r') [] rest = []
          · refine ⟨['\n'] ++ gap, blank_lineFeed.append blank, ?_⟩
            rw [last, List.map_nil, List.intercalate_nil, List.intercalate_singleton]
            rfl
          · refine ⟨gap, blank, ?_⟩
            rw [List.intercalate_cons_of_ne_nil (by simpa using last), List.append_assoc,
              List.append_assoc]
            rfl
        · rw [if_neg boundary, if_neg boundary]
          exact ih false (line ++ [character])

theorem cleanedFrom_append {front : Text} (absent : '/' ∉ front) (returned : Bool)
    (line text : Text) :
    cleanedFrom returned (front ++ line) text = front ++ cleanedFrom returned line text := by
  induction text generalizing returned line with
  | nil => rw [cleanedFrom, cleanedFrom, beforeComment_append absent, List.append_assoc]
  | cons character rest ih =>
      rw [cleanedFrom, cleanedFrom]
      by_cases swallowed : (returned && character == '\n') = true
      · rw [if_pos swallowed, if_pos swallowed]
        exact ih false line
      · rw [if_neg swallowed, if_neg swallowed]
        by_cases boundary : isBoundary character = true
        · rw [if_pos boundary, if_pos boundary, beforeComment_append absent, List.append_assoc]
        · rw [if_neg boundary, if_neg boundary, List.append_assoc]
          exact ih false (line ++ [character])

/-- What ends no line and is read into the line. -/
theorem cleanedFrom_read {body : Text} (inside : ∀ character ∈ body, isBoundary character = false)
    (line text : Text) :
    cleanedFrom false line (body ++ text) = cleanedFrom false (line ++ body) text := by
  induction body generalizing line with
  | nil => rw [List.nil_append, List.append_nil]
  | cons character rest ih =>
      have here := inside character List.mem_cons_self
      rw [List.cons_append, cleanedFrom, if_neg (by simp), if_neg (by simp [here]),
        ih (fun other member => inside other (List.mem_cons_of_mem character member)),
        List.append_assoc]
      rfl

theorem cleanedFrom_lineFeed (line text : Text) :
    cleanedFrom false line ('\n' :: text) =
      beforeComment line ++ '\n' :: cleanedFrom false [] text := by
  have boundary : isBoundary '\n' = true := rfl
  rw [cleanedFrom, if_neg (by simp), if_pos boundary]
  rfl

/-! ### Candidates -/

theorem isSpace_semicolon : isSpace ';' = false := rfl

theorem semicolon_not_blank {gap : Text} (blank : Blank isSpace gap) : ';' ∉ gap := by
  intro member
  have space := blank ';' member
  rw [isSpace_semicolon] at space
  cases space

theorem candidates_cons {front : Text} (absent : ';' ∉ front) (back : Text) :
    candidates (front ++ ';' :: back) = words isSpace front :: candidates back := by
  rw [candidates, List.splitOn_append_cons_self_of_not_mem absent]
  rfl

theorem candidates_single {text : Text} (absent : ';' ∉ text) :
    candidates text = [words isSpace text] := by
  rw [candidates, List.splitOn_eq_singleton absent]
  rfl

theorem candidates_append_blank {gap : Text} (blank : Blank isSpace gap) (text : Text) :
    candidates (text ++ gap) = candidates text := by
  induction length : text.length using Nat.strongRecOn generalizing text with
  | ind size ih =>
      rcases splitOn_cases ';' text with ⟨absent, -⟩ | ⟨first, later, absent, whole, -⟩
      · have still : ';' ∉ text ++ gap := by
          rw [List.mem_append]
          exact not_or.mpr ⟨absent, semicolon_not_blank blank⟩
        rw [candidates_single absent, candidates_single still, words_append_blank blank]
      · have shorter : later.length < size := by
          rw [← length, whole, List.length_append, List.length_cons]
          omega
        rw [whole, List.append_assoc, List.cons_append, candidates_cons absent,
          candidates_cons absent, ih later.length shorter later rfl]

theorem candidates_blank_append {gap : Text} (blank : Blank isSpace gap) (text : Text) :
    candidates (gap ++ text) = candidates text := by
  have none := semicolon_not_blank blank
  rcases splitOn_cases ';' text with ⟨absent, -⟩ | ⟨first, later, absent, whole, -⟩
  · have still : ';' ∉ gap ++ text := by
      rw [List.mem_append]
      exact not_or.mpr ⟨none, absent⟩
    rw [candidates_single absent, candidates_single still, words_blank_append blank]
  · have still : ';' ∉ gap ++ first := by
      rw [List.mem_append]
      exact not_or.mpr ⟨none, absent⟩
    rw [whole, ← List.append_assoc, candidates_cons still, candidates_cons absent,
      words_blank_append blank]

theorem candidates_withoutComments (source : Text) :
    candidates (withoutComments source) = candidates (cleanedFrom false [] source) := by
  obtain ⟨gap, blank, same⟩ := cleanedFrom_eq false [] source
  rw [same, candidates_append_blank blank]
  rfl

/-! ### Layouts -/

/-- White space, or a comment up to the end of its line. -/
inductive Piece
  | space (character : Char) (blank : isSpace character = true)
  | comment (body : Text) (boundary : Char) (inside : ∀ item ∈ body, isBoundary item = false)
      (ends : isBoundary boundary = true)

def Piece.text : Piece → Text
  | .space character _ => [character]
  | .comment body boundary _ _ => '/' :: '/' :: body ++ [boundary]

def gapText (pieces : List Piece) : Text := pieces.flatMap Piece.text

def Between (gap : Text) : Prop := ∃ pieces, pieces ≠ [] ∧ gap = gapText pieces

/-- What a word of a declaration is made of. -/
def isPlain (character : Char) : Bool :=
  !isSpace character && character != '/' && character != ';' && character != '='

structure Word where
  text : Text
  present : text ≠ []
  plain : ∀ character ∈ text, isPlain character = true

/-- A declaration as a schema writes it. -/
structure Written where
  name : Text
  digits : Text
  named : name ≠ []
  nameCharacters : ∀ character ∈ name, isNameCharacter character = true
  numbered : digits ≠ []
  hexDigits : ∀ character ∈ digits, isHexDigit character = true
  parameters : List Word
  result : List Word

def Written.head (written : Written) : Text := written.name ++ '#' :: written.digits

/-- What follows the name and the id. -/
def Written.tail (written : Written) : List Text :=
  written.parameters.map Word.text ++ ['='] :: written.result.map Word.text

/-- The texts that write a list of declarations.  The last comment of a text may have
no end of line. -/
inductive Laid : List Written → Text → Prop
  | done (pieces : List Piece) (last : Text) (unfinished : last = [] ∨ ∃ body,
      last = '/' :: '/' :: body ∧ ∀ item ∈ body, isBoundary item = false) :
      Laid [] (gapText pieces ++ last)
  | cons (written : Written) (lead trail : List Piece) {body rest : Text} {others : List Written}
      (spread : Spread Between written.tail body) (laid : Laid others rest) :
      Laid (written :: others)
        (gapText lead ++ (written.head ++ (body ++ (gapText trail ++ ';' :: rest))))

theorem cleanedFrom_comment {body : Text} (inside : ∀ item ∈ body, isBoundary item = false)
    (returned : Bool) (text : Text) :
    cleanedFrom returned [] ('/' :: '/' :: body ++ text) =
      cleanedFrom false ('/' :: '/' :: body) text := by
  have line : ∀ item ∈ '/' :: body, isBoundary item = false := by
    intro item member
    rcases List.mem_cons.mp member with rfl | later
    · rfl
    · exact inside item later
  have opened : cleanedFrom returned [] ('/' :: ('/' :: body ++ text)) =
      cleanedFrom false ['/'] ('/' :: body ++ text) := by
    rw [cleanedFrom, if_neg (by simp), if_neg (by decide)]
    rfl
  exact opened.trans (cleanedFrom_read line ['/'] text)

/-- Reading a text from a line that is empty so far leaves white space. -/
theorem cleanedFrom_piece (piece : Piece) (returned : Bool) :
    ∃ gap after, Blank isSpace gap ∧ (returned = false → gap ≠ []) ∧ ∀ text,
      cleanedFrom returned [] (piece.text ++ text) = gap ++ cleanedFrom after [] text := by
  cases piece with
  | space character blank =>
      by_cases swallowed : (returned && character == '\n') = true
      · refine ⟨[], false, nofun, ?_, ?_⟩
        · intro new
          rw [new] at swallowed
          cases swallowed
        · intro text
          rw [Piece.text, List.singleton_append, cleanedFrom, if_pos swallowed]
          rfl
      · by_cases boundary : isBoundary character = true
        · refine ⟨['\n'], character == '\r', blank_lineFeed, fun _ => List.cons_ne_nil _ _, ?_⟩
          intro text
          rw [Piece.text, List.singleton_append, cleanedFrom, if_neg swallowed, if_pos boundary,
            beforeComment_nil]
          rfl
        · have plain : '/' ∉ [character] := by
            intro member
            rw [← List.mem_singleton.mp member] at blank
            cases blank
          refine ⟨[character], false, ?_, fun _ => List.cons_ne_nil _ _, ?_⟩
          · intro item member
            rw [List.mem_singleton.mp member]
            exact blank
          · intro text
            rw [Piece.text, List.singleton_append, cleanedFrom, if_neg swallowed, if_neg boundary,
              ← cleanedFrom_append plain]
            rfl
  | comment body boundary inside ends =>
      refine ⟨['\n'], boundary == '\r', blank_lineFeed, fun _ => List.cons_ne_nil _ _, ?_⟩
      intro text
      rw [Piece.text, List.append_assoc, cleanedFrom_comment inside, List.singleton_append,
        cleanedFrom, if_neg (by simp), if_pos ends, beforeComment_comment]
      rfl

theorem cleanedFrom_gap (pieces : List Piece) (returned : Bool) :
    ∃ gap after, Blank isSpace gap ∧ (returned = false → pieces ≠ [] → gap ≠ []) ∧ ∀ text,
      cleanedFrom returned [] (gapText pieces ++ text) = gap ++ cleanedFrom after [] text := by
  induction pieces generalizing returned with
  | nil => exact ⟨[], returned, nofun, fun _ none => absurd rfl none, fun _ => rfl⟩
  | cons piece others ih =>
      obtain ⟨gap, middle, blank, filled, same⟩ := cleanedFrom_piece piece returned
      obtain ⟨more, after, blanks, -, rest⟩ := ih middle
      refine ⟨gap ++ more, after, blank.append blanks, ?_, ?_⟩
      · intro new _ empty
        exact filled new (List.append_eq_nil_iff.mp empty).1
      · intro text
        rw [gapText, List.flatMap_cons, List.append_assoc, same]
        change gap ++ cleanedFrom middle [] (gapText others ++ text) = _
        rw [rest, List.append_assoc]

/-- What a layout may write as one word. -/
structure Solid (word : Text) : Prop where
  is : IsWord isSpace word
  slashFree : '/' ∉ word
  whole : ';' ∉ word

theorem boundary_of_solid {character : Char} (solid : isSpace character = false) :
    isBoundary character = false := by
  by_contra boundary
  rw [Bool.not_eq_false] at boundary
  rw [space_of_boundary boundary] at solid
  cases solid

theorem cleanedFrom_item {character : Char} (inside : isBoundary character = false)
    (slashFree : character ≠ '/') (returned : Bool) (text : Text) :
    cleanedFrom returned [] (character :: text) = character :: cleanedFrom false [] text := by
  have other : (character == '\n') = false := by
    rw [beq_eq_false_iff_ne]
    intro same
    rw [same] at inside
    cases inside
  have plain : '/' ∉ [character] := fun member => slashFree (List.mem_singleton.mp member).symm
  rw [cleanedFrom, other, Bool.and_false, if_neg (by simp), if_neg (by simp [inside])]
  exact cleanedFrom_append plain false [] text

theorem cleanedFrom_word {word : Text} (solid : Solid word) (returned : Bool) (text : Text) :
    cleanedFrom returned [] (word ++ text) = word ++ cleanedFrom false [] text := by
  obtain ⟨⟨present, solids⟩, slashFree, -⟩ := solid
  cases word with
  | nil => exact absurd rfl present
  | cons first rest =>
      have inside := fun item member => boundary_of_solid (solids item member)
      have others : ∀ item ∈ rest, isBoundary item = false := fun item member =>
        inside item (List.mem_cons_of_mem first member)
      have free : '/' ∉ rest := fun member => slashFree (List.mem_cons_of_mem first member)
      have firstFree : first ≠ '/' := fun same => slashFree (same ▸ List.mem_cons_self)
      rw [List.cons_append, cleanedFrom_item (inside first List.mem_cons_self) firstFree,
        cleanedFrom_read others, List.nil_append]
      have split := cleanedFrom_append free false [] text
      rw [List.append_nil] at split
      rw [split]
      rfl

theorem cleanedFrom_spread {others : List Text} {body : Text} (all : ∀ word ∈ others, Solid word)
    (spread : Spread Between others body) :
    ∃ clean, Spread (Parting isSpace) others clean ∧ ';' ∉ clean ∧ ∀ text,
      cleanedFrom false [] (body ++ text) = clean ++ cleanedFrom false [] text := by
  induction spread with
  | nil => exact ⟨[], .nil, List.not_mem_nil, fun _ => rfl⟩
  | @cons gap word rest more apart _ ih =>
      obtain ⟨pieces, filled, rfl⟩ := apart
      obtain ⟨clean, later, none, same⟩ := ih fun item member =>
        all item (List.mem_cons_of_mem word member)
      obtain ⟨blanks, after, blank, some, read⟩ := cleanedFrom_gap pieces false
      have solid := all word List.mem_cons_self
      refine ⟨blanks ++ (word ++ clean), .cons ⟨some rfl filled, blank⟩ later, ?_, ?_⟩
      · simp only [List.mem_append, not_or]
        exact ⟨semicolon_not_blank blank, solid.whole, none⟩
      · intro text
        rw [List.append_assoc, read, List.append_assoc, cleanedFrom_word solid, same,
          List.append_assoc, List.append_assoc]

theorem isPlain_iff {character : Char} : isPlain character = true ↔
    isSpace character = false ∧ character ≠ '/' ∧ character ≠ ';' ∧ character ≠ '=' := by
  simp only [isPlain, Bool.and_eq_true, Bool.not_eq_true', bne_iff_ne, and_assoc]

theorem solid_of_plain {word : Text} (present : word ≠ [])
    (plain : ∀ character ∈ word, isPlain character = true) : Solid word ∧ '=' ∉ word := by
  have facts := fun character member => isPlain_iff.mp (plain character member)
  refine ⟨⟨⟨present, fun item member => (facts item member).1⟩, ?_, ?_⟩, ?_⟩
  · exact fun member => (facts '/' member).2.1 rfl
  · exact fun member => (facts ';' member).2.2.1 rfl
  · exact fun member => (facts '=' member).2.2.2 rfl

theorem Word.solid (word : Word) : Solid word.text ∧ '=' ∉ word.text :=
  solid_of_plain word.present word.plain

theorem ne_of_toNat_ne {left right : Char} (apart : left.toNat ≠ right.toNat) : left ≠ right := by
  intro same
  exact apart (congrArg Char.toNat same)

theorem plain_of_code {character : Char} (code : (0x30 ≤ character.toNat ∧ character.toNat ≤ 0x39) ∨
    (0x41 ≤ character.toNat ∧ character.toNat ≤ 0x7A) ∨ character.toNat = 0x2E ∨
      character.toNat = 0x23) : isPlain character = true := by
  have slash : '/'.toNat = 0x2F := rfl
  have semicolon : ';'.toNat = 0x3B := rfl
  have equals : '='.toNat = 0x3D := rfl
  refine isPlain_iff.mpr ⟨?_, ne_of_toNat_ne ?_, ne_of_toNat_ne ?_, ne_of_toNat_ne ?_⟩
  · simp only [isSpace, Bool.or_eq_false_iff, Bool.and_eq_false_iff, decide_eq_false_iff_not,
      beq_eq_false_iff_ne]
    omega
  all_goals omega

theorem plain_of_nameCharacter {character : Char} (name : isNameCharacter character = true) :
    isPlain character = true := by
  apply plain_of_code
  simp only [isNameCharacter, within, Bool.or_eq_true, Bool.and_eq_true, decide_eq_true_eq,
    beq_iff_eq, Char.reduceToNat] at name
  rcases name with (((upper | lower) | digit) | underscore) | dot
  · omega
  · omega
  · omega
  · rw [underscore]
    decide
  · rw [dot]
    decide

theorem plain_of_hexDigit {character : Char} (digit : isHexDigit character = true) :
    isPlain character = true := by
  apply plain_of_code
  simp only [isHexDigit, within, Bool.or_eq_true, Bool.and_eq_true, decide_eq_true_eq,
    Char.reduceToNat] at digit
  omega

section Writing

variable (written : Written)

theorem Written.head_solid : Solid written.head ∧ '=' ∉ written.head := by
  apply solid_of_plain
  · intro empty
    exact written.named (List.append_eq_nil_iff.mp empty).1
  · intro character member
    rcases List.mem_append.mp member with name | rest
    · exact plain_of_nameCharacter (written.nameCharacters character name)
    · rcases List.mem_cons.mp rest with mark | digit
      · rw [mark]
        rfl
      · exact plain_of_hexDigit (written.hexDigits character digit)

theorem Written.tail_solid : ∀ word ∈ written.tail, Solid word := by
  intro word member
  rcases List.mem_append.mp member with parameter | rest
  · obtain ⟨source, -, rfl⟩ := List.mem_map.mp parameter
    exact source.solid.1
  · rcases List.mem_cons.mp rest with equals | result
    · rw [equals]
      exact ⟨⟨List.cons_ne_nil _ _, none_of_any rfl⟩, by decide, by decide⟩
    · obtain ⟨source, -, rfl⟩ := List.mem_map.mp result
      exact source.solid.1

/-- What the generator is to make of a declaration. -/
def Written.declaration : Declaration where
  name := written.name
  constructorId := signed (hexadecimal written.digits)
  parameters := join ' ' (written.parameters.map Word.text)
  result := join ' ' (written.result.map Word.text)
  declaration := join ' ' (written.head :: written.tail) ++ [';']

end Writing

/-- A layout shows the words it writes. -/
theorem candidates_of_laid {all : List Written} {source : Text} (laid : Laid all source) :
    candidates (cleanedFrom false [] source) =
      all.map (fun written => written.head :: written.tail) ++ [[]] := by
  induction laid with
  | done pieces last unfinished =>
      obtain ⟨gap, after, blank, -, same⟩ := cleanedFrom_gap pieces false
      have ends : cleanedFrom after [] last = ['\n'] := by
        rcases unfinished with none | ⟨body, comment, inside⟩
        · rw [none, cleanedFrom, beforeComment_nil]
          rfl
        · have read := cleanedFrom_comment inside after []
          rw [List.append_nil] at read
          rw [comment, read, cleanedFrom, beforeComment_comment]
          rfl
      have spaces := blank.append blank_lineFeed
      have none := words_blank_append spaces []
      rw [List.append_nil, words_nil] at none
      rw [same, ends, candidates_single (semicolon_not_blank spaces), none]
      rfl
  | @cons written lead trail body rest others spread laid ih =>
      obtain ⟨gap, after, blank, -, readLead⟩ := cleanedFrom_gap lead false
      obtain ⟨clean, spreads, none, readBody⟩ := cleanedFrom_spread written.tail_solid spread
      obtain ⟨space, later, blanks, -, readTrail⟩ := cleanedFrom_gap trail false
      have head := written.head_solid.1
      have semicolon : cleanedFrom later [] (';' :: rest) = ';' :: cleanedFrom false [] rest :=
        cleanedFrom_item rfl (by decide) later rest
      have absent : ';' ∉ gap ++ (written.head ++ (clean ++ space)) := by
        simp only [List.mem_append, not_or]
        exact ⟨semicolon_not_blank blank, head.whole, none, semicolon_not_blank blanks⟩
      rw [readLead, cleanedFrom_word head, readBody, readTrail, semicolon]
      have whole : gap ++ (written.head ++ (clean ++ (space ++ ';' :: cleanedFrom false [] rest))) =
          (gap ++ (written.head ++ (clean ++ space))) ++ ';' :: cleanedFrom false [] rest := by
        simp only [List.append_assoc]
      rw [whole, candidates_cons absent, ih, words_blank_append blank,
        words_spread head.is (fun other member => (written.tail_solid other member).is) spreads
          blanks]
      rfl

/-! ### What is declared -/

theorem word_of_text {all : List Word} :
    ∀ part ∈ all.map Word.text, IsWord isSpace part ∧ '=' ∉ part := by
  intro part member
  obtain ⟨word, -, rfl⟩ := List.mem_map.mp member
  exact ⟨word.solid.1.is, word.solid.2⟩

theorem not_mem_join {item blank : Char} {parts : List Text} (other : item ≠ blank)
    (absent : ∀ part ∈ parts, item ∉ part) : item ∉ join blank parts := by
  intro member
  rcases mem_join member with same | ⟨part, found, inside⟩
  · exact other same
  · exact absent part found inside

theorem stops_nil {inside : Char → Bool} : Stops inside [] := nofun

theorem stops_of_code {inside : Char → Bool} {character : Char} (rest : Text)
    (outside : inside character = false) : Stops inside (character :: rest) := by
  intro item found
  rw [← Option.some.inj found]
  exact outside

theorem nameMatch_head (written : Written) (parameters : List Text) :
    nameMatch (join ' ' (written.head :: parameters)) =
      some (written.name, written.digits, join ' ' parameters) := by
  have named : (written.name.isEmpty) = false := by simpa using written.named
  have numbered : (written.digits.isEmpty) = false := by simpa using written.numbered
  have mark : ('#' != '#') = false := rfl
  cases parameters with
  | nil =>
      have text : join ' ' [written.head] = written.name ++ '#' :: written.digits :=
        join_singleton written.head
      have run := takeWhile_append_stops written.hexDigits stops_nil
      have rest := dropWhile_append_stops written.hexDigits stops_nil
      rw [List.append_nil] at run rest
      rw [text, nameMatch, takeWhile_append_stops written.nameCharacters (stops_of_code _ rfl),
        dropWhile_append_stops written.nameCharacters (stops_of_code _ rfl)]
      dsimp only
      rw [run, rest, named, numbered, mark]
      rfl
  | cons first others =>
      have text : join ' ' (written.head :: first :: others) =
          written.name ++ '#' :: (written.digits ++ ' ' :: join ' ' (first :: others)) := by
        rw [join_cons_cons, Written.head, List.append_assoc]
        rfl
      rw [text, nameMatch, takeWhile_append_stops written.nameCharacters (stops_of_code _ rfl),
        dropWhile_append_stops written.nameCharacters (stops_of_code _ rfl)]
      dsimp only
      rw [takeWhile_append_stops written.hexDigits (stops_of_code _ rfl),
        dropWhile_append_stops written.hexDigits (stops_of_code _ rfl), named, numbered, mark]
      rfl

theorem declared_written (sectionName : Text) (written : Written) :
    declared sectionName (written.head :: written.tail) = .ok (some written.declaration) := by
  have parameterWords : ∀ part ∈ written.parameters.map Word.text, IsWord isSpace part ∧ '=' ∉ part :=
    word_of_text
  have resultWords : ∀ part ∈ written.result.map Word.text, IsWord isSpace part ∧ '=' ∉ part :=
    word_of_text
  have leftWords : ∀ part ∈ written.head :: written.parameters.map Word.text,
      IsWord isSpace part ∧ '=' ∉ part := by
    intro part member
    rcases List.mem_cons.mp member with rfl | parameter
    · exact ⟨written.head_solid.1.is, written.head_solid.2⟩
    · exact parameterWords part parameter
  have separates : isSpace ' ' = true := rfl
  have none : Blank isSpace [] := nofun
  have single : Blank isSpace [' '] := by
    intro item member
    rw [List.mem_singleton.mp member]
    rfl
  obtain ⟨gap, blank, right⟩ := join_cons separates ['='] (written.result.map Word.text)
  have whole : join ' ' (written.head :: written.tail) =
      (join ' ' (written.head :: written.parameters.map Word.text) ++ [' ']) ++
        (['='] ++ (gap ++ join ' ' (written.result.map Word.text))) := by
    rw [Written.tail, ← List.cons_append, join_append, right, List.append_assoc]
    rfl
  have absent : '=' ∉ join ' ' (written.head :: written.parameters.map Word.text) ++ [' '] := by
    rw [List.mem_append, List.mem_singleton]
    exact not_or.mpr ⟨not_mem_join (by decide) fun part member => (leftWords part member).2,
      by decide⟩
  have cut : splitOnce ['='] (join ' ' (written.head :: written.tail)) =
      some (join ' ' (written.head :: written.parameters.map Word.text) ++ [' '],
        gap ++ join ' ' (written.result.map Word.text)) := by
    rw [splitOnce_eq_some, whole]
    exact firstAt_of_not_mem absent
  have left := strip_join none single ' ' fun part member => (leftWords part member).1
  have parameters := strip_join none none ' ' fun part member => (parameterWords part member).1
  have result := strip_join blank none ' ' fun part member => (resultWords part member).1
  rw [List.nil_append] at left parameters
  rw [List.append_nil] at parameters result
  rw [declared, cut]
  dsimp only
  rw [left, nameMatch_head]
  dsimp only
  rw [parameters, result]
  rfl

/-! ### Schemas from declarations -/

theorem declared_nothing (sectionName : Text) : declared sectionName [] = .ok none := by
  have none : splitOnce ['='] ([] : Text) = none :=
    splitOnce_eq_none.mpr fun occurs => absurd (List.infix_nil.mp occurs) (List.cons_ne_nil _ _)
  have empty : join ' ' ([] : List Text) = [] := rfl
  rw [declared, empty, none]

/-- The pieces that declare something, up to a last one without a word. -/
theorem declaredBy_of_each {sectionName : Text} {pieces : List (List Text)}
    {declarations : List Declaration}
    (each : List.Forall₂ (fun piece declaration =>
      declared sectionName piece = .ok (some declaration)) pieces declarations) :
    declaredBy sectionName (pieces ++ [[]]) = .ok declarations := by
  induction each with
  | nil =>
      rw [List.nil_append, declaredBy, declared_nothing]
      rfl
  | cons here _ ih =>
      rw [List.cons_append, declaredBy, here, ih]
      rfl

theorem each_of_declaredBy {sectionName : Text} {pieces : List (List Text)}
    {declarations : List Declaration}
    (read : declaredBy sectionName pieces = .ok declarations) :
    ∃ kept, kept ⊆ pieces ∧ List.Forall₂ (fun piece declaration =>
      declared sectionName piece = .ok (some declaration)) kept declarations := by
  induction pieces generalizing declarations with
  | nil =>
      rw [← Except.ok.inj read]
      exact ⟨[], List.Subset.refl [], .nil⟩
  | cons piece others ih =>
      rw [declaredBy] at read
      obtain ⟨first, here, read⟩ := bind_eq_ok.mp read
      obtain ⟨rest, later, read⟩ := bind_eq_ok.mp read
      obtain ⟨kept, subset, each⟩ := ih later
      rw [← Except.ok.inj read]
      cases first with
      | none => exact ⟨kept, List.subset_cons_of_subset piece subset, each⟩
      | some declaration =>
          exact ⟨piece :: kept, List.cons_subset_cons piece subset, .cons here each⟩

theorem parseDeclarations_of_candidates {sectionName source : Text}
    {declarations : List Declaration} (filled : declarations ≠ [])
    (read : declaredBy sectionName (candidates (cleanedFrom false [] source)) = .ok declarations) :
    parseDeclarations source sectionName = .ok declarations := by
  have kept : declarations.isEmpty = false := by simpa using filled
  rw [parseDeclarations, candidates_withoutComments, read]
  simp only [bind, Except.bind, kept]
  rfl

/-- The generator reads from a layout the declarations it writes. -/
theorem parseDeclarations_laid {all : List Written} {source : Text} (laid : Laid all source)
    (filled : all ≠ []) (sectionName : Text) :
    parseDeclarations source sectionName = .ok (all.map Written.declaration) := by
  apply parseDeclarations_of_candidates
  · simpa using filled
  · rw [candidates_of_laid laid]
    apply declaredBy_of_each
    rw [List.forall₂_map_left_iff, List.forall₂_map_right_iff, List.forall₂_same]
    exact fun written _ => declared_written sectionName written

/-! ### The schema of a manifest's declarations -/

/-- The declarations of a manifest, one on a line. -/
def declarationLines (declarations : List Declaration) : Text :=
  declarations.flatMap (fun declaration => declaration.declaration ++ ['\n'])

/-- What a piece between two semicolons is like once the comments are gone. -/
structure Clean (piece : List Text) : Prop where
  words : ∀ word ∈ piece, IsWord isSpace word
  whole : ∀ word ∈ piece, ';' ∉ word
  free : ∀ word ∈ piece, ¬ ['/', '/'] <:+: word

theorem clean_of_candidate {source : Text} {piece : List Text}
    (member : piece ∈ candidates (withoutComments source)) : Clean piece := by
  obtain ⟨text, part, rfl⟩ := List.mem_map.mp member
  refine ⟨fun word inside => isWord_of_mem_words inside, ?_, ?_⟩
  · intro word inside semicolon
    have held := (infix_of_mem_words inside).subset semicolon
    rw [List.splitOn_eq_splitOnP] at part
    have other := solid_of_mem_splitOnP part ';' held
    rw [beq_self_eq_true] at other
    cases other
  · intro word inside occurs
    have within := (occurs.trans (infix_of_mem_words inside)).trans (infix_of_mem_splitOn part)
    obtain ⟨line, found, comment⟩ :=
      infix_of_intercalate (by decide) (List.cons_ne_nil _ _) within
    obtain ⟨source, -, rfl⟩ := List.mem_map.mp found
    exact free_beforeComment source comment

theorem Clean.line {piece : List Text} (clean : Clean piece) (rest : Text) :
    candidates (cleanedFrom false [] (join ' ' piece ++ [';'] ++ ['\n'] ++ rest)) =
      piece :: candidates (cleanedFrom false [] rest) := by
  have absent : ';' ∉ join ' ' piece := not_mem_join (by decide) clean.whole
  have inside : ∀ item ∈ join ' ' piece ++ [';'], isBoundary item = false := by
    intro item member
    rcases List.mem_append.mp member with word | last
    · rcases mem_join word with same | ⟨part, found, held⟩
      · rw [same]
        rfl
      · exact boundary_of_solid ((clean.words part found).solid item held)
    · rw [List.mem_singleton.mp last]
      rfl
  have free : ¬ ['/', '/'] <:+: join ' ' piece ++ [';'] := by
    intro occurs
    rcases infix_of_separated (by decide) occurs with front | none
    · obtain ⟨part, found, comment⟩ := infix_of_intercalate (by decide) (List.cons_ne_nil _ _) front
      exact clean.free part found comment
    · exact absurd (List.infix_nil.mp none) (List.cons_ne_nil _ _)
  have separates : isSpace ' ' = true := rfl
  rw [List.append_assoc, cleanedFrom_read inside, List.nil_append, List.singleton_append,
    cleanedFrom_lineFeed, beforeComment_of_free free, List.append_assoc, List.singleton_append,
    candidates_cons absent, words_join separates clean.words]
  exact congrArg (piece :: ·) (candidates_blank_append blank_lineFeed _)

theorem declaration_of_declared {sectionName : Text} {piece : List Text}
    {declaration : Declaration} (read : declared sectionName piece = .ok (some declaration)) :
    declaration.declaration = join ' ' piece ++ [';'] := by
  unfold declared at read
  dsimp only at read
  split at read
  · cases read
  · split at read
    · cases read
    · rw [← Option.some.inj (Except.ok.inj read)]

theorem candidates_declarationLines {sectionName : Text} {pieces : List (List Text)}
    {declarations : List Declaration} (clean : ∀ piece ∈ pieces, Clean piece)
    (each : List.Forall₂ (fun piece declaration =>
      declared sectionName piece = .ok (some declaration)) pieces declarations) :
    candidates (cleanedFrom false [] (declarationLines declarations)) = pieces ++ [[]] := by
  induction each with
  | nil =>
      rw [declarationLines, List.flatMap_nil, cleanedFrom, beforeComment_nil]
      rfl
  | @cons piece declaration others rest here _ ih =>
      rw [declarationLines, List.flatMap_cons, declaration_of_declared here,
        (clean piece List.mem_cons_self).line, List.cons_append]
      exact congrArg _ (ih fun other member => clean other (List.mem_cons_of_mem piece member))

/-! ### The codec's view -/

/-- The ids that reach the codec, by their last 32 bits. -/
def Written.fits (written : Written) : Bool := hexadecimal written.digits < 2 ^ 32 + 2 ^ 31

theorem signed_fits (constructorId : Nat) :
    (-2 ^ 31 ≤ signed constructorId ∧ signed constructorId ≤ 2 ^ 31 - 1) ↔
      constructorId < 2 ^ 32 + 2 ^ 31 := by
  unfold signed
  split <;> omega

theorem ofInt_signed (constructorId : Nat) :
    BitVec.ofInt 32 (signed constructorId) = BitVec.ofNat 32 constructorId := by
  apply BitVec.eq_of_toNat_eq
  rw [BitVec.toNat_ofInt, BitVec.toNat_ofNat]
  unfold signed
  split <;> omega

def Written.decoded {α : Type} (build : JString → BitVec 32 → JString → JString → α)
    (written : Written) : α :=
  build (utf16 written.name) (BitVec.ofNat 32 (hexadecimal written.digits))
    (utf16 (join ' ' (written.parameters.map Word.text)))
    (utf16 (join ' ' (written.result.map Word.text)))

def Written.constructor : Written → RawConstructor := Written.decoded RawConstructor.mk

def Written.method : Written → RawMethod := Written.decoded RawMethod.mk

theorem decodeDeclared_members {α : Type} (build : JString → BitVec 32 → JString → JString → α)
    (written : Written) : decodeDeclared build (.object written.declaration.members) =
      if written.fits then some (written.decoded build) else none := by
  have name : property readText "name" written.declaration.members = some (utf16 written.name) :=
    property_text rfl
  have parameters : property readText "parameters" written.declaration.members =
      some (utf16 (join ' ' (written.parameters.map Word.text))) := property_text rfl
  have result : property readText "result" written.declaration.members =
      some (utf16 (join ' ' (written.result.map Word.text))) := property_text rfl
  have declaration : property readText "declaration" written.declaration.members =
      some (utf16 written.declaration.declaration) := property_text rfl
  have constructorId : property readI32 "constructorId" written.declaration.members =
      if -2 ^ 31 ≤ signed (hexadecimal written.digits) ∧
          signed (hexadecimal written.digits) ≤ 2 ^ 31 - 1 then
        some (signed (hexadecimal written.digits)) else none := property_int rfl
  rw [decodeDeclared, readObject]
  simp only [Except.toOption, Option.bind_eq_bind, Option.bind_some, name, parameters, result,
    declaration, constructorId, signed_fits]
  by_cases fits : hexadecimal written.digits < 2 ^ 32 + 2 ^ 31
  · rw [if_pos fits, Option.bind_some, ofInt_signed, Written.fits, decide_eq_true fits]
    rfl
  · rw [if_neg fits, Written.fits, decide_eq_false fits]
    rfl

theorem decodeEach {α : Type} (build : JString → BitVec 32 → JString → JString → α)
    (all : List Written) :
    ((all.map Written.declaration).map (fun item => Json.object item.members)).mapM
        (decodeDeclared build) =
      if all.all Written.fits then some (all.map (Written.decoded build)) else none := by
  induction all with
  | nil => rfl
  | cons written others ih =>
      rw [List.map_cons, List.map_cons, List.mapM_cons, decodeDeclared_members, ih,
        List.all_cons]
      cases written.fits <;> cases others.all Written.fits <;> rfl

theorem utf16_join (parts : List Text) :
    utf16 (join ' ' parts) = List.intercalate [unitOf ' '] (parts.map utf16) := by
  induction parts with
  | nil => rfl
  | cons part others ih =>
      cases others with
      | nil => rw [join_singleton, List.map_singleton, List.intercalate_singleton]
      | cons next more =>
          rw [join_cons_cons, List.map_cons, List.map_cons, List.intercalate_cons_cons,
            ← List.map_cons, ← ih, utf16, List.flatMap_append, List.flatMap_cons,
            List.append_assoc]
          rfl

theorem blank_not_mem_utf16 {word : Text} (is : IsWord isSpace word) :
    unitOf ' ' ∉ utf16 word := by
  intro member
  obtain ⟨character, inside, held⟩ := List.mem_flatMap.mp member
  have solid := is.solid character inside
  have scalar := isScalar_toNat character
  unfold IsScalar at scalar
  have code : character.toNat = 0x20 := by
    unfold toChars at held
    have blank : (unitOf ' ').toNat = 0x20 := rfl
    split at held
    · next small =>
        rw [List.mem_singleton] at held
        rw [held, BitVec.toNat_ofNat] at blank
        omega
    · rcases List.mem_cons.mp held with high | rest
      · rw [high, BitVec.toNat_ofNat] at blank
        omega
      · rw [List.mem_singleton.mp rest, BitVec.toNat_ofNat] at blank
        omega
  rw [isSpace, code] at solid
  cases solid

/-- The codec finds the parameters a declaration was written with. -/
theorem parseFields_written (parameters : List Word) :
    parseFields (utf16 (join ' ' (parameters.map Word.text))) =
      parseTokens (parameters.map (fun word => utf16 word.text)) := by
  rw [parseFields, utf16_join, List.map_map]
  cases parameters with
  | nil => rfl
  | cons first others =>
      rw [List.splitOn_intercalate]
      · rfl
      · intro part member
        obtain ⟨word, -, rfl⟩ := List.mem_map.mp member
        exact blank_not_mem_utf16 word.solid.1.is
      · exact List.cons_ne_nil _ _

/-! ### A schema of one constructor and one function -/

def Word.of (text : Text) (checked : text ≠ [] ∧ ∀ character ∈ text, isPlain character = true) :
    Word := ⟨text, checked.1, checked.2⟩

def Written.of (name digits : Text) (parameters result : List Word)
    (checked : (name ≠ [] ∧ ∀ character ∈ name, isNameCharacter character = true) ∧
      digits ≠ [] ∧ ∀ character ∈ digits, isHexDigit character = true) : Written :=
  ⟨name, digits, checked.1.1, checked.1.2, checked.2.1, checked.2.2, parameters, result⟩

def asciiDecimal (character : Char) : Option Nat :=
  if within '0' '9' character then some (character.toNat - '0'.toNat) else none

def nearestDcText : Text :=
  "// the home of a server\nnearestDc#8e1a1775 country:string\tthis_dc:int // this one\n".toList
    ++ "  nearest_dc:int = NearestDc;\n".toList

def getNearestDcText : Text :=
  "\nhelp.getNearestDc#1fb33026 = NearestDc;\n// LAYER 232\n".toList

theorem country_word : "country:string".toList ≠ [] ∧
    ∀ character ∈ "country:string".toList, isPlain character = true :=
  ⟨List.cons_ne_nil _ _, List.all_eq_true.mp rfl⟩

theorem thisDc_word : "this_dc:int".toList ≠ [] ∧
    ∀ character ∈ "this_dc:int".toList, isPlain character = true :=
  ⟨List.cons_ne_nil _ _, List.all_eq_true.mp rfl⟩

theorem nearestDc_word : "nearest_dc:int".toList ≠ [] ∧
    ∀ character ∈ "nearest_dc:int".toList, isPlain character = true :=
  ⟨List.cons_ne_nil _ _, List.all_eq_true.mp rfl⟩

theorem result_word : "NearestDc".toList ≠ [] ∧
    ∀ character ∈ "NearestDc".toList, isPlain character = true :=
  ⟨List.cons_ne_nil _ _, List.all_eq_true.mp rfl⟩

theorem nearestDc_head :
    ("nearestDc".toList ≠ [] ∧
      ∀ character ∈ "nearestDc".toList, isNameCharacter character = true) ∧
    "8e1a1775".toList ≠ [] ∧ ∀ character ∈ "8e1a1775".toList, isHexDigit character = true :=
  ⟨⟨List.cons_ne_nil _ _, List.all_eq_true.mp rfl⟩, List.cons_ne_nil _ _, List.all_eq_true.mp rfl⟩

theorem getNearestDc_head :
    ("help.getNearestDc".toList ≠ [] ∧
      ∀ character ∈ "help.getNearestDc".toList, isNameCharacter character = true) ∧
    "1fb33026".toList ≠ [] ∧ ∀ character ∈ "1fb33026".toList, isHexDigit character = true :=
  ⟨⟨List.cons_ne_nil _ _, List.all_eq_true.mp rfl⟩, List.cons_ne_nil _ _, List.all_eq_true.mp rfl⟩

def nearestDcWritten : Written :=
  .of "nearestDc".toList "8e1a1775".toList
    [.of _ country_word, .of _ thisDc_word, .of _ nearestDc_word] [.of _ result_word] nearestDc_head

def getNearestDcWritten : Written :=
  .of "help.getNearestDc".toList "1fb33026".toList [] [.of _ result_word] getNearestDc_head

theorem between_space {character : Char} (blank : isSpace character = true) :
    Between [character] := ⟨[.space character blank], List.cons_ne_nil _ _, rfl⟩

theorem nearestDc_laid : Laid [nearestDcWritten] nearestDcText := by
  have comment : Between " // this one\n  ".toList :=
    ⟨[.space ' ' rfl, .comment " this one".toList '\n' (none_of_any rfl) rfl, .space ' ' rfl,
      .space ' ' rfl], List.cons_ne_nil _ _, rfl⟩
  have blank : Between [' '] := between_space rfl
  have tab : Between ['\t'] := between_space rfl
  have spread : Spread Between nearestDcWritten.tail
      " country:string\tthis_dc:int // this one\n  nearest_dc:int = NearestDc".toList :=
    .cons blank (.cons tab (.cons comment (.cons blank (.cons blank .nil))))
  exact .cons nearestDcWritten [.comment " the home of a server".toList '\n' (none_of_any rfl) rfl] []
    spread (.done [.space '\n' rfl] [] (.inl rfl))

theorem getNearestDc_laid : Laid [getNearestDcWritten] getNearestDcText := by
  have blank : Between [' '] := between_space rfl
  have spread : Spread Between getNearestDcWritten.tail " = NearestDc".toList :=
    .cons blank (.cons blank .nil)
  exact .cons getNearestDcWritten [.space '\n' rfl] [] spread
    (.done [.space '\n' rfl, .comment " LAYER 232".toList '\n' (none_of_any rfl) rfl] [] (.inl rfl))

/-! ### The manifest -/

/-- A manifest's declarations are a schema of which the same ones are generated. -/
theorem declarations_regenerate {source sectionName : Text}
    {declarations : List Declaration}
    (generated : parseDeclarations source sectionName = .ok declarations) :
    parseDeclarations (declarationLines declarations) sectionName = .ok declarations := by
  unfold parseDeclarations at generated
  obtain ⟨read, all, generated⟩ := bind_eq_ok.mp generated
  split at generated
  · cases generated
  · next filled =>
      rw [← Except.ok.inj generated]
      obtain ⟨kept, subset, each⟩ := each_of_declaredBy all
      apply parseDeclarations_of_candidates
      · simpa using filled
      · rw [candidates_declarationLines
          (fun piece member => clean_of_candidate (subset member)) each]
        exact declaredBy_of_each each

theorem declarations_regenerate_nearestDc :
    parseDeclarations (declarationLines [nearestDcWritten.declaration]) "Constructor".toList =
      .ok [nearestDcWritten.declaration] :=
  declarations_regenerate (parseDeclarations_laid nearestDc_laid (List.cons_ne_nil _ _) _)

/-- From a schema laid out in any way, the codec gets the constructors and functions
that were written, if it gets any. -/
theorem codec_sees_the_schema {decimal : Char → Option Nat} {sha256 : Text → Text}
    {schema before after : Text} {constructors functions : List Written} {layer : Nat}
    (cut : FirstAt marker schema before after) (first : Laid constructors before)
    (second : Laid functions after) (someConstructor : constructors ≠ [])
    (someFunction : functions ≠ []) (numbered : layerMatch decimal schema = some layer) :
    ∃ manifest, generate decimal sha256 schema = .ok manifest ∧
      RawSchema.decode manifest.document =
        (if layer < 2 ^ 31 ∧ (constructors ++ functions).all Written.fits then
          some {
            constructors := constructors.map Written.constructor
            functions := functions.map Written.method
            layer := layer }
        else none) ∧
      ∀ written ∈ constructors ++ functions, parseFields written.constructor.parameters =
        parseTokens (written.parameters.map (fun word => utf16 word.text)) := by
  let manifest : Manifest := {
    constructors := constructors.map Written.declaration
    layer := layer
    schemaSha256 := sha256 schema
    functions := functions.map Written.declaration }
  have generated : generate decimal sha256 schema = .ok manifest := by
    rw [generate, numbered, splitOnce_eq_some.mpr cut]
    dsimp only
    rw [parseDeclarations_laid first someConstructor, parseDeclarations_laid second someFunction]
    rfl
  have constructorsRead : property (readArray RawConstructor.decode) "constructors"
      manifest.members = if constructors.all Written.fits then
        some (constructors.map Written.constructor) else none :=
    (property_array rfl).trans (decodeEach RawConstructor.mk constructors)
  have functionsRead : property (readArray RawMethod.decode) "functions" manifest.members =
      if functions.all Written.fits then some (functions.map Written.method) else none :=
    (property_array rfl).trans (decodeEach RawMethod.mk functions)
  have layerRead : property readI32 "layer" manifest.members =
      if -2 ^ 31 ≤ (layer : Int) ∧ (layer : Int) ≤ 2 ^ 31 - 1 then some (layer : Int) else none :=
    property_int rfl
  have format : property readText "format" manifest.members =
      some (utf16 "kotlogram-raw-schema/v1".toList) := rfl
  have digest : property readText "schemaSha256" manifest.members =
      some (utf16 (sha256 schema)) := property_text rfl
  refine ⟨manifest, generated, ?_, fun written _ => parseFields_written written.parameters⟩
  have bounds : (-2 ^ 31 ≤ (layer : Int) ∧ (layer : Int) ≤ 2 ^ 31 - 1) ↔ layer < 2 ^ 31 := by omega
  rw [RawSchema.decode, Manifest.document, readObject]
  simp only [Except.toOption, Option.bind_eq_bind, Option.bind_some, constructorsRead,
    functionsRead, layerRead, format, digest, bounds, List.all_append, Bool.and_eq_true]
  by_cases small : layer < 2 ^ 31
  · simp only [small, if_pos, true_and, Option.bind_some]
    cases constructors.all Written.fits <;> cases functions.all Written.fits <;> rfl
  · simp only [small, if_false, false_and, Option.bind_none]
    cases constructors.all Written.fits <;> cases functions.all Written.fits <;> rfl

theorem nearestDc_layer :
    layerMatch asciiDecimal (nearestDcText ++ (marker ++ getNearestDcText)) = some 232 := by
  decide +kernel

theorem nearestDc_cut : splitOnce marker (nearestDcText ++ (marker ++ getNearestDcText)) =
    some (nearestDcText, getNearestDcText) := by
  decide +kernel

theorem codec_sees_the_schema_nearestDc :
    ∃ manifest,
      generate asciiDecimal
          (fun _ => "f84dd996b518797ae5ecfcaf61c7465345385a9e09dc9893f5b540e62e79d61c".toList)
          (nearestDcText ++ (marker ++ getNearestDcText)) = .ok manifest ∧
      RawSchema.decode manifest.document =
        (if 232 < 2 ^ 31 ∧ [nearestDcWritten, getNearestDcWritten].all Written.fits then
          some {
            constructors := [nearestDcWritten.constructor]
            functions := [getNearestDcWritten.method]
            layer := 232 }
        else none) ∧
      ∀ written ∈ [nearestDcWritten, getNearestDcWritten],
        parseFields written.constructor.parameters =
          parseTokens (written.parameters.map (fun word => utf16 word.text)) :=
  codec_sees_the_schema (splitOnce_eq_some.mp nearestDc_cut) nearestDc_laid getNearestDc_laid
    (List.cons_ne_nil _ _) (List.cons_ne_nil _ _) nearestDc_layer

end SchemaGenerator
end Kotlogramme.Raw
