/-
The manifest of the raw schema, from the TL text it is generated from.

The generator takes the comments out of the text, cuts it at its semicolons and
reads a declaration from every piece with an equals sign.  The codec is built from
the JSON document the generator writes.  What Unicode counts as a decimal digit,
and the digest of the text, are parameters.
-/

import Kotlogramme.Foundation.Words
import Kotlogramme.Protocol.Document
import Kotlogramme.Raw.Schema

namespace Kotlogramme.Raw
namespace SchemaGenerator

open Protocol Splitting Words

/-- A string of code points. -/
abbrev Text := List Char

/-! ### Strings -/

/-- `str.isspace` of one character, which is also what the class of white space in a
regular expression matches. -/
def isSpace (character : Char) : Bool :=
  let code := character.toNat
  (0x09 ≤ code && code ≤ 0x0D) || (0x1C ≤ code && code ≤ 0x20) || code == 0x85 || code == 0xA0 ||
    code == 0x1680 || (0x2000 ≤ code && code ≤ 0x200A) || code == 0x2028 || code == 0x2029 ||
    code == 0x202F || code == 0x205F || code == 0x3000

/-- What `str.splitlines` ends a line at. -/
def isBoundary (character : Char) : Bool :=
  let code := character.toNat
  (0x0A ≤ code && code ≤ 0x0D) || (0x1C ≤ code && code ≤ 0x1E) || code == 0x85 ||
    code == 0x2028 || code == 0x2029

/-- The lines of a text of which `line` has been read; `returned` says that a carriage
return has just ended a line, with which a line feed belongs. -/
def splitlinesFrom : Bool → Text → Text → List Text
  | _, line, [] => if line.isEmpty then [] else [line]
  | returned, line, character :: rest =>
      if returned && character == '\n' then splitlinesFrom false line rest
      else if isBoundary character then line :: splitlinesFrom (character == '\r') [] rest
      else splitlinesFrom false (line ++ [character]) rest

def splitlines (text : Text) : List Text := splitlinesFrom false [] text

/-- `int(digits, 16)`. -/
def hexadecimal (digits : Text) : Nat :=
  digits.foldl (fun value digit =>
    value * 16 + (if digit.toNat < 0x3A then digit.toNat - 0x30 else digit.toNat - 0x57)) 0

/-! ### Declarations -/

structure Declaration where
  name : Text
  constructorId : Int
  parameters : Text
  result : Text
  declaration : Text
  deriving DecidableEq

/-- Why a manifest is not generated. -/
inductive ValueError
  | missingConstructorId (sectionName declaration : Text)
  | nothingParsed (sectionName : Text)
  | noLayer
  | noFunctions
  deriving DecidableEq

def ValueError.message : ValueError → Text
  | .missingConstructorId sectionName declaration =>
      sectionName ++ " declaration is missing a constructor ID: ".toList ++ declaration
  | .nothingParsed sectionName =>
      "No ".toList ++ sectionName.map Char.toLower ++
        " declarations were parsed from the schema".toList
  | .noLayer => "The schema does not declare a TL layer".toList
  | .noFunctions => "The schema does not contain a functions section".toList

/-- A line without its comment. -/
def beforeComment (line : Text) : Text :=
  match splitOnce ['/', '/'] line with
  | some (before, _) => before
  | none => line

def withoutComments (source : Text) : Text :=
  List.intercalate ['\n'] ((splitlines source).map beforeComment)

/-- The characters of a range. -/
def within (first last character : Char) : Bool :=
  first.toNat ≤ character.toNat && character.toNat ≤ last.toNat

def isNameCharacter (character : Char) : Bool :=
  within 'A' 'Z' character || within 'a' 'z' character || within '0' '9' character ||
    character == '_' || character == '.'

def isHexDigit (character : Char) : Bool :=
  within '0' '9' character || within 'a' 'f' character

/-- The groups of `^([A-Za-z0-9_.]+)#([0-9a-f]+)(?:\s|$)`, and what follows the match. -/
def nameMatch (left : Text) : Option (Text × Text × Text) :=
  let name := left.takeWhile isNameCharacter
  match left.dropWhile isNameCharacter with
  | [] => none
  | mark :: afterMark =>
      let digits := afterMark.takeWhile isHexDigit
      if mark != '#' || name.isEmpty || digits.isEmpty then none
      else
        match afterMark.dropWhile isHexDigit with
        | [] => some (name, digits, [])
        | character :: rest => if isSpace character then some (name, digits, rest) else none

/-- The id as a signed number of 32 bits, if it has no more. -/
def signed (constructorId : Nat) : Int :=
  if 2 ^ 31 ≤ constructorId then (constructorId : Int) - 2 ^ 32 else constructorId

/-- What the words between two semicolons declare, if anything. -/
def declared (sectionName : Text) (candidate : List Text) :
    Except ValueError (Option Declaration) :=
  let declaration := join ' ' candidate
  match splitOnce ['='] declaration with
  | none => .ok none
  | some (left, result) =>
      match nameMatch (strip isSpace left) with
      | none => .error (.missingConstructorId sectionName declaration)
      | some (name, digits, parameters) => .ok (some {
          name := name
          constructorId := signed (hexadecimal digits)
          parameters := strip isSpace parameters
          result := strip isSpace result
          declaration := declaration ++ [';'] })

def declaredBy (sectionName : Text) : List (List Text) → Except ValueError (List Declaration)
  | [] => .ok []
  | candidate :: others => do
      let first ← declared sectionName candidate
      let rest ← declaredBy sectionName others
      return first.toList ++ rest

/-- The words between the semicolons of a text. -/
def candidates (text : Text) : List (List Text) := (text.splitOn ';').map (words isSpace)

def parseDeclarations (source sectionName : Text) : Except ValueError (List Declaration) := do
  let declarations ← declaredBy sectionName (candidates (withoutComments source))
  if declarations.isEmpty then .error (.nothingParsed sectionName) else return declarations

/-! ### The manifest -/

/-- What follows a prefix. -/
def removePrefix? (start text : Text) : Option Text :=
  if start.isPrefixOf text then some (text.drop start.length) else none

/-- The number that `\s*//\s*LAYER\s+(\d+)\s*$` finds at a place. -/
def layerHere (decimal : Char → Option Nat) (text : Text) : Option Nat := do
  let comment ← removePrefix? ['/', '/'] (text.dropWhile isSpace)
  let number ← removePrefix? "LAYER".toList (comment.dropWhile isSpace)
  let digits := ((number.dropWhile isSpace).takeWhile (fun digit => (decimal digit).isSome))
  let rest := ((number.dropWhile isSpace).dropWhile (fun digit => (decimal digit).isSome))
  if (number.takeWhile isSpace).isEmpty || digits.isEmpty ||
      !((rest.dropWhile isSpace).isEmpty || (rest.takeWhile isSpace).contains '\n') then none
  else some ((digits.filterMap decimal).foldl (fun value digit => value * 10 + digit) 0)

/-- The first number that a line of the text begins with; `start` says that a line
begins here. -/
def layerFrom (decimal : Char → Option Nat) : Bool → Text → Option Nat
  | _, [] => none
  | start, character :: rest =>
      (if start then layerHere decimal (character :: rest) else none).or
        (layerFrom decimal (character == '\n') rest)

def layerMatch (decimal : Char → Option Nat) (schema : Text) : Option Nat :=
  layerFrom decimal true schema

def marker : Text := "---functions---".toList

structure Manifest where
  constructors : List Declaration
  layer : Nat
  schemaSha256 : Text
  functions : List Declaration

def generate (decimal : Char → Option Nat) (sha256 : Text → Text) (schema : Text) :
    Except ValueError Manifest :=
  match layerMatch decimal schema with
  | none => .error .noLayer
  | some layer =>
      match splitOnce marker schema with
      | none => .error .noFunctions
      | some (constructorsSource, functionsSource) => do
          let constructors ← parseDeclarations constructorsSource "Constructor".toList
          let functions ← parseDeclarations functionsSource "Function".toList
          return { constructors, layer, schemaSha256 := sha256 schema, functions }

def Declaration.members (declaration : Declaration) : List (String × Json) :=
  [("constructorId", .int declaration.constructorId),
    ("declaration", .string (String.ofList declaration.declaration)),
    ("name", .string (String.ofList declaration.name)),
    ("parameters", .string (String.ofList declaration.parameters)),
    ("result", .string (String.ofList declaration.result))]

def Manifest.members (manifest : Manifest) : List (String × Json) :=
  [("constructors", .array (manifest.constructors.map (fun item => .object item.members))),
    ("format", .string "kotlogram-raw-schema/v1"),
    ("functions", .array (manifest.functions.map (fun item => .object item.members))),
    ("layer", .int manifest.layer),
    ("schemaSha256", .string (String.ofList manifest.schemaSha256))]

/-- What is written to the file of the manifest. -/
def Manifest.document (manifest : Manifest) : Json := .object manifest.members

end SchemaGenerator

/-! ### The schema read from a manifest -/

open Protocol Utf

/-- A required property of a class. -/
def property {α : Type} (read : Json → Except Refusal α) (name : String)
    (members : List (String × Json)) : Option α :=
  (field none read name members).toOption

def readText (document : Json) : Except Refusal JString :=
  (fun string => utf16 string.toList) <$> readString document

def readArray {α : Type} (read : Json → Option α) : Json → Except Refusal (List α)
  | .array items =>
      match items.mapM read with
      | some values => .ok values
      | none => .error .invalidValue
  | _ => .error .invalidType

section Properties

variable {α : Type} {name : String} {members : List (String × Json)}

theorem property_of_lookup {read : Json → Except Refusal α} {document : Json}
    (held : members.lookup name = some document) :
    property read name members = (read document).toOption := by
  rw [property, field, held]

theorem property_text {characters : List Char}
    (held : members.lookup name = some (.string (String.ofList characters))) :
    property readText name members = some (utf16 characters) := by
  rw [property_of_lookup held, readText, readString]
  exact congrArg some (congrArg utf16 (String.toList_ofList))

theorem property_int {value : Int} (held : members.lookup name = some (.int value)) :
    property readI32 name members =
      if -2 ^ 31 ≤ value ∧ value ≤ 2 ^ 31 - 1 then some value else none := by
  rw [property_of_lookup held, readI32, readInt]
  split <;> rfl

theorem property_array {read : Json → Option α} {items : List Json}
    (held : members.lookup name = some (.array items)) :
    property (readArray read) name members = items.mapM read := by
  rw [property_of_lookup held, readArray]
  cases items.mapM read <;> rfl

end Properties

/-- `RawConstructor` and `RawMethod` have the same properties. -/
def decodeDeclared {α : Type} (build : JString → BitVec 32 → JString → JString → α)
    (document : Json) : Option α := do
  let members ← (readObject document).toOption
  let name ← property readText "name" members
  let constructorId ← property readI32 "constructorId" members
  let parameters ← property readText "parameters" members
  let result ← property readText "result" members
  let _ ← property readText "declaration" members
  return build name (BitVec.ofInt 32 constructorId) parameters result

def RawConstructor.decode : Json → Option RawConstructor := decodeDeclared RawConstructor.mk

def RawMethod.decode : Json → Option RawMethod := decodeDeclared RawMethod.mk

def RawSchema.decode (document : Json) : Option RawSchema := do
  let members ← (readObject document).toOption
  let constructors ← property (readArray RawConstructor.decode) "constructors" members
  let _ ← property readText "format" members
  let layer ← property readI32 "layer" members
  let _ ← property readText "schemaSha256" members
  let functions ← property (readArray RawMethod.decode) "functions" members
  return { constructors, functions, layer }

end Kotlogramme.Raw
