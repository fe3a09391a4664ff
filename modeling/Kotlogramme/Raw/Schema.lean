/-
The raw TL schema and the parameter lists of its declarations.

A declaration keeps its parameters as one text.  The codec splits that text
into fields each time it meets the declaration, and chooses how to write or
read a value by the text of its type.
-/

import Kotlogramme.Foundation.LinkedMap
import Kotlogramme.Foundation.Utf
import Mathlib.Algebra.Group.Nat.Defs

namespace Kotlogramme.Raw

structure RawConstructor where
  name : JString
  constructorId : BitVec 32
  parameters : JString
  result : JString
  deriving DecidableEq

structure RawMethod where
  name : JString
  constructorId : BitVec 32
  parameters : JString
  result : JString
  deriving DecidableEq

structure RawSchema where
  constructors : List RawConstructor
  functions : List RawMethod
  layer : Int

/-- The exceptions of the codec, one constructor for each place that throws.
`depthExceeded` is the bound of the recursion below, which the codec does not
have. -/
inductive TlError
  | unknownMethod (layer : Int) (name : JString)
  | unknownConstructor (layer : Int) (name : JString)
  | unknownConstructorId (layer : Int) (constructorId : BitVec 32)
  | wrongResult (name result expectedType : JString)
  | unknownFields (names : List JString)
  | missingField (name : JString)
  | mustBe (name : JString) (expected : Bool)
  | typeError (expected received : JString)
  | wrongSize (type : JString) (size : Nat)
  | unsupportedParameter (token : JString)
  | numberFormat (digits : JString)
  | requiredNull
  | byteArrayTooLong
  | unexpectedConstructor (actual : BitVec 32)
  | unexpectedBoolean (actual : BitVec 32)
  | invalidByteArrayPrefix (value : Nat)
  | truncated
  | malformedInput
  | invalidVectorSize (size : Int)
  | trailingBytes (count : Nat)
  | depthExceeded
  deriving DecidableEq

private def decimal (number : Int) : JString := text (toString number)

/-- `0x` and the unsigned hexadecimal digits of a constructor id. -/
private def hexadecimal (constructorId : BitVec 32) : JString :=
  text "0x" ++ (Nat.toDigits 16 constructorId.toNat).map unitOf

def TlError.message : TlError → JString
  | .unknownMethod layer name => text "Unknown Layer-" ++ decimal layer ++ text " method: " ++ name
  | .unknownConstructor layer name =>
      text "Unknown Layer-" ++ decimal layer ++ text " constructor: " ++ name
  | .unknownConstructorId layer constructorId =>
      text "Unknown Layer-" ++ decimal layer ++ text " constructor: " ++ hexadecimal constructorId
  | .wrongResult name result expectedType =>
      name ++ text " produces " ++ result ++ text ", not " ++ expectedType
  | .unknownFields names =>
      text "Unknown TL field(s): [" ++ List.intercalate (text ", ") names ++ text "]"
  | .missingField name => text "Missing TL field: " ++ name
  | .mustBe name expected => name ++ text " must be " ++ text (toString expected)
  | .typeError expected received =>
      text "Expected " ++ expected ++ text ", received " ++ received
  | .wrongSize type size => type ++ text " requires exactly " ++ decimal size ++ text " bytes"
  | .unsupportedParameter token => text "Unsupported TL parameter: " ++ token
  | .numberFormat digits => text "For input string: \"" ++ digits ++ text "\""
  | .requiredNull => text "Required value was null."
  | .byteArrayTooLong => text "TL byte arrays cannot exceed 16,777,215 bytes"
  | .unexpectedConstructor actual => text "Unexpected TL constructor: " ++ hexadecimal actual
  | .unexpectedBoolean actual => text "Unexpected TL boolean constructor: " ++ hexadecimal actual
  | .invalidByteArrayPrefix value => text "Invalid TL byte-array prefix: " ++ decimal value
  | .truncated => text "Truncated TL input"
  | .malformedInput => text "Input length = 1"
  | .invalidVectorSize size => text "Invalid TL vector size: " ++ decimal size
  | .trailingBytes count => text "TL input has " ++ decimal count ++ text " trailing byte(s)"
  | .depthExceeded => []

/-! ### Fields -/

/-- One declared parameter.  `flag` is the flag word and the bit that guard an
optional one. -/
structure Field where
  name : JString
  type : JString
  flag : Option (JString × Nat)
  deriving DecidableEq

/-- `Char.isWhitespace`. -/
def isWhitespace (unit : CodeUnit) : Bool :=
  let code := unit.toNat
  (9 ≤ code && code ≤ 13) || (28 ≤ code && code ≤ 32) || code == 0xA0 || code == 0x1680 ||
    (0x2000 ≤ code && code ≤ 0x200A) || code == 0x2028 || code == 0x2029 || code == 0x202F ||
    code == 0x205F || code == 0x3000

def isDigit (unit : CodeUnit) : Bool := 48 ≤ unit.toNat && unit.toNat ≤ 57

/-- A unit of the class `[A-Za-z0-9_]`. -/
def isWord (unit : CodeUnit) : Bool :=
  (65 ≤ unit.toNat && unit.toNat ≤ 90) || (97 ≤ unit.toNat && unit.toNat ≤ 122) ||
    isDigit unit || unit == unitOf '_'

/-- A line terminator, which `.` does not match. -/
def isLineTerminator (unit : CodeUnit) : Bool :=
  unit.toNat == 10 || unit.toNat == 13 || unit.toNat == 0x85 || unit.toNat == 0x2028 ||
    unit.toNat == 0x2029

/-- The groups of `([A-Za-z0-9_]+)\.(\d+)\?(.+)` on a whole declared type. -/
def optionalField (declaredType : JString) : Option (JString × JString × JString) :=
  let flagName := declaredType.takeWhile isWord
  match declaredType.dropWhile isWord with
  | [] => none
  | dot :: afterDot =>
      let digits := afterDot.takeWhile isDigit
      match afterDot.dropWhile isDigit with
      | [] => none
      | mark :: type =>
          if dot == unitOf '.' && mark == unitOf '?' && !flagName.isEmpty && !digits.isEmpty &&
              !type.isEmpty && type.all (fun unit => !isLineTerminator unit) then
            some (flagName, digits, type)
          else none

/-- `String.toInt` on a text of digits. -/
def toInt (digits : JString) : Except TlError Nat :=
  let number := digits.foldl (fun value digit => value * 10 + (digit.toNat - 48)) 0
  if number < 2 ^ 31 then .ok number else .error (.numberFormat digits)

/-- A token that declares no field: a blank one, or a type variable. -/
def isSkipped (token : JString) : Bool :=
  token.all isWhitespace || token.head? == some (unitOf '{')

def parseField (token : JString) : Except TlError Field :=
  let name := token.takeWhile (· != unitOf ':')
  match token.dropWhile (· != unitOf ':') with
  | [] => .error (.unsupportedParameter token)
  | _ :: declaredType =>
      if name.isEmpty then .error (.unsupportedParameter token)
      else match optionalField declaredType with
        | none => .ok { name, type := declaredType, flag := none }
        | some (flagName, digits, type) => do
            let flagBit ← toInt digits
            return { name, type, flag := some (flagName, flagBit) }

def parseTokens : List JString → Except TlError (List Field)
  | [] => .ok []
  | token :: rest =>
      if isSkipped token then parseTokens rest
      else do
        let field ← parseField token
        let fields ← parseTokens rest
        return field :: fields

def parseFields (parameters : JString) : Except TlError (List Field) :=
  parseTokens (parameters.splitOn (unitOf ' '))

/-! ### Types -/

def flagsType : JString := text "#"

/-- The type of a field whose presence is its whole value. -/
def trueType : JString := text "true"

/-- The type variable of a generic result. -/
def variableType : JString := text "X"

/-- How a type text is written and read: the branches `writeValue` and
`readValue` share. -/
inductive TypeShape
  | int
  | long
  | double
  | string
  | bytes
  | int128
  | int256
  | bool
  | vector (elementType : JString)
  | generic
  | boxed
  deriving DecidableEq

def substringAfter (delimiter : CodeUnit) (string : JString) : JString :=
  match string.dropWhile (· != delimiter) with
  | [] => string
  | _ :: rest => rest

def typeShape (type : JString) : TypeShape :=
  if type = text "int" then .int
  else if type = text "long" then .long
  else if type = text "double" then .double
  else if type = text "string" then .string
  else if type = text "bytes" then .bytes
  else if type = text "int128" then .int128
  else if type = text "int256" then .int256
  else if type = text "Bool" then .bool
  else if (text "Vector<").isPrefixOf type && type.getLast? == some (unitOf '>') then
    .vector (substringAfter (unitOf '<') type).dropLast
  else if type.head? == some (unitOf '!') then .generic
  else .boxed

def removeBang (type : JString) : JString :=
  if type.head? == some (unitOf '!') then type.drop 1 else type

def matchesType (actual expected : JString) : Bool := removeBang actual == removeBang expected

example : typeShape (text "Vector<Vector<int>>") = .vector (text "Vector<int>") := by decide

example : parseFields (text "flags:# silent:flags.5?true peer:InputPeer") =
    .ok [⟨text "flags", text "#", none⟩, ⟨text "silent", text "true", some (text "flags", 5)⟩,
      ⟨text "peer", text "InputPeer", none⟩] := by decide

end Kotlogramme.Raw
