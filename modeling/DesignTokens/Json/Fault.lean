/-! What can be wrong with a JSON document, and where. -/

namespace DesignTokens.Json

inductive Fault where
  | expectedValue
  | expectedName
  | expectedColon
  | expectedComma
  | unterminatedText
  | controlCharacter
  | unknownEscape
  | brokenCodeEscape
  | extraData
  | byteOrderMark
  deriving DecidableEq, Repr

def Fault.message : Fault → String
  | .expectedValue => "Expecting value"
  | .expectedName => "Expecting property name enclosed in double quotes"
  | .expectedColon => "Expecting ':' delimiter"
  | .expectedComma => "Expecting ',' delimiter"
  | .unterminatedText => "Unterminated string starting at"
  | .controlCharacter => "Invalid control character at"
  | .unknownEscape => "Invalid \\escape"
  | .brokenCodeEscape => "Invalid \\uXXXX escape"
  | .extraData => "Extra data"
  | .byteOrderMark => "Unexpected UTF-8 BOM (decode using utf-8-sig)"

/-- A place in a document is what is left of the document from there. -/
structure SyntaxError where
  fault : Fault
  place : List Char
  deriving DecidableEq, Repr

/-- Lines and columns count from one, characters from zero. -/
structure Position where
  line : Nat
  column : Nat
  offset : Nat
  deriving DecidableEq, Repr

def Position.of (document place : List Char) : Position :=
  let offset := document.length - place.length
  let passed := document.take offset
  { line := passed.count '\n' + 1
    column := (passed.reverse.takeWhile (· != '\n')).length + 1
    offset }

def Position.message (position : Position) : String :=
  s!"line {position.line} column {position.column} (char {position.offset})"

end DesignTokens.Json
