import DesignTokens.Json.Basic
import DesignTokens.Number.Shortest
import DesignTokens.Text.Digits

/-! A JSON document with one item or member to a line, indented by two blanks for each level. Only
quotes, backslashes and control characters are escaped. -/

namespace DesignTokens.Json
open Text

def escape (c : Char) : List Char :=
  if c == '"' then ['\\', '"']
  else if c == '\\' then ['\\', '\\']
  else if c == '\n' then ['\\', 'n']
  else if c == '\r' then ['\\', 'r']
  else if c == '\t' then ['\\', 't']
  else if c == '\x08' then ['\\', 'b']
  else if c == '\x0C' then ['\\', 'f']
  else if c < ' ' then '\\' :: 'u' :: hexDigits 4 c.toNat
  else [c]

def quoted (text : String) : List Char :=
  '"' :: text.toList.flatMap escape ++ ['"']

/-- The names that a document gives to floats that are not finite. -/
def specialNames : Number.SpecialNames := ⟨"Infinity", "NaN"⟩

def indent (depth : Nat) : List Char :=
  List.replicate (2 * depth) ' '

mutual

/-- The text of a value that stands inside `depth` arrays and objects. -/
def write (depth : Nat) : Json → List Char
  | .null => "null".toList
  | .bool true => "true".toList
  | .bool false => "false".toList
  | .int value => (toString value).toList
  | .float value => (value.text specialNames).toList
  | .string text => quoted text
  | .array [] => ['[', ']']
  | .array (item :: items) =>
    '[' :: '\n' :: indent (depth + 1) ++ write (depth + 1) item ++ writeItems (depth + 1) items ++
      '\n' :: indent depth ++ [']']
  | .object [] => ['{', '}']
  | .object ((name, value) :: members) =>
    '{' :: '\n' :: indent (depth + 1) ++ quoted name ++ ':' :: ' ' :: write (depth + 1) value ++
      writeMembers (depth + 1) members ++ '\n' :: indent depth ++ ['}']
termination_by structural value => value

/-- The items behind the first one. -/
def writeItems (depth : Nat) : List Json → List Char
  | [] => []
  | item :: items => ',' :: '\n' :: indent depth ++ write depth item ++ writeItems depth items
termination_by structural items => items

/-- The members behind the first one. -/
def writeMembers (depth : Nat) : List (String × Json) → List Char
  | [] => []
  | (name, value) :: members =>
    ',' :: '\n' :: indent depth ++ quoted name ++ ':' :: ' ' :: write depth value ++
      writeMembers depth members
termination_by structural members => members

end

def render (value : Json) : String :=
  String.ofList (write 0 value)

end DesignTokens.Json
