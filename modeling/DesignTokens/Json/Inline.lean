import DesignTokens.Json.Basic
import DesignTokens.Number.Shortest
import DesignTokens.Text.Quoted

/-! A value written on one line, as it shows where a value of any kind is used as a text. -/

namespace DesignTokens.Json
open Text

mutual

/-- The text of a value inside an array or an object, where texts are quoted. -/
def inline : Json → List Char
  | .null => "None".toList
  | .bool true => "True".toList
  | .bool false => "False".toList
  | .int value => (toString value).toList
  | .float value => (value.text Number.plainNames).toList
  | .string text => quoteChars text.toList
  | .array [] => ['[', ']']
  | .array (item :: items) => '[' :: inline item ++ inlineItems items ++ [']']
  | .object [] => ['{', '}']
  | .object ((name, value) :: members) =>
    '{' :: quoteChars name.toList ++ ':' :: ' ' :: inline value ++ inlineMembers members ++ ['}']
termination_by structural value => value

def inlineItems : List Json → List Char
  | [] => []
  | item :: items => ',' :: ' ' :: inline item ++ inlineItems items
termination_by structural items => items

def inlineMembers : List (String × Json) → List Char
  | [] => []
  | (name, value) :: members =>
    ',' :: ' ' :: quoteChars name.toList ++ ':' :: ' ' :: inline value ++ inlineMembers members
termination_by structural members => members

end

/-- The text that a value stands for. A text stands for itself, a float that is a whole number for
that number, and truth values for their lower case names. -/
def display : Json → String
  | .bool true => "true"
  | .bool false => "false"
  | .string text => text
  | .float value =>
    match value.toInt? with
    | some whole => toString whole
    | none => value.text Number.plainNames
  | value => String.ofList value.inline

end DesignTokens.Json
