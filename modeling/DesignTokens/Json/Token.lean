import DesignTokens.Json.Numeral
import DesignTokens.Json.QuotedText

/-! The words of a JSON document. Reading them never fails: a place that starts no word, or a text
that goes wrong on the way, is the last word, and whoever reads the words decides which complaint
is due. -/

namespace DesignTokens.Json

inductive Token where
  | openObject
  | closeObject
  | openList
  | closeList
  | colon
  | comma
  | string (value : String)
  /-- A number or one of the fixed words. -/
  | scalar (value : Json)
  /-- Nothing that a document can hold starts here. -/
  | stray
  /-- A text starts here and has a fault. -/
  | broken (error : SyntaxError)

/-- A word and the place where it starts. -/
structure Lexeme where
  token : Token
  place : List Char

def isSpace (c : Char) : Bool :=
  c == ' ' || c == '\n' || c == '\t' || c == '\r'

def punctuation? : Char → Option Token
  | '{' => some .openObject
  | '}' => some .closeObject
  | '[' => some .openList
  | ']' => some .closeList
  | ':' => some .colon
  | ',' => some .comma
  | _ => none

/-- The word at the start of `c :: rest` and what is behind it, which is nothing after a word that
ends the reading. -/
def readToken (c : Char) (rest : List Char) : Token × List Char :=
  match punctuation? c with
  | some token => (token, rest)
  | none =>
    if c == '"' then
      match readText (c :: rest) rest with
      | .ok (text, after) => (.string (String.ofList text), after)
      | .error error => (.broken error, [])
    else
      match readScalar? (c :: rest) with
      | some (value, after) => (.scalar value, after)
      | none => (.stray, [])

private theorem readToken_length (c : Char) (rest : List Char) : (readToken c rest).2.length ≤ rest.length := by
  fun_cases readToken c rest <;> simp_all
  all_goals grind [→ readText_length, → readScalar_length]

def lex : List Char → List Lexeme
  | [] => []
  | c :: rest =>
    if isSpace c then lex rest
    else
      ⟨(readToken c rest).1, c :: rest⟩ :: lex (readToken c rest).2
termination_by text => text.length
decreasing_by
  · simp
  · have := readToken_length c rest
    simp only [List.length_cons]
    omega

end DesignTokens.Json
