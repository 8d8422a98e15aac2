import DesignTokens.Entries
import DesignTokens.Text.Blank
import DesignTokens.Text.Lowercase

/-! Names of groups and tokens, as they appear in the names that are generated from them, and as
they are compared in aliases. -/

namespace DesignTokens.Key
open Text

/-- Slashes, colons and white space separate the words of a key, like hyphens. -/
def hyphenate (c : Char) : Char :=
  if c == '/' || c == ':' || isBlank c then '-' else c

def isParenthesis (c : Char) : Bool :=
  c == '(' || c == ')'

def isHyphen (c : Char) : Bool :=
  c == '-'

/-- Keeps one hyphen of each run of hyphens. -/
def squeeze : List Char → List Char
  | [] => []
  | c :: rest => if isHyphen c && rest.head? == some '-' then squeeze rest else c :: squeeze rest

/-- A key in lower case with single hyphens between its words. -/
def normalize (key : String) : String :=
  let words := (key.toList.map hyphenate).filter (!isParenthesis ·)
  String.ofList (lowerFrom false (trimBy isHyphen (squeeze words)))

/-- Common names of font weights, some of them spelled with a blank. -/
def weightSlugs : Entries String := [
  ("semi bold", "semibold"), ("semibold", "semibold"), ("extra bold", "extrabold"),
  ("extrabold", "extrabold"), ("bold", "bold"), ("medium", "medium"), ("regular", "regular"),
  ("light", "light"), ("thin", "thin"), ("black", "black")]

/-- The name of a font weight as one word. -/
def weightSlug (name : String) : String :=
  match weightSlugs.get? (trim (lower name)) with
  | some slug => slug
  | none => String.ofList ((normalize name).toList.filter (!isHyphen ·))

/-- Keys that differ only in case, hyphens, underscores and white space are loosely equal. -/
def loose (key : String) : String :=
  String.ofList ((lower key).toList.filter fun c => !(isHyphen c || c == '_' || isBlank c))

end DesignTokens.Key
