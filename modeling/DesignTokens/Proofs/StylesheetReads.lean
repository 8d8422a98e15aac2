import DesignTokens.Proofs.PropertyNames

/-! The custom properties that the utility classes of a stylesheet read. There is one class for each
colour of a usage, each space and each container, and the block of custom properties above the classes
declares what it reads. -/

namespace DesignTokens.Proofs.StylesheetReads
open ColorLeaves PropertyNames Stylesheet

def readName? (value : String) : Option String :=
  match value.toList with
  | 'v' :: 'a' :: 'r' :: '(' :: rest =>
    if rest.getLast? == some ')' then some (String.ofList rest.dropLast) else none
  | _ => none

def reads (rule : Rule) : List String :=
  rule.declarations.filterMap fun declaration => readName? declaration.value

/-- The lines behind an opening line, up to the next closing one. -/
def between (opening closing : String) (document : List String) : List String :=
  ((document.dropWhile (· != opening)).drop 1).takeWhile (· != closing)

/-- Lines in a block are indented or empty. -/
def Inner (line : String) : Prop :=
  ∀ c ∈ line.toList.head?, c = ' '

end DesignTokens.Proofs.StylesheetReads
