import DesignTokens.Alias.Follow

/-! The colours of a group, as a nested map under normalised names. -/

namespace DesignTokens

def isColor (node : Json) : Bool :=
  match node.tokenType with
  | .string kind => kind == "color"
  | _ => false

/-- The value of a token as text, resolved against the whole tree. -/
def resolvedText (tree node : Json) : Noted String := do
  let value ← resolve tree node.rawValue
  return value.display

mutual

/-- The colours of a group; a node that is no object has none. -/
def colors (tree : Json) : Json → Noted (Entries Json)
  | .object members => addColors tree [] members
  | _ => pure []
termination_by structural node => node

/-- Adds colours in order. A group without colours adds nothing, not even its name. -/
def addColors (tree : Json) (found : Entries Json) : List (String × Json) → Noted (Entries Json)
  | [] => pure found
  | (key, node) :: rest =>
    if isReserved key || !node.isObject then addColors tree found rest
    else if node.isToken then
      if isColor node then do
        let text ← resolvedText tree node
        addColors tree (found.put (Key.normalize key) (.string text)) rest
      else addColors tree found rest
    else do
      let inner ← colors tree node
      addColors tree
        (if inner.isEmpty then found else found.put (Key.normalize key) (.object inner)) rest
termination_by structural members => members

end

end DesignTokens
