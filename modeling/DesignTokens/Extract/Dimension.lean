import DesignTokens.Alias.Follow

/-! Dimensions: how a value becomes a length in a stylesheet, and the dimensions of a group as a flat
map. -/

namespace DesignTokens
open Text

/-- An optional minus sign, digits, and optionally a point and more digits. -/
def isPlainNumber (text : List Char) : Bool :=
  let unsigned := if text.head? == some '-' then text.drop 1 else text
  let fraction := unsigned.dropWhile isDigit
  !(unsigned.takeWhile isDigit).isEmpty &&
    (fraction.isEmpty ||
      (fraction.head? == some '.' && 2 ≤ fraction.length && (fraction.drop 1).all isDigit))

def isNumber : Json → Bool
  | .int _ | .float _ => true
  | _ => false

/-- A number gets the unit, and so does a text that is a plain number between white space. Any other
text stays as it is but for that white space. -/
def formatDimension (unit : Option String) (value : Json) : String :=
  if isNumber value then value.display ++ unit.getD ""
  else
    let text := trim value.display
    if isPlainNumber text.toList then text ++ unit.getD "" else text

/-- The value of a token as a length, resolved against the whole tree. -/
def resolvedDimension (tree : Json) (unit : Option String) (node : Json) : Noted String := do
  let value ← resolve tree node.rawValue
  return formatDimension unit value

/-- A type that is an array or an object cannot be looked up among the types of dimensions. -/
inductive TypeFault where
  | array
  | object
  deriving DecidableEq, Repr

def TypeFault.message : TypeFault → String
  | .array => "unhashable type: 'list'"
  | .object => "unhashable type: 'dict'"

def isDimension (node : Json) : Except TypeFault Bool :=
  match node.tokenType with
  | .array _ => .error .array
  | .object _ => .error .object
  | .string kind => .ok (kind == "dimension" || kind == "number")
  | _ => .ok false

/-- An extraction that may stop at a fault; the notes taken before stay. -/
abbrev Extraction := ExceptT TypeFault Noted

namespace Extraction

def ofNoted {α : Type} (noted : Noted α) : Extraction α :=
  ⟨noted.notes, .ok noted.value⟩

def ofExcept {α : Type} (result : Except TypeFault α) : Extraction α :=
  ⟨[], result⟩

variable {α β : Type}

@[simp] theorem notes_ofNoted (noted : Noted α) : (ofNoted noted).run.notes = noted.notes := rfl

@[simp] theorem value_ofNoted (noted : Noted α) : (ofNoted noted).run.value = .ok noted.value := rfl

theorem bind_ok {first : Extraction α} {next : α → Extraction β} {result : β}
    (built : (first >>= next).run.value = .ok result) :
    ∃ value, first.run.value = .ok value ∧ (next value).run.value = .ok result ∧
      (first >>= next).run.notes = first.run.notes ++ (next value).run.notes := by
  have same : (first >>= next).run = first.run >>= ExceptT.bindCont next := rfl
  rw [same, Noted.value_bind] at built
  rw [same, Noted.notes_bind]
  cases outcome : first.run.value with
  | ok value =>
    rw [outcome] at built
    exact ⟨value, rfl, built, rfl⟩
  | error fault =>
    rw [outcome] at built
    cases built

end Extraction

mutual

/-- Adds the dimensions of a group whose keys are to be joined behind a path. -/
def addGroupDimensions (tree : Json) (unit : Option String) (path : String)
    (found : Entries String) : Json → Extraction (Entries String)
  | .object members => addDimensions tree unit path found members
  | _ => pure found
termination_by structural node => node

def addDimensions (tree : Json) (unit : Option String) (path : String)
    (found : Entries String) : List (String × Json) → Extraction (Entries String)
  | [] => pure found
  | (key, node) :: rest =>
    if isReserved key || !node.isObject then addDimensions tree unit path found rest
    else
      let name := Key.normalize key
      let full := if path.isEmpty then name else path ++ "-" ++ name
      if node.isToken then do
        if ← .ofExcept (isDimension node) then
          let text ← .ofNoted (resolvedDimension tree unit node)
          addDimensions tree unit path (found.put full text) rest
        else addDimensions tree unit path found rest
      else do
        let found ← addGroupDimensions tree unit full found node
        addDimensions tree unit path found rest
termination_by structural members => members

end

/-- The dimensions of a group, each under the normalised keys on the way to it joined by hyphens. -/
def dimensions (tree : Json) (unit : Option String) (members : Entries Json) :
    Extraction (Entries String) :=
  addDimensions tree unit "" [] members

end DesignTokens
