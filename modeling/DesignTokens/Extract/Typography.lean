import DesignTokens.Extract.Dimension
import DesignTokens.Model.Basic

/-! The typography presets of a group. A letter spacing and a font weight at the top of the group
serve every preset that has none of its own; where the weight is a group of weights, such a preset
is repeated for each of them. -/

namespace DesignTokens

/-- The formatted value of a node that is a token. -/
def dimensionOf? (tree : Json) (unit : Option String) (node : Json) : Noted (Option String) :=
  if node.isToken then some <$> resolvedDimension tree unit node else pure none

/-- The tokens of a group with their formatted values. -/
def tokenDimensions (tree : Json) (unit : Option String) :
    List (String × Json) → Noted (Entries String)
  | [] => pure []
  | (key, node) :: rest => do
    let text ← dimensionOf? tree unit node
    let others ← tokenDimensions tree unit rest
    return match text with
      | some text => (key, text) :: others
      | none => others

/-- What a group has for the presets in it. -/
structure GroupDefaults where
  letterSpacing : Option String
  fontWeight : Option String
  /-- Weights by name; if there are any, each makes a preset of its own. -/
  fontWeights : Entries String

def groupLetterSpacing : String := "letter spacing"

def groupFontWeight : String := "font weight"

/-- A weight never has a unit. -/
def groupDefaults (tree : Json) (unit : Option String) (group : Entries Json) :
    Noted GroupDefaults := do
  let spacing := (group.get? groupLetterSpacing).getD .null
  let weight := (group.get? groupFontWeight).getD .null
  let letterSpacing ← dimensionOf? tree unit spacing
  let fontWeight ← dimensionOf? tree none weight
  let fontWeights ← if weight.isGroup then tokenDimensions tree none weight.members else pure []
  return { letterSpacing, fontWeight, fontWeights }

/-- The values that a preset declares itself. -/
def ownPreset (tree : Json) (unit : Option String) (node : Json) : Noted Preset := do
  let fontSize ← dimensionOf? tree unit (node.member "font size")
  let lineHeight ← dimensionOf? tree unit (node.member "line height")
  let letterSpacing ← dimensionOf? tree unit (node.member "letter spacing")
  let fontWeight ← dimensionOf? tree none (node.member "font weight")
  return { fontSize, lineHeight, letterSpacing, fontWeight }

def isFilled (text : Option String) : Bool :=
  text.any (!·.isEmpty)

/-- An empty letter spacing gives way to one of the group that is not empty. -/
def GroupDefaults.fillSpacing (defaults : GroupDefaults) (preset : Preset) : Preset :=
  if !isFilled preset.letterSpacing && isFilled defaults.letterSpacing then
    { preset with letterSpacing := defaults.letterSpacing }
  else preset

/-- A name that ends in the weight already carries it. -/
def variantName (name weight : String) : String :=
  let tail := "-" ++ Key.weightSlug weight
  if tail.toList.isSuffixOf name.toList then name else name ++ tail

/-- The presets that a child of the group stands for, by name. -/
def GroupDefaults.variants (defaults : GroupDefaults) (name : String) (own : Preset) :
    Entries Preset :=
  let preset := defaults.fillSpacing own
  if preset.isUnset then []
  else if preset.fontWeight.isSome then [(name, preset)]
  else if !defaults.fontWeights.isEmpty then
    defaults.fontWeights.map fun (weightName, weight) =>
      (variantName name weightName, { preset with fontWeight := some weight })
  else if isFilled defaults.fontWeight then
    [(name, { preset with fontWeight := defaults.fontWeight })]
  else [(name, preset)]

def addPresets (tree : Json) (unit : Option String) (defaults : GroupDefaults)
    (found : Entries Preset) : List (String × Json) → Noted (Entries Preset)
  | [] => pure found
  | (key, node) :: rest =>
    if key == groupLetterSpacing || key == groupFontWeight || !node.isObject then
      addPresets tree unit defaults found rest
    else do
      let own ← ownPreset tree unit node
      let variants := defaults.variants (Key.normalize key) own
      addPresets tree unit defaults
        (variants.foldl (fun found (name, preset) => found.put name preset) found) rest

/-- The presets of a group by normalised name, in the order of the group and then of its weights. -/
def presets (tree : Json) (unit : Option String) (group : Entries Json) : Noted (Entries Preset) := do
  let defaults ← groupDefaults tree unit group
  addPresets tree unit defaults [] group

end DesignTokens
