import DesignTokens.Model.Basic
import DesignTokens.Tree

/-! A model as plain data under the names of the generated constant, and the sizes of its buckets. -/

namespace DesignTokens

/-- The members whose value is set. -/
def setTexts : List (String × Option String) → Entries Json
  | [] => []
  | (name, some text) :: rest => (name, .string text) :: setTexts rest
  | (_, none) :: rest => setTexts rest

namespace Preset

def literal (preset : Preset) : Json :=
  .object (setTexts [
    ("fontSize", preset.fontSize), ("lineHeight", preset.lineHeight),
    ("letterSpacing", preset.letterSpacing), ("fontWeight", preset.fontWeight)])

end Preset

def presetsLiteral (presets : Entries Preset) : Json :=
  .object (presets.map fun (name, preset) => (name, preset.literal))

def dimensionsLiteral (dimensions : Entries String) : Json :=
  .object (dimensions.map fun (name, text) => (name, .string text))

namespace ColorBuckets

def literal (colors : ColorBuckets) : Json :=
  .object [
    ("primitive", .object colors.primitive), ("text", .object colors.text),
    ("bg", .object colors.bg), ("border", .object colors.border), ("icon", .object colors.icon)]

end ColorBuckets

namespace TypographyBuckets

def literal (typography : TypographyBuckets) : Json :=
  .object [("heading", presetsLiteral typography.heading), ("body", presetsLiteral typography.body)]

end TypographyBuckets

namespace Model

def literal (model : Model) : Json :=
  .object [
    ("colors", model.colors.literal),
    ("spacing", dimensionsLiteral model.spacing),
    ("container", dimensionsLiteral model.container),
    ("fontSize", dimensionsLiteral model.fontSize),
    ("lineHeight", dimensionsLiteral model.lineHeight),
    ("fontWeight", dimensionsLiteral model.fontWeight),
    ("letterSpacing", dimensionsLiteral model.letterSpacing),
    ("borderRadius", dimensionsLiteral model.borderRadius),
    ("borderWidth", dimensionsLiteral model.borderWidth),
    ("typography", model.typography.literal)]

/-- The number of entries of each bucket, colours counted at every depth. -/
def counts (model : Model) : Entries Nat := [
  ("text", Json.leavesIn model.colors.text),
  ("bg", Json.leavesIn model.colors.bg),
  ("border", Json.leavesIn model.colors.border),
  ("icon", Json.leavesIn model.colors.icon),
  ("primitive", Json.leavesIn model.colors.primitive),
  ("spacing", model.spacing.length),
  ("container", model.container.length),
  ("fontSize", model.fontSize.length),
  ("lineHeight", model.lineHeight.length),
  ("fontWeight", model.fontWeight.length),
  ("letterSpacing", model.letterSpacing.length),
  ("borderRadius", model.borderRadius.length),
  ("borderWidth", model.borderWidth.length),
  ("heading", model.typography.heading.length),
  ("body", model.typography.body.length)]

end Model

end DesignTokens
