import DesignTokens.Extract.Color
import DesignTokens.Extract.Typography
import DesignTokens.Merge

/-! Building the model from a raw tree. The known groups of an export are looked for at their current
place, all within one set, and failing that at the place older exports have for them, in a set of
their own. Primitive colours are the exception: every source of them is merged. -/

namespace DesignTokens

structure Options where
  /-- What a length without a unit gets. -/
  unit : Option String := some "px"
  /-- The name of the set in which current exports have everything. -/
  setName : String := "TokenStudio"

namespace Legacy

def primitiveColor : String := "Primitive: Color/Mode 1"

def semanticColor : String := "Semantic: Color/Mode 1"

def primitiveSize : String := "Primitive: Size/Mode 1"

def primitiveTypography : String := "Primitive: Typography/Mode 1"

def semanticTypography : String := "Semantic: Typography/Mode 1"

end Legacy

/-- The members of the object at a path. -/
def groupAt? (raw : Json) (path : List String) : Option (Entries Json) :=
  match raw.atPath path with
  | .object members => some members
  | _ => none

/-- The first of some paths that holds an object is the source of a bucket. -/
def firstGroup (raw : Json) : List (List String) → Noted (Option (Entries Json))
  | [] => pure none
  | path :: others =>
    match groupAt? raw path with
    | some members => ⟨[.source path], some members⟩
    | none => firstGroup raw others

/-- The object that the first of some nodes has under a key. -/
def subgroup? (key : String) : List Json → Option (Entries Json)
  | [] => none
  | node :: others =>
    match node.member key with
    | .object members => some members
    | _ => subgroup? key others

def primitiveColorPaths (setName : String) : List (List String) := [
  [setName, "primitive", "color"], [setName, "color"], ["", Legacy.primitiveColor],
  ["." ++ Legacy.primitiveColor]]

/-- Merges the colours of all sources, the later ones over the earlier ones. -/
def mergeColors (raw : Json) (merged : Entries Json) : List (Entries Json) → Noted (Entries Json)
  | [] => pure merged
  | source :: others => do
    let found ← addColors raw [] source
    mergeColors raw (mergeMembers merged found) others

/-- The colours of one usage, if the group has an object for it. -/
def usageColors (raw : Json) (group : Entries Json) (usage : String) :
    Noted (Option (Entries Json)) :=
  match group.get? usage with
  | some (.object members) => some <$> addColors raw [] members
  | _ => pure none

/-- Colours without a usage of their own join the primitive ones. -/
def otherUsage : String := "etc"

def assembleColors (raw : Json) (options : Options) : Noted ColorBuckets := do
  let sources := (primitiveColorPaths options.setName).filterMap (groupAt? raw)
  let primitive ← mergeColors raw [] sources
  match ← firstGroup raw [[options.setName, "semantic", "color"], [Legacy.semanticColor]] with
  | none => return { primitive }
  | some group =>
    let text ← usageColors raw group "text"
    let bg ← usageColors raw group "bg"
    let border ← usageColors raw group "border"
    let icon ← usageColors raw group "icon"
    let other ← usageColors raw group otherUsage
    return {
      primitive := match other with
        | some found => primitive.put otherUsage (.object found)
        | none => primitive
      text := text.getD []
      bg := bg.getD []
      border := border.getD []
      icon := icon.getD [] }

/-- The dimensions of a group, if there is one, under keys that start with a name. -/
def bucketDimensions (raw : Json) (unit : Option String) (name : String) :
    Option (Entries Json) → Extraction (Entries String)
  | some members => dimensions raw unit [(name, .object members)]
  | none => pure []

structure SizeBuckets where
  spacing : Entries String
  borderRadius : Entries String
  borderWidth : Entries String
  container : Entries String

def putAll (target source : Entries String) : Entries String :=
  source.foldl (fun target (key, text) => target.put key text) target

def assembleSizes (raw : Json) (options : Options) : Extraction SizeBuckets := do
  let primitive := raw.atPath [options.setName, "primitive"]
  let semantic := raw.atPath [options.setName, "semantic", "size"]
  let legacy := raw.member Legacy.primitiveSize
  let bucket (name : String) (sources : List Json) : Extraction (Entries String) :=
    bucketDimensions raw options.unit name (subgroup? name sources)
  let units ← bucket "size-unit" [primitive, legacy]
  let spaces ← bucket "space" [semantic, legacy]
  let borderRadius ← bucket "border-radius" [semantic, legacy]
  let borderWidth ← bucket "border-width" [semantic, legacy]
  let container ← bucket "container" [semantic]
  return { spacing := putAll units spaces, borderRadius, borderWidth, container }

structure ScaleBuckets where
  fontSize : Entries String := []
  lineHeight : Entries String := []
  letterSpacing : Entries String := []
  fontWeight : Entries String := []

/-- Font weights are numbers without a unit. -/
def assembleScales (raw : Json) (options : Options) : Extraction ScaleBuckets := do
  let source ← .ofNoted (firstGroup raw [
    [options.setName, "primitive", "typography"], ["", Legacy.primitiveTypography],
    ["." ++ Legacy.primitiveTypography]])
  match source with
  | none => return {}
  | some members =>
    let scale (unit : Option String) (key name : String) : Extraction (Entries String) :=
      bucketDimensions raw unit name (subgroup? key [.object members])
    let fontSize ← scale options.unit "font size" "font-size"
    let lineHeight ← scale options.unit "line height" "line-height"
    let letterSpacing ← scale options.unit "letter spacing" "letter-spacing"
    let fontWeight ← scale none "font weight" "font-weight"
    return { fontSize, lineHeight, letterSpacing, fontWeight }

def assemblePresets (raw : Json) (options : Options) (group : Entries Json) (key : String) :
    Noted (Entries Preset) :=
  match group.get? key with
  | some (.object members) => presets raw options.unit members
  | _ => pure []

def assembleTypography (raw : Json) (options : Options) : Noted TypographyBuckets := do
  match ← firstGroup raw [[options.setName, "semantic", "typography"], [Legacy.semanticTypography]]
  with
  | none => return {}
  | some group =>
    let heading ← assemblePresets raw options group "Heading"
    let body ← assemblePresets raw options group "Body"
    return { heading, body }

/-- The model of a raw tree. A missing group leaves its bucket empty, and an alias that does not
resolve leaves a note. -/
def assemble (options : Options) (raw : Json) : Extraction Model := do
  let colors ← .ofNoted (assembleColors raw options)
  let sizes ← assembleSizes raw options
  let scales ← assembleScales raw options
  let typography ← .ofNoted (assembleTypography raw options)
  return {
    colors
    spacing := sizes.spacing
    container := sizes.container
    fontSize := scales.fontSize
    lineHeight := scales.lineHeight
    fontWeight := scales.fontWeight
    letterSpacing := scales.letterSpacing
    borderRadius := sizes.borderRadius
    borderWidth := sizes.borderWidth
    typography }

end DesignTokens
