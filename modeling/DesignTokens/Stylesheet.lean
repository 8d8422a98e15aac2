import DesignTokens.Model.Basic

/-! The stylesheet of a model: a block that declares a custom property for every value, and a block of
utility classes that read them. -/

namespace DesignTokens.Stylesheet

/-- A property with its value. -/
structure Declaration where
  property : String
  value : String
  deriving DecidableEq, Repr

structure Rule where
  selector : String
  declarations : List Declaration
  deriving DecidableEq, Repr

/-- A titled part of the block of custom properties. -/
structure Section where
  title : String
  declarations : List Declaration
  deriving DecidableEq, Repr

/-- A usage of colours: the name of its bucket, its title, and the property it colours. -/
structure Usage where
  name : String
  title : String
  property : String
  leaves : ColorBuckets → Entries Json

def usages : List Usage := [
  ⟨"text", "Text Colors", "color", ColorBuckets.text⟩,
  ⟨"bg", "Background Colors", "background-color", ColorBuckets.bg⟩,
  ⟨"border", "Border Colors", "border-color", ColorBuckets.border⟩,
  ⟨"icon", "Icon Colors", "color", ColorBuckets.icon⟩]

def joinPath (path key : String) : String :=
  if path.isEmpty then key else path ++ "-" ++ key

mutual

/-- The texts in a nested map, each under the keys on the way to it joined by hyphens. -/
def colorLeaves (path : String) : Json → Entries String
  | .object members => memberLeaves path members
  | .string text => [(path, text)]
  | _ => []
termination_by structural value => value

def memberLeaves (path : String) : List (String × Json) → Entries String
  | [] => []
  | (key, value) :: rest => colorLeaves (joinPath path key) value ++ memberLeaves path rest
termination_by structural members => members

end

/-- The texts directly in a map. -/
def texts : List (String × Json) → Entries String
  | [] => []
  | (key, .string text) :: rest => (key, text) :: texts rest
  | _ :: rest => texts rest

/-- Shades of a primitive family are texts, or maps of texts one level further down. -/
def familyLeaves : List (String × Json) → Entries String
  | [] => []
  | (shade, value) :: rest =>
    (match value with
      | .string text => [(shade, text)]
      | .object members => (texts members).map fun (sub, text) => (shade ++ "-" ++ sub, text)
      | _ => []) ++ familyLeaves rest

def primitiveLeaves : List (String × Json) → Entries String
  | [] => []
  | (family, value) :: rest =>
    (familyLeaves value.members).map (fun (shade, text) => (family ++ "-" ++ shade, text)) ++
      primitiveLeaves rest

def containerName (key : String) : String :=
  if "container-".toList.isPrefixOf key.toList then
    String.ofList (key.toList.drop "container-".length)
  else key

/-- The declarations of a preset's values that are set and not empty. -/
def presetDeclarations (preset : Preset) : List Declaration :=
  [("font-size", preset.fontSize), ("line-height", preset.lineHeight),
    ("letter-spacing", preset.letterSpacing), ("font-weight", preset.fontWeight)].filterMap
    fun (property, value) =>
      match value with
      | some text => if text.isEmpty then none else some ⟨property, text⟩
      | none => none

def declareAll (start : String) (entries : Entries String) : List Declaration :=
  entries.map fun (key, value) => ⟨start ++ key, value⟩

def presetSection (group title : String) (presets : Entries Preset) : Section where
  title := "Typography - " ++ title
  declarations := presets.flatMap fun (key, preset) =>
    (presetDeclarations preset).map fun declaration =>
      ⟨"--typography-" ++ group ++ "-" ++ key ++ "-" ++ declaration.property, declaration.value⟩

/-- Everything that the first block declares. -/
def theme (model : Model) : List Section :=
  ⟨"Primitive Colors", declareAll "--color-" (primitiveLeaves model.colors.primitive)⟩ ::
  usages.map (fun usage =>
    ⟨usage.title,
      declareAll ("--color-" ++ usage.name ++ "-") (memberLeaves "" (usage.leaves model.colors))⟩) ++ [
  ⟨"Spacing", declareAll "--spacing-" model.spacing⟩,
  ⟨"Container Sizes", declareAll "--container-"
    (model.container.map fun (key, value) => (containerName key, value))⟩,
  ⟨"Font Sizes", declareAll "--font-size-" model.fontSize⟩,
  ⟨"Line Heights", declareAll "--line-height-" model.lineHeight⟩,
  ⟨"Border Radius", declareAll "--radius-" model.borderRadius⟩,
  presetSection "heading" "Heading" model.typography.heading,
  presetSection "body" "Body" model.typography.body]

def readProperty (property : String) : String :=
  "var(" ++ property ++ ")"

def presetRules (group : String) (presets : Entries Preset) : List Rule :=
  presets.map fun (key, preset) => ⟨".text-" ++ group ++ "-" ++ key, presetDeclarations preset⟩

def usageRules (usage : Usage) (colors : ColorBuckets) : List Rule :=
  (memberLeaves "" (usage.leaves colors)).map fun (path, _) =>
    ⟨"." ++ usage.name ++ "-" ++ path,
      [⟨usage.property, readProperty ("--color-" ++ usage.name ++ "-" ++ path)⟩]⟩

/-- Only spaces serve as gaps; the other sizes in the bucket have no class. -/
def gapRules (spacing : Entries String) : List Rule :=
  (spacing.filter fun (key, _) => "space-".toList.isPrefixOf key.toList).map fun (key, _) =>
    ⟨"." ++ key, [⟨"gap", readProperty ("--spacing-" ++ key)⟩]⟩

def containerRules (container : Entries String) : List Rule :=
  container.map fun (key, _) =>
    ⟨".container-" ++ containerName key,
      [⟨"width", "100%"⟩, ⟨"max-width", readProperty ("--container-" ++ containerName key)⟩]⟩

/-- All utility classes. -/
def utilities (model : Model) : List Rule :=
  presetRules "heading" model.typography.heading ++ presetRules "body" model.typography.body ++
    usages.flatMap (usageRules · model.colors) ++ gapRules model.spacing ++
    containerRules model.container

def Declaration.text (declaration : Declaration) : String :=
  declaration.property ++ ": " ++ declaration.value ++ ";"

def Section.lines (part : Section) : List String :=
  "" :: ("  /* " ++ part.title ++ " */") ::
    part.declarations.map fun declaration => "  " ++ declaration.text

/-- A rule with one declaration stays on one line. -/
def Rule.lines (rule : Rule) : List String :=
  match rule.declarations with
  | [declaration] => ["  " ++ rule.selector ++ " \x7b " ++ declaration.text ++ " \x7d"]
  | declarations =>
    ("  " ++ rule.selector ++ " \x7b") ::
      declarations.map (fun declaration => "    " ++ declaration.text) ++ ["  \x7d"]

def header (stamp : String) : List String := [
  "/**",
  " * Design Token CSS Variables - Auto-generated from Figma (Tokens Studio)",
  " * Generated at: " ++ stamp,
  " *",
  " * This file is generated. Do not edit it by hand.",
  " * Change the tokens in Figma, export tokens.json and run `tokensync sync`.",
  " *",
  " * Usage: @import './design-tokens.css'; in globals.css",
  " */",
  ""]

def lines (model : Model) (stamp : String) : List String :=
  header stamp ++ ["@theme inline \x7b"] ++ (theme model).flatMap Section.lines ++
    ["\x7d", "", "@layer utilities \x7b"] ++ (utilities model).flatMap Rule.lines ++ ["\x7d"]

def render (model : Model) (stamp : String) : String :=
  "\n".intercalate (lines model stamp) ++ "\n"

end DesignTokens.Stylesheet
