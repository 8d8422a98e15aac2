import DesignTokens.Json.Writer
import DesignTokens.Model.Literal

/-! The TypeScript module of a model: one constant that holds all of it, and an export for each
bucket. -/

namespace DesignTokens.TypeScript

/-- Exported names and the places of their values in the constant. -/
def exports : Entries String := [
  ("textColors", "colors.text"), ("bgColors", "colors.bg"), ("borderColors", "colors.border"),
  ("iconColors", "colors.icon"), ("primitiveColors", "colors.primitive"), ("spacing", "spacing"),
  ("container", "container"), ("fontSize", "fontSize"), ("lineHeight", "lineHeight"),
  ("fontWeight", "fontWeight"), ("letterSpacing", "letterSpacing"),
  ("borderRadius", "borderRadius"), ("borderWidth", "borderWidth"),
  ("headingTypography", "typography.heading"), ("bodyTypography", "typography.body")]

def header (stamp : String) : List String := [
  "/**",
  " * Design Tokens - Auto-generated from Figma (Tokens Studio)",
  " * Generated at: " ++ stamp,
  " *",
  " * This file is generated. Do not edit it by hand.",
  " * Change the tokens in Figma, export tokens.json and run `tokensync sync`.",
  " */",
  ""]

/-- Everything behind the constant is the same for all models. -/
def footer : List String :=
  "" ::
  exports.map (fun (name, path) => "export const " ++ name ++ " = designTokens." ++ path ++ ";") ++ [
  "",
  "export const tailwindColors = \x7b",
  "  text: textColors,",
  "  bg: bgColors,",
  "  border: borderColors,",
  "  icon: iconColors,",
  "  ...primitiveColors,",
  "\x7d;",
  "",
  "export default designTokens;",
  ""]

def render (model : Model) (stamp : String) : String :=
  "\n".intercalate (header stamp) ++ "\nexport const designTokens = " ++ model.literal.render ++
    " as const;\n" ++ "\n".intercalate footer

end DesignTokens.TypeScript
