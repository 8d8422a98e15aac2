import DesignTokens.Json.Basic

/-! The model that all artifacts are generated from: nested maps of colours, flat maps of dimensions,
and typography presets. -/

namespace DesignTokens

/-- A bundle of typography values. A value that is not set does not show. -/
structure Preset where
  fontSize : Option String := none
  lineHeight : Option String := none
  letterSpacing : Option String := none
  fontWeight : Option String := none
  deriving DecidableEq, Repr

/-- Colours by usage. A nested map has texts at its leaves; a model that is read from a document may
hold other values there. -/
structure ColorBuckets where
  primitive : Entries Json := []
  text : Entries Json := []
  bg : Entries Json := []
  border : Entries Json := []
  icon : Entries Json := []

structure TypographyBuckets where
  heading : Entries Preset := []
  body : Entries Preset := []

structure Model where
  colors : ColorBuckets := {}
  spacing : Entries String := []
  container : Entries String := []
  fontSize : Entries String := []
  lineHeight : Entries String := []
  fontWeight : Entries String := []
  letterSpacing : Entries String := []
  borderRadius : Entries String := []
  borderWidth : Entries String := []
  typography : TypographyBuckets := {}

namespace Preset

def isUnset (preset : Preset) : Bool :=
  preset.fontSize.isNone && preset.lineHeight.isNone && preset.letterSpacing.isNone &&
    preset.fontWeight.isNone

end Preset

end DesignTokens
