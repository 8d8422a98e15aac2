import DesignTokens.Extract.Color
import DesignTokens.Extract.Typography

/-! Several steps that share one report. A step has the report at hand while it runs and writes to it
as it goes, so one that stops at a fault leaves there what it wrote before. -/

namespace DesignTokens.Session

/-- A computation that writes to a report. -/
abbrev Reporting := StateM Report

def addWarning (text : String) : Reporting Unit :=
  modify fun report => { report with warnings := report.warnings ++ [text] }

def addCycle (path : String) : Reporting Unit := do
  addWarning (cycleWarning path)
  modify fun report => { report with cycles := addNew report.cycles path }

def addUnresolved (path : String) : Reporting Unit :=
  modify fun report => { report with unresolved := addNew report.unresolved path }

/-- Follows the alias with a path to its value, and gives the paths visited then, the latest first. -/
def follow (tree : Json) (visited : List String) (path : String) :
    Reporting (Json × List String) :=
  if path ∈ visited then do
    addCycle path
    return (.string (aliasText path), visited)
  else
    match _found : aliasPath? (valueAt tree path) with
    | some next => follow tree (path :: visited) next
    | none =>
      let value := valueAt tree path
      if value.isNull then do
        addUnresolved path
        return (.string (aliasText path), path :: visited)
      else return (value, path :: visited)
termination_by stepsLeft tree visited path
decreasing_by exact stepsLeft_lt ‹_› _found

def resolveFrom (tree : Json) (visited : List String) (value : Json) :
    Reporting (Json × List String) :=
  match aliasPath? value with
  | none => return (value, visited)
  | some path => follow tree visited path

def resolve (tree value : Json) : Reporting Json :=
  Prod.fst <$> resolveFrom tree [] value

def resolvedText (tree node : Json) : Reporting String := do
  let value ← resolve tree node.rawValue
  return value.display

mutual

def colors (tree : Json) : Json → Reporting (Entries Json)
  | .object members => addColors tree [] members
  | _ => pure []
termination_by structural node => node

def addColors (tree : Json) (found : Entries Json) :
    List (String × Json) → Reporting (Entries Json)
  | [] => pure found
  | (key, node) :: rest =>
    if isReserved key || !node.isObject then addColors tree found rest
    else if node.isToken then
      if isColor node then do
        let text ← resolvedText tree node
        addColors tree (found.put (Key.normalize key) (.string text)) rest
      else addColors tree found rest
    else do
      let inner ← colors tree node
      addColors tree
        (if inner.isEmpty then found else found.put (Key.normalize key) (.object inner)) rest
termination_by structural members => members

end

def resolvedDimension (tree : Json) (unit : Option String) (node : Json) : Reporting String := do
  let value ← resolve tree node.rawValue
  return formatDimension unit value

/-- A computation that may stop at a fault, with the report as it is then. -/
abbrev Walk := ExceptT TypeFault Reporting

mutual

def addGroupDimensions (tree : Json) (unit : Option String) (path : String)
    (found : Entries String) : Json → Walk (Entries String)
  | .object members => addDimensions tree unit path found members
  | _ => pure found
termination_by structural node => node

def addDimensions (tree : Json) (unit : Option String) (path : String)
    (found : Entries String) : List (String × Json) → Walk (Entries String)
  | [] => pure found
  | (key, node) :: rest =>
    if isReserved key || !node.isObject then addDimensions tree unit path found rest
    else
      let name := Key.normalize key
      let full := if path.isEmpty then name else path ++ "-" ++ name
      if node.isToken then do
        if ← .mk (pure (isDimension node)) then
          let text ← .lift (resolvedDimension tree unit node)
          addDimensions tree unit path (found.put full text) rest
        else addDimensions tree unit path found rest
      else do
        let found ← addGroupDimensions tree unit full found node
        addDimensions tree unit path found rest
termination_by structural members => members

end

def dimensionOf? (tree : Json) (unit : Option String) (node : Json) :
    Reporting (Option String) :=
  if node.isToken then some <$> resolvedDimension tree unit node else pure none

def tokenDimensions (tree : Json) (unit : Option String) :
    List (String × Json) → Reporting (Entries String)
  | [] => pure []
  | (key, node) :: rest => do
    let text ← dimensionOf? tree unit node
    let others ← tokenDimensions tree unit rest
    return match text with
      | some text => (key, text) :: others
      | none => others

def groupDefaults (tree : Json) (unit : Option String) (group : Entries Json) :
    Reporting GroupDefaults := do
  let spacing := (group.get? groupLetterSpacing).getD .null
  let weight := (group.get? groupFontWeight).getD .null
  let letterSpacing ← dimensionOf? tree unit spacing
  let fontWeight ← dimensionOf? tree none weight
  let fontWeights ← if weight.isGroup then tokenDimensions tree none weight.members else pure []
  return { letterSpacing, fontWeight, fontWeights }

def ownPreset (tree : Json) (unit : Option String) (node : Json) : Reporting Preset := do
  let fontSize ← dimensionOf? tree unit (node.member "font size")
  let lineHeight ← dimensionOf? tree unit (node.member "line height")
  let letterSpacing ← dimensionOf? tree unit (node.member "letter spacing")
  let fontWeight ← dimensionOf? tree none (node.member "font weight")
  return { fontSize, lineHeight, letterSpacing, fontWeight }

def addPresets (tree : Json) (unit : Option String) (defaults : GroupDefaults)
    (found : Entries Preset) : List (String × Json) → Reporting (Entries Preset)
  | [] => pure found
  | (key, node) :: rest =>
    if key == groupLetterSpacing || key == groupFontWeight || !node.isObject then
      addPresets tree unit defaults found rest
    else do
      let own ← ownPreset tree unit node
      let variants := defaults.variants (Key.normalize key) own
      addPresets tree unit defaults
        (variants.foldl (fun found (name, preset) => found.put name preset) found) rest

def presets (tree : Json) (unit : Option String) (group : Entries Json) :
    Reporting (Entries Preset) := do
  let defaults ← groupDefaults tree unit group
  addPresets tree unit defaults [] group

/-- What can be done with a report, each step with its own tree. -/
inductive Step where
  | warning (text : String)
  | cycle (path : String)
  | unresolved (path : String)
  /-- Paths that count as visited already can come with a value. -/
  | resolve (tree value : Json) (visited : List String)
  | colors (tree : Json) (group : Entries Json)
  | dimensions (tree : Json) (unit : Option String) (group : Entries Json)
  | typography (tree : Json) (unit : Option String) (group : Entries Json)

/-- What a step gives. -/
inductive Answer where
  | nothing
  /-- A value, and the paths visited then. -/
  | value (value : Json) (visited : List String)
  | colors (found : Entries Json)
  | dimensions (found : Entries String)
  | typography (found : Entries Preset)

/-- The answer of a step, or the fault that it stops at. -/
abbrev Outcome := Except TypeFault Answer

def Step.perform : Step → Reporting Outcome
  | .warning text => do addWarning text; return .ok .nothing
  | .cycle path => do addCycle path; return .ok .nothing
  | .unresolved path => do addUnresolved path; return .ok .nothing
  | .resolve tree value visited => do
    let (value, visited) ← resolveFrom tree visited value
    return .ok (.value value visited)
  | .colors tree group => do return .ok (.colors (← addColors tree [] group))
  | .dimensions tree unit group => do
    return (← (addDimensions tree unit "" [] group).run).map .dimensions
  | .typography tree unit group => do return .ok (.typography (← presets tree unit group))

/-- The outcome of every step and the report as it is after it. A fault ends its step only. -/
def run : List Step → Reporting (List (Outcome × Report))
  | [] => return []
  | step :: rest => do
    let outcome ← step.perform
    let report ← get
    return (outcome, report) :: (← run rest)

end DesignTokens.Session
