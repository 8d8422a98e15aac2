import DesignTokens.Assembly
import DesignTokens.Failure
import DesignTokens.Toml.Reader

/-! The settings of a project, with their defaults, and the file that changes them. -/

namespace DesignTokens

def settingsFile : String := "tokensync.toml"

def defaultInputs : List String := [
  "src/token/tokens.json", "src/token/token.json", "src/tokens.json", "src/token.json",
  "token/tokens.json", "token/token.json", "tokens.json", "token.json"]

structure Settings where
  /-- The folder that all other paths are seen from. -/
  root : Path
  /-- Places to look for the token file, in order. -/
  inputs : List String := defaultInputs
  outputDir : String := "src/styles"
  cssFile : String := "design-tokens.css"
  tsFile : String := "design-tokens.ts"
  unit : Option String := some "px"
  setName : String := "TokenStudio"

namespace Settings

def candidatePaths (settings : Settings) : List Path :=
  settings.inputs.map fun input => settings.root.join (Path.parse input)

def outputPath (settings : Settings) : Path :=
  settings.root.join (Path.parse settings.outputDir)

def cssPath (settings : Settings) : Path :=
  settings.outputPath.join (Path.parse settings.cssFile)

def tsPath (settings : Settings) : Path :=
  settings.outputPath.join (Path.parse settings.tsFile)

def options (settings : Settings) : Options :=
  { unit := settings.unit, setName := settings.setName }

/-- An empty unit is no unit. -/
def unitOf (text : String) : Option String :=
  if text.isEmpty then none else some text

end Settings

def textSetting (table : Entries Toml.Value) (key default : String) : Except ConfigCause String :=
  match table.get? key with
  | none => .ok default
  | some (.text value) => .ok value
  | some _ => .error (.notString key)

def textItems? : List Toml.Value → Option (List String)
  | [] => some []
  | .text value :: rest => (textItems? rest).map (value :: ·)
  | _ :: _ => none

/-- One path or a list of paths. -/
def inputSetting (table : Entries Toml.Value) : Except ConfigCause (List String) :=
  match table.get? "input" with
  | none => .ok defaultInputs
  | some (.text value) => .ok [value]
  | some (.array items) =>
    match textItems? items with
    | some values => .ok values
    | none => .error .notPaths
  | some _ => .error .notPaths

/-- The table that holds the settings; a document without it changes none. -/
def settingsTable (document : Entries Toml.Value) : Except ConfigCause (Entries Toml.Value) :=
  match document.get? "tokens" with
  | none => .ok []
  | some (.table members) => .ok members
  | some _ => .error .notTable

/-- The settings of a document, whose paths are seen from a root. -/
def Settings.ofDocument (root : Path) (document : Entries Toml.Value) :
    Except ConfigCause Settings := do
  let defaults : Settings := { root }
  let table ← settingsTable document
  let inputs ← inputSetting table
  let outputDir ← textSetting table "output_dir" defaults.outputDir
  let cssFile ← textSetting table "css_file" defaults.cssFile
  let tsFile ← textSetting table "ts_file" defaults.tsFile
  let unit ← match table.get? "unit" with
    | none => pure defaults.unit
    | some _ => Settings.unitOf <$> textSetting table "unit" ""
  let setName ← textSetting table "set" defaults.setName
  return { root, inputs, outputDir, cssFile, tsFile, unit, setName }

/-- The settings that the bytes of a settings file give. -/
def Settings.ofBytes (path : Path) (bytes : List UInt8) : Except Failure Settings := do
  match Text.decode bytes with
  | .error fault => throw (.encoding fault)
  | .ok text =>
    match Toml.parse? (Text.unifyLines text) with
    | none => throw (.config path .notToml)
    | some document => (ofDocument path.parent document).mapError (.config path)

variable {m : Type → Type} [Monad m] [Files m]

def loadSettings (path : Path) : m (Except Failure Settings) := do
  match ← Files.read path with
  | .error .nullCharacter => return .error (.file ⟨.nullCharacter, path⟩)
  | .error cause => return .error (.config path (.unreadable ⟨cause, path⟩))
  | .ok bytes => return Settings.ofBytes path bytes

/-- The settings of a folder: those of the settings file in it, or the defaults. -/
def discoverSettings (root : Path) : m (Except Failure Settings) := do
  let path := root.join (Path.parse settingsFile)
  match ← isThere path with
  | .error failure => return .error failure
  | .ok true => loadSettings path
  | .ok false => return .ok { root }

end DesignTokens
