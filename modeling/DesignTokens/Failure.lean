import DesignTokens.Extract.Dimension
import DesignTokens.Files
import DesignTokens.Json.Fault
import DesignTokens.Text.Utf8

/-! What can make a run fail. Each failure is a cause, and its text is a function of the cause. -/

namespace DesignTokens

/-- Why there is no token tree to work on. -/
inductive InputCause where
  | noCandidates
  | notFound
  | unreadable (fault : FileFault)
  | notText (fault : Text.Utf8Fault)
  | notJson (fault : Json.Fault) (position : Json.Position)
  | notObject
  deriving DecidableEq, Repr

def InputCause.message : InputCause → String
  | .noCandidates => "No input candidates configured"
  | .notFound => "Token file not found"
  | .unreadable fault => "Cannot read token file: " ++ fault.message
  | .notText fault => "Cannot read token file: " ++ fault.message
  | .notJson fault position => "JSON parse error: " ++ fault.message ++ ": " ++ position.message
  | .notObject => "Token file root must be a JSON object"

/-- Why a configuration file gives no settings. -/
inductive ConfigCause where
  | notToml
  | unreadable (fault : FileFault)
  | notTable
  | notPaths
  | notString (key : String)
  deriving DecidableEq, Repr

def ConfigCause.message : ConfigCause → String
  | .notToml => "Invalid TOML"
  | .unreadable fault => "Cannot read config: " ++ fault.message
  | .notTable => "[tokens] must be a table"
  | .notPaths => "[tokens].input must be a path or a list of paths"
  | .notString key => "[tokens]." ++ key ++ " must be a str"

/-- A text about a file starts with its path. -/
def aboutFile (path : Option Path) (text : String) : String :=
  match path with
  | some path => path.toString ++ ": " ++ text
  | none => text

inductive Failure where
  | input (path : Option Path) (cause : InputCause)
  | config (path : Path) (cause : ConfigCause)
  /-- A configuration file is no text. -/
  | encoding (fault : Text.Utf8Fault)
  /-- The text of an artifact has no bytes. -/
  | unencodable (fault : Text.EncodeFault)
  /-- An artifact or its folder cannot be written. -/
  | file (fault : FileFault)
  | type (fault : TypeFault)
  deriving DecidableEq, Repr

def Failure.message : Failure → String
  | .input path cause => aboutFile path cause.message
  | .config path cause => aboutFile (some path) cause.message
  | .encoding fault => fault.message
  | .unencodable fault => fault.message
  | .file fault => fault.message
  | .type fault => fault.message

/-- A command answers for failures of its input and its configuration; any other ends the program. -/
def Failure.isAnswered : Failure → Bool
  | .input _ _ => true
  | .config _ _ => true
  | _ => false

/-- Whether there is a file or a folder; that this cannot be found out is a failure. -/
def isThere {m : Type → Type} [Monad m] [Files m] (path : Path) : m (Except Failure Bool) :=
  return (← Files.isPresent path).mapError fun cause => .file ⟨cause, path⟩

end DesignTokens
