import DesignTokens.Settings
import DesignTokens.Stylesheet
import DesignTokens.TokenFile
import DesignTokens.TypeScript

/-! A run from the token file to the artifacts. -/

namespace DesignTokens

/-- What happens during a run, in order. -/
inductive Event where
  | loaded (members : Nat) (path : Path)
  | noted (note : Note)
  /-- The model is built, with so many aliases that lead nowhere. -/
  | unresolved (count : Nat)
  | wrote (path : Path)
  deriving DecidableEq, Repr

/-- A part of a run. It uses files, records events, and may fail; the events before a failure stay. -/
abbrev Job (m : Type → Type) := ExceptT Failure (StateT (List Event) m)

namespace Job

variable {m : Type → Type} [Monad m] {α : Type}

def record (events : List Event) : Job m Unit :=
  modify (· ++ events)

def ofExcept (result : Except Failure α) : Job m α :=
  .mk (pure result)

def ofFiles (action : m (Except Failure α)) : Job m α :=
  .mk (StateT.lift action)

end Job

structure Assembly where
  model : Model
  report : Report

structure SyncResult where
  input : Path
  css : Path
  ts : Path
  assembly : Assembly

variable {m : Type → Type} [Monad m] [Files m]

/-- Builds the model of a raw tree. -/
def assembleTree (options : Options) (raw : Json) : Job m Assembly := do
  let outcome : Noted (Except TypeFault Model) := assemble options raw
  let report := outcome.report
  Job.record (outcome.notes.map .noted)
  let model ← Job.ofExcept (outcome.value.mapError .type)
  unless report.unresolved.isEmpty do Job.record [.unresolved report.unresolved.length]
  return { model, report }

/-- Finds, reads and transforms the token file, and writes nothing. -/
def build (settings : Settings) (input : Option Path) : Job m (Path × Assembly) := do
  let path ← match input with
    | some path => pure path
    | none => Job.ofFiles (findInput settings.candidatePaths)
  let raw ← Job.ofFiles (loadTokens path)
  Job.record [.loaded raw.members.length path]
  let assembly ← assembleTree settings.options raw
  return (path, assembly)

def makeFolderFor (path : Path) : Job m Unit :=
  Job.ofFiles ((·.mapError .file) <$> Files.makeFolders path.parent)

def writeBytes (path : Path) (bytes : List UInt8) : Job m Unit :=
  Job.ofFiles ((·.mapError fun cause => .file ⟨cause, path⟩) <$> Files.write path bytes)

/-- Writes a file. Opening it empties it, so a text without bytes leaves nothing of what was there. -/
def writeText (path : Path) (text : String) : Job m Unit := do
  let isHalf ← Job.ofFiles (.ok <$> Files.isHalf)
  match Text.encode? isHalf text with
  | .error fault =>
    writeBytes path []
    throw (.unencodable fault)
  | .ok bytes =>
    writeBytes path bytes
    Job.record [.wrote path]

/-- Writes both artifacts, the constant before the stylesheet, after making their folders. -/
def writeArtifacts (model : Model) (css ts : Path) (stamp : String) : Job m Unit := do
  makeFolderFor css
  makeFolderFor ts
  writeText ts (TypeScript.render model stamp)
  writeText css (Stylesheet.render model stamp)

/-- The stamp that is asked for, if it is not empty, or else the present. -/
def stampOr (asked : Option String) : Job m String := do
  let stamp := asked.getD ""
  if stamp.isEmpty then return (← (liftM (n := Job m) (m := m) Files.now)).isoText else return stamp

def sync (settings : Settings) (input : Option Path) (stamp : Option String) :
    Job m SyncResult := do
  let (path, assembly) ← build settings input
  let stamp ← stampOr stamp
  writeArtifacts assembly.model settings.cssPath settings.tsPath stamp
  return { input := path, css := settings.cssPath, ts := settings.tsPath, assembly }

end DesignTokens
