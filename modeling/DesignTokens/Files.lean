import DesignTokens.Calendar
import DesignTokens.Path
import DesignTokens.Text.Quoted

/-! What a run needs of the machine it runs on: files, folders, and a clock. Everything else is
written against these operations, so it can run on a real machine and on a disk kept in memory. -/

namespace DesignTokens

/-- Why an operation on a file or folder is refused. -/
inductive FileCause where
  | missing
  | present
  /-- A file stands where a folder is needed. -/
  | notFolder
  /-- A folder stands where a file is needed. -/
  | folder
  /-- No path holds a null character. -/
  | nullCharacter
  | nameTooLong
  | other (code : Nat) (text : String)
  deriving DecidableEq, Repr

/-- A refusal and the path that was asked for. -/
structure FileFault where
  cause : FileCause
  path : Path
  deriving DecidableEq, Repr

def FileFault.message (fault : FileFault) : String :=
  let numbered (code : Nat) (text : String) :=
    s!"[Errno {code}] {text}: " ++ Text.quote fault.path.toString
  match fault.cause with
  | .missing => numbered 2 "No such file or directory"
  | .present => numbered 17 "File exists"
  | .notFolder => numbered 20 "Not a directory"
  | .folder => numbered 21 "Is a directory"
  | .nullCharacter => "embedded null byte"
  | .nameTooLong => numbered 36 "File name too long"
  | .other code text => numbered code text

class Files (m : Type → Type) where
  /-- Whether there is a file or a folder. Where nothing can be, there is nothing; a name that is too
  long is refused. -/
  isPresent : Path → m (Except FileCause Bool)
  isFolder : Path → m Bool
  read : Path → m (Except FileCause (List UInt8))
  /-- Makes one folder inside one that is there. -/
  makeFolder : Path → m (Except FileCause Unit)
  /-- Writes a whole file, whether or not it was there before. -/
  write : Path → List UInt8 → m (Except FileCause Unit)
  /-- The folder that paths are seen from, as a rooted path. -/
  workingFolder : m Path
  /-- The present in universal time. -/
  now : m Calendar.Moment
  /-- Whether a character stands for half of a surrogate pair. -/
  isHalf : m (Char → Bool)

namespace Files

variable {m : Type → Type} [Monad m] [Files m]

/-- A refusal to make a folder does no harm where the folder is there. -/
def settleFolder (path : Path) (result : Except FileCause Unit) : m (Except FileFault Unit) := do
  match result with
  | .ok () => return .ok ()
  | .error .missing => return .error ⟨.missing, path⟩
  | .error .nullCharacter => return .error ⟨.nullCharacter, path⟩
  | .error cause =>
    if ← isFolder path then return .ok () else return .error ⟨cause, path⟩

/-- Makes a folder and all that are missing above it. -/
def makeFolders (path : Path) : m (Except FileFault Unit) := do
  match ← makeFolder path with
  | .error .missing =>
    if _nested : path.segments = [] then return .error ⟨.missing, path⟩
    else
      match ← makeFolders path.parent with
      | .ok () => settleFolder path (← makeFolder path)
      | .error fault => return .error fault
  | result => settleFolder path result
termination_by path.segments.length
decreasing_by
  have := List.length_pos_iff.mpr _nested
  simp only [Path.parent, List.length_dropLast]
  omega

/-- Makes a folder that is not there yet, and all that are missing above it. -/
def makeNewFolder (path : Path) : m (Except FileFault Unit) := do
  match ← makeFolder path with
  | .error .missing =>
    match ← makeFolders path.parent with
    | .ok () => return (← makeFolder path).mapError (⟨·, path⟩)
    | .error fault => return .error fault
  | result => return result.mapError (⟨·, path⟩)

end Files

end DesignTokens
