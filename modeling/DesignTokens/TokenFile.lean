import DesignTokens.Failure
import DesignTokens.Json.Reader

/-! Finding and reading the file that holds the raw token tree. -/

namespace DesignTokens

variable {m : Type → Type} [Monad m] [Files m]

/-- The first of some paths where there is something, or else the first of them all. -/
def findInput (candidates : List Path) : m (Except Failure Path) :=
  match candidates with
  | [] => return .error (.input none .noCandidates)
  | first :: _ => search first candidates
where
  search (first : Path) : List Path → m (Except Failure Path)
    | [] => return .ok first
    | path :: rest => do
      match ← isThere path with
      | .error failure => return .error failure
      | .ok true => return .ok path
      | .ok false => search first rest

/-- The tree that the bytes of a token file hold. -/
def treeOfBytes (bytes : List UInt8) : Except InputCause Json :=
  match Text.decode bytes with
  | .error fault => .error (.notText fault)
  | .ok text =>
    let document := Text.unifyLines text
    match Json.parse document with
    | .error error => .error (.notJson error.fault (Json.Position.of document error.place))
    | .ok (.object members) => .ok (.object members)
    | .ok _ => .error .notObject

def loadTokens (path : Path) : m (Except Failure Json) := do
  match ← isThere path with
  | .error failure => return .error failure
  | .ok false => return .error (.input (some path) .notFound)
  | .ok true =>
    match ← Files.read path with
    | .error cause => return .error (.input (some path) (.unreadable ⟨cause, path⟩))
    | .ok bytes => return (treeOfBytes bytes).mapError (.input (some path))

end DesignTokens
