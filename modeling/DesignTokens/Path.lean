/-! Paths of files. Empty segments and single dots say nothing and are dropped; two dots stay, for
what they lead to depends on the folders there. -/

namespace DesignTokens

structure Path where
  /-- The slashes at the start. A path with none depends on the working folder; two slashes make a
  root that is written apart from that of one, and more than two are one. -/
  slashes : Fin 3
  segments : List String
  deriving DecidableEq, Repr

namespace Path

def leadingSlashes (text : List Char) : Fin 3 :=
  match (text.takeWhile (· == '/')).length with
  | 0 => 0
  | 2 => 2
  | _ => 1

def parse (text : String) : Path where
  slashes := leadingSlashes text.toList
  segments := ((text.toList.splitOn '/').map String.ofList).filter fun segment =>
    !(segment.isEmpty || segment == ".")

/-- The empty path is written as a dot. -/
def toString (path : Path) : String :=
  let text := String.ofList (List.replicate path.slashes '/') ++ "/".intercalate path.segments
  if text.isEmpty then "." else text

instance : ToString Path := ⟨toString⟩

def relative (segments : List String) : Path := ⟨0, segments⟩

def rooted (segments : List String) : Path := ⟨1, segments⟩

def here : Path := relative []

def isRooted (path : Path) : Bool :=
  path.slashes != 0

/-- A path as seen from another one; a rooted path stays what it is. -/
def join (base path : Path) : Path :=
  if path.isRooted then path else { base with segments := base.segments ++ path.segments }

/-- The path without its last segment, whatever that is. -/
def parent (path : Path) : Path :=
  { path with segments := path.segments.dropLast }

/-- Removes each pair of dots together with the segment before it. -/
def collapse (before : List String) : List String → List String
  | [] => before
  | segment :: rest =>
    collapse (if segment == ".." then before.dropLast else before ++ [segment]) rest

/-- A path as one from the root without dots, seen from a rooted folder. -/
def resolve (folder path : Path) : Path :=
  rooted (collapse [] (folder.join path).segments)

end Path

end DesignTokens
