import DesignTokens.Files
import DesignTokens.Text.Utf8

/-! A disk in memory: files and folders by the names on the way to them from the root. -/

namespace DesignTokens

inductive Node where
  | file (bytes : List UInt8)
  | folder
  deriving DecidableEq, Repr

/-- The names from the root folder down. -/
abbrev Location := List String

structure Disk where
  nodes : List (Location × Node) := [([], .folder)]
  /-- The working folder. -/
  folder : Location := []
  clock : Calendar.Moment
  /-- Stand-ins for halves of surrogate pairs that are characters of their own in the texts at hand. -/
  isAssigned : Char → Bool := fun _ => false

namespace Disk

def node? (disk : Disk) (location : Location) : Option Node :=
  disk.nodes.lookup location

/-- Sets what is at a location, which keeps its place among the nodes if it has one. -/
def setNode (location : Location) (node : Node) : List (Location × Node) → List (Location × Node)
  | [] => [(location, node)]
  | (present, old) :: rest =>
    if present = location then (location, node) :: rest
    else (present, old) :: setNode location node rest

def set (disk : Disk) (location : Location) (node : Node) : Disk :=
  { disk with nodes := setNode location node disk.nodes }

private theorem lookup_setNode (location : Location) (node : Node) (nodes : List (Location × Node))
    (other : Location) : (setNode location node nodes).lookup other =
      if other = location then some node else nodes.lookup other := by
  fun_induction setNode location node nodes <;> simp only [List.lookup_cons, List.lookup_nil] <;> grind

@[simp] theorem node?_set_self (disk : Disk) (location : Location) (node : Node) :
    (disk.set location node).node? location = some node := by
  rw [node?, set, lookup_setNode, if_pos rfl]

theorem node?_set_of_ne {location other : Location} (different : other ≠ location) (disk : Disk)
    (node : Node) : (disk.set location node).node? other = disk.node? other := by
  rw [node?, set, lookup_setNode, if_neg different, node?]

/-- The most bytes of a name in a folder. -/
def nameLimit : Nat := 255

/-- The bytes of a path are fewer. -/
def pathLimit : Nat := 4096

/-- Follows a path. Every segment is taken from a folder that is there; whether the last one leads
to anything is left open. The root folder is its own parent. -/
def walk (disk : Disk) (location : Location) : List String → Except FileCause Location
  | [] => .ok location
  | segment :: rest =>
    match disk.node? location with
    | some .folder =>
      if nameLimit < segment.utf8ByteSize then .error .nameTooLong
      else disk.walk (if segment == ".." then location.dropLast else location ++ [segment]) rest
    | some (.file _) => .error .notFolder
    | none => .error .missing

def locate (disk : Disk) (path : Path) : Except FileCause Location :=
  if path.segments.any (·.toList.contains '\x00') then .error .nullCharacter
  else if pathLimit ≤ path.toString.utf8ByteSize then .error .nameTooLong
  else disk.walk (if path.isRooted then [] else disk.folder) path.segments

def isPresent (disk : Disk) (path : Path) : Except FileCause Bool :=
  match disk.locate path with
  | .ok location => .ok (disk.node? location).isSome
  | .error .nameTooLong => .error .nameTooLong
  | .error _ => .ok false

def isFolder (disk : Disk) (path : Path) : Bool :=
  match disk.locate path with
  | .ok location => disk.node? location == some .folder
  | .error _ => false

def read (disk : Disk) (path : Path) : Except FileCause (List UInt8) := do
  match disk.node? (← disk.locate path) with
  | some (.file bytes) => .ok bytes
  | some .folder => .error .folder
  | none => .error .missing

theorem read_eq (disk : Disk) (path : Path) : disk.read path =
    match disk.locate path with
    | .error cause => .error cause
    | .ok location =>
      match disk.node? location with
      | some (.file bytes) => .ok bytes
      | some .folder => .error .folder
      | none => .error .missing := by
  rw [read]
  cases disk.locate path <;> rfl

def makeFolder (disk : Disk) (path : Path) : Except FileCause Disk := do
  let location ← disk.locate path
  match disk.node? location with
  | some _ => .error .present
  | none => .ok (disk.set location .folder)

def write (disk : Disk) (path : Path) (bytes : List UInt8) : Except FileCause Disk := do
  let location ← disk.locate path
  match disk.node? location with
  | some .folder => .error .folder
  | _ => .ok (disk.set location (.file bytes))

/-- Takes away all nodes whose location has a property. -/
def drop (disk : Disk) (drops : Location → Bool) : Disk :=
  { disk with nodes := disk.nodes.filter fun node => !drops node.1 }

/-- Removes a file, or a folder with all that is in it. A folder is removed by its name: one that is
called by a dot loses what is in it, and stays. -/
def remove (disk : Disk) (path : Path) : Except FileCause Unit × Disk :=
  match disk.locate path with
  | .error cause => (.error cause, disk)
  | .ok location =>
    if (disk.node? location).isNone then (.error .missing, disk)
    else if path = Path.here then
      (.error (.other 22 "Invalid argument"),
        disk.drop fun inner => location.isPrefixOf inner && inner != location)
    else (.ok (), disk.drop (location.isPrefixOf ·))

def isHalf (disk : Disk) (c : Char) : Bool :=
  Text.isStandIn c && !disk.isAssigned c

/-- The files below the working folder, as seen from there. -/
def files (disk : Disk) : List Path :=
  disk.nodes.filterMap fun (location, node) =>
    match node with
    | .file _ =>
      if disk.folder.isPrefixOf location then
        some (.relative (location.drop disk.folder.length))
      else none
    | .folder => none

/-- Keeps the changed disk, or the old one with the cause of a refusal. -/
def commit (disk : Disk) : Except FileCause Disk → Except FileCause Unit × Disk
  | .ok changed => (.ok (), changed)
  | .error cause => (.error cause, disk)

end Disk

instance : Files (StateM Disk) where
  isPresent path disk := (disk.isPresent path, disk)
  isFolder path disk := (disk.isFolder path, disk)
  read path disk := (disk.read path, disk)
  makeFolder path disk := disk.commit (disk.makeFolder path)
  write path bytes disk := disk.commit (disk.write path bytes)
  workingFolder disk := (.rooted disk.folder, disk)
  now disk := (disk.clock, disk)
  isHalf disk := (disk.isHalf, disk)

end DesignTokens
