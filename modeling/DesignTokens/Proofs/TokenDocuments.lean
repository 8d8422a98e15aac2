import DesignTokens.Disk
import DesignTokens.Proofs.DocumentGrammar
import DesignTokens.Proofs.SettingsFaults
import DesignTokens.TokenFile

/-! What becomes of a token file. It gives a tree exactly if it is a text and the document of an object, and
a failure of the input at its path otherwise. Only a name that is too long to ask for lets another failure
through. -/

namespace DesignTokens.Proofs.TokenDocuments
open DocumentGrammar SettingsFaults Utf8Texts

variable {disk : Disk} {path : Path} {bytes : List UInt8} {tree : Json}

/-- The bytes of a text that is the document of an object, however its lines end. -/
def IsTree (bytes : List UInt8) (tree : Json) : Prop :=
  ∃ text, bytes = stored text ∧ DocumentText (Text.unifyLines text) tree ∧ tree.isObject = true

theorem treeOfBytes_iff : treeOfBytes bytes = .ok tree ↔ IsTree bytes tree := by
  simp only [IsTree, ← decode_iff, ← parse_iff]
  rw [treeOfBytes]
  cases Text.decode bytes with
  | error fault => simp
  | ok text =>
    simp only [Except.ok.injEq, exists_eq_left']
    cases Json.parse (Text.unifyLines text) with
    | error error => simp
    | ok value =>
      cases value with
      | object members =>
        constructor
        · rintro ⟨⟩
          exact ⟨rfl, rfl⟩
        · rintro ⟨⟨⟩, isObject⟩
          rfl
      | _ =>
        refine iff_of_false nofun ?_
        rintro ⟨⟨⟩, ⟨⟩⟩

def loadedTree (disk : Disk) (path : Path) : Except Failure Json :=
  ((loadTokens path : StateM Disk _).run disk).1

def treeIn (path : Path) : Option Node → Except Failure Json
  | none => .error (.input (some path) .notFound)
  | some .folder => .error (.input (some path) (.unreadable ⟨.folder, path⟩))
  | some (.file bytes) => (treeOfBytes bytes).mapError (.input (some path))

private theorem read_run (disk : Disk) (path : Path) :
    (Files.read path : StateM Disk _).run disk = (disk.read path, disk) :=
  rfl

private theorem loadTokens_run (disk : Disk) (path : Path) : (loadTokens path : StateM Disk _).run disk =
    (match disk.locate path with
      | .ok location => treeIn path (disk.node? location)
      | .error .nameTooLong => .error (.file ⟨.nameTooLong, path⟩)
      | .error _ => .error (.input (some path) .notFound), disk) := by
  rw [loadTokens, StateT.run_bind, isThere_run, Disk.isPresent]
  cases located : disk.locate path with
  | error cause => cases cause <;> rfl
  | ok location =>
    have read := Disk.read_eq disk path
    rw [located] at read
    dsimp only at read ⊢
    cases found : disk.node? location with
    | none => rfl
    | some node =>
      rw [found] at read
      change (StateT.run (Files.read path >>= _) disk : Id _) = _
      rw [StateT.run_bind, read_run, read]
      cases node <;> rfl

theorem treeIn_iff {node : Option Node} :
    treeIn path node = .ok tree ↔ ∃ bytes, node = some (.file bytes) ∧ IsTree bytes tree := by
  rcases node with _ | bytes | _
  · exact iff_of_false nofun nofun
  · simp only [treeIn, ← treeOfBytes_iff, Option.some.injEq, Node.file.injEq, exists_eq_left']
    cases treeOfBytes bytes <;> simp [Except.mapError]
  · exact iff_of_false nofun nofun

def Delivers (path : Path) : Except Failure Json → Prop
  | .ok tree => tree.isObject = true
  | .error failure => ∃ cause, failure = .input (some path) cause

private theorem delivers_treeIn (path : Path) (node : Option Node) : Delivers path (treeIn path node) := by
  cases result : treeIn path node with
  | ok tree =>
    obtain ⟨_, _, _, _, _, isObject⟩ := treeIn_iff.mp result
    exact isObject
  | error failure =>
    rcases node with _ | bytes | _
    · cases result
      exact ⟨_, rfl⟩
    · rw [treeIn] at result
      cases read : treeOfBytes bytes with
      | ok tree =>
        rw [read] at result
        cases result
      | error cause =>
        rw [read] at result
        cases result
        exact ⟨cause, rfl⟩
    · cases result
      exact ⟨_, rfl⟩

theorem loadedTree_eq (disk : Disk) (path : Path) : loadedTree disk path =
    match disk.locate path with
    | .ok location => treeIn path (disk.node? location)
    | .error .nameTooLong => .error (.file ⟨.nameTooLong, path⟩)
    | .error _ => .error (.input (some path) .notFound) := by
  rw [loadedTree, loadTokens_run]

theorem loadedTree_iff : loadedTree disk path = .ok tree ↔ ∃ location bytes,
    disk.locate path = .ok location ∧ disk.node? location = some (.file bytes) ∧ IsTree bytes tree := by
  rw [loadedTree_eq]
  cases disk.locate path with
  | ok location =>
    constructor
    · intro loaded
      obtain ⟨bytes, found, isTree⟩ := treeIn_iff.mp loaded
      exact ⟨location, bytes, rfl, found, isTree⟩
    · rintro ⟨_, bytes, ⟨⟩, found, isTree⟩
      exact treeIn_iff.mpr ⟨bytes, found, isTree⟩
  | error cause =>
    refine iff_of_false ?_ ?_
    · cases cause <;> nofun
    · rintro ⟨_, _, ⟨⟩, _⟩

theorem delivers_loadedTree_iff :
    Delivers path (loadedTree disk path) ↔ disk.locate path ≠ .error .nameTooLong := by
  rw [loadedTree_eq]
  cases disk.locate path with
  | ok location => exact iff_of_true (delivers_treeIn path _) nofun
  | error cause =>
    cases cause with
    | nameTooLong => exact iff_of_false nofun fun named => named rfl
    | _ => exact iff_of_true ⟨.notFound, rfl⟩ nofun

private theorem loadedTree_of_tooLong (tooLong : disk.locate path = .error .nameTooLong) :
    loadedTree disk path = .error (.file ⟨.nameTooLong, path⟩) := by
  rw [loadedTree_eq, tooLong]

/-- A path gives a tree exactly if it leads to a file that is a text and the document of that tree, an object.
Every other path gives a failure of the input, but for a name that is too long to ask for, which gives one of
the file. The disk stays as it is. -/
theorem loaded_iff_document (disk : Disk) (path : Path) :
    (∀ tree, loadedTree disk path = .ok tree ↔ ∃ location bytes, disk.locate path = .ok location ∧
      disk.node? location = some (.file bytes) ∧ IsTree bytes tree) ∧
    (Delivers path (loadedTree disk path) ↔ disk.locate path ≠ .error .nameTooLong) ∧
    (disk.locate path = .error .nameTooLong →
      loadedTree disk path = .error (.file ⟨.nameTooLong, path⟩)) ∧
    ((loadTokens path : StateM Disk _).run disk).2 = disk := by
  refine ⟨fun tree => loadedTree_iff, delivers_loadedTree_iff, loadedTree_of_tooLong, ?_⟩
  rw [loadTokens_run]

/-- A name of more bytes than a name may have is too long in every folder. -/
theorem locate_of_long {name : String} (named : '\x00' ∉ name.toList)
    (long : Disk.nameLimit < name.utf8ByteSize) (opened : disk.node? disk.folder = some .folder) :
    disk.locate (.relative [name]) = .error .nameTooLong := by
  rw [Disk.locate, if_neg (by simpa [Path.relative] using named)]
  split
  next => rfl
  next =>
    have fromHere : (Path.relative [name]).isRooted = false := rfl
    rw [fromHere, if_neg Bool.false_ne_true, Path.relative, Disk.walk, opened]
    exact if_pos long

private theorem size_replicate (count : Nat) :
    (String.ofList (List.replicate count 'a')).utf8ByteSize = count := by
  induction count with
  | zero => rfl
  | succ count ih =>
    rw [List.replicate_succ, ← List.singleton_append, String.ofList_append, String.utf8ByteSize_append, ih]
    exact Nat.add_comm 1 count

def longName : Path := .relative [String.ofList (List.replicate 256 'a')]

/-- Even on a disk without files it gives no failure of the input. -/
theorem longName_escapes :
    loadedTree { clock := .ofSeconds 0 0 } longName = .error (.file ⟨.nameTooLong, longName⟩) ∧
      ¬ Delivers longName (loadedTree { clock := .ofSeconds 0 0 } longName) := by
  have tooLong : Disk.locate { clock := .ofSeconds 0 0 } longName = .error .nameTooLong := by
    apply locate_of_long
    · rw [String.toList_ofList, List.mem_replicate]
      decide
    · rw [size_replicate]
      decide
    · rfl
  rw [loadedTree_of_tooLong tooLong]
  refine ⟨rfl, ?_⟩
  rintro ⟨cause, ⟨⟩⟩

end DesignTokens.Proofs.TokenDocuments
