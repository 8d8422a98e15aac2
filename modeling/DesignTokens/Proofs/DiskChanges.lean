import DesignTokens.Disk

/-! How a disk changes. Writing sets one file, where there is no folder. Making folders changes nothing
that is there: new are folders alone, each at the end of first segments of the path that is made. Since
folders stay in both cases, whatever a path leads to it leads to ever after. -/

namespace DesignTokens.Proofs.DiskChanges

def origin (disk : Disk) (path : Path) : Location :=
  if path.isRooted then [] else disk.folder

/-- The place at the end of some first segments of a path, or of all of them. -/
def Passes (disk : Disk) (path : Path) (place : Location) : Prop :=
  ∃ before, before <+: path.segments ∧ disk.walk (origin disk path) before = .ok place

/-- All first segments of a path lead to folders. -/
def Passable (disk : Disk) (path : Path) : Prop :=
  ∀ first, first <+: path.segments →
    ∃ place, disk.walk (origin disk path) first = .ok place ∧ disk.node? place = some .folder

/-- Later disks have all the folders of an earlier one. -/
structure KeepsFolders (before after : Disk) : Prop where
  folder : after.folder = before.folder
  clock : after.clock = before.clock
  isAssigned : after.isAssigned = before.isAssigned
  folders : ∀ place, before.node? place = some .folder → after.node? place = some .folder

/-- Only folders on the way along some paths are new. -/
structure Founds (paths : List Path) (before after : Disk) : Prop where
  folder : after.folder = before.folder
  clock : after.clock = before.clock
  isAssigned : after.isAssigned = before.isAssigned
  nodes : ∀ place, after.node? place = before.node? place ∨
    before.node? place = none ∧ after.node? place = some .folder ∧ ∃ path ∈ paths, Passes after path place

variable {disk before middle after : Disk} {path : Path} {paths others : List Path} {start place : Location}
  {segments : List String}

theorem KeepsFolders.trans (first : KeepsFolders before middle) (last : KeepsFolders middle after) :
    KeepsFolders before after :=
  ⟨last.folder.trans first.folder, last.clock.trans first.clock, last.isAssigned.trans first.isAssigned,
    fun place there => last.folders place (first.folders place there)⟩

theorem walk_cons (segment : String) : disk.walk start (segment :: segments) = .ok place ↔
    disk.node? start = some .folder ∧ segment.utf8ByteSize ≤ Disk.nameLimit ∧
      disk.walk (if segment == ".." then start.dropLast else start ++ [segment]) segments = .ok place := by
  rw [Disk.walk]
  cases disk.node? start with
  | none => simp
  | some node =>
    cases node with
    | file bytes => simp
    | folder =>
      by_cases long : Disk.nameLimit < segment.utf8ByteSize
      · simp [long, Nat.not_le.mpr long]
      · simp [long, Nat.not_lt.mp long]

theorem KeepsFolders.walk (keeps : KeepsFolders before after)
    (walked : before.walk start segments = .ok place) :
    after.walk start segments = .ok place := by
  induction segments generalizing start with
  | nil => exact walked
  | cons segment rest ih =>
    obtain ⟨there, short, further⟩ := (walk_cons segment).mp walked
    exact (walk_cons segment).mpr ⟨keeps.folders start there, short, ih further⟩

/-- Segments that are followed by others lead to a folder. -/
theorem walk_append {rest : List String} (walked : disk.walk start (segments ++ rest) = .ok place)
    (more : rest ≠ []) :
    ∃ inner, disk.walk start segments = .ok inner ∧ disk.node? inner = some .folder := by
  induction segments generalizing start with
  | nil =>
    obtain ⟨segment, rest, rfl⟩ := List.exists_cons_of_ne_nil more
    exact ⟨start, rfl, ((walk_cons segment).mp walked).1⟩
  | cons segment segments ih =>
    obtain ⟨there, short, further⟩ := (walk_cons segment).mp walked
    obtain ⟨inner, inner_walked, folder⟩ := ih further
    exact ⟨inner, (walk_cons segment).mpr ⟨there, short, inner_walked⟩, folder⟩

theorem locate_ok_iff : disk.locate path = .ok place ↔
    path.segments.any (·.toList.contains '\x00') = false ∧ path.toString.utf8ByteSize < Disk.pathLimit ∧
      disk.walk (origin disk path) path.segments = .ok place := by
  rw [Disk.locate, ← origin]
  cases path.segments.any (·.toList.contains '\x00') with
  | true => simp
  | false =>
    by_cases long : Disk.pathLimit ≤ path.toString.utf8ByteSize
    · simp [long, Nat.not_lt.mpr long]
    · simp [long, Nat.not_le.mp long]

theorem KeepsFolders.origin (keeps : KeepsFolders before after) (path : Path) :
    origin after path = origin before path := by
  rw [DiskChanges.origin, DiskChanges.origin, keeps.folder]

theorem KeepsFolders.locate (keeps : KeepsFolders before after) (located : before.locate path = .ok place) :
    after.locate path = .ok place := by
  obtain ⟨plain, short, walked⟩ := locate_ok_iff.mp located
  rw [← keeps.origin] at walked
  exact locate_ok_iff.mpr ⟨plain, short, keeps.walk walked⟩

theorem isFolder_iff : disk.isFolder path = true ↔
    ∃ place, disk.locate path = .ok place ∧ disk.node? place = some .folder := by
  rw [Disk.isFolder]
  cases disk.locate path with
  | error cause => simp
  | ok place => simp

theorem KeepsFolders.isHalf (keeps : KeepsFolders before after) : after.isHalf = before.isHalf := by
  funext c
  rw [Disk.isHalf, Disk.isHalf, keeps.isAssigned]

theorem KeepsFolders.isFolder (keeps : KeepsFolders before after) (isFolder : before.isFolder path = true) :
    after.isFolder path = true := by
  obtain ⟨place, located, there⟩ := isFolder_iff.mp isFolder
  exact isFolder_iff.mpr ⟨place, keeps.locate located, keeps.folders place there⟩

theorem passable_of_isFolder (isFolder : disk.isFolder path = true) : Passable disk path := by
  intro first within
  obtain ⟨place, located, there⟩ := isFolder_iff.mp isFolder
  obtain ⟨rest, whole⟩ := within
  obtain ⟨_, _, walked⟩ := locate_ok_iff.mp located
  by_cases last : rest = []
  · rw [last, List.append_nil] at whole
    exact ⟨place, whole ▸ walked, there⟩
  · exact walk_append (whole ▸ walked) last

theorem KeepsFolders.passes (keeps : KeepsFolders before after) (passes : Passes before path place) :
    Passes after path place := by
  obtain ⟨first, within, walked⟩ := passes
  refine ⟨first, within, ?_⟩
  rw [keeps.origin]
  exact keeps.walk walked

theorem Founds.keepsFolders (founds : Founds paths before after) : KeepsFolders before after where
  folder := founds.folder
  clock := founds.clock
  isAssigned := founds.isAssigned
  folders place there := by
    rcases founds.nodes place with same | ⟨absent, _⟩
    · exact same.trans there
    · cases absent.symm.trans there

theorem Founds.refl (paths : List Path) (disk : Disk) : Founds paths disk disk :=
  ⟨rfl, rfl, rfl, fun _ => Or.inl rfl⟩

theorem Founds.trans (first : Founds paths before middle) (last : Founds paths middle after) :
    Founds paths before after where
  folder := last.folder.trans first.folder
  clock := last.clock.trans first.clock
  isAssigned := last.isAssigned.trans first.isAssigned
  nodes place := by
    rcases last.nodes place with same | ⟨absent, made, passed⟩
    · rcases first.nodes place with old | ⟨absent, made, path, member, passes⟩
      · exact Or.inl (same.trans old)
      · exact Or.inr ⟨absent, same.trans made, path, member, last.keepsFolders.passes passes⟩
    · rcases first.nodes place with old | ⟨_, there, _⟩
      · exact Or.inr ⟨old.symm.trans absent, made, passed⟩
      · cases absent.symm.trans there

theorem Founds.of_passes (founds : Founds paths before after)
    (passes : ∀ path ∈ paths, ∀ place, Passes after path place → ∃ other ∈ others, Passes after other place) :
    Founds others before after where
  folder := founds.folder
  clock := founds.clock
  isAssigned := founds.isAssigned
  nodes place := by
    rcases founds.nodes place with same | ⟨absent, made, path, member, here⟩
    · exact Or.inl same
    · exact Or.inr ⟨absent, made, passes path member place here⟩

theorem Founds.mono (founds : Founds paths before after) (more : paths ⊆ others) : Founds others before after :=
  founds.of_passes fun path member _ passes => ⟨path, more member, passes⟩

theorem Founds.of_parent (founds : Founds [path.parent] before after) : Founds [path] before after := by
  apply founds.of_passes
  rw [List.forall_mem_singleton]
  rintro place ⟨first, within, walked⟩
  exact ⟨path, List.mem_singleton_self path, first, within.trans (List.dropLast_prefix path.segments), walked⟩

theorem makeFolder_ok_iff : disk.makeFolder path = .ok after ↔
    ∃ place, disk.locate path = .ok place ∧ disk.node? place = none ∧ disk.set place .folder = after := by
  rw [Disk.makeFolder]
  cases disk.locate path with
  | error cause => simp [bind, Except.bind]
  | ok place => cases there : disk.node? place <;> simp [bind, Except.bind, there]

theorem write_ok_iff {bytes : List UInt8} : disk.write path bytes = .ok after ↔
    ∃ place, disk.locate path = .ok place ∧ disk.node? place ≠ some .folder ∧
      disk.set place (.file bytes) = after := by
  rw [Disk.write]
  cases disk.locate path with
  | error cause => simp [bind, Except.bind]
  | ok place =>
    cases there : disk.node? place with
    | none => simp [bind, Except.bind, there]
    | some node => cases node <;> simp [bind, Except.bind, there]

/-- Whether a file can be written does not depend on what is written. -/
theorem write_refused {bytes : List UInt8} {cause : FileCause} (refused : disk.write path bytes = .error cause)
    (others : List UInt8) : disk.write path others = .error cause := by
  rw [Disk.write] at refused ⊢
  cases located : disk.locate path with
  | error cause => rwa [located] at refused
  | ok place =>
    rw [located] at refused
    cases there : disk.node? place with
    | none => simp [bind, Except.bind, there] at refused
    | some node => cases node <;> simp_all [bind, Except.bind]

theorem keepsFolders_set (node : Node) (free : disk.node? place ≠ some .folder) :
    KeepsFolders disk (disk.set place node) := by
  refine ⟨rfl, rfl, rfl, fun other there => ?_⟩
  have different : other ≠ place := by
    rintro rfl
    exact free there
  rw [Disk.node?_set_of_ne different, there]

private theorem makeFolder_founds (made : disk.makeFolder path = .ok after) :
    Founds [path] disk after ∧ after.isFolder path = true := by
  obtain ⟨place, located, absent, rfl⟩ := makeFolder_ok_iff.mp made
  have keeps : KeepsFolders disk (disk.set place .folder) := keepsFolders_set .folder (by simp [absent])
  have here := keeps.locate located
  refine ⟨⟨rfl, rfl, rfl, fun other => ?_⟩, isFolder_iff.mpr ⟨place, here, Disk.node?_set_self disk place .folder⟩⟩
  by_cases same : other = place
  · subst same
    have passes : Passes (disk.set other .folder) path other :=
      ⟨path.segments, List.prefix_rfl, (locate_ok_iff.mp here).2.2⟩
    exact Or.inr ⟨absent, Disk.node?_set_self disk other .folder, path, List.mem_singleton_self path, passes⟩
  · exact Or.inl (Disk.node?_set_of_ne same disk .folder)

section Run

variable {α β : Type} {tried : Except FileCause Unit} {outcome : Except FileFault Unit}

theorem run_bind {first : StateM Disk α} {next : α → StateM Disk β} {result : β}
    (ran : (first >>= next).run before = (result, after)) :
    ∃ value middle, first.run before = (value, middle) ∧ (next value).run middle = (result, after) :=
  ⟨_, _, rfl, ran⟩

theorem run_map {first : StateM Disk α} {f : α → β} {result : β}
    (ran : (f <$> first).run before = (result, after)) :
    ∃ value, first.run before = (value, after) ∧ f value = result := by
  cases ran
  exact ⟨_, rfl, rfl⟩

theorem commit_cases {attempt : Except FileCause Disk} (committed : disk.commit attempt = (tried, after)) :
    (∃ cause, attempt = .error cause ∧ tried = .error cause ∧ after = disk) ∨
      attempt = .ok after ∧ tried = .ok () := by
  cases attempt with
  | error cause =>
    cases committed
    exact Or.inl ⟨cause, rfl, rfl, rfl⟩
  | ok changed =>
    cases committed
    exact Or.inr ⟨rfl, rfl⟩

private theorem tryFolder_founds (ran : (Files.makeFolder path : StateM Disk _).run disk = (tried, after)) :
    Founds [path] disk after ∧ (tried = .ok () → after.isFolder path = true) := by
  obtain ⟨cause, _, rfl, rfl⟩ | ⟨made, rfl⟩ := commit_cases ran
  · exact ⟨.refl _ _, nofun⟩
  · obtain ⟨founds, there⟩ := makeFolder_founds made
    exact ⟨founds, fun _ => there⟩

private theorem settleFolder_run
    (ran : (Files.settleFolder path tried : StateM Disk _).run disk = (outcome, after)) :
    after = disk ∧ (outcome = .ok () → tried = .ok () ∨ disk.isFolder path = true) := by
  unfold Files.settleFolder at ran
  split at ran
  · cases ran
    exact ⟨rfl, fun _ => Or.inl rfl⟩
  · cases ran
    exact ⟨rfl, nofun⟩
  · cases ran
    exact ⟨rfl, nofun⟩
  · obtain ⟨there, middle, asked, ran⟩ := run_bind ran
    have answer : (disk.isFolder path, disk) = (there, middle) := asked
    cases answer
    split at ran
    · next there =>
      cases ran
      exact ⟨rfl, fun _ => Or.inr there⟩
    · cases ran
      exact ⟨rfl, nofun⟩

theorem makeFolders_founds
    (ran : (Files.makeFolders path : StateM Disk _).run disk = (outcome, after)) :
    Founds [path] disk after ∧ (outcome = .ok () → after.isFolder path = true) := by
  induction path using Files.makeFolders.induct generalizing disk after outcome with
  | case1 path ih =>
    rw [Files.makeFolders] at ran
    obtain ⟨tried, middle, trial, ran⟩ := run_bind ran
    obtain ⟨first, made⟩ := tryFolder_founds trial
    -- Only if something above is missing are there more attempts: at the parent, and then here again.
    split at ran
    · split at ran
      · cases ran
        exact ⟨first, fun done => by cases done⟩
      · next nested =>
        obtain ⟨above, upper, climb, ran⟩ := run_bind ran
        obtain ⟨parent, _⟩ := ih nested climb
        have reached := first.trans parent.of_parent
        split at ran
        · obtain ⟨tried, last, trial, ran⟩ := run_bind ran
          obtain ⟨again, made⟩ := tryFolder_founds trial
          obtain ⟨rfl, settled⟩ := settleFolder_run ran
          exact ⟨reached.trans again, fun done => (settled done).elim made id⟩
        · cases ran
          exact ⟨reached, fun done => by cases done⟩
    · obtain ⟨rfl, settled⟩ := settleFolder_run ran
      exact ⟨first, fun done => (settled done).elim made id⟩

end Run

end DesignTokens.Proofs.DiskChanges
