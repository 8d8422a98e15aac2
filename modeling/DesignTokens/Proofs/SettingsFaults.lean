import DesignTokens.CommandLine.Run
import DesignTokens.Disk
import DesignTokens.Proofs.Utf8Texts

/-! What becomes of a settings file that is no good. Whatever its bytes are, it gives settings or a
failure of the configuration at its path, if only they are a text. Bytes that are none let another
failure through, and so does a path that no file can have. -/

namespace DesignTokens.Proofs.SettingsFaults
open CommandLine Utf8Texts

variable {disk : Disk} {path root : Path} {bytes : List UInt8}

def Settled (path : Path) : Except Failure Settings → Prop
  | .ok _ => True
  | .error failure => ∃ cause, failure = .config path cause

private theorem settled_mapError (path : Path) (result : Except ConfigCause Settings) :
    Settled path (result.mapError (.config path)) := by
  cases result with
  | ok settings => trivial
  | error cause => exact ⟨cause, rfl⟩

theorem settled_ofBytes_iff : Settled path (Settings.ofBytes path bytes) ↔ IsText bytes := by
  rw [isText_iff, Settings.ofBytes]
  cases decoded : Text.decode bytes with
  | error fault =>
    refine iff_of_false ?_ ?_
    · rintro ⟨cause, ⟨⟩⟩
    · rintro ⟨text, ⟨⟩⟩
  | ok text =>
    refine iff_of_true ?_ ⟨text, rfl⟩
    dsimp only
    cases Toml.parse? (Text.unifyLines text) with
    | none => exact ⟨.notToml, rfl⟩
    | some document => exact settled_mapError path _

def settingsIn (path : Path) : Except FileCause (List UInt8) → Except Failure Settings
  | .error .nullCharacter => .error (.file ⟨.nullCharacter, path⟩)
  | .error cause => .error (.config path (.unreadable ⟨cause, path⟩))
  | .ok bytes => Settings.ofBytes path bytes

/-- On any machine, loading is one look at the file. -/
theorem loadSettings_eq {m : Type → Type} [Monad m] [LawfulMonad m] [Files m] (path : Path) :
    (loadSettings path : m _) = settingsIn path <$> Files.read path := by
  rw [loadSettings, map_eq_pure_bind]
  congr 1
  funext result
  rcases result with (_ | _) | _ <;> rfl

theorem settled_settingsIn_iff {result : Except FileCause (List UInt8)} :
    Settled path (settingsIn path result) ↔
      result ≠ .error .nullCharacter ∧ ∀ bytes, result = .ok bytes → IsText bytes := by
  cases result with
  | ok bytes => simp [settingsIn, settled_ofBytes_iff]
  | error cause =>
    cases cause <;> simp [settingsIn, Settled]

/-- No command answers for what settings may fail with besides. -/
def Unanswered (result : Except Failure Settings) : Prop :=
  ∃ failure, result = .error failure ∧ failure.isAnswered = false

private theorem settled_or_unanswered (path : Path) (result : Except FileCause (List UInt8)) :
    Settled path (settingsIn path result) ∨ Unanswered (settingsIn path result) := by
  cases result with
  | ok bytes =>
    rw [settingsIn, settled_ofBytes_iff, isText_iff]
    cases decoded : Text.decode bytes with
    | ok text => exact Or.inl ⟨text, rfl⟩
    | error fault =>
      refine Or.inr ⟨.encoding fault, ?_, rfl⟩
      rw [Settings.ofBytes, decoded]
      rfl
  | error cause =>
    cases cause with
    | nullCharacter => exact Or.inr ⟨_, rfl, rfl⟩
    | _ => exact Or.inl ⟨_, rfl⟩

/-- A path that a file can have: no null character in it. -/
def Nameable (path : Path) : Prop :=
  ∀ segment ∈ path.segments, '\x00' ∉ segment.toList

/-- The file at a path, if there is one that can be read, is a text. -/
def Legible (disk : Disk) (path : Path) : Prop :=
  ∀ bytes, disk.read path = .ok bytes → IsText bytes

private theorem walk_ne_nullCharacter (disk : Disk) (location : Location) (segments : List String) :
    disk.walk location segments ≠ .error .nullCharacter := by
  induction segments generalizing location with
  | nil => nofun
  | cons segment rest ih =>
    rw [Disk.walk]
    split
    · split
      · nofun
      · exact ih _
    · nofun
    · nofun

theorem locate_eq_nullCharacter_iff (disk : Disk) (path : Path) :
    disk.locate path = .error .nullCharacter ↔ ¬ Nameable path := by
  have nameable : path.segments.any (·.toList.contains '\x00') = true ↔ ¬ Nameable path := by
    simp [Nameable]
  rw [← nameable, Disk.locate]
  split
  next unnameable => exact iff_of_true rfl unnameable
  split
  next named _ => exact iff_of_false nofun named
  next named _ => exact iff_of_false (walk_ne_nullCharacter _ _ _) named

theorem read_ne_nullCharacter_iff : disk.read path ≠ .error .nullCharacter ↔ Nameable path := by
  rw [← Classical.not_not (a := Nameable path), ← locate_eq_nullCharacter_iff disk path, Disk.read_eq]
  cases disk.locate path with
  | error cause => simp
  | ok location =>
    refine iff_of_true ?_ nofun
    dsimp only
    split <;> nofun

private theorem nameable_of_located {location : Location} (located : disk.locate path = .ok location) :
    Nameable path := by
  apply Classical.not_not.mp
  rw [← locate_eq_nullCharacter_iff disk path, located]
  nofun

private theorem legible_of_refused {cause : FileCause} (refused : disk.read path = .error cause) :
    Legible disk path := by
  intro bytes read
  rw [refused] at read
  cases read

def loaded (disk : Disk) (path : Path) : Except Failure Settings :=
  ((loadSettings path : StateM Disk _).run disk).1

def fileIn (root : Path) : Path :=
  root.join (Path.parse settingsFile)

def discovered (disk : Disk) (root : Path) : Except Failure Settings :=
  ((discoverSettings root : StateM Disk _).run disk).1

theorem loadSettings_run (disk : Disk) (path : Path) : (loadSettings path : StateM Disk _).run disk =
    (settingsIn path (disk.read path), disk) := by
  rw [loadSettings_eq]
  rfl

theorem isThere_run (disk : Disk) (path : Path) : (isThere path : StateM Disk _).run disk =
    ((disk.isPresent path).mapError fun cause => .file ⟨cause, path⟩, disk) :=
  rfl

theorem discoverSettings_run (disk : Disk) (root : Path) :
    (discoverSettings root : StateM Disk _).run disk =
      (match disk.isPresent (fileIn root) with
        | .error cause => .error (.file ⟨cause, fileIn root⟩)
        | .ok true => settingsIn (fileIn root) (disk.read (fileIn root))
        | .ok false => .ok { root }, disk) := by
  rw [discoverSettings, StateT.run_bind, isThere_run, ← fileIn]
  rcases disk.isPresent (fileIn root) with cause | (_ | _)
  · rfl
  · rfl
  · exact loadSettings_run disk (fileIn root)

theorem settled_loaded_iff : Settled path (loaded disk path) ↔ Nameable path ∧ Legible disk path := by
  rw [loaded, loadSettings_run, settled_settingsIn_iff, read_ne_nullCharacter_iff, Legible]

/-- A folder without a settings file has the defaults, and whether it has one is a question that only a
name that is too long leaves open. -/
theorem settled_discovered_iff : Settled (fileIn root) (discovered disk root) ↔
    disk.locate (fileIn root) ≠ .error .nameTooLong ∧ Legible disk (fileIn root) := by
  rw [discovered, discoverSettings_run, Disk.isPresent]
  cases located : disk.locate (fileIn root) with
  | ok location =>
    have read := Disk.read_eq disk (fileIn root)
    rw [located] at read
    dsimp only at read ⊢
    cases found : disk.node? location with
    | none =>
      rw [found] at read
      exact iff_of_true trivial ⟨nofun, legible_of_refused read⟩
    | some node =>
      change Settled (fileIn root) (settingsIn (fileIn root) (disk.read (fileIn root))) ↔ _
      rw [settled_settingsIn_iff, read_ne_nullCharacter_iff]
      exact and_congr_left' (iff_of_true (nameable_of_located located) nofun)
  | error cause =>
    have legible : Legible disk (fileIn root) := by
      apply legible_of_refused
      rw [Disk.read_eq, located]
    cases cause with
    | nameTooLong => exact iff_of_false nofun fun named => named.1 rfl
    | _ => exact iff_of_true trivial ⟨nofun, legible⟩

def ran : Command → Request → StateM Disk Outcome
  | .sync, request => runSync request
  | .inspect, request => runInspect request

def refusal (path : Path) (cause : ConfigCause) : Outcome :=
  { exitCode := 1, errors := [failureLine ("❌ " ++ (Failure.config path cause).message)] }

def settingsPath (disk : Disk) (request : Request) : Path :=
  request.config.getD (fileIn (.rooted disk.folder))

/-- A command goes on with settings, or prints a failure of the configuration and leaves the disk as it
is. -/
def Answered (disk : Disk) (command : Command) (request : Request) : Prop :=
  (∃ settings, ((settingsFor request : StateM Disk _).run disk).1 = .ok settings) ∨
    ∃ cause, (ran command request).run disk = (refusal (settingsPath disk request) cause, disk)

/-- A command ends by a failure that it does not answer for, prints nothing, and leaves the disk as it
is. -/
def Escapes (disk : Disk) (command : Command) (request : Request) : Prop :=
  ∃ failure, (ran command request).run disk = ({ exitCode := 1, escaped := some failure }, disk)

variable {command : Command} {request : Request}

def base (disk : Disk) (request : Request) : Except Failure Settings :=
  match request.config with
  | some path => loaded disk path
  | none => discovered disk (.rooted disk.folder)

theorem settingsFor_run (disk : Disk) (request : Request) : ∃ options : Settings → Settings,
    (settingsFor request : StateM Disk _).run disk = ((base disk request).map options, disk) := by
  obtain ⟨config, input, outputDir, unit, timestamp, verbose⟩ := request
  cases config with
  | none =>
    apply Exists.intro
    rw [settingsFor, StateT.run_bind]
    change (StateT.run (discoverSettings (.rooted disk.folder) >>= _) disk : Id _) =
      (Except.map _ (discovered disk _), disk)
    rw [discovered, StateT.run_bind, discoverSettings_run]
    rfl
  | some path =>
    apply Exists.intro
    rw [settingsFor, StateT.run_bind]
    change (StateT.run (loadSettings path >>= _) disk : Id _) =
      (Except.map _ (loaded disk path), disk)
    rw [loaded, StateT.run_bind, loadSettings_run]
    rfl

private theorem settled_or_unanswered_base (disk : Disk) (request : Request) :
    Settled (settingsPath disk request) (base disk request) ∨ Unanswered (base disk request) := by
  rw [settingsPath, base]
  cases request.config with
  | some path =>
    dsimp only
    rw [loaded, loadSettings_run]
    exact settled_or_unanswered path (disk.read path)
  | none =>
    dsimp only
    rw [discovered, discoverSettings_run]
    rcases disk.isPresent (fileIn (.rooted disk.folder)) with cause | (_ | _)
    · exact Or.inr ⟨_, rfl, rfl⟩
    · exact Or.inl trivial
    · exact settled_or_unanswered _ _

private theorem ran_of_error {failure : Failure} (stopped : base disk request = .error failure) :
    ∃ hint, (ran command request).run disk = (failed hint [] [] failure, disk) := by
  obtain ⟨options, settings⟩ := settingsFor_run disk request
  rw [stopped] at settings
  cases command with
  | sync =>
    refine ⟨inputHint, ?_⟩
    rw [ran, runSync, StateT.run_bind, settings]
    rfl
  | inspect =>
    refine ⟨[], ?_⟩
    rw [ran, runInspect, StateT.run_bind, settings]
    rfl

private theorem failed_of_unanswered {failure : Failure} (unanswered : failure.isAnswered = false)
    (hint : List String) : failed hint [] [] failure = { exitCode := 1, escaped := some failure } := by
  cases failure with
  | input path cause => cases unanswered
  | config path cause => cases unanswered
  | _ => rfl

private theorem answered_of_settled (settled : Settled (settingsPath disk request) (base disk request)) :
    Answered disk command request := by
  obtain ⟨options, settings⟩ := settingsFor_run disk request
  cases given : base disk request with
  | ok plain => exact Or.inl ⟨options plain, by rw [settings, given]; rfl⟩
  | error failure =>
    rw [given] at settled
    obtain ⟨cause, rfl⟩ := settled
    obtain ⟨hint, ended⟩ := ran_of_error given
    exact Or.inr ⟨cause, ended⟩

theorem escapes_of_unanswered (unanswered : Unanswered (base disk request)) :
    Escapes disk command request := by
  obtain ⟨failure, stopped, unanswered⟩ := unanswered
  obtain ⟨hint, ended⟩ := ran_of_error stopped
  rw [failed_of_unanswered unanswered] at ended
  exact ⟨failure, ended⟩

theorem answered_iff : Answered disk command request ↔
    Settled (settingsPath disk request) (base disk request) := by
  refine ⟨fun answered => ?_, answered_of_settled⟩
  apply (settled_or_unanswered_base disk request).resolve_right
  intro unanswered
  rcases answered with ⟨settings, given⟩ | ⟨cause, refused⟩
  · obtain ⟨options, same⟩ := settingsFor_run disk request
    obtain ⟨failure, stopped, _⟩ := unanswered
    rw [same, stopped] at given
    cases given
  · obtain ⟨failure, ended⟩ := escapes_of_unanswered unanswered
    rw [ended] at refused
    cases refused

/-- The file that a command takes its settings from is a text, and can be asked for: its path is one that
a file can have if it is given, and not too long if it is looked for in the working folder. -/
def Answerable (disk : Disk) (request : Request) : Prop :=
  Legible disk (settingsPath disk request) ∧
    match request.config with
    | some path => Nameable path
    | none => disk.locate (settingsPath disk request) ≠ .error .nameTooLong

theorem settled_base_iff :
    Settled (settingsPath disk request) (base disk request) ↔ Answerable disk request := by
  rw [Answerable, and_comm, settingsPath, base]
  cases request.config with
  | some path => exact settled_loaded_iff
  | none => exact settled_discovered_iff

/-- Settings or a failure of the configuration come out of every file that is a text, and of every path
that leads to none, but for a null character in it and, where a file is looked for, a name too long to ask
for. Commands print failures of the configuration, and none of the others. -/
theorem settled_iff_legible (disk : Disk) :
    (∀ path, Settled path (loaded disk path) ↔ Nameable path ∧ Legible disk path) ∧
      (∀ root, Settled (fileIn root) (discovered disk root) ↔
        disk.locate (fileIn root) ≠ .error .nameTooLong ∧ Legible disk (fileIn root)) ∧
      ∀ command request, (Answered disk command request ↔ Answerable disk request) ∧
        (Answered disk command request ∨ Escapes disk command request) := by
  refine ⟨fun path => settled_loaded_iff, fun root => settled_discovered_iff, fun command request => ?_⟩
  exact ⟨answered_iff.trans settled_base_iff, (settled_or_unanswered_base disk request).imp
    answered_of_settled escapes_of_unanswered⟩

/-- A settings file that is a comment, with a letter stored as one byte. -/
def latinRemark : Disk where
  nodes := [([], .folder), (["tokensync.toml"], .file [0x23, 0x20, 0xF6])]
  clock := .ofSeconds 0 0

/-- It is no text, so it gives no failure of the configuration, and no command answers for it. -/
theorem latinRemark_escapes :
    loaded latinRemark (Path.parse settingsFile) = .error (.encoding ⟨.start, 0xF6, 2, 1⟩) ∧
      ¬ Settled (Path.parse settingsFile) (loaded latinRemark (Path.parse settingsFile)) ∧
      ∀ command, Escapes latinRemark command ⟨none, none, none, none, none, false⟩ := by
  have failed : loaded latinRemark (Path.parse settingsFile) =
      .error (.encoding ⟨.start, 0xF6, 2, 1⟩) := by
    rfl
  refine ⟨failed, ?_, fun command => ?_⟩
  · rw [failed]
    rintro ⟨cause, ⟨⟩⟩
  · apply escapes_of_unanswered
    exact ⟨.encoding ⟨.start, 0xF6, 2, 1⟩, rfl, rfl⟩

end DesignTokens.Proofs.SettingsFaults
