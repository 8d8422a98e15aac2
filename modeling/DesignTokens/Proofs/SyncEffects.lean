import DesignTokens.Proofs.DiskChanges
import DesignTokens.Proofs.JobRuns
import DesignTokens.Proofs.SharedCharacters

/-! What a run leaves on a disk. The input is found, read and transformed before anything changes. Then
come the folders, the constant and the stylesheet, in this order, and each of them may be refused. A file
whose text has no bytes is left empty. -/

namespace DesignTokens.Proofs.SyncEffects
open DiskChanges JobRuns SharedCharacters

variable {before middle after : Disk}

def Builds (settings : Settings) (input : Option Path) (disk : Disk) (path : Path) (model : Model) : Prop :=
  (input = some path ∨
    input = none ∧ ((findInput settings.candidatePaths : StateM Disk _).run disk).1 = .ok path) ∧
  ∃ tree, ((loadTokens path : StateM Disk _).run disk).1 = .ok tree ∧
    (assemble settings.options tree).run.value = .ok model

variable {settings : Settings} {input : Option Path} {path : Path} {assembly : Assembly}

private theorem assembleTree_model {options : Options} {tree : Json}
    (ends : Ends (assembleTree options tree) before (.ok assembly) after) :
    (assemble options tree).run.value = .ok assembly.model := by
  obtain ⟨_, _, _, ends⟩ := ends.bind_ok
  obtain ⟨model, _, built, ends⟩ := ends.bind_ok
  have same : assembly.model = model := by
    dsimp only at ends
    split at ends
    · cases ends.pure.1
      rfl
    · obtain ⟨_, _, _, ends⟩ := ends.bind_ok
      cases ends.pure.1
      rfl
  have value := built.ofExcept.1
  rw [same]
  change .ok model = (assemble options tree).run.value.mapError Failure.type at value
  cases assembled : (assemble options tree).run.value with
  | error fault =>
    rw [assembled] at value
    cases value
  | ok built =>
    rw [assembled] at value
    cases value
    rfl

private theorem chosenInput_choice (ends : Ends (chosenInput settings input) before (.ok path) after) :
    input = some path ∨
      input = none ∧ ((findInput settings.candidatePaths : StateM Disk _).run before).1 = .ok path := by
  cases input with
  | none => exact Or.inr ⟨rfl, congrArg Prod.fst ends.ofFiles⟩
  | some given =>
    cases ends.pure.1
    exact Or.inl rfl

private theorem build_builds (ends : Ends (build settings input) before (.ok (path, assembly)) after) :
    Builds settings input before path assembly.model := by
  rw [build_eq] at ends
  obtain ⟨chosen, middle, choice, ends⟩ := ends.bind_ok
  cases ReadsOnly.chosenInput _ _ _ _ _ choice
  obtain ⟨tree, _, loaded, ends⟩ := ends.bind_ok
  obtain ⟨_, _, _, ends⟩ := ends.bind_ok
  obtain ⟨_, _, assembled, ends⟩ := ends.bind_ok
  cases ends.pure.1
  exact ⟨chosenInput_choice choice, tree, congrArg Prod.fst loaded.ofFiles, assembleTree_model assembled⟩

theorem makeFolderFor_ends {result : Except Failure Unit}
    (ends : Ends (makeFolderFor path) before result after) :
    Founds [path.parent] before after ∧ (result = .ok () → after.isFolder path.parent = true) := by
  obtain ⟨made, ran, rfl⟩ := run_map ends.ofFiles
  obtain ⟨founds, isFolder⟩ := makeFolders_founds ran
  cases made with
  | error fault => exact ⟨founds, nofun⟩
  | ok done => exact ⟨founds, fun _ => isFolder rfl⟩

private theorem writeBytes_failed {bytes : List UInt8} {failure : Failure}
    (failed : Ends (writeBytes path bytes) before (.error failure) after) :
    ∃ cause, before.write path bytes = .error cause ∧ failure = .file ⟨cause, path⟩ ∧ after = before := by
  obtain ⟨tried, ran, mapped⟩ := run_map failed.ofFiles
  obtain ⟨cause, refused, rfl, rfl⟩ | ⟨_, rfl⟩ := commit_cases ran
  · cases mapped
    exact ⟨cause, refused, rfl, rfl⟩
  · cases mapped

private theorem writeBytes_done {bytes : List UInt8}
    (done : Ends (writeBytes path bytes) before (.ok ()) after) :
    before.write path bytes = .ok after := by
  obtain ⟨tried, ran, mapped⟩ := run_map done.ofFiles
  obtain ⟨cause, _, rfl, _⟩ | ⟨written, _⟩ := commit_cases ran
  · cases mapped
  · exact written

/-- How the writing of a text ends. -/
inductive WritesText (path : Path) (text : String) (before : Disk) : Except Failure Unit → Disk → Prop
  | refused {cause : FileCause} (refused : ∀ bytes, before.write path bytes = .error cause) :
    WritesText path text before (.error (.file ⟨cause, path⟩)) before
  /-- The text has no bytes, and the file is open already. -/
  | emptied {fault : Text.EncodeFault} {after : Disk} (faulty : Text.encode? before.isHalf text = .error fault)
    (opened : before.write path [] = .ok after) : WritesText path text before (.error (.unencodable fault)) after
  | written {after : Disk} (whole : ∀ c ∈ text.toList, before.isHalf c = false)
    (written : before.write path (Text.encode text) = .ok after) : WritesText path text before (.ok ()) after

theorem writeText_writes {text : String} {result : Except Failure Unit}
    (ends : Ends (writeText path text) before result after) : WritesText path text before result after := by
  obtain ⟨failure, failed, rfl⟩ | ⟨isHalf, middle, asked, ends⟩ := ends.bind
  · cases failed.ofFiles
  cases asked.ofFiles
  cases encoded : Text.encode? before.isHalf text with
  | error fault =>
    rw [encoded] at ends
    obtain ⟨failure, failed, rfl⟩ | ⟨_, middle, opened, thrown⟩ := ends.bind
    · obtain ⟨cause, refused, rfl, rfl⟩ := writeBytes_failed failed
      exact .refused (write_refused refused)
    · obtain ⟨rfl, rfl⟩ := thrown.ofExcept
      exact .emptied encoded (writeBytes_done opened)
  | ok bytes =>
    rw [encoded] at ends
    obtain ⟨whole, rfl⟩ := Text.encode?_eq_ok_iff.mp encoded
    obtain ⟨failure, failed, rfl⟩ | ⟨_, middle, wrote, recorded⟩ := ends.bind
    · obtain ⟨cause, refused, rfl, rfl⟩ := writeBytes_failed failed
      exact .refused (write_refused refused)
    · obtain ⟨rfl, rfl⟩ := recorded.record
      exact .written whole (writeBytes_done wrote)

private theorem writeBytes_runs (path : Path) (bytes : List UInt8) (events : List Event) (disk : Disk) :
    Runs (writeBytes path bytes) events disk
      ((disk.commit (disk.write path bytes)).1.mapError fun cause => .file ⟨cause, path⟩) events
      (disk.commit (disk.write path bytes)).2 :=
  rfl

theorem WritesText.runs {text : String} {result : Except Failure Unit}
    (writes : WritesText path text before result after) (events : List Event) :
    ∃ log, Runs (writeText path text) events before result log after := by
  have asked : Runs (Job.ofFiles (.ok <$> Files.isHalf)) events before (.ok before.isHalf) events before := rfl
  have wrote (bytes : List UInt8) := writeBytes_runs path bytes events before
  cases writes with
  | refused refused =>
    refine ⟨events, asked.bind ?_⟩
    cases Text.encode? before.isHalf text with
    | error fault =>
      have failed := wrote []
      rw [refused] at failed
      exact failed.bind_error
    | ok bytes =>
      have failed := wrote bytes
      rw [refused] at failed
      exact failed.bind_error
  | emptied faulty opened =>
    refine ⟨events, asked.bind ?_⟩
    rw [faulty]
    have done := wrote []
    rw [opened] at done
    exact done.bind rfl
  | written whole written =>
    refine ⟨events ++ [.wrote path], asked.bind ?_⟩
    rw [Text.encode?_eq_ok_iff.mpr ⟨whole, rfl⟩]
    have done := wrote (Text.encode text)
    rw [written] at done
    exact done.bind rfl

/-- How far the writing of the artifacts gets. -/
inductive Writes (model : Model) (css ts : Path) (stamp : String) (before : Disk) :
    Except Failure Unit → Disk → Prop
  | stopped {failure : Failure} {made : Disk} (founds : Founds [css.parent, ts.parent] before made) :
    Writes model css ts stamp before (.error failure) made
  /-- The file of the constant is open when the constant turns out to have no bytes. -/
  | emptied {fault : Text.EncodeFault} {made opened : Disk} (founds : Founds [css.parent, ts.parent] before made)
    (faulty : Text.encode? before.isHalf (TypeScript.render model stamp) = .error fault)
    (first : made.write ts [] = .ok opened) : Writes model css ts stamp before (.error (.unencodable fault)) opened
  /-- The stylesheet is refused when the constant is written already. -/
  | half {cause : FileCause} {made written : Disk} (founds : Founds [css.parent, ts.parent] before made)
    (first : made.write ts (Text.encode (TypeScript.render model stamp)) = .ok written)
    (refused : written.write css (Text.encode (Stylesheet.render model stamp)) = .error cause) :
    Writes model css ts stamp before (.error (.file ⟨cause, css⟩)) written
  | both {made written after : Disk} (founds : Founds [css.parent, ts.parent] before made)
    (css_folder : made.isFolder css.parent = true) (ts_folder : made.isFolder ts.parent = true)
    (first : made.write ts (Text.encode (TypeScript.render model stamp)) = .ok written)
    (last : written.write css (Text.encode (Stylesheet.render model stamp)) = .ok after) :
    Writes model css ts stamp before (.ok ()) after

theorem wide_of_isHalf {disk : Disk} {c : Char} (half : disk.isHalf c = true) : 128 ≤ c.toNat := by
  obtain ⟨standIn, _⟩ := Bool.and_eq_true_iff.mp half
  simp only [Text.isStandIn, Bool.and_eq_true, decide_eq_true_eq] at standIn
  omega

/-- A stylesheet has bytes if the constant of its model has. -/
theorem stylesheet_whole {disk : Disk} {model : Model} {stamp : String}
    (whole : ∀ c ∈ (TypeScript.render model stamp).toList, disk.isHalf c = false) :
    ∀ c ∈ (Stylesheet.render model stamp).toList, disk.isHalf c = false := by
  intro c inside
  cases half : disk.isHalf c with
  | false => rfl
  | true => exact half.symm.trans (whole c (mem_constant_of_mem_stylesheet (wide_of_isHalf half) inside))

private theorem writeArtifacts_writes {model : Model} {css ts : Path} {stamp : String}
    {result : Except Failure Unit}
    (ends : Ends (writeArtifacts model css ts stamp) before result after) :
    Writes model css ts stamp before result after := by
  -- Each part may stop the job, and only the last two of them stop it behind a file that has changed.
  have css_within : [css.parent] ⊆ [css.parent, ts.parent] := by simp
  have ts_within : [ts.parent] ⊆ [css.parent, ts.parent] := by simp
  obtain ⟨failure, css_made, rfl⟩ | ⟨_, first, css_made, ends⟩ := ends.bind
  · exact .stopped ((makeFolderFor_ends css_made).1.mono css_within)
  obtain ⟨css_founds, css_folder⟩ := makeFolderFor_ends css_made
  obtain ⟨failure, ts_made, rfl⟩ | ⟨_, made, ts_made, ends⟩ := ends.bind
  · exact .stopped ((css_founds.mono css_within).trans ((makeFolderFor_ends ts_made).1.mono ts_within))
  obtain ⟨ts_founds, ts_folder⟩ := makeFolderFor_ends ts_made
  have founds := (css_founds.mono css_within).trans (ts_founds.mono ts_within)
  obtain ⟨failure, ts_wrote, rfl⟩ | ⟨_, written, ts_wrote, ends⟩ := ends.bind
  · cases writeText_writes ts_wrote with
    | refused => exact .stopped founds
    | emptied faulty opened => exact .emptied founds (founds.keepsFolders.isHalf ▸ faulty) opened
  cases writeText_writes ts_wrote with | written ts_whole ts_written =>
  cases writeText_writes ends with
  | refused refused => exact .half founds ts_written (refused _)
  | emptied faulty =>
    obtain ⟨_, _, _, rfl⟩ := write_ok_iff.mp ts_written
    cases faulty.symm.trans (Text.encode?_eq_ok_iff.mpr ⟨stylesheet_whole ts_whole, rfl⟩)
  | written _ css_written =>
    exact .both founds (ts_founds.keepsFolders.isFolder (css_folder rfl)) (ts_folder rfl) ts_written css_written

def stampAt (asked : Option String) (clock : Calendar.Moment) : String :=
  if (asked.getD "").isEmpty then clock.isoText else asked.getD ""

private theorem stampOr_ends {asked : Option String} {result : Except Failure String}
    (ends : Ends (stampOr asked) before result after) :
    result = .ok (stampAt asked before.clock) ∧ after = before := by
  unfold stampOr at ends
  dsimp only at ends
  rw [stampAt]
  split at ends
  · next empty =>
    obtain ⟨events, log, same⟩ := ends
    cases same
    exact ⟨congrArg _ (if_pos empty).symm, rfl⟩
  · next given =>
    rw [if_neg given]
    exact ends.pure

private theorem sync_ends {asked : Option String} {result : Except Failure SyncResult}
    (ends : Ends (sync settings input asked) before result after) :
    (∃ failure, result = .error failure ∧ after = before) ∨
    ∃ path assembly written, Builds settings input before path assembly.model ∧
      Writes assembly.model settings.cssPath settings.tsPath (stampAt asked before.clock) before written after ∧
      result = written.map fun _ => ⟨path, settings.cssPath, settings.tsPath, assembly⟩ := by
  have quiet := ReadsOnly.build settings input
  obtain ⟨failure, failed, rfl⟩ | ⟨⟨path, assembly⟩, middle, built, ends⟩ := ends.bind
  · exact Or.inl ⟨failure, rfl, quiet _ _ _ failed⟩
  cases quiet _ _ _ built
  have builds := build_builds built
  obtain ⟨_, failed, _⟩ | ⟨stamp, middle, stamped, ends⟩ := ends.bind
  · cases (stampOr_ends failed).1
  obtain ⟨same, rfl⟩ := stampOr_ends stamped
  cases same
  right
  obtain ⟨failure, failed, rfl⟩ | ⟨done, last, wrote, ends⟩ := ends.bind
  · exact ⟨path, assembly, _, builds, writeArtifacts_writes failed, rfl⟩
  obtain ⟨rfl, rfl⟩ := ends.pure
  exact ⟨path, assembly, _, builds, writeArtifacts_writes wrote, rfl⟩

section Forward

variable {model : Model} {css ts : Path} {stamp : String} {log : List Event} {made opened : Disk}

private theorem writeArtifacts_runs {result : Except Failure Unit}
    (css_made : Runs (makeFolderFor css) log before (.ok ()) log made)
    (ts_made : Runs (makeFolderFor ts) log made (.ok ()) log opened)
    (constant : WritesText ts (TypeScript.render model stamp) opened (.ok ()) middle)
    (stylesheet : WritesText css (Stylesheet.render model stamp) middle result after) :
    ∃ last, Runs (writeArtifacts model css ts stamp) log before result last after := by
  obtain ⟨behind, wrote⟩ := constant.runs log
  obtain ⟨last, ended⟩ := stylesheet.runs behind
  exact ⟨last, css_made.bind (ts_made.bind (wrote.bind ended))⟩

end Forward

/-- A run that builds its model is that of writing the artifacts. -/
theorem outcome_of_writes {stamp : String} {log last : List Event} {result : Except Failure Unit}
    (given : stamp ≠ "") (built : Runs (build settings input) [] before (.ok (path, assembly)) log before)
    (wrote : Runs (writeArtifacts assembly.model settings.cssPath settings.tsPath stamp) log before result last
      after) :
    outcome (sync settings input (some stamp)) before =
      (result.map fun _ => ⟨path, settings.cssPath, settings.tsPath, assembly⟩, after) := by
  have stamped : Runs (stampOr (some stamp)) log before (.ok stamp) log before := by
    unfold stampOr
    dsimp only
    rw [Option.getD_some, if_neg (by simpa using given)]
    rfl
  cases result with
  | error failure => exact outcome_of_runs (built.bind (stamped.bind wrote.bind_error))
  | ok done => exact outcome_of_runs (built.bind (stamped.bind (wrote.bind rfl)))

def cssFile : Path := .relative ["src", "styles", "design-tokens.css"]

def tsFile : Path := .relative ["src", "styles", "design-tokens.ts"]

def tsPlace : Location := ["src", "styles", "design-tokens.ts"]

private theorem empty_whole (disk : Disk) : ∀ c ∈ (TypeScript.render {} "T").toList, disk.isHalf c = false := by
  have written : Within (fun _ => False) ({} : Model).literal.render := by
    have plain : (Json.write 0 ({} : Model).literal).all (·.toNat < 128) = true := by decide +kernel
    exact of_ascii (by rwa [Json.render, String.toList_ofList])
  have stamped : Within (fun _ => False) "T" := of_ascii (by decide)
  intro c inside
  cases half : disk.isHalf c with
  | false => rfl
  | true => exact (constant_within stamped written c inside (wide_of_isHalf half)).elim

/-- The artifacts are written into folders that are there. All that is new besides are folders on the
way to them. -/
structure Artifacts (model : Model) (css ts : Path) (stamp : String) (before after : Disk)
    (cssPlace tsPlace : Location) : Prop where
  css_located : after.locate css = .ok cssPlace
  ts_located : after.locate ts = .ok tsPlace
  css_written : after.node? cssPlace = some (.file (Text.encode (Stylesheet.render model stamp)))
  ts_written : tsPlace ≠ cssPlace →
    after.node? tsPlace = some (.file (Text.encode (TypeScript.render model stamp)))
  css_folders : Passable after css.parent
  ts_folders : Passable after ts.parent
  others : ∀ place, place ≠ cssPlace → place ≠ tsPlace → after.node? place = before.node? place ∨
    before.node? place = none ∧ after.node? place = some .folder ∧
      (Passes after css.parent place ∨ Passes after ts.parent place)
  folder : after.folder = before.folder
  clock : after.clock = before.clock
  isAssigned : after.isAssigned = before.isAssigned

private theorem writes_artifacts {model : Model} {css ts : Path} {stamp : String}
    (writes : Writes model css ts stamp before (.ok ()) after) :
    ∃ cssPlace tsPlace, Artifacts model css ts stamp before after cssPlace tsPlace := by
  cases writes with
  | @both made _ _ founds css_folder ts_folder first last =>
    obtain ⟨tsPlace, ts_located, ts_free, rfl⟩ := write_ok_iff.mp first
    obtain ⟨cssPlace, css_located, css_free, rfl⟩ := write_ok_iff.mp last
    have ts_keeps := keepsFolders_set (.file (Text.encode (TypeScript.render model stamp))) ts_free
    have css_keeps := keepsFolders_set (.file (Text.encode (Stylesheet.render model stamp))) css_free
    have keeps := ts_keeps.trans css_keeps
    refine ⟨cssPlace, tsPlace, ?_⟩
    constructor
    case css_located => exact css_keeps.locate css_located
    case ts_located => exact keeps.locate ts_located
    case css_written => exact Disk.node?_set_self _ cssPlace _
    case ts_written =>
      intro other
      rw [Disk.node?_set_of_ne other, Disk.node?_set_self]
    case css_folders => exact passable_of_isFolder (keeps.isFolder css_folder)
    case ts_folders => exact passable_of_isFolder (keeps.isFolder ts_folder)
    case others =>
      intro place not_css not_ts
      rw [Disk.node?_set_of_ne not_css, Disk.node?_set_of_ne not_ts]
      rcases founds.nodes place with same | ⟨absent, there, path, member, passes⟩
      · exact Or.inl same
      · have passed := keeps.passes passes
        simp only [List.mem_cons, List.not_mem_nil, or_false] at member
        rcases member with rfl | rfl
        · exact Or.inr ⟨absent, there, Or.inl passed⟩
        · exact Or.inr ⟨absent, there, Or.inr passed⟩
    case folder => exact keeps.folder.trans founds.folder
    case clock => exact keeps.clock.trans founds.clock
    case isAssigned => exact keeps.isAssigned.trans founds.isAssigned

/-- Building leaves the disk as it is. A run that ends well writes the artifacts of the model that is
built from its input as that was before, and makes nothing but their folders. -/
theorem sync_writes_artifacts (settings : Settings) (input : Option Path) {stamp : String}
    (given : stamp ≠ "") (before : Disk) :
    (outcome (build settings input) before).2 = before ∧
    ∀ result after, outcome (sync settings input (some stamp)) before = (.ok result, after) →
      Builds settings input before result.input result.assembly.model ∧
      ∃ cssPlace tsPlace, Artifacts result.assembly.model settings.cssPath settings.tsPath stamp
        before after cssPlace tsPlace := by
  constructor
  · exact ReadsOnly.build settings input _ _ _ (ends_of_outcome rfl)
  · intro result after done
    obtain ⟨_, impossible, _⟩ | ⟨path, assembly, written, builds, writes, same⟩ :=
      sync_ends (ends_of_outcome done)
    · cases impossible
    · have asked : stampAt (some stamp) before.clock = stamp := by
        rw [stampAt, Option.getD_some, if_neg (by simpa using given)]
      rw [asked] at writes
      cases written with
      | error failure => cases same
      | ok written =>
        cases same
        exact ⟨builds, writes_artifacts writes⟩

def project : Disk where
  nodes := [([], .folder), (["tokens.json"], .file (Text.encode "\x7b\x7d"))]
  clock := .ofSeconds 0 0

private theorem sync_project :
    ∃ result after, outcome (sync { root := .here } none (some "T")) project = (.ok result, after) := by
  let made := (project.set ["src"] .folder).set ["src", "styles"] .folder
  obtain ⟨log, built⟩ : ∃ log, Runs (build { root := .here } none) [] project
      (.ok (.relative ["tokens.json"], ⟨{}, {}⟩)) log project := ⟨_, by with_unfolding_all rfl⟩
  have css_made : Runs (makeFolderFor cssFile) log project (.ok ()) log made := by with_unfolding_all rfl
  have ts_made : Runs (makeFolderFor tsFile) log made (.ok ()) log made := by with_unfolding_all rfl
  have written (bytes : List UInt8) : made.write tsFile bytes = .ok (made.set tsPlace (.file bytes)) := by
    with_unfolding_all rfl
  have finished (bytes others : List UInt8) : (made.set tsPlace (.file bytes)).write cssFile others =
      .ok ((made.set tsPlace (.file bytes)).set ["src", "styles", "design-tokens.css"] (.file others)) := by
    with_unfolding_all rfl
  obtain ⟨last, wrote⟩ := writeArtifacts_runs css_made ts_made (.written (empty_whole _) (written _))
    (.written (stylesheet_whole (empty_whole _)) (finished _ _))
  exact ⟨_, _, outcome_of_writes (by decide) built wrote⟩

theorem sync_writes_artifacts_project : ∃ result after cssPlace tsPlace,
    outcome (sync { root := .here } none (some "T")) project = (.ok result, after) ∧
    Builds { root := .here } none project result.input result.assembly.model ∧
    Artifacts result.assembly.model cssFile tsFile "T" project after cssPlace tsPlace := by
  obtain ⟨result, after, done⟩ := sync_project
  obtain ⟨builds, cssPlace, tsPlace, artifacts⟩ :=
    (sync_writes_artifacts { root := .here } none (by decide) project).2 result after done
  exact ⟨result, after, cssPlace, tsPlace, done, builds, artifacts⟩

end DesignTokens.Proofs.SyncEffects
