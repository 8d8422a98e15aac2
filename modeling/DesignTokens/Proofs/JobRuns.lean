import DesignTokens.Disk
import DesignTokens.Sync

/-! Jobs on a disk. A job runs behind some events, and gives a result, more events and another disk. Finding,
loading and building only look at the disk. -/

namespace DesignTokens.Proofs.JobRuns

variable {α β : Type} {before middle after : Disk}

/-- The result of a job on a disk, and the disk behind it. -/
def outcome (job : Job (StateM Disk) α) (disk : Disk) : Except Failure α × Disk :=
  let ended := (job.run.run []).run disk
  (ended.1.1, ended.2)

/-- What a job gives behind some events, and the events and the disk that it leaves. -/
def Runs (job : Job (StateM Disk) α) (events : List Event) (before : Disk) (result : Except Failure α)
    (log : List Event) (after : Disk) : Prop :=
  (job.run.run events).run before = ((result, log), after)

def Ends (job : Job (StateM Disk) α) (before : Disk) (result : Except Failure α) (after : Disk) : Prop :=
  ∃ events log, Runs job events before result log after

theorem ends_of_outcome {job : Job (StateM Disk) α} {result : Except Failure α}
    (ended : outcome job before = (result, after)) : Ends job before result after := by
  cases ended
  exact ⟨[], _, rfl⟩

theorem outcome_of_runs {job : Job (StateM Disk) α} {result : Except Failure α} {log : List Event}
    (runs : Runs job [] before result log after) : outcome job before = (result, after) := by
  rw [Runs] at runs
  rw [outcome, runs]

namespace Runs

variable {first : Job (StateM Disk) α} {next : α → Job (StateM Disk) β} {events log last : List Event}

theorem step {answer : Except Failure α} (runs : Runs first events before answer log middle) :
    ((first >>= next).run.run events).run before = ((ExceptT.bindCont next answer).run log).run middle := by
  change (((first.run >>= ExceptT.bindCont next).run events).run before) = _
  rw [StateT.run_bind, StateT.run_bind, runs]
  rfl

theorem bind {value : α} {result : Except Failure β} (runs : Runs first events before (.ok value) log middle)
    (onward : Runs (next value) log middle result last after) :
    Runs (first >>= next) events before result last after :=
  runs.step.trans onward

theorem bind_error {failure : Failure} (runs : Runs first events before (.error failure) log after) :
    Runs (first >>= next) events before (.error failure) log after :=
  runs.step

end Runs

namespace Ends

theorem pure {value : α} {result : Except Failure α} (ends : Ends (pure value) before result after) :
    result = .ok value ∧ after = before := by
  obtain ⟨events, log, same⟩ := ends
  cases same
  exact ⟨rfl, rfl⟩

theorem record {events : List Event} {result : Except Failure Unit}
    (ends : Ends (Job.record events) before result after) : result = .ok () ∧ after = before := by
  obtain ⟨earlier, log, same⟩ := ends
  cases same
  exact ⟨rfl, rfl⟩

theorem ofExcept {given result : Except Failure α} (ends : Ends (Job.ofExcept given) before result after) :
    result = given ∧ after = before := by
  obtain ⟨events, log, same⟩ := ends
  cases same
  exact ⟨rfl, rfl⟩

theorem ofFiles {action : StateM Disk (Except Failure α)} {result : Except Failure α}
    (ends : Ends (Job.ofFiles action) before result after) : action.run before = (result, after) := by
  obtain ⟨events, log, same⟩ := ends
  cases same
  rfl

theorem bind {first : Job (StateM Disk) α} {next : α → Job (StateM Disk) β} {result : Except Failure β}
    (ends : Ends (first >>= next) before result after) :
    (∃ failure, Ends first before (.error failure) after ∧ result = .error failure) ∨
      ∃ value middle, Ends first before (.ok value) middle ∧ Ends (next value) middle result after := by
  obtain ⟨events, log, same⟩ := ends
  cases ran : (first.run.run events).run before with
  | mk answer middle =>
    obtain ⟨answer, earlier⟩ := answer
    rw [Runs, Runs.step ran] at same
    cases answer with
    | error failure =>
      cases same
      exact Or.inl ⟨failure, ⟨events, _, ran⟩, rfl⟩
    | ok value => exact Or.inr ⟨value, middle, ⟨events, _, ran⟩, earlier, log, same⟩

theorem bind_ok {first : Job (StateM Disk) α} {next : α → Job (StateM Disk) β} {value : β}
    (ends : Ends (first >>= next) before (.ok value) after) :
    ∃ inner middle, Ends first before (.ok inner) middle ∧ Ends (next inner) middle (.ok value) after := by
  obtain ⟨failure, _, failed⟩ | onward := ends.bind
  · cases failed
  · exact onward

end Ends

def Looks (action : StateM Disk α) : Prop :=
  ∀ disk, (action.run disk).2 = disk

namespace Looks

theorem pure (value : α) : Looks (pure value) := by
  intro disk
  rfl

theorem bind {action : StateM Disk α} {next : α → StateM Disk β} (looks : Looks action)
    (onward : ∀ value, Looks (next value)) : Looks (action >>= next) := by
  intro disk
  exact (onward _ _).trans (looks disk)

theorem isThere (path : Path) : Looks (isThere path) := by
  intro disk
  rfl

theorem read (path : Path) : Looks (Files.read path) := by
  intro disk
  rfl

theorem search (first : Path) (candidates : List Path) : Looks (findInput.search first candidates) := by
  induction candidates with
  | nil => exact .pure _
  | cons path rest ih =>
    apply (isThere path).bind
    intro there
    split
    · exact .pure _
    · exact .pure _
    · exact ih

theorem findInput (candidates : List Path) : Looks (findInput candidates) := by
  cases candidates with
  | nil => exact .pure _
  | cons first rest => exact search first (first :: rest)

theorem loadTokens (path : Path) : Looks (loadTokens path) := by
  apply (isThere path).bind
  intro there
  split
  · exact .pure _
  · exact .pure _
  · apply (read path).bind
    intro bytes
    split <;> exact .pure _

end Looks

def chosenInput (settings : Settings) : Option Path → Job (StateM Disk) Path
  | some path => pure path
  | none => Job.ofFiles (findInput settings.candidatePaths)

def buildFrom (settings : Settings) (path : Path) : Job (StateM Disk) (Path × Assembly) := do
  let raw ← Job.ofFiles (loadTokens path)
  Job.record [.loaded raw.members.length path]
  let assembly ← assembleTree settings.options raw
  return (path, assembly)

theorem build_eq (settings : Settings) (input : Option Path) :
    build settings input = chosenInput settings input >>= buildFrom settings := by
  cases input <;> rfl

def ReadsOnly (job : Job (StateM Disk) α) : Prop :=
  ∀ before result after, Ends job before result after → after = before

namespace ReadsOnly

theorem pure (value : α) : ReadsOnly (pure value) := by
  intro before result after ends
  exact ends.pure.2

theorem record (events : List Event) : ReadsOnly (Job.record events) := by
  intro before result after ends
  exact ends.record.2

theorem ofExcept (given : Except Failure α) : ReadsOnly (Job.ofExcept given) := by
  intro before result after ends
  exact ends.ofExcept.2

theorem ofFiles {action : StateM Disk (Except Failure α)} (looks : Looks action) :
    ReadsOnly (Job.ofFiles action) := by
  intro before result after ends
  have same := looks before
  rw [ends.ofFiles] at same
  exact same

theorem bind {first : Job (StateM Disk) α} {next : α → Job (StateM Disk) β} (quiet : ReadsOnly first)
    (onward : ∀ value, ReadsOnly (next value)) : ReadsOnly (first >>= next) := by
  intro before result after ends
  obtain ⟨failure, ends, _⟩ | ⟨value, middle, head, tail⟩ := ends.bind
  · exact quiet _ _ _ ends
  · exact (onward value _ _ _ tail).trans (quiet _ _ _ head)

theorem assembleTree (options : Options) (tree : Json) : ReadsOnly (assembleTree options tree) := by
  apply (record _).bind
  intro _
  apply (ofExcept _).bind
  intro model
  dsimp only
  split
  · exact pure _
  · exact (record _).bind fun _ => pure _

theorem chosenInput (settings : Settings) (input : Option Path) : ReadsOnly (chosenInput settings input) := by
  cases input with
  | none => exact ofFiles (.findInput _)
  | some path => exact pure path

theorem build (settings : Settings) (input : Option Path) : ReadsOnly (build settings input) := by
  rw [build_eq]
  apply (chosenInput settings input).bind
  intro path
  apply (ofFiles (.loadTokens path)).bind
  intro tree
  apply (record _).bind
  intro _
  apply (assembleTree _ _).bind
  intro assembly
  exact pure _

end ReadsOnly

end DesignTokens.Proofs.JobRuns
