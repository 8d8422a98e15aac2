import DesignTokens.Proofs.WrittenNotes

/-! Steps that share a report. A step never looks at what the report holds already: it gives the
same outcome as with a report of its own, and what it would write there is merged into the shared
one, free texts behind the others and paths unless they are listed. So the report of a session is
the ordered merge of the reports of its steps. -/

namespace DesignTokens.Proofs.SharedReport
open Session (Step Outcome)
open WrittenNotes

private theorem mem_foldl_addNew {entries more : List String} {entry : String} :
    entry ∈ more.foldl addNew entries ↔ entry ∈ entries ∨ entry ∈ more := by
  induction more generalizing entries with
  | nil => simp
  | cons first rest ih => rw [List.foldl_cons, ih, Report.mem_addNew, List.mem_cons, or_assoc]

theorem nodup_addNew {entries : List String} (distinct : entries.Nodup) (entry : String) :
    (addNew entries entry).Nodup := by
  unfold addNew
  split
  · exact distinct
  · next fresh =>
    refine List.nodup_append.mpr ⟨distinct, by simp, ?_⟩
    intro other listed last single same
    rw [same, List.mem_singleton.mp single] at listed
    exact fresh (List.contains_iff_mem.mpr listed)

theorem nodup_foldl_addNew {entries : List String} (distinct : entries.Nodup) (more : List String) :
    (more.foldl addNew entries).Nodup := by
  induction more generalizing entries with
  | nil => exact distinct
  | cons first rest ih => exact ih (nodup_addNew distinct first)

private theorem prefix_addNew (entries : List String) (entry : String) : entries <+: addNew entries entry := by
  unfold addNew
  split
  · exact List.prefix_rfl
  · exact List.prefix_append _ _

private theorem prefix_foldl_addNew (entries more : List String) : entries <+: more.foldl addNew entries := by
  induction more generalizing entries with
  | nil => exact List.prefix_rfl
  | cons first rest ih => exact (prefix_addNew entries first).trans (ih _)

/-- An entry is new to a list and the entries added to it, or it is in one of the two. -/
theorem foldl_addNew_addNew (entries more : List String) (entry : String) :
    (addNew more entry).foldl addNew entries = addNew (more.foldl addNew entries) entry := by
  rw [addNew]
  split
  · next listed =>
    have present : entry ∈ more.foldl addNew entries :=
      mem_foldl_addNew.mpr (.inr (List.contains_iff_mem.mp listed))
    rw [addNew, if_pos (List.contains_iff_mem.mpr present)]
  · rw [List.foldl_append]
    rfl

private theorem eraseDups_concat (entries : List String) (entry : String) :
    (entries ++ [entry]).eraseDups = addNew entries.eraseDups entry := by
  rw [List.eraseDups_append, addNew]
  by_cases listed : entry ∈ entries
  · simp [List.removeAll, listed]
  · simp [List.removeAll, listed, List.eraseDups_cons]

theorem foldl_addNew_eraseDups (before more : List String) :
    more.foldl addNew before.eraseDups = (before ++ more).eraseDups := by
  induction more generalizing before with
  | nil => rw [List.append_nil, List.foldl_nil]
  | cons first rest ih =>
    rw [List.foldl_cons, ← eraseDups_concat, ih, List.append_assoc, List.singleton_append]

/-- The entries of a second report behind those of the first, a path only where it is new. -/
def merge (first second : Report) : Report where
  warnings := first.warnings ++ second.warnings
  cycles := second.cycles.foldl addNew first.cycles
  unresolved := second.unresolved.foldl addNew first.unresolved

private theorem merge_empty (report : Report) : merge report {} = report := by
  simp [merge]

private theorem merge_add (first second : Report) (note : Note) :
    merge first (second.add note) = (merge first second).add note := by
  cases note with
  | warning text => simp [merge, Report.add]
  | cycle path => simp [merge, Report.add, foldl_addNew_addNew]
  | unresolved path => simp [merge, Report.add, foldl_addNew_addNew]
  | source keys => rfl

private theorem merge_addAll (first second : Report) (notes : List Note) :
    merge first (second.addAll notes) = (merge first second).addAll notes := by
  induction notes generalizing second with
  | nil => rfl
  | cons note rest ih => exact (ih _).trans (congrArg (Report.addAll · rest) (merge_add ..))

private theorem addAll_eq_merge (report : Report) (notes : List Note) :
    report.addAll notes = merge report (.ofNotes notes) := by
  rw [Report.ofNotes, merge_addAll, merge_empty]

/-- Every list of a report starts with what it was before. -/
structure Grows (before after : Report) : Prop where
  warnings : before.warnings <+: after.warnings
  cycles : before.cycles <+: after.cycles
  unresolved : before.unresolved <+: after.unresolved

theorem Grows.refl (report : Report) : Grows report report :=
  ⟨List.prefix_rfl, List.prefix_rfl, List.prefix_rfl⟩

theorem Grows.trans {first second third : Report} (one : Grows first second)
    (two : Grows second third) : Grows first third :=
  ⟨one.warnings.trans two.warnings, one.cycles.trans two.cycles,
    one.unresolved.trans two.unresolved⟩

private theorem grows_merge (first second : Report) : Grows first (merge first second) where
  warnings := List.prefix_append _ _
  cycles := prefix_foldl_addNew _ _
  unresolved := prefix_foldl_addNew _ _

/-- No path is listed twice, and there is a warning of every cycle. -/
structure Sound (report : Report) : Prop where
  cycles : report.cycles.Nodup
  unresolved : report.unresolved.Nodup
  warned : ∀ path ∈ report.cycles, cycleWarning path ∈ report.warnings

theorem Sound.empty : Sound {} :=
  ⟨List.nodup_nil, List.nodup_nil, by simp⟩

theorem Sound.add {report : Report} (sound : Sound report) (note : Note) :
    Sound (report.add note) := by
  cases note with
  | warning text =>
    refine ⟨sound.cycles, sound.unresolved, ?_⟩
    intro path listed
    exact List.mem_append_left _ (sound.warned path listed)
  | cycle path =>
    refine ⟨nodup_addNew sound.cycles path, sound.unresolved, ?_⟩
    intro other listed
    rcases Report.mem_addNew.mp listed with before | rfl
    · exact List.mem_append_left _ (sound.warned other before)
    · exact List.mem_append_right _ (List.mem_singleton_self _)
  | unresolved path => exact ⟨sound.cycles, nodup_addNew sound.unresolved path, sound.warned⟩
  | source keys => exact sound

theorem Sound.addAll {report : Report} (sound : Sound report) (notes : List Note) :
    Sound (report.addAll notes) := by
  induction notes generalizing report with
  | nil => exact sound
  | cons note rest ih => exact ih (sound.add note)

/-- Issues are seen by the warnings and the dead ends alone, since no cycle goes without a warning. -/
theorem Sound.hasIssues_iff {report : Report} (sound : Sound report) :
    report.hasIssues = true ↔
      report.warnings ≠ [] ∨ report.cycles ≠ [] ∨ report.unresolved ≠ [] := by
  have warned : report.cycles ≠ [] → report.warnings ≠ [] := by
    intro cyclic
    obtain ⟨path, listed⟩ := List.exists_mem_of_ne_nil _ cyclic
    exact List.ne_nil_of_mem (sound.warned path listed)
  simp only [Report.hasIssues, Bool.or_eq_true, Bool.not_eq_true', List.isEmpty_eq_false_iff]
  rw [← or_assoc, or_iff_left_of_imp warned]

def alone (step : Step) : Outcome × Report :=
  step.perform.run {}

/-- What a shared report holds does not matter to a step, which only merges its own report into it. -/
theorem perform_run (step : Step) (report : Report) :
    step.perform.run report = ((alone step).1, merge report (alone step).2) := by
  rw [alone, perform_written]
  exact congrArg (Prod.mk _) (addAll_eq_merge report (stepNoted step).notes)

private theorem perform_sound (step : Step) {report : Report} (sound : Sound report) :
    Sound (step.perform.run report).2 := by
  rw [perform_written]
  exact sound.addAll (stepNoted step).notes

private theorem perform_grows (step : Step) (report : Report) :
    Grows report (step.perform.run report).2 := by
  rw [perform_run]
  exact grows_merge ..

theorem run_cons (step : Step) (rest : List Step) (report : Report) :
    (Session.run (step :: rest)).run report =
      let performed := step.perform.run report
      let later := (Session.run rest).run performed.2
      (performed :: later.1, later.2) := rfl

/-- The report after some steps is the merge of their own reports. -/
theorem run_report (steps : List Step) (report : Report) :
    ((Session.run steps).run report).2 =
      steps.foldl (fun report step => merge report (alone step).2) report := by
  induction steps generalizing report with
  | nil => rfl
  | cons step rest ih => rw [run_cons, List.foldl_cons, ih, perform_run]

private theorem run_outcomes (steps : List Step) (report : Report) :
    ((Session.run steps).run report).1.map Prod.fst = steps.map fun step => (alone step).1 := by
  induction steps generalizing report with
  | nil => rfl
  | cons step rest ih => rw [run_cons, List.map_cons, List.map_cons, ih, perform_run]

def reports (session : List (Outcome × Report) × Report) : List Report :=
  session.1.map Prod.snd ++ [session.2]

theorem run_reports_cons (step : Step) (rest : List Step) (report : Report) :
    reports ((Session.run (step :: rest)).run report) =
      (step.perform.run report).2 :: reports ((Session.run rest).run (step.perform.run report).2) :=
  rfl

private theorem run_sound (steps : List Step) {report : Report} (sound : Sound report) :
    ∀ later ∈ reports ((Session.run steps).run report), Sound later := by
  induction steps generalizing report with
  | nil =>
    intro later member
    cases List.mem_singleton.mp member
    exact sound
  | cons step rest ih =>
    intro later member
    rw [run_reports_cons] at member
    have next := perform_sound step sound
    rcases List.mem_cons.mp member with rfl | behind
    · exact next
    · exact ih next later behind

private theorem run_grows_from (steps : List Step) (report : Report) :
    ∀ later ∈ reports ((Session.run steps).run report), Grows report later := by
  induction steps generalizing report with
  | nil =>
    intro later member
    cases List.mem_singleton.mp member
    exact .refl report
  | cons step rest ih =>
    intro later member
    rw [run_reports_cons] at member
    have next := perform_grows step report
    rcases List.mem_cons.mp member with rfl | behind
    · exact next
    · exact next.trans (ih _ later behind)

private theorem run_grows (steps : List Step) (report : Report) :
    (reports ((Session.run steps).run report)).Pairwise Grows := by
  induction steps generalizing report with
  | nil => exact List.pairwise_singleton _ _
  | cons step rest ih =>
    rw [run_reports_cons]
    exact .cons (run_grows_from rest _) (ih _)

private theorem foldl_merge_warnings (steps : List Step) (report : Report) :
    (steps.foldl (fun report step => merge report (alone step).2) report).warnings =
      report.warnings ++ steps.flatMap fun step => (alone step).2.warnings := by
  induction steps generalizing report with
  | nil => exact (List.append_nil _).symm
  | cons step rest ih => rw [List.foldl_cons, ih, List.flatMap_cons, ← List.append_assoc, merge]

/-- A list of paths that is merged without repetitions has the first of all equal paths in the end. -/
theorem foldl_merge_paths {paths : Report → List String}
    (merges : ∀ first second, paths (merge first second) = (paths second).foldl addNew (paths first))
    (steps : List Step) (report : Report) :
    paths (steps.foldl (fun report step => merge report (alone step).2) report) =
      (steps.flatMap fun step => paths (alone step).2).foldl addNew (paths report) := by
  induction steps generalizing report with
  | nil => rfl
  | cons step rest ih => rw [List.foldl_cons, ih, merges, List.flatMap_cons, List.foldl_append]

/-- A session, with the outcome and the report after every step and the last report, does what its
steps do with reports of their own, and its report is the ordered merge of those. -/
structure OrderedMerge (steps : List Step) (session : List (Outcome × Report) × Report) : Prop where
  outcomes : session.1.map Prod.fst = steps.map fun step => (alone step).1
  warnings : session.2.warnings = steps.flatMap fun step => (alone step).2.warnings
  cycles : session.2.cycles = (steps.flatMap fun step => (alone step).2.cycles).eraseDups
  unresolved : session.2.unresolved = (steps.flatMap fun step => (alone step).2.unresolved).eraseDups
  /-- Nothing is removed or moved on the way. -/
  kept : (reports session).Pairwise Grows
  distinct : ∀ report ∈ reports session, report.cycles.Nodup ∧ report.unresolved.Nodup
  warned : ∀ report ∈ reports session, ∀ path ∈ report.cycles,
    "Circular reference detected: " ++ path ∈ report.warnings
  issues : ∀ report ∈ reports session, report.hasIssues = true ↔
    report.warnings ≠ [] ∨ report.cycles ≠ [] ∨ report.unresolved ≠ []

theorem run_orderedMerge (steps : List Step) : OrderedMerge steps ((Session.run steps).run {}) := by
  have sound := run_sound steps .empty
  have first_of_each (entries : List String) : entries.foldl addNew [] = entries.eraseDups :=
    foldl_addNew_eraseDups [] entries
  constructor
  case outcomes => exact run_outcomes steps {}
  case warnings =>
    rw [run_report, foldl_merge_warnings]
    exact List.nil_append _
  case cycles =>
    have merged := foldl_merge_paths (fun _ _ => rfl : ∀ first second,
      (merge first second).cycles = second.cycles.foldl addNew first.cycles) steps {}
    rw [run_report, merged]
    exact first_of_each _
  case unresolved =>
    have merged := foldl_merge_paths (fun _ _ => rfl : ∀ first second,
      (merge first second).unresolved = second.unresolved.foldl addNew first.unresolved) steps {}
    rw [run_report, merged]
    exact first_of_each _
  case kept => exact run_grows steps {}
  case distinct =>
    intro report member
    exact ⟨(sound report member).cycles, (sound report member).unresolved⟩
  case warned =>
    intro report member
    exact (sound report member).warned
  case issues =>
    intro report member
    exact (sound report member).hasIssues_iff

/-- The first step stops at the type of its second token and leaves the dead end of the first. A cycle
is warned of as often as it is met. -/
example :
    let group : Entries Json := [("a", .token "number" (.string "{b}")),
      ("c", .object [("value", .int 1), ("type", .array [])])]
    ((Session.run [.dimensions .null none group, .cycle "d", .unresolved "b", .cycle "d"]).run {}).2 =
      { warnings := [cycleWarning "d", cycleWarning "d"], cycles := ["d"], unresolved := ["b"] } := by
  decide +kernel

end DesignTokens.Proofs.SharedReport
