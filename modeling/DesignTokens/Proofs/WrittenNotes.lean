import DesignTokens.Session

/-! Writing to a report and taking notes. A session writes to its report at once, where an extraction
on its own takes notes and leaves the report to its caller. Both come to the same: the same outcome,
and a report to which the notes have been added in order, up to the fault if there is one. -/

namespace DesignTokens.Proofs.WrittenNotes
open Session (Reporting Walk Step Outcome)

variable {α β : Type}

/-- Takes all notes first and then writes them to the report. -/
def written (noted : Noted α) : Reporting α :=
  fun report => (noted.value, report.addAll noted.notes)

private theorem written_pure (value : α) : written (pure value) = pure value := rfl

theorem written_bind (first : Noted α) (next : α → Noted β) :
    written (first >>= next) = written first >>= fun value => written (next value) := by
  funext report
  exact congrArg (Prod.mk _) (Report.addAll_append report first.notes _)

private theorem written_map (f : α → β) (noted : Noted α) : written (f <$> noted) = f <$> written noted := by
  funext report
  simp only [written, Noted.notes_map]
  rfl

/-- The same for an extraction: a fault comes with the notes before it. -/
def walked (extraction : Extraction α) : Walk α :=
  .mk (written extraction.run)

theorem walked_bind (first : Extraction α) (next : α → Extraction β) :
    walked (first >>= next) = walked first >>= fun value => walked (next value) := by
  apply ExceptT.ext
  have parts : (first >>= next).run = first.run >>= ExceptT.bindCont next := rfl
  change written (first >>= next).run = written first.run >>= ExceptT.bindCont fun value => walked (next value)
  rw [parts, written_bind]
  congr 1
  funext outcome
  cases outcome with
  | ok value => rfl
  | error fault => rfl

private theorem walked_ofNoted (noted : Noted α) : walked (.ofNoted noted) = .lift (written noted) := rfl

private theorem walked_ofExcept (result : Except TypeFault α) : walked (.ofExcept result) = .mk (pure result) :=
  rfl

private theorem follow_onward {tree : Json} {visited : List String} {path next : String}
    (fresh : path ∉ visited) (found : aliasPath? (valueAt tree path) = some next) :
    follow tree visited path = follow tree (path :: visited) next := by
  rw [follow, if_neg fresh]
  split
  · next other onward =>
    rw [Option.some.inj (found.symm.trans onward)]
  · next ended => cases found.symm.trans ended

private theorem follow_stops {tree : Json} {visited : List String} {path : String}
    (fresh : path ∉ visited) (found : aliasPath? (valueAt tree path) = none) :
    follow tree visited path =
      (if (valueAt tree path).isNull then .unresolved path else .literal (valueAt tree path),
        path :: visited) := by
  rw [follow, if_neg fresh]
  split
  · next other onward => cases found.symm.trans onward
  · rfl

private theorem follow_written (tree : Json) (visited : List String) (path : String) :
    Session.follow tree visited path =
      let ended := follow tree visited path
      written ⟨ended.1.notes, (ended.1.value, ended.2)⟩ := by
  fun_induction Session.follow tree visited path with
  | case1 visited path seen =>
    rw [follow, if_pos seen]
    rfl
  | case2 visited path fresh next found ih => rw [ih, follow_onward fresh found]
  | case3 visited path fresh found value dead =>
    rw [follow_stops fresh found, if_pos dead]
    rfl
  | case4 visited path fresh found value alive =>
    rw [follow_stops fresh found, if_neg alive]
    rfl

private theorem resolveFrom_written (tree : Json) (visited : List String) (value : Json) :
    Session.resolveFrom tree visited value =
      let resolved := resolveFrom tree visited value
      written ⟨resolved.1.notes, (resolved.1.value, resolved.2)⟩ := by
  unfold Session.resolveFrom resolveFrom
  cases aliasPath? value with
  | none => rfl
  | some path => exact follow_written tree visited path

theorem resolve_written (tree value : Json) :
    Session.resolve tree value = written (resolve tree value) := by
  rw [Session.resolve, resolveFrom_written]
  rfl

private theorem resolvedText_written (tree node : Json) :
    Session.resolvedText tree node = written (resolvedText tree node) := by
  rw [Session.resolvedText, resolvedText, written_bind, resolve_written]
  rfl

private theorem resolvedDimension_written (tree : Json) (unit : Option String) (node : Json) :
    Session.resolvedDimension tree unit node = written (resolvedDimension tree unit node) := by
  rw [Session.resolvedDimension, resolvedDimension, written_bind, resolve_written]
  rfl

mutual

private theorem colors_written (tree : Json) : ∀ node, Session.colors tree node = written (colors tree node)
  | .object members => addColors_written tree members []
  | .null | .bool _ | .int _ | .float _ | .string _ | .array _ => rfl
termination_by structural node => node

theorem addColors_written (tree : Json) : ∀ members found,
    Session.addColors tree found members = written (addColors tree found members)
  | [], _ => rfl
  | (key, node) :: rest, found => by
    rw [Session.addColors, addColors]
    split
    · exact addColors_written tree rest found
    · split
      · split
        · rw [written_bind, resolvedText_written]
          congr 1
          funext text
          exact addColors_written tree rest _
        · exact addColors_written tree rest found
      · rw [written_bind, colors_written tree node]
        congr 1
        funext inner
        exact addColors_written tree rest _
termination_by structural members => members

end

mutual

private theorem addGroupDimensions_walked (tree : Json) (unit : Option String) : ∀ node path found,
    Session.addGroupDimensions tree unit path found node =
      walked (addGroupDimensions tree unit path found node)
  | .object members, path, found => addDimensions_walked tree unit members path found
  | .null, _, _ | .bool _, _, _ | .int _, _, _ | .float _, _, _ | .string _, _, _
  | .array _, _, _ => rfl
termination_by structural node => node

theorem addDimensions_walked (tree : Json) (unit : Option String) : ∀ members path found,
    Session.addDimensions tree unit path found members =
      walked (addDimensions tree unit path found members)
  | [], _, _ => rfl
  | (key, node) :: rest, path, found => by
    rw [Session.addDimensions, addDimensions]
    split
    · exact addDimensions_walked tree unit rest path found
    · dsimp only
      split
      · rw [walked_bind, walked_ofExcept]
        congr 1
        funext dimension
        split
        · rw [walked_bind, walked_ofNoted, resolvedDimension_written]
          congr 1
          funext text
          exact addDimensions_walked tree unit rest path _
        · exact addDimensions_walked tree unit rest path found
      · rw [walked_bind, addGroupDimensions_walked tree unit node]
        congr 1
        funext found
        exact addDimensions_walked tree unit rest path found
termination_by structural members => members

end

theorem dimensionOf_written (tree : Json) (unit : Option String) (node : Json) :
    Session.dimensionOf? tree unit node = written (dimensionOf? tree unit node) := by
  unfold Session.dimensionOf? dimensionOf?
  split
  · rw [resolvedDimension_written, written_map]
  · rfl

private theorem tokenDimensions_written (tree : Json) (unit : Option String)
    (members : List (String × Json)) :
    Session.tokenDimensions tree unit members = written (tokenDimensions tree unit members) := by
  induction members with
  | nil => rfl
  | cons member rest ih =>
    rw [Session.tokenDimensions, tokenDimensions, dimensionOf_written, ih, written_bind]
    congr 1
    funext text
    rw [written_bind]
    rfl

private theorem groupDefaults_written (tree : Json) (unit : Option String) (group : Entries Json) :
    Session.groupDefaults tree unit group = written (groupDefaults tree unit group) := by
  unfold Session.groupDefaults groupDefaults
  simp only [dimensionOf_written, tokenDimensions_written, written_bind]
  split <;> simp only [written_bind, written_pure]

private theorem ownPreset_written (tree : Json) (unit : Option String) (node : Json) :
    Session.ownPreset tree unit node = written (ownPreset tree unit node) := by
  unfold Session.ownPreset ownPreset
  simp only [dimensionOf_written, written_bind, written_pure]

private theorem addPresets_written (tree : Json) (unit : Option String) (defaults : GroupDefaults)
    (found : Entries Preset) (members : List (String × Json)) :
    Session.addPresets tree unit defaults found members =
      written (addPresets tree unit defaults found members) := by
  induction members generalizing found with
  | nil => rfl
  | cons member rest ih =>
    rw [Session.addPresets, addPresets]
    split
    · exact ih found
    · rw [written_bind, ownPreset_written]
      congr 1
      funext own
      exact ih _

private theorem presets_written (tree : Json) (unit : Option String) (group : Entries Json) :
    Session.presets tree unit group = written (presets tree unit group) := by
  unfold Session.presets presets
  simp only [groupDefaults_written, addPresets_written, written_bind]

def stepNoted : Step → Noted Outcome
  | .warning text => ⟨[.warning text], .ok .nothing⟩
  | .cycle path => ⟨[.cycle path], .ok .nothing⟩
  | .unresolved path => ⟨[.unresolved path], .ok .nothing⟩
  | .resolve tree value visited =>
    let resolved := resolveFrom tree visited value
    ⟨resolved.1.notes, .ok (.value resolved.1.value resolved.2)⟩
  | .colors tree group => do return .ok (.colors (← addColors tree [] group))
  | .dimensions tree unit group => do
    return (← (dimensions tree unit group).run).map .dimensions
  | .typography tree unit group => do return .ok (.typography (← presets tree unit group))

theorem perform_written (step : Step) : step.perform = written (stepNoted step) := by
  cases step with
  | warning text => rfl
  | cycle path => rfl
  | unresolved path => rfl
  | resolve tree value visited =>
    rw [Step.perform, resolveFrom_written]
    rfl
  | colors tree group =>
    rw [Step.perform, stepNoted, written_bind, addColors_written]
    rfl
  | dimensions tree unit group =>
    rw [Step.perform, stepNoted, written_bind, addDimensions_walked]
    rfl
  | typography tree unit group =>
    rw [Step.perform, stepNoted, written_bind, presets_written]
    rfl

end DesignTokens.Proofs.WrittenNotes
