import DesignTokens.Proofs.OccurringAliases

/-! The name of the set of current exports. It is a key of the root, so it shows to whoever looks for a
set by name and to paths that start with it, and to nothing else. A tree whose set is renamed is read
like the old one, as long as no alias starts with either name. -/

namespace DesignTokens.Proofs.SetNames
open AliasOrbit Likeness ModelTexts OccurringAliases

def renamed (setName newName : String) (members : Entries Json) : Entries Json :=
  members.map fun entry => if entry.1 = setName then (newName, entry.2) else entry

/-- The keys of the root under which older exports have their sets. -/
def olderNames : List String := [
  "", "." ++ Legacy.primitiveColor, Legacy.semanticColor, Legacy.primitiveSize,
  "." ++ Legacy.primitiveTypography, Legacy.semanticTypography]

/-- A name that means nothing but the current set: older exports have no set of this name, it makes the
root no token, and no alias of the tree starts with it. -/
structure Neutral (members : Entries Json) (name : String) : Prop where
  current : name ∉ olderNames
  plain : name ∉ ["value", "$value", "type", "$type"]
  apart : ∀ path, Occurs (.string (aliasText path)) (.object members) →
    ∀ segment ∈ (segments path).head?, Key.loose name ≠ Key.loose segment

structure Renames (members : Entries Json) (setName newName : String) : Prop where
  absent : newName ∉ members.keys
  old : Neutral members setName
  new : Neutral members newName

variable {members : Entries Json} {setName newName : String}

theorem get_renamed {name : String} (old : name ≠ setName) (new : name ≠ newName) :
    (renamed setName newName members).get? name = members.get? name := by
  induction members with
  | nil => rfl
  | cons entry rest ih =>
    obtain ⟨key, value⟩ := entry
    rw [renamed, List.map_cons, ← renamed]
    split
    · next same =>
      have same : key = setName := same
      rw [Entries.get?_cons, Entries.get?_cons, if_neg (Ne.symm new), if_neg (same ▸ Ne.symm old), ih]
    · rw [Entries.get?_cons, Entries.get?_cons, ih]

private theorem get_renamed_set (absent : newName ∉ members.keys) :
    (renamed setName newName members).get? newName = members.get? setName := by
  induction members with
  | nil => rfl
  | cons entry rest ih =>
    obtain ⟨key, value⟩ := entry
    obtain ⟨other, absent⟩ := not_or.mp (fun member => absent (List.mem_cons.mpr member))
    rw [renamed, List.map_cons, ← renamed]
    split
    · next same => rw [Entries.get?_cons, Entries.get?_cons, if_pos rfl, if_pos same]
    · next different =>
      rw [Entries.get?_cons, Entries.get?_cons, if_neg (Ne.symm other), if_neg different, ih absent]

private theorem anchorsIn_renamed : anchorsIn (renamed setName newName members) = anchorsIn members := by
  induction members with
  | nil => rfl
  | cons entry rest ih =>
    rw [renamed, List.map_cons, ← renamed]
    split
    · rw [anchorsIn, anchorsIn, ih]
    · rw [anchorsIn, anchorsIn, ih]

private theorem find_renamed {segment : String} (old : Key.loose setName ≠ Key.loose segment)
    (new : Key.loose newName ≠ Key.loose segment) :
    ((renamed setName newName members).find? fun entry => Key.loose entry.1 == Key.loose segment) =
      members.find? fun entry => Key.loose entry.1 == Key.loose segment := by
  induction members with
  | nil => rfl
  | cons entry rest ih =>
    rw [renamed, List.map_cons, ← renamed]
    split
    · next same => rw [List.find?_cons_of_neg (by simpa using new),
        List.find?_cons_of_neg (by simpa [same] using old), ih]
    · rw [List.find?_cons, List.find?_cons, ih]

section Renames

variable (renames : Renames members setName newName)
include renames

private theorem isToken_renamed :
    (Json.object (renamed setName newName members)).isToken = (Json.object members).isToken := by
  apply Json.isToken_congr
  intro name listed
  have old : name ≠ setName := fun same => renames.old.plain (same ▸ listed)
  have new : name ≠ newName := fun same => renames.new.plain (same ▸ listed)
  rw [Json.has, Json.has, Json.members, Json.members, get_renamed old new]

private theorem isGroup_renamed :
    (Json.object (renamed setName newName members)).isGroup = (Json.object members).isGroup := by
  rw [Json.isGroup, Json.isGroup, isToken_renamed renames]
  rfl

omit renames in
/-- Neither name is the key of such a segment, be it exactly or loosely. -/
theorem child_renamed {segment : String} (old : Key.loose setName ≠ Key.loose segment)
    (new : Key.loose newName ≠ Key.loose segment) :
    child? (renamed setName newName members) segment = child? members segment := by
  have other_old : segment ≠ setName := fun same => old (same ▸ rfl)
  have other_new : segment ≠ newName := fun same => new (same ▸ rfl)
  rw [child?, child?, get_renamed other_old other_new, find_renamed old new]

private theorem reach_renamed {segment : String} (old : Key.loose setName ≠ Key.loose segment)
    (new : Key.loose newName ≠ Key.loose segment) (rest : List String) :
    reach? (.object (renamed setName newName members)) (segment :: rest) =
      reach? (.object members) (segment :: rest) := by
  rw [reach?, reach?, isGroup_renamed renames, Json.members, Json.members, child_renamed old new]

/-- The groups of the set are where they were, and the root comes before all of them. -/
theorem valueAt_renamed {path : String}
    (occurs : Occurs (.string (aliasText path)) (.object members)) :
    valueAt (.object (renamed setName newName members)) path = valueAt (.object members) path := by
  obtain ⟨segment, rest, spelled⟩ := List.exists_cons_of_ne_nil (segments_ne_nil path)
  have first : segment ∈ (segments path).head? := by simp [spelled]
  have root := reach_renamed renames (renames.old.apart path occurs segment first)
    (renames.new.apart path occurs segment first) rest
  rw [valueAt, valueAt, anchors, anchors, isToken_renamed renames, anchorsIn_renamed,
    List.findSome?_cons, List.findSome?_cons, spelled, root]

private theorem resolve_renamed {raw : Json}
    (known : ∀ path, raw = .string (aliasText path) → Occurs raw (.object members)) :
    resolve (.object (renamed setName newName members)) raw = resolve (.object members) raw := by
  cases points : aliasPath? raw with
  | none => simp [resolve, resolveFrom, points]
  | some start =>
    cases aliasPath?_eq_some_iff.mp points
    apply resolve_congr
    intro path reached
    exact valueAt_renamed renames (occurs_of_reaches (known start rfl) reached)

theorem mirror_renamed : Mirror (fun _ => True) (.object members)
    (.object (renamed setName newName members)) (Shared (.object members)) := by
  apply mirror_shared
  intro raw known
  exact .of_eq (resolve_renamed renames known).symm

theorem atPath_set (rest : List String) :
    (Json.object (renamed setName newName members)).atPath (newName :: rest) =
      (Json.object members).atPath (setName :: rest) := by
  rw [Json.atPath, Json.atPath, Json.member, Json.member, Json.members, Json.members,
    get_renamed_set renames.absent]

private theorem member_older {name : String} (listed : name ∈ olderNames) :
    (Json.object (renamed setName newName members)).member name = (Json.object members).member name := by
  have old : name ≠ setName := fun same => renames.old.current (same ▸ listed)
  have new : name ≠ newName := fun same => renames.new.current (same ▸ listed)
  rw [Json.member, Json.member, Json.members, Json.members, get_renamed old new]

theorem groupAt_set (rest : List String) :
    groupAt? (.object (renamed setName newName members)) (newName :: rest) =
      groupAt? (.object members) (setName :: rest) := by
  rw [groupAt?, groupAt?, atPath_set renames]

theorem groupAt_older {name : String} (listed : name ∈ olderNames) (rest : List String) :
    groupAt? (.object (renamed setName newName members)) (name :: rest) =
      groupAt? (.object members) (name :: rest) := by
  rw [groupAt?, groupAt?, Json.atPath, Json.atPath, member_older renames listed]

private theorem primitive_renamed :
    (primitiveColorPaths newName).filterMap (groupAt? (.object (renamed setName newName members))) =
      (primitiveColorPaths setName).filterMap (groupAt? (.object members)) := by
  have unnamed := groupAt_older renames (List.mem_cons_self : "" ∈ olderNames) [Legacy.primitiveColor]
  have dotted := groupAt_older renames (show "." ++ Legacy.primitiveColor ∈ olderNames by simp [olderNames]) []
  rw [primitiveColorPaths, primitiveColorPaths, List.filterMap_cons, List.filterMap_cons,
    List.filterMap_cons, List.filterMap_cons, groupAt_set renames, groupAt_set renames, unnamed, dotted]
  rfl

private theorem subgroup_renamed (key : String) (rest : List String) :
    subgroup? key [(Json.object (renamed setName newName members)).atPath (newName :: rest),
        (Json.object (renamed setName newName members)).member Legacy.primitiveSize] =
      subgroup? key [(Json.object members).atPath (setName :: rest),
        (Json.object members).member Legacy.primitiveSize] := by
  rw [atPath_set renames, member_older renames (by simp [olderNames])]

omit renames in
private theorem firstGroup_value (raw : Json) (paths : List (List String)) :
    (firstGroup raw paths).value = paths.findSome? (groupAt? raw) := by
  induction paths with
  | nil => rfl
  | cons path others ih =>
    rw [firstGroup, List.findSome?_cons]
    cases groupAt? raw path with
    | none => exact ih
    | some members => rfl

omit renames in
private theorem firstGroup_report (raw : Json) (paths : List (List String)) (report : Report) :
    report.addAll (firstGroup raw paths).notes = report := by
  induction paths with
  | nil => rfl
  | cons path others ih =>
    rw [firstGroup]
    cases groupAt? raw path with
    | none => exact ih
    | some members => rfl

/-- The current place of a bucket moves with the set, and its older places stay. Only the notes tell
where the group was found, and no report does. -/
theorem firstGroup_renamed (place : List String) {older : List (List String)}
    (listed : ∀ path ∈ older, ∃ name ∈ olderNames, ∃ rest, path = name :: rest) :
    Linked SameReport (fun _ => True) (Sources (Shared (.object members)))
      (firstGroup (.object members) ((setName :: place) :: older))
      (firstGroup (.object (renamed setName newName members)) ((newName :: place) :: older)) := by
  have related : Shared (.object members) (.object members) (.object members) := ⟨rfl, fun _ => id⟩
  have itself := (mirror_renamed renames).firstGroup_together related ((setName :: place) :: older)
  have same : older.findSome? (groupAt? (.object (renamed setName newName members))) =
      older.findSome? (groupAt? (.object members)) := by
    apply findSome_congr
    intro path member
    obtain ⟨name, old, rest, rfl⟩ := listed path member
    exact groupAt_older renames old rest
  intro noted
  refine ⟨fun report => by rw [firstGroup_report, firstGroup_report], ?_⟩
  rw [firstGroup_value (.object (renamed setName newName members)), List.findSome?_cons,
    groupAt_set renames, same, ← List.findSome?_cons, ← firstGroup_value]
  exact (itself noted).2

private theorem placed_renamed : Placed SameReport (fun _ => True) (.object members)
    (.object (renamed setName newName members)) (Shared (.object members)) setName newName := by
  have located := (mirror_renamed renames).located (⟨rfl, fun _ => id⟩ : Shared (.object members) _ _) setName
  exact {
    primitive := by
      rw [primitive_renamed renames]
      exact located.primitive
    color := by
      apply firstGroup_renamed renames
      simp [olderNames]
    unit := by
      rw [subgroup_renamed renames]
      exact located.unit
    size := by
      intro key listed
      rw [subgroup_renamed renames]
      exact located.size key listed
    container := by
      rw [atPath_set renames]
      exact located.container
    scales := by
      apply firstGroup_renamed renames
      simp [olderNames]
    typography := by
      apply firstGroup_renamed renames
      simp [olderNames] }

end Renames

/-- A tree whose set has another name has the same model and the same report, or fails alike, if the run
is told the new name. -/
theorem assemble_renamed (renames : Renames members setName newName) (unit : Option String) :
    let before := (assemble { unit, setName } (.object members)).run
    let after := (assemble { unit, setName := newName } (.object (renamed setName newName members))).run
    after.value = before.value ∧ after.report = before.report := by
  intro before after
  have aligned := (mirror_renamed renames).assemble_aligned (.same unit) (placed_renamed renames)
  obtain ⟨reports, outcomes⟩ := aligned fun _ _ => trivial
  exact ⟨(outcomes.imp ModelLike.eq).eq.symm, reports {}⟩

def exported : Entries Json := [("Set", .object [
  ("color", .object [("red", .color "#f00")]),
  ("semantic", .object [("color", .object [("text", .object [
    ("main", .color "{color.red}"), ("old", .color "{gone}")])])])])]

private theorem neutral_exported {name : String} (current : name ∉ olderNames)
    (plain : name ∉ ["value", "$value", "type", "$type"])
    (color : Key.loose name ≠ Key.loose "color") (gone : Key.loose name ≠ Key.loose "gone") :
    Neutral exported name where
  current := current
  plain := plain
  apart := by
    intro path occurs segment first
    simp only [exported, Json.color, Json.token, occurs_object_iff, occurs_string_iff, List.mem_cons,
      List.not_mem_nil, or_false, exists_eq_left, exists_eq_or_imp, reduceCtorEq, false_or,
      Json.string.injEq] at occurs
    have points {text : String} (same : aliasText path = text) :
        aliasPath? (.string text) = some path := by
      rw [← same, aliasPath?_aliasText]
    rcases occurs with (other | other) | (red | other) | dead | other
    · cases points other
    · cases points other
    · cases points red
      cases first
      exact color
    · cases points other
    · cases points dead
      cases first
      exact gone
    · cases points other

private theorem renames_exported : Renames exported "Set" "Core" where
  absent := by decide
  old := neutral_exported (by decide) (by decide) (by decide +kernel) (by decide +kernel)
  new := neutral_exported (by decide) (by decide) (by decide +kernel) (by decide +kernel)

theorem assemble_renamed_exported : ∃ model,
    (assemble { setName := "Set" } (.object exported)).run.value = .ok model ∧
      (model.colors.text.map fun entry => entry.2.display) = ["#f00", "{gone}"] ∧
      (assemble { setName := "Core" } (.object (renamed "Set" "Core" exported))).run.value = .ok model ∧
      (assemble { setName := "Core" } (.object (renamed "Set" "Core" exported))).run.report =
        { unresolved := ["gone"] } := by
  obtain ⟨model, built, shown⟩ : ∃ model,
      (assemble { setName := "Set" } (.object exported)).run.value = .ok model ∧
        (model.colors.text.map fun entry => entry.2.display) = ["#f00", "{gone}"] :=
    ⟨_, rfl, by decide +kernel⟩
  have noted : (assemble { setName := "Set" } (.object exported)).run.report =
      { unresolved := ["gone"] } := by decide +kernel
  obtain ⟨same, reports⟩ := assemble_renamed renames_exported (some "px")
  exact ⟨model, built, shown, same.trans built, reports.trans noted⟩

end DesignTokens.Proofs.SetNames
