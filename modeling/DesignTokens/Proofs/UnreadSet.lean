import DesignTokens.Proofs.OccurringAliases

/-! A set that is new at the end of a tree. Its groups are tried as starting points behind all the
others, so no alias that resolved before leads into it, and a bucket that has its source at the
current place does not look at an older one. A model whose aliases all resolve stays as it is. -/

namespace DesignTokens.Proofs.UnreadSet
open AliasOrbit Likeness ModelTexts OccurringAliases

def withSet (members : Entries Json) (key : String) (value : Json) : Json :=
  .object (members ++ [(key, value)])

/-- The sets of older exports, each with the current place of a bucket that it would fill. -/
def olderSets (setName : String) : Entries (List String) := [
  (Legacy.semanticColor, [setName, "semantic", "color"]),
  (Legacy.primitiveSize, [setName, "primitive", "size-unit"]),
  (Legacy.primitiveSize, [setName, "semantic", "size", "space"]),
  (Legacy.primitiveSize, [setName, "semantic", "size", "border-radius"]),
  (Legacy.primitiveSize, [setName, "semantic", "size", "border-width"]),
  ("." ++ Legacy.primitiveTypography, [setName, "primitive", "typography"]),
  (Legacy.semanticTypography, [setName, "semantic", "typography"])]

/-- The name of a new set that nothing in the tree asks for: no alias starts with it, it makes the tree
no token, and no bucket is filled from it. A set of older exports may have its name if all its buckets
have a group at their current places. -/
structure Unread (setName : String) (members : Entries Json) (key : String) : Prop where
  absent : members.get? key = none
  plain : key ∉ ["value", "$value", "type", "$type"]
  apart : ∀ path, Occurs (.string (aliasText path)) (.object members) →
    ∀ segment ∈ (segments path).head?, Key.loose key ≠ Key.loose segment
  current : key ≠ setName
  primitive : key ∉ ["", "." ++ Legacy.primitiveColor]
  shadowed : ∀ entry ∈ olderSets setName, key = entry.1 →
    (groupAt? (.object members) entry.2).isSome = true

/-- Neither a cycle nor a path that leads nowhere. -/
def Quiet : Note → Prop
  | .cycle _ | .unresolved _ => False
  | .warning _ | .source _ => True

private theorem quiet_of_report {notes : List Note} (cycles : (Report.ofNotes notes).cycles = [])
    (unresolved : (Report.ofNotes notes).unresolved = []) : ∀ note ∈ notes, Quiet note := by
  intro note member
  cases note with
  | cycle path =>
    have listed := (Report.mem_cycles_addAll {} notes path).mpr (Or.inr member)
    change path ∈ (Report.ofNotes notes).cycles at listed
    rw [cycles] at listed
    cases listed
  | unresolved path =>
    have listed := (Report.mem_unresolved_addAll {} notes path).mpr (Or.inr member)
    change path ∈ (Report.ofNotes notes).unresolved at listed
    rw [unresolved] at listed
    cases listed
  | warning text => trivial
  | source keys => trivial

variable {members : Entries Json} {key setName : String} {value : Json}

theorem get_withSet {name : String} (other : name ≠ key) :
    Entries.get? (members ++ [(key, value)]) name = members.get? name := by
  rw [Entries.get?_append, Entries.get?_cons, if_neg (Ne.symm other), Entries.get?_nil, Option.or_none]

private theorem member_withSet {name : String} (other : name ≠ key) :
    (withSet members key value).member name = (Json.object members).member name := by
  rw [Json.member, Json.member, withSet, Json.members, Json.members, get_withSet other]

theorem atPath_withSet {name : String} (other : name ≠ key) (rest : List String) :
    (withSet members key value).atPath (name :: rest) = (Json.object members).atPath (name :: rest) := by
  rw [Json.atPath, Json.atPath, member_withSet other]

theorem groupAt_withSet {name : String} (other : name ≠ key) (rest : List String) :
    groupAt? (withSet members key value) (name :: rest) = groupAt? (.object members) (name :: rest) := by
  rw [groupAt?, groupAt?, atPath_withSet other]

private theorem isToken_withSet (value : Json) (plain : key ∉ ["value", "$value", "type", "$type"]) :
    (withSet members key value).isToken = (Json.object members).isToken := by
  apply Json.isToken_congr
  intro name listed
  have other : name ≠ key := fun same => plain (same ▸ listed)
  rw [Json.has, Json.has, withSet, Json.members, Json.members, get_withSet other]

private theorem child_withSet {segment : String} (apart : Key.loose key ≠ Key.loose segment) :
    child? (members ++ [(key, value)]) segment = child? members segment := by
  have other : segment ≠ key := by
    rintro rfl
    exact apart rfl
  have differs : (Key.loose key == Key.loose segment) = false := beq_false_of_ne apart
  rw [child?, child?, get_withSet other, List.find?_append]
  simp [differs]

private theorem reach_withSet {segment : String} (plain : key ∉ ["value", "$value", "type", "$type"])
    (apart : Key.loose key ≠ Key.loose segment) (rest : List String) :
    reach? (withSet members key value) (segment :: rest) =
      reach? (.object members) (segment :: rest) := by
  rw [reach?, reach?, Json.isGroup, Json.isGroup, isToken_withSet value plain, withSet, Json.members,
    Json.members, child_withSet apart]
  rfl

/-- All groups of the new set come behind the groups that were there. -/
theorem anchors_withSet (members : Entries Json) (value : Json)
    (plain : key ∉ ["value", "$value", "type", "$type"]) :
    ∃ below more, anchors (.object members) = .object members :: below ∧
      anchors (withSet members key value) = withSet members key value :: (below ++ more) := by
  have same : (withSet members key value).isToken = (Json.object members).isToken :=
    isToken_withSet value plain
  rw [withSet] at same ⊢
  rw [anchors, anchors, same]
  split
  · exact ⟨[], [], rfl, rfl⟩
  · exact ⟨anchorsIn members, anchorsIn [(key, value)], rfl, by rw [anchorsIn_append]⟩

private theorem valueAt_withSet {path : String} (unread : Unread setName members key) (value : Json)
    (apart : ∀ segment ∈ (segments path).head?, Key.loose key ≠ Key.loose segment)
    (answers : valueAt (.object members) path ≠ .null) :
    valueAt (withSet members key value) path = valueAt (.object members) path := by
  obtain ⟨segment, rest, spelled⟩ := List.exists_cons_of_ne_nil (segments_ne_nil path)
  rw [spelled] at apart
  have root : reach? (withSet members key value) (segments path) =
      reach? (.object members) (segments path) := by
    rw [spelled]
    exact reach_withSet unread.plain (apart segment rfl) rest
  obtain ⟨below, more, before, after⟩ := anchors_withSet members value unread.plain
  rw [valueAt, before, List.findSome?_cons] at answers
  rw [valueAt, valueAt, before, after, List.findSome?_cons, List.findSome?_cons, root,
    List.findSome?_append]
  generalize (reach? (.object members) (segments path)).bind answer? = first at answers ⊢
  cases first with
  | some found => rfl
  | none =>
    dsimp only at answers ⊢
    cases found : below.findSome? fun anchor => (reach? anchor (segments path)).bind answer? with
    | some found => rfl
    | none =>
      rw [found] at answers
      exact absurd rfl answers

/-- An alias that resolves does so alike, since a chain that ends at a value meets no dead end. -/
theorem resolve_withSet (unread : Unread setName members key) {raw : Json}
    (known : ∀ path, raw = .string (aliasText path) → Occurs raw (.object members))
    (quiet : ∀ note ∈ (resolve (.object members) raw).notes, Quiet note) :
    resolve (withSet members key value) raw = resolve (.object members) raw := by
  cases points : aliasPath? raw with
  | none => simp [resolve, resolveFrom, points]
  | some start =>
    cases aliasPath?_eq_some_iff.mp points
    rcases resolve_cases (.object members) start with
      ⟨last, stops, answers, _⟩ | ⟨path, value, noted⟩
    · apply resolve_congr
      intro path reached
      have occurs := occurs_of_reaches (known start rfl) reached
      apply valueAt_withSet unread value (unread.apart path occurs)
      intro nothing
      have dead : Stops (.object members) start path := ⟨reached, by rw [next?, nothing]; rfl⟩
      cases stops.unique dead
      exact answers nothing
    -- Any other chain leaves a note that is not allowed.
    · rcases noted with resolved | resolved <;>
      · rw [resolved] at quiet
        exact absurd (quiet _ List.mem_cons_self) id

private theorem mirror_withSet (unread : Unread setName members key) (value : Json) :
    Mirror Quiet (.object members) (withSet members key value) (Shared (.object members)) := by
  apply mirror_shared
  intro raw known quiet
  rw [resolve_withSet unread known quiet]
  exact ⟨rfl, rfl⟩

theorem firstGroup_congr {one two : Json} {paths : List (List String)}
    (same : ∀ path ∈ paths, groupAt? one path = groupAt? two path) :
    firstGroup one paths = firstGroup two paths := by
  induction paths with
  | nil => rfl
  | cons path others ih =>
    rw [firstGroup, firstGroup, same path List.mem_cons_self,
      ih fun path member => same path (List.mem_cons_of_mem _ member)]

private theorem groupAt_concat (node : Json) (path : List String) (name : String) :
    groupAt? node (path ++ [name]) = object? ((node.atPath path).member name) := by
  induction path generalizing node with
  | nil => rfl
  | cons key rest ih => exact ih (node.member key)

section Sources

variable (unread : Unread setName members key)
include unread

/-- A set of older exports is another one than the new set, or its bucket is filled from the current
place. -/
theorem Unread.older {place : List String} (name : String)
    (listed : (name, place) ∈ olderSets setName) :
    (groupAt? (.object members) place).isSome = true ∨ name ≠ key := by
  by_cases same : key = name
  · exact Or.inl (unread.shadowed _ listed same)
  · exact Or.inr (Ne.symm same)

/-- Older places count only if there is no group at the current one. -/
theorem firstGroup_withSet {place : List String} {older : List (List String)}
    (rest : (groupAt? (.object members) (setName :: place)).isSome = true ∨
      ∀ path ∈ older, groupAt? (withSet members key value) path = groupAt? (.object members) path) :
    firstGroup (withSet members key value) ((setName :: place) :: older) =
      firstGroup (.object members) ((setName :: place) :: older) := by
  rw [firstGroup, firstGroup, groupAt_withSet (Ne.symm unread.current)]
  cases found : groupAt? (.object members) (setName :: place) with
  | some members => rfl
  | none =>
    rcases rest with present | rest
    · rw [found] at present
      cases present
    · exact firstGroup_congr rest

private theorem subgroup_withSet (place : List String) {name : String}
    (listed : (Legacy.primitiveSize, setName :: place ++ [name]) ∈ olderSets setName) :
    subgroup? name [(withSet members key value).atPath (setName :: place),
        (withSet members key value).member Legacy.primitiveSize] =
      subgroup? name [(Json.object members).atPath (setName :: place),
        (Json.object members).member Legacy.primitiveSize] := by
  rw [atPath_withSet (Ne.symm unread.current)]
  simp only [Mirror.subgroup_cons]
  rcases unread.older _ listed with present | other
  · rw [groupAt_concat] at present
    obtain ⟨found, same⟩ := Option.isSome_iff_exists.mp present
    rw [same, Option.some_or, Option.some_or]
  · rw [member_withSet other]

private theorem primitive_withSet :
    (primitiveColorPaths setName).filterMap (groupAt? (withSet members key value)) =
      (primitiveColorPaths setName).filterMap (groupAt? (.object members)) := by
  have other (name : String) (reserved : name ∈ ["", "." ++ Legacy.primitiveColor]) : name ≠ key :=
    fun same => unread.primitive (same ▸ reserved)
  apply List.filterMap_congr
  intro path listed
  simp only [primitiveColorPaths, List.mem_cons, List.not_mem_nil, or_false] at listed
  rcases listed with rfl | rfl | rfl | rfl
  · exact groupAt_withSet (Ne.symm unread.current) _
  · exact groupAt_withSet (Ne.symm unread.current) _
  · exact groupAt_withSet (other _ (by simp)) _
  · exact groupAt_withSet (other _ (by simp)) _

private theorem scales_withSet :
    firstGroup (withSet members key value) [[setName, "primitive", "typography"],
        ["", Legacy.primitiveTypography], ["." ++ Legacy.primitiveTypography]] =
      firstGroup (.object members) [[setName, "primitive", "typography"],
        ["", Legacy.primitiveTypography], ["." ++ Legacy.primitiveTypography]] := by
  apply firstGroup_withSet unread
  refine (unread.older ("." ++ Legacy.primitiveTypography) (by simp [olderSets])).imp_right ?_
  intro other
  have unnamed : "" ≠ key := fun same => unread.primitive (same ▸ by simp)
  exact List.forall_mem_cons.mpr ⟨groupAt_withSet unnamed _,
    List.forall_mem_singleton.mpr (groupAt_withSet other _)⟩

/-- Both runs find the groups of all buckets at the same places. -/
theorem located_withSet (value : Json) :
    Located Quiet (.object members) (withSet members key value) (Shared (.object members)) setName := by
  have located : Located Quiet (.object members) (.object members) (Shared (.object members)) setName :=
    (mirror_withSet unread value).located ⟨rfl, fun _ => id⟩ setName
  have older (name : String) (place : List String) (listed : (name, setName :: place) ∈ olderSets setName) :
      firstGroup (withSet members key value) [setName :: place, [name]] =
        firstGroup (.object members) [setName :: place, [name]] := by
    apply firstGroup_withSet unread
    refine (unread.older _ listed).imp_right fun other => ?_
    exact List.forall_mem_singleton.mpr (groupAt_withSet other [])
  exact {
    primitive := by
      rw [primitive_withSet unread]
      exact located.primitive
    color := by
      rw [older Legacy.semanticColor ["semantic", "color"] (by simp [olderSets])]
      exact located.color
    unit := by
      rw [subgroup_withSet unread ["primitive"] (by simp [olderSets])]
      exact located.unit
    size := by
      intro name listed
      rw [subgroup_withSet unread ["semantic", "size"]]
      · exact located.size name listed
      · simp only [List.mem_cons, List.not_mem_nil, or_false] at listed
        rcases listed with rfl | rfl | rfl <;> simp [olderSets]
    container := by
      rw [atPath_withSet (Ne.symm unread.current)]
      exact located.container
    scales := by
      rw [scales_withSet unread]
      exact located.scales
    typography := by
      rw [older Legacy.semanticTypography ["semantic", "typography"] (by simp [olderSets])]
      exact located.typography }

end Sources

/-- If all aliases that a run follows resolve, then a further set behind the others that nothing asks
for changes neither the model nor the report. -/
theorem assemble_withSet {options : Options} {model : Model}
    (unread : Unread options.setName members key)
    (built : (assemble options (.object members)).run.value = .ok model)
    (cycles : (assemble options (.object members)).run.report.cycles = [])
    (unresolved : (assemble options (.object members)).run.report.unresolved = []) (value : Json) :
    (assemble options (withSet members key value)).run.value = .ok model ∧
      (assemble options (withSet members key value)).run.report =
        (assemble options (.object members)).run.report := by
  have quiet := quiet_of_report cycles unresolved
  have same := (mirror_withSet unread value).assemble_eq_of_allowed (located_withSet unread value) quiet
  rw [same]
  exact ⟨built, rfl⟩

def current : Entries Json := [("TokenStudio", .object [
  ("primitive", .object [("color", .object [("red", .color "#f00")])]),
  ("semantic", .object [("color", .object [("text", .object [("main", .color "{color.red}")])])])])]

/-- Another colour of the same name, and an alias that leads nowhere. -/
def outdated : Json := .object [
  ("color", .object [("red", .color "#0f0")]), ("text", .object [("old", .color "{gone}")])]

private theorem unread_semanticColor : Unread "TokenStudio" current Legacy.semanticColor where
  absent := by decide
  plain := by decide
  apart := by
    intro path occurs segment first
    simp only [current, Json.color, Json.token, occurs_object_iff, occurs_string_iff, List.mem_cons,
      List.not_mem_nil, or_false, exists_eq_left, exists_eq_or_imp, reduceCtorEq, false_or,
      Json.string.injEq] at occurs
    have points {text : String} (same : aliasText path = text) :
        aliasPath? (.string text) = some path := by
      rw [← same, aliasPath?_aliasText]
    have red : aliasText path = "{color.red}" := by
      rcases occurs with (other | other) | red | other
      · cases points other
      · cases points other
      · exact red
      · cases points other
    cases points red
    cases first
    decide +kernel
  current := by decide
  primitive := by decide
  shadowed := by decide +kernel

theorem assemble_withSet_semanticColor : ∃ model,
    (assemble {} (.object current)).run.value = .ok model ∧
      (model.colors.text.map fun entry => entry.2.display) = ["#f00"] ∧
      (assemble {} (withSet current Legacy.semanticColor outdated)).run.value = .ok model ∧
      (assemble {} (withSet current Legacy.semanticColor outdated)).run.report = {} := by
  have clean : (assemble {} (.object current)).run.report = {} := by decide +kernel
  obtain ⟨model, built, shown⟩ : ∃ model, (assemble {} (.object current)).run.value = .ok model ∧
      (model.colors.text.map fun entry => entry.2.display) = ["#f00"] := ⟨_, rfl, by decide +kernel⟩
  obtain ⟨same, report⟩ := assemble_withSet unread_semanticColor built (by rw [clean]) (by rw [clean]) outdated
  exact ⟨model, built, shown, same, report.trans clean⟩

end DesignTokens.Proofs.UnreadSet
