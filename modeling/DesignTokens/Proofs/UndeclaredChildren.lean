import DesignTokens.Proofs.PresetOrigins

/-! Children of a typography group that have no value of their own. A group makes no presets of them, whatever
weights it has, but a letter spacing at its top does. -/

namespace DesignTokens.Proofs.UndeclaredChildren
open CollectedEntries PresetOrigins

/-- A key that is not one of the two at the top of a group that serve all presets. -/
def Ordinary (key : String) : Prop :=
  key ≠ groupLetterSpacing ∧ key ≠ groupFontWeight

instance (key : String) : Decidable (Ordinary key) :=
  inferInstanceAs (Decidable (_ ∧ _))

variable {tree node : Json} {unit : Option String} {group before after : Entries Json} {key other : String}

private theorem member_without (different : key ≠ other) :
    (Json.object (before ++ (key, node) :: after)).member other = (Json.object (before ++ after)).member other := by
  have found : Entries.get? (before ++ (key, node) :: after) other = Entries.get? (before ++ after) other := by
    rw [Entries.get?_append, Entries.get?_append, Entries.get?_cons, if_neg different]
  exact congrArg (Option.getD · Json.null) found

theorem groupDefaults_congr {group' : Entries Json}
    (spacing : (Json.object group).member groupLetterSpacing = (Json.object group').member groupLetterSpacing)
    (weight : (Json.object group).member groupFontWeight = (Json.object group').member groupFontWeight) :
    groupDefaults tree unit group = groupDefaults tree unit group' := by
  simp only [Json.member, Json.members] at spacing weight
  rw [groupDefaults, groupDefaults, spacing, weight]

private theorem groupDefaults_without (ordinary : Ordinary key) :
    groupDefaults tree unit (before ++ (key, node) :: after) = groupDefaults tree unit (before ++ after) :=
  groupDefaults_congr (member_without ordinary.1) (member_without ordinary.2)

theorem children_append (before after : Entries Json) :
    children (before ++ after) = children before ++ children after :=
  List.filter_append before after

theorem children_cons (ordinary : Ordinary key) (object : node.isObject = true) (after : Entries Json) :
    children ((key, node) :: after) = (key, node) :: children after := by
  have kept : (key == groupLetterSpacing || key == groupFontWeight || !node.isObject) = false := by
    simp [ordinary.1, ordinary.2, object]
  rw [children, List.filter_cons, kept]
  rfl

/-- No token of the child is read. -/
theorem ownPreset_notes (undeclared : isDeclared node = false) : (ownPreset tree unit node).notes = [] := by
  have silent (unit : Option String) (key : String) (listed : key ∈ presetKeys) :
      (dimensionOf? tree unit (node.member key)).notes = [] := by
    rw [dimensionOf?, if_neg (List.any_eq_false.mp undeclared key listed)]
    rfl
  rw [ownPreset]
  simp only [Noted.notes_bind, Noted.notes_pure, silent unit "font size" (by decide),
    silent unit "line height" (by decide), silent unit "letter spacing" (by decide),
    silent none "font weight" (by decide), List.append_nil]

private theorem presets_without (ordinary : Ordinary key) (object : node.isObject = true)
    (undeclared : isDeclared node = false)
    (empty : isFilled (sharedSpacing tree unit (before ++ (key, node) :: after)) = false) :
    presets tree unit (before ++ (key, node) :: after) = presets tree unit (before ++ after) := by
  have made := variants_eq tree unit (before ++ (key, node) :: after) (key, node)
  rw [makesPreset, undeclared, empty, Bool.or_false, if_neg Bool.false_ne_true] at made
  rw [presets_eq, presets_eq, children_append, children_append, children_cons ordinary object,
    List.flatMap_append, List.flatMap_append, List.flatMap_append, List.flatMap_append, List.flatMap_cons,
    List.flatMap_cons, ownPreset_notes undeclared, made, groupDefaults_without ordinary]
  rfl

private theorem names_taken (ordinary : Ordinary key) (object : node.isObject = true)
    (filled : isFilled (sharedSpacing tree unit (before ++ (key, node) :: after)) = true) :
    ∀ source ∈ weightSources (before ++ (key, node) :: after) node,
      (Origin.mk (key, node) source).name ∈
        Entries.keys (presets tree unit (before ++ (key, node) :: after)).value := by
  intro source listed
  have counted : (key, node) ∈ (children (before ++ (key, node) :: after)).filter fun child =>
      makesPreset tree unit (before ++ (key, node) :: after) child.2 := by
    rw [children_append, children_cons ordinary object]
    refine List.mem_filter.mpr ⟨List.mem_append_right _ List.mem_cons_self, ?_⟩
    rw [makesPreset, filled, Bool.or_true]
  have origin : Origin.mk (key, node) source ∈ origins tree unit (before ++ (key, node) :: after) :=
    List.mem_flatMap.mpr ⟨_, counted, List.mem_map_of_mem listed⟩
  rw [presets_value, keys_collected_nil, List.mem_eraseDups, Entries.keys, List.map_map]
  exact List.mem_map.mpr ⟨_, origin, rfl⟩

/-- Without such a child the presets and the notes are the same, unless the group has a letter spacing that
is not empty. There is then a preset under every name that a preset of the child would have. -/
theorem presets_without_undeclared (tree node : Json) (unit : Option String) (before after : Entries Json)
    (key : String) (ordinary : Ordinary key) (object : node.isObject = true)
    (undeclared : isDeclared node = false) :
    let group := before ++ (key, node) :: after
    (isFilled (sharedSpacing tree unit group) = false →
      presets tree unit group = presets tree unit (before ++ after)) ∧
    (isFilled (sharedSpacing tree unit group) = true → ∀ source ∈ weightSources group node,
      (Origin.mk (key, node) source).name ∈ Entries.keys (presets tree unit group).value) :=
  ⟨presets_without ordinary object undeclared, names_taken ordinary object⟩

def remarks : Json :=
  .object [("description", .string "Set in capitals"), ("Mobile", .object [("font size", .dimension "14")])]

def weighted : Entries Json :=
  [("font weight", .object [("Bold", .dimension "700"), ("Thin", .dimension "100")])]

def displayPreset : Entries Json :=
  [("Display", .object [("font size", .dimension "48")])]

def spacing : Entries Json :=
  [("letter spacing", .dimension "-0.5")]

theorem presets_without_undeclared_remarks :
    let noted := weighted ++ ("Notes", remarks) :: displayPreset
    let spaced := (spacing ++ weighted) ++ ("Notes", remarks) :: displayPreset
    isDeclared remarks = false ∧
    isFilled (sharedSpacing (.object noted) "px" noted) = false ∧
    presets (.object noted) "px" noted = presets (.object noted) "px" (weighted ++ displayPreset) ∧
    isFilled (sharedSpacing (.object spaced) "px" spaced) = true ∧
    "notes-bold" ∈ Entries.keys (presets (.object spaced) "px" spaced).value := by
  intro noted spaced
  have ordinary : Ordinary "Notes" := by decide
  have undeclared : isDeclared remarks = false := by decide +kernel
  have empty : isFilled (sharedSpacing (.object noted) "px" noted) = false := by decide +kernel
  have filled : isFilled (sharedSpacing (.object spaced) "px" spaced) = true := by decide +kernel
  refine ⟨undeclared, empty, ?_, filled, ?_⟩
  · exact (presets_without_undeclared _ remarks "px" weighted displayPreset "Notes" ordinary rfl undeclared).1 empty
  · have taken := (presets_without_undeclared (.object spaced) remarks "px" (spacing ++ weighted) displayPreset
      "Notes" ordinary rfl undeclared).2 filled (.several "Bold" (.dimension "700")) List.mem_cons_self
    have name : (Origin.mk ("Notes", remarks) (.several "Bold" (.dimension "700"))).name = "notes-bold" := by
      decide +kernel
    rwa [name] at taken

theorem remarks_become_preset :
    Ordinary "Notes" ∧ isDeclared remarks = false ∧
    (presets (.object []) "px" (spacing ++ ("Notes", remarks) :: displayPreset)).value =
      [("notes", { letterSpacing := "-0.5px" }), ("display", { fontSize := "48px", letterSpacing := "-0.5px" })] ∧
    (presets (.object []) "px" (spacing ++ displayPreset)).value =
      [("display", { fontSize := "48px", letterSpacing := "-0.5px" })] := by
  refine ⟨by decide, by decide +kernel, by decide +kernel, by decide +kernel⟩

end DesignTokens.Proofs.UndeclaredChildren
