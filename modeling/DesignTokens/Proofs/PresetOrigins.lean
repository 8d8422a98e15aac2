import DesignTokens.Extract.Typography
import DesignTokens.Proofs.CollectedEntries

/-! Where the presets of a typography group come from. Each comes from one child of the group: it has the
sizes of that child, and what the child has no value for comes from the top of the group. A child without a
weight of its own stands for as many presets as the group has weights. -/

namespace DesignTokens.Proofs.PresetOrigins
open CollectedEntries

def formatted (tree : Json) (unit : Option String) (token : Json) : String :=
  formatDimension unit (resolve tree token.rawValue).value

/-- A token as a formatted value; nothing else has one. -/
def formatted? (tree : Json) (unit : Option String) (node : Json) : Option String :=
  if node.isToken then some (formatted tree unit node) else none

/-- The objects in a group, but for its two entries that serve all presets. -/
def children (group : Entries Json) : Entries Json :=
  group.filter fun child =>
    !(child.1 == groupLetterSpacing || child.1 == groupFontWeight || !child.2.isObject)

def sharedSpacing (tree : Json) (unit : Option String) (group : Entries Json) : Option String :=
  formatted? tree unit ((Json.object group).member groupLetterSpacing)

def sharedWeight (tree : Json) (group : Entries Json) : Option String :=
  formatted? tree none ((Json.object group).member groupFontWeight)

def weights (group : Entries Json) : Entries Json :=
  let weight := (Json.object group).member groupFontWeight
  if weight.isGroup then weight.members.filter fun entry => entry.2.isToken else []

def presetKeys : List String := ["font size", "line height", "letter spacing", "font weight"]

def isDeclared (node : Json) : Bool :=
  presetKeys.any fun key => (node.member key).isToken

def hasOwnWeight (node : Json) : Bool :=
  (node.member "font weight").isToken

/-- Where a preset has its weight from: its child, the single weight of the group if there is one, or one
of several weights. -/
inductive WeightSource where
  | own
  | single
  | several (name : String) (token : Json)

def weightSources (group : Entries Json) (node : Json) : List WeightSource :=
  if hasOwnWeight node then [.own]
  else if (weights group).isEmpty then [.single]
  else (weights group).map fun weight => .several weight.1 weight.2

structure Origin where
  child : String × Json
  weight : WeightSource

/-- The presets that some children of a group stand for, child by child. -/
def originsOf (group : Entries Json) (presets : Entries Json) : List Origin :=
  presets.flatMap fun child => (weightSources group child.2).map (Origin.mk child)

/-- A child makes presets if it has a value of its own, or has one from the letter spacing of the group. -/
def makesPreset (tree : Json) (unit : Option String) (group : Entries Json) (node : Json) : Bool :=
  isDeclared node || isFilled (sharedSpacing tree unit group)

def origins (tree : Json) (unit : Option String) (group : Entries Json) : List Origin :=
  originsOf group ((children group).filter fun child => makesPreset tree unit group child.2)

/-- A name that has a weight for its last word. -/
def Carries (name weight : String) : Prop :=
  ("-" ++ Key.weightSlug weight).toList <:+ name.toList

instance (name weight : String) : Decidable (Carries name weight) :=
  inferInstanceAs (Decidable (_ <:+ _))

/-- The name of the child, and behind it the weight if it is one of several and the name does not end in
it. -/
def Origin.name (origin : Origin) : String :=
  let name := Key.normalize origin.child.1
  match origin.weight with
  | .several weight _ => if Carries name weight then name else name ++ "-" ++ Key.weightSlug weight
  | _ => name

def Origin.fontWeight (tree : Json) (group : Entries Json) (origin : Origin) : Option String :=
  match origin.weight with
  | .own => formatted? tree none (origin.child.2.member "font weight")
  | .single => (sharedWeight tree group).filter (!·.isEmpty)
  | .several _ token => some (formatted tree none token)

/-- An own text that is not empty, else a shared one that is not, else the own one as it is. -/
def firstFilled (own shared : Option String) : Option String :=
  if isFilled own then own else if isFilled shared then shared else own

def Origin.preset (tree : Json) (unit : Option String) (group : Entries Json) (origin : Origin) : Preset where
  fontSize := formatted? tree unit (origin.child.2.member "font size")
  lineHeight := formatted? tree unit (origin.child.2.member "line height")
  letterSpacing := firstFilled (formatted? tree unit (origin.child.2.member "letter spacing"))
    (sharedSpacing tree unit group)
  fontWeight := origin.fontWeight tree group

def Origin.entry (tree : Json) (unit : Option String) (group : Entries Json) (origin : Origin) :
    String × Preset :=
  (origin.name, origin.preset tree unit group)

variable {tree : Json} {unit : Option String} {group : Entries Json}

theorem dimensionOf_value (node : Json) : (dimensionOf? tree unit node).value = formatted? tree unit node := by
  rw [dimensionOf?, formatted?]
  split <;> rfl

private theorem tokenDimensions_value (members : Entries Json) : (tokenDimensions tree unit members).value =
    (members.filter fun entry => entry.2.isToken).map fun entry => (entry.1, formatted tree unit entry.2) := by
  induction members with
  | nil => rfl
  | cons entry rest ih =>
    obtain ⟨key, node⟩ := entry
    rw [tokenDimensions, Noted.value_bind, Noted.value_bind, Noted.value_pure, dimensionOf_value, ih,
      List.filter_cons, formatted?]
    cases node.isToken <;> rfl

private theorem groupDefaults_value : (groupDefaults tree unit group).value =
    ⟨sharedSpacing tree unit group, sharedWeight tree group,
      (weights group).map fun weight => (weight.1, formatted tree none weight.2)⟩ := by
  have shape (key : String) : (Json.object group).member key = (group.get? key).getD .null := rfl
  rw [groupDefaults, Noted.value_bind, Noted.value_bind, dimensionOf_value, dimensionOf_value, weights]
  simp only [sharedSpacing, sharedWeight, shape]
  split
  · rw [Noted.value_bind, tokenDimensions_value]
    rfl
  · rfl

private theorem ownPreset_value (node : Json) : (ownPreset tree unit node).value =
    ⟨formatted? tree unit (node.member "font size"), formatted? tree unit (node.member "line height"),
      formatted? tree unit (node.member "letter spacing"), formatted? tree none (node.member "font weight")⟩ := by
  simp only [ownPreset, Noted.value_bind, Noted.value_pure, dimensionOf_value]

private theorem isSome_formatted (node : Json) : (formatted? tree unit node).isSome = node.isToken := by
  rw [formatted?]
  cases node.isToken <;> rfl

private theorem isSome_of_isFilled {text : Option String} (filled : isFilled text = true) :
    text.isSome = true := by
  cases text with
  | none => cases filled
  | some text => rfl

/-- A child with the letter spacing of the group has what a preset with a weight of its own would have. -/
theorem fillSpacing_eq (child : String × Json) :
    (groupDefaults tree unit group).value.fillSpacing (ownPreset tree unit child.2).value =
      (Origin.mk child .own).preset tree unit group := by
  rw [groupDefaults_value, ownPreset_value, GroupDefaults.fillSpacing, Origin.preset, Origin.fontWeight,
    firstFilled]
  dsimp only
  cases isFilled (formatted? tree unit (child.2.member "letter spacing")) <;>
    cases isFilled (sharedSpacing tree unit group) <;> rfl

private theorem isSome_firstFilled (own shared : Option String) :
    (firstFilled own shared).isSome = (own.isSome || isFilled shared) := by
  rw [firstFilled]
  split
  · next filled => rw [isSome_of_isFilled filled, Bool.true_or]
  · split
    · next filled => rw [filled, isSome_of_isFilled filled, Bool.or_true]
    · next empty => rw [Bool.eq_false_iff.mpr empty, Bool.or_false]

/-- It has no value at all only if it does not count. -/
theorem isUnset_own (child : String × Json) :
    ((Origin.mk child .own).preset tree unit group).isUnset = !makesPreset tree unit group child.2 := by
  rw [Preset.isUnset, Origin.preset, Origin.fontWeight, makesPreset, isDeclared]
  simp only [← Option.not_isSome, isSome_firstFilled, isSome_formatted, presetKeys, List.any_cons, List.any_nil]
  grind

private theorem fontWeight_own (child : String × Json) (free : hasOwnWeight child.2 = false) :
    (Origin.mk child .own).fontWeight tree group = none := by
  rw [Origin.fontWeight, formatted?, if_neg]
  rw [← hasOwnWeight, free]
  exact Bool.false_ne_true

private theorem entry_single (child : String × Json) (free : hasOwnWeight child.2 = false) :
    (Origin.mk child .single).entry tree unit group = (Key.normalize child.1,
      if isFilled (sharedWeight tree group) then
        { (Origin.mk child .own).preset tree unit group with fontWeight := sharedWeight tree group }
      else (Origin.mk child .own).preset tree unit group) := by
  rw [Origin.entry, Origin.preset, Origin.preset, fontWeight_own child free, Origin.fontWeight]
  cases sharedWeight tree group with
  | none => rfl
  | some text => by_cases empty : text = "" <;> simp [isFilled, empty, Origin.name]

private theorem variantName_eq (name weight : String) : variantName name weight =
    if Carries name weight then name else name ++ "-" ++ Key.weightSlug weight := by
  rw [variantName, String.append_assoc]
  exact if_congr List.isSuffixOf_iff_suffix rfl rfl

/-- The presets that a child stands for have its own values, and what the group has for it. -/
theorem variants_eq (tree : Json) (unit : Option String) (group : Entries Json) (child : String × Json) :
    (groupDefaults tree unit group).value.variants (Key.normalize child.1) (ownPreset tree unit child.2).value =
      if makesPreset tree unit group child.2 then
        (weightSources group child.2).map fun source => (Origin.mk child source).entry tree unit group
      else [] := by
  have weighted : ((Origin.mk child .own).preset tree unit group).fontWeight.isSome = hasOwnWeight child.2 :=
    isSome_formatted _
  rw [GroupDefaults.variants, fillSpacing_eq, isUnset_own, weightSources]
  dsimp only
  rw [weighted]
  cases makesPreset tree unit group child.2 with
  | false => rfl
  | true =>
    cases own : hasOwnWeight child.2 with
    | true => rfl
    | false =>
      rw [groupDefaults_value]
      cases weights group with
      | nil =>
        simp only [Bool.not_true, Bool.false_eq_true, if_false, if_true, List.map_nil, List.isEmpty_nil,
          List.map_singleton, entry_single child own]
        split <;> rfl
      | cons weight others =>
        simp only [Bool.not_true, Bool.not_false, Bool.false_eq_true, if_false, if_true, List.map_cons,
          List.isEmpty_cons, List.map_map, variantName_eq]
        rfl

private theorem addPresets_eq (defaults : GroupDefaults) (found : Entries Preset) (members : Entries Json) :
    addPresets tree unit defaults found members =
      ⟨(children members).flatMap fun child => (ownPreset tree unit child.2).notes,
        collected found ((children members).flatMap fun child =>
          defaults.variants (Key.normalize child.1) (ownPreset tree unit child.2).value)⟩ := by
  induction members generalizing found with
  | nil => rfl
  | cons child rest ih =>
    obtain ⟨key, node⟩ := child
    rw [addPresets, children, List.filter_cons]
    cases skip : key == groupLetterSpacing || key == groupFontWeight || !node.isObject with
    | true => exact ih found
    | false =>
      rw [if_neg Bool.false_ne_true, Bool.not_false, if_pos rfl, List.flatMap_cons, List.flatMap_cons]
      exact Noted.ext (congrArg (_ ++ ·) (congrArg Noted.notes (ih _)))
        ((congrArg Noted.value (ih _)).trans List.foldl_append.symm)

theorem presets_eq (tree : Json) (unit : Option String) (group : Entries Json) : presets tree unit group =
    ⟨(groupDefaults tree unit group).notes ++
        (children group).flatMap fun child => (ownPreset tree unit child.2).notes,
      collected [] ((children group).flatMap fun child => (groupDefaults tree unit group).value.variants
        (Key.normalize child.1) (ownPreset tree unit child.2).value)⟩ := by
  apply Noted.ext
  · rw [presets, Noted.notes_bind, addPresets_eq]
  · rw [presets, Noted.value_bind, addPresets_eq]

private theorem flatMap_filter {α β : Type} (keep : α → Bool) (f : α → List β) (items : List α) :
    (items.filter keep).flatMap f = items.flatMap fun item => if keep item then f item else [] := by
  induction items with
  | nil => rfl
  | cons item rest ih =>
    rw [List.filter_cons, List.flatMap_cons]
    split
    · rw [List.flatMap_cons, ih]
    · rw [ih, List.nil_append]

theorem presets_value : (presets tree unit group).value =
    collected [] ((origins tree unit group).map (Origin.entry tree unit group)) := by
  rw [presets_eq, origins, originsOf, List.map_flatMap, flatMap_filter]
  simp only [variants_eq, List.map_map]
  rfl

/-- Every preset comes from a child of the group, with the weights that are left to it. Where several come
under one name, the first gives the place and the last the value. -/
theorem presets_by_origin (tree : Json) (unit : Option String) (group : Entries Json) :
    let found := (presets tree unit group).value
    let made := (origins tree unit group).map (Origin.entry tree unit group)
    (∀ entry ∈ found, ∃ origin ∈ origins tree unit group, entry = origin.entry tree unit group) ∧
    found.keys = (Entries.keys made).eraseDups ∧
    ∀ name, found.get? name = Entries.get? made.reverse name := by
  intro found made
  have same : found = collected [] made := presets_value
  refine ⟨?_, ?_, ?_⟩
  · intro entry member
    rcases mem_collected (same ▸ member) with none | member
    · cases none
    · obtain ⟨origin, listed, rfl⟩ := List.mem_map.mp member
      exact ⟨origin, listed, rfl⟩
  · rw [same, keys_collected_nil]
  · intro name
    rw [same, get?_collected]
    exact Option.or_none

/-- A letter spacing and two weights for all presets. One preset has a weight and another one a letter
spacing of its own, and two of them meet under one name. -/
def headings : Entries Json := [
  ("letter spacing", .dimension "-0.5"),
  ("font weight", .object [("Semi Bold", .dimension "600"), ("Regular", .dimension "{Caption.font weight}")]),
  ("Title Semibold", .object [("font size", .dimension "24"), ("letter spacing", .dimension " ")]),
  ("Caption", .object [("font size", .dimension "12"), ("font weight", .dimension "400")]),
  ("Title", .object [("line height", .dimension "auto"), ("letter spacing", .dimension "1")])]

theorem presets_by_origin_headings :
    let found := (presets (.object headings) "px" headings).value
    found.keys = ["title-semibold", "title-semibold-regular", "caption", "title-regular"] ∧
    found.get? "title-semibold" = some { lineHeight := "auto", letterSpacing := "1px", fontWeight := "600" } ∧
    ∃ origin ∈ origins (.object headings) "px" headings,
      ("title-semibold-regular",
        { fontSize := some "24px", letterSpacing := some "-0.5px", fontWeight := some "400" }) =
          origin.entry (.object headings) "px" headings := by
  obtain ⟨comes, keys, last⟩ := presets_by_origin (.object headings) "px" headings
  refine ⟨?_, ?_, comes _ (Entries.mem_of_get? ?_)⟩
  · rw [keys]
    decide +kernel
  · rw [last]
    decide +kernel
  · rw [last]
    decide +kernel

end DesignTokens.Proofs.PresetOrigins
