import DesignTokens.Proofs.BucketKeys
import DesignTokens.Proofs.ColorLeaves
import Mathlib.Data.List.Nodup

/-! The names of the custom properties that a stylesheet declares. Colours aside, each section has a start
of its own for its names, and no two names in it go on alike behind that. The names of all colours have one
start, behind which keys that have hyphens themselves can make the same text as other keys. -/

namespace DesignTokens.Proofs.PropertyNames
open ColorLeaves ModelTexts Stylesheet

def propertyNames (part : Section) : List String :=
  part.declarations.map Declaration.property

/-- The names that the first block of a stylesheet declares, in order. -/
def declared (model : Model) : List String :=
  (theme model).flatMap propertyNames

/-- The place of a colour: its usage, unless it is primitive, and the keys on the way to it. -/
structure Place where
  usage : Option String
  keys : List String
  deriving DecidableEq

def Place.tail (place : Place) : String :=
  match place.usage with
  | none => hyphened place.keys
  | some usage => usage ++ "-" ++ hyphened (place.keys.dropWhile String.isEmpty)

def Place.name (place : Place) : String :=
  "--color-" ++ place.tail

def places (colors : ColorBuckets) : List Place :=
  ((paths colors.primitive).filter fun keys => keys.length == 2 || keys.length == 3).map (⟨none, ·⟩) ++
    usages.flatMap fun usage => (paths (usage.leaves colors)).map (⟨some usage.name, ·⟩)

def presetTails (presets : Entries Preset) : List String :=
  presets.flatMap fun entry =>
    (presetDeclarations entry.2).map fun declaration => entry.1 ++ "-" ++ declaration.property

structure Family where
  start : String
  tails : List String

def Family.names (family : Family) : List String :=
  family.tails.map (family.start ++ ·)

def families (model : Model) : List Family := [
  ⟨"--spacing-", model.spacing.keys⟩,
  ⟨"--container-", model.container.keys.map containerName⟩,
  ⟨"--font-size-", model.fontSize.keys⟩,
  ⟨"--line-height-", model.lineHeight.keys⟩,
  ⟨"--radius-", model.borderRadius.keys⟩,
  ⟨"--typography-heading-", presetTails model.typography.heading⟩,
  ⟨"--typography-body-", presetTails model.typography.body⟩]

theorem propertyNames_declareAll (title start : String) (entries : Entries String) :
    propertyNames ⟨title, declareAll start entries⟩ = entries.keys.map (start ++ ·) := by
  rw [propertyNames, declareAll, List.map_map, Entries.keys, List.map_map]
  rfl

private theorem propertyNames_primitive (title : String) (members : Entries Json) :
    propertyNames ⟨title, declareAll "--color-" (primitiveLeaves members)⟩ =
      (((paths members).filter fun keys => keys.length == 2 || keys.length == 3).map (⟨none, ·⟩)).map
        Place.name := by
  rw [propertyNames_declareAll, primitiveLeaves_eq, named, Entries.keys, paths, List.filter_map]
  simp only [List.map_map]
  rfl

theorem propertyNames_usage (usage : Usage) (title : String) (members : Entries Json) :
    propertyNames ⟨title, declareAll ("--color-" ++ usage.name ++ "-") (memberLeaves "" members)⟩ =
      ((paths members).map (⟨some usage.name, ·⟩)).map Place.name := by
  rw [propertyNames_declareAll, memberLeaves_eq, Entries.keys, paths]
  simp only [List.map_map]
  apply List.map_congr_left
  intro leaf _
  simp [Place.name, Place.tail, String.append_assoc]

private theorem propertyNames_presets (group title : String) (presets : Entries Preset) :
    propertyNames (presetSection group title presets) =
      (presetTails presets).map ("--typography-" ++ group ++ "-" ++ ·) := by
  rw [propertyNames, presetSection, presetTails, List.map_flatMap, List.map_flatMap]
  simp only [List.map_map]
  congr 1
  funext entry
  apply List.map_congr_left
  intro declaration _
  simp [String.append_assoc]

theorem keys_containerName (container : Entries String) :
    Entries.keys (container.map fun entry => (containerName entry.1, entry.2)) =
      container.keys.map containerName := by
  rw [Entries.keys, Entries.keys, List.map_map, List.map_map]
  rfl

theorem declared_eq (model : Model) :
    declared model = (places model.colors).map Place.name ++ (families model).flatMap Family.names := by
  have usages_eq : (usages.map fun usage => (⟨usage.title, declareAll ("--color-" ++ usage.name ++ "-")
      (memberLeaves "" (usage.leaves model.colors))⟩ : Section)).flatMap propertyNames =
      (usages.flatMap fun usage =>
        (paths (usage.leaves model.colors)).map (⟨some usage.name, ·⟩)).map Place.name := by
    rw [List.flatMap_map, List.map_flatMap]
    simp only [propertyNames_usage]
  rw [declared, theme, List.flatMap_append, List.flatMap_cons, propertyNames_primitive, usages_eq, places,
    List.map_append]
  congr 1
  have heading : "--typography-" ++ "heading" ++ "-" = "--typography-heading-" := by decide
  have body : "--typography-" ++ "body" ++ "-" = "--typography-body-" := by decide
  simp only [List.flatMap_cons, List.flatMap_nil, propertyNames_declareAll, propertyNames_presets, keys_containerName,
    heading, body, families, Family.names]

def Diverge (one two : String) : Prop :=
  ¬ one.toList <+: two.toList ∧ ¬ two.toList <+: one.toList

instance (one two : String) : Decidable (Diverge one two) :=
  inferInstanceAs (Decidable (_ ∧ _))

theorem Diverge.append_ne {one two : String} (apart : Diverge one two) (first second : String) :
    one ++ first ≠ two ++ second := by
  intro same
  have listed : one.toList ++ first.toList = two.toList ++ second.toList := by
    rw [← String.toList_append, ← String.toList_append, same]
  rcases List.prefix_or_prefix_of_prefix (List.prefix_append one.toList first.toList)
      (listed ▸ List.prefix_append two.toList second.toList) with inside | inside
  · exact apart.1 inside
  · exact apart.2 inside

theorem append_injective (start : String) : Function.Injective (start ++ ·) :=
  fun _ _ same => String.append_right_inj start |>.mp same

theorem Family.names_distinct {family : Family} (distinct : family.tails.Nodup) : family.names.Nodup :=
  distinct.map (append_injective family.start)

theorem Family.names_disjoint {one two : Family} (apart : Diverge one.start two.start) :
    List.Disjoint one.names two.names := by
  intro name first second
  obtain ⟨tail, _, rfl⟩ := List.mem_map.mp first
  obtain ⟨other, _, same⟩ := List.mem_map.mp second
  exact apart.append_ne tail other same.symm

def presetProperties : List String := ["font-size", "line-height", "letter-spacing", "font-weight"]

private theorem eq_of_suffix : ∀ one ∈ presetProperties, ∀ two ∈ presetProperties,
    ("-" ++ one).toList <:+ ("-" ++ two).toList → one = two := by
  decide

/-- The property at the end can be told, and with it the name in front. -/
theorem tail_injective {one two first second : String} (listed : first ∈ presetProperties)
    (other : second ∈ presetProperties) (same : one ++ "-" ++ first = two ++ "-" ++ second) :
    one = two ∧ first = second := by
  rw [String.append_assoc, String.append_assoc] at same
  have shape : one.toList ++ ("-" ++ first).toList = two.toList ++ ("-" ++ second).toList := by
    rw [← String.toList_append, ← String.toList_append, same]
  have equal : first = second := by
    rcases List.suffix_or_suffix_of_suffix (List.suffix_append one.toList ("-" ++ first).toList)
        (shape ▸ List.suffix_append two.toList ("-" ++ second).toList) with inside | inside
    · exact eq_of_suffix first listed second other inside
    · exact (eq_of_suffix second other first listed inside).symm
  subst equal
  exact ⟨(String.append_left_inj _).mp same, rfl⟩

private theorem sublist_of_filterMap {α β γ : Type} {shown : α → Option β} {name : β → γ} (origin : α → γ)
    (kept : ∀ item result, shown item = some result → name result = origin item) (items : List α) :
    ((items.filterMap shown).map name).Sublist (items.map origin) := by
  induction items with
  | nil => exact .slnil
  | cons item rest ih =>
    rw [List.filterMap_cons]
    split
    · exact ih.cons _
    · next result found =>
      rw [List.map_cons, List.map_cons, kept item result found]
      exact ih.cons_cons _

private theorem properties_sublist (preset : Preset) :
    ((presetDeclarations preset).map Declaration.property).Sublist presetProperties := by
  refine sublist_of_filterMap Prod.fst ?_ _
  rintro ⟨property, value⟩ declaration shown
  cases value with
  | none => cases shown
  | some text =>
    dsimp only at shown
    split at shown
    · cases shown
    · cases shown
      rfl

theorem property_mem {preset : Preset} {declaration : Declaration}
    (member : declaration ∈ presetDeclarations preset) : declaration.property ∈ presetProperties :=
  (properties_sublist preset).subset (List.mem_map_of_mem member)

private theorem presetTails_distinct {presets : Entries Preset} (distinct : presets.keys.Nodup) :
    (presetTails presets).Nodup := by
  rw [presetTails, List.nodup_flatMap]
  refine ⟨?_, ?_⟩
  · intro entry _
    have properties : ((presetDeclarations entry.2).map Declaration.property).Nodup :=
      List.Nodup.sublist (properties_sublist entry.2) (by decide)
    have tails := properties.map (append_injective (entry.1 ++ "-"))
    rwa [List.map_map] at tails
  · refine (List.pairwise_map.mp distinct).imp ?_
    intro one two different tail first second
    obtain ⟨declaration, member, rfl⟩ := List.mem_map.mp first
    obtain ⟨other, elsewhere, same⟩ := List.mem_map.mp second
    exact different (tail_injective (property_mem elsewhere) (property_mem member) same).1.symm

section Built

variable {options : Options} {raw : Json} {model : Model}

private theorem tails_distinct (built : (assemble options raw).run.value = .ok model) :
    ∀ family ∈ families model, family.tails.Nodup := by
  have texts := assemble_allTexts built
  simp only [families, List.forall_mem_cons]
  exact ⟨texts.spacing.1, BucketKeys.containerNames_distinct built, texts.fontSize.1, texts.lineHeight.1, texts.borderRadius.1,
    presetTails_distinct texts.typography.heading.1, presetTails_distinct texts.typography.body.1,
    fun _ member => nomatch member⟩

private theorem starts_diverge (model : Model) :
    ("--color-" :: (families model).map Family.start).Pairwise Diverge := by
  change List.Pairwise Diverge ["--color-", "--spacing-", "--container-", "--font-size-",
    "--line-height-", "--radius-", "--typography-heading-", "--typography-body-"]
  decide

private theorem families_distinct (built : (assemble options raw).run.value = .ok model) :
    ((families model).flatMap Family.names).Nodup := by
  rw [List.nodup_flatMap]
  refine ⟨?_, ?_⟩
  · intro family member
    exact Family.names_distinct (tails_distinct built family member)
  · have apart := List.pairwise_map.mp (List.pairwise_cons.mp (starts_diverge model)).2
    exact apart.imp Family.names_disjoint

private theorem name_not_mem_families (place : Place) (model : Model) :
    place.name ∉ (families model).flatMap Family.names := by
  intro member
  obtain ⟨family, listed, inside⟩ := List.mem_flatMap.mp member
  obtain ⟨tail, _, same⟩ := List.mem_map.mp inside
  have apart : Diverge "--color-" family.start :=
    (List.pairwise_cons.mp (starts_diverge model)).1 _ (List.mem_map_of_mem listed)
  exact apart.append_ne place.tail tail same.symm

private theorem atUsage_injective (usage : Option String) : Function.Injective (Place.mk usage) :=
  fun _ _ same => (Place.mk.inj same).2

private theorem places_distinct (built : (assemble options raw).run.value = .ok model) :
    (places model.colors).Nodup := by
  have texts := (assemble_allTexts built).colors
  have once : ∀ usage ∈ usages, (paths (usage.leaves model.colors)).Nodup := by
    simp only [usages, List.forall_mem_cons]
    exact ⟨paths_distinct _ texts.text, paths_distinct _ texts.bg, paths_distinct _ texts.border,
      paths_distinct _ texts.icon, fun _ member => nomatch member⟩
  have usage_names : (usages.map Usage.name).Nodup := by decide
  have primitive := ((paths_distinct _ texts.primitive).filter
    fun keys => keys.length == 2 || keys.length == 3).map (atUsage_injective none)
  refine List.nodup_append.mpr ⟨primitive, List.nodup_flatMap.mpr ⟨?_, ?_⟩, ?_⟩
  · intro usage member
    exact (once usage member).map (atUsage_injective (some usage.name))
  · refine (List.pairwise_map.mp usage_names).imp ?_
    intro one two different place first second
    obtain ⟨_, _, rfl⟩ := List.mem_map.mp first
    obtain ⟨_, _, same⟩ := List.mem_map.mp second
    exact different (Option.some.inj (Place.mk.inj same).1).symm
  · intro one first two second same
    obtain ⟨_, _, rfl⟩ := List.mem_map.mp first
    obtain ⟨usage, _, inside⟩ := List.mem_flatMap.mp second
    obtain ⟨_, _, rfl⟩ := List.mem_map.mp inside
    cases (Place.mk.inj same).1

theorem one_lt_length_iff {α : Type} {items : List α} (distinct : items.Nodup) :
    1 < items.length ↔ ∃ one ∈ items, ∃ two ∈ items, one ≠ two := by
  rcases items with _ | ⟨first, _ | ⟨second, rest⟩⟩
  · simp
  · simp
  · have different : first ≠ second := by
      rintro rfl
      exact (List.nodup_cons.mp distinct).1 List.mem_cons_self
    refine iff_of_true (by simp) ⟨first, ?_, second, ?_, different⟩
    · exact List.mem_cons_self
    · exact List.mem_cons_of_mem first List.mem_cons_self

/-- A name comes twice in the image of a list without repetition if two of its members have it. -/
theorem one_lt_count_map {α β : Type} [DecidableEq β] {items : List α} (distinct : items.Nodup)
    (f : α → β) (image : β) :
    1 < (items.map f).count image ↔
      ∃ one ∈ items, ∃ two ∈ items, one ≠ two ∧ f one = image ∧ f two = image := by
  have count : (items.map f).count image = (items.filter fun item => f item == image).length := by
    rw [List.count, List.countP_map, List.countP_eq_length_filter]
    rfl
  rw [count, one_lt_length_iff (distinct.filter _)]
  simp only [List.mem_filter, beq_iff_eq]
  constructor
  · rintro ⟨one, ⟨first, same⟩, two, ⟨second, same'⟩, different⟩
    exact ⟨one, first, two, second, different, same, same'⟩
  · rintro ⟨one, first, two, second, different, same, same'⟩
    exact ⟨one, ⟨first, same⟩, two, ⟨second, same'⟩, different⟩

/-- A name is declared again only for another colour whose keys join to the same text. -/
theorem one_lt_count_declared (built : (assemble options raw).run.value = .ok model) (name : String) :
    1 < (declared model).count name ↔
      ∃ one ∈ places model.colors, ∃ two ∈ places model.colors,
        one ≠ two ∧ one.name = name ∧ two.name = name := by
  have colors := one_lt_count_map (places_distinct built) Place.name name
  have once := List.nodup_iff_count_le_one.mp (families_distinct built) name
  rw [declared_eq, List.count_append]
  -- The name of a colour starts like no other, so one of the two counts is zero.
  by_cases listed : name ∈ (places model.colors).map Place.name
  · obtain ⟨place, _, rfl⟩ := List.mem_map.mp listed
    rw [List.count_eq_zero_of_not_mem (name_not_mem_families place model), Nat.add_zero]
    exact colors
  · have absent := List.count_eq_zero_of_not_mem listed
    rw [absent] at colors ⊢
    rw [← colors]
    omega

/-- No key has a hyphen of its own. Behind a usage the first key is not empty, and no primitive colour
stands under the name of a usage. -/
def Place.Plain (place : Place) : Prop :=
  (∀ key ∈ place.keys, '-' ∉ key.toList) ∧
    (place.usage ≠ none → place.keys.head? ≠ some "") ∧
    (place.usage = none → ∀ usage ∈ usages, place.keys.head? ≠ some usage.name)

instance (place : Place) : Decidable place.Plain :=
  inferInstanceAs (Decidable (_ ∧ _ ∧ _))

private theorem split_hyphened {keys : List String} (deep : keys ≠ []) (free : ∀ key ∈ keys, '-' ∉ key.toList) :
    ((hyphened keys).split '-').toList.map (·.copy) = keys := by
  have split := String.toList_split_intercalate free
  rwa [if_neg deep] at split

/-- The texts between the hyphens of a name, behind its start. -/
def Place.parts (place : Place) : List String :=
  place.usage.toList ++ place.keys

theorem places_cases {colors : ColorBuckets} {place : Place} (member : place ∈ places colors) :
    (∃ keys ∈ paths colors.primitive, place = ⟨none, keys⟩) ∨
      ∃ usage ∈ usages, ∃ keys ∈ paths (usage.leaves colors), place = ⟨some usage.name, keys⟩ := by
  rcases List.mem_append.mp member with primitive | semantic
  · obtain ⟨keys, inside, rfl⟩ := List.mem_map.mp primitive
    exact Or.inl ⟨keys, (List.mem_filter.mp inside).1, rfl⟩
  · obtain ⟨usage, listed, used⟩ := List.mem_flatMap.mp semantic
    obtain ⟨keys, inside, rfl⟩ := List.mem_map.mp used
    exact Or.inr ⟨usage, listed, keys, inside, rfl⟩

theorem keys_ne_nil {colors : ColorBuckets} {place : Place} (member : place ∈ places colors) :
    place.keys ≠ [] := by
  rcases places_cases member with ⟨keys, inside, rfl⟩ | ⟨usage, _, keys, inside, rfl⟩
  all_goals
    obtain ⟨key, _, rest, rfl⟩ := head_of_mem_paths inside
    exact List.cons_ne_nil key rest

private theorem tail_eq {place : Place} (plain : place.Plain) (deep : place.keys ≠ []) :
    place.tail = hyphened place.parts := by
  rcases place with ⟨_ | usage, keys⟩
  · rfl
  · obtain ⟨key, rest, rfl⟩ := List.exists_cons_of_ne_nil deep
    have filled : key ≠ "" := fun empty => plain.2.1 (by simp) (by simp [empty])
    have kept : (key :: rest).dropWhile String.isEmpty = key :: rest := by
      rw [List.dropWhile_cons_of_neg (by simpa using filled)]
    rw [Place.tail, kept]
    exact (String.intercalate_cons_of_ne_nil deep).symm

private theorem parts_free {colors : ColorBuckets} {place : Place} (member : place ∈ places colors)
    (plain : place.Plain) : ∀ part ∈ place.parts, '-' ∉ part.toList := by
  intro part inside
  rcases List.mem_append.mp inside with used | key
  · have free : ∀ usage ∈ usages, '-' ∉ usage.name.toList := by decide
    rcases places_cases member with ⟨keys, _, rfl⟩ | ⟨usage, listed, keys, _, rfl⟩
    · cases used
    · cases List.mem_singleton.mp used
      exact free usage listed
  · exact plain.1 part key

/-- Plain places can be told from their names. -/
theorem name_injective {colors : ColorBuckets} {one two : Place} (first : one ∈ places colors)
    (second : two ∈ places colors) (plain : one.Plain) (plain' : two.Plain)
    (same : one.name = two.name) : one = two := by
  have deep := keys_ne_nil first
  have deep' := keys_ne_nil second
  have tails : hyphened one.parts = hyphened two.parts := by
    rw [← tail_eq plain deep, ← tail_eq plain' deep']
    exact append_injective "--color-" same
  have parts : one.parts = two.parts := by
    have split : ((hyphened one.parts).split '-').toList.map (·.copy) = one.parts :=
      split_hyphened (List.append_ne_nil_of_right_ne_nil _ deep) (parts_free first plain)
    have split' : ((hyphened two.parts).split '-').toList.map (·.copy) = two.parts :=
      split_hyphened (List.append_ne_nil_of_right_ne_nil _ deep') (parts_free second plain')
    rw [tails] at split
    exact split.symm.trans split'
  -- A primitive place and another one would have the usage as the first key of the former.
  rcases places_cases first with ⟨keys, _, rfl⟩ | ⟨usage, listed, keys, _, rfl⟩ <;>
    rcases places_cases second with ⟨keys', _, rfl⟩ | ⟨usage', listed', keys', _, rfl⟩
  · cases parts
    rfl
  · cases parts
    exact absurd rfl (plain.2.2 rfl usage' listed')
  · cases parts
    exact absurd rfl (plain'.2.2 rfl usage listed)
  · obtain ⟨name, keys⟩ := List.cons.inj parts
    cases keys
    exact congrArg (Place.mk · _) (congrArg some name)

/-- Keys with hyphens can join to a name that another colour has. Nothing else in a stylesheet has a name
twice, and where all keys are plain no name comes twice at all. -/
theorem repeated_names_iff (built : (assemble options raw).run.value = .ok model) :
    (∀ name, 1 < (declared model).count name ↔
      ∃ one ∈ places model.colors, ∃ two ∈ places model.colors,
        one ≠ two ∧ one.name = name ∧ two.name = name) ∧
    ((∀ place ∈ places model.colors, place.Plain) → (declared model).Nodup) := by
  refine ⟨one_lt_count_declared built, fun plain => ?_⟩
  apply List.nodup_iff_count_le_one.mpr
  intro name
  by_contra several
  obtain ⟨one, first, two, second, different, same, same'⟩ :=
    (one_lt_count_declared built name).mp (Nat.lt_of_not_le several)
  have equal := same.trans same'.symm
  exact different (name_injective first second (plain one first) (plain two second) equal)

end Built

def hyphenated : Json :=
  .object [("TokenStudio", .object [("semantic", .object [("color", .object [("text", .object [
    ("a-b", .color "#111"), ("a", .object [("b", .color "#222")])])])])])]

theorem hyphenated_declared_twice : ∃ model, (assemble {} hyphenated).run.value = .ok model ∧
    (theme model).flatMap Section.declarations =
      [⟨"--color-text-a-b", "#111"⟩, ⟨"--color-text-a-b", "#222"⟩] ∧
    ¬ (declared model).Nodup := by
  refine ⟨_, rfl, ?_, ?_⟩ <;> decide +kernel

def unhyphenated : Json :=
  .object [("TokenStudio", .object [
    ("primitive", .object [("color", .object [("red", .object [("500", .color "#f00")])])]),
    ("semantic", .object [("color", .object [("text", .object [("main", .color "#111")])])])])]

theorem repeated_names_iff_samples :
    (∃ model, (assemble {} hyphenated).run.value = .ok model ∧
      ∃ one ∈ places model.colors, ∃ two ∈ places model.colors,
        one ≠ two ∧ one.name = "--color-text-a-b" ∧ two.name = "--color-text-a-b") ∧
    ∃ model, (assemble {} unhyphenated).run.value = .ok model ∧
      declared model = ["--color-red-500", "--color-text-main"] ∧ (declared model).Nodup := by
  refine ⟨?_, ?_⟩
  · obtain ⟨model, built, twice⟩ : ∃ model, (assemble {} hyphenated).run.value = .ok model ∧
        1 < (declared model).count "--color-text-a-b" := ⟨_, rfl, by decide +kernel⟩
    exact ⟨model, built, ((repeated_names_iff built).1 "--color-text-a-b").mp twice⟩
  · obtain ⟨model, built, listed, plain⟩ : ∃ model, (assemble {} unhyphenated).run.value = .ok model ∧
        declared model = ["--color-red-500", "--color-text-main"] ∧
        ∀ place ∈ places model.colors, place.Plain :=
      ⟨_, rfl, by decide +kernel, by decide +kernel⟩
    exact ⟨model, built, listed, (repeated_names_iff built).2 plain⟩

end DesignTokens.Proofs.PropertyNames
