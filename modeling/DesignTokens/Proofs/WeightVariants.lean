import DesignTokens.Proofs.PresetOrigins

/-! The variants of presets that a group makes for its weights. The name of a variant ends in the weight. It
goes on behind the name of its preset, unless that has the weight at its end already, so the one way for a
variant to be lost is a preset that is named like a variant of another one. -/

namespace DesignTokens.Proofs.WeightVariants
open CollectedEntries PresetOrigins

variable {name weight lighter : String}

private theorem hyphen_not_mem_slug (weight : String) : '-' ∉ (Key.weightSlug weight).toList := by
  have table : ∀ entry ∈ Key.weightSlugs, '-' ∉ entry.2.toList := by decide
  rw [Key.weightSlug]
  split
  · next found => exact table _ (Entries.mem_of_get? found)
  · simp [Key.isHyphen]

theorem carries_added (name weight : String) : Carries (name ++ "-" ++ Key.weightSlug weight) weight := by
  rw [Carries, String.append_assoc, String.toList_append (s := name)]
  exact List.suffix_append _ _

/-- The last word of a name settles its weight. -/
theorem slug_eq_of_carries (one : Carries name weight) (two : Carries name lighter) :
    Key.weightSlug weight = Key.weightSlug lighter := by
  have inside {first second : String} (nested : ("-" ++ Key.weightSlug first).toList <:+
      ("-" ++ Key.weightSlug second).toList) : Key.weightSlug first = Key.weightSlug second := by
    rw [String.toList_append, String.toList_append] at nested
    rcases List.suffix_cons_iff.mp nested with same | later
    · exact String.toList_injective (List.cons.inj same).2
    · exact absurd (later.subset List.mem_cons_self) (hyphen_not_mem_slug second)
  rcases List.suffix_or_suffix_of_suffix one two with nested | nested
  · exact inside nested
  · exact (inside nested).symm

private theorem added_ne (name weight : String) : name ++ "-" ++ weight ≠ name := by
  intro same
  have lengths := congrArg String.length same
  have hyphen : "-".length = 1 := rfl
  rw [String.length_append, String.length_append, hyphen] at lengths
  omega

variable {tree : Json} {unit : Option String} {group members : Entries Json} {origin one two : Origin}

def declaredChildren (group : Entries Json) : Entries Json :=
  (children group).filter fun child => isDeclared child.2

/-- A preset has the name that another one has with a weight behind it. -/
def Meets (presets weights : Entries Json) : Prop :=
  ∃ child ∈ presets, hasOwnWeight child.2 = false ∧
    ∃ weight ∈ weights, ¬ Carries (Key.normalize child.1) weight.1 ∧
      ∃ other ∈ presets, Key.normalize other.1 = Key.normalize child.1 ++ "-" ++ Key.weightSlug weight.1

instance (presets weights : Entries Json) : Decidable (Meets presets weights) :=
  inferInstanceAs (Decidable (∃ _ ∈ _, _ ∧ ∃ _ ∈ _, _ ∧ ∃ _ ∈ _, _))

theorem mem_originsOf_iff : origin ∈ originsOf group members ↔
    origin.child ∈ members ∧ origin.weight ∈ weightSources group origin.child.2 := by
  rw [originsOf, List.mem_flatMap]
  constructor
  · rintro ⟨child, listed, inside⟩
    obtain ⟨source, member, rfl⟩ := List.mem_map.mp inside
    exact ⟨listed, member⟩
  · rintro ⟨listed, member⟩
    exact ⟨origin.child, listed, List.mem_map_of_mem member⟩

theorem weightSources_own {node : Json} (own : hasOwnWeight node = true) :
    weightSources group node = [.own] :=
  if_pos own

theorem weightSources_several {node : Json} (free : hasOwnWeight node = false) (several : weights group ≠ []) :
    weightSources group node = (weights group).map fun weight => .several weight.1 weight.2 := by
  rw [weightSources, free, if_neg Bool.false_ne_true, if_neg (by simpa using several)]

private theorem name_own (child : String × Json) : (Origin.mk child .own).name = Key.normalize child.1 := rfl

theorem name_carried {child : String × Json} (carried : Carries (Key.normalize child.1) weight) (token : Json) :
    (Origin.mk child (.several weight token)).name = Key.normalize child.1 := by
  rw [Origin.name]
  dsimp only
  rw [if_pos carried]

theorem name_added {child : String × Json} (fresh : ¬ Carries (Key.normalize child.1) weight) (token : Json) :
    (Origin.mk child (.several weight token)).name = Key.normalize child.1 ++ "-" ++ Key.weightSlug weight := by
  rw [Origin.name]
  dsimp only
  rw [if_neg fresh]

private theorem carries_name (child : String × Json) (weight : String) (token : Json) :
    Carries (Origin.mk child (.several weight token)).name weight := by
  by_cases carried : Carries (Key.normalize child.1) weight
  · rwa [name_carried carried]
  · rw [name_added carried]
    exact carries_added _ weight

/-- A name is that of a child, or goes on behind it with a weight that it does not end in. -/
theorem name_cases (several : weights group ≠ []) (listed : origin ∈ originsOf group members) :
    origin.name = Key.normalize origin.child.1 ∨
      ∃ weight ∈ weights group, hasOwnWeight origin.child.2 = false ∧
        ¬ Carries (Key.normalize origin.child.1) weight.1 ∧
        origin.name = Key.normalize origin.child.1 ++ "-" ++ Key.weightSlug weight.1 := by
  obtain ⟨child, source⟩ := origin
  have source_listed := (mem_originsOf_iff.mp listed).2
  dsimp only at source_listed ⊢
  cases own : hasOwnWeight child.2 with
  | true =>
    rw [weightSources_own own, List.mem_singleton] at source_listed
    rw [source_listed, name_own]
    exact .inl rfl
  | false =>
    rw [weightSources_several own several] at source_listed
    obtain ⟨weight, member, rfl⟩ := List.mem_map.mp source_listed
    by_cases carried : Carries (Key.normalize child.1) weight.1
    · exact .inl (name_carried carried weight.2)
    · exact .inr ⟨weight, member, rfl, carried, name_added carried weight.2⟩

/-- Two presets under one name have the same child, or else one is named like a variant of the other. -/
theorem meets_of_same_name (several : weights group ≠ []) (first : one ∈ originsOf group members)
    (second : two ∈ originsOf group members) (same : one.name = two.name)
    (different : Key.normalize one.child.1 ≠ Key.normalize two.child.1) : Meets members (weights group) := by
  have here := (mem_originsOf_iff.mp first).1
  have there := (mem_originsOf_iff.mp second).1
  rcases name_cases several first with bare | ⟨weight, listed, free, fresh, added⟩ <;>
    rcases name_cases several second with bare' | ⟨lighter, listed', free', fresh', added'⟩
  · exact absurd (bare.symm.trans (same.trans bare')) different
  · exact ⟨two.child, there, free', lighter, listed', fresh', one.child, here, bare.symm.trans (same.trans added')⟩
  · exact ⟨one.child, here, free, weight, listed, fresh, two.child, there, bare'.symm.trans (same.symm.trans added)⟩
  · -- Both names end in a weight, which is then the same one, and so is what stands before it.
    have equal : Key.normalize one.child.1 ++ "-" ++ Key.weightSlug weight.1 =
        Key.normalize two.child.1 ++ "-" ++ Key.weightSlug lighter.1 := added.symm.trans (same.trans added')
    have carried := carries_added (Key.normalize one.child.1) weight.1
    rw [equal] at carried
    have slugs := slug_eq_of_carries carried (carries_added _ _)
    rw [slugs, String.append_left_inj, String.append_left_inj] at equal
    exact absurd equal different

/-- The names of the presets that have values of their own are different, and so are the slugs of the
weights of the group. Every object in the group has values of its own, or there is no letter spacing that
makes presets of the others. -/
structure FansOut (tree : Json) (unit : Option String) (group : Entries Json) : Prop where
  named : ((declaredChildren group).map fun child => Key.normalize child.1).Nodup
  several : weights group ≠ []
  slugs : ((weights group).map fun weight => Key.weightSlug weight.1).Nodup
  plain : (∀ child ∈ children group, isDeclared child.2 = true) ∨ isFilled (sharedSpacing tree unit group) = false

theorem FansOut.origins_eq (fans : FansOut tree unit group) :
    origins tree unit group = originsOf group (declaredChildren group) := by
  rw [origins, declaredChildren]
  congr 1
  apply List.filter_congr
  intro child listed
  rw [makesPreset]
  rcases fans.plain with whole | empty
  · rw [whole child listed, Bool.true_or]
  · rw [empty, Bool.or_false]

theorem FansOut.same_origin (fans : FansOut tree unit group) (first : one ∈ originsOf group (declaredChildren group))
    (second : two ∈ originsOf group (declaredChildren group)) (same : one.name = two.name)
    (children_named : Key.normalize one.child.1 = Key.normalize two.child.1) : one = two := by
  obtain ⟨here, source⟩ := mem_originsOf_iff.mp first
  obtain ⟨there, source'⟩ := mem_originsOf_iff.mp second
  have children_eq : one.child = two.child := List.inj_on_of_nodup_map fans.named here there children_named
  obtain ⟨child, weight⟩ := one
  obtain ⟨_, lighter⟩ := two
  cases children_eq
  dsimp only at source source'
  cases own : hasOwnWeight child.2 with
  | true =>
    rw [weightSources_own own, List.mem_singleton] at source source'
    rw [source, source']
  | false =>
    rw [weightSources_several own fans.several] at source source'
    obtain ⟨heavy, listed, rfl⟩ := List.mem_map.mp source
    obtain ⟨light, listed', rfl⟩ := List.mem_map.mp source'
    have carried := carries_name child heavy.1 heavy.2
    rw [same] at carried
    have slugs := slug_eq_of_carries carried (carries_name child light.1 light.2)
    rw [List.inj_on_of_nodup_map fans.slugs listed listed' slugs]

theorem FansOut.distinct_origins (fans : FansOut tree unit group) :
    (originsOf group (declaredChildren group)).Nodup := by
  refine List.nodup_flatMap.mpr ⟨?_, (List.Nodup.of_map _ fans.named).imp ?_⟩
  · intro child _
    have sources : (weightSources group child.2).Nodup := by
      cases own : hasOwnWeight child.2 with
      | true =>
        rw [weightSources_own own]
        exact List.nodup_singleton _
      | false =>
        rw [weightSources_several own fans.several]
        refine (List.Nodup.of_map _ fans.slugs).map ?_
        rintro ⟨name, token⟩ ⟨_, _⟩ same
        cases same
        rfl
    exact sources.map fun _ _ same => (Origin.mk.inj same).2
  · intro child other different origin inside elsewhere
    obtain ⟨_, _, rfl⟩ := List.mem_map.mp inside
    obtain ⟨_, _, same⟩ := List.mem_map.mp elsewhere
    exact different (Origin.mk.inj same).1.symm

/-- A name that has a weight of the group for its last word is the name of a preset. -/
theorem FansOut.bare_origin (fans : FansOut tree unit group) {child weight : String × Json}
    (here : child ∈ declaredChildren group) (listed : weight ∈ weights group)
    (carried : Carries (Key.normalize child.1) weight.1) :
    ∃ origin ∈ originsOf group (declaredChildren group), origin.child = child ∧
      origin.name = Key.normalize child.1 := by
  cases own : hasOwnWeight child.2 with
  | true =>
    refine ⟨⟨child, .own⟩, mem_originsOf_iff.mpr ⟨here, ?_⟩, rfl, name_own child⟩
    rw [weightSources_own own]
    exact List.mem_singleton_self _
  | false =>
    refine ⟨⟨child, .several weight.1 weight.2⟩, mem_originsOf_iff.mpr ⟨here, ?_⟩, rfl, ?_⟩
    · rw [weightSources_several own fans.several]
      exact List.mem_map_of_mem listed
    · exact name_carried carried weight.2

theorem FansOut.distinct_names_iff (fans : FansOut tree unit group) :
    ((originsOf group (declaredChildren group)).map Origin.name).Nodup ↔
      ¬ Meets (declaredChildren group) (weights group) := by
  rw [List.nodup_map_iff_inj_on fans.distinct_origins]
  constructor
  · rintro injective ⟨child, here, free, weight, listed, fresh, other, there, shape⟩
    have variant : Origin.mk child (.several weight.1 weight.2) ∈ originsOf group (declaredChildren group) := by
      refine mem_originsOf_iff.mpr ⟨here, ?_⟩
      rw [weightSources_several free fans.several]
      exact List.mem_map_of_mem listed
    have carried : Carries (Key.normalize other.1) weight.1 := shape ▸ carries_added _ _
    obtain ⟨origin, member, same_child, named⟩ := fans.bare_origin there listed carried
    have same : (Origin.mk child (.several weight.1 weight.2)).name = origin.name := by
      rw [name_added fresh, named, shape]
    have equal := injective _ variant _ member same
    rw [← same_child, ← equal] at shape
    exact added_ne _ _ shape.symm
  · intro apart one first two second same
    by_cases named : Key.normalize one.child.1 = Key.normalize two.child.1
    · exact fans.same_origin first second same named
    · exact absurd (meets_of_same_name fans.several first second same named) apart

private theorem length_originsOf (several : weights group ≠ []) (members : Entries Json) :
    (originsOf group members).length = (members.filter fun child => hasOwnWeight child.2).length +
      (members.filter fun child => !hasOwnWeight child.2).length * (weights group).length := by
  induction members with
  | nil => simp [originsOf]
  | cons child rest ih =>
    have step : originsOf group (child :: rest) =
        (weightSources group child.2).map (Origin.mk child) ++ originsOf group rest := rfl
    rw [step, List.length_append, List.length_map, ih, List.filter_cons, List.filter_cons]
    cases own : hasOwnWeight child.2 with
    | true =>
      rw [weightSources_own own]
      simp only [List.length_nil, if_true, Bool.not_true, Bool.false_eq_true, if_false, List.length_cons]
      omega
    | false =>
      rw [weightSources_several own several]
      simp only [List.length_map, Bool.false_eq_true, if_false, Bool.not_false, if_true, List.length_cons, Nat.succ_mul]
      omega

/-- There is an entry for every variant exactly where no preset has the name that another one has with a
weight behind it. The entries then stand in the order of the presets and of the weights. -/
theorem variants_kept_iff (tree : Json) (unit : Option String) (group : Entries Json)
    (fans : FansOut tree unit group) :
    let found := (presets tree unit group).value
    let own := (declaredChildren group).filter fun child => hasOwnWeight child.2
    let others := (declaredChildren group).filter fun child => !hasOwnWeight child.2
    let variants := (declaredChildren group).flatMap fun child =>
      if hasOwnWeight child.2 then [Origin.mk child .own]
      else (weights group).map fun weight => ⟨child, .several weight.1 weight.2⟩
    (found.length = own.length + others.length * (weights group).length ↔
      ¬ Meets (declaredChildren group) (weights group)) ∧
    (¬ Meets (declaredChildren group) (weights group) →
      found = variants.map (Origin.entry tree unit group) ∧ found.keys.Nodup) := by
  intro found own others variants
  have shape : originsOf group (declaredChildren group) = variants := by
    rw [originsOf]
    apply List.flatMap_congr
    intro child _
    cases own : hasOwnWeight child.2 with
    | true => rw [weightSources_own own]; rfl
    | false => rw [weightSources_several own fans.several, List.map_map]; rfl
  have same : found = collected [] (variants.map (Origin.entry tree unit group)) := by
    rw [← shape, ← fans.origins_eq]
    exact presets_value
  have keys : Entries.keys (variants.map (Origin.entry tree unit group)) = variants.map Origin.name := by
    rw [Entries.keys, List.map_map]
    rfl
  have distinct : (variants.map Origin.name).Nodup ↔ ¬ Meets (declaredChildren group) (weights group) :=
    shape ▸ fans.distinct_names_iff
  have total : (variants.map (Origin.entry tree unit group)).length =
      own.length + others.length * (weights group).length := by
    rw [List.length_map, ← shape]
    exact length_originsOf fans.several (declaredChildren group)
  refine ⟨?_, ?_⟩
  · rw [same, ← total, length_collected_iff, keys, distinct]
  · intro apart
    have fresh : found = variants.map (Origin.entry tree unit group) := by
      rw [same, collected_fresh (by rw [keys]; exact distinct.mpr apart)]
      rfl
    refine ⟨fresh, ?_⟩
    rw [fresh, keys]
    exact distinct.mpr apart

/-- A preset whose name ends in a weight, one with parentheses, and one with a weight of its own. -/
def faces : Entries Json := [
  ("font weight", .object [("Black", .dimension "900"), ("Semi Bold", .dimension "600")]),
  ("Headline Black", .object [("font size", .dimension "24")]),
  ("Body (Mobile)", .object [("line height", .dimension "1.5")]),
  ("Caption", .object [("font size", .dimension "12"), ("font weight", .dimension "500")])]

theorem variants_kept_iff_faces :
    FansOut (.object faces) "px" faces ∧ ¬ Meets (declaredChildren faces) (weights faces) ∧
    let found := (presets (.object faces) "px" faces).value
    found.length = 1 + 2 * 2 ∧
    found.keys = ["headline-black", "headline-black-semibold", "body-mobile-black", "body-mobile-semibold", "caption"] := by
  have fans : FansOut (.object faces) "px" faces := {
    named := by decide +kernel
    several := List.isEmpty_eq_false_iff.mp (by decide +kernel)
    slugs := by decide +kernel
    plain := .inl (by decide +kernel) }
  have apart : ¬ Meets (declaredChildren faces) (weights faces) := by decide +kernel
  obtain ⟨counted, kept⟩ := variants_kept_iff (.object faces) "px" faces fans
  refine ⟨fans, apart, ?_, ?_⟩
  · rw [counted.mpr apart]
    decide +kernel
  · rw [(kept apart).1]
    decide +kernel

/-- A preset with the name of another one and a weight, which both of them get. -/
def titles : Entries Json := [
  ("font weight", .object [("bold", .dimension "700")]),
  ("Title", .object [("font size", .dimension "20")]),
  ("Title Bold", .object [("font size", .dimension "24")])]

theorem titles_meet :
    FansOut (.object titles) "px" titles ∧
    (∀ child ∈ declaredChildren titles, Key.normalize child.1 ≠ "" ∧ hasOwnWeight child.2 = false) ∧
    (∀ weight ∈ weights titles, Key.weightSlug weight.1 ≠ "") ∧
    (declaredChildren titles).length * (weights titles).length = 2 ∧
    (presets (.object titles) "px" titles).value =
      [("title-bold", { fontSize := "24px", fontWeight := "700" })] := by
  refine ⟨⟨by decide +kernel, List.isEmpty_eq_false_iff.mp (by decide +kernel), by decide +kernel,
    .inl (by decide +kernel)⟩, by decide +kernel, by decide +kernel, by decide +kernel, ?_⟩
  decide +kernel

end DesignTokens.Proofs.WeightVariants
