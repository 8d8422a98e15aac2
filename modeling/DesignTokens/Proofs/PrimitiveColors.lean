import DesignTokens.Proofs.MergedPaths

/-! Where the primitive colours of a model come from. The colours of all sources are merged, and none
is lost but to a later source that covers its path. The colours that have no usage of their own are
not merged: they take the place of the whole family that has their name. -/

namespace DesignTokens.Proofs.PrimitiveColors
open ModelTexts MergedPaths

def sourceColors (raw : Json) (options : Options) : List (Entries Json) :=
  ((primitiveColorPaths options.setName).filterMap (groupAt? raw)).map fun source =>
    (colors raw (.object source)).value

/-- The colours without a usage of their own, if there is a group for them. -/
def otherColors (raw : Json) (options : Options) : Option (Entries Json) :=
  (firstGroup raw [[options.setName, "semantic", "color"], [Legacy.semanticColor]]).value.bind
    fun group => (usageColors raw group otherUsage).value

/-- The colours of the sources, and behind them the other colours as a family of their own. -/
def allColors (raw : Json) (options : Options) : List (Entries Json) :=
  sourceColors raw options ++
    (otherColors raw options).toList.map fun found => [(otherUsage, .object found)]

variable {raw leaf : Json} {options : Options} {model : Model} {keys rest : List String}

private theorem mergeColors_value (sources : List (Entries Json)) (merged : Entries Json) :
    (mergeColors raw merged sources).value =
      (sources.map fun source => (colors raw (.object source)).value).foldl mergeMembers merged := by
  induction sources generalizing merged with
  | nil => rfl
  | cons source others ih =>
    rw [mergeColors, Noted.value_bind, ih, List.map_cons, List.foldl_cons, colors]

private theorem assembleColors_primitive : (assembleColors raw options).value.primitive =
    match otherColors raw options with
    | some found =>
      ((sourceColors raw options).foldl mergeMembers []).put otherUsage (.object found)
    | none => (sourceColors raw options).foldl mergeMembers [] := by
  rw [assembleColors, Noted.value_bind, Noted.value_bind, mergeColors_value, otherColors, sourceColors]
  cases (firstGroup raw [[options.setName, "semantic", "color"], [Legacy.semanticColor]]).value with
  | none => rfl
  | some group => rfl

private theorem assemble_colors (built : (assemble options raw).run.value = .ok model) :
    model.colors = (assembleColors raw options).value := by
  have yields : Yields (assemble options raw).run.notes (assemble options raw) model :=
    ⟨List.Subset.refl _, built⟩
  rw [assemble] at yields
  obtain ⟨colors, colors_built, yields⟩ := yields.bind
  obtain ⟨_, _, yields⟩ := yields.bind
  obtain ⟨_, _, yields⟩ := yields.bind
  obtain ⟨_, _, yields⟩ := yields.bind
  cases yields.pure
  exact colors_built.ofNoted.2.symm

private theorem sourceColors_unique : ∀ found ∈ sourceColors raw options, Unique (.object found) := by
  intro found member
  obtain ⟨source, _, rfl⟩ := List.mem_map.mp member
  have texts : TextsIn (fun _ => True) (colors raw (.object source)).value :=
    colors_texts _ (fun _ _ _ _ => trivial) (List.Subset.refl _)
  exact unique_of_texts (show Texts _ (.object _) from texts)

theorem merged_leaf_iff (isLeaf : leaf.isObject = false) :
    nested? (.object ((sourceColors raw options).foldl mergeMembers [])) keys = some leaf ↔
      Kept (sourceColors raw options) keys leaf := by
  rw [leaf_foldl_iff sourceColors_unique isLeaf, kept_cons_iff, or_iff_left]
  rintro ⟨ends, _⟩
  cases keys with
  | nil => exact nested_nil_ne rfl isLeaf ends
  | cons key rest => cases ends

theorem covers_family_iff {found : Entries Json} :
    Covers (.object [(otherUsage, .object found)]) (otherUsage :: rest) ↔ Covers (.object found) rest := by
  simp [covers_object_iff, Entries.get?_cons]

/-- The colours at the leaves of the primitive map: those of the sources that no later source covers,
but for the family of the other colours, which is the family of these alone. -/
theorem primitive_leaf_iff (built : (assemble options raw).run.value = .ok model)
    (isLeaf : leaf.isObject = false) :
    nested? (.object model.colors.primitive) keys = some leaf ↔
      (Kept (sourceColors raw options) keys leaf ∧
          (otherColors raw options = none ∨ keys.head? ≠ some otherUsage)) ∨
        ∃ found rest, otherColors raw options = some found ∧ keys = otherUsage :: rest ∧
          nested? (.object found) rest = some leaf := by
  rw [assemble_colors built, assembleColors_primitive]
  cases otherColors raw options with
  | none => simp [merged_leaf_iff isLeaf]
  | some found =>
    cases keys with
    | nil =>
      have nothing (merged : Entries Json) : nested? (.object merged) [] ≠ some leaf :=
        nested_nil_ne rfl isLeaf
      have unkept : ¬ Kept (sourceColors raw options) [] leaf := not_kept_root isLeaf
      simp [nothing, unkept]
    | cons key rest =>
      rw [nested?, Json.members]
      by_cases same : key = otherUsage
      · subst same
        simp
      · rw [Entries.get?_put_of_ne same, ← merged_leaf_iff isLeaf]
        simp [same]
        rfl

theorem kept_all_iff {found : Entries Json} (others : otherColors raw options = some found) :
    Kept (allColors raw options) keys leaf ↔
      nested? (.object [(otherUsage, .object found)]) keys = some leaf ∨
        Kept (sourceColors raw options) keys leaf ∧
          ¬ Covers (.object [(otherUsage, .object found)]) keys := by
  rw [allColors, others]
  exact kept_concat_iff

private theorem nested_family {found : Entries Json} (isLeaf : leaf.isObject = false)
    (ends : nested? (.object [(otherUsage, .object found)]) keys = some leaf) :
    ∃ rest, keys = otherUsage :: rest ∧ nested? (.object found) rest = some leaf := by
  cases keys with
  | nil => exact absurd ends (nested_nil_ne rfl isLeaf)
  | cons key rest =>
    rw [nested?, Json.members, Entries.get?_cons] at ends
    split at ends
    · next same => exact ⟨rest, congrArg (· :: rest) same.symm, ends⟩
    · cases ends

private theorem stays_of_covered {found : Entries Json} (built : (assemble options raw).run.value = .ok model)
    (others : otherColors raw options = some found) (isLeaf : leaf.isObject = false)
    (covered : ∀ rest leaf, leaf.isObject = false →
      Kept (sourceColors raw options) (otherUsage :: rest) leaf → Covers (.object found) rest)
    (kept : Kept (allColors raw options) keys leaf) :
    nested? (.object model.colors.primitive) keys = some leaf := by
  rw [primitive_leaf_iff built isLeaf]
  rcases (kept_all_iff others).mp kept with ends | ⟨kept, uncovered⟩
  · obtain ⟨rest, path, ends⟩ := nested_family isLeaf ends
    exact Or.inr ⟨found, rest, others, path, ends⟩
  · refine Or.inl ⟨kept, Or.inr fun named => ?_⟩
    obtain ⟨rest, rfl⟩ := List.head?_eq_some_iff.mp named
    exact uncovered (covers_family_iff.mpr (covered rest leaf isLeaf kept))

private theorem covers_of_stays {found : Entries Json} (built : (assemble options raw).run.value = .ok model)
    (others : otherColors raw options = some found) (isLeaf : leaf.isObject = false)
    (kept : Kept (sourceColors raw options) (otherUsage :: rest) leaf)
    (stays : Kept (allColors raw options) (otherUsage :: rest) leaf →
      nested? (.object model.colors.primitive) (otherUsage :: rest) = some leaf) :
    Covers (.object found) rest := by
  by_contra uncovered
  have all : Kept (allColors raw options) (otherUsage :: rest) leaf :=
    (kept_all_iff others).mpr (Or.inr ⟨kept, mt covers_family_iff.mp uncovered⟩)
  have shown := (primitive_leaf_iff built isLeaf).mp (stays all)
  rcases shown with ⟨_, none | other⟩ | ⟨found', rest', others', path, ends⟩
  · cases others.symm.trans none
  · exact other rfl
  · cases others.symm.trans others'
    cases path
    exact uncovered (Or.inl (Option.isSome_iff_exists.mpr ⟨leaf, ends⟩))

/-- Every colour of every source stays, but to a later source that covers its path or to the other
colours, exactly if these cover whatever stays under their name. -/
theorem sources_kept_iff (built : (assemble options raw).run.value = .ok model) :
    (∀ keys leaf, leaf.isObject = false → Kept (allColors raw options) keys leaf →
        nested? (.object model.colors.primitive) keys = some leaf) ↔
      ∀ found, otherColors raw options = some found → ∀ rest leaf, leaf.isObject = false →
        Kept (sourceColors raw options) (otherUsage :: rest) leaf → Covers (.object found) rest := by
  constructor
  · intro complete found others rest leaf isLeaf kept
    exact covers_of_stays built others isLeaf kept (complete _ leaf isLeaf)
  · intro covered keys leaf isLeaf kept
    cases others : otherColors raw options with
    | none =>
      rw [allColors, others, Option.toList_none, List.map_nil, List.append_nil] at kept
      exact (primitive_leaf_iff built isLeaf).mpr (Or.inl ⟨kept, Or.inl others⟩)
    | some found => exact stays_of_covered built others isLeaf (covered found others) kept

/-- A primitive family that has the name of the other colours. -/
def sameFamily : Json :=
  .object [("TokenStudio", .object [
    ("primitive", .object [("color", .object [("etc", .object [("red", .color "#f00")])])]),
    ("semantic", .object [("color", .object [("etc", .object [("overlay", .color "#000")])])])])]

theorem sameFamily_lost : ∃ model, (assemble {} sameFamily).run.value = .ok model ∧
    sourceColors sameFamily {} = [[("etc", .object [("red", .string "#f00")])]] ∧
    otherColors sameFamily {} = some [("overlay", .string "#000")] ∧
    Kept (allColors sameFamily {}) ["etc", "red"] (.string "#f00") ∧
    nested? (.object model.colors.primitive) ["etc", "red"] = none := by
  refine ⟨_, rfl, rfl, rfl, ?_, rfl⟩
  exact ⟨[], _, _, rfl, rfl, List.forall_mem_singleton.mpr fun covered =>
    not_covers_of_absent rfl (covers_family_iff.mp covered)⟩

def sharedFamily : Json :=
  .object [("TokenStudio", .object [
    ("primitive", .object [("color", .object [
      ("gray", .object [("50", .color "#eee"), ("90", .color "#111")]), ("etc", .object [("red", .color "#f00")])])]),
    ("color", .object [("gray", .object [("50", .color "#fff")])]),
    ("semantic", .object [("color", .object [("etc", .object [("red", .color "#e00")])])])])]

theorem sources_kept_iff_sharedFamily : ∃ model, (assemble {} sharedFamily).run.value = .ok model ∧
    nested? (.object model.colors.primitive) ["gray", "50"] = some (.string "#fff") ∧
    nested? (.object model.colors.primitive) ["gray", "90"] = some (.string "#111") := by
  obtain ⟨model, built⟩ : ∃ model, (assemble {} sharedFamily).run.value = .ok model := ⟨_, rfl⟩
  have sources : sourceColors sharedFamily {} = [
      [("gray", .object [("50", .string "#eee"), ("90", .string "#111")]),
        ("etc", .object [("red", .string "#f00")])],
      [("gray", .object [("50", .string "#fff")])]] := rfl
  have others : otherColors sharedFamily {} = some [("red", .string "#e00")] := rfl
  have covered : ∀ found, otherColors sharedFamily {} = some found → ∀ rest leaf, leaf.isObject = false →
      Kept (sourceColors sharedFamily {}) (otherUsage :: rest) leaf → Covers (.object found) rest := by
    intro found same rest leaf isLeaf kept
    cases others.symm.trans same
    rw [sources, kept_cons_iff, kept_cons_iff] at kept
    rcases kept with (nothing | ⟨ends, _⟩) | ⟨ends, _⟩
    · exact absurd nothing not_kept_nil
    · cases ends
    · change nested? (.object [("red", .string "#f00")]) rest = some leaf at ends
      cases rest with
      | nil => exact covers_nil _
      | cons key rest =>
        rw [nested?, Json.members, Entries.get?_cons] at ends
        split at ends
        · next red =>
          subst red
          exact covers_object_iff.mpr ⟨_, rfl, covers_of_leaf rfl rest⟩
        · cases ends
  have complete := (sources_kept_iff built).mpr covered
  have behind (shade : String) :
      ¬ Covers (.object [(otherUsage, .object [("red", .string "#e00")])]) ["gray", shade] :=
    not_covers_of_absent rfl
  refine ⟨model, built, complete _ _ rfl ?_, complete _ _ rfl ?_⟩
  · refine ⟨[_], _, [_], by rw [allColors, sources, others]; rfl, rfl, ?_⟩
    exact List.forall_mem_singleton.mpr (behind "50")
  · refine ⟨[], _, [_, _], by rw [allColors, sources, others]; rfl, rfl, ?_⟩
    refine List.forall_mem_cons.mpr ⟨fun hidden => ?_, List.forall_mem_singleton.mpr (behind "90")⟩
    obtain ⟨inner, found, deeper⟩ := covers_object_iff.mp hidden
    cases found
    exact not_covers_of_absent rfl deeper

end DesignTokens.Proofs.PrimitiveColors
