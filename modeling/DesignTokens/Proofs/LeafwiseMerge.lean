import DesignTokens.Proofs.CollectedEntries
import DesignTokens.Proofs.MergedPaths

/-! What a merged map has at the end of every path. A value of the later map that is no map stays there, and
hides what the earlier map has at its path or further on. Where both have a map, the merged one has the
keys of the earlier map in their order, and behind them those that only the later one has. -/

namespace DesignTokens.Proofs.LeafwiseMerge
open CollectedEntries MergedPaths ModelTexts

/-- At the end of a path or on the way there, behind one key at least, stands a value that is no map. -/
def Hides (value : Json) (keys : List String) : Prop :=
  ∃ before leaf, before ≠ [] ∧ before <+: keys ∧ nested? value before = some leaf ∧ leaf.isObject = false

def HasMap (value : Json) (keys : List String) : Prop :=
  ∃ members, nested? value keys = some (.object members)

variable {value leaf inner : Json} {source : Entries Json} {keys : List String}

theorem keys_mergeMembers (target source : Entries Json) :
    (mergeMembers target source).keys = source.keys.foldl addNew target.keys := by
  induction source generalizing target with
  | nil => rfl
  | cons entry rest ih =>
    rw [mergeMembers, ih, keys_put_eq_addNew]
    rfl

theorem foldl_addNew_eq_append {entries more : List String} (distinct : more.Nodup) :
    more.foldl addNew entries = entries ++ more.filter (· ∉ entries) := by
  induction more generalizing entries with
  | nil => simp
  | cons first rest ih =>
    obtain ⟨absent, distinct⟩ := List.nodup_cons.mp distinct
    rw [List.foldl_cons, ih distinct, addNew]
    by_cases listed : first ∈ entries
    · simp [listed]
    · have others : rest.filter (· ∉ entries ++ [first]) = rest.filter (· ∉ entries) := by
        apply List.filter_congr
        intro other member
        have different : other ≠ first := by
          rintro rfl
          exact absent member
        simp [different]
      simp only [List.contains_iff_mem, listed, if_false, others]
      simp [listed]

theorem hasMap_of_isObject (reached : nested? value keys = some inner) (shape : inner.isObject = true) :
    HasMap value keys := by
  cases inner with
  | object members => exact ⟨members, reached⟩
  | _ => cases shape

theorem not_hasMap_of_isLeaf (reached : nested? value keys = some inner) (isLeaf : inner.isObject = false) :
    ¬ HasMap value keys := by
  rintro ⟨members, elsewhere⟩
  cases reached.symm.trans elsewhere
  cases isLeaf

private theorem not_hasMap_of_unreached (unreached : nested? value keys = none) : ¬ HasMap value keys := by
  rintro ⟨members, reached⟩
  cases unreached.symm.trans reached

theorem hides_of_isLeaf (reached : nested? (.object source) keys = some leaf) (isLeaf : leaf.isObject = false) :
    Hides (.object source) keys := by
  refine ⟨keys, leaf, ?_, List.prefix_rfl, reached, isLeaf⟩
  rintro rfl
  exact nested_nil_ne rfl isLeaf reached

private theorem covers_of_hides (hides : Hides value keys) : Covers value keys := by
  obtain ⟨before, leaf, _, within, reached, isLeaf⟩ := hides
  exact Or.inr ⟨before, leaf, within, reached, isLeaf⟩

/-- A map covers a path if it hides it or has a map at its end. -/
theorem covers_iff : Covers (.object source) keys ↔ Hides (.object source) keys ∨ HasMap (.object source) keys := by
  constructor
  · rintro (reached | ⟨before, leaf, within, reached, isLeaf⟩)
    · obtain ⟨inner, reached⟩ := Option.isSome_iff_exists.mp reached
      cases shape : inner.isObject with
      | true => exact Or.inr (hasMap_of_isObject reached shape)
      | false => exact Or.inl (hides_of_isLeaf reached shape)
    · obtain ⟨first, _, nonempty, _⟩ := hides_of_isLeaf reached isLeaf
      refine Or.inl ⟨before, leaf, ?_, within, reached, isLeaf⟩
      rintro rfl
      exact nested_nil_ne rfl isLeaf reached
  · rintro (hides | ⟨members, reached⟩)
    · exact covers_of_hides hides
    · exact Or.inl (Option.isSome_iff_exists.mpr ⟨_, reached⟩)

section Merged

variable (target : Entries Json) (unique : Unique (.object source))

include unique

theorem leaf_merged_iff (isLeaf : leaf.isObject = false) :
    nested? (.object (mergeMembers target source)) keys = some leaf ↔
      nested? (.object source) keys = some leaf ∨ nested? (.object target) keys = some leaf ∧
        ¬ Hides (.object source) keys ∧ ¬ HasMap (.object source) keys := by
  rw [← not_or, ← covers_iff]
  exact leaf_overlay_iff unique isLeaf (some (.object target))

theorem hasMap_merged_iff :
    HasMap (.object (mergeMembers target source)) keys ↔
      HasMap (.object source) keys ∨ HasMap (.object target) keys ∧ ¬ Hides (.object source) keys := by
  cases reached : nested? (.object source) keys with
  | some inner =>
    have merged := nested_overlay_reached unique reached (some (.object target))
    have shape := overlay_isObject ((some (Json.object target)).bind (nested? · keys)) inner
    cases kind : inner.isObject with
    | true => exact iff_of_true (hasMap_of_isObject merged (shape.trans kind)) (.inl (hasMap_of_isObject reached kind))
    | false =>
      refine iff_of_false (not_hasMap_of_isLeaf merged (shape.trans kind)) ?_
      rintro (other | ⟨_, shown⟩)
      · exact not_hasMap_of_isLeaf reached kind other
      · exact shown (hides_of_isLeaf reached kind)
  | none =>
    have nothing := not_hasMap_of_unreached reached
    by_cases covered : Covers (.object source) keys
    · have merged := nested_overlay_blocked unique covered reached (some (.object target))
      refine iff_of_false (not_hasMap_of_unreached merged) ?_
      rintro (other | ⟨_, shown⟩)
      · exact nothing other
      · exact (covers_iff.mp covered).elim shown nothing
    · have merged := nested_overlay_uncovered unique covered (some (.object target))
      have same : HasMap (.object (mergeMembers target source)) keys ↔ HasMap (.object target) keys := by
        apply exists_congr
        intro members
        exact Eq.congr merged rfl
      have shown : ¬ Hides (.object source) keys := mt covers_of_hides covered
      simp [same, nothing, shown]

private theorem nested_merged_maps {old new : Entries Json}
    (earlier : nested? (.object target) keys = some (.object old))
    (later : nested? (.object source) keys = some (.object new)) :
    nested? (.object (mergeMembers target source)) keys = some (.object (mergeMembers old new)) := by
  have merged := nested_overlay_reached unique later (some (.object target))
  rwa [Option.bind_some, earlier] at merged

/-- A value in a merged map is a value of the later map, or laid over it, or one of the earlier map. -/
theorem reached_of_merged (reached : nested? (.object (mergeMembers target source)) keys = some inner) :
    (∃ later, nested? (.object source) keys = some later ∧ later.isObject = inner.isObject) ∨
      nested? (.object target) keys = some inner := by
  cases later : nested? (.object source) keys with
  | some value =>
    have merged := nested_overlay_reached unique later (some (.object target))
    cases reached.symm.trans merged
    exact Or.inl ⟨value, rfl, (overlay_isObject _ value).symm⟩
  | none =>
    by_cases covered : Covers (.object source) keys
    · have merged := nested_overlay_blocked unique covered later (some (.object target))
      cases reached.symm.trans merged
    · have merged := nested_overlay_uncovered unique covered (some (.object target))
      exact Or.inr (merged.symm.trans reached)

end Merged

/-- What a merged map has at the end of each path: the values that are no maps, the maps with the order of their
keys, and nothing where neither of the two maps has anything. -/
theorem merged_leafwise (target : Entries Json) {source : Entries Json} (unique : Unique (.object source))
    (keys : List String) :
    (∀ leaf, leaf.isObject = false →
      (nested? (.object (mergeMembers target source)) keys = some leaf ↔
        nested? (.object source) keys = some leaf ∨ nested? (.object target) keys = some leaf ∧
          ¬ Hides (.object source) keys ∧ ¬ HasMap (.object source) keys)) ∧
    (HasMap (.object (mergeMembers target source)) keys ↔
      HasMap (.object source) keys ∨ HasMap (.object target) keys ∧ ¬ Hides (.object source) keys) ∧
    (∀ old new, nested? (.object target) keys = some (.object old) →
      nested? (.object source) keys = some (.object new) →
      ∃ members, nested? (.object (mergeMembers target source)) keys = some (.object members) ∧
        Entries.keys members = Entries.keys old ++ (Entries.keys new).filter (· ∉ Entries.keys old)) ∧
    ((nested? (.object (mergeMembers target source)) keys).isSome = true →
      (nested? (.object source) keys).isSome = true ∨ (nested? (.object target) keys).isSome = true) := by
  refine ⟨fun _ isLeaf => leaf_merged_iff target unique isLeaf, hasMap_merged_iff target unique, ?_, ?_⟩
  · intro old new earlier later
    refine ⟨_, nested_merged_maps target unique earlier later, ?_⟩
    rw [keys_mergeMembers, foldl_addNew_eq_append (unique keys new later)]
  · intro reached
    obtain ⟨inner, reached⟩ := Option.isSome_iff_exists.mp reached
    rcases reached_of_merged target unique reached with ⟨later, there, _⟩ | earlier
    · exact Or.inl (Option.isSome_iff_exists.mpr ⟨later, there⟩)
    · exact Or.inr (Option.isSome_iff_exists.mpr ⟨inner, earlier⟩)

def palette : Entries Json := [
  ("gray", .object [("50", .string "#eee"), ("90", .string "#111")]),
  ("blue", .object [("50", .string "#eef")]), ("ink", .string "#000")]

/-- Changes to a palette: a family of one colour, a colour that becomes a family, and two shades. -/
def changes : Entries Json := [
  ("ink", .object [("soft", .string "#333")]), ("blue", .string "#00f"),
  ("gray", .object [("90", .string "#222"), ("10", .string "#fff")])]

theorem merged_leafwise_palette : Unique (.object changes) ∧
    nested? (.object (mergeMembers palette changes)) ["gray", "50"] = some (.string "#eee") ∧
    ¬ HasMap (.object (mergeMembers palette changes)) ["blue"] ∧
    ∃ members, nested? (.object (mergeMembers palette changes)) ["gray"] = some (.object members) ∧
      Entries.keys members = ["50", "90", "10"] := by
  have texts : Texts (fun _ => True) (.object changes) := by
    simp [changes, Texts, TextsIn, Entries.keys]
  have unique := unique_of_texts texts
  have kept : ¬ Covers (.object changes) ["gray", "50"] := by
    intro covered
    obtain ⟨inner, found, deeper⟩ := covers_object_iff.mp covered
    cases found
    exact not_covers_of_absent rfl deeper
  rw [covers_iff, not_or] at kept
  have blue : nested? (.object changes) ["blue"] = some (.string "#00f") := rfl
  refine ⟨unique, ?_, ?_, ?_⟩
  · exact ((merged_leafwise palette unique ["gray", "50"]).1 _ rfl).mpr (.inr ⟨rfl, kept⟩)
  · rw [(merged_leafwise palette unique ["blue"]).2.1]
    rintro (other | ⟨_, shown⟩)
    · exact not_hasMap_of_isLeaf blue rfl other
    · exact shown (hides_of_isLeaf blue rfl)
  · exact (merged_leafwise palette unique ["gray"]).2.2.1 _ _ rfl rfl

end DesignTokens.Proofs.LeafwiseMerge
