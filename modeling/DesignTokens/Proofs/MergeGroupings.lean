import DesignTokens.Proofs.LeafwiseMerge

/-! Merging maps in any grouping. An empty map adds nothing, nor does a map that is merged with itself. Where
no path leads to a map in one of several maps and to something else in another, it does not matter which
of them are merged first, for the values or for the order of keys at any level. -/

namespace DesignTokens.Proofs.MergeGroupings
open LeafwiseMerge MergedPaths ModelTexts SharedReport

/-- No path leads to a map in one value and to something else in the other. -/
def Compatible (one two : Json) : Prop :=
  ∀ keys left right, nested? one keys = some left → nested? two keys = some right →
    left.isObject = right.isObject

/-- Maps that have each key once at every level, any two of them compatible. -/
structure Mergeable (maps : List (Entries Json)) : Prop where
  unique : ∀ members ∈ maps, Unique (.object members)
  compatible : ∀ one ∈ maps, ∀ two ∈ maps, Compatible (.object one) (.object two)

variable {one two three first : Entries Json} {maps others : List (Entries Json)}

theorem Compatible.refl (value : Json) : Compatible value value := by
  intro keys left right here there
  cases here.symm.trans there
  rfl

theorem Compatible.symm {one two : Json} (compatible : Compatible one two) : Compatible two one :=
  fun keys left right here there => (compatible keys right left there here).symm

theorem Compatible.same_shape {one two : Json} (compatible : Compatible one two) : one.isObject = two.isObject :=
  compatible [] one two rfl rfl

theorem Compatible.inside {key : String} {left right : Json}
    (compatible : Compatible (.object one) (.object two)) (here : one.get? key = some left)
    (there : two.get? key = some right) : Compatible left right := by
  intro keys inner other reached elsewhere
  refine compatible (key :: keys) inner other ?_ ?_
  · rw [nested?, Json.members, here]
    exact reached
  · rw [nested?, Json.members, there]
    exact elsewhere

/-- As many maps inside one another on every path, and no map at the end. -/
def Levels : Nat → Json → Prop
  | 0, value => value.isObject = false
  | depth + 1, value => value.isObject = true ∧ ∀ entry ∈ value.members, Levels depth entry.2

instance decidableLevels : (depth : Nat) → (value : Json) → Decidable (Levels depth value)
  | 0, value => inferInstanceAs (Decidable (value.isObject = false))
  | depth + 1, value =>
    have := decidableLevels depth
    inferInstanceAs (Decidable (value.isObject = true ∧ ∀ entry ∈ value.members, Levels depth entry.2))

theorem Levels.compatible {depth : Nat} {one two : Json} (levels_one : Levels depth one)
    (levels_two : Levels depth two) : Compatible one two := by
  intro keys left right here there
  induction keys generalizing depth one two with
  | nil =>
    cases here
    cases there
    cases depth with
    | zero => exact levels_one.trans levels_two.symm
    | succ depth => exact levels_one.1.trans levels_two.1.symm
  | cons key rest ih =>
    cases depth with
    | zero => cases (nested_of_leaf levels_one).symm.trans here
    | succ depth =>
      obtain ⟨inner, found, here⟩ := Option.bind_eq_some_iff.mp here
      obtain ⟨other, present, there⟩ := Option.bind_eq_some_iff.mp there
      exact ih (levels_one.2 _ (Entries.mem_of_get? found)) (levels_two.2 _ (Entries.mem_of_get? present)) here there

private theorem foldl_addNew_self (entries : List String) (distinct : entries.Nodup) :
    entries.foldl addNew entries = entries := by
  rw [foldl_addNew_eq_append distinct]
  simp

private theorem overlay_self (value : Json) (unique : Unique value) : overlay (some value) value = value := by
  induction value using Json.nested_induction with
  | leaf value isLeaf => exact overlay_of_leaf isLeaf (some value)
  | object members ih =>
    have distinct := unique.keys_nodup
    have keys : (mergeMembers members members).keys = Entries.keys members := by
      rw [keys_mergeMembers, foldl_addNew_self _ distinct]
    have same : mergeMembers members members = members := by
      apply Entries.eq_of_get? (keys ▸ distinct) keys
      intro key
      rw [get_mergeMembers distinct]
      cases found : Entries.get? members key with
      | none => rfl
      | some inner => exact congrArg some (ih _ (Entries.mem_of_get? found) (unique.inside found))
    exact congrArg Json.object same

theorem mergeMembers_nil (unique : Unique (.object one)) : mergeMembers [] one = one := by
  have keys : (mergeMembers [] one).keys = one.keys := by
    rw [keys_mergeMembers, foldl_addNew_eq_append unique.keys_nodup]
    simp [Entries.keys]
  apply Entries.eq_of_get? (keys ▸ unique.keys_nodup) keys
  intro key
  rw [get_mergeMembers unique.keys_nodup]
  cases Entries.get? one key with
  | none => rfl
  | some value => exact congrArg some (overlay_none value)

private theorem foldl_addNew_assoc (entries more others : List String) :
    (others.foldl addNew more).foldl addNew entries = others.foldl addNew (more.foldl addNew entries) := by
  induction others generalizing more with
  | nil => rfl
  | cons other rest ih => rw [List.foldl_cons, ih, foldl_addNew_addNew, List.foldl_cons]

theorem nodup_mergeMembers (distinct : one.keys.Nodup) (two : Entries Json) : (mergeMembers one two).keys.Nodup := by
  rw [keys_mergeMembers]
  exact nodup_foldl_addNew distinct two.keys

/-- Under each key, the merged maps have the merged values of the three. -/
theorem overlay_assoc (third : Json) {first second : Json} (unique_first : Unique first)
    (unique_second : Unique second) (unique_third : Unique third) (near : Compatible first second)
    (far : Compatible first third) (next : Compatible second third) :
    overlay (some (overlay (some first) second)) third = overlay (some first) (overlay (some second) third) := by
  induction third using Json.nested_induction generalizing first second with
  | leaf third isLeaf => simp only [overlay_of_leaf isLeaf]
  | object three ih =>
    cases first with
    | object one =>
      cases second with
      | object two =>
        refine congrArg Json.object (Entries.eq_of_get? ?_ ?_ ?_)
        · exact nodup_mergeMembers (nodup_mergeMembers unique_first.keys_nodup two) three
        · simp only [keys_mergeMembers, foldl_addNew_assoc]
        intro key
        rw [get_mergeMembers unique_third.keys_nodup, get_mergeMembers unique_second.keys_nodup,
          get_mergeMembers (nodup_mergeMembers unique_second.keys_nodup three),
          get_mergeMembers unique_third.keys_nodup]
        cases third : Entries.get? three key with
        | none => rfl
        | some last =>
          cases second : Entries.get? two key with
          | none => exact congrArg (fun value => some (overlay _ value)) (overlay_none last).symm
          | some middle =>
            cases first : Entries.get? one key with
            | none => simp only [overlay_none]
            | some start =>
              exact congrArg some (ih _ (Entries.mem_of_get? third) (unique_first.inside first)
                (unique_second.inside second) (unique_third.inside third) (near.inside first second)
                (far.inside first third) (next.inside second third))
      | _ => cases next.same_shape
    | _ => cases far.same_shape

theorem Mergeable.assoc (mergeable : Mergeable [one, two, three]) :
    mergeMembers (mergeMembers one two) three = mergeMembers one (mergeMembers two three) := by
  have unique := mergeable.unique
  have compatible := mergeable.compatible
  simp only [List.forall_mem_cons] at unique compatible
  have merged := overlay_assoc (.object three) unique.1 unique.2.1 unique.2.2.1 compatible.1.2.1
    compatible.1.2.2.1 compatible.2.1.2.2.1
  exact Json.object.inj merged

theorem Mergeable.subset (mergeable : Mergeable others) (inside : maps ⊆ others) : Mergeable maps where
  unique members listed := mergeable.unique members (inside listed)
  compatible one here two there := mergeable.compatible one (inside here) two (inside there)

theorem Mergeable.cons (mergeable : Mergeable maps) (unique : Unique (.object first))
    (compatible : ∀ members ∈ maps, Compatible (.object first) (.object members)) : Mergeable (first :: maps) where
  unique := List.forall_mem_cons.mpr ⟨unique, mergeable.unique⟩
  compatible := by
    refine List.forall_mem_cons.mpr ⟨List.forall_mem_cons.mpr ⟨.refl _, compatible⟩, ?_⟩
    intro one listed
    exact List.forall_mem_cons.mpr ⟨(compatible one listed).symm, mergeable.compatible one listed⟩

theorem Mergeable.nil_cons (mergeable : Mergeable maps) : Mergeable ([] :: maps) := by
  apply mergeable.cons
  · intro keys members reached
    cases keys with
    | nil =>
      cases reached
      exact List.nodup_nil
    | cons key rest => cases reached
  · intro members _ keys left right reached there
    cases keys with
    | nil =>
      cases reached
      cases there
      rfl
    | cons key rest => cases reached

private theorem nodup_overlay {old : Option Json} {new members : Entries Json}
    (merged : overlay old (.object new) = .object members) (distinct : new.keys.Nodup)
    (before : ∀ present, old = some (.object present) → (Entries.keys present).Nodup) : members.keys.Nodup := by
  unfold overlay at merged
  split at merged
  · next present =>
    cases merged
    exact nodup_mergeMembers (before present rfl) new
  · cases merged
    exact distinct

private theorem unique_merged (unique_one : Unique (.object one)) (unique_two : Unique (.object two)) :
    Unique (.object (mergeMembers one two)) := by
  intro keys members reached
  rcases reached_of_merged one unique_two reached with ⟨value, later, shape⟩ | earlier
  · have merged := nested_overlay_reached unique_two later (some (.object one))
    have laid := Option.some.inj (merged.symm.trans reached)
    cases value with
    | object new => exact nodup_overlay laid (unique_two keys new later) (unique_one keys)
    | _ => cases shape
  · exact unique_one keys members earlier

private theorem compatible_merged {other : Json} (unique : Unique (.object two))
    (near : Compatible (.object one) other)
    (next : Compatible (.object two) other) : Compatible (.object (mergeMembers one two)) other := by
  intro keys left right reached there
  rcases reached_of_merged one unique reached with ⟨value, later, same⟩ | earlier
  · exact same.symm.trans (next keys value right later there)
  · exact near keys left right earlier there

/-- Two of the maps can be replaced by what they are merged to. -/
theorem Mergeable.merged (mergeable : Mergeable (one :: two :: maps)) : Mergeable (mergeMembers one two :: maps) := by
  have first : one ∈ one :: two :: maps := List.mem_cons_self
  have second : two ∈ one :: two :: maps := List.mem_cons_of_mem one List.mem_cons_self
  have inside : maps ⊆ one :: two :: maps := List.subset_cons_of_subset one (List.subset_cons_self two maps)
  have unique_two := mergeable.unique two second
  refine (mergeable.subset inside).cons (unique_merged (mergeable.unique one first) unique_two) ?_
  intro members listed
  exact compatible_merged unique_two (mergeable.compatible one first members (inside listed))
    (mergeable.compatible two second members (inside listed))

theorem Mergeable.foldl (mergeable : Mergeable (first :: maps ++ others)) :
    Mergeable (maps.foldl mergeMembers first :: others) := by
  induction maps generalizing first with
  | nil => exact mergeable
  | cons members rest ih => exact ih mergeable.merged

/-- The maps behind a first one can be merged before it takes part. -/
theorem Mergeable.foldl_eq (mergeable : Mergeable (first :: maps)) :
    maps.foldl mergeMembers first = mergeMembers first (maps.foldl mergeMembers []) := by
  induction maps generalizing first with
  | nil => rfl
  | cons members rest ih =>
    have later : Mergeable (members :: rest) := mergeable.subset (List.subset_cons_self first _)
    have start : mergeMembers [] members = members := mergeMembers_nil (later.unique members List.mem_cons_self)
    have folded : Mergeable [rest.foldl mergeMembers [], first, members] := by
      apply Mergeable.foldl
      apply Mergeable.nil_cons
      apply mergeable.subset
      simp
    have grouped : Mergeable [first, members, rest.foldl mergeMembers []] := folded.subset (by simp)
    rw [List.foldl_cons, ih mergeable.merged, grouped.assoc, List.foldl_cons, start, ih later]

/-- Maps merge in any grouping to the same map, with the same keys in the same order at every level. -/
theorem merged_in_groups :
    (∀ members : Entries Json, mergeMembers members [] = members) ∧
    (∀ members : Entries Json, Unique (.object members) →
      mergeMembers [] members = members ∧ mergeMembers members members = members) ∧
    (∀ one two three : Entries Json, Mergeable [one, two, three] →
      mergeMembers (mergeMembers one two) three = mergeMembers one (mergeMembers two three)) ∧
    ∀ maps others : List (Entries Json), Mergeable (maps ++ others) →
      (maps ++ others).foldl mergeMembers [] =
        mergeMembers (maps.foldl mergeMembers []) (others.foldl mergeMembers []) := by
  refine ⟨fun _ => rfl, ?_, fun _ _ _ mergeable => mergeable.assoc, ?_⟩
  · intro members unique
    exact ⟨mergeMembers_nil unique, Json.object.inj (overlay_self _ unique)⟩
  · intro maps others mergeable
    have start : Mergeable ([] :: maps ++ others) := mergeable.nil_cons
    rw [List.foldl_append, start.foldl.foldl_eq]

/-- Where a colour takes the place of a family and a family that of the colour, the grouping shows. -/
example :
    let family : Entries Json := [("ink", .object [("soft", .string "#333")])]
    let color : Entries Json := [("ink", .string "#000")]
    let other : Entries Json := [("ink", .object [("hard", .string "#111")])]
    mergeMembers (mergeMembers family color) other = other ∧
      mergeMembers family (mergeMembers color other) =
        [("ink", .object [("soft", .string "#333"), ("hard", .string "#111")])] :=
  ⟨rfl, rfl⟩

def grays : Entries Json := [
  ("gray", .object [("50", .string "#eee"), ("90", .string "#111")]), ("none", .object [])]

def blues : Entries Json := [("blue", .object [("50", .string "#eef")])]

def darker : Entries Json := [
  ("blue", .object [("90", .string "#003")]), ("gray", .object [("90", .string "#000"), ("99", .string "#010")])]

theorem merged_in_groups_palettes : Mergeable [grays, blues, darker] ∧
    mergeMembers grays grays = grays ∧
    mergeMembers (mergeMembers grays blues) darker = mergeMembers grays (mergeMembers blues darker) ∧
    [grays, blues, darker].foldl mergeMembers [] = mergeMembers grays (mergeMembers blues darker) := by
  have texts : ∀ members ∈ [grays, blues, darker], Texts (fun _ => True) (.object members) := by
    simp [grays, blues, darker, Texts, TextsIn, Entries.keys]
  have levels : ∀ members ∈ [grays, blues, darker], Levels 2 (.object members) := by decide
  have mergeable : Mergeable [grays, blues, darker] := {
    unique := fun members listed => unique_of_texts (texts members listed)
    compatible := fun one here two there => (levels one here).compatible (levels two there) }
  refine ⟨mergeable, ?_, merged_in_groups.2.2.1 _ _ _ mergeable, merged_in_groups.2.2.2 [grays] [blues, darker] mergeable⟩
  exact (merged_in_groups.2.1 grays (mergeable.unique grays List.mem_cons_self)).2

end DesignTokens.Proofs.MergeGroupings
