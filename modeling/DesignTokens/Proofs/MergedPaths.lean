import DesignTokens.Proofs.ModelTexts

/-! What a merged map has at the end of a path of keys. A later map decides about a path that it covers:
it has something at the end of it, or a value that is no map on the way. All other paths keep what
the earlier map has for them. So of several maps merged in order, the last one that covers a path is
the one that counts. -/

namespace DesignTokens.Proofs.MergedPaths
open ModelTexts

/-- The value at the end of a path of keys through nested maps. -/
def nested? (value : Json) : List String → Option Json
  | [] => some value
  | key :: rest => (value.members.get? key).bind (nested? · rest)

/-- A value has something at the end of a path, or on the way to it a value that is no map. -/
def Covers (value : Json) (keys : List String) : Prop :=
  (nested? value keys).isSome = true ∨
    ∃ before leaf, before <+: keys ∧ nested? value before = some leaf ∧ leaf.isObject = false

def Unique (value : Json) : Prop :=
  ∀ keys members, nested? value keys = some (.object members) → (Entries.keys members).Nodup

variable {value leaf : Json} {members present : Entries Json} {key : String} {keys rest : List String}

theorem Unique.keys_nodup (unique : Unique (.object members)) : members.keys.Nodup :=
  unique [] members rfl

theorem Unique.inside {inner : Json} (unique : Unique (.object members))
    (found : members.get? key = some inner) : Unique inner := by
  intro keys deeper reached
  refine unique (key :: keys) deeper ?_
  rw [nested?, Json.members, found]
  exact reached

private theorem get_of_leaf (isLeaf : value.isObject = false) (key : String) :
    value.members.get? key = none := by
  cases value with
  | object members => cases isLeaf
  | _ => rfl

theorem nested_of_leaf (isLeaf : value.isObject = false) : nested? value (key :: rest) = none := by
  rw [nested?, get_of_leaf isLeaf, Option.bind_none]

private theorem nested_texts {P : String → Prop} {inner : Json} (texts : Texts P value)
    (found : nested? value keys = some inner) : Texts P inner := by
  induction keys generalizing value with
  | nil =>
    cases found
    exact texts
  | cons key rest ih =>
    cases value with
    | object members =>
      obtain ⟨next, here, further⟩ := Option.bind_eq_some_iff.mp found
      exact ih (((textsIn_iff _).mp texts).2 _ (Entries.mem_of_get? here)) further
    | _ => cases found

theorem unique_of_texts {P : String → Prop} (texts : Texts P value) : Unique value := by
  intro keys members found
  have inside : TextsIn P members := nested_texts texts found
  exact ((textsIn_iff _).mp inside).1

theorem covers_nil (value : Json) : Covers value [] :=
  Or.inl rfl

theorem covers_of_leaf (isLeaf : value.isObject = false) (keys : List String) : Covers value keys :=
  Or.inr ⟨[], value, List.nil_prefix, rfl, isLeaf⟩

theorem covers_object_iff : Covers (.object members) (key :: rest) ↔
    ∃ inner, members.get? key = some inner ∧ Covers inner rest := by
  constructor
  · rintro (reached | ⟨before, leaf, within, reached, isLeaf⟩)
    · obtain ⟨leaf, ends⟩ := Option.isSome_iff_exists.mp reached
      obtain ⟨inner, found, further⟩ := Option.bind_eq_some_iff.mp ends
      exact ⟨inner, found, Or.inl (Option.isSome_iff_exists.mpr ⟨leaf, further⟩)⟩
    · cases before with
      | nil =>
        cases reached
        cases isLeaf
      | cons first before =>
        obtain ⟨same, deeper⟩ := List.cons_prefix_cons.mp within
        subst same
        obtain ⟨inner, found, further⟩ := Option.bind_eq_some_iff.mp reached
        exact ⟨inner, found, Or.inr ⟨before, leaf, deeper, further, isLeaf⟩⟩
  · rintro ⟨inner, found, reached | ⟨before, leaf, within, reached, isLeaf⟩⟩
    · left
      rw [nested?, Json.members, found]
      exact reached
    · refine Or.inr ⟨key :: before, leaf, List.cons_prefix_cons.mpr ⟨rfl, within⟩, ?_, isLeaf⟩
      rw [nested?, Json.members, found]
      exact reached

theorem not_covers_of_absent (absent : members.get? key = none) : ¬ Covers (.object members) (key :: rest) := by
  rw [covers_object_iff]
  rintro ⟨inner, found, _⟩
  cases absent.symm.trans found

theorem overlay_none (value : Json) : overlay none value = value := by
  cases value <;> rfl

theorem overlay_of_leaf (isLeaf : value.isObject = false) (old : Option Json) :
    overlay old value = value := by
  cases value with
  | object members => cases isLeaf
  | _ => rfl

private theorem overlay_over_leaf {old : Json} (isLeaf : old.isObject = false) (value : Json) :
    overlay (some old) value = value := by
  cases value with
  | object members =>
    cases old with
    | object present => cases isLeaf
    | _ => rfl
  | _ => rfl

theorem overlay_isObject (old : Option Json) (value : Json) :
    (overlay old value).isObject = value.isObject := by
  cases value with
  | object members =>
    unfold overlay
    split <;> rfl
  | _ => rfl

theorem get_mergeMembers {source : Entries Json} (distinct : source.keys.Nodup) (target : Entries Json)
    (key : String) : (mergeMembers target source).get? key =
      match source.get? key with
      | some value => some (overlay (target.get? key) value)
      | none => target.get? key := by
  induction source generalizing target with
  | nil => rfl
  | cons entry rest ih =>
    obtain ⟨name, value⟩ := entry
    obtain ⟨absent, distinct⟩ := List.nodup_cons.mp distinct
    rw [mergeMembers, ih distinct, Entries.get?_cons]
    by_cases same : name = key
    · subst same
      rw [Entries.get?_eq_none_iff.mpr absent, if_pos rfl]
      exact Entries.get?_put_self target name _
    · rw [if_neg same, Entries.get?_put_of_ne (Ne.symm same)]

/-- The first key on the way is looked up in both maps. -/
theorem nested_overlay (distinct : members.keys.Nodup) (old : Option Json) :
    nested? (overlay old (.object members)) (key :: rest) =
      match members.get? key with
      | some inner => nested? (overlay (old.bind (·.members.get? key)) inner) rest
      | none => old.bind (nested? · (key :: rest)) := by
  have later : nested? (.object members) (key :: rest) = (members.get? key).bind (nested? · rest) := rfl
  cases old with
  | none =>
    rw [overlay_none, later]
    cases members.get? key with
    | none => rfl
    | some inner => exact congrArg (nested? · rest) (overlay_none inner).symm
  | some old =>
    cases shape : old.isObject with
    | true =>
      cases old with
      | object present =>
        rw [overlay, nested?, Json.members, get_mergeMembers distinct]
        cases members.get? key <;> rfl
      | _ => cases shape
    | false =>
      rw [overlay_over_leaf shape, later, Option.bind_some, Option.bind_some, get_of_leaf shape,
        nested_of_leaf shape]
      cases members.get? key with
      | none => rfl
      | some inner => exact congrArg (nested? · rest) (overlay_none inner).symm

theorem nested_nil_ne (shape : value.isObject = true) (isLeaf : leaf.isObject = false) :
    nested? value [] ≠ some leaf := by
  rintro ⟨⟩
  exact Bool.noConfusion (shape.symm.trans isLeaf)

theorem bind_nested_cons (old : Option Json) (key : String) (rest : List String) :
    old.bind (nested? · (key :: rest)) = (old.bind (·.members.get? key)).bind (nested? · rest) := by
  cases old <;> rfl

/-- What the later map has at the end of a path is laid over what the earlier one has there. -/
theorem nested_overlay_reached {inner : Json} (unique : Unique value) (reached : nested? value keys = some inner)
    (old : Option Json) :
    nested? (overlay old value) keys = some (overlay (old.bind (nested? · keys)) inner) := by
  -- Along the path, the earlier map is replaced by what it has under each key, if it has anything.
  induction keys generalizing value old with
  | nil =>
    cases reached
    cases old <;> rfl
  | cons key rest ih =>
    cases value with
    | object members =>
      obtain ⟨next, found, further⟩ := Option.bind_eq_some_iff.mp reached
      have found : Entries.get? members key = some next := found
      rw [nested_overlay unique.keys_nodup, found, bind_nested_cons]
      exact ih (unique.inside found) further (old.bind (·.members.get? key))
    | _ => cases reached

theorem nested_overlay_uncovered (unique : Unique value) (uncovered : ¬ Covers value keys) (old : Option Json) :
    nested? (overlay old value) keys = old.bind (nested? · keys) := by
  induction keys generalizing value old with
  | nil => exact absurd (covers_nil value) uncovered
  | cons key rest ih =>
    cases value with
    | object members =>
      rw [nested_overlay unique.keys_nodup]
      cases found : Entries.get? members key with
      | none => rfl
      | some inner =>
        have deeper : ¬ Covers inner rest := by
          intro covered
          exact uncovered (covers_object_iff.mpr ⟨inner, found, covered⟩)
        rw [bind_nested_cons]
        exact ih (unique.inside found) deeper _
    | _ => exact absurd (covers_of_leaf rfl _) uncovered

/-- Where the later map has no way through, the merged one has none. -/
theorem nested_overlay_blocked (unique : Unique value) (covered : Covers value keys)
    (unreached : nested? value keys = none) (old : Option Json) : nested? (overlay old value) keys = none := by
  induction keys generalizing value old with
  | nil => cases unreached
  | cons key rest ih =>
    cases value with
    | object members =>
      obtain ⟨inner, found, deeper⟩ := covers_object_iff.mp covered
      have unreached : nested? inner rest = none := by
        rwa [nested?, Json.members, found] at unreached
      rw [nested_overlay unique.keys_nodup, found]
      exact ih (unique.inside found) deeper unreached _
    | _ =>
      rw [overlay_of_leaf rfl]
      exact unreached

/-- A merged map has the leaves of the later map, and those of the earlier one at paths that the
later one does not cover. -/
theorem leaf_overlay_iff (unique : Unique value) (isLeaf : leaf.isObject = false) (old : Option Json) :
    nested? (overlay old value) keys = some leaf ↔
      nested? value keys = some leaf ∨ old.bind (nested? · keys) = some leaf ∧ ¬ Covers value keys := by
  cases reached : nested? value keys with
  | some inner =>
    have covered : Covers value keys := Or.inl (Option.isSome_iff_exists.mpr ⟨inner, reached⟩)
    have same : overlay (old.bind (nested? · keys)) inner = leaf ↔ inner = leaf := by
      cases shape : inner.isObject with
      | false => rw [overlay_of_leaf shape]
      | true =>
        have merged := (overlay_isObject (old.bind (nested? · keys)) inner).trans shape
        constructor
        · rintro rfl
          cases merged.symm.trans isLeaf
        · rintro rfl
          cases shape.symm.trans isLeaf
    rw [nested_overlay_reached unique reached]
    simpa [covered] using same
  | none =>
    by_cases covered : Covers value keys
    · simp [nested_overlay_blocked unique covered reached, covered]
    · simp [nested_overlay_uncovered unique covered, covered]

/-- The leaf that the last map which covers a path has at its end. -/
def Kept (maps : List (Entries Json)) (keys : List String) (leaf : Json) : Prop :=
  ∃ before members after, maps = before ++ members :: after ∧
    nested? (.object members) keys = some leaf ∧ ∀ later ∈ after, ¬ Covers (.object later) keys

theorem not_kept_nil : ¬ Kept [] keys leaf := by
  rintro ⟨before, members, after, same, _⟩
  exact List.append_ne_nil_of_right_ne_nil before (List.cons_ne_nil members after) same.symm

theorem not_kept_root {maps : List (Entries Json)} (isLeaf : leaf.isObject = false) : ¬ Kept maps [] leaf := by
  rintro ⟨_, members, _, _, ends, _⟩
  exact nested_nil_ne rfl isLeaf ends

theorem kept_cons_iff {maps : List (Entries Json)} : Kept (members :: maps) keys leaf ↔
    Kept maps keys leaf ∨
      nested? (.object members) keys = some leaf ∧ ∀ later ∈ maps, ¬ Covers (.object later) keys := by
  constructor
  · rintro ⟨before, found, after, same, ends, uncovered⟩
    cases before with
    | nil =>
      cases same
      exact Or.inr ⟨ends, uncovered⟩
    | cons first before =>
      cases same
      exact Or.inl ⟨before, found, after, rfl, ends, uncovered⟩
  · rintro (⟨before, found, after, rfl, ends, uncovered⟩ | ⟨ends, uncovered⟩)
    · exact ⟨members :: before, found, after, rfl, ends, uncovered⟩
    · exact ⟨[], members, maps, rfl, ends, uncovered⟩

theorem kept_concat_iff {maps : List (Entries Json)} : Kept (maps ++ [members]) keys leaf ↔
    nested? (.object members) keys = some leaf ∨ Kept maps keys leaf ∧ ¬ Covers (.object members) keys := by
  induction maps with
  | nil =>
    rw [List.nil_append, kept_cons_iff]
    exact ⟨fun kept => kept.elim (absurd · not_kept_nil) (Or.inl ·.1),
      fun kept => kept.elim (fun ends => Or.inr ⟨ends, fun _ later => nomatch later⟩)
        fun kept => absurd kept.1 not_kept_nil⟩
  | cons first maps ih =>
    rw [List.cons_append, kept_cons_iff, ih, kept_cons_iff, List.forall_mem_append,
      List.forall_mem_singleton, or_and_right, or_assoc, and_assoc]

/-- Merging maps into a first one keeps of each what no later one covers. -/
theorem leaf_foldl_iff {maps : List (Entries Json)} (unique : ∀ members ∈ maps, Unique (.object members))
    (isLeaf : leaf.isObject = false) (first : Entries Json) :
    nested? (.object (maps.foldl mergeMembers first)) keys = some leaf ↔ Kept (first :: maps) keys leaf := by
  induction maps generalizing first with
  | nil =>
    rw [kept_cons_iff, or_iff_right not_kept_nil]
    exact ⟨fun ends => ⟨ends, fun _ later => nomatch later⟩, And.left⟩
  | cons members maps ih =>
    obtain ⟨here, unique⟩ := List.forall_mem_cons.mp unique
    have merged : Json.object (mergeMembers first members) =
        overlay (some (.object first)) (.object members) := rfl
    rw [List.foldl_cons, ih unique, kept_cons_iff, merged, leaf_overlay_iff here isLeaf, kept_cons_iff,
      kept_cons_iff, List.forall_mem_cons, or_and_right, ← or_assoc, and_assoc, Option.bind_some]

end DesignTokens.Proofs.MergedPaths
