import DesignTokens.Proofs.CollectedEntries
import DesignTokens.Proofs.FlatKeys
import DesignTokens.Proofs.ModelTexts
import DesignTokens.Stylesheet

/-! The keys of the buckets of dimensions. A bucket is read from a group under a name of its own, so each of
its keys is that name, or goes on behind it. Keys of groups with different names that share a bucket never
meet, and the names of containers can be told apart without the name of their bucket. -/

namespace DesignTokens.Proofs.BucketKeys
open CollectedEntries FlatKeys ModelTexts

variable {tree raw : Json} {all : List Note} {unit : Option String} {options : Options} {model : Model}
  {name path tail text : String} {result : Entries String}

theorem Extends.step (further : Extends (path ++ "-" ++ tail) text) : Extends path text := by
  rw [Extends, String.toList_append, String.toList_append] at further
  exact (List.prefix_append _ _).trans ((List.prefix_append _ _).trans further)

mutual

private theorem addGroupDimensions_keys {path : String} (filled : path ≠ "") {found result : Entries String} :
    ∀ (node : Json), Yields all (addGroupDimensions tree unit path found node) result →
    ∀ key ∈ result.keys, key ∈ found.keys ∨ Extends path key
  | .object members, built => by
    rw [addGroupDimensions] at built
    exact addDimensions_keys filled members built
  | .null, built | .bool _, built | .int _, built | .float _, built | .string _, built
  | .array _, built => fun _ member => .inl (built.pure ▸ member)
termination_by structural node => node

theorem addDimensions_keys {path : String} (filled : path ≠ "") {result : Entries String} :
    ∀ (members : List (String × Json)) {found : Entries String},
    Yields all (addDimensions tree unit path found members) result →
    ∀ key ∈ result.keys, key ∈ found.keys ∨ Extends path key
  | [], _, built => fun _ member => .inl (built.pure ▸ member)
  | (name, node) :: rest, found, built => by
    intro key member
    rw [addDimensions] at built
    split at built
    · exact addDimensions_keys filled rest built key member
    · have inside : path.isEmpty = false := by simpa using filled
      simp only [inside] at built
      split at built
      · obtain ⟨counts, _, built⟩ := built.bind
        cases counts with
        | true =>
          obtain ⟨text, _, built⟩ := built.bind
          rcases addDimensions_keys filled rest built key member with old | later
          · rcases Entries.mem_keys_put old with older | rfl
            · exact .inl older
            · exact .inr (extends_append path _)
          · exact .inr later
        | false => exact addDimensions_keys filled rest built key member
      · obtain ⟨inner, nested, built⟩ := built.bind
        rcases addDimensions_keys filled rest built key member with old | later
        · -- Keys in the inner group go on behind a path that goes on behind this one.
          have deeper : path ++ "-" ++ Key.normalize name ≠ "" := by simp
          exact (addGroupDimensions_keys deeper node nested key old).imp_right Extends.step
        · exact .inr later
termination_by structural members => members

end

/-- A name that stays as it is in front of the keys of a bucket. -/
structure NormalName (name : String) : Prop where
  normal : Key.normalize name = name
  free : isReserved name = false
  filled : name ≠ ""

instance (name : String) : Decidable (NormalName name) :=
  decidable_of_iff (Key.normalize name = name ∧ isReserved name = false ∧ name ≠ "")
    ⟨fun ⟨normal, free, filled⟩ => ⟨normal, free, filled⟩,
      fun plain => ⟨plain.normal, plain.free, plain.filled⟩⟩

/-- The key of a bucket is its name alone, or all keys go on behind the name. -/
theorem dimensions_named {members : Entries Json} (plain : NormalName name)
    (built : Yields all (dimensions tree unit [(name, .object members)]) result) :
    result.keys = [name] ∨ ∀ key ∈ result.keys, Extends name key := by
  have start : "".isEmpty = true := rfl
  simp only [dimensions, addDimensions, plain.normal, plain.free, start, Json.isObject, Bool.not_true,
    Bool.or_self, Bool.false_eq_true, if_false, if_true] at built
  split at built
  · next token =>
    obtain ⟨counts, _, built⟩ := built.bind
    cases counts with
    | true =>
      obtain ⟨text, _, built⟩ := built.bind
      cases built.pure
      exact .inl rfl
    | false =>
      cases built.pure
      exact .inr fun key member => absurd member List.not_mem_nil
  · next group =>
    obtain ⟨inner, nested, built⟩ := built.bind
    cases built.pure
    refine .inr fun key member => ?_
    exact (addGroupDimensions_keys plain.filled (.object members) nested key member).resolve_left List.not_mem_nil

def ReadUnder (raw : Json) (unit : Option String) (name : String) (bucket : Entries String) : Prop :=
  ∃ source, (bucketDimensions raw unit name source).run.value = .ok bucket

theorem ReadUnder.keys (plain : NormalName name) {bucket : Entries String} (read : ReadUnder raw unit name bucket) :
    bucket.keys = [name] ∨ ∀ key ∈ bucket.keys, Extends name key := by
  obtain ⟨source, built⟩ := read
  have built : Yields _ _ _ := ⟨List.Subset.refl _, built⟩
  cases source with
  | none =>
    rw [← built.pure]
    exact .inr fun _ member => absurd member List.not_mem_nil
  | some members => exact dimensions_named plain built

theorem ReadUnder.starts (plain : NormalName name) {bucket : Entries String} (read : ReadUnder raw unit name bucket) :
    ∀ key ∈ bucket.keys, Starts name key := by
  intro key member
  rcases read.keys plain with alone | behind
  · rw [alone, List.mem_singleton] at member
    exact .inl member
  · exact .inr (behind key member)

theorem containerName_append (tail : String) : Stylesheet.containerName ("container-" ++ tail) = tail := by
  have behind : "container-".toList.isPrefixOf ("container-" ++ tail).toList = true := by
    rw [List.isPrefixOf_iff_prefix, String.toList_append]
    exact List.prefix_append _ _
  rw [Stylesheet.containerName, if_pos behind, String.toList_append]
  change String.ofList (List.drop "container-".toList.length _) = tail
  rw [List.drop_left, String.ofList_toList]

private theorem exists_tail (behind : Extends "container" text) : ∃ tail, text = "container-" ++ tail := by
  obtain ⟨rest, same⟩ := behind
  refine ⟨String.ofList rest, String.toList_injective ?_⟩
  rw [String.toList_append, ← same]
  exact congrArg ("container-".toList ++ ·) String.toList_ofList.symm

theorem ReadUnder.containerNames_distinct {bucket : Entries String} (read : ReadUnder raw unit "container" bucket)
    (distinct : bucket.keys.Nodup) : (bucket.keys.map Stylesheet.containerName).Nodup := by
  rcases read.keys (by decide) with alone | behind
  · rw [alone]
    exact List.nodup_singleton _
  · refine distinct.map_on ?_
    intro one first two second same
    obtain ⟨tail, rfl⟩ := exists_tail (behind one first)
    obtain ⟨other, rfl⟩ := exists_tail (behind two second)
    rw [containerName_append, containerName_append] at same
    rw [same]

/-- The buckets that are read from one group each, with its name. -/
def namedBuckets (model : Model) : Entries (Entries String) := [
  ("border-radius", model.borderRadius), ("border-width", model.borderWidth), ("container", model.container),
  ("font-size", model.fontSize), ("line-height", model.lineHeight), ("letter-spacing", model.letterSpacing),
  ("font-weight", model.fontWeight)]

def unitsGroup (raw : Json) (options : Options) : Option (Entries Json) :=
  subgroup? "size-unit" [raw.atPath [options.setName, "primitive"], raw.member Legacy.primitiveSize]

def spacesGroup (raw : Json) (options : Options) : Option (Entries Json) :=
  subgroup? "space" [raw.atPath [options.setName, "semantic", "size"], raw.member Legacy.primitiveSize]

structure SpacingParts (raw : Json) (options : Options) (units spaces : Entries String) : Prop where
  units : (bucketDimensions raw options.unit "size-unit" (unitsGroup raw options)).run.value = .ok units
  spaces : (bucketDimensions raw options.unit "space" (spacesGroup raw options)).run.value = .ok spaces

private theorem assembleSizes_read {sizes : SizeBuckets}
    (built : Yields all (assembleSizes raw options) sizes) :
    (∃ units spaces, SpacingParts raw options units spaces ∧ sizes.spacing = collected units spaces) ∧
    ReadUnder raw options.unit "border-radius" sizes.borderRadius ∧
    ReadUnder raw options.unit "border-width" sizes.borderWidth ∧
    ReadUnder raw options.unit "container" sizes.container := by
  rw [assembleSizes] at built
  obtain ⟨units, units_built, built⟩ := built.bind
  obtain ⟨spaces, spaces_built, built⟩ := built.bind
  obtain ⟨radius, radius_built, built⟩ := built.bind
  obtain ⟨width, width_built, built⟩ := built.bind
  obtain ⟨container, container_built, built⟩ := built.bind
  cases built.pure
  exact ⟨⟨units, spaces, ⟨units_built.2, spaces_built.2⟩, rfl⟩, ⟨_, radius_built.2⟩, ⟨_, width_built.2⟩,
    ⟨_, container_built.2⟩⟩

private theorem assembleScales_read {scales : ScaleBuckets}
    (built : Yields all (assembleScales raw options) scales) :
    ReadUnder raw options.unit "font-size" scales.fontSize ∧
    ReadUnder raw options.unit "line-height" scales.lineHeight ∧
    ReadUnder raw options.unit "letter-spacing" scales.letterSpacing ∧
    ReadUnder raw none "font-weight" scales.fontWeight := by
  rw [assembleScales] at built
  obtain ⟨source, found, built⟩ := built.bind
  cases source with
  | none =>
    cases built.pure
    exact ⟨⟨none, rfl⟩, ⟨none, rfl⟩, ⟨none, rfl⟩, ⟨none, rfl⟩⟩
  | some members =>
    obtain ⟨size, size_built, built⟩ := built.bind
    obtain ⟨height, height_built, built⟩ := built.bind
    obtain ⟨spacing, spacing_built, built⟩ := built.bind
    obtain ⟨weight, weight_built, built⟩ := built.bind
    cases built.pure
    exact ⟨⟨_, size_built.2⟩, ⟨_, height_built.2⟩, ⟨_, spacing_built.2⟩, ⟨_, weight_built.2⟩⟩

private theorem assemble_read (built : (assemble options raw).run.value = .ok model) :
    (∃ units spaces, SpacingParts raw options units spaces ∧ model.spacing = collected units spaces) ∧
    ∀ bucket ∈ namedBuckets model, ∃ unit, ReadUnder raw unit bucket.1 bucket.2 := by
  have yields : Yields (assemble options raw).run.notes (assemble options raw) model :=
    ⟨List.Subset.refl _, built⟩
  rw [assemble] at yields
  obtain ⟨_, _, yields⟩ := yields.bind
  obtain ⟨sizes, sizes_built, yields⟩ := yields.bind
  obtain ⟨scales, scales_built, yields⟩ := yields.bind
  obtain ⟨_, _, yields⟩ := yields.bind
  cases yields.pure
  obtain ⟨spacing, radius, width, container⟩ := assembleSizes_read sizes_built
  obtain ⟨size, height, letters, weight⟩ := assembleScales_read scales_built
  refine ⟨spacing, ?_⟩
  simp only [namedBuckets, List.forall_mem_cons]
  exact ⟨⟨_, radius⟩, ⟨_, width⟩, ⟨_, container⟩, ⟨_, size⟩, ⟨_, height⟩, ⟨_, letters⟩, ⟨_, weight⟩,
    fun _ member => absurd member List.not_mem_nil⟩

theorem containerNames_distinct (built : (assemble options raw).run.value = .ok model) :
    (model.container.keys.map Stylesheet.containerName).Nodup := by
  obtain ⟨unit, read⟩ := (assemble_read built).2 ("container", model.container) (by simp [namedBuckets])
  exact read.containerNames_distinct (assemble_allTexts built).container.1

private theorem keys_distinct {key : String} {nodes : List Json}
    (built : (bucketDimensions raw unit name (subgroup? key nodes)).run.value = .ok result) : result.keys.Nodup :=
  (bucketDimensions_texts (P := fun _ => True) (fun _ _ _ _ _ _ => trivial) ⟨List.Subset.refl _, built⟩).1

/-- The keys of one group are apart from those of the other. -/
theorem SpacingParts.distinct {units spaces : Entries String} (spaced : SpacingParts raw options units spaces) :
    (units.keys ++ spaces.keys).Nodup := by
  refine List.nodup_append.mpr ⟨keys_distinct spaced.units, keys_distinct spaced.spaces, ?_⟩
  rintro key first _ second rfl
  have unit_starts := ReadUnder.starts (by decide) ⟨_, spaced.units⟩ key first
  have space_starts := ReadUnder.starts (by decide) ⟨_, spaced.spaces⟩ key second
  have apart : ¬ ("size-unit" = "space" ∨ Extends "size-unit" "space" ∨ Extends "space" "size-unit") := by decide
  exact apart (extends_of_starts unit_starts space_starts)

/-- Every key starts with the name of its bucket. Units and spaces share one, where they stand behind each
other in full, and containers have different names also without that of their bucket. -/
theorem bucket_keys_start (built : (assemble options raw).run.value = .ok model) :
    (∀ bucket ∈ namedBuckets model, ∀ key ∈ bucket.2.keys, Starts bucket.1 key) ∧
    (∀ key ∈ model.spacing.keys, Starts "size-unit" key ∨ Starts "space" key) ∧
    (∃ units spaces, SpacingParts raw options units spaces ∧ model.spacing = units ++ spaces) ∧
    (model.container.keys.map Stylesheet.containerName).Nodup := by
  obtain ⟨⟨units, spaces, spaced, merged⟩, named⟩ := assemble_read built
  have joined : model.spacing = units ++ spaces := by rw [merged, collected_fresh spaced.distinct]
  refine ⟨?_, ?_, ⟨units, spaces, spaced, joined⟩, containerNames_distinct built⟩
  · have plain : ∀ name ∈ ["border-radius", "border-width", "container", "font-size", "line-height",
        "letter-spacing", "font-weight"], NormalName name := by decide
    intro bucket listed
    obtain ⟨unit, read⟩ := named bucket listed
    exact read.starts (plain bucket.1 (List.mem_map_of_mem (f := Prod.fst) listed))
  · intro key member
    rw [joined, Entries.keys, List.map_append] at member
    rcases List.mem_append.mp member with first | second
    · exact .inl (ReadUnder.starts (by decide) ⟨_, spaced.units⟩ key first)
    · exact .inr (ReadUnder.starts (by decide) ⟨_, spaced.spaces⟩ key second)

/-- A unit that is a token itself, a space whose name is all parentheses, and a container named like its
bucket. -/
def sizes : Json :=
  .object [("TokenStudio", .object [
    ("primitive", .object [("size-unit", .token "dimension" (.int 4)),
      ("typography", .object [("font weight", .object [("Bold", .token "dimension" (.int 700))])])]),
    ("semantic", .object [("size", .object [
      ("space", .object [("()", .token "dimension" (.int 2)),
        ("Small", .object [("x", .token "dimension" (.int 8))])]),
      ("container", .object [("md", .token "dimension" (.int 768)),
        ("Container: md", .token "dimension" (.int 1024))])])])])]

theorem bucket_keys_start_sizes : ∃ model, (assemble {} sizes).run.value = .ok model ∧
    model.fontWeight = [("font-weight-bold", "700")] ∧ Starts "font-weight" "font-weight-bold" ∧
    model.spacing = [("size-unit", "4px"), ("space-", "2px"), ("space-small-x", "8px")] ∧
    (∀ key ∈ model.spacing.keys, Starts "size-unit" key ∨ Starts "space" key) ∧
    model.container.keys.map Stylesheet.containerName = ["md", "container-md"] ∧
    (model.container.keys.map Stylesheet.containerName).Nodup := by
  obtain ⟨model, built, weights, spacing, containers⟩ : ∃ model, (assemble {} sizes).run.value = .ok model ∧
      model.fontWeight = [("font-weight-bold", "700")] ∧
      model.spacing = [("size-unit", "4px"), ("space-", "2px"), ("space-small-x", "8px")] ∧
      model.container.keys.map Stylesheet.containerName = ["md", "container-md"] :=
    ⟨_, rfl, by decide +kernel, by decide +kernel, by decide +kernel⟩
  obtain ⟨named, shared, _, distinct⟩ := bucket_keys_start built
  have bold : Starts "font-weight" "font-weight-bold" := by
    refine named ("font-weight", model.fontWeight) (by simp [namedBuckets]) "font-weight-bold" ?_
    rw [weights]
    exact List.mem_singleton_self _
  exact ⟨model, built, weights, bold, spacing, shared, containers, distinct⟩

end DesignTokens.Proofs.BucketKeys
