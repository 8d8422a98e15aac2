import DesignTokens.Assembly
import Mathlib.Data.List.Nodup

/-! The texts in a model. Every text is what some token of the raw tree is read as, the notes of that
reading are among those of the run, and every map has each of its names once. -/

namespace DesignTokens.Proofs.ModelTexts

variable {α : Type} {Q : α → Prop} {P : String → Prop}

def Each (Q : α → Prop) (entries : Entries α) : Prop :=
  entries.keys.Nodup ∧ ∀ entry ∈ entries, Q entry.2

theorem Each.nil : Each Q [] := ⟨List.nodup_nil, fun _ member => nomatch member⟩

theorem Each.put {entries : Entries α} (each : Each Q entries) (key : String) {value : α}
    (holds : Q value) : Each Q (entries.put key value) := by
  refine ⟨?_, ?_⟩
  · rw [Entries.keys_put]
    split
    · exact each.1
    · next absent =>
      refine List.nodup_append.mpr ⟨each.1, List.nodup_singleton key, ?_⟩
      intro name present other single same
      rw [List.mem_singleton] at single
      exact absent (single ▸ same ▸ present)
  · intro entry member
    rcases Entries.mem_put member with old | rfl
    · exact each.2 entry old
    · exact holds

theorem Each.putAll {entries : Entries α} (each : Each Q entries) {added : Entries α}
    (holds : ∀ entry ∈ added, Q entry.2) :
    Each Q (added.foldl (fun entries entry => entries.put entry.1 entry.2) entries) := by
  induction added generalizing entries with
  | nil => exact each
  | cons first rest ih =>
    exact ih (each.put first.1 (holds first List.mem_cons_self))
      fun entry member => holds entry (List.mem_cons_of_mem _ member)

mutual

/-- A text with a property, or a nested map of such texts in which no name comes twice. -/
def Texts (P : String → Prop) : Json → Prop
  | .string text => P text
  | .object members => TextsIn P members
  | _ => False
termination_by structural node => node

def TextsIn (P : String → Prop) : List (String × Json) → Prop
  | [] => True
  | (name, node) :: rest => name ∉ Entries.keys rest ∧ Texts P node ∧ TextsIn P rest
termination_by structural members => members

end

theorem textsIn_iff (members : Entries Json) : TextsIn P members ↔ Each (Texts P) members := by
  induction members with
  | nil => exact ⟨fun _ => Each.nil, fun _ => trivial⟩
  | cons entry rest ih =>
    obtain ⟨name, node⟩ := entry
    rw [TextsIn, ih]
    constructor
    · rintro ⟨absent, holds, each⟩
      refine ⟨List.nodup_cons.mpr ⟨absent, each.1⟩, ?_⟩
      intro entry member
      rcases List.mem_cons.mp member with rfl | inside
      · exact holds
      · exact each.2 entry inside
    · intro each
      obtain ⟨absent, distinct⟩ := List.nodup_cons.mp each.1
      exact ⟨absent, each.2 _ List.mem_cons_self, distinct,
        fun entry member => each.2 entry (List.mem_cons_of_mem _ member)⟩

theorem TextsIn.nil : TextsIn P [] := trivial

theorem TextsIn.put {members : Entries Json} (texts : TextsIn P members) (key : String) {node : Json}
    (holds : Texts P node) : TextsIn P (members.put key node) :=
  (textsIn_iff _).mpr (((textsIn_iff _).mp texts).put key holds)

mutual

private theorem overlay_texts : ∀ (node : Json) {old : Option Json},
    (∀ present, old = some present → Texts P present) → Texts P node → Texts P (overlay old node)
  | .object members, old, before, holds => by
    have holds : TextsIn P members := holds
    unfold overlay
    split
    · have present := before _ rfl
      exact mergeMembers_texts members present holds
    · exact holds
  | .null, _, _, holds | .bool _, _, _, holds | .int _, _, _, holds | .float _, _, _, holds
  | .string _, _, _, holds | .array _, _, _, holds => by
    unfold overlay
    exact holds
termination_by structural node => node

theorem mergeMembers_texts : ∀ (members : List (String × Json)) {target : Entries Json},
    TextsIn P target → TextsIn P members → TextsIn P (mergeMembers target members)
  | [], _, before, _ => by rwa [mergeMembers]
  | (key, node) :: rest, target, before, holds => by
    rw [TextsIn] at holds
    rw [mergeMembers]
    refine mergeMembers_texts rest (before.put key ?_) holds.2.2
    refine overlay_texts node ?_ holds.2.1
    intro present found
    exact ((textsIn_iff _).mp before).2 _ (Entries.mem_of_get? found)
termination_by structural members => members

end

inductive Occurs (inner : Json) : Json → Prop
  | here : Occurs inner inner
  | inside {members : List (String × Json)} {entry : String × Json} (member : entry ∈ members)
      (occurs : Occurs inner entry.2) : Occurs inner (.object members)

theorem occurs_object_iff {inner : Json} {members : Entries Json} :
    Occurs inner (.object members) ↔ inner = .object members ∨ ∃ entry ∈ members, Occurs inner entry.2 := by
  constructor
  · rintro (_ | ⟨member, occurs⟩)
    · exact Or.inl rfl
    · exact Or.inr ⟨_, member, occurs⟩
  · rintro (rfl | ⟨entry, member, occurs⟩)
    · exact .here
    · exact .inside member occurs

theorem occurs_string_iff {inner : Json} {text : String} :
    Occurs inner (.string text) ↔ inner = .string text := by
  constructor
  · rintro ⟨⟩
    rfl
  · rintro rfl
    exact .here

/-- Whenever the notes of reading a token of the tree are taken, the text it is read as has the
property. -/
def Shows (read : Json → Noted String) (all : List Note) (P : String → Prop) (node : Json) : Prop :=
  ∀ token, Occurs token node → token.isToken = true → (read token).notes ⊆ all → P (read token).value

variable {tree node : Json} {all : List Note} {read : Json → Noted String}

theorem Shows.imp {P' : String → Prop} (reads : Shows read all P node)
    (implies : ∀ text, P text → P' text) : Shows read all P' node :=
  fun token occurs isToken noted => implies _ (reads token occurs isToken noted)

theorem Shows.entry {members : Entries Json} (reads : Shows read all P (.object members))
    {entry : String × Json} (member : entry ∈ members) : Shows read all P entry.2 :=
  fun token occurs => reads token (.inside member occurs)

theorem Shows.null : Shows read all P .null := by
  intro token occurs isToken
  cases occurs
  cases isToken

theorem Shows.members (reads : Shows read all P node) {entry : String × Json}
    (member : entry ∈ node.members) : Shows read all P entry.2 := by
  cases node with
  | object members => exact reads.entry member
  | _ => cases member

theorem Shows.member (reads : Shows read all P node) (key : String) :
    Shows read all P (node.member key) := by
  rw [Json.member]
  cases found : node.members.get? key with
  | none => exact Shows.null
  | some inner => exact reads.members (Entries.mem_of_get? found)

theorem Shows.atPath (reads : Shows read all P node) (path : List String) :
    Shows read all P (node.atPath path) := by
  induction path generalizing node with
  | nil => exact reads
  | cons key rest ih => exact ih (reads.member key)

/-- An extraction succeeds with a result, and its notes are among the given ones. -/
def Yields {α : Type} (all : List Note) (extraction : Extraction α) (result : α) : Prop :=
  extraction.run.notes ⊆ all ∧ extraction.run.value = .ok result

theorem Yields.bind {α β : Type} {first : Extraction α} {next : α → Extraction β} {result : β}
    (built : Yields all (first >>= next) result) :
    ∃ value, Yields all first value ∧ Yields all (next value) result := by
  obtain ⟨noted, built⟩ := built
  obtain ⟨value, found, onward, step⟩ := Extraction.bind_ok built
  rw [step, List.append_subset] at noted
  exact ⟨value, ⟨noted.1, found⟩, noted.2, onward⟩

theorem Yields.pure {α : Type} {value result : α}
    (built : Yields all (pure value : Extraction α) result) : value = result :=
  Except.ok.inj built.2

theorem Yields.ofNoted {α : Type} {noted : Noted α} {result : α}
    (built : Yields all (.ofNoted noted) result) : noted.notes ⊆ all ∧ noted.value = result :=
  ⟨built.1, Except.ok.inj built.2⟩

mutual

theorem colors_texts : ∀ (node : Json), Shows (resolvedText tree) all P node →
    (colors tree node).notes ⊆ all → TextsIn P (colors tree node).value
  | .object members, reads, noted => by
    rw [colors] at noted ⊢
    exact addColors_texts members (fun _ member => reads.entry member) trivial noted
  | .null, _, _ | .bool _, _, _ | .int _, _, _ | .float _, _, _ | .string _, _, _
  | .array _, _, _ => trivial
termination_by structural node => node

theorem addColors_texts : ∀ (members : List (String × Json)) {found : Entries Json},
    (∀ entry ∈ members, Shows (resolvedText tree) all P entry.2) → TextsIn P found →
    (addColors tree found members).notes ⊆ all → TextsIn P (addColors tree found members).value
  | [], _, _, before, _ => before
  | (key, node) :: rest, found, reads, before, noted => by
    have here : Shows (resolvedText tree) all P node := reads _ List.mem_cons_self
    have later : ∀ entry ∈ rest, Shows (resolvedText tree) all P entry.2 :=
      fun entry member => reads entry (List.mem_cons_of_mem _ member)
    rw [addColors] at noted ⊢
    split at noted
    · next skipped =>
      rw [if_pos skipped]
      exact addColors_texts rest later before noted
    · next kept =>
      rw [if_neg kept]
      split at noted
      · next token =>
        rw [if_pos token]
        split at noted
        · next color =>
          rw [if_pos color]
          rw [Noted.notes_bind, List.append_subset] at noted
          have holds := here node .here token noted.1
          exact addColors_texts rest later (before.put _ (show Texts P (.string _) from holds)) noted.2
        · next other =>
          rw [if_neg other]
          exact addColors_texts rest later before noted
      · next group =>
        rw [if_neg group]
        rw [Noted.notes_bind, List.append_subset] at noted
        have inner := colors_texts node here noted.1
        refine addColors_texts rest later ?_ noted.2
        split
        · exact before
        · exact before.put _ (show Texts P (.object _) from inner)
termination_by structural members => members

end

mutual

private theorem addGroupDimensions_texts {unit : Option String} {path : String} {found result : Entries String}
    (before : Each P found) : ∀ (node : Json), Shows (resolvedDimension tree unit) all P node →
    Yields all (addGroupDimensions tree unit path found node) result → Each P result
  | .object members, reads, built => by
    rw [addGroupDimensions] at built
    exact addDimensions_texts members (fun _ member => reads.entry member) before built
  | .null, _, built | .bool _, _, built | .int _, _, built | .float _, _, built
  | .string _, _, built | .array _, _, built => built.pure ▸ before
termination_by structural node => node

theorem addDimensions_texts {unit : Option String} {path : String} {result : Entries String} :
    ∀ (members : List (String × Json)) {found : Entries String},
    (∀ entry ∈ members, Shows (resolvedDimension tree unit) all P entry.2) → Each P found →
    Yields all (addDimensions tree unit path found members) result → Each P result
  | [], _, _, before, built => built.pure ▸ before
  | (key, node) :: rest, found, reads, before, built => by
    have here : Shows (resolvedDimension tree unit) all P node := reads _ List.mem_cons_self
    have later : ∀ entry ∈ rest, Shows (resolvedDimension tree unit) all P entry.2 :=
      fun entry member => reads entry (List.mem_cons_of_mem _ member)
    rw [addDimensions] at built
    split at built
    · exact addDimensions_texts rest later before built
    · dsimp only at built
      split at built
      · next token =>
        obtain ⟨counts, _, built⟩ := built.bind
        cases counts with
        | true =>
          obtain ⟨text, shown, built⟩ := built.bind
          obtain ⟨noted, rfl⟩ := shown.ofNoted
          exact addDimensions_texts rest later (before.put _ (here node .here token noted)) built
        | false => exact addDimensions_texts rest later before built
      · obtain ⟨inner, inside, built⟩ := built.bind
        exact addDimensions_texts rest later (addGroupDimensions_texts before node here inside) built
termination_by structural members => members

end

structure PresetTexts (P : String → Prop) (preset : Preset) : Prop where
  fontSize : ∀ text, preset.fontSize = some text → P text
  lineHeight : ∀ text, preset.lineHeight = some text → P text
  letterSpacing : ∀ text, preset.letterSpacing = some text → P text
  fontWeight : ∀ text, preset.fontWeight = some text → P text

structure DefaultTexts (P : String → Prop) (defaults : GroupDefaults) : Prop where
  letterSpacing : ∀ text, defaults.letterSpacing = some text → P text
  fontWeight : ∀ text, defaults.fontWeight = some text → P text
  fontWeights : ∀ entry ∈ defaults.fontWeights, P entry.2

variable {unit : Option String}

theorem dimensionOf_texts (reads : Shows (resolvedDimension tree unit) all P node)
    (noted : (dimensionOf? tree unit node).notes ⊆ all) :
    ∀ text, (dimensionOf? tree unit node).value = some text → P text := by
  intro text read
  rw [dimensionOf?] at noted read
  split at noted
  · next token =>
    rw [if_pos token, Noted.value_map] at read
    rw [Noted.notes_map] at noted
    cases read
    exact reads node .here token noted
  · next other =>
    rw [if_neg other] at read
    cases read

private theorem tokenDimensions_texts {members : List (String × Json)}
    (reads : ∀ entry ∈ members, Shows (resolvedDimension tree unit) all P entry.2)
    (noted : (tokenDimensions tree unit members).notes ⊆ all) :
    ∀ entry ∈ (tokenDimensions tree unit members).value, P entry.2 := by
  induction members with
  | nil =>
    intro entry member
    cases member
  | cons first rest ih =>
    obtain ⟨key, node⟩ := first
    rw [tokenDimensions] at noted ⊢
    simp only [Noted.notes_bind, List.append_subset] at noted
    have here := dimensionOf_texts (reads _ List.mem_cons_self) noted.1
    have later := ih (fun entry member => reads entry (List.mem_cons_of_mem _ member)) noted.2.1
    simp only [Noted.value_bind, Noted.value_pure]
    cases text : (dimensionOf? tree unit node).value with
    | none => exact later
    | some text =>
      intro entry member
      rcases List.mem_cons.mp member with rfl | inside
      · exact here _ ‹_›
      · exact later entry inside

private theorem groupDefaults_texts {group : Entries Json}
    (lengths : Shows (resolvedDimension tree unit) all P (.object group))
    (weights : Shows (resolvedDimension tree none) all P (.object group))
    (noted : (groupDefaults tree unit group).notes ⊆ all) :
    DefaultTexts P (groupDefaults tree unit group).value := by
  have spacing := lengths.member groupLetterSpacing
  have weight := weights.member groupFontWeight
  rw [groupDefaults] at noted ⊢
  by_cases several : ((group.get? groupFontWeight).getD .null).isGroup = true
  · simp only [if_pos several, Noted.notes_bind, Noted.value_bind, List.append_subset] at noted ⊢
    exact ⟨dimensionOf_texts spacing noted.1, dimensionOf_texts weight noted.2.1,
      tokenDimensions_texts (fun _ member => weight.members member) noted.2.2.1⟩
  · simp only [if_neg several, Noted.notes_bind, Noted.value_bind, List.append_subset] at noted ⊢
    exact ⟨dimensionOf_texts spacing noted.1, dimensionOf_texts weight noted.2.1,
      fun _ member => nomatch member⟩

private theorem ownPreset_texts (lengths : Shows (resolvedDimension tree unit) all P node)
    (weights : Shows (resolvedDimension tree none) all P node)
    (noted : (ownPreset tree unit node).notes ⊆ all) :
    PresetTexts P (ownPreset tree unit node).value := by
  simp only [ownPreset, Noted.notes_bind, List.append_subset] at noted
  obtain ⟨size, height, spacing, weight, _⟩ := noted
  exact ⟨dimensionOf_texts (lengths.member _) size, dimensionOf_texts (lengths.member _) height,
    dimensionOf_texts (lengths.member _) spacing, dimensionOf_texts (weights.member _) weight⟩

private theorem fillSpacing_texts {defaults : GroupDefaults} {preset : Preset}
    (shared : DefaultTexts P defaults) (own : PresetTexts P preset) :
    PresetTexts P (defaults.fillSpacing preset) := by
  rw [GroupDefaults.fillSpacing]
  split
  · exact { own with letterSpacing := shared.letterSpacing }
  · exact own

private theorem variants_texts {defaults : GroupDefaults} {own : Preset} (name : String)
    (shared : DefaultTexts P defaults) (declared : PresetTexts P own) :
    ∀ entry ∈ defaults.variants name own, PresetTexts P entry.2 := by
  have filled := fillSpacing_texts shared declared
  intro entry member
  simp only [GroupDefaults.variants] at member
  split at member
  · cases member
  · split at member
    · cases List.mem_singleton.mp member
      exact filled
    · split at member
      · obtain ⟨weight, listed, rfl⟩ := List.mem_map.mp member
        refine { filled with fontWeight := ?_ }
        intro text same
        cases same
        exact shared.fontWeights weight listed
      · split at member
        · cases List.mem_singleton.mp member
          exact { filled with fontWeight := shared.fontWeight }
        · cases List.mem_singleton.mp member
          exact filled

private theorem addPresets_texts {defaults : GroupDefaults} (shared : DefaultTexts P defaults)
    {members : List (String × Json)} {found : Entries Preset}
    (lengths : ∀ entry ∈ members, Shows (resolvedDimension tree unit) all P entry.2)
    (weights : ∀ entry ∈ members, Shows (resolvedDimension tree none) all P entry.2)
    (before : Each (PresetTexts P) found)
    (noted : (addPresets tree unit defaults found members).notes ⊆ all) :
    Each (PresetTexts P) (addPresets tree unit defaults found members).value := by
  induction members generalizing found with
  | nil => exact before
  | cons first rest ih =>
    obtain ⟨key, node⟩ := first
    have ih := fun {found} => @ih found
      (fun entry member => lengths entry (List.mem_cons_of_mem _ member))
      (fun entry member => weights entry (List.mem_cons_of_mem _ member))
    rw [addPresets] at noted ⊢
    split at noted
    · next skipped =>
      rw [if_pos skipped]
      exact ih before noted
    · next kept =>
      rw [if_neg kept]
      rw [Noted.notes_bind, List.append_subset] at noted
      have own := ownPreset_texts (lengths _ List.mem_cons_self) (weights _ List.mem_cons_self)
        noted.1
      exact ih (before.putAll (variants_texts _ shared own)) noted.2

private theorem presets_texts {group : Entries Json}
    (lengths : Shows (resolvedDimension tree unit) all P (.object group))
    (weights : Shows (resolvedDimension tree none) all P (.object group))
    (noted : (presets tree unit group).notes ⊆ all) :
    Each (PresetTexts P) (presets tree unit group).value := by
  rw [presets, Noted.notes_bind, List.append_subset] at noted
  have shared := groupDefaults_texts lengths weights noted.1
  exact addPresets_texts shared (fun _ member => lengths.entry member)
    (fun _ member => weights.entry member) Each.nil noted.2

theorem Shows.groupAt {members : Entries Json} {path : List String}
    (reads : Shows read all P node) (found : groupAt? node path = some members) :
    Shows read all P (.object members) := by
  have reached := reads.atPath path
  rw [groupAt?] at found
  split at found
  · next same =>
    cases found
    rwa [same] at reached
  · cases found

theorem Shows.firstGroup {members : Entries Json} {paths : List (List String)}
    (reads : Shows read all P node) (found : (firstGroup node paths).value = some members) :
    Shows read all P (.object members) := by
  induction paths with
  | nil => cases found
  | cons path others ih =>
    rw [DesignTokens.firstGroup] at found
    split at found
    · next here =>
      cases found
      exact reads.groupAt here
    · exact ih found

theorem Shows.subgroup {members : Entries Json} {key : String} {nodes : List Json}
    (reads : ∀ node ∈ nodes, Shows read all P node) (found : subgroup? key nodes = some members) :
    Shows read all P (.object members) := by
  induction nodes with
  | nil => cases found
  | cons first others ih =>
    rw [subgroup?] at found
    split at found
    · next same =>
      cases found
      have inside := (reads first List.mem_cons_self).member key
      rwa [same] at inside
    · exact ih (fun node member => reads node (List.mem_cons_of_mem _ member)) found

structure ColorTexts (P : String → Prop) (colors : ColorBuckets) : Prop where
  primitive : TextsIn P colors.primitive
  text : TextsIn P colors.text
  bg : TextsIn P colors.bg
  border : TextsIn P colors.border
  icon : TextsIn P colors.icon

private theorem mergeColors_texts {sources : List (Entries Json)} {merged : Entries Json}
    (reads : ∀ source ∈ sources, Shows (resolvedText tree) all P (.object source))
    (before : TextsIn P merged) (noted : (mergeColors tree merged sources).notes ⊆ all) :
    TextsIn P (mergeColors tree merged sources).value := by
  induction sources generalizing merged with
  | nil => exact before
  | cons source others ih =>
    rw [mergeColors] at noted ⊢
    rw [Noted.notes_bind, List.append_subset] at noted
    have found := addColors_texts source
      (fun _ member => (reads source List.mem_cons_self).entry member) .nil noted.1
    exact ih (fun source member => reads source (List.mem_cons_of_mem _ member))
      (mergeMembers_texts _ before found) noted.2

theorem usageColors_texts {group : Entries Json} {usage : String}
    (reads : Shows (resolvedText tree) all P (.object group))
    (noted : (usageColors tree group usage).notes ⊆ all) :
    ∀ found, (usageColors tree group usage).value = some found → TextsIn P found := by
  intro found read
  rw [usageColors] at noted read
  cases same : group.get? usage with
  | none =>
    rw [same] at read
    cases read
  | some inner =>
    rw [same] at noted read
    cases inner with
    | object members =>
      rw [Noted.notes_map] at noted
      rw [Noted.value_map] at read
      cases read
      have inside := reads.entry (Entries.mem_of_get? same)
      exact addColors_texts members (fun _ member => inside.entry member) .nil noted
    | _ => cases read

theorem TextsIn.getD {found : Option (Entries Json)} (texts : ∀ inner, found = some inner → TextsIn P inner) :
    TextsIn P (found.getD []) := by
  cases found with
  | none => exact trivial
  | some inner => exact texts inner rfl

private theorem assembleColors_texts {options : Options} (reads : Shows (resolvedText tree) all P tree)
    (noted : (assembleColors tree options).notes ⊆ all) :
    ColorTexts P (assembleColors tree options).value := by
  rw [assembleColors] at noted ⊢
  simp only [Noted.notes_bind, Noted.value_bind, List.append_subset] at noted ⊢
  have sources : ∀ source ∈ (primitiveColorPaths options.setName).filterMap (groupAt? tree),
      Shows (resolvedText tree) all P (.object source) := by
    intro source member
    obtain ⟨path, _, found⟩ := List.mem_filterMap.mp member
    exact reads.groupAt found
  have primitive := mergeColors_texts sources .nil noted.1
  have noted := noted.2.2
  cases found : (firstGroup tree [[options.setName, "semantic", "color"], [Legacy.semanticColor]]).value
    with
  | none => exact ⟨primitive, .nil, .nil, .nil, .nil⟩
  | some group =>
    have inside := reads.firstGroup found
    simp only [found, Noted.notes_bind, List.append_subset] at noted
    obtain ⟨text, bg, border, icon, other, _⟩ := noted
    refine ⟨?_, TextsIn.getD (usageColors_texts inside text),
      TextsIn.getD (usageColors_texts inside bg), TextsIn.getD (usageColors_texts inside border),
      TextsIn.getD (usageColors_texts inside icon)⟩
    simp only [Noted.value_bind, Noted.value_pure]
    split
    · next colors same =>
      exact primitive.put _ (show Texts P (.object _) from usageColors_texts inside other _ same)
    · exact primitive

theorem bucketDimensions_texts {name key : String} {nodes : List Json} {result : Entries String}
    (reads : ∀ node ∈ nodes, Shows (resolvedDimension tree unit) all P node)
    (built : Yields all (bucketDimensions tree unit name (subgroup? key nodes)) result) :
    Each P result := by
  cases found : subgroup? key nodes with
  | none =>
    rw [found] at built
    exact built.pure ▸ Each.nil
  | some members =>
    rw [found] at built
    refine addDimensions_texts _ ?_ Each.nil built
    intro entry member
    cases List.mem_singleton.mp member
    exact Shows.subgroup reads found

structure SizeTexts (P : String → Prop) (sizes : SizeBuckets) : Prop where
  spacing : Each P sizes.spacing
  borderRadius : Each P sizes.borderRadius
  borderWidth : Each P sizes.borderWidth
  container : Each P sizes.container

private theorem assembleSizes_texts {options : Options} {sizes : SizeBuckets}
    (reads : Shows (resolvedDimension tree options.unit) all P tree)
    (built : Yields all (assembleSizes tree options) sizes) : SizeTexts P sizes := by
  have primitive := reads.atPath [options.setName, "primitive"]
  have semantic := reads.atPath [options.setName, "semantic", "size"]
  have legacy := List.forall_mem_singleton.mpr (reads.member Legacy.primitiveSize)
  have semantic_legacy := List.forall_mem_cons.mpr ⟨semantic, legacy⟩
  rw [assembleSizes] at built
  obtain ⟨units, units_built, built⟩ := built.bind
  obtain ⟨spaces, spaces_built, built⟩ := built.bind
  obtain ⟨radius, radius_built, built⟩ := built.bind
  obtain ⟨width, width_built, built⟩ := built.bind
  obtain ⟨container, container_built, built⟩ := built.bind
  have units_texts := bucketDimensions_texts (List.forall_mem_cons.mpr ⟨primitive, legacy⟩) units_built
  have spaces_texts := bucketDimensions_texts semantic_legacy spaces_built
  cases built.pure
  exact {
    spacing := units_texts.putAll spaces_texts.2
    borderRadius := bucketDimensions_texts semantic_legacy radius_built
    borderWidth := bucketDimensions_texts semantic_legacy width_built
    container := bucketDimensions_texts (List.forall_mem_singleton.mpr semantic) container_built }

structure ScaleTexts (P : String → Prop) (scales : ScaleBuckets) : Prop where
  fontSize : Each P scales.fontSize
  lineHeight : Each P scales.lineHeight
  letterSpacing : Each P scales.letterSpacing
  fontWeight : Each P scales.fontWeight

private theorem assembleScales_texts {options : Options} {scales : ScaleBuckets}
    (lengths : Shows (resolvedDimension tree options.unit) all P tree)
    (weights : Shows (resolvedDimension tree none) all P tree)
    (built : Yields all (assembleScales tree options) scales) : ScaleTexts P scales := by
  rw [assembleScales] at built
  obtain ⟨source, found, built⟩ := built.bind
  obtain ⟨_, found⟩ := found.ofNoted
  cases source with
  | none =>
    cases built.pure
    exact ⟨Each.nil, Each.nil, Each.nil, Each.nil⟩
  | some members =>
    have lengths := List.forall_mem_singleton.mpr (lengths.firstGroup found)
    have weights := List.forall_mem_singleton.mpr (weights.firstGroup found)
    obtain ⟨size, size_built, built⟩ := built.bind
    obtain ⟨height, height_built, built⟩ := built.bind
    obtain ⟨spacing, spacing_built, built⟩ := built.bind
    obtain ⟨weight, weight_built, built⟩ := built.bind
    cases built.pure
    exact {
      fontSize := bucketDimensions_texts lengths size_built
      lineHeight := bucketDimensions_texts lengths height_built
      letterSpacing := bucketDimensions_texts lengths spacing_built
      fontWeight := bucketDimensions_texts weights weight_built }

private theorem assemblePresets_texts {options : Options} {group : Entries Json} {key : String}
    (lengths : Shows (resolvedDimension tree options.unit) all P (.object group))
    (weights : Shows (resolvedDimension tree none) all P (.object group))
    (noted : (assemblePresets tree options group key).notes ⊆ all) :
    Each (PresetTexts P) (assemblePresets tree options group key).value := by
  rw [assemblePresets] at noted ⊢
  cases same : group.get? key with
  | none => exact Each.nil
  | some inner =>
    rw [same] at noted
    cases inner with
    | object members =>
      have member := Entries.mem_of_get? same
      exact presets_texts (lengths.entry member) (weights.entry member) noted
    | _ => exact Each.nil

structure TypographyTexts (P : String → Prop) (typography : TypographyBuckets) : Prop where
  heading : Each (PresetTexts P) typography.heading
  body : Each (PresetTexts P) typography.body

private theorem assembleTypography_texts {options : Options}
    (lengths : Shows (resolvedDimension tree options.unit) all P tree)
    (weights : Shows (resolvedDimension tree none) all P tree)
    (noted : (assembleTypography tree options).notes ⊆ all) :
    TypographyTexts P (assembleTypography tree options).value := by
  rw [assembleTypography] at noted ⊢
  rw [Noted.notes_bind, List.append_subset] at noted
  rw [Noted.value_bind]
  replace noted := noted.2
  split at noted
  · exact ⟨Each.nil, Each.nil⟩
  · next group found =>
    have lengths := lengths.firstGroup found
    have weights := weights.firstGroup found
    simp only [Noted.notes_bind, List.append_subset] at noted
    exact ⟨assemblePresets_texts lengths weights noted.1,
      assemblePresets_texts lengths weights noted.2.1⟩

/-- Colours with a property at all leaves, and lengths with another one. -/
structure AllTexts (C L : String → Prop) (model : Model) : Prop where
  colors : ColorTexts C model.colors
  spacing : Each L model.spacing
  container : Each L model.container
  fontSize : Each L model.fontSize
  lineHeight : Each L model.lineHeight
  fontWeight : Each L model.fontWeight
  letterSpacing : Each L model.letterSpacing
  borderRadius : Each L model.borderRadius
  borderWidth : Each L model.borderWidth
  typography : TypographyTexts L model.typography

theorem assemble_texts {C L : String → Prop} {options : Options} {model : Model}
    (colors : Shows (resolvedText tree) all C tree)
    (lengths : Shows (resolvedDimension tree options.unit) all L tree)
    (weights : Shows (resolvedDimension tree none) all L tree)
    (built : Yields all (assemble options tree) model) : AllTexts C L model := by
  rw [assemble] at built
  obtain ⟨colorBuckets, colors_built, built⟩ := built.bind
  obtain ⟨sizes, sizes_built, built⟩ := built.bind
  obtain ⟨scales, scales_built, built⟩ := built.bind
  obtain ⟨typography, typography_built, built⟩ := built.bind
  obtain ⟨colors_noted, rfl⟩ := colors_built.ofNoted
  obtain ⟨typography_noted, rfl⟩ := typography_built.ofNoted
  have sizes_texts := assembleSizes_texts lengths sizes_built
  have scales_texts := assembleScales_texts lengths weights scales_built
  cases built.pure
  exact {
    colors := assembleColors_texts colors colors_noted
    spacing := sizes_texts.spacing
    container := sizes_texts.container
    fontSize := scales_texts.fontSize
    lineHeight := scales_texts.lineHeight
    fontWeight := scales_texts.fontWeight
    letterSpacing := scales_texts.letterSpacing
    borderRadius := sizes_texts.borderRadius
    borderWidth := sizes_texts.borderWidth
    typography := assembleTypography_texts lengths weights typography_noted }

/-- Whatever the tree has for texts, its model has nothing but texts, and each name once in its
map. -/
theorem assemble_allTexts {options : Options} {raw : Json} {model : Model}
    (built : (assemble options raw).run.value = .ok model) :
    AllTexts (fun _ => True) (fun _ => True) model :=
  assemble_texts (fun _ _ _ _ => trivial) (fun _ _ _ _ => trivial) (fun _ _ _ _ => trivial)
    ⟨List.Subset.refl _, built⟩

end DesignTokens.Proofs.ModelTexts
