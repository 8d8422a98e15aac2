import DesignTokens.Assembly
import DesignTokens.Proofs.Likeness

/-! Two assemblies that go together. Besides the nodes of the trees, the places at which both look for
the groups of the buckets have to be related. These may lie in sets of different names: then the notes
of where a group was found differ, which no report shows. -/

namespace DesignTokens.Proofs.Likeness

variable {allowed : Note → Prop}

/-- Ways in which the notes of two runs may agree. -/
class Agreement (agree : List Note → List Note → Prop) : Prop where
  refl : ∀ notes, agree notes notes
  append : ∀ {one two more more'}, agree one two → agree more more' → agree (one ++ more) (two ++ more')

def SameNotes (one two : List Note) : Prop := two = one

/-- Notes that do the same to every report. The source of a bucket does not show in one. -/
def SameReport (one two : List Note) : Prop :=
  ∀ report : Report, report.addAll two = report.addAll one

instance : Agreement SameNotes where
  refl _ := rfl
  append first second := by rw [SameNotes, first, second]

instance : Agreement SameReport where
  refl _ _ := rfl
  append first second := by
    intro report
    rw [Report.addAll_append, Report.addAll_append, first, second]

/-- As for results that go together, but the notes need only agree. -/
def Linked (agree : List Note → List Note → Prop) (allowed : Note → Prop) {α β : Type} (S : α → β → Prop)
    (first : Noted α) (second : Noted β) : Prop :=
  (∀ note ∈ first.notes, allowed note) → agree first.notes second.notes ∧ S first.value second.value

abbrev Aligned (agree : List Note → List Note → Prop) (allowed : Note → Prop) {α β : Type} (S : α → β → Prop)
    (first : Extraction α) (second : Extraction β) : Prop :=
  Linked agree allowed (OutcomeLike S) first.run second.run

section Linked

variable {agree : List Note → List Note → Prop} [Agreement agree] {α β γ δ : Type} {S : α → β → Prop}
  {T : γ → δ → Prop}

theorem Together.linked {first : Noted α} {second : Noted β} (related : Together allowed S first second) :
    Linked agree allowed S first second := by
  intro noted
  obtain ⟨notes, values⟩ := related noted
  exact ⟨notes ▸ Agreement.refl _, values⟩

theorem Linked.together {first : Noted α} {second : Noted β}
    (related : Linked SameNotes allowed S first second) : Together allowed S first second :=
  fun noted => related noted

theorem Linked.bind {first : Noted α} {second : Noted β} {next : α → Noted γ}
    {next' : β → Noted δ} (related : Linked agree allowed S first second)
    (onward : ∀ {value value'}, S value value' → Linked agree allowed T (next value) (next' value')) :
    Linked agree allowed T (first >>= next) (second >>= next') := by
  intro noted
  rw [Noted.notes_bind, List.forall_mem_append] at noted
  obtain ⟨notes, values⟩ := related noted.1
  obtain ⟨later, results⟩ := onward values noted.2
  exact ⟨Agreement.append notes later, results⟩

theorem Abreast.level {first : Extraction α} {second : Extraction β}
    (related : Abreast allowed S first second) : Aligned agree allowed S first second :=
  Together.linked related

theorem Aligned.pure {value : α} {value' : β} (related : S value value') :
    Aligned agree allowed S (pure value) (pure value') :=
  (Abreast.pure related).level

omit [Agreement agree] in
theorem Aligned.ofNoted {first : Noted α} {second : Noted β} (related : Linked agree allowed S first second) :
    Aligned agree allowed S (.ofNoted first) (.ofNoted second) :=
  fun noted => ⟨(related noted).1, .ok (related noted).2⟩

theorem Aligned.bind {first : Extraction α} {second : Extraction β} {next : α → Extraction γ}
    {next' : β → Extraction δ} (related : Aligned agree allowed S first second)
    (onward : ∀ {value value'}, S value value' → Aligned agree allowed T (next value) (next' value')) :
    Aligned agree allowed T (first >>= next) (second >>= next') := by
  refine Linked.bind related ?_
  intro outcome outcome' reached
  cases reached with
  | error fault => exact fun _ => ⟨Agreement.refl _, .error fault⟩
  | ok values => exact onward values

end Linked

structure SizesLike (L : String → String → Prop) (sizes other : SizeBuckets) : Prop where
  spacing : Paired L sizes.spacing other.spacing
  borderRadius : Paired L sizes.borderRadius other.borderRadius
  borderWidth : Paired L sizes.borderWidth other.borderWidth
  container : Paired L sizes.container other.container

structure ScalesLike (L : String → String → Prop) (scales other : ScaleBuckets) : Prop where
  fontSize : Paired L scales.fontSize other.fontSize
  lineHeight : Paired L scales.lineHeight other.lineHeight
  letterSpacing : Paired L scales.letterSpacing other.letterSpacing
  fontWeight : scales.fontWeight = other.fontWeight

structure TypographyLike (L : String → String → Prop) (typography other : TypographyBuckets) : Prop where
  heading : Paired (PresetLike L) typography.heading other.heading
  body : Paired (PresetLike L) typography.body other.body

/-- Models that differ in related lengths only: every map has the same keys in the same order. -/
structure ModelLike (L : String → String → Prop) (model other : Model) : Prop where
  colors : model.colors = other.colors
  spacing : Paired L model.spacing other.spacing
  container : Paired L model.container other.container
  fontSize : Paired L model.fontSize other.fontSize
  lineHeight : Paired L model.lineHeight other.lineHeight
  fontWeight : model.fontWeight = other.fontWeight
  letterSpacing : Paired L model.letterSpacing other.letterSpacing
  borderRadius : Paired L model.borderRadius other.borderRadius
  borderWidth : Paired L model.borderWidth other.borderWidth
  typography : TypographyLike L model.typography other.typography

theorem TypographyLike.eq {typography other : TypographyBuckets}
    (alike : TypographyLike Eq typography other) : typography = other := by
  obtain ⟨heading, body⟩ := alike
  cases typography
  cases other
  cases (heading.imp PresetLike.eq).eq
  cases (body.imp PresetLike.eq).eq
  rfl

theorem ModelLike.eq {model other : Model} (alike : ModelLike Eq model other) : model = other := by
  obtain ⟨colors, spacing, container, size, height, weight, letters, radius, width, typography⟩ := alike
  cases model
  cases other
  cases colors
  cases spacing.eq
  cases container.eq
  cases size.eq
  cases height.eq
  cases weight
  cases letters.eq
  cases radius.eq
  cases width.eq
  cases typography.eq
  rfl

/-- Where the two runs find the groups of their buckets, each in the set that has its name in the tree
of the run: at related places, or both nowhere. -/
structure Placed (agree : List Note → List Note → Prop) (allowed : Note → Prop) (tree other : Json)
    (R : Json → Json → Prop) (setName setName' : String) : Prop where
  primitive : List.Forall₂ (Paired R) ((primitiveColorPaths setName).filterMap (groupAt? tree))
    ((primitiveColorPaths setName').filterMap (groupAt? other))
  color : Linked agree allowed (Sources R)
    (firstGroup tree [[setName, "semantic", "color"], [Legacy.semanticColor]])
    (firstGroup other [[setName', "semantic", "color"], [Legacy.semanticColor]])
  unit : Sources R
    (subgroup? "size-unit" [tree.atPath [setName, "primitive"], tree.member Legacy.primitiveSize])
    (subgroup? "size-unit" [other.atPath [setName', "primitive"], other.member Legacy.primitiveSize])
  size : ∀ key ∈ ["space", "border-radius", "border-width"], Sources R
    (subgroup? key [tree.atPath [setName, "semantic", "size"], tree.member Legacy.primitiveSize])
    (subgroup? key [other.atPath [setName', "semantic", "size"], other.member Legacy.primitiveSize])
  container : Sources R (subgroup? "container" [tree.atPath [setName, "semantic", "size"]])
    (subgroup? "container" [other.atPath [setName', "semantic", "size"]])
  scales : Linked agree allowed (Sources R)
    (firstGroup tree [[setName, "primitive", "typography"], ["", Legacy.primitiveTypography],
      ["." ++ Legacy.primitiveTypography]])
    (firstGroup other [[setName', "primitive", "typography"], ["", Legacy.primitiveTypography],
      ["." ++ Legacy.primitiveTypography]])
  typography : Linked agree allowed (Sources R)
    (firstGroup tree [[setName, "semantic", "typography"], [Legacy.semanticTypography]])
    (firstGroup other [[setName', "semantic", "typography"], [Legacy.semanticTypography]])

abbrev Located (allowed : Note → Prop) (tree other : Json) (R : Json → Json → Prop) (setName : String) :
    Prop :=
  Placed SameNotes allowed tree other R setName setName

namespace Mirror

variable {tree other node twin : Json} {R : Json → Json → Prop} {L : String → String → Prop}
  {unit unit' : Option String}

private theorem mergeColors_together (mirror : Mirror allowed tree other R)
    {sources sources' : List (Entries Json)} (related : List.Forall₂ (Paired R) sources sources')
    (merged : Entries Json) :
    Together allowed Eq (mergeColors tree merged sources) (mergeColors other merged sources') := by
  induction related generalizing merged with
  | nil => exact .of_eq rfl
  | cons paired _ ih =>
    rw [mergeColors, mergeColors]
    refine (mirror.addColors_together _ paired []).bind ?_
    rintro found _ rfl
    exact ih _

/-- The object that members have under a key, if they have one. -/
theorem getObject_eq (mirror : Mirror allowed tree other R) {members members' : Entries Json}
    (paired : Paired R members members') (key : String) :
    Sources R ((members.get? key).bind object?) ((members'.get? key).bind object?) := by
  have found := paired.get? key
  generalize members.get? key = one at found
  generalize members'.get? key = two at found
  cases found with
  | none => exact .none
  | some related => exact mirror.object_eq related

private theorem usageColors_cases (raw : Json) (group : Entries Json) (usage : String) :
    usageColors raw group usage = match (group.get? usage).bind object? with
      | some members => some <$> addColors raw [] members
      | none => pure none := by
  rw [usageColors]
  rcases group.get? usage with _ | node
  · rfl
  · cases node <;> rfl

private theorem usageColors_together (mirror : Mirror allowed tree other R) {members members' : Entries Json}
    (paired : Paired R members members') (usage : String) :
    Together allowed Eq (usageColors tree members usage) (usageColors other members' usage) := by
  have found := mirror.getObject_eq paired usage
  rw [usageColors_cases, usageColors_cases]
  generalize (members.get? usage).bind object? = one at found
  generalize (members'.get? usage).bind object? = two at found
  cases found with
  | none => exact .of_eq rfl
  | some related =>
    exact (mirror.addColors_together _ (mirror.members related) []).map (congrArg some)

theorem bucketDimensions_abreast (mirror : Mirror allowed tree other R) (units : Units L unit unit')
    {one two : Option (Entries Json)} (found : Sources R one two) (name : String) :
    Abreast allowed (Paired L) (bucketDimensions tree unit name one)
      (bucketDimensions other unit' name two) := by
  cases found with
  | none => exact .pure .nil
  | @some members members' found =>
    have named : Paired R [(name, .object members)] [(name, .object members')] := .cons ⟨rfl, found⟩ .nil
    exact mirror.addDimensions_abreast units "" _ named .nil

private theorem assemblePresets_cases (raw : Json) (options : Options) (group : Entries Json)
    (key : String) :
    assemblePresets raw options group key = match (group.get? key).bind object? with
      | some members => presets raw options.unit members
      | none => pure [] := by
  rw [assemblePresets]
  rcases group.get? key with _ | node
  · rfl
  · cases node <;> rfl

theorem subgroup_cons (key : String) (node : Json) (others : List Json) :
    subgroup? key (node :: others) = (object? (node.member key)).or (subgroup? key others) := by
  rw [subgroup?]
  cases node.member key <;> rfl

theorem subgroup_eq (mirror : Mirror allowed tree other R) (key : String) {nodes twins : List Json}
    (related : List.Forall₂ R nodes twins) : Sources R (subgroup? key nodes) (subgroup? key twins) := by
  induction related with
  | nil => exact .none
  | @cons node twin nodes twins related _ ih =>
    have found := mirror.object_eq (mirror.member related key)
    rw [subgroup_cons, subgroup_cons]
    generalize object? (node.member key) = one at found
    generalize object? (twin.member key) = two at found
    cases found with
    | none => exact ih
    | some found => exact .some found

section Assembly

variable {agree : List Note → List Note → Prop} [Agreement agree] {setName setName' : String}

private theorem assembleColors_linked (mirror : Mirror allowed tree other R)
    (placed : Placed agree allowed tree other R setName setName') :
    Linked agree allowed Eq (assembleColors tree ⟨unit, setName⟩)
      (assembleColors other ⟨unit', setName'⟩) := by
  rw [assembleColors, assembleColors]
  refine (mirror.mergeColors_together placed.primitive []).linked.bind ?_
  rintro primitive _ rfl
  refine placed.color.bind fun group => ?_
  cases group with
  | none => exact (Together.of_eq rfl).linked
  | @some members members' group =>
    have usage (name : String) : Linked agree allowed Eq (usageColors tree members name)
        (usageColors other members' name) :=
      (mirror.usageColors_together (mirror.members group) name).linked
    refine (usage "text").bind ?_
    rintro text _ rfl
    refine (usage "bg").bind ?_
    rintro bg _ rfl
    refine (usage "border").bind ?_
    rintro border _ rfl
    refine (usage "icon").bind ?_
    rintro icon _ rfl
    refine (usage otherUsage).bind ?_
    rintro colors _ rfl
    exact (Together.of_eq rfl).linked

private theorem assembleSizes_aligned (mirror : Mirror allowed tree other R) (units : Units L unit unit')
    (placed : Placed agree allowed tree other R setName setName') :
    Aligned agree allowed (SizesLike L) (assembleSizes tree ⟨unit, setName⟩)
      (assembleSizes other ⟨unit', setName'⟩) := by
  have bucket {one two : Option (Entries Json)} (found : Sources R one two) (name : String) :
      Aligned agree allowed (Paired L) (bucketDimensions tree unit name one)
        (bucketDimensions other unit' name two) :=
    (mirror.bucketDimensions_abreast units found name).level
  have size (key : String) (listed : key ∈ ["space", "border-radius", "border-width"]) :=
    bucket (placed.size key listed) key
  rw [assembleSizes, assembleSizes]
  refine (bucket placed.unit _).bind fun small => ?_
  refine (size "space" (by simp)).bind fun spaces => ?_
  refine (size "border-radius" (by simp)).bind fun radius => ?_
  refine (size "border-width" (by simp)).bind fun width => ?_
  refine (bucket placed.container _).bind fun container => ?_
  exact .pure ⟨small.putAll spaces, radius, width, container⟩

private theorem assembleScales_aligned (mirror : Mirror allowed tree other R) (units : Units L unit unit')
    (placed : Placed agree allowed tree other R setName setName') :
    Aligned agree allowed (ScalesLike L) (assembleScales tree ⟨unit, setName⟩)
      (assembleScales other ⟨unit', setName'⟩) := by
  rw [assembleScales, assembleScales]
  refine (Aligned.ofNoted placed.scales).bind fun source => ?_
  cases source with
  | none => exact .pure ⟨.nil, .nil, .nil, rfl⟩
  | some source =>
    have found (key : String) := mirror.subgroup_eq key (.cons source .nil)
    have scale (key name : String) := mirror.bucketDimensions_abreast units (found key) name
    have weights := mirror.bucketDimensions_abreast (.same none) (found "font weight")
    refine (scale "font size" _).level.bind fun size => ?_
    refine (scale "line height" _).level.bind fun height => ?_
    refine (scale "letter spacing" _).level.bind fun spacing => ?_
    refine (weights _).level.bind fun weight => ?_
    exact .pure ⟨size, height, spacing, weight.eq⟩

private theorem assemblePresets_together (mirror : Mirror allowed tree other R) (units : Units L unit unit')
    {members members' : Entries Json} (paired : Paired R members members') (key : String) :
    Together allowed (Paired (PresetLike L)) (assemblePresets tree ⟨unit, setName⟩ members key)
      (assemblePresets other ⟨unit', setName⟩ members' key) := by
  have found := mirror.getObject_eq paired key
  rw [assemblePresets_cases, assemblePresets_cases]
  generalize (members.get? key).bind object? = one at found
  generalize (members'.get? key).bind object? = two at found
  cases found with
  | none => exact .pure .nil
  | some related => exact mirror.presets_together units related

private theorem assembleTypography_linked (mirror : Mirror allowed tree other R)
    (units : Units L unit unit') (placed : Placed agree allowed tree other R setName setName') :
    Linked agree allowed (TypographyLike L) (assembleTypography tree ⟨unit, setName⟩)
      (assembleTypography other ⟨unit', setName'⟩) := by
  rw [assembleTypography, assembleTypography]
  refine placed.typography.bind fun group => ?_
  cases group with
  | none => exact (Together.pure ⟨.nil, .nil⟩).linked
  | @some members members' group =>
    have paired := mirror.members group
    refine (mirror.assemblePresets_together units paired "Heading").linked.bind fun heading => ?_
    refine (mirror.assemblePresets_together units paired "Body").linked.bind fun body => ?_
    exact (Together.pure ⟨heading, body⟩).linked

/-- Runs over trees with their groups at related places go together as far as the notes of finding
these groups agree. -/
theorem assemble_aligned (mirror : Mirror allowed tree other R) (units : Units L unit unit')
    (placed : Placed agree allowed tree other R setName setName') :
    Aligned agree allowed (ModelLike L) (assemble ⟨unit, setName⟩ tree)
      (assemble ⟨unit', setName'⟩ other) := by
  rw [assemble, assemble]
  refine (Aligned.ofNoted (mirror.assembleColors_linked placed)).bind fun colors => ?_
  refine (mirror.assembleSizes_aligned units placed).bind fun sizes => ?_
  refine (mirror.assembleScales_aligned units placed).bind fun scales => ?_
  refine (Aligned.ofNoted (mirror.assembleTypography_linked units placed)).bind fun typography => ?_
  exact .pure {
    colors
    spacing := sizes.spacing
    container := sizes.container
    fontSize := scales.fontSize
    lineHeight := scales.lineHeight
    fontWeight := scales.fontWeight
    letterSpacing := scales.letterSpacing
    borderRadius := sizes.borderRadius
    borderWidth := sizes.borderWidth
    typography }

end Assembly

/-- Runs over related trees, with units that format to related lengths, go together. -/
theorem assemble_abreast (mirror : Mirror allowed tree other R) (units : Units L unit unit')
    {setName : String} (located : Located allowed tree other R setName) :
    Abreast allowed (ModelLike L) (assemble ⟨unit, setName⟩ tree) (assemble ⟨unit', setName⟩ other) :=
  (mirror.assemble_aligned units located).together

private theorem groupAt_eq (mirror : Mirror allowed tree other R) (related : R node twin)
    (path : List String) : Sources R (groupAt? node path) (groupAt? twin path) :=
  mirror.object_eq (mirror.atPath related path)

theorem firstGroup_together (mirror : Mirror allowed tree other R) (related : R node twin)
    (paths : List (List String)) :
    Together allowed (Sources R) (firstGroup node paths) (firstGroup twin paths) := by
  induction paths with
  | nil => exact .pure .none
  | cons path others ih =>
    have found := mirror.groupAt_eq related path
    rw [firstGroup, firstGroup]
    generalize groupAt? node path = one at found
    generalize groupAt? twin path = two at found
    cases found with
    | none => exact ih
    | some found => exact fun _ => ⟨rfl, .some found⟩

private theorem sources_paired (mirror : Mirror allowed tree other R) (related : R node twin)
    (paths : List (List String)) :
    List.Forall₂ (Paired R) (paths.filterMap (groupAt? node)) (paths.filterMap (groupAt? twin)) := by
  induction paths with
  | nil => exact .nil
  | cons path paths ih =>
    have found := mirror.groupAt_eq related path
    rw [List.filterMap_cons, List.filterMap_cons]
    generalize groupAt? node path = one at found
    generalize groupAt? twin path = two at found
    cases found with
    | none => exact ih
    | some found => exact .cons (mirror.members found) ih

/-- Related trees have their groups at related places. -/
theorem located (mirror : Mirror allowed tree other R) (related : R node twin) (setName : String) :
    Located allowed node twin R setName := by
  have semantic := mirror.atPath related [setName, "semantic", "size"]
  have legacy := mirror.member related Legacy.primitiveSize
  exact {
    primitive := mirror.sources_paired related _
    color := (mirror.firstGroup_together related _).linked
    unit := mirror.subgroup_eq _ (.cons (mirror.atPath related _) (.cons legacy .nil))
    size := fun key _ => mirror.subgroup_eq key (.cons semantic (.cons legacy .nil))
    container := mirror.subgroup_eq _ (.cons semantic .nil)
    scales := (mirror.firstGroup_together related _).linked
    typography := (mirror.firstGroup_together related _).linked }

end Mirror

section Equal

variable {tree other : Json} {R : Json → Json → Prop}

theorem Abreast.eq {α : Type} {first second : Extraction α} (abreast : Abreast allowed Eq first second)
    (noted : ∀ note ∈ first.run.notes, allowed note) : second = first := by
  obtain ⟨notes, values⟩ := abreast noted
  exact Noted.ext notes values.eq.symm

theorem Abreast.imp {α β : Type} {S T : α → β → Prop} {first : Extraction α} {second : Extraction β}
    (abreast : Abreast allowed S first second)
    (implies : ∀ {value value'}, S value value' → T value value') : Abreast allowed T first second := by
  intro noted
  obtain ⟨notes, values⟩ := abreast noted
  exact ⟨notes, values.imp implies⟩

/-- As long as all notes are allowed, two trees with their groups at related places have one model, or
fail alike, with the same notes. -/
theorem Mirror.assemble_eq_of_allowed (mirror : Mirror allowed tree other R) {options : Options}
    (located : Located allowed tree other R options.setName)
    (noted : ∀ note ∈ (assemble options tree).run.notes, allowed note) :
    assemble options other = assemble options tree :=
  ((mirror.assemble_abreast (.same options.unit) located).imp ModelLike.eq).eq noted

/-- Related trees have one model, or fail alike, with the same notes. -/
theorem Mirror.assemble_eq (mirror : Mirror (fun _ => True) tree other R) (related : R tree other)
    (options : Options) : assemble options tree = assemble options other :=
  (mirror.assemble_eq_of_allowed (mirror.located related _) fun _ _ => trivial).symm

end Equal

end DesignTokens.Proofs.Likeness
