import DesignTokens.Extract.Color
import DesignTokens.Extract.Typography
import Mathlib.Data.List.Forall2

/-! Two runs that go together. Their trees need not be equal: it is enough that the nodes are related
in such a way that related tokens resolve to one value, each in its own tree. Their units need not be
equal either, as long as the lengths that are formatted with them are related. Then both runs take
the same notes, and what they extract differs in related lengths only. If the trees are alike only as
far as certain notes are never taken, so are the runs. -/

namespace DesignTokens.Proofs.Likeness

/-- Entries under the same names in the same order, with related values. -/
abbrev Paired {α : Type} (R : α → α → Prop) (one two : Entries α) : Prop :=
  List.Forall₂ (fun entry other => entry.1 = other.1 ∧ R entry.2 other.2) one two

section Paired

variable {α : Type} {R : α → α → Prop} {one two : Entries α} {value value' : α}

theorem Paired.get? (paired : Paired R one two) (key : String) :
    Option.Rel R (one.get? key) (two.get? key) := by
  induction paired with
  | nil => exact .none
  | @cons entry other one two related rest ih =>
    obtain ⟨name, value⟩ := entry
    obtain ⟨name', value'⟩ := other
    obtain ⟨same, related⟩ := related
    cases same
    rw [Entries.get?_cons, Entries.get?_cons]
    split
    · exact .some related
    · exact ih

theorem Paired.put (paired : Paired R one two) (key : String) (related : R value value') :
    Paired R (one.put key value) (two.put key value') := by
  induction paired with
  | nil => exact .cons ⟨rfl, related⟩ .nil
  | @cons entry other one two first rest ih =>
    obtain ⟨name, old⟩ := entry
    obtain ⟨name', old'⟩ := other
    obtain ⟨same, first⟩ := first
    cases same
    rw [Entries.put, Entries.put]
    split
    · exact .cons ⟨rfl, related⟩ rest
    · exact .cons ⟨rfl, first⟩ ih

theorem Paired.putAll {added added' : Entries α} (paired : Paired R one two)
    (new : Paired R added added') :
    Paired R (added.foldl (fun entries entry => entries.put entry.1 entry.2) one)
      (added'.foldl (fun entries entry => entries.put entry.1 entry.2) two) := by
  induction new generalizing one two with
  | nil => exact paired
  | @cons entry other _ _ related _ ih =>
    rw [List.foldl_cons, List.foldl_cons, ← related.1]
    exact ih (paired.put entry.1 related.2)

theorem Paired.eq (paired : Paired Eq one two) : one = two := by
  induction paired with
  | nil => rfl
  | cons related _ ih => rw [Prod.ext related.1 related.2, ih]

theorem Paired.imp {S : α → α → Prop} (paired : Paired R one two)
    (implies : ∀ {value value'}, R value value' → S value value') : Paired S one two :=
  List.Forall₂.imp (fun _ _ related => ⟨related.1, implies related.2⟩) paired

theorem paired_self (reflexive : ∀ node, R node node) (members : Entries α) :
    Paired R members members :=
  List.forall₂_same.mpr fun entry _ => ⟨rfl, reflexive entry.2⟩

/-- Two lists of members that differ in one place. -/
theorem paired_at (reflexive : ∀ node, R node node) (before after : Entries α) (key : String)
    (related : R value value') :
    Paired R (before ++ (key, value) :: after) (before ++ (key, value') :: after) :=
  List.rel_append (paired_self reflexive before) (.cons ⟨rfl, related⟩ (paired_self reflexive after))

theorem paired_put (reflexive : ∀ node, R node node) {members : Entries α} {key : String}
    (present : members.get? key = some value) (related : R value value') :
    Paired R members (members.put key value') := by
  induction members with
  | nil => cases present
  | cons entry rest ih =>
    obtain ⟨name, old⟩ := entry
    rw [Entries.get?_cons] at present
    rw [Entries.put]
    split at present
    · next same =>
      cases same
      cases present
      rw [if_pos rfl]
      exact .cons ⟨rfl, related⟩ (paired_self reflexive rest)
    · next different =>
      rw [if_neg different]
      exact .cons ⟨rfl, reflexive old⟩ (ih present)

end Paired

theorem Paired.isToken_eq {R : Json → Json → Prop} {one two : Entries Json}
    (paired : Paired R one two) : (Json.object one).isToken = (Json.object two).isToken := by
  apply Json.isToken_congr
  intro key _
  have found := paired.get? key
  rw [Json.has, Json.has, Json.members, Json.members]
  generalize one.get? key = one at found
  generalize two.get? key = two at found
  cases found <;> rfl

theorem option_eq_of_rel {α : Type} {one two : Option α} (related : Option.Rel Eq one two) :
    one = two := by
  cases related with
  | none => rfl
  | some same => exact congrArg some same

variable {allowed : Note → Prop}

/-- If all notes of the first result are allowed, the second has the same notes, and the values are
related. -/
def Together (allowed : Note → Prop) {α β : Type} (S : α → β → Prop) (first : Noted α)
    (second : Noted β) : Prop :=
  (∀ note ∈ first.notes, allowed note) → second.notes = first.notes ∧ S first.value second.value

section Together

variable {α β γ δ : Type} {S : α → β → Prop} {T : γ → δ → Prop}

theorem Together.pure {value : α} {value' : β} (related : S value value') :
    Together allowed S (pure value) (pure value') :=
  fun _ => ⟨rfl, related⟩

theorem Together.of_eq {first second : Noted α} (same : first = second) :
    Together allowed Eq first second :=
  fun _ => ⟨same ▸ rfl, same ▸ rfl⟩

theorem Together.bind {first : Noted α} {second : Noted β} {next : α → Noted γ}
    {next' : β → Noted δ} (related : Together allowed S first second)
    (onward : ∀ {value value'}, S value value' → Together allowed T (next value) (next' value')) :
    Together allowed T (first >>= next) (second >>= next') := by
  intro noted
  rw [Noted.notes_bind, List.forall_mem_append] at noted
  obtain ⟨notes, values⟩ := related noted.1
  obtain ⟨later, results⟩ := onward values noted.2
  exact ⟨by rw [Noted.notes_bind, Noted.notes_bind, notes, later], results⟩

theorem Together.map {first : Noted α} {second : Noted β} {f : α → γ} {g : β → δ}
    (related : Together allowed S first second)
    (onward : ∀ {value value'}, S value value' → T (f value) (g value')) :
    Together allowed T (f <$> first) (g <$> second) := by
  intro noted
  rw [Noted.notes_map] at noted
  obtain ⟨notes, values⟩ := related noted
  exact ⟨by rw [Noted.notes_map, Noted.notes_map, notes], onward values⟩

inductive OutcomeLike (S : α → β → Prop) : Except TypeFault α → Except TypeFault β → Prop
  | error (fault : TypeFault) : OutcomeLike S (.error fault) (.error fault)
  | ok {value : α} {value' : β} (related : S value value') : OutcomeLike S (.ok value) (.ok value')

theorem OutcomeLike.imp {S' : α → β → Prop} {first : Except TypeFault α} {second : Except TypeFault β}
    (outcome : OutcomeLike S first second) (implies : ∀ {value value'}, S value value' → S' value value') :
    OutcomeLike S' first second := by
  cases outcome with
  | error fault => exact .error fault
  | ok related => exact .ok (implies related)

theorem OutcomeLike.eq {first second : Except TypeFault α} (outcome : OutcomeLike Eq first second) :
    first = second := by
  cases outcome with
  | error fault => rfl
  | ok same => rw [same]

abbrev Abreast (allowed : Note → Prop) (S : α → β → Prop) (first : Extraction α)
    (second : Extraction β) : Prop :=
  Together allowed (OutcomeLike S) first.run second.run

theorem Abreast.pure {value : α} {value' : β} (related : S value value') :
    Abreast allowed S (pure value) (pure value') :=
  fun _ => ⟨rfl, .ok related⟩

theorem Abreast.ofNoted {first : Noted α} {second : Noted β} (related : Together allowed S first second) :
    Abreast allowed S (.ofNoted first) (.ofNoted second) :=
  fun noted => ⟨(related noted).1, .ok (related noted).2⟩

theorem Abreast.bind {first : Extraction α} {second : Extraction β} {next : α → Extraction γ}
    {next' : β → Extraction δ} (related : Abreast allowed S first second)
    (onward : ∀ {value value'}, S value value' → Abreast allowed T (next value) (next' value')) :
    Abreast allowed T (first >>= next) (second >>= next') := by
  refine Together.bind related ?_
  intro outcome outcome' reached
  cases reached with
  | error fault => exact fun _ => ⟨rfl, .error fault⟩
  | ok values => exact onward values

end Together

/-- What a relation between the nodes of two trees has to keep. -/
structure Mirror (allowed : Note → Prop) (tree other : Json) (R : Json → Json → Prop) : Prop where
  nothing : R .null .null
  object : ∀ {node twin}, R node twin → node.isObject = twin.isObject
  token : ∀ {node twin}, R node twin → node.isToken = twin.isToken
  type : ∀ {node twin}, R node twin → node.isToken = true → node.tokenType = twin.tokenType
  value : ∀ {node twin}, R node twin → node.isToken = true →
    Together allowed Eq (resolve tree node.rawValue) (resolve other twin.rawValue)
  members : ∀ {node twin}, R node twin → Paired R node.members twin.members

/-- A value formatted with one unit and with another gives related texts, and related texts are empty
together. -/
structure Units (L : String → String → Prop) (unit unit' : Option String) : Prop where
  format : ∀ value, L (formatDimension unit value) (formatDimension unit' value)
  empty : ∀ {text text'}, L text text' → text.isEmpty = text'.isEmpty

theorem Units.same (unit : Option String) : Units Eq unit unit :=
  ⟨fun _ => rfl, fun same => congrArg String.isEmpty same⟩

def object? : Json → Option (Entries Json)
  | .object members => some members
  | _ => none

abbrev Sources (R : Json → Json → Prop) : Option (Entries Json) → Option (Entries Json) → Prop :=
  Option.Rel fun members members' => R (.object members) (.object members')

/-- Presets that differ in related lengths only. Weights are no lengths. -/
structure PresetLike (L : String → String → Prop) (preset other : Preset) : Prop where
  fontSize : Option.Rel L preset.fontSize other.fontSize
  lineHeight : Option.Rel L preset.lineHeight other.lineHeight
  letterSpacing : Option.Rel L preset.letterSpacing other.letterSpacing
  fontWeight : preset.fontWeight = other.fontWeight

theorem PresetLike.eq {preset other : Preset} (alike : PresetLike Eq preset other) :
    preset = other := by
  obtain ⟨size, height, spacing, weight⟩ := alike
  cases preset
  cases other
  cases option_eq_of_rel size
  cases option_eq_of_rel height
  cases option_eq_of_rel spacing
  cases weight
  rfl

structure DefaultsLike (L : String → String → Prop) (defaults other : GroupDefaults) : Prop where
  letterSpacing : Option.Rel L defaults.letterSpacing other.letterSpacing
  fontWeight : defaults.fontWeight = other.fontWeight
  fontWeights : defaults.fontWeights = other.fontWeights

namespace Mirror

theorem refl (tree : Json) : Mirror allowed tree tree Eq where
  nothing := rfl
  object := congrArg Json.isObject
  token := congrArg Json.isToken
  type same _ := congrArg Json.tokenType same
  value same _ := .of_eq (congrArg (fun node => resolve tree node.rawValue) same)
  members same := same ▸ paired_self (fun _ => rfl) _

variable {tree other node twin : Json} {R : Json → Json → Prop} {L : String → String → Prop}
  {unit unit' : Option String}

theorem group (mirror : Mirror allowed tree other R) (related : R node twin) :
    node.isGroup = twin.isGroup := by
  rw [Json.isGroup, Json.isGroup, mirror.object related, mirror.token related]

theorem object_eq (mirror : Mirror allowed tree other R) (related : R node twin) :
    Sources R (object? node) (object? twin) := by
  have same := mirror.object related
  cases node <;> cases twin <;> first | exact .none | exact .some related | cases same

theorem member (mirror : Mirror allowed tree other R) (related : R node twin) (key : String) :
    R (node.member key) (twin.member key) := by
  have found := Paired.get? (mirror.members related) key
  rw [Json.member, Json.member]
  generalize node.members.get? key = one at found
  generalize twin.members.get? key = two at found
  cases found with
  | none => exact mirror.nothing
  | some related => exact related

theorem atPath (mirror : Mirror allowed tree other R) (related : R node twin) (path : List String) :
    R (node.atPath path) (twin.atPath path) := by
  induction path generalizing node twin with
  | nil => exact related
  | cons key rest ih => exact ih (mirror.member related key)

private theorem isColor_eq (mirror : Mirror allowed tree other R) (related : R node twin)
    (token : node.isToken = true) : isColor node = isColor twin := by
  rw [isColor, isColor, mirror.type related token]

theorem isDimension_eq (mirror : Mirror allowed tree other R) (related : R node twin)
    (token : node.isToken = true) : isDimension node = isDimension twin := by
  rw [isDimension, isDimension, mirror.type related token]

private theorem resolvedText_together (mirror : Mirror allowed tree other R) (related : R node twin)
    (token : node.isToken = true) :
    Together allowed Eq (resolvedText tree node) (resolvedText other twin) :=
  (mirror.value related token).bind fun same => .pure (congrArg Json.display same)

private theorem resolvedDimension_together (mirror : Mirror allowed tree other R) (units : Units L unit unit')
    (related : R node twin) (token : node.isToken = true) :
    Together allowed L (resolvedDimension tree unit node) (resolvedDimension other unit' twin) := by
  refine (mirror.value related token).bind ?_
  rintro value _ rfl
  exact .pure (units.format value)

mutual

private theorem colors_together (mirror : Mirror allowed tree other R) : ∀ (node : Json) {twin : Json},
    R node twin → Together allowed Eq (colors tree node) (colors other twin)
  | .object members, twin, related => by
    cases twin with
    | object members' =>
      rw [colors, colors]
      exact addColors_together mirror members (mirror.members related) []
    | _ => cases mirror.object related
  | .null, twin, related | .bool _, twin, related | .int _, twin, related | .float _, twin, related
  | .string _, twin, related | .array _, twin, related => by
    have plain := mirror.object related
    cases twin <;> first | exact .of_eq rfl | cases plain
termination_by structural node => node

theorem addColors_together (mirror : Mirror allowed tree other R) : ∀ (members : List (String × Json))
    {members' : List (String × Json)}, Paired R members members' → ∀ found : Entries Json,
    Together allowed Eq (addColors tree found members) (addColors other found members')
  | [], _, .nil, _ => .of_eq rfl
  | (key, node) :: rest, (_, twin) :: rest', .cons ⟨same, related⟩ paired, found => by
    cases same
    rw [addColors, addColors, mirror.object related, mirror.token related]
    split
    · exact addColors_together mirror rest paired found
    · split
      · next token =>
        have token : node.isToken = true := (mirror.token related).trans token
        rw [mirror.isColor_eq related token]
        split
        · refine (mirror.resolvedText_together related token).bind ?_
          rintro text _ rfl
          exact addColors_together mirror rest paired _
        · exact addColors_together mirror rest paired found
      · refine (colors_together mirror node related).bind ?_
        rintro inner _ rfl
        exact addColors_together mirror rest paired _
termination_by structural members => members

end

mutual

private theorem addGroupDimensions_abreast (mirror : Mirror allowed tree other R) (units : Units L unit unit')
    (path : String) {found found' : Entries String} (before : Paired L found found') :
    ∀ (node : Json) {twin : Json}, R node twin → Abreast allowed (Paired L)
      (addGroupDimensions tree unit path found node) (addGroupDimensions other unit' path found' twin)
  | .object members, twin, related => by
    cases twin with
    | object members' =>
      rw [addGroupDimensions, addGroupDimensions]
      exact addDimensions_abreast mirror units path members (mirror.members related) before
    | _ => cases mirror.object related
  | .null, twin, related | .bool _, twin, related | .int _, twin, related | .float _, twin, related
  | .string _, twin, related | .array _, twin, related => by
    have plain := mirror.object related
    cases twin <;> first | exact .pure before | cases plain
termination_by structural node => node

theorem addDimensions_abreast (mirror : Mirror allowed tree other R) (units : Units L unit unit')
    (path : String) : ∀ (members : List (String × Json)) {members' : List (String × Json)},
    Paired R members members' → ∀ {found found' : Entries String}, Paired L found found' →
    Abreast allowed (Paired L) (addDimensions tree unit path found members)
      (addDimensions other unit' path found' members')
  | [], _, .nil, _, _, before => .pure before
  | (key, node) :: rest, (_, twin) :: rest', .cons ⟨same, related⟩ paired, found, found', before => by
    cases same
    rw [addDimensions, addDimensions, mirror.object related, mirror.token related]
    split
    · exact addDimensions_abreast mirror units path rest paired before
    · dsimp only
      split
      · next token =>
        have token : node.isToken = true := (mirror.token related).trans token
        rw [mirror.isDimension_eq related token]
        have counted : Abreast allowed Eq (.ofExcept (isDimension twin)) (.ofExcept (isDimension twin)) := by
          cases isDimension twin with
          | error fault => exact fun _ => ⟨rfl, .error fault⟩
          | ok counts => exact fun _ => ⟨rfl, .ok rfl⟩
        refine counted.bind ?_
        rintro counts _ rfl
        cases counts with
        | true =>
          refine (Abreast.ofNoted (mirror.resolvedDimension_together units related token)).bind ?_
          intro text text' lengths
          exact addDimensions_abreast mirror units path rest paired (before.put _ lengths)
        | false => exact addDimensions_abreast mirror units path rest paired before
      · refine (addGroupDimensions_abreast mirror units _ before node related).bind ?_
        intro inner inner' after
        exact addDimensions_abreast mirror units path rest paired after
termination_by structural members => members

end

theorem dimensionOf_together (mirror : Mirror allowed tree other R) (units : Units L unit unit')
    (related : R node twin) :
    Together allowed (Option.Rel L) (dimensionOf? tree unit node) (dimensionOf? other unit' twin) := by
  rw [dimensionOf?, dimensionOf?, mirror.token related]
  split
  · next token =>
    have token : node.isToken = true := (mirror.token related).trans token
    exact (mirror.resolvedDimension_together units related token).map .some
  · exact .pure .none

theorem weightOf_together (mirror : Mirror allowed tree other R) (related : R node twin) :
    Together allowed Eq (dimensionOf? tree none node) (dimensionOf? other none twin) :=
  fun noted => (mirror.dimensionOf_together (.same none) related noted).imp_right option_eq_of_rel

private theorem weights_together (mirror : Mirror allowed tree other R) {members members' : Entries Json}
    (paired : Paired R members members') :
    Together allowed Eq (tokenDimensions tree none members) (tokenDimensions other none members') := by
  induction paired with
  | nil => exact .of_eq rfl
  | @cons entry entry' members members' related paired ih =>
    obtain ⟨key, node⟩ := entry
    obtain ⟨key', twin⟩ := entry'
    obtain ⟨same, related⟩ := related
    cases same
    rw [tokenDimensions, tokenDimensions]
    refine (mirror.weightOf_together related).bind ?_
    rintro text _ rfl
    refine ih.bind ?_
    rintro others _ rfl
    exact .of_eq rfl

private theorem groupDefaults_together (mirror : Mirror allowed tree other R) (units : Units L unit unit')
    {members members' : Entries Json} (related : R (.object members) (.object members')) :
    Together allowed (DefaultsLike L) (groupDefaults tree unit members)
      (groupDefaults other unit' members') := by
  have spacing := mirror.member related groupLetterSpacing
  have weight := mirror.member related groupFontWeight
  simp only [Json.member, Json.members] at spacing weight
  rw [groupDefaults, groupDefaults]
  refine (mirror.dimensionOf_together units spacing).bind ?_
  intro letters letters' lengths
  refine (mirror.weightOf_together weight).bind ?_
  rintro single _ rfl
  rw [mirror.group weight]
  dsimp only
  split
  · refine (mirror.weights_together (mirror.members weight)).bind ?_
    rintro several _ rfl
    exact .pure ⟨lengths, rfl, rfl⟩
  · exact .pure ⟨lengths, rfl, rfl⟩

private theorem ownPreset_together (mirror : Mirror allowed tree other R) (units : Units L unit unit')
    (related : R node twin) :
    Together allowed (PresetLike L) (ownPreset tree unit node) (ownPreset other unit' twin) := by
  have field (key : String) := mirror.dimensionOf_together units (mirror.member related key)
  rw [ownPreset, ownPreset]
  refine (field "font size").bind fun size => ?_
  refine (field "line height").bind fun height => ?_
  refine (field "letter spacing").bind fun spacing => ?_
  refine (mirror.weightOf_together (mirror.member related "font weight")).bind fun weight => ?_
  exact .pure ⟨size, height, spacing, weight⟩

private theorem isFilled_eq (units : Units L unit unit') {text text' : Option String}
    (related : Option.Rel L text text') : isFilled text = isFilled text' := by
  cases related with
  | none => rfl
  | some related => simp only [isFilled, Option.any_some, units.empty related]

private theorem fillSpacing_like (units : Units L unit unit') {defaults defaults' : GroupDefaults}
    {own own' : Preset} (shared : DefaultsLike L defaults defaults') (declared : PresetLike L own own') :
    PresetLike L (defaults.fillSpacing own) (defaults'.fillSpacing own') := by
  rw [GroupDefaults.fillSpacing, GroupDefaults.fillSpacing,
    isFilled_eq units declared.letterSpacing, isFilled_eq units shared.letterSpacing]
  split
  · exact { declared with letterSpacing := shared.letterSpacing }
  · exact declared

private theorem isUnset_eq {preset preset' : Preset} (alike : PresetLike L preset preset') :
    preset.isUnset = preset'.isUnset := by
  have none_eq {text text' : Option String} (related : Option.Rel L text text') :
      text.isNone = text'.isNone := by cases related <;> rfl
  rw [Preset.isUnset, Preset.isUnset, none_eq alike.fontSize, none_eq alike.lineHeight,
    none_eq alike.letterSpacing, alike.fontWeight]

private theorem variants_paired (units : Units L unit unit') {defaults defaults' : GroupDefaults}
    {own own' : Preset} (shared : DefaultsLike L defaults defaults') (declared : PresetLike L own own')
    (name : String) :
    Paired (PresetLike L) (defaults.variants name own) (defaults'.variants name own') := by
  have filled := fillSpacing_like units shared declared
  simp only [GroupDefaults.variants]
  rw [isUnset_eq filled, filled.fontWeight, shared.fontWeights, shared.fontWeight]
  split
  · exact .nil
  · split
    · exact .cons ⟨rfl, filled⟩ .nil
    · split
      · refine List.forall₂_map_left_iff.mpr (List.forall₂_map_right_iff.mpr ?_)
        exact List.forall₂_same.mpr fun weight _ => ⟨rfl, { filled with fontWeight := rfl }⟩
      · split
        · exact .cons ⟨rfl, { filled with fontWeight := rfl }⟩ .nil
        · exact .cons ⟨rfl, filled⟩ .nil

private theorem addPresets_together (mirror : Mirror allowed tree other R) (units : Units L unit unit')
    {defaults defaults' : GroupDefaults} (shared : DefaultsLike L defaults defaults')
    {members members' : Entries Json} (paired : Paired R members members')
    {found found' : Entries Preset} (before : Paired (PresetLike L) found found') :
    Together allowed (Paired (PresetLike L)) (addPresets tree unit defaults found members)
      (addPresets other unit' defaults' found' members') := by
  induction paired generalizing found found' with
  | nil => exact .pure before
  | @cons entry entry' members members' related paired ih =>
    obtain ⟨key, node⟩ := entry
    obtain ⟨key', twin⟩ := entry'
    obtain ⟨same, related⟩ := related
    cases same
    rw [addPresets, addPresets, mirror.object related]
    split
    · exact ih before
    · refine (mirror.ownPreset_together units related).bind fun own => ?_
      exact ih (before.putAll (variants_paired units shared own _))

theorem presets_together (mirror : Mirror allowed tree other R) (units : Units L unit unit')
    {members members' : Entries Json} (related : R (.object members) (.object members')) :
    Together allowed (Paired (PresetLike L)) (presets tree unit members)
      (presets other unit' members') := by
  rw [presets, presets]
  refine (mirror.groupDefaults_together units related).bind fun shared => ?_
  exact mirror.addPresets_together units shared (mirror.members related) .nil

end Mirror

end DesignTokens.Proofs.Likeness
