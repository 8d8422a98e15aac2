import DesignTokens.Stylesheet
import DesignTokens.TypeScript

/-! The characters of the artifacts. The constant holds all names and values of the model, and escapes
only characters of ASCII. So the stylesheet has no character outside ASCII that the constant has not. -/

namespace DesignTokens.Proofs.SharedCharacters
open Stylesheet

/-- The character stands in a text or in a name of the value. -/
inductive Holds (c : Char) : Json → Prop where
  | text {text : String} (inside : c ∈ text.toList) : Holds c (.string text)
  | name {members : List (String × Json)} {name : String} {node : Json} (member : (name, node) ∈ members)
      (inside : c ∈ name.toList) : Holds c (.object members)
  | node {members : List (String × Json)} {name : String} {node : Json} (member : (name, node) ∈ members)
      (holds : Holds c node) : Holds c (.object members)

variable {c : Char} {P : Char → Prop} {model : Model}

private theorem escape_of_wide (wide : 128 ≤ c.toNat) : Json.escape c = [c] := by
  have apart (ascii : Char) (small : ascii.toNat < 128) : c ≠ ascii := by
    rintro rfl
    omega
  have plain : ¬ c < ' ' := by
    intro control
    have below : c.toNat < 32 := control
    omega
  simp [Json.escape, apart '"' (by decide), apart '\\' (by decide), apart '\n' (by decide), apart '\r' (by decide),
    apart '\t' (by decide), apart '\x08' (by decide), apart '\x0C' (by decide), plain]

private theorem mem_quoted {text : String} (wide : 128 ≤ c.toNat) (inside : c ∈ text.toList) :
    c ∈ Json.quoted text := by
  have escaped : c ∈ text.toList.flatMap Json.escape :=
    List.mem_flatMap.mpr ⟨c, inside, by simp [escape_of_wide wide]⟩
  exact List.mem_cons_of_mem _ (List.mem_append_left _ escaped)

private theorem infix_of_mem_members {members : List (String × Json)} {name : String} {node : Json}
    (member : (name, node) ∈ members) (depth : Nat) :
    (Json.quoted name ++ ':' :: ' ' :: Json.write depth node).IsInfix (Json.writeMembers depth members) := by
  induction members with
  | nil => cases member
  | cons first rest ih =>
    rcases List.mem_cons.mp member with rfl | later
    · exact ⟨',' :: '\n' :: Json.indent depth, Json.writeMembers depth rest, by simp [Json.writeMembers]⟩
    · obtain ⟨other, value⟩ := first
      refine (ih later).trans (List.IsSuffix.isInfix ?_)
      exact ⟨',' :: '\n' :: Json.indent depth ++ Json.quoted other ++ ':' :: ' ' :: Json.write depth value,
        by simp [Json.writeMembers]⟩

private theorem infix_of_mem_object {members : List (String × Json)} {name : String} {node : Json}
    (member : (name, node) ∈ members) (depth : Nat) :
    (Json.quoted name ++ ':' :: ' ' :: Json.write (depth + 1) node).IsInfix
      (Json.write depth (.object members)) := by
  obtain _ | ⟨⟨first, value⟩, rest⟩ := members
  · cases member
  rcases List.mem_cons.mp member with here | later
  · cases here
    exact ⟨'{' :: '\n' :: Json.indent (depth + 1),
      Json.writeMembers (depth + 1) rest ++ '\n' :: Json.indent depth ++ ['}'], by simp [Json.write]⟩
  · refine (infix_of_mem_members later (depth + 1)).trans ?_
    exact ⟨'{' :: '\n' :: Json.indent (depth + 1) ++ Json.quoted first ++ ':' :: ' ' ::
      Json.write (depth + 1) value, '\n' :: Json.indent depth ++ ['}'], by simp [Json.write]⟩

theorem Holds.mem_write {value : Json} (holds : Holds c value) (wide : 128 ≤ c.toNat) (depth : Nat) :
    c ∈ Json.write depth value := by
  induction holds generalizing depth with
  | text inside => exact mem_quoted wide inside
  | name member inside =>
    exact (infix_of_mem_object member depth).subset (List.mem_append_left _ (mem_quoted wide inside))
  | node member _ ih =>
    exact (infix_of_mem_object member depth).subset (List.mem_append_right _ (by simp [ih (depth + 1)]))

/-- All characters of a text that are not ASCII have the property. -/
def Within (P : Char → Prop) (text : String) : Prop := ∀ c ∈ text.toList, 128 ≤ c.toNat → P c

def EntriesWithin (P : Char → Prop) (entries : Entries String) : Prop :=
  ∀ entry ∈ entries, Within P entry.1 ∧ Within P entry.2

def Declares (P : Char → Prop) (declarations : List Declaration) : Prop :=
  ∀ declaration ∈ declarations, Within P declaration.property ∧ Within P declaration.value

def HoldsOnly (P : Char → Prop) (value : Json) : Prop := ∀ c, Holds c value → 128 ≤ c.toNat → P c

theorem Within.append {first last : String} (within : Within P first) (within' : Within P last) :
    Within P (first ++ last) := by
  intro c inside
  rw [String.toList_append, List.mem_append] at inside
  exact inside.elim (within c) (within' c)

private theorem within_intercalate {mark : String} {lines : List String} (marked : Within P mark)
    (within : ∀ line ∈ lines, Within P line) : Within P (mark.intercalate lines) := by
  intro c inside
  rw [String.toList_intercalate] at inside
  induction lines with
  | nil => cases inside
  | cons line rest ih =>
    obtain ⟨here, later⟩ := List.forall_mem_cons.mp within
    cases rest with
    | nil => exact here c (by simpa using inside)
    | cons next others =>
      rw [List.map_cons, List.map_cons, List.intercalate_cons_cons, List.mem_append, List.mem_append] at inside
      rcases inside with (inside | inside) | inside
      · exact here c inside
      · exact marked c inside
      · exact ih later inside

section Values

variable {members : List (String × Json)} {name : String} {node : Json}

private theorem HoldsOnly.key (covers : HoldsOnly P (.object members)) (member : (name, node) ∈ members) :
    Within P name :=
  fun c inside => covers c (.name member inside)

private theorem HoldsOnly.below (covers : HoldsOnly P (.object members)) (member : (name, node) ∈ members) :
    HoldsOnly P node :=
  fun c holds => covers c (.node member holds)

private theorem HoldsOnly.rest {entry : String × Json} (covers : HoldsOnly P (.object (entry :: members))) :
    HoldsOnly P (.object members) := by
  intro c holds
  cases holds with
  | name member inside => exact covers c (.name (List.mem_cons_of_mem _ member) inside)
  | node member holds => exact covers c (.node (List.mem_cons_of_mem _ member) holds)

private theorem HoldsOnly.text {text : String} (covers : HoldsOnly P (.string text)) : Within P text :=
  fun c inside => covers c (.text inside)

private theorem HoldsOnly.dimensions {entries : Entries String} (covers : HoldsOnly P (dimensionsLiteral entries)) :
    EntriesWithin P entries := by
  rintro ⟨key, value⟩ member
  have listed : (key, Json.string value) ∈ entries.map fun entry => (entry.1, Json.string entry.2) :=
    List.mem_map.mpr ⟨_, member, rfl⟩
  exact ⟨covers.key listed, (covers.below listed).text⟩

private theorem HoldsOnly.preset {presets : Entries Preset} {key : String} {preset : Preset}
    (covers : HoldsOnly P (presetsLiteral presets)) (member : (key, preset) ∈ presets) :
    Within P key ∧ HoldsOnly P preset.literal := by
  have listed : (key, preset.literal) ∈ presets.map fun entry => (entry.1, entry.2.literal) :=
    List.mem_map.mpr ⟨_, member, rfl⟩
  exact ⟨covers.key listed, covers.below listed⟩

private theorem mem_setTexts {fields : List (String × Option String)} {text : String}
    (member : some text ∈ fields.map Prod.snd) : ∃ name, (name, Json.string text) ∈ setTexts fields := by
  induction fields with
  | nil => cases member
  | cons first rest ih =>
    obtain ⟨name, value⟩ := first
    rcases List.mem_cons.mp member with here | later
    · cases here
      exact ⟨name, List.mem_cons_self⟩
    · obtain ⟨other, listed⟩ := ih later
      cases value with
      | none => exact ⟨other, listed⟩
      | some _ => exact ⟨other, List.mem_cons_of_mem _ listed⟩

end Values

theorem of_ascii {text : String} (plain : text.toList.all (·.toNat < 128) = true) :
    Within P text := by
  intro c inside wide
  have small : c.toNat < 128 := by simpa using List.all_eq_true.mp plain c inside
  omega

private theorem joinPath_within {path key : String} (within : Within P path) (within' : Within P key) :
    Within P (joinPath path key) := by
  unfold joinPath
  split
  · exact within'
  · exact (within.append (of_ascii (by decide))).append within'

mutual

private theorem colorLeaves_within {path : String} (within : Within P path) : ∀ (value : Json),
    HoldsOnly P value → EntriesWithin P (colorLeaves path value)
  | .object members, covers => memberLeaves_within within members covers
  | .string text, covers => by
    rw [colorLeaves]
    exact List.forall_mem_singleton.mpr ⟨within, covers.text⟩
  | .null, _ | .bool _, _ | .int _, _ | .float _, _ | .array _, _ => by
    rintro _ ⟨⟩
termination_by structural value => value

private theorem memberLeaves_within {path : String} (within : Within P path) :
    ∀ (members : List (String × Json)), HoldsOnly P (.object members) → EntriesWithin P (memberLeaves path members)
  | [], _ => by rintro _ ⟨⟩
  | (key, value) :: rest, covers => by
    rw [memberLeaves]
    refine List.forall_mem_append.mpr ⟨?_, memberLeaves_within within rest covers.rest⟩
    have joined := joinPath_within within (covers.key List.mem_cons_self)
    exact colorLeaves_within joined value (covers.below List.mem_cons_self)
termination_by structural members => members

end

private theorem EntriesWithin.behind {entries : Entries String} {start : String} (within : Within P start)
    (inside : EntriesWithin P entries) :
    EntriesWithin P (entries.map fun (name, text) => (start ++ "-" ++ name, text)) := by
  intro entry member
  obtain ⟨⟨name, text⟩, listed, rfl⟩ := List.mem_map.mp member
  obtain ⟨named, valued⟩ := inside _ listed
  exact ⟨(within.append (of_ascii (by decide))).append named, valued⟩

private theorem texts_within {members : List (String × Json)} (covers : HoldsOnly P (.object members)) :
    EntriesWithin P (texts members) := by
  induction members with
  | nil => rintro _ ⟨⟩
  | cons first rest ih =>
    obtain ⟨key, value⟩ := first
    have others := ih covers.rest
    cases value with
    | string text =>
      have here : Within P key ∧ Within P text :=
        ⟨covers.key List.mem_cons_self, (covers.below List.mem_cons_self).text⟩
      exact List.forall_mem_cons.mpr ⟨here, others⟩
    | _ => exact others

private theorem familyLeaves_within {members : List (String × Json)} (covers : HoldsOnly P (.object members)) :
    EntriesWithin P (familyLeaves members) := by
  induction members with
  | nil => rintro _ ⟨⟩
  | cons first rest ih =>
    obtain ⟨shade, value⟩ := first
    have shaded : Within P shade := covers.key List.mem_cons_self
    have inside : HoldsOnly P value := covers.below List.mem_cons_self
    refine List.forall_mem_append.mpr ⟨?_, ih covers.rest⟩
    cases value with
    | string text => exact List.forall_mem_singleton.mpr ⟨shaded, inside.text⟩
    | object members => exact (texts_within inside).behind shaded
    | _ => rintro _ ⟨⟩

private theorem primitiveLeaves_within {members : List (String × Json)} (covers : HoldsOnly P (.object members)) :
    EntriesWithin P (primitiveLeaves members) := by
  induction members with
  | nil => rintro _ ⟨⟩
  | cons first rest ih =>
    obtain ⟨family, value⟩ := first
    have named : Within P family := covers.key List.mem_cons_self
    have inside : HoldsOnly P value := covers.below List.mem_cons_self
    refine List.forall_mem_append.mpr ⟨?_, ih covers.rest⟩
    cases value with
    | object members => exact (familyLeaves_within inside).behind named
    | _ => rintro _ ⟨⟩

private theorem declareAll_within {start : String} {entries : Entries String} (within : Within P start)
    (inside : EntriesWithin P entries) : Declares P (declareAll start entries) := by
  intro declaration member
  obtain ⟨⟨key, value⟩, listed, rfl⟩ := List.mem_map.mp member
  obtain ⟨named, valued⟩ := inside _ listed
  exact ⟨within.append named, valued⟩

private theorem presetDeclarations_within {preset : Preset} (covers : HoldsOnly P preset.literal) :
    Declares P (presetDeclarations preset) := by
  intro declaration member
  obtain ⟨⟨property, value⟩, listed, kept⟩ := List.mem_filterMap.mp member
  have valued {text : String} (set : some text ∈ [preset.fontSize, preset.lineHeight, preset.letterSpacing,
      preset.fontWeight]) : Within P text := by
    have listed : ∃ name, (name, Json.string text) ∈ preset.literal.members := mem_setTexts set
    obtain ⟨name, listed⟩ := listed
    exact (covers.below listed).text
  cases value with
  | none => cases kept
  | some text =>
    dsimp only at kept
    split at kept
    · cases kept
    · cases kept
      simp only [List.mem_cons, List.not_mem_nil, or_false, Prod.mk.injEq] at listed
      rcases listed with ⟨rfl, set⟩ | ⟨rfl, set⟩ | ⟨rfl, set⟩ | ⟨rfl, set⟩
      all_goals exact ⟨of_ascii (by dsimp only; decide), valued (by simp [set])⟩

private theorem containerName_within {key : String} (within : Within P key) : Within P (containerName key) := by
  unfold containerName
  split
  · intro c inside
    rw [String.toList_ofList] at inside
    exact within c (List.mem_of_mem_drop inside)
  · exact within

private theorem Declaration.text_within {declaration : Declaration}
    (within : Within P declaration.property ∧ Within P declaration.value) : Within P declaration.text :=
  ((within.1.append (of_ascii (by decide))).append within.2).append (of_ascii (by decide))

private theorem Section.lines_within {part : Section} (titled : Within P part.title)
    (declares : Declares P part.declarations) : ∀ line ∈ part.lines, Within P line := by
  refine List.forall_mem_cons.mpr ⟨of_ascii (by decide), List.forall_mem_cons.mpr ⟨?_, ?_⟩⟩
  · exact ((of_ascii (by decide)).append titled).append (of_ascii (by decide))
  · intro line member
    obtain ⟨declaration, listed, rfl⟩ := List.mem_map.mp member
    exact (of_ascii (by decide)).append (Declaration.text_within (declares _ listed))

private theorem Rule.lines_within {rule : Rule} (selects : Within P rule.selector)
    (declares : Declares P rule.declarations) : ∀ line ∈ rule.lines, Within P line := by
  unfold Rule.lines
  split
  · next declaration only =>
    rw [only] at declares
    have declared := Declaration.text_within (declares _ List.mem_cons_self)
    refine List.forall_mem_singleton.mpr ((((Within.append ?_ selects).append ?_).append declared).append ?_)
    all_goals exact of_ascii (by decide)
  · refine List.forall_mem_cons.mpr ⟨((of_ascii (by decide)).append selects).append (of_ascii (by decide)), ?_⟩
    refine List.forall_mem_append.mpr ⟨?_, List.forall_mem_singleton.mpr (of_ascii (by decide))⟩
    intro line member
    obtain ⟨declaration, listed, rfl⟩ := List.mem_map.mp member
    exact (of_ascii (by decide)).append (Declaration.text_within (declares _ listed))

private theorem usage_within (covers : HoldsOnly P model.colors.literal) {usage : Usage} (listed : usage ∈ usages) :
    (Within P usage.name ∧ Within P usage.title ∧ Within P usage.property) ∧
      HoldsOnly P (.object (usage.leaves model.colors)) := by
  have ascii {name title property : String} (plain : [name, title, property].all
      (·.toList.all (·.toNat < 128)) = true) : Within P name ∧ Within P title ∧ Within P property := by
    simp only [List.all_cons, List.all_nil, Bool.and_true, Bool.and_eq_true] at plain
    exact ⟨of_ascii plain.1, of_ascii plain.2.1, of_ascii plain.2.2⟩
  simp only [usages, List.mem_cons, List.not_mem_nil, or_false] at listed
  rcases listed with rfl | rfl | rfl | rfl
  · exact ⟨ascii (by decide), covers.below (List.mem_of_getElem? (i := 1) rfl)⟩
  · exact ⟨ascii (by decide), covers.below (List.mem_of_getElem? (i := 2) rfl)⟩
  · exact ⟨ascii (by decide), covers.below (List.mem_of_getElem? (i := 3) rfl)⟩
  · exact ⟨ascii (by decide), covers.below (List.mem_of_getElem? (i := 4) rfl)⟩

private theorem presetSection_within {group title : String} {presets : Entries Preset}
    (ascii : Within P group ∧ Within P title) (covers : HoldsOnly P (presetsLiteral presets)) :
    Within P (presetSection group title presets).title ∧
      Declares P (presetSection group title presets).declarations := by
  refine ⟨(of_ascii (by decide)).append ascii.2, ?_⟩
  intro declaration member
  obtain ⟨⟨key, preset⟩, listed, inside⟩ := List.mem_flatMap.mp member
  obtain ⟨inner, declared, rfl⟩ := List.mem_map.mp inside
  obtain ⟨named, valued⟩ := covers.preset listed
  obtain ⟨property, value⟩ := presetDeclarations_within valued _ declared
  have start : Within P "--typography-" := of_ascii (by decide)
  have mark : Within P "-" := of_ascii (by decide)
  exact ⟨((((start.append ascii.1).append mark).append named).append mark).append property, value⟩

private theorem declaration_within {property value : String} (plain : property.toList.all (·.toNat < 128) = true)
    (within : Within P value) :
    Within P (Declaration.mk property value).property ∧ Within P (Declaration.mk property value).value :=
  ⟨of_ascii plain, within⟩

private theorem section_within {title start : String} {entries : Entries String}
    (plain : [title, start].all (·.toList.all (·.toNat < 128)) = true) (within : EntriesWithin P entries) :
    Within P (Section.mk title (declareAll start entries)).title ∧
      Declares P (Section.mk title (declareAll start entries)).declarations := by
  simp only [List.all_cons, List.all_nil, Bool.and_true, Bool.and_eq_true] at plain
  exact ⟨of_ascii plain.1, declareAll_within (of_ascii plain.2) within⟩

private structure Buckets (P : Char → Prop) (model : Model) : Prop where
  colors : HoldsOnly P model.colors.literal
  spacing : EntriesWithin P model.spacing
  container : EntriesWithin P (model.container.map fun (key, value) => (containerName key, value))
  fontSize : EntriesWithin P model.fontSize
  lineHeight : EntriesWithin P model.lineHeight
  borderRadius : EntriesWithin P model.borderRadius
  heading : HoldsOnly P (presetsLiteral model.typography.heading)
  body : HoldsOnly P (presetsLiteral model.typography.body)

private theorem HoldsOnly.buckets (covers : HoldsOnly P model.literal) : Buckets P model := by
  have dimensions (i : Nat) {name : String} {entries : Entries String}
      (listed : model.literal.members[i]? = some (name, dimensionsLiteral entries)) : EntriesWithin P entries :=
    (covers.below (List.mem_of_getElem? listed)).dimensions
  have typography : HoldsOnly P model.typography.literal := covers.below (List.mem_of_getElem? (i := 9) rfl)
  constructor
  case colors => exact covers.below List.mem_cons_self
  case spacing => exact dimensions 1 rfl
  case container =>
    intro entry member
    obtain ⟨⟨key, value⟩, listed, rfl⟩ := List.mem_map.mp member
    obtain ⟨named, valued⟩ := dimensions 2 rfl _ listed
    exact ⟨containerName_within named, valued⟩
  case fontSize => exact dimensions 3 rfl
  case lineHeight => exact dimensions 4 rfl
  case borderRadius => exact dimensions 7 rfl
  case heading => exact typography.below List.mem_cons_self
  case body => exact typography.below (List.mem_of_getElem? (i := 1) rfl)

private theorem theme_within (buckets : Buckets P model) :
    ∀ part ∈ theme model, Within P part.title ∧ Declares P part.declarations := by
  refine List.forall_mem_cons.mpr ⟨?_, List.forall_mem_append.mpr ⟨?_, ?_⟩⟩
  · exact section_within (by decide) (primitiveLeaves_within (buckets.colors.below List.mem_cons_self))
  · intro part member
    obtain ⟨usage, listed, rfl⟩ := List.mem_map.mp member
    obtain ⟨⟨name, title, _⟩, leaves⟩ := usage_within buckets.colors listed
    refine ⟨title, declareAll_within ?_ (memberLeaves_within (of_ascii (by decide)) _ leaves)⟩
    exact ((of_ascii (by decide)).append name).append (of_ascii (by decide))
  · simp only [List.forall_mem_cons, List.not_mem_nil, false_imp_iff, implies_true, and_true]
    refine ⟨section_within (by decide) buckets.spacing, section_within (by decide) buckets.container,
      section_within (by decide) buckets.fontSize, section_within (by decide) buckets.lineHeight,
      section_within (by decide) buckets.borderRadius, ?_, ?_⟩
    · exact presetSection_within ⟨of_ascii (by decide), of_ascii (by decide)⟩ buckets.heading
    · exact presetSection_within ⟨of_ascii (by decide), of_ascii (by decide)⟩ buckets.body

private theorem presetRules_within {group : String} {presets : Entries Preset} (ascii : Within P group)
    (covers : HoldsOnly P (presetsLiteral presets)) :
    ∀ rule ∈ presetRules group presets, Within P rule.selector ∧ Declares P rule.declarations := by
  intro rule member
  obtain ⟨⟨key, preset⟩, listed, rfl⟩ := List.mem_map.mp member
  obtain ⟨named, valued⟩ := covers.preset listed
  have start : Within P ".text-" := of_ascii (by decide)
  exact ⟨((start.append ascii).append (of_ascii (by decide))).append named,
    presetDeclarations_within valued⟩

private theorem readProperty_within {property : String} (within : Within P property) :
    Within P (readProperty property) :=
  ((of_ascii (by decide)).append within).append (of_ascii (by decide))

private theorem utilities_within (buckets : Buckets P model) :
    ∀ rule ∈ utilities model, Within P rule.selector ∧ Declares P rule.declarations := by
  simp only [utilities, List.forall_mem_append]
  refine ⟨⟨⟨⟨presetRules_within (of_ascii (by decide)) buckets.heading,
    presetRules_within (of_ascii (by decide)) buckets.body⟩, ?_⟩, ?_⟩, ?_⟩
  · intro rule member
    obtain ⟨usage, listed, inside⟩ := List.mem_flatMap.mp member
    obtain ⟨⟨path, text⟩, leaf, rfl⟩ := List.mem_map.mp inside
    obtain ⟨⟨name, _, property⟩, leaves⟩ := usage_within buckets.colors listed
    obtain ⟨pathed, _⟩ := memberLeaves_within (of_ascii (by decide)) _ leaves _ leaf
    refine ⟨(((of_ascii (by decide)).append name).append (of_ascii (by decide))).append pathed, ?_⟩
    refine List.forall_mem_singleton.mpr ⟨property, readProperty_within ?_⟩
    exact (((of_ascii (by decide)).append name).append (of_ascii (by decide))).append pathed
  · intro rule member
    obtain ⟨⟨key, value⟩, listed, rfl⟩ := List.mem_map.mp member
    have named : Within P key := (buckets.spacing _ (List.mem_filter.mp listed).1).1
    refine ⟨(of_ascii (by decide)).append named, List.forall_mem_singleton.mpr (declaration_within (by decide) ?_)⟩
    exact readProperty_within ((of_ascii (by decide)).append named)
  · intro rule member
    obtain ⟨⟨key, value⟩, listed, rfl⟩ := List.mem_map.mp member
    have named : Within P (containerName key) := (buckets.container _ (List.mem_map.mpr ⟨_, listed, rfl⟩)).1
    refine ⟨(of_ascii (by decide)).append named,
      List.forall_mem_cons.mpr ⟨declaration_within (by decide) (of_ascii (by decide)), ?_⟩⟩
    refine List.forall_mem_singleton.mpr (declaration_within (by decide) ?_)
    exact readProperty_within ((of_ascii (by decide)).append named)

private theorem header_within {stamp : String} (stamped : Within P stamp) :
    ∀ line ∈ Stylesheet.header stamp, Within P line := by
  simp only [Stylesheet.header, List.forall_mem_cons, List.not_mem_nil, false_imp_iff, implies_true, and_true]
  refine ⟨?_, ?_, Within.append ?_ stamped, ?_, ?_, ?_, ?_, ?_, ?_, ?_⟩
  all_goals exact of_ascii (by decide)

private theorem stylesheet_within {stamp : String} (stamped : Within P stamp) (buckets : Buckets P model) :
    Within P (Stylesheet.render model stamp) := by
  refine (within_intercalate (of_ascii (by decide)) ?_).append (of_ascii (by decide))
  simp only [Stylesheet.lines, List.forall_mem_append, List.forall_mem_singleton]
  refine ⟨⟨⟨⟨⟨header_within stamped, of_ascii (by decide)⟩, ?_⟩, ?_⟩, ?_⟩, of_ascii (by decide)⟩
  · intro line member
    obtain ⟨part, listed, inside⟩ := List.mem_flatMap.mp member
    obtain ⟨titled, declares⟩ := theme_within buckets part listed
    exact Section.lines_within titled declares line inside
  · simp only [List.forall_mem_cons, List.not_mem_nil, false_imp_iff, implies_true, and_true]
    exact ⟨of_ascii (by decide), of_ascii (by decide), of_ascii (by decide)⟩
  · intro line member
    obtain ⟨rule, listed, inside⟩ := List.mem_flatMap.mp member
    obtain ⟨selects, declares⟩ := utilities_within buckets rule listed
    exact Rule.lines_within selects declares line inside

/-- What a constant has outside ASCII comes from its stamp or from the literal. -/
theorem constant_within {stamp : String} (stamped : Within P stamp) (written : Within P model.literal.render) :
    Within P (TypeScript.render model stamp) := by
  have headed : ∀ line ∈ TypeScript.header stamp, Within P line := by
    simp only [TypeScript.header, List.forall_mem_cons, List.not_mem_nil, false_imp_iff, implies_true, and_true]
    refine ⟨?_, ?_, Within.append ?_ stamped, ?_, ?_, ?_, ?_, ?_⟩
    all_goals exact of_ascii (by decide)
  have footed : ∀ line ∈ TypeScript.footer, Within P line := by
    have plain : ∀ line ∈ TypeScript.footer, line.toList.all (·.toNat < 128) = true := by decide +kernel
    exact fun line member => of_ascii (plain line member)
  refine ((((within_intercalate ?_ headed).append ?_).append written).append ?_).append
    (within_intercalate ?_ footed)
  all_goals exact of_ascii (by decide)

private theorem mem_intercalate {mark line : String} {lines : List String} (member : line ∈ lines)
    (inside : c ∈ line.toList) : c ∈ (mark.intercalate lines).toList := by
  rw [String.toList_intercalate]
  induction lines with
  | nil => cases member
  | cons first rest ih =>
    cases rest with
    | nil =>
      obtain rfl := List.mem_singleton.mp member
      simpa using inside
    | cons next others =>
      rw [List.map_cons, List.map_cons, List.intercalate_cons_cons]
      rcases List.mem_cons.mp member with rfl | later
      · exact List.mem_append_left _ (List.mem_append_left _ inside)
      · exact List.mem_append_right _ (ih later)

theorem mem_constant {stamp : String} (wide : 128 ≤ c.toNat)
    (held : c ∈ stamp.toList ∨ Holds c model.literal) : c ∈ (TypeScript.render model stamp).toList := by
  simp only [TypeScript.render, String.toList_append, List.mem_append]
  rcases held with inside | holds
  · have stamped : c ∈ (" * Generated at: " ++ stamp).toList := by
      rw [String.toList_append]
      exact List.mem_append_right _ inside
    have headed : c ∈ ("\n".intercalate (TypeScript.header stamp)).toList :=
      mem_intercalate (List.mem_of_getElem? (i := 2) rfl) stamped
    exact Or.inl (Or.inl (Or.inl (Or.inl headed)))
  · refine Or.inl (Or.inl (Or.inr ?_))
    rw [Json.render, String.toList_ofList]
    exact holds.mem_write wide 0

/-- A character outside ASCII that stands in the stylesheet stands in the constant as well. -/
theorem mem_constant_of_mem_stylesheet {stamp : String} (wide : 128 ≤ c.toNat)
    (inside : c ∈ (Stylesheet.render model stamp).toList) : c ∈ (TypeScript.render model stamp).toList := by
  have held : Within (fun c => c ∈ stamp.toList ∨ Holds c model.literal) (Stylesheet.render model stamp) :=
    stylesheet_within (fun c inside _ => Or.inl inside) (HoldsOnly.buckets fun c holds _ => Or.inr holds)
  exact mem_constant wide (held c inside wide)

end DesignTokens.Proofs.SharedCharacters
