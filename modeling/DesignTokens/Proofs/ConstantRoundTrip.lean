import DesignTokens.Model.Decode
import DesignTokens.Proofs.JsonRoundTrip
import DesignTokens.TypeScript

/-! The constant of a generated TypeScript module. Its text is a JSON document of all texts of the
model, under names that stand once in each map, and the model can be read back from it. -/

namespace DesignTokens.Proofs.ConstantRoundTrip
open JsonRoundTrip ModelTexts

private theorem decodeMembers_map {α : Type} {decode : List String → Json → Decoded α} {literal : α → Json}
    (decodes : ∀ path value, decode path (literal value) = .valid value) (path : List String)
    (entries : Entries α) :
    decodeMembers decode path (entries.map fun (name, value) => (name, literal value)) =
      .valid entries := by
  induction entries with
  | nil => rfl
  | cons entry rest ih =>
    rw [List.map_cons, decodeMembers, decodes, ih]
    rfl

theorem decodeField_of_spelled {α : Type} {decode : List String → Json → Decoded α}
    {default value : α} {members : Entries Json} {spellings path : List String} {name : String}
    {node : Json} (spelled : spelled? members spellings = some (name, node))
    (decodes : ∀ path, decode path node = .valid value) :
    decodeField decode default path members spellings = .valid value := by
  rw [decodeField, spelled]
  exact decodes _

theorem decodeDimensions_literal (dimensions : Entries String) (path : List String) :
    decodeDimensions path (dimensionsLiteral dimensions) = .valid dimensions := by
  have text (path : List String) (text : String) : decodeText path (.string text) = .valid text := rfl
  exact decodeMembers_map text path dimensions

private theorem decodePreset_literal (path : List String) (preset : Preset) :
    decodePreset path preset.literal = .valid preset := by
  rcases preset with ⟨_ | size, _ | height, _ | spacing, _ | weight⟩ <;> rfl

private theorem decodePresets_literal (presets : Entries Preset) (path : List String) :
    decodePresets path (presetsLiteral presets) = .valid presets :=
  decodeMembers_map decodePreset_literal path presets

private theorem decodeColorBuckets_literal (colors : ColorBuckets) (path : List String) :
    decodeColorBuckets path colors.literal = .valid colors := rfl

private theorem decodeTypographyBuckets_literal (typography : TypographyBuckets) (path : List String) :
    decodeTypographyBuckets path typography.literal = .valid typography := by
  have heading := decodePresets_literal typography.heading
  have body := decodePresets_literal typography.body
  simp only [decodeTypographyBuckets, TypographyBuckets.literal]
  rw [decodeField_of_spelled rfl heading, decodeField_of_spelled rfl body]
  rfl

/-- No model loses anything in its literal. -/
theorem decode_literal (model : Model) : Model.decode model.literal = .valid model := by
  simp only [Model.decode, Model.literal]
  rw [decodeField_of_spelled rfl (decodeColorBuckets_literal model.colors),
    decodeField_of_spelled rfl (decodeDimensions_literal model.spacing),
    decodeField_of_spelled rfl (decodeDimensions_literal model.container),
    decodeField_of_spelled rfl (decodeDimensions_literal model.fontSize),
    decodeField_of_spelled rfl (decodeDimensions_literal model.lineHeight),
    decodeField_of_spelled rfl (decodeDimensions_literal model.fontWeight),
    decodeField_of_spelled rfl (decodeDimensions_literal model.letterSpacing),
    decodeField_of_spelled rfl (decodeDimensions_literal model.borderRadius),
    decodeField_of_spelled rfl (decodeDimensions_literal model.borderWidth),
    decodeField_of_spelled rfl (decodeTypographyBuckets_literal model.typography)]
  rfl

variable {P : String → Prop}

private theorem texts_map {α : Type} {Q : α → Prop} {literal : α → Json} {entries : Entries α}
    (each : Each Q entries) (holds : ∀ value, Q value → Texts P (literal value)) :
    Texts P (.object (entries.map fun (name, value) => (name, literal value))) := by
  refine (textsIn_iff _).mpr ⟨?_, ?_⟩
  · have same : Entries.keys (entries.map fun (name, value) => (name, literal value)) = entries.keys := by
      rw [Entries.keys, List.map_map]
      rfl
    rw [same]
    exact each.1
  · intro entry member
    obtain ⟨origin, inside, rfl⟩ := List.mem_map.mp member
    exact holds _ (each.2 origin inside)

theorem texts_dimensionsLiteral {dimensions : Entries String} (each : Each P dimensions) :
    Texts P (dimensionsLiteral dimensions) := by
  have text (text : String) (holds : P text) : Texts P (.string text) := holds
  exact texts_map each text

private theorem keys_setTexts_subset (members : List (String × Option String)) :
    (setTexts members).keys ⊆ members.map Prod.fst := by
  induction members with
  | nil => exact List.Subset.refl _
  | cons first rest ih =>
    rcases first with ⟨name, _ | text⟩
    · exact List.subset_cons_of_subset name ih
    · exact List.cons_subset_cons name ih

private theorem setTexts_texts {members : List (String × Option String)}
    (distinct : (members.map Prod.fst).Nodup)
    (holds : ∀ entry ∈ members, ∀ text, entry.2 = some text → P text) :
    TextsIn P (setTexts members) := by
  induction members with
  | nil => exact TextsIn.nil
  | cons first rest ih =>
    obtain ⟨absent, distinct⟩ := List.nodup_cons.mp distinct
    have later := ih distinct fun entry member => holds entry (List.mem_cons_of_mem _ member)
    rcases first with ⟨name, _ | text⟩
    · exact later
    · have here : P text := holds _ List.mem_cons_self text rfl
      exact ⟨fun member => absent (keys_setTexts_subset rest member), here, later⟩

private theorem texts_preset {preset : Preset} (texts : PresetTexts P preset) : Texts P preset.literal := by
  refine setTexts_texts (by simp) ?_
  simp only [List.forall_mem_cons]
  exact ⟨texts.fontSize, texts.lineHeight, texts.letterSpacing, texts.fontWeight,
    fun _ member => nomatch member⟩

private theorem texts_presetsLiteral {presets : Entries Preset} (each : Each (PresetTexts P) presets) :
    Texts P (presetsLiteral presets) :=
  texts_map each fun _ => texts_preset

theorem texts_object {members : Entries Json} (distinct : members.keys.Nodup)
    (holds : ∀ entry ∈ members, Texts P entry.2) : Texts P (.object members) :=
  (textsIn_iff _).mpr ⟨distinct, holds⟩

private theorem texts_colorBuckets {colors : ColorBuckets} (texts : ColorTexts P colors) :
    Texts P colors.literal := by
  refine texts_object (by simp [Entries.keys]) ?_
  simp only [List.forall_mem_cons]
  exact ⟨texts.primitive, texts.text, texts.bg, texts.border, texts.icon,
    fun _ member => nomatch member⟩

private theorem texts_typographyBuckets {typography : TypographyBuckets}
    (texts : TypographyTexts P typography) : Texts P typography.literal := by
  refine texts_object (by simp [Entries.keys]) ?_
  simp only [List.forall_mem_cons]
  exact ⟨texts_presetsLiteral texts.heading, texts_presetsLiteral texts.body,
    fun _ member => nomatch member⟩

private theorem texts_literal {model : Model} (texts : AllTexts P P model) : Texts P model.literal := by
  refine texts_object (by simp [Entries.keys]) ?_
  simp only [List.forall_mem_cons]
  exact ⟨texts_colorBuckets texts.colors, texts_dimensionsLiteral texts.spacing,
    texts_dimensionsLiteral texts.container, texts_dimensionsLiteral texts.fontSize,
    texts_dimensionsLiteral texts.lineHeight, texts_dimensionsLiteral texts.fontWeight,
    texts_dimensionsLiteral texts.letterSpacing, texts_dimensionsLiteral texts.borderRadius,
    texts_dimensionsLiteral texts.borderWidth, texts_typographyBuckets texts.typography,
    fun _ member => nomatch member⟩

variable {options : Options} {raw : Json} {model : Model}

/-- The module is the header, a constant and a tail that is the same for all models. The constant is
a document that reads back as the literal of the model, a nested map of texts with no name twice and
no null, and from the literal the model reads back. -/
theorem constant_reads_back (stamp : String) (built : (assemble options raw).run.value = .ok model) :
    ∃ constant : String,
      TypeScript.render model stamp =
        "\n".intercalate (TypeScript.header stamp) ++ "\nexport const designTokens = " ++ constant ++
          " as const;\n" ++ "\n".intercalate TypeScript.footer ∧
      Json.parse constant.toList = .ok model.literal ∧
      Texts (fun _ => True) model.literal ∧
      Model.decode model.literal = .valid model := by
  have texts := texts_literal (assemble_allTexts built)
  exact ⟨model.literal.render, rfl, parse_render texts, texts, decode_literal model⟩

def awkward : Json :=
  .object [("TokenStudio", .object [("color", .object [("a\"\\", .color "\n\x01\"\\/")])])]

theorem constant_reads_back_awkward : ∃ model, (assemble {} awkward).run.value = .ok model ∧
    model.colors.primitive = [("a\"\\", .string "\n\x01\"\\/")] ∧
    ∃ constant : String, Json.parse constant.toList = .ok model.literal ∧
      Texts (fun _ => True) model.literal ∧ Model.decode model.literal = .valid model := by
  obtain ⟨model, built, shown⟩ : ∃ model, (assemble {} awkward).run.value = .ok model ∧
      model.colors.primitive = [("a\"\\", .string "\n\x01\"\\/")] := ⟨_, rfl, rfl⟩
  obtain ⟨constant, _, reads⟩ := constant_reads_back "" built
  exact ⟨model, built, shown, constant, reads⟩

end DesignTokens.Proofs.ConstantRoundTrip
