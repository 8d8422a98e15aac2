import DesignTokens.Model.Literal
import DesignTokens.Proofs.ColorTokens
import DesignTokens.Proofs.StylesheetReads

/-! The numbers in a summary against the stylesheet. A bucket counts as many entries as the stylesheet has
lines in the section for it. A usage of colours has as many utility classes as well, and the values in its
section are the ends of its map in the generated constant, in order: all ends are texts, so that the
stylesheet passes over none of them. -/

namespace DesignTokens.Proofs.SummaryCounts
open ColorLeaves ColorTokens ModelTexts PropertyNames Stylesheet StylesheetReads

/-- A class that sets what its usage colours to a custom property of the usage. -/
def shows (usage : Usage) (rule : Rule) : Bool :=
  rule.declarations.any fun declaration =>
    declaration.property == usage.property &&
      ("var(--color-" ++ usage.name ++ "-").toList.isPrefixOf declaration.value.toList

variable {P : String → Prop} {model : Model} {part : Section} {usage : Usage} {colors : ColorBuckets}

mutual

private theorem ends_of_texts : ∀ value : Json, Texts P value →
    ends value = (textLeaves value).map fun leaf => (leaf.1, .string leaf.2)
  | .object members, texts => endsIn_of_texts members texts
  | .string _, _ => rfl
termination_by structural value => value

theorem endsIn_of_texts : ∀ members : List (String × Json), TextsIn P members →
    endsIn members = (textLeavesIn members).map fun leaf => (leaf.1, .string leaf.2)
  | [], _ => rfl
  | (key, value) :: rest, texts => by
    obtain ⟨_, inner, later⟩ := texts
    rw [endsIn, textLeavesIn, ends_of_texts value inner, endsIn_of_texts rest later, List.map_append, List.map_map,
      List.map_map]
    rfl
termination_by structural members => members

end

end DesignTokens.Proofs.SummaryCounts
