import DesignTokens.Proofs.AssemblyLikeness
import DesignTokens.Proofs.Openings

/-! The unit of lengths. It shows in a model only behind lengths that are there without it. No name,
no weight and no colour depends on it, nor does any choice between the values of a preset, since
such a choice asks only whether a length is empty. -/

namespace DesignTokens.Proofs.UnitSuffix
open Likeness Openings

/-- A length with a unit is the bare length, or the unit stands behind one that is not empty. -/
def Suffixed (unit text bare : String) : Prop :=
  text = bare ∨ (bare ≠ "" ∧ text = bare ++ unit)

variable {unit : String}

private theorem formatDimension_none (value : Json) :
    formatDimension none value =
      if isNumber value then value.display else Text.trim value.display := by
  simp [formatDimension]

private theorem formatDimension_suffixed (unit : String) (value : Json) :
    Suffixed unit (formatDimension (some unit) value) (formatDimension none value) := by
  rw [formatDimension_none, formatDimension]
  by_cases number : isNumber value = true
  · rw [if_pos number, if_pos number]
    exact Or.inr ⟨(opens_number number).ne_empty, rfl⟩
  · rw [if_neg number, if_neg number]
    dsimp only
    split
    · next plain => exact Or.inr ⟨(opens_of_isPlainNumber plain).ne_empty, rfl⟩
    · exact Or.inl rfl

theorem Suffixed.isEmpty_eq {text bare : String} (suffixed : Suffixed unit text bare) :
    text.isEmpty = bare.isEmpty := by
  rcases suffixed with rfl | ⟨filled, rfl⟩
  · rfl
  · rw [Bool.eq_iff_iff, String.isEmpty_iff, String.isEmpty_iff, String.append_eq_empty_iff]
    exact ⟨And.left, fun empty => absurd empty filled⟩

private theorem units_suffixed (unit : String) : Units (Suffixed unit) (some unit) none :=
  ⟨formatDimension_suffixed unit, Suffixed.isEmpty_eq⟩

private theorem units_empty : Units Eq (some "") none :=
  ⟨fun _ => rfl, fun same => congrArg String.isEmpty same⟩

/-- Runs over one tree with a unit and without fail alike, or the model without the unit has the same
names in the same order, the same colours and weights, and lengths behind which the other one may have
the unit. Either way the reports are the same. The empty unit is no unit. -/
theorem unit_only_appended (raw : Json) (setName unit : String) :
    let suffixed := (assemble { unit := some unit, setName } raw).run
    let bare := (assemble { unit := none, setName } raw).run
    suffixed.report = bare.report ∧
    ((∃ fault, suffixed.value = .error fault ∧ bare.value = .error fault) ∨
      ∃ model other, suffixed.value = .ok model ∧ bare.value = .ok other ∧
        ModelLike (Suffixed unit) model other) ∧
    assemble { unit := some "", setName } raw = assemble { unit := none, setName } raw := by
  intro suffixed bare
  have mirror : Mirror (fun _ => True) raw raw Eq := .refl raw
  have located := mirror.located (rfl : raw = raw) setName
  have abreast := mirror.assemble_abreast (units_suffixed unit) located
  have empty := (mirror.assemble_abreast units_empty located).imp ModelLike.eq
  obtain ⟨notes, outcomes⟩ := abreast fun _ _ => trivial
  refine ⟨?_, ?_, (empty.eq fun _ _ => trivial).symm⟩
  · rw [Noted.report, Noted.report]
    exact congrArg Report.ofNotes notes.symm
  · change OutcomeLike _ suffixed.value bare.value at outcomes
    generalize suffixed.value = outcome at outcomes ⊢
    generalize bare.value = outcome' at outcomes ⊢
    cases outcomes with
    | error fault => exact Or.inl ⟨fault, rfl, rfl⟩
    | ok alike => exact Or.inr ⟨_, _, rfl, rfl, alike⟩

end DesignTokens.Proofs.UnitSuffix
