import DesignTokens.Proofs.AliasOrbit
import DesignTokens.Proofs.ModelTexts
import DesignTokens.Proofs.Openings

/-! Aliases that are left in a model. An alias that does not resolve is reported under its path. No
other text of the model looks like an alias, but for two kinds that a tree can hold in place of
one: a map, which is printed between braces, and a text with an alias between white space, which is
trimmed only after it has been taken for a literal. -/

namespace DesignTokens.Proofs.AliasReporting
open AliasOrbit ModelTexts Openings Text

/-- A length that looks like an alias has no unit: it is the text of its value, trimmed. -/
theorem formatDimension_alias {unit : Option String} {value : Json} {path : String}
    (number : isNumber value = false) (shown : formatDimension unit value = aliasText path) :
    trim value.display = aliasText path := by
  rw [formatDimension, if_neg (by simp [number])] at shown
  dsimp only at shown
  split at shown
  · next plain =>
    have opens : Opens (trim value.display ++ unit.getD "").toList := by
      rw [String.toList_append]
      exact (opens_of_isPlainNumber plain).append _
    exact absurd shown (opens.not_alias path)
  · exact shown

private theorem trim_display_object (members : Entries Json) :
    trim (Json.object members).display = (Json.object members).display := by
  obtain ⟨inner, braced⟩ : ∃ inner, (Json.object members).inline = '{' :: (inner ++ ['}']) := by
    match members with
    | [] => exact ⟨[], rfl⟩
    | (name, value) :: rest =>
      refine ⟨quoteChars name.toList ++ ':' :: ' ' :: value.inline ++ Json.inlineMembers rest, ?_⟩
      simp [Json.inline]
  have shown : (Json.object members).display = String.ofList (Json.object members).inline := rfl
  have ends : Trimmed isBlank ('{' :: (inner ++ ['}'])) := by
    refine ⟨fun c first => ?_, fun c last => ?_⟩
    · cases first
      rfl
    · rw [← List.cons_append, List.getLast?_concat] at last
      cases last
      rfl
  rw [shown, braced, trim, String.toList_ofList, ends.trimBy_eq]

/-- The notes of resolving a value to an alias have the path of that alias. -/
theorem resolve_alias_noted {tree value : Json} {path : String}
    (left : (resolve tree value).value = .string (aliasText path)) :
    .unresolved path ∈ (resolve tree value).notes ∨ .cycle path ∈ (resolve tree value).notes := by
  cases found : aliasPath? value with
  | none =>
    have same : (resolve tree value).value = value := by simp [resolve, resolveFrom, found]
    rw [← same, left, aliasPath?_aliasText] at found
    cases found
  | some start =>
    cases aliasPath?_eq_some_iff.mp found
    have fate := follow_fate (Trail.empty tree start)
    rw [resolve_alias] at left ⊢
    generalize (follow tree [] start).1 = ending at fate left
    cases fate with
    | literal stops answers =>
      have onward : next? tree _ = some path := aliasPath?_eq_some_iff.mpr left
      rw [stops.2] at onward
      cases onward
    | unresolved stops dead =>
      cases aliasPath?_eq_some_iff.mpr left |>.symm.trans (aliasPath?_aliasText _)
      exact Or.inl List.mem_cons_self
    | cycle repeats =>
      cases aliasPath?_eq_some_iff.mpr left |>.symm.trans (aliasPath?_aliasText _)
      exact Or.inr List.mem_cons_self

def Reported (report : Report) (path : String) : Prop :=
  path ∈ report.unresolved ∨ path ∈ report.cycles

private theorem reported_of_noted {notes all : List Note} {path : String} (taken : notes ⊆ all)
    (noted : .unresolved path ∈ notes ∨ .cycle path ∈ notes) :
    Reported (.ofNotes all) path := by
  rcases noted with unresolved | cycle
  · exact Or.inl ((Report.mem_unresolved_addAll _ _ _).mpr (Or.inr (taken unresolved)))
  · exact Or.inr ((Report.mem_cycles_addAll _ _ _).mpr (Or.inr (taken cycle)))

private theorem hasIssues_of_reported {all : List Note} {path : String}
    (reported : Reported (.ofNotes all) path) : (Report.ofNotes all).hasIssues = true := by
  rw [Report.hasIssues, Bool.or_eq_true, Bool.not_eq_true', Bool.not_eq_true',
    List.isEmpty_eq_false_iff, List.isEmpty_eq_false_iff]
  rcases reported with unresolved | cycle
  · exact Or.inr (List.ne_nil_of_mem unresolved)
  · left
    have noted : Note.cycle path ∈ all :=
      ((Report.mem_cycles_addAll _ _ _).mp cycle).resolve_left List.not_mem_nil
    exact List.ne_nil_of_mem
      ((Report.mem_warnings_addAll _ _ _).mpr (Or.inr (Or.inr ⟨path, noted, rfl⟩)))

def ResolvesTo (raw value : Json) : Prop :=
  ∃ token, Occurs token raw ∧ token.isToken = true ∧ (resolve raw token.rawValue).value = value

def PrintedMap (raw : Json) (text : String) : Prop :=
  ∃ members, ResolvesTo raw (.object members) ∧ text = (Json.object members).display

/-- The text is what is left of a longer one that a token stands for, without the white space around
it. -/
def Unpadded (raw : Json) (text : String) : Prop :=
  ∃ longer, ResolvesTo raw (.string longer) ∧ text = trim longer ∧ text ≠ longer

/-- A text that looks like an alias is reported, or there is another reason for it. -/
def Accounted (report : Report) (other : String → Prop) (text : String) : Prop :=
  ∀ path, aliasPath? (.string text) = some path → Reported report path ∨ other text

variable {raw : Json} {all : List Note}

private theorem color_accounted :
    Shows (resolvedText raw) all (Accounted (.ofNotes all) (PrintedMap raw)) raw := by
  intro token occurs isToken noted path looks
  have shown : (resolve raw token.rawValue).value.display = aliasText path := by
    simpa [resolvedText] using aliasPath?_eq_some_iff.mp looks
  have noted : (resolve raw token.rawValue).notes ⊆ all := by simpa [resolvedText] using noted
  have same : (resolvedText raw token).value = (resolve raw token.rawValue).value.display := rfl
  have resolves : ResolvesTo raw (resolve raw token.rawValue).value := ⟨token, occurs, isToken, rfl⟩
  cases value : (resolve raw token.rawValue).value with
  | string text =>
    rw [value] at shown
    cases shown
    exact Or.inl (reported_of_noted noted (resolve_alias_noted value))
  | object members =>
    rw [value] at same resolves
    exact Or.inr ⟨members, resolves, same⟩
  | _ =>
    have opens : Opens (resolve raw token.rawValue).value.display.toList :=
      opens_display (by simp [value]) (by simp [value, Json.isObject])
    exact absurd shown (opens.not_alias path)

theorem length_accounted (unit : Option String) : Shows (resolvedDimension raw unit) all
    (Accounted (.ofNotes all) fun text => PrintedMap raw text ∨ Unpadded raw text) raw := by
  intro token occurs isToken noted path looks
  have shown : formatDimension unit (resolve raw token.rawValue).value = aliasText path := by
    simpa [resolvedDimension] using aliasPath?_eq_some_iff.mp looks
  have noted : (resolve raw token.rawValue).notes ⊆ all := by
    simpa [resolvedDimension] using noted
  have same : (resolvedDimension raw unit token).value = aliasText path := shown
  rw [same]
  have resolves : ResolvesTo raw (resolve raw token.rawValue).value := ⟨token, occurs, isToken, rfl⟩
  cases value : (resolve raw token.rawValue).value with
  | string text =>
    rw [value] at shown resolves
    have trimmed := formatDimension_alias rfl shown
    by_cases literal : text = aliasText path
    · cases literal
      exact Or.inl (reported_of_noted noted (resolve_alias_noted value))
    · exact Or.inr (Or.inr ⟨text, resolves, trimmed.symm, Ne.symm literal⟩)
  | object members =>
    rw [value] at shown resolves
    have trimmed := formatDimension_alias rfl shown
    exact Or.inr (Or.inl ⟨members, resolves, trimmed.symm.trans (trim_display_object members)⟩)
  | _ =>
    have opens : Opens (formatDimension unit (resolve raw token.rawValue).value).toList :=
      formatDimension_opens (by simp [value]) (by simp [value, Json.isObject])
    exact absurd shown (opens.not_alias path)

theorem Accounted.quiet {other : String → Prop} {text : String}
    (accounted : Accounted (.ofNotes all) other text) (quiet : (Report.ofNotes all).hasIssues = false)
    (looks : aliasPath? (.string text) ≠ none) : other text := by
  obtain ⟨path, found⟩ := Option.ne_none_iff_exists'.mp looks
  rcases accounted path found with reported | reason
  · rw [hasIssues_of_reported reported] at quiet
    cases quiet
  · exact reason

/-- Every text of a model that looks like an alias is in the report of the run, unless it is a
printed map or, among the lengths, a trimmed text. If the report has no issues, these are all the
texts that look like an alias. -/
theorem left_aliases_reported {options : Options} {model : Model}
    (built : (assemble options raw).run.value = .ok model) :
    let report := (assemble options raw).run.report
    AllTexts (Accounted report (PrintedMap raw))
      (Accounted report fun text => PrintedMap raw text ∨ Unpadded raw text) model ∧
    (report.hasIssues = false →
      AllTexts (fun text => aliasPath? (.string text) ≠ none → PrintedMap raw text)
        (fun text => aliasPath? (.string text) ≠ none → PrintedMap raw text ∨ Unpadded raw text)
        model) := by
  intro report
  have yields : Yields (assemble options raw).run.notes (assemble options raw) model :=
    ⟨List.Subset.refl _, built⟩
  refine ⟨?_, ?_⟩
  · exact assemble_texts color_accounted (length_accounted _) (length_accounted _) yields
  · intro quiet
    refine assemble_texts (color_accounted.imp ?_) ((length_accounted _).imp ?_)
      ((length_accounted _).imp ?_) yields <;>
    · intro text accounted looks
      exact accounted.quiet quiet looks

def dangling : Json :=
  .object [("TokenStudio", .object [("color", .object [("ink", .color "{gone}")])])]

theorem left_aliases_reported_dangling : ∃ model,
    (assemble {} dangling).run.value = .ok model ∧
    model.colors.primitive = [("ink", .string "{gone}")] ∧
    (Reported (assemble {} dangling).run.report "gone" ∨ PrintedMap dangling "{gone}") := by
  have dead : resolve dangling (.string (aliasText "gone")) =
      ⟨[.unresolved "gone"], .string (aliasText "gone")⟩ := resolve_of_dead ⟨0, rfl⟩ rfl
  have noted : resolvedText dangling
      (.color "{gone}") =
      ⟨[.unresolved "gone"], "{gone}"⟩ := by
    show (resolve dangling (.string (aliasText "gone")) >>= _) = _
    rw [dead]
    rfl
  obtain ⟨model, built, shown⟩ : ∃ model, (assemble {} dangling).run.value = .ok model ∧
      model.colors.primitive = [("ink", .string "{gone}")] :=
    ⟨_, rfl, congrArg (fun text : Noted String => [("ink", Json.string text.value)]) noted⟩
  have texts := (left_aliases_reported built).1.colors.primitive
  rw [shown] at texts
  exact ⟨model, built, shown, texts.2.1 "gone" rfl⟩

/-- A map and a padded alias, neither of which is an alias. -/
def braced : Json :=
  .object [("TokenStudio", .object [
    ("color", .object [("ink", .token "color" (.object [("b", .int 1)]))]),
    ("semantic", .object [("size", .object [("space", .object [("s", .dimension " {x} ")])])])])]

theorem braced_unreported : ∃ model,
    (assemble {} braced).run.value = .ok model ∧
    model.colors.primitive = [("ink", .string "\x7b'b': 1\x7d")] ∧ model.spacing = [("space-s", "{x}")] ∧
    aliasPath? (.string "\x7b'b': 1\x7d") = some "'b': 1" ∧ aliasPath? (.string "{x}") = some "x" ∧
    (assemble {} braced).run.report = {} := by
  exact ⟨_, rfl, rfl, rfl, rfl, rfl, rfl⟩

end DesignTokens.Proofs.AliasReporting
