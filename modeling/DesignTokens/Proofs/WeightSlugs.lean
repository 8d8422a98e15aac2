import DesignTokens.Proofs.KebabCase

/-! Slugs of font weights. The table of common names agrees with the rule for all other names: a slug is the
normalised name without its hyphens. A name is looked up by its lower case, so it is found in the table only
if all its characters are lowered one by one, and then it does not matter that the rule divides the words
before it lowers them. -/

namespace DesignTokens.Proofs.WeightSlugs
open Key KebabCase KeyWords LowerCase Text

/-- A text without the characters that divide words. -/
def letters (chars : List Char) : List Char :=
  chars.filter (!divides ·)

/-- Each character of the text is lowered by the table of lower cases, whatever stands around it. -/
def Simple (chars : List Char) : Prop :=
  'İ' ∉ chars ∧ 'Σ' ∉ chars

variable {c : Char} {chars : List Char} {name : String}

private theorem filter_dropWhile (drops : Char → Bool) (chars : List Char) :
    (chars.dropWhile drops).filter (!drops ·) = chars.filter (!drops ·) := by
  induction chars with
  | nil => rfl
  | cons c rest ih =>
    cases dropped : drops c <;> simp [dropped, ih]

theorem filter_trimBy (drops : Char → Bool) (chars : List Char) :
    (trimBy drops chars).filter (!drops ·) = chars.filter (!drops ·) := by
  rw [trimBy, trimEndBy, List.filter_reverse, filter_dropWhile, List.filter_reverse, List.reverse_reverse,
    filter_dropWhile]

private theorem filter_squeeze (chars : List Char) :
    (squeeze chars).filter (!isHyphen ·) = chars.filter (!isHyphen ·) := by
  induction chars with
  | nil => rfl
  | cons c rest ih =>
    rw [squeeze]
    split
    · next run =>
      have hyphen : isHyphen c = true := (Bool.and_eq_true_iff.mp run).1
      rw [ih, List.filter_cons_of_neg (by simp [hyphen])]
    · rw [List.filter_cons, List.filter_cons, ih]

private theorem filter_tidy (chars : List Char) :
    (tidy chars).filter (!isHyphen ·) = chars.filter (!isHyphen ·) := by
  rw [tidy, filter_trimBy, filter_squeeze]

private theorem filter_spread (name : String) : (spread name).filter (!isHyphen ·) = letters name.toList := by
  have same (c : Char) (plain : divides c = false) : hyphenate c = c := by
    grind [divides, hyphenate]
  have kept (c : Char) : (!isHyphen (hyphenate c) && !isParenthesis (hyphenate c)) = !divides c := by
    grind [divides, hyphenate, isHyphen, isParenthesis]
  rw [spread, letters, List.filter_filter]
  induction name.toList with
  | nil => rfl
  | cons c rest ih =>
    rw [List.map_cons, List.filter_cons, List.filter_cons, ih, kept]
    split
    · next plain => rw [same c (by simpa using plain)]
    · rfl

private theorem divides_of_isBlank (blank : isBlank c = true) : divides c = true := by
  simp [divides, hyphenate, blank]

private theorem letters_trim (text : String) : letters (trim text).toList = letters text.toList := by
  have letters_filter (chars : List Char) : letters (chars.filter (!isBlank ·)) = letters chars := by
    rw [letters, letters, List.filter_filter]
    apply List.filter_congr
    intro c _
    have divider := @divides_of_isBlank c
    grind
  rw [trim, String.toList_ofList, ← letters_filter (trimBy _ _), filter_trimBy, letters_filter]

private theorem divides_lowerChar (c : Char) : divides (lowerChar c) = divides c := by
  rcases lowerChar_cases c with same | ⟨plain, plain', _⟩
  · rw [same]
  · rw [plain, plain']

private theorem isHyphen_lowerChar (c : Char) : isHyphen (lowerChar c) = isHyphen c := by
  have hyphen : divides '-' = true := by decide
  rcases lowerChar_cases c with same | ⟨plain, plain', _⟩
  · rw [same]
  · grind [isHyphen]

/-- Of simple characters, no one is lowered by what stands around it. -/
theorem lowerFrom_of_simple {afterCased : Bool} (simple : Simple chars) :
    lowerFrom afterCased chars = chars.map lowerChar := by
  induction chars generalizing afterCased with
  | nil => rfl
  | cons c rest ih =>
    obtain ⟨dotted, later⟩ := not_or.mp (mt List.mem_cons.mpr simple.1)
    obtain ⟨sigma, later'⟩ := not_or.mp (mt List.mem_cons.mpr simple.2)
    rw [lowerFrom, if_neg (by simpa using Ne.symm dotted), if_neg (by simpa using Ne.symm sigma),
      ih ⟨later, later'⟩]
    rfl

/-- The lower cases of the other two characters show that they were there. -/
theorem simple_of_lower {afterCased : Bool}
    (plain : ∀ c ∈ lowerFrom afterCased chars, c ∉ ['\u0307', 'ς', 'σ']) : Simple chars := by
  induction chars generalizing afterCased with
  | nil => exact ⟨List.not_mem_nil, List.not_mem_nil⟩
  | cons c rest ih =>
    rw [lowerFrom] at plain
    obtain ⟨here, later⟩ := List.forall_mem_append.mp plain
    obtain ⟨dotted, sigma⟩ := ih later
    constructor
    · intro member
      rcases List.mem_cons.mp member with rfl | behind
      · exact here '\u0307' (by simp) (by simp)
      · exact dotted behind
    · intro member
      rcases List.mem_cons.mp member with rfl | behind
      · exact here _ (List.mem_singleton.mpr rfl) (by split <;> simp)
      · exact sigma behind

private theorem mem_of_mem_spread (member : c ∈ spread name) : c = '-' ∨ c ∈ name.toList := by
  obtain ⟨origin, inside, rfl⟩ := List.mem_map.mp (List.mem_filter.mp member).1
  grind [hyphenate]

theorem Simple.tidy (simple : Simple name.toList) : Simple (tidy (spread name)) := by
  have old : ∀ c ∈ KeyWords.tidy (spread name), c = '-' ∨ c ∈ name.toList := fun c member =>
    mem_of_mem_spread ((tidy_sublist _).subset member)
  constructor
  · intro dotted
    exact simple.1 ((old _ dotted).resolve_left (by decide))
  · intro sigma
    exact simple.2 ((old _ sigma).resolve_left (by decide))

/-- The rule for the names that are not in the table, where lowering is simple. -/
theorem filter_normalize (simple : Simple name.toList) :
    (normalize name).toList.filter (!isHyphen ·) = letters (lower name).toList := by
  calc (normalize name).toList.filter (!isHyphen ·)
      = ((tidy (spread name)).map lowerChar).filter (!isHyphen ·) := by
        rw [normalize_eq_tidy, String.toList_ofList, lowerFrom_of_simple simple.tidy]
    _ = ((tidy (spread name)).filter (!isHyphen ·)).map lowerChar := by
        simp only [List.filter_map, Function.comp_def, isHyphen_lowerChar]
    _ = (letters name.toList).map lowerChar := by rw [filter_tidy, filter_spread]
    _ = letters (name.toList.map lowerChar) := by
        simp only [letters, List.filter_map, Function.comp_def, divides_lowerChar]
    _ = letters (lower name).toList := by
        rw [lower, String.toList_ofList, lowerFrom_of_simple simple]

/-- Names in the table are in plain letters, and their slugs are the rule's. -/
theorem table_simple : ∀ entry ∈ weightSlugs,
    entry.2.toList = letters entry.1.toList ∧
      '\u0307' ∉ entry.1.toList ∧ 'ς' ∉ entry.1.toList ∧ 'σ' ∉ entry.1.toList := by
  decide

private theorem mem_trimBy {drops : Char → Bool} (kept : drops c = false) (member : c ∈ chars) :
    c ∈ trimBy drops chars := by
  have inside : c ∈ chars.filter (!drops ·) := List.mem_filter.mpr ⟨member, by simp [kept]⟩
  rw [← filter_trimBy] at inside
  exact (List.mem_filter.mp inside).1

private theorem listed_slug {slug : String} (listed : (trim (lower name), slug) ∈ weightSlugs) :
    slug.toList = (normalize name).toList.filter (!isHyphen ·) := by
  obtain ⟨slug_eq, dot, final, sigma⟩ := table_simple _ listed
  have missing {c : Char} (absent : c ∉ (trim (lower name)).toList) (solid : isBlank c = false) :
      c ∉ lowerFrom false name.toList := by
    intro member
    rw [trim, String.toList_ofList, lower, String.toList_ofList] at absent
    exact absent (mem_trimBy solid member)
  have plain : ∀ c ∈ lowerFrom false name.toList, c ∉ ['\u0307', 'ς', 'σ'] := by
    intro c member marked
    simp only [List.mem_cons, List.not_mem_nil, or_false] at marked
    rcases marked with rfl | rfl | rfl
    · exact missing dot (by decide) member
    · exact missing final (by decide) member
    · exact missing sigma (by decide) member
  have simple : Simple name.toList := simple_of_lower plain
  rw [filter_normalize simple, slug_eq, letters_trim]

/-- A slug is the normalised name without hyphens, whether the name is in the table or not. So no slug holds
a character that divides words. -/
theorem weightSlug_compact (name : String) :
    weightSlug name = String.ofList ((normalize name).toList.filter (!isHyphen ·)) ∧
      ∀ c ∈ (weightSlug name).toList,
        c ≠ '-' ∧ isBlank c = false ∧ c ≠ '/' ∧ c ≠ ':' ∧ c ≠ '(' ∧ c ≠ ')' := by
  have compact : weightSlug name = String.ofList ((normalize name).toList.filter (!isHyphen ·)) := by
    rw [weightSlug]
    split
    · next found =>
      rw [← listed_slug (Entries.mem_of_get? found), String.ofList_toList]
    · rfl
  refine ⟨compact, ?_⟩
  intro c member
  rw [compact, String.toList_ofList] at member
  obtain ⟨inside, solid⟩ := List.mem_filter.mp member
  obtain ⟨slash, colon, opening, closing, blank⟩ := (canonical_normalize name).plain c inside
  exact ⟨by simpa [isHyphen] using solid, blank, slash, colon, opening, closing⟩

/-- The sign for Kelvin is lowered to the letter k. -/
example : weightSlug " BLAC\u212A\u3000" = "black" := by
  decide +kernel

end DesignTokens.Proofs.WeightSlugs
