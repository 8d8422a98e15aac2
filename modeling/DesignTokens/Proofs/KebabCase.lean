import DesignTokens.Proofs.KeyWords
import DesignTokens.Proofs.LowerCase
import Mathlib.Data.List.Chain

/-! The form of normalised keys. A key is normalised if and only if it has the form that all normalised keys
have: words in lower case with single hyphens between them, and no other character that divides words. -/

namespace DesignTokens.Proofs.KebabCase
open Key KeyWords LowerCase Text

/-- Hyphens stand alone, and only inside a text. -/
structure SingleHyphens (chars : List Char) : Prop where
  apart : chars.IsChain fun c next => ¬ (c = '-' ∧ next = '-')
  start : chars.head? ≠ some '-'
  stop : chars.getLast? ≠ some '-'

structure Canonical (name : String) : Prop where
  plain : ∀ c ∈ name.toList, c ≠ '/' ∧ c ≠ ':' ∧ c ≠ '(' ∧ c ≠ ')' ∧ isBlank c = false
  hyphens : SingleHyphens name.toList
  lowered : lower name = name

variable {c : Char} {chars piece : List Char} {key word : String}

/-- Of the characters that divide words, a hyphen is the only one that a name may hold. -/
theorem plain_iff : (c ≠ '/' ∧ c ≠ ':' ∧ c ≠ '(' ∧ c ≠ ')' ∧ isBlank c = false) ↔
    (divides c = true → c = '-') := by
  have blank : isBlank '-' = false := by decide
  grind [divides, hyphenate, isParenthesis]

private theorem mem_splitOn (member : piece ∈ chars.splitOn '-') (inside : c ∈ piece) :
    c ∈ chars ∧ c ≠ '-' := by
  induction chars generalizing piece with
  | nil =>
    rw [List.splitOn_nil, List.mem_singleton] at member
    subst member
    cases inside
  | cons first rest ih =>
    rw [List.splitOn_cons_eq_if_modifyHead] at member
    split at member
    · rcases List.mem_cons.mp member with rfl | later
      · cases inside
      · obtain ⟨old, free⟩ := ih later inside
        exact ⟨List.mem_cons_of_mem _ old, free⟩
    · next letter =>
      obtain ⟨head, tail, split⟩ := List.exists_cons_of_ne_nil (List.splitOn_ne_nil '-' rest)
      rw [split, List.modifyHead_cons] at member
      rw [split] at ih
      rcases List.mem_cons.mp member with rfl | later
      · rcases List.mem_cons.mp inside with rfl | behind
        · exact ⟨List.mem_cons_self, by simpa using letter⟩
        · obtain ⟨old, free⟩ := ih List.mem_cons_self behind
          exact ⟨List.mem_cons_of_mem _ old, free⟩
      · obtain ⟨old, free⟩ := ih (List.mem_cons_of_mem _ later) inside
        exact ⟨List.mem_cons_of_mem _ old, free⟩

private theorem mem_spread (member : c ∈ spread key) (divider : divides c = true) : c = '-' := by
  obtain ⟨image, kept⟩ := List.mem_filter.mp member
  obtain ⟨origin, _, rfl⟩ := List.mem_map.mp image
  grind [divides, hyphenate]

/-- A word is not empty, and holds no character that divides. -/
theorem mem_words (member : word ∈ keyWords key) :
    word.toList ≠ [] ∧ ∀ c ∈ word.toList, divides c = false := by
  obtain ⟨piece, part, rfl⟩ := List.mem_map.mp member
  rw [String.toList_ofList]
  refine ⟨lowerFrom_ne_nil (ne_nil_of_mem_hyphenPieces part), ?_⟩
  intro c inside
  rw [← Bool.not_eq_true]
  intro divider
  obtain ⟨old, letter⟩ := mem_splitOn (List.mem_filter.mp part).1 (mem_of_divides inside divider)
  exact letter (mem_spread old divider)

theorem singleHyphens_of_free (free : '-' ∉ piece) : SingleHyphens piece where
  apart := by
    apply (List.isChain_isInfix piece).imp
    rintro c next inside ⟨rfl, _⟩
    exact free (inside.subset List.mem_cons_self)
  start := fun first => free (List.mem_of_mem_head? first)
  stop := fun last => free (List.mem_of_mem_getLast? last)

theorem SingleHyphens.join {later : List Char} (filled : piece ≠ []) (free : '-' ∉ piece)
    (filled' : later ≠ []) (single : SingleHyphens later) : SingleHyphens (piece ++ '-' :: later) where
  apart := by
    apply (singleHyphens_of_free free).apart.append
    · apply single.apart.cons
      rintro next first ⟨_, rfl⟩
      exact single.start first
    · rintro c last next _ ⟨rfl, _⟩
      exact free (List.mem_of_mem_getLast? last)
  start := by
    rw [List.head?_append_of_ne_nil _ filled]
    exact (singleHyphens_of_free free).start
  stop := by
    obtain ⟨first, rest, rfl⟩ := List.exists_cons_of_ne_nil filled'
    rw [List.getLast?_append_cons, List.getLast?_cons_cons]
    exact single.stop

theorem intercalate_ne_nil {first : List Char} {rest : List (List Char)} (filled : first ≠ []) :
    ['-'].intercalate (first :: rest) ≠ [] := by
  cases rest with
  | nil => rwa [List.intercalate_singleton]
  | cons next others =>
    rw [List.intercalate_cons_cons, List.append_assoc]
    exact List.append_ne_nil_of_left_ne_nil filled _

private theorem singleHyphens_intercalate {parts : List (List Char)} (filled : ∀ part ∈ parts, part ≠ [])
    (free : ∀ part ∈ parts, '-' ∉ part) : SingleHyphens (['-'].intercalate parts) := by
  induction parts with
  | nil => exact singleHyphens_of_free List.not_mem_nil
  | cons part rest ih =>
    obtain ⟨here, later⟩ := List.forall_mem_cons.mp filled
    obtain ⟨here', later'⟩ := List.forall_mem_cons.mp free
    cases rest with
    | nil =>
      rw [List.intercalate_singleton]
      exact singleHyphens_of_free here'
    | cons next others =>
      have behind : ['-'].intercalate (next :: others) ≠ [] := intercalate_ne_nil (later next List.mem_cons_self)
      rw [List.intercalate_cons_cons, List.append_assoc]
      exact (ih later later').join here here' behind

/-- Where hyphens are single, there is nothing to squeeze and nothing to trim. -/
theorem squeeze_of_apart (apart : chars.IsChain fun c next => ¬ (c = '-' ∧ next = '-')) :
    squeeze chars = chars := by
  induction chars with
  | nil => rfl
  | cons c rest ih =>
    obtain ⟨next, onward⟩ := List.isChain_cons.mp apart
    have kept : ¬ (isHyphen c && rest.head? == some '-') = true := by
      rw [Bool.and_eq_true, isHyphen, beq_iff_eq, beq_iff_eq]
      rintro ⟨hyphen, first⟩
      exact next '-' first ⟨hyphen, rfl⟩
    rw [squeeze, if_neg kept, ih onward]

theorem SingleHyphens.trimmed (single : SingleHyphens chars) : Trimmed isHyphen chars where
  first := by
    rintro c first
    have start := single.start
    rw [Option.mem_def.mp first] at start
    simpa [isHyphen] using start
  last := by
    rintro c last
    have stop := single.stop
    rw [Option.mem_def.mp last] at stop
    simpa [isHyphen] using stop

private theorem tidy_of_singleHyphens (single : SingleHyphens chars) : tidy chars = chars := by
  rw [tidy, squeeze_of_apart single.apart, single.trimmed.trimBy_eq]

private theorem squeeze_sublist (chars : List Char) : List.Sublist (squeeze chars) chars := by
  induction chars with
  | nil => exact .slnil
  | cons c rest ih =>
    rw [squeeze]
    split
    · exact ih.cons c
    · exact ih.cons_cons c

theorem tidy_sublist (chars : List Char) : List.Sublist (tidy chars) chars := by
  have trimmed := (List.dropWhile_sublist isHyphen (l := ((squeeze chars).dropWhile isHyphen).reverse)).reverse
  rw [List.reverse_reverse] at trimmed
  exact (trimmed.trans (List.dropWhile_sublist isHyphen)).trans (squeeze_sublist chars)

theorem canonical_normalize (key : String) : Canonical (normalize key) where
  plain := by
    intro c member
    rw [normalize_eq_tidy, String.toList_ofList] at member
    rw [plain_iff]
    intro divider
    exact mem_spread ((tidy_sublist _).subset (mem_of_divides member divider)) divider
  hyphens := by
    rw [normalize_eq_keyWords, String.toList_intercalate]
    apply singleHyphens_intercalate
    · intro part member
      obtain ⟨word, listed, rfl⟩ := List.mem_map.mp member
      exact (mem_words listed).1
    · intro part member
      obtain ⟨word, listed, rfl⟩ := List.mem_map.mp member
      intro hyphen
      have letter := (mem_words listed).2 '-' hyphen
      cases letter
  lowered := by
    rw [lower, normalize_eq_tidy, String.toList_ofList, lowerFrom_lowerFrom]

private theorem spread_of_plain (plain : ∀ c ∈ key.toList, divides c = true → c = '-') :
    spread key = key.toList := by
  have same : key.toList.map hyphenate = key.toList := by
    conv_rhs => rw [← List.map_id key.toList]
    apply List.map_congr_left
    intro c member
    have hyphen := plain c member
    grind [divides, hyphenate]
  rw [spread, same, List.filter_eq_self]
  intro c member
  have hyphen := plain c member
  grind [divides, isParenthesis]

theorem normalize_of_canonical (canonical : Canonical key) : normalize key = key := by
  have plain : ∀ c ∈ key.toList, divides c = true → c = '-' := fun c member =>
    plain_iff.mp (canonical.plain c member)
  rw [normalize_eq_tidy, spread_of_plain plain, tidy_of_singleHyphens canonical.hyphens]
  exact canonical.lowered

/-- Normalised keys are exactly the names of the canonical form, and each of them is its own normalised
form. -/
theorem normalize_projects :
    (∀ key, Canonical (normalize key)) ∧ (∀ key, normalize key = key ↔ Canonical key) ∧
      (∀ key, normalize (normalize key) = normalize key) ∧
      ∀ name, (∃ key, normalize key = name) ↔ Canonical name := by
  have fixed (key : String) : normalize key = key ↔ Canonical key :=
    ⟨fun same => same ▸ canonical_normalize key, normalize_of_canonical⟩
  refine ⟨canonical_normalize, fixed, ?_, ?_⟩
  · intro key
    exact normalize_of_canonical (canonical_normalize key)
  · intro name
    constructor
    · rintro ⟨key, rfl⟩
      exact canonical_normalize key
    · intro canonical
      exact ⟨name, normalize_of_canonical canonical⟩

/-- Where parentheses are dropped, hyphens meet. -/
example : normalize "(-) Hero -(2X)/ Title" = "hero-2x-title" := by
  decide +kernel

end DesignTokens.Proofs.KebabCase
