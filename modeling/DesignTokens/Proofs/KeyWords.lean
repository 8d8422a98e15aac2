import DesignTokens.Key

/-! The words of a key. A normalised key is its words in lower case with hyphens between them. Separators
only divide words, and the case of a word does not depend on the words around it, so keys that are joined
by a separator normalise to their own normalised forms joined by hyphens. -/

namespace DesignTokens.Proofs.KeyWords
open Key Text

def hyphenPieces (chars : List Char) : List (List Char) :=
  (chars.splitOn '-').filter (!·.isEmpty)

/-- The characters of a key with a hyphen for every separator, and without parentheses. -/
def spread (key : String) : List Char :=
  (key.toList.map hyphenate).filter (!isParenthesis ·)

def keyWords (key : String) : List String :=
  (hyphenPieces (spread key)).map fun piece => String.ofList (lowerFrom false piece)

/-- Single hyphens inside, and none at the ends. -/
def tidy (chars : List Char) : List Char :=
  trimBy isHyphen (squeeze chars)

theorem normalize_eq_tidy (key : String) :
    normalize key = String.ofList (lowerFrom false (tidy (spread key))) := rfl

variable {c d : Char} {chars rest : List Char} {key : String}

theorem hyphenPieces_nil : hyphenPieces [] = [] := by
  simp [hyphenPieces, List.splitOn_nil]

theorem hyphenPieces_append (one two : List Char) :
    hyphenPieces (one ++ '-' :: two) = hyphenPieces one ++ hyphenPieces two := by
  rw [hyphenPieces, List.splitOn_append_cons_self, List.filter_append]
  rfl

private theorem hyphenPieces_hyphen (rest : List Char) : hyphenPieces ('-' :: rest) = hyphenPieces rest := by
  have split := hyphenPieces_append [] rest
  rwa [hyphenPieces_nil] at split

private theorem hyphenPieces_single (letter : c ≠ '-') : hyphenPieces [c] = [[c]] := by
  have whole : [c].splitOn '-' = [[c]] := List.splitOn_eq_singleton (by simpa using Ne.symm letter)
  rw [hyphenPieces, whole]
  rfl

private theorem hyphenPieces_hyphen_after (letter : c ≠ '-') (rest : List Char) :
    hyphenPieces (c :: '-' :: rest) = [c] :: hyphenPieces rest := by
  have split := hyphenPieces_append [c] rest
  rwa [hyphenPieces_single letter] at split

theorem ne_nil_of_mem_hyphenPieces {piece : List Char} (member : piece ∈ hyphenPieces chars) : piece ≠ [] := by
  simpa using (List.mem_filter.mp member).2

private theorem hyphenPieces_letters (letter : c ≠ '-') (next : d ≠ '-') (rest : List Char) :
    ∃ first others, hyphenPieces (d :: rest) = first :: others ∧
      hyphenPieces (c :: d :: rest) = (c :: first) :: others := by
  obtain ⟨head, tail, split⟩ := List.exists_cons_of_ne_nil (List.splitOn_ne_nil '-' rest)
  have inner : (d :: rest).splitOn '-' = (d :: head) :: tail := by
    rw [List.splitOn_cons_eq_if_modifyHead, if_neg (by simpa using next), split, List.modifyHead_cons]
  have outer : (c :: d :: rest).splitOn '-' = (c :: d :: head) :: tail := by
    rw [List.splitOn_cons_eq_if_modifyHead, if_neg (by simpa using letter), inner, List.modifyHead_cons]
  exact ⟨d :: head, tail.filter (!·.isEmpty), by rw [hyphenPieces, inner]; rfl, by rw [hyphenPieces, outer]; rfl⟩

theorem trimEnd_cons (drops : Char → Bool) (c : Char) (rest : List Char) :
    trimEndBy drops (c :: rest) =
      if (trimEndBy drops rest).isEmpty && drops c then [] else c :: trimEndBy drops rest := by
  simp only [trimEndBy, List.reverse_cons, List.dropWhile_append, List.isEmpty_reverse]
  by_cases nothing : (rest.reverse.dropWhile drops).isEmpty = true
  · cases dropped : drops c <;> simp_all
  · simp [nothing]

theorem trimEnd_letter (letter : c ≠ '-') (rest : List Char) :
    trimEndBy isHyphen (c :: rest) = c :: trimEndBy isHyphen rest := by
  have kept : isHyphen c = false := by simpa [isHyphen] using letter
  rw [trimEnd_cons, kept, Bool.and_false, if_neg Bool.false_ne_true]

theorem squeeze_letter (letter : c ≠ '-') (rest : List Char) : squeeze (c :: rest) = c :: squeeze rest := by
  have kept : isHyphen c = false := by simpa [isHyphen] using letter
  rw [squeeze, kept, Bool.false_and, if_neg Bool.false_ne_true]

private theorem squeeze_hyphen (rest : List Char) :
    squeeze ('-' :: rest) = if rest.head? = some '-' then squeeze rest else '-' :: squeeze rest := by
  have hyphen : isHyphen '-' = true := rfl
  rw [squeeze, hyphen, Bool.true_and]
  simp

private theorem tidy_hyphen (rest : List Char) : tidy ('-' :: rest) = tidy rest := by
  rw [tidy, squeeze_hyphen]
  split
  · rfl
  · rw [trimBy, List.dropWhile_cons_of_pos rfl]
    rfl

theorem tidy_letter (letter : c ≠ '-') (rest : List Char) :
    tidy (c :: rest) = c :: trimEndBy isHyphen (squeeze rest) := by
  rw [tidy, squeeze_letter letter, trimBy, List.dropWhile_cons_of_neg (by simpa [isHyphen] using letter),
    trimEnd_letter letter]

/-- Behind a letter a run of hyphens leaves one, if another letter follows. -/
theorem trimEnd_squeeze_hyphen (rest : List Char) : trimEndBy isHyphen (squeeze ('-' :: rest)) =
    if (tidy rest).isEmpty then [] else '-' :: tidy rest := by
  induction rest with
  | nil => rfl
  | cons c rest ih =>
    rw [squeeze_hyphen]
    by_cases hyphen : c = '-'
    · subst hyphen
      rw [List.head?_cons, if_pos rfl, ih, tidy_hyphen]
    · rw [List.head?_cons, if_neg (by simpa using hyphen), squeeze_letter hyphen, trimEnd_cons,
        trimEnd_letter hyphen, tidy_letter hyphen]
      rfl

/-- A tidy text is the pieces with single hyphens between them. -/
theorem tidy_eq_hyphenPieces : ∀ chars, tidy chars = ['-'].intercalate (hyphenPieces chars)
  | [] => by rw [hyphenPieces_nil]; rfl
  | c :: rest => by
    by_cases hyphen : c = '-'
    · rw [hyphen, tidy_hyphen, hyphenPieces_hyphen, tidy_eq_hyphenPieces rest]
    · match rest with
      | [] => rw [tidy_letter hyphen, hyphenPieces_single hyphen, List.intercalate_singleton]; rfl
      | d :: later =>
        by_cases next : d = '-'
        · -- The hyphens behind a letter end its piece, and one of them stays if another piece follows.
          subst next
          rw [tidy_letter hyphen, trimEnd_squeeze_hyphen, hyphenPieces_hyphen_after hyphen, tidy_eq_hyphenPieces later]
          cases behind : hyphenPieces later with
          | nil => rfl
          | cons piece others =>
            have member : piece ∈ hyphenPieces later := behind ▸ List.mem_cons_self
            have filled : piece ≠ [] := ne_nil_of_mem_hyphenPieces member
            obtain ⟨head, tail, rfl⟩ := List.exists_cons_of_ne_nil filled
            simp
        · obtain ⟨first, others, inner, outer⟩ := hyphenPieces_letters hyphen next later
          have onward := tidy_eq_hyphenPieces (d :: later)
          rw [tidy_letter next] at onward
          rw [tidy_letter hyphen, squeeze_letter next, trimEnd_letter next, onward, inner, outer,
            List.intercalate_cons_cons_left]

/-- A hyphen has no case, so the case of what comes before it is settled. -/
theorem startsCased_append (one two : List Char) : startsCased (one ++ '-' :: two) = startsCased one := by
  induction one with
  | nil =>
    have neutral : isCaseIgnorable '-' = false ∧ isCased '-' = false := by decide +kernel
    change (if isCaseIgnorable '-' then startsCased two else isCased '-') = false
    rw [neutral.1, neutral.2, if_neg Bool.false_ne_true]
  | cons c rest ih => rw [List.cons_append, startsCased, startsCased, ih]

private theorem lower_hyphen (cased : Bool) (rest : List Char) :
    lowerFrom cased ('-' :: rest) = '-' :: lowerFrom false rest := by
  have neutral : isCaseIgnorable '-' = false ∧ isCased '-' = false ∧ lowerChar '-' = '-' := by decide +kernel
  rw [lowerFrom, neutral.1, neutral.2.1, neutral.2.2]
  rfl

theorem lower_append (cased : Bool) (one two : List Char) :
    lowerFrom cased (one ++ '-' :: two) = lowerFrom cased one ++ '-' :: lowerFrom false two := by
  induction one generalizing cased with
  | nil => exact lower_hyphen cased two
  | cons c rest ih =>
    rw [List.cons_append, lowerFrom, lowerFrom, startsCased_append, ih]
    exact (List.append_assoc ..).symm

private theorem lower_hyphenPieces (parts : List (List Char)) :
    lowerFrom false (['-'].intercalate parts) = ['-'].intercalate (parts.map (lowerFrom false)) := by
  induction parts with
  | nil => rfl
  | cons part rest ih =>
    cases rest with
    | nil => simp
    | cons next later =>
      rw [List.map_cons, List.map_cons] at *
      rw [List.intercalate_cons_cons, List.intercalate_cons_cons, ← ih, List.append_assoc, List.append_assoc]
      exact lower_append false part _

theorem normalize_eq_keyWords (key : String) : normalize key = "-".intercalate (keyWords key) := by
  apply String.toList_injective
  rw [normalize_eq_tidy, tidy_eq_hyphenPieces, lower_hyphenPieces, String.toList_intercalate, keyWords, List.map_map]
  simp [Function.comp_def]

theorem keyWords_ne_nil (filled : normalize key ≠ "") : keyWords key ≠ [] := by
  intro none
  rw [normalize_eq_keyWords, none] at filled
  exact filled rfl

theorem spread_append (one two : String) : spread (one ++ "/" ++ two) = spread one ++ '-' :: spread two := by
  simp only [spread, String.toList_append, List.map_append, List.filter_append, List.append_assoc]
  rfl

theorem keyWords_append (one two : String) : keyWords (one ++ "/" ++ two) = keyWords one ++ keyWords two := by
  rw [keyWords, spread_append, hyphenPieces_append, List.map_append]
  rfl

private theorem keyWords_joined (keys : List String) :
    keyWords ("/".intercalate keys) = keys.flatMap keyWords := by
  induction keys with
  | nil => rfl
  | cons key rest ih =>
    cases rest with
    | nil => simp
    | cons next later =>
      rw [String.intercalate_cons_cons, keyWords_append, ih]
      rfl

/-- The names of keys joined by hyphens are the name of the keys joined by a separator. -/
theorem normalize_joined {keys : List String} (filled : ∀ key ∈ keys, normalize key ≠ "") :
    normalize ("/".intercalate keys) = "-".intercalate (keys.map normalize) := by
  rw [normalize_eq_keyWords, keyWords_joined]
  induction keys with
  | nil => rfl
  | cons key rest ih =>
    obtain ⟨first, others⟩ := List.forall_mem_cons.mp filled
    cases rest with
    | nil => simp [normalize_eq_keyWords]
    | cons next later =>
      have behind : (next :: later).flatMap keyWords ≠ [] := by
        rw [List.flatMap_cons]
        exact List.append_ne_nil_of_left_ne_nil (keyWords_ne_nil (others next List.mem_cons_self)) _
      have named : (next :: later).map normalize ≠ [] := by simp
      rw [List.flatMap_cons, String.intercalate_append_of_ne_nil (keyWords_ne_nil first) behind,
        ← normalize_eq_keyWords, List.map_cons, String.intercalate_cons_of_ne_nil named, ih others]

/-- A capital sigma is final before a separator as it is at the end of a key. -/
example : normalize ("/".intercalate ["Size (ΜΈΓΑΣ)", "4"]) = "size-μέγας-4" := by
  decide +kernel

end DesignTokens.Proofs.KeyWords
