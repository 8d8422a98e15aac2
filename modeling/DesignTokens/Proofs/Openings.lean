import DesignTokens.Extract.Dimension

/-! The first character of a printed value. Only a text, or a map, can start with a brace or with white
space: numbers, truth values, arrays and the absent value start with characters of their own, and so
do the lengths that are made of them. -/

namespace DesignTokens.Proofs.Openings
open Text

/-- The first character is neither a brace nor white space. -/
def Opens (text : List Char) : Prop :=
  ∃ first rest, text = first :: rest ∧ first ≠ '{' ∧ isBlank first = false

theorem Opens.append {text : List Char} (opens : Opens text) (more : List Char) :
    Opens (text ++ more) := by
  obtain ⟨first, rest, rfl, plain⟩ := opens
  exact ⟨first, rest ++ more, rfl, plain⟩

theorem Opens.ne_empty {text : String} (opens : Opens text.toList) : text ≠ "" := by
  rintro rfl
  obtain ⟨first, rest, spelled, _⟩ := opens
  cases spelled

theorem Opens.not_alias {text : String} (opens : Opens text.toList) (path : String) :
    text ≠ aliasText path := by
  rintro rfl
  obtain ⟨first, rest, spelled, plain, _⟩ := opens
  rw [toList_aliasText] at spelled
  exact plain (List.cons.inj spelled).1.symm

theorem toNat_of_isDigit {digit : Char} (isDigit : digit.isDigit = true) :
    48 ≤ digit.toNat ∧ digit.toNat ≤ 57 := by
  simpa [Char.isDigit, UInt32.le_iff_toNat_le] using isDigit

theorem opens_digit {digit : Char} (isDigit : digit.isDigit = true) (rest : List Char) :
    Opens (digit :: rest) := by
  obtain ⟨least, most⟩ := toNat_of_isDigit isDigit
  refine ⟨digit, rest, rfl, ?_, ?_⟩
  · rintro rfl
    exact absurd isDigit (by decide)
  · simp only [isBlank]
    generalize digit.toNat = code at least most
    simp
    omega

theorem opens_minus (rest : List Char) : Opens ('-' :: rest) :=
  ⟨'-', rest, rfl, by decide, by decide⟩

private theorem opens_digits (n : Nat) : Opens (Nat.toDigits 10 n) := by
  cases spelled : Nat.toDigits 10 n with
  | nil => exact absurd spelled Nat.toDigits_ne_nil
  | cons digit rest =>
    have member : digit ∈ Nat.toDigits 10 n := spelled ▸ List.mem_cons_self
    exact opens_digit (Nat.isDigit_of_mem_toDigits (by decide) (by decide) member) rest

private theorem opens_int (value : Int) : Opens (toString value).toList := by
  cases value with
  | ofNat n =>
    have spelled : (toString (Int.ofNat n)).toList = Nat.toDigits 10 n := Nat.toList_repr
    rw [spelled]
    exact opens_digits n
  | negSucc n =>
    have spelled : (toString (Int.negSucc n)).toList = '-' :: (Nat.repr (n + 1)).toList := by
      simp [toString, Int.repr, String.toList_append]
    rw [spelled]
    exact opens_minus _

private theorem opens_layOut {digits : List Char} (opens : Opens digits) (leading : Int) :
    Opens (Number.layOut digits leading).toList := by
  obtain ⟨first, rest, rfl, plain⟩ := opens
  unfold Number.layOut
  split
  · split
    · contradiction
    · next digit same =>
      cases same
      simp [Opens, plain]
    · next digit others same =>
      cases same
      simp [Opens, plain]
  · split
    · simpa using opens_digit (by decide) _
    · simp [Opens, plain]

private theorem opens_text (value : Number.Binary64) : Opens (value.text Number.plainNames).toList := by
  have signed {negative : Bool} {size : String} (opens : Opens size.toList) :
      Opens ((if negative then "-" else "") ++ size).toList := by
    cases negative with
    | true => simpa using opens_minus _
    | false => simpa using opens
  cases value with
  | nan => exact ⟨'n', _, rfl, by decide, by decide⟩
  | infinite negative => exact signed ⟨'i', _, rfl, by decide, by decide⟩
  | finite negative significand exponent =>
    refine signed ?_
    split
    · exact ⟨'0', _, rfl, by decide, by decide⟩
    · exact opens_layOut (opens_digits _) _

/-- Only a map or a text that is a literal can show as a text that starts with a brace. -/
theorem opens_display {value : Json} (scalar : ∀ text, value ≠ .string text)
    (flat : value.isObject = false) : Opens value.display.toList := by
  cases value with
  | null => exact ⟨'N', _, rfl, by decide, by decide⟩
  | bool value => cases value <;> exact ⟨_, _, rfl, by decide, by decide⟩
  | int value => simpa [Json.display, Json.inline] using opens_int value
  | float value =>
    simp only [Json.display]
    split
    · exact opens_int _
    · exact opens_text value
  | string text => exact absurd rfl (scalar text)
  | array items =>
    cases items <;> simp [Json.display, Json.inline, Opens, isBlank]
  | object members => cases flat

theorem opens_number {value : Json} (number : isNumber value = true) : Opens value.display.toList := by
  apply opens_display
  · rintro text rfl
    cases number
  · cases value <;> first | rfl | cases number

theorem trimBy_cons {drops : Char → Bool} {first : Char} (stays : drops first = false)
    (rest : List Char) : ∃ kept, trimBy drops (first :: rest) = first :: kept := by
  rw [trimBy, trimEndBy, List.dropWhile_cons_of_neg (by simp [stays]), List.reverse_cons,
    List.dropWhile_append]
  split
  · rw [List.dropWhile_cons_of_neg (by simp [stays])]
    exact ⟨[], rfl⟩
  · rw [List.reverse_append]
    exact ⟨_, rfl⟩

theorem Opens.trim {text : String} (opens : Opens text.toList) : Opens (trim text).toList := by
  obtain ⟨first, rest, spelled, plain, solid⟩ := opens
  obtain ⟨kept, same⟩ := trimBy_cons solid rest
  rw [Text.trim, String.toList_ofList, spelled, same]
  exact ⟨first, kept, rfl, plain, solid⟩

theorem opens_of_isPlainNumber {text : List Char} (number : isPlainNumber text = true) :
    Opens text := by
  cases text with
  | nil => cases number
  | cons first rest =>
    by_cases minus : first = '-'
    · subst minus
      exact opens_minus rest
    · simp only [isPlainNumber, List.head?_cons, Bool.and_eq_true] at number
      have digits := number.1
      by_cases digit : Text.isDigit first = true
      · exact opens_digit digit rest
      · simp [minus, digit] at digits

theorem formatDimension_opens {unit : Option String} {value : Json}
    (scalar : ∀ text, value ≠ .string text) (flat : value.isObject = false) :
    Opens (formatDimension unit value).toList := by
  have opens := opens_display scalar flat
  simp only [formatDimension]
  split
  · rw [String.toList_append]
    exact opens.append _
  · split
    · rw [String.toList_append]
      exact opens.trim.append _
    · exact opens.trim

end DesignTokens.Proofs.Openings
