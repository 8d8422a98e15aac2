import DesignTokens.Json.Basic
import DesignTokens.Text.Digits

/-! Numbers and the fixed words of a JSON document, among them the names of the floats that are not
finite. -/

namespace DesignTokens.Json
open Text

/-- A number as it is spelled: digits before the point, digits behind it, and an exponent. -/
structure Numeral where
  negative : Bool
  whole : List Char
  fraction : Option (List Char)
  exponent : Option (Bool × List Char)

def Numeral.exponentValue (numeral : Numeral) : Int :=
  match numeral.exponent with
  | none => 0
  | some (negative, digits) =>
    if negative then -(natOfDigits digits : Int) else natOfDigits digits

/-- A number with neither a fraction nor an exponent is a whole number, any other a float. -/
def Numeral.value (numeral : Numeral) : Json :=
  match numeral.fraction, numeral.exponent with
  | none, none =>
    let size : Int := natOfDigits numeral.whole
    .int (if numeral.negative then -size else size)
  | fraction, _ =>
    let fraction := fraction.getD []
    .float (.ofDecimal numeral.negative (natOfDigits (numeral.whole ++ fraction))
      (numeral.exponentValue - fraction.length))

def readSign : List Char → Bool × List Char
  | '-' :: rest => (true, rest)
  | rest => (false, rest)

/-- A zero stands alone; any other number starts with a digit that is not zero. -/
def readWhole? : List Char → Option (List Char × List Char)
  | [] => none
  | c :: rest =>
    if c == '0' then some (['0'], rest)
    else if isDigit c then some (c :: rest.takeWhile isDigit, rest.dropWhile isDigit)
    else none

/-- A point belongs to the number only if a digit follows. -/
def readFraction : List Char → Option (List Char) × List Char
  | '.' :: c :: rest =>
    if isDigit c then (some (c :: rest.takeWhile isDigit), rest.dropWhile isDigit)
    else (none, '.' :: c :: rest)
  | rest => (none, rest)

def readExponentSign : List Char → Bool × List Char
  | '-' :: rest => (true, rest)
  | '+' :: rest => (false, rest)
  | rest => (false, rest)

/-- An exponent mark belongs to the number only if a digit follows, behind a sign or not. -/
def readExponent : List Char → Option (Bool × List Char) × List Char
  | [] => (none, [])
  | mark :: rest =>
    let sign := readExponentSign rest
    if (mark == 'e' || mark == 'E') && !(sign.2.takeWhile isDigit).isEmpty then
      (some (sign.1, sign.2.takeWhile isDigit), sign.2.dropWhile isDigit)
    else (none, mark :: rest)

def readNumber? (text : List Char) : Option (Json × List Char) :=
  let sign := readSign text
  (readWhole? sign.2).map fun whole =>
    let fraction := readFraction whole.2
    let exponent := readExponent fraction.2
    (Numeral.value ⟨sign.1, whole.1, fraction.1, exponent.1⟩, exponent.2)

def fixedWords : List (List Char × Json) := [
  ("null".toList, .null), ("true".toList, .bool true), ("false".toList, .bool false),
  ("NaN".toList, .float .nan), ("Infinity".toList, .float (.infinite false)),
  ("-Infinity".toList, .float (.infinite true))]

def readFixed? (text : List Char) : List (List Char × Json) → Option (Json × List Char)
  | [] => none
  | (word, value) :: others =>
    if word.isPrefixOf text then some (value, text.drop word.length) else readFixed? text others

def readScalar? (text : List Char) : Option (Json × List Char) :=
  (readFixed? text fixedWords).or (readNumber? text)

private theorem readFixed_length {c : Char} {rest after : List Char} {value : Json}
    {words : List (List Char × Json)} (spelled : ∀ word ∈ words, word.1 ≠ [])
    (read : readFixed? (c :: rest) words = some (value, after)) : after.length ≤ rest.length := by
  induction words with
  | nil => cases read
  | cons word others ih =>
    obtain ⟨word, meaning⟩ := word
    unfold readFixed? at read
    split at read
    · cases read
      have : 0 < word.length := List.length_pos_iff.mpr (spelled _ List.mem_cons_self)
      simp only [List.length_drop, List.length_cons]
      omega
    · exact ih (fun word member => spelled word (List.mem_cons_of_mem _ member)) read

theorem dropDigits_length (text : List Char) : (text.dropWhile isDigit).length ≤ text.length :=
  (List.dropWhile_sublist isDigit).length_le

private theorem readSign_length (text : List Char) : (readSign text).2.length ≤ text.length := by
  fun_cases readSign text <;> simp

private theorem readWhole_length {text digits rest : List Char}
    (read : readWhole? text = some (digits, rest)) : rest.length < text.length := by
  fun_cases readWhole? text <;> simp_all [readWhole?]
  all_goals grind [dropDigits_length]

private theorem readFraction_length (text : List Char) : (readFraction text).2.length ≤ text.length := by
  fun_cases readFraction text <;> simp_all
  all_goals grind [dropDigits_length]

private theorem readExponentSign_length (text : List Char) :
    (readExponentSign text).2.length ≤ text.length := by
  fun_cases readExponentSign text <;> simp

private theorem readExponent_length (text : List Char) : (readExponent text).2.length ≤ text.length := by
  fun_cases readExponent text <;> simp_all
  all_goals grind [dropDigits_length, readExponentSign_length]

private theorem readNumber_length {text rest : List Char} {value : Json}
    (read : readNumber? text = some (value, rest)) : rest.length < text.length := by
  unfold readNumber? at read
  obtain ⟨⟨whole, after⟩, found, same⟩ := Option.map_eq_some_iff.mp read
  cases same
  simp only
  have first := readSign_length text
  have second := readWhole_length found
  have third := readFraction_length after
  have fourth := readExponent_length (readFraction after).2
  omega

theorem readScalar_length {c : Char} {rest after : List Char} {value : Json}
    (read : readScalar? (c :: rest) = some (value, after)) : after.length ≤ rest.length := by
  rcases Option.or_eq_some_iff.mp read with fixed | ⟨_, number⟩
  · exact readFixed_length (by simp [fixedWords]) fixed
  · have := readNumber_length number
    simp only [List.length_cons] at this
    omega

end DesignTokens.Json
