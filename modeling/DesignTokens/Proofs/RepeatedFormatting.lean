import DesignTokens.Proofs.DocumentWords
import DesignTokens.Proofs.Openings

/-! Formatting a length that has been formatted. A formatted length has no white space around it, and is
no plain number if it has a unit, so it is left as it is. All that matters of a unit is that it cannot be
mistaken for more digits of the number in front of it. -/

namespace DesignTokens.Proofs.RepeatedFormatting
open DocumentWords Openings Text

variable {text more : List Char}

/-- Digits behind an optional minus sign, with a point and more digits behind them or not. -/
inductive PlainNumber : List Char → Prop where
  | number {sign negative whole point fraction} (signs : Sign sign negative) (some : whole ≠ [])
      (digits : AllDigits whole) (fractions : Fraction point fraction) : PlainNumber (sign ++ whole ++ point)

private theorem undigited_fraction {fraction : Option (List Char)} (fractions : Fraction text fraction) :
    Undigited text := by
  cases fractions with
  | none => rintro _ ⟨⟩
  | digits => rintro _ ⟨⟩; rfl

/-- Behind the sign, the digits are followed by nothing, or by a point and more digits. -/
theorem digits_then_fraction_iff :
    (!(text.takeWhile isDigit).isEmpty && ((text.dropWhile isDigit).isEmpty ||
      ((text.dropWhile isDigit).head? == some '.' && 2 ≤ (text.dropWhile isDigit).length &&
        ((text.dropWhile isDigit).drop 1).all isDigit))) = true ↔
    ∃ whole point fraction, text = whole ++ point ∧ whole ≠ [] ∧ AllDigits whole ∧ Fraction point fraction := by
  constructor
  · intro number
    simp only [Bool.and_eq_true, Bool.not_eq_true', List.isEmpty_eq_false_iff] at number
    obtain ⟨some, behind⟩ := number
    have spelled : text = text.takeWhile isDigit ++ text.dropWhile isDigit :=
      List.takeWhile_append_dropWhile.symm
    generalize text.dropWhile isDigit = point at behind spelled
    cases point with
    | nil => exact ⟨_, [], _, spelled, some, allDigits_takeWhile text, .none⟩
    | cons c later =>
      simp only [List.isEmpty_cons, List.head?_cons, List.length_cons, List.drop_one, List.tail_cons,
        Bool.false_or, Bool.and_eq_true, beq_iff_eq, Option.some.injEq, decide_eq_true_eq] at behind
      obtain ⟨⟨rfl, long⟩, digits⟩ := behind
      have later_some : later ≠ [] := by
        rintro rfl
        simp at long
      exact ⟨_, _, _, spelled, some, allDigits_takeWhile text,
        .digits later_some (List.all_eq_true.mp digits)⟩
  · rintro ⟨whole, point, fraction, rfl, some, digits, fractions⟩
    have ends := undigited_fraction fractions
    rw [takeWhile_digits digits ends, dropWhile_digits digits ends]
    cases fractions with
    | none => simp [some]
    | digits later_some all =>
      have long := List.length_pos_iff.mpr later_some
      have later_all := List.all_eq_true.mpr all
      simp [some, later_all]
      omega

theorem isPlainNumber_iff : isPlainNumber text = true ↔ PlainNumber text := by
  unfold isPlainNumber
  dsimp only
  rw [digits_then_fraction_iff]
  constructor
  · rintro ⟨whole, point, fraction, spelled, some, digits, fractions⟩
    split at spelled
    · next minus =>
      obtain ⟨rest, rfl⟩ := List.head?_eq_some_iff.mp (eq_of_beq minus)
      rw [List.drop_one, List.tail_cons] at spelled
      rw [spelled]
      exact .number .minus some digits fractions
    · rw [spelled]
      exact .number .none some digits fractions
  · rintro ⟨signs, some, digits, fractions⟩
    cases signs with
    | minus => exact ⟨_, _, _, rfl, some, digits, fractions⟩
    | none =>
      obtain ⟨c, rest, rfl⟩ := List.exists_cons_of_ne_nil some
      refine ⟨_, _, _, ?_, some, digits, fractions⟩
      rw [if_neg]
      · rfl
      · intro minus
        obtain rfl : c = '-' := by simpa using minus
        exact absurd (digits '-' List.mem_cons_self) (by decide)

/-- The characters of a number, but for a sign in front. -/
def isNumeral (c : Char) : Bool :=
  isDigit c || c == '.'

private theorem numeral_of_fraction {fraction : Option (List Char)} (fractions : Fraction text fraction) :
    ∀ c ∈ text, isNumeral c = true := by
  cases fractions with
  | none => exact fun _ member => nomatch member
  | digits _ all =>
    refine List.forall_mem_cons.mpr ⟨rfl, fun c member => ?_⟩
    rw [isNumeral, all c member, Bool.true_or]

theorem PlainNumber.numerals (number : PlainNumber text) :
    (∀ c ∈ text.head?, c = '-' ∨ isNumeral c = true) ∧ ∀ c ∈ text.tail, isNumeral c = true := by
  obtain @⟨sign, negative, whole, point, fraction, signs, some, digits, fractions⟩ := number
  have inside : ∀ c ∈ whole ++ point, isNumeral c = true := by
    intro c member
    rcases List.mem_append.mp member with before | behind
    · rw [isNumeral, digits c before, Bool.true_or]
    · exact numeral_of_fraction fractions c behind
  cases signs with
  | none =>
    refine ⟨fun c member => Or.inr (inside c (List.mem_of_mem_head? member)), fun c member => ?_⟩
    exact inside c (List.mem_of_mem_tail member)
  | minus => exact ⟨by rintro c ⟨⟩; exact Or.inl rfl, inside⟩

def Solid (text : List Char) : Prop := ∀ c ∈ text, isBlank c = false

instance : DecidablePred Solid := fun text =>
  decidable_of_iff (text.any isBlank = false) (by simp [Solid])

theorem Solid.append (solid : Solid text) (others : Solid more) : Solid (text ++ more) :=
  List.forall_mem_append.mpr ⟨solid, others⟩

theorem Solid.trimmed (solid : Solid text) : Trimmed isBlank text where
  first c member := solid c (List.mem_of_mem_head? member)
  last c member := solid c (List.mem_of_mem_getLast? member)

private theorem solid_toDigits (n : Nat) : Solid (Nat.toDigits 10 n) := by
  intro c member
  obtain ⟨least, most⟩ := toNat_of_isDigit (Nat.isDigit_of_mem_toDigits (by decide) (by decide) member)
  simp only [isBlank]
  generalize c.toNat = code at least most
  simp
  omega

theorem solid_natText (n : Nat) : Solid (toString n).toList := by
  have spelled : (toString n).toList = Nat.toDigits 10 n := Nat.toList_repr
  rw [spelled]
  exact solid_toDigits n

private theorem solid_minus : Solid ['-'] := by decide

private theorem solid_intText (value : Int) : Solid (toString value).toList := by
  cases value with
  | ofNat n => exact solid_natText n
  | negSucc n =>
    have spelled : (toString (Int.negSucc n)).toList = ['-'] ++ (toString (n + 1)).toList := by
      simp [toString, Int.repr, String.toList_append]
    rw [spelled]
    exact solid_minus.append (solid_natText (n + 1))

private theorem solid_exponentText (exponent : Int) : Solid (Number.exponentText exponent).toList := by
  have sign : Solid (if exponent < 0 then "e-" else "e+").toList := by
    split <;> decide
  have zero : Solid "0".toList := by decide
  have size := solid_natText exponent.natAbs
  simp only [Number.exponentText, String.toList_append]
  refine sign.append ?_
  split
  · rw [String.toList_append]
    exact zero.append size
  · exact size

private theorem solid_layOut {digits : List Char} (solid : Solid digits) (leading : Int) :
    Solid (Number.layOut digits leading).toList := by
  have zeros (n : Nat) : Solid (List.replicate n '0') := by
    intro c member
    rw [List.eq_of_mem_replicate member]
    rfl
  have point : Solid ['.'] := by decide
  have zeroPoint : Solid ['0', '.'] := by decide
  unfold Number.layOut
  split
  · split
    · decide
    · rw [String.toList_append, String.toList_ofList]
      exact solid.append (solid_exponentText leading)
    · next digit rest =>
      obtain ⟨first, others⟩ := List.forall_mem_cons.mp solid
      rw [String.toList_append, String.toList_ofList]
      refine Solid.append ?_ (solid_exponentText leading)
      exact List.forall_mem_cons.mpr ⟨first, point.append others⟩
  · split
    · rw [String.toList_ofList]
      exact (zeroPoint.append (zeros _)).append solid
    · have whole : Solid (digits.take (leading.toNat + 1)) := fun c member =>
        solid c (List.mem_of_mem_take member)
      rw [String.toList_ofList]
      refine (whole.append (zeros _)).append (List.forall_mem_cons.mpr ⟨rfl, ?_⟩)
      split
      · exact zeros 1
      · exact fun c member => solid c (List.mem_of_mem_drop member)

private theorem solid_floatText (value : Number.Binary64) : Solid (value.text Number.plainNames).toList := by
  have signed {size : String} (negative : Bool) (solid : Solid size.toList) :
      Solid ((if negative then "-" else "") ++ size).toList := by
    rw [String.toList_append]
    refine Solid.append ?_ solid
    split <;> decide
  cases value with
  | nan => exact (by decide : Solid "nan".toList)
  | infinite negative => exact signed negative (by decide : Solid "inf".toList)
  | finite negative significand exponent =>
    refine signed negative ?_
    split
    · decide
    · exact solid_layOut (solid_toDigits _) _

private theorem solid_number {value : Json} (number : isNumber value = true) : Solid value.display.toList := by
  cases value with
  | int value => simpa [Json.display, Json.inline] using solid_intText value
  | float value =>
    rw [Json.display]
    split
    · exact solid_intText _
    · exact solid_floatText value
  | _ => cases number

/-- A unit that has a character other than the digits and the point cannot be taken for more digits. It
stays where it is if it does not end in white space. No unit, or the empty one, adds nothing. -/
def Marking : Option String → Prop
  | none => True
  | some unit => unit = "" ∨
    (∃ c ∈ unit.toList, isNumeral c = false) ∧ ∀ c ∈ unit.toList.getLast?, isBlank c = false

inductive Measured : List Char → Prop where
  | measured {number unit} (plain : PlainNumber number) (marks : ∃ c ∈ unit, isNumeral c = false) :
      Measured (number ++ unit)

def Worded (text : List Char) : Prop := ∃ c ∈ text, isNumeral c = false ∧ c ≠ '-'

theorem PlainNumber.ne_nil (number : PlainNumber text) : text ≠ [] := by
  obtain ⟨signs, some, digits, fractions⟩ := number
  simp [some]

/-- A unit behind a text that is not empty leaves no plain number. -/
theorem not_plainNumber_append (filled : text ≠ []) (marks : ∃ c ∈ more, isNumeral c = false) :
    ¬ PlainNumber (text ++ more) := by
  obtain ⟨c, member, other⟩ := marks
  intro number
  have behind : c ∈ (text ++ more).tail := by
    rw [List.tail_append_of_ne_nil filled]
    exact List.mem_append_right _ member
  rw [number.numerals.2 c behind] at other
  cases other

theorem Measured.not_plainNumber (measured : Measured text) : ¬ PlainNumber text := by
  obtain ⟨plain, marks⟩ := measured
  exact not_plainNumber_append plain.ne_nil marks

theorem Worded.not_plainNumber (worded : Worded text) : ¬ PlainNumber text := by
  obtain ⟨c, member, other, unsigned⟩ := worded
  intro number
  cases text with
  | nil => cases member
  | cons first rest =>
    rcases List.mem_cons.mp member with rfl | behind
    · rcases number.numerals.1 c rfl with minus | numeral
      · exact unsigned minus
      · rw [numeral] at other
        cases other
    · rw [number.numerals.2 c behind] at other
      cases other

variable {unit : Option String}

private theorem formatDimension_string (unit : Option String) (text : String) :
    formatDimension unit (.string text) =
      if isPlainNumber (trim text).toList then trim text ++ unit.getD "" else trim text := by
  have shown : (Json.string text).display = text := rfl
  rw [formatDimension, if_neg (by simp [isNumber]), shown]

private theorem formatDimension_plainNumber {text : String} (number : PlainNumber (trim text).toList) :
    formatDimension unit (.string text) = trim text ++ unit.getD "" := by
  rw [formatDimension_string, if_pos (isPlainNumber_iff.mpr number)]

theorem formatDimension_other {text : String} (other : ¬ PlainNumber (trim text).toList) :
    formatDimension unit (.string text) = trim text := by
  rw [formatDimension_string, if_neg (fun number => other (isPlainNumber_iff.mp number))]

/-- A trimmed text stays as it is if it is no plain number, or there is nothing to add to it. -/
theorem formatDimension_trimmed {text : String} (trimmed : Trimmed isBlank text.toList)
    (settled : ¬ PlainNumber text.toList ∨ unit.getD "" = "") : formatDimension unit (.string text) = text := by
  have same := trim_of_trimmed trimmed
  by_cases number : PlainNumber text.toList
  · rw [formatDimension_plainNumber (by rwa [same]), same, settled.resolve_left (not_not_intro number),
      String.append_empty]
  · rw [formatDimension_other (by rwa [same]), same]

/-- A formatted length is a text with the unit behind it, or no plain number. -/
inductive Formatted (unit : Option String) : String → Prop where
  | suffixed {text : String} (filled : text.toList ≠ []) (trimmed : Trimmed isBlank text.toList) :
      Formatted unit (text ++ unit.getD "")
  | bare {text : String} (other : ¬ PlainNumber text.toList) (trimmed : Trimmed isBlank text.toList) :
      Formatted unit text

private theorem formatted_formatDimension (unit : Option String) (value : Json) :
    Formatted unit (formatDimension unit value) := by
  rw [formatDimension]
  split
  · next number =>
    have filled : value.display.toList ≠ [] := by
      obtain ⟨first, rest, spelled, -⟩ := opens_number number
      simp [spelled]
    exact .suffixed filled (solid_number number).trimmed
  · dsimp only
    split
    · next plain => exact .suffixed (isPlainNumber_iff.mp plain).ne_nil (trimmed_trim _)
    · next other => exact .bare (fun number => other (isPlainNumber_iff.mpr number)) (trimmed_trim _)

theorem Formatted.again {text : String} (marks : Marking unit) (formatted : Formatted unit text) :
    formatDimension unit (.string text) = text := by
  cases formatted with
  | bare other trimmed => exact formatDimension_trimmed trimmed (Or.inl other)
  | @suffixed text filled trimmed =>
    have empty (nothing : unit.getD "" = "") :
        formatDimension unit (.string (text ++ unit.getD "")) = text ++ unit.getD "" := by
      rw [nothing, String.append_empty]
      exact formatDimension_trimmed trimmed (Or.inr nothing)
    cases unit with
    | none => exact empty rfl
    | some unit =>
      rcases marks with nothing | ⟨marks, ends⟩
      · exact empty nothing
      · apply formatDimension_trimmed
        · rw [String.toList_append]
          exact trimmed.append filled ends
        · rw [String.toList_append]
          exact Or.inl (not_plainNumber_append filled marks)

/-- A length that has been formatted with a unit stays as it is when it is formatted with it again. A plain
number gets the unit. A text that is a number with a unit, or has a character that no number has, gets none,
and loses only the white space around it. -/
theorem formatted_once (marks : Marking unit) (value : Json) :
    formatDimension unit (.string (formatDimension unit value)) = formatDimension unit value ∧
    ∀ text : String,
      (PlainNumber (trim text).toList → formatDimension unit (.string text) = trim text ++ unit.getD "") ∧
      (Measured (trim text).toList ∨ Worded (trim text).toList →
        formatDimension unit (.string text) = trim text) := by
  refine ⟨(formatted_formatDimension unit value).again marks, fun text => ⟨formatDimension_plainNumber, ?_⟩⟩
  rintro (measured | worded)
  · exact formatDimension_other measured.not_plainNumber
  · exact formatDimension_other worded.not_plainNumber

/-- Pixels on a number, on a percentage between blanks, and on a keyword. -/
theorem formatted_once_pixels :
    Marking (some "px") ∧ Measured (trim " 100% ").toList ∧ Worded (trim "auto").toList ∧
      formatDimension (some "px") (.string (formatDimension (some "px") (.int (-8)))) =
        formatDimension (some "px") (.int (-8)) ∧
      formatDimension (some "px") (.int (-8)) = "-8px" ∧
      formatDimension (some "px") (.string " 100% ") = "100%" ∧
      formatDimension (some "px") (.string "auto") = "auto" := by
  have marks : Marking (some "px") := Or.inr ⟨⟨'p', List.mem_cons_self, rfl⟩, by rintro c ⟨⟩; rfl⟩
  have plain : PlainNumber ['1', '0', '0'] := isPlainNumber_iff.mp (by decide)
  have measured : Measured (trim " 100% ").toList := .measured plain ⟨'%', List.mem_cons_self, rfl⟩
  have worded : Worded (trim "auto").toList := ⟨'a', List.mem_cons_self, rfl, by decide⟩
  refine ⟨marks, measured, worded, (formatted_once marks (.int (-8))).1, by decide, ?_, ?_⟩
  · exact ((formatted_once marks .null).2 _).2 (Or.inl measured)
  · exact ((formatted_once marks .null).2 _).2 (Or.inr worded)

end DesignTokens.Proofs.RepeatedFormatting
