import DesignTokens.Json.Token

/-! How the words of a JSON document are spelled. A text stands between quotes, with its escapes; a number
has a sign, digits, a fraction and an exponent, of which all but the digits may be missing. The readers
find exactly what is spelled so. -/

namespace DesignTokens.Proofs.DocumentWords
open Json Text

/-- An escape for the second half of a pair comes next. -/
inductive Trails : List Char → Prop where
  | half {a b c d unit later} (code : codeUnit? a b c d = some unit) (trailing : isTrailing unit = true) :
      Trails ('\\' :: 'u' :: a :: b :: c :: d :: later)

/-- What stands behind the `u` of an escape by code, the character that it gives, and what comes later. The
two halves of a pair give one character. A half that is alone is none, and gives the one that stands for
it. -/
inductive Coded : List Char → Char → List Char → Prop where
  | unit {a b c d unit later} (code : codeUnit? a b c d = some unit)
      (alone : isLeading unit = true → ¬ Trails later) : Coded [a, b, c, d] (charOfUnit unit) later
  | pair {a b c d e f g h leading trailing later} (first : codeUnit? a b c d = some leading)
      (leads : isLeading leading = true) (second : codeUnit? e f g h = some trailing)
      (trails : isTrailing trailing = true) :
      Coded [a, b, c, d, '\\', 'u', e, f, g, h] (charOfPair leading trailing) later

/-- What stands between two quotes, and the characters that it gives. -/
inductive Quotes : List Char → List Char → Prop where
  | nil : Quotes [] []
  | plain {c later chars} (visible : ¬ c < ' ') (unquote : c ≠ '"') (unescaped : c ≠ '\\')
      (quotes : Quotes later chars) : Quotes (c :: later) (c :: chars)
  | mark {mark c later chars} (named : escaped? mark = some c) (quotes : Quotes later chars) :
      Quotes ('\\' :: mark :: later) (c :: chars)
  | code {code c later chars} (coded : Coded code c later) (quotes : Quotes later chars) :
      Quotes ('\\' :: 'u' :: code ++ later) (c :: chars)

inductive QuotedText : List Char → String → Prop where
  | quoted {inner chars} (quotes : Quotes inner chars) :
      QuotedText ('"' :: inner ++ ['"']) (String.ofList chars)

variable {inner chars text rest opening : List Char} {c : Char}

theorem exists_next (inner : List Char) (last : Char) (more : List Char) :
    ∃ next later, inner ++ last :: more = next :: later :=
  List.exists_cons_of_ne_nil (List.append_ne_nil_of_right_ne_nil inner (List.cons_ne_nil last more))

/-- Behind the first half of a pair, the second half is read if it comes next and is not the end of the
document. -/
theorem readTrailing_cases {unit : Nat} : readTrailing unit text = .ok (c, rest) →
    (∃ a b d e trailing, text = '\\' :: 'u' :: a :: b :: d :: e :: rest ∧ codeUnit? a b d e = some trailing ∧
      isTrailing trailing = true ∧ c = charOfPair unit trailing) ∨
    text = rest ∧ c = charOfUnit unit ∧ ∀ inner last more, rest = inner ++ last :: more → ¬ Trails inner := by
  fun_cases readTrailing unit text with
  | case1 a b d e f later broken =>
    rintro ⟨⟩
  | case2 a b d e f later trailing code trails =>
    intro read
    obtain ⟨rfl, rfl⟩ := Prod.mk.inj (Except.ok.inj read)
    exact Or.inl ⟨a, b, d, e, trailing, rfl, code, trails, rfl⟩
  | case3 a b d e f later found code single =>
    intro read
    obtain ⟨rfl, rfl⟩ := Prod.mk.inj (Except.ok.inj read)
    refine Or.inr ⟨rfl, rfl, ?_⟩
    rintro inner last more same ⟨again, trailing⟩
    simp only [List.cons_append, List.cons.injEq] at same
    obtain ⟨-, -, rfl, rfl, rfl, rfl, -⟩ := same
    rw [code] at again
    cases again
    exact single trailing
  | case4 _ other =>
    intro read
    obtain ⟨rfl, rfl⟩ := Prod.mk.inj (Except.ok.inj read)
    refine Or.inr ⟨rfl, rfl, ?_⟩
    intro inner last more same trails
    obtain @⟨a, b, d, e, unit, later, code, trailing⟩ := trails
    obtain ⟨f, tail, ends⟩ := exists_next later last more
    exact other a b d e f tail (by rw [same, ← ends]; rfl)

/-- There is more of the text behind what an escape reads, so a half of a pair that is left alone has no
second half behind it. -/
theorem coded_of_readCode {last : Char} {more : List Char} :
    readCode text = .ok (c, inner ++ last :: more) →
      ∃ code, text = code ++ (inner ++ last :: more) ∧ Coded code c inner := by
  fun_cases readCode text with
  | case1 a b d e f later broken =>
    rintro ⟨⟩
  | case2 a b d e f later unit code leads =>
    intro read
    rcases readTrailing_cases read with ⟨_, _, _, _, trailing, same, second, trails, pair⟩ | ⟨same, single, alone⟩
    · rw [same, pair]
      exact ⟨_, rfl, .pair code leads second trails⟩
    · rw [same, single]
      exact ⟨[a, b, d, e], rfl, .unit code fun _ => alone inner last more rfl⟩
  | case3 a b d e f later unit code single =>
    intro read
    obtain ⟨rfl, same⟩ := Prod.mk.inj (Except.ok.inj read)
    rw [same]
    exact ⟨[a, b, d, e], rfl, .unit code fun leads => absurd leads single⟩
  | case4 _ other =>
    rintro ⟨⟩

private theorem not_isTrailing {unit : Nat} (leads : isLeading unit = true) : isTrailing unit = false := by
  simp only [isLeading, isTrailing, Bool.and_eq_true, decide_eq_true_eq, Bool.and_eq_false_iff,
    decide_eq_false_iff_not] at leads ⊢
  omega

/-- The first half of a pair stays alone where no second half comes next. -/
theorem readTrailing_alone {unit : Nat} (quotes : Quotes inner chars) (alone : ¬ Trails inner) :
    readTrailing unit (inner ++ '"' :: rest) = .ok (charOfUnit unit, inner ++ '"' :: rest) := by
  have escape {a b d e : Char} {next : Nat} {text : List Char} (code : codeUnit? a b d e = some next)
      (single : isTrailing next = false) (more : text ≠ []) :
      readTrailing unit ('\\' :: 'u' :: a :: b :: d :: e :: text) =
        .ok (charOfUnit unit, '\\' :: 'u' :: a :: b :: d :: e :: text) := by
    obtain ⟨f, tail, rfl⟩ := List.exists_cons_of_ne_nil more
    simp only [readTrailing, code, single, Bool.false_eq_true, if_false]
  cases quotes with
  | nil => rfl
  | plain visible unquote unescaped quotes =>
    rw [readTrailing]
    intro a b d e f tail same
    exact unescaped (List.cons.inj same).1
  | mark named quotes =>
    rw [readTrailing]
    intro a b d e f tail same
    obtain rfl := (List.cons.inj (List.cons.inj same).2).1
    cases named
  | code coded quotes =>
    cases coded with
    | unit code single =>
      exact escape code (Bool.eq_false_iff.mpr fun trails => alone (.half code trails)) (by simp)
    | pair first leads second trails =>
      exact escape first (not_isTrailing leads) (by simp)

private theorem readCode_of_coded {code : List Char} (coded : Coded code c inner) (quotes : Quotes inner chars)
    (rest : List Char) :
    readCode (code ++ (inner ++ '"' :: rest)) = .ok (c, inner ++ '"' :: rest) := by
  obtain ⟨next, tail, ends⟩ := exists_next inner '"' rest
  cases coded with
  | @unit a b d e unit _ code alone =>
    simp only [List.cons_append, List.nil_append, ends, readCode, code]
    by_cases leads : isLeading unit = true
    · rw [if_pos leads, ← ends]
      exact readTrailing_alone quotes (alone leads)
    · rw [if_neg leads]
  | pair first leads second trails =>
    simp only [List.cons_append, List.nil_append, ends, readCode, first, leads, if_true, readTrailing,
      second, trails]

private theorem readText_of_quotes (opening rest : List Char) (quotes : Quotes inner chars) :
    readText opening (inner ++ '"' :: rest) = .ok (chars, rest) := by
  induction quotes with
  | nil => rw [List.nil_append, readText]
  | plain visible unquote unescaped quotes ih =>
    rw [List.cons_append, readText, if_neg visible, ih]
    · rfl
    · exact unquote
    · intro same
      exact absurd same unescaped
    · intro _ same
      exact absurd same unescaped
    · intro _ _ same
      exact absurd same unescaped
  | mark named quotes ih =>
    rw [List.cons_append, List.cons_append, readText]
    · rw [named]
      dsimp only
      rw [ih]
      rfl
    · rintro rfl
      cases named
  | code coded quotes ih =>
    rw [List.cons_append, List.cons_append, List.cons_append, List.cons_append, List.append_assoc, readText]
    have read := readCode_of_coded coded quotes rest
    split
    next found =>
      rw [read] at found
      cases found
      rw [ih]
      rfl
    next found =>
      rw [read] at found
      cases found

private theorem quotes_of_readText : readText opening text = .ok (chars, rest) →
    ∃ inner, text = inner ++ '"' :: rest ∧ Quotes inner chars := by
  fun_induction readText opening text generalizing chars with
  | case1 | case3 | case5 | case7 | case8 => rintro ⟨⟩
  | case2 later =>
    rintro ⟨⟩
    exact ⟨[], rfl, .nil⟩
  | case4 later c after code ih =>
    intro read
    obtain ⟨behind, found, rfl⟩ := prepend_eq_ok read
    obtain ⟨inner, rfl, quotes⟩ := ih found
    obtain ⟨escape, rfl, coded⟩ := coded_of_readCode code
    refine ⟨'\\' :: 'u' :: escape ++ inner, ?_, .code coded quotes⟩
    rw [List.append_assoc]
    rfl
  | case6 mark later _ c named ih =>
    intro read
    obtain ⟨behind, found, rfl⟩ := prepend_eq_ok read
    obtain ⟨inner, rfl, quotes⟩ := ih found
    exact ⟨'\\' :: mark :: inner, rfl, .mark named quotes⟩
  | case9 c later unquote notLast _ notEscape visible ih =>
    intro read
    obtain ⟨behind, found, rfl⟩ := prepend_eq_ok read
    obtain ⟨inner, rfl, quotes⟩ := ih found
    refine ⟨c :: inner, rfl, .plain visible unquote (fun same => ?_) quotes⟩
    obtain ⟨next, tail, ends⟩ := exists_next inner '"' rest
    exact notEscape next tail same ends

theorem readText_iff : readText opening text = .ok (chars, rest) ↔
    ∃ inner, text = inner ++ '"' :: rest ∧ Quotes inner chars := by
  refine ⟨quotes_of_readText, ?_⟩
  rintro ⟨inner, rfl, quotes⟩
  exact readText_of_quotes opening rest quotes

def AllDigits (text : List Char) : Prop := ∀ c ∈ text, isDigit c = true

inductive Sign : List Char → Bool → Prop where
  | none : Sign [] false
  | minus : Sign ['-'] true

/-- The digits before the point are a zero, or start with another digit. -/
inductive Whole : List Char → Prop where
  | zero : Whole ['0']
  | digits {c more} (first : isDigit c = true) (nonzero : c ≠ '0') (later : AllDigits more) :
      Whole (c :: more)

inductive Fraction : List Char → Option (List Char) → Prop where
  | none : Fraction [] none
  | digits {digits} (some : digits ≠ []) (all : AllDigits digits) : Fraction ('.' :: digits) (.some digits)

inductive ExponentSign : List Char → Bool → Prop where
  | none : ExponentSign [] false
  | plus : ExponentSign ['+'] false
  | minus : ExponentSign ['-'] true

inductive Exponent : List Char → Option (Bool × List Char) → Prop where
  | none : Exponent [] none
  | digits {mark sign negative digits} (marks : mark = 'e' ∨ mark = 'E') (signs : ExponentSign sign negative)
      (some : digits ≠ []) (all : AllDigits digits) :
      Exponent (mark :: sign ++ digits) (.some (negative, digits))

inductive NumberText : List Char → Numeral → Prop where
  | number {sign negative whole point fraction power exponent} (signs : Sign sign negative)
      (digits : Whole whole) (fractions : Fraction point fraction) (exponents : Exponent power exponent) :
      NumberText (sign ++ whole ++ point ++ power) ⟨negative, whole, fraction, exponent⟩

inductive ScalarText : List Char → Json → Prop where
  | fixed {word value} (known : (word, value) ∈ fixedWords) : ScalarText word value
  | number {text numeral} (number : NumberText text numeral) : ScalarText text numeral.value

/-- Nothing that goes on with a number or a word comes next: white space, a comma or a closing bracket. -/
def EndsScalar (rest : List Char) : Prop :=
  ∀ c ∈ rest.head?, isSpace c = true ∨ c = ',' ∨ c = ']' ∨ c = '}'

def Undigited (rest : List Char) : Prop := ∀ c ∈ rest.head?, isDigit c = false

section Numbers

variable {digits sign whole point power : List Char} {negative : Bool} {fraction : Option (List Char)}
  {exponent : Option (Bool × List Char)}

theorem takeWhile_digits (all : AllDigits digits) (ends : Undigited rest) :
    (digits ++ rest).takeWhile isDigit = digits := by
  rw [List.takeWhile_append_of_pos all]
  cases rest with
  | nil => simp
  | cons c later => simp [ends c rfl]

theorem dropWhile_digits (all : AllDigits digits) (ends : Undigited rest) :
    (digits ++ rest).dropWhile isDigit = rest := by
  rw [List.dropWhile_append_of_pos all]
  cases rest with
  | nil => rfl
  | cons c later => simp [ends c rfl]

theorem allDigits_takeWhile (text : List Char) : AllDigits (text.takeWhile isDigit) :=
  List.all_eq_true.mp List.all_takeWhile

private theorem readSign_sound (text : List Char) :
    ∃ sign, text = sign ++ (readSign text).2 ∧ Sign sign (readSign text).1 := by
  fun_cases readSign text with
  | case1 later => exact ⟨['-'], rfl, .minus⟩
  | case2 later other => exact ⟨[], rfl, .none⟩

private theorem readWhole_sound :
    readWhole? text = some (whole, rest) → text = whole ++ rest ∧ Whole whole := by
  fun_cases readWhole? text with
  | case1 => rintro ⟨⟩
  | case2 c later zero =>
    rintro ⟨⟩
    rw [eq_of_beq zero]
    exact ⟨rfl, .zero⟩
  | case3 c later nonzero digit =>
    rintro ⟨⟩
    refine ⟨congrArg (c :: ·) List.takeWhile_append_dropWhile.symm, ?_⟩
    exact .digits digit (fun same => nonzero (beq_iff_eq.mpr same)) (allDigits_takeWhile later)
  | case4 => rintro ⟨⟩

private theorem readFraction_sound (text : List Char) :
    ∃ point, text = point ++ (readFraction text).2 ∧ Fraction point (readFraction text).1 := by
  fun_cases readFraction text with
  | case1 c later digit =>
    refine ⟨'.' :: c :: later.takeWhile isDigit, ?_, .digits (List.cons_ne_nil _ _) ?_⟩
    · exact congrArg (fun text => '.' :: c :: text) List.takeWhile_append_dropWhile.symm
    · exact List.forall_mem_cons.mpr ⟨digit, allDigits_takeWhile later⟩
  | case2 c later other => exact ⟨[], rfl, .none⟩
  | case3 later other => exact ⟨[], rfl, .none⟩

private theorem readExponentSign_sound (text : List Char) :
    ∃ sign, text = sign ++ (readExponentSign text).2 ∧ ExponentSign sign (readExponentSign text).1 := by
  fun_cases readExponentSign text with
  | case1 later => exact ⟨['-'], rfl, .minus⟩
  | case2 later => exact ⟨['+'], rfl, .plus⟩
  | case3 later other => exact ⟨[], rfl, .none⟩

private theorem readExponent_sound (text : List Char) :
    ∃ power, text = power ++ (readExponent text).2 ∧ Exponent power (readExponent text).1 := by
  fun_cases readExponent text with
  | case1 => exact ⟨[], rfl, .none⟩
  | case2 mark later sign marked =>
    simp only [Bool.and_eq_true, Bool.or_eq_true, beq_iff_eq, Bool.not_eq_true',
      List.isEmpty_eq_false_iff] at marked
    obtain ⟨spelled, same, signs⟩ := readExponentSign_sound later
    refine ⟨mark :: spelled ++ sign.2.takeWhile isDigit, ?_,
      .digits marked.1 signs marked.2 (allDigits_takeWhile _)⟩
    rw [List.append_assoc, List.takeWhile_append_dropWhile, List.cons_append, ← same]
  | case3 mark later other => exact ⟨[], rfl, .none⟩

private theorem readNumber_sound {value : Json} (read : readNumber? text = some (value, rest)) :
    ∃ chars numeral, text = chars ++ rest ∧ NumberText chars numeral ∧ value = numeral.value := by
  obtain ⟨⟨whole, after⟩, found, same⟩ := Option.map_eq_some_iff.mp read
  obtain ⟨rfl, rfl⟩ := Prod.mk.inj same
  obtain ⟨sign, first, signs⟩ := readSign_sound text
  obtain ⟨second, digits⟩ := readWhole_sound found
  obtain ⟨point, third, fractions⟩ := readFraction_sound after
  obtain ⟨power, fourth, exponents⟩ := readExponent_sound (readFraction after).2
  refine ⟨_, _, ?_, .number signs digits fractions exponents, rfl⟩
  rw [List.append_assoc, ← fourth, List.append_assoc, ← third, List.append_assoc, ← second, ← first]

private theorem whole_head (digits : Whole whole) : ∃ c more, whole = c :: more ∧ isDigit c = true := by
  cases digits with
  | zero => exact ⟨'0', [], rfl, rfl⟩
  | digits first _ _ => exact ⟨_, _, rfl, first⟩

private theorem readSign_complete (signs : Sign sign negative) (digits : Whole whole) :
    readSign (sign ++ (whole ++ rest)) = (negative, whole ++ rest) := by
  cases signs with
  | minus => rfl
  | none =>
    obtain ⟨c, more, rfl, digit⟩ := whole_head digits
    rw [List.nil_append, List.cons_append, readSign]
    rintro later ⟨⟩
    cases digit

private theorem readWhole_complete (digits : Whole whole) (ends : Undigited rest) :
    readWhole? (whole ++ rest) = some (whole, rest) := by
  cases digits with
  | zero => rfl
  | digits first nonzero later =>
    rw [List.cons_append, readWhole?, if_neg (by simpa using nonzero), if_pos first, takeWhile_digits later ends,
      dropWhile_digits later ends]

private theorem readFraction_complete (fractions : Fraction point fraction) (ends : Undigited rest)
    (apart : rest.head? ≠ some '.') : readFraction (point ++ rest) = (fraction, rest) := by
  cases fractions with
  | none =>
    rw [List.nil_append, readFraction]
    rintro c later rfl
    exact apart rfl
  | @digits digits some all =>
    obtain ⟨c, more, rfl⟩ := List.exists_cons_of_ne_nil some
    obtain ⟨first, later⟩ := List.forall_mem_cons.mp all
    rw [List.cons_append, List.cons_append, readFraction, if_pos first, takeWhile_digits later ends,
      dropWhile_digits later ends]

private theorem readExponentSign_complete (signs : ExponentSign sign negative) (some : digits ≠ [])
    (all : AllDigits digits) : readExponentSign (sign ++ (digits ++ rest)) = (negative, digits ++ rest) := by
  cases signs with
  | minus | plus => rfl
  | none =>
    obtain ⟨c, more, rfl⟩ := List.exists_cons_of_ne_nil some
    have digit := all c List.mem_cons_self
    rw [List.nil_append, List.cons_append, readExponentSign]
    · rintro later ⟨⟩
      cases digit
    · rintro later ⟨⟩
      cases digit

theorem marks_of_endsScalar {c : Char} {later : List Char} (stops : EndsScalar (c :: later)) :
    isDigit c = false ∧ c ≠ '.' ∧ c ≠ 'e' ∧ c ≠ 'E' := by
  have ends := stops c rfl
  simp only [isSpace, Bool.or_eq_true, beq_iff_eq, or_assoc] at ends
  rcases ends with rfl | rfl | rfl | rfl | rfl | rfl | rfl <;> decide

private theorem readExponent_complete (exponents : Exponent power exponent) (stops : EndsScalar rest) :
    readExponent (power ++ rest) = (exponent, rest) := by
  cases exponents with
  | none =>
    cases rest with
    | nil => rfl
    | cons c later =>
      obtain ⟨_, _, small, large⟩ := marks_of_endsScalar stops
      rw [List.nil_append, readExponent, if_neg (by simp [small, large])]
  | @digits mark sign negative digits marks signs some all =>
    have undigited : Undigited rest := by
      cases rest with
      | nil =>
        rintro _ ⟨⟩
      | cons c later =>
        rintro _ ⟨⟩
        exact (marks_of_endsScalar stops).1
    rw [List.append_assoc, List.cons_append, readExponent, readExponentSign_complete signs some all]
    dsimp only
    rw [takeWhile_digits all undigited, dropWhile_digits all undigited, if_pos]
    simpa [some] using marks

/-- Behind the digits of a number no digit comes, and a point only before its fraction. -/
theorem exponent_ends (exponents : Exponent power exponent) (stops : EndsScalar rest) :
    Undigited (power ++ rest) ∧ (power ++ rest).head? ≠ some '.' := by
  cases exponents with
  | none =>
    cases rest with
    | nil => exact ⟨nofun, nofun⟩
    | cons c later =>
      obtain ⟨digit, point, _⟩ := marks_of_endsScalar stops
      refine ⟨?_, fun same => point (Option.some.inj same)⟩
      rintro _ ⟨⟩
      exact digit
  | digits marks =>
    rcases marks with rfl | rfl
    all_goals
      refine ⟨?_, nofun⟩
      rintro _ ⟨⟩
      rfl

private theorem fraction_ends (fractions : Fraction point fraction) (ends : Undigited rest) :
    Undigited (point ++ rest) := by
  cases fractions with
  | none => exact ends
  | digits =>
    rintro _ ⟨⟩
    rfl

private theorem readNumber_complete {numeral : Numeral} (number : NumberText chars numeral)
    (stops : EndsScalar rest) :
    readNumber? (chars ++ rest) = some (numeral.value, rest) := by
  obtain ⟨signs, digits, fractions, exponents⟩ := number
  have ends := exponent_ends exponents stops
  rw [List.append_assoc, List.append_assoc, List.append_assoc, readNumber?, readSign_complete signs digits]
  dsimp only
  rw [readWhole_complete digits (fraction_ends fractions ends.1), Option.map_some]
  dsimp only
  rw [readFraction_complete fractions ends.1 ends.2, readExponent_complete exponents stops]

def Separate (first second : List Char × Json) : Prop :=
  ¬ first.1 <+: second.1 ∧ ¬ second.1 <+: first.1

private theorem readFixed_sound {words : List (List Char × Json)} {value : Json} :
    readFixed? text words = some (value, rest) → ∃ word, (word, value) ∈ words ∧ text = word ++ rest := by
  fun_induction readFixed? text words with
  | case1 => rintro ⟨⟩
  | case2 word meaning others starts =>
    rintro ⟨⟩
    obtain ⟨later, rfl⟩ := List.isPrefixOf_iff_prefix.mp starts
    rw [List.drop_left]
    exact ⟨word, List.mem_cons_self, rfl⟩
  | case3 word meaning others other ih =>
    intro read
    obtain ⟨word, member, same⟩ := ih read
    exact ⟨word, List.mem_cons_of_mem _ member, same⟩

private theorem readFixed_complete {words : List (List Char × Json)} {word : List Char} {value : Json}
    (apart : words.Pairwise Separate) (member : (word, value) ∈ words) :
    readFixed? (word ++ rest) words = some (value, rest) := by
  induction words with
  | nil => cases member
  | cons first others ih =>
    obtain ⟨later, apart⟩ := List.pairwise_cons.mp apart
    rw [readFixed?]
    rcases List.mem_cons.mp member with rfl | member
    · rw [if_pos (List.isPrefixOf_iff_prefix.mpr (List.prefix_append _ _)), List.drop_left]
    · rw [if_neg, ih apart member]
      intro starts
      have both := later _ member
      rcases List.prefix_or_prefix_of_prefix (List.isPrefixOf_iff_prefix.mp starts)
        (List.prefix_append word rest) with before | before
      · exact both.1 before
      · exact both.2 before

private theorem readFixed_eq_none {words : List (List Char × Json)}
    (other : ∀ word ∈ words, ¬ word.1 <+: text) : readFixed? text words = none := by
  induction words with
  | nil => rfl
  | cons first others ih =>
    obtain ⟨here, later⟩ := List.forall_mem_cons.mp other
    rw [readFixed?, if_neg (fun starts => here (List.isPrefixOf_iff_prefix.mp starts)), ih later]

private theorem fixedWords_separate : fixedWords.Pairwise Separate := by
  simp [fixedWords, Separate]

/-- A character of some kind comes first, or comes behind a minus. -/
def Heads (kind : Char → Bool) (text : List Char) : Prop :=
  ∃ c more, kind c = true ∧ (text = c :: more ∨ text = '-' :: c :: more)

private theorem number_heads {numeral : Numeral} (number : NumberText chars numeral) : Heads isDigit chars := by
  obtain ⟨signs, digits, _, _⟩ := number
  obtain ⟨c, more, rfl, digit⟩ := whole_head digits
  cases signs with
  | none => exact ⟨c, _, digit, Or.inl rfl⟩
  | minus => exact ⟨c, _, digit, Or.inr rfl⟩

def isInitial (c : Char) : Bool := ['n', 't', 'f', 'N', 'I'].contains c

private theorem fixed_heads {word : List Char × Json} (known : word ∈ fixedWords) : Heads isInitial word.1 := by
  simp only [fixedWords, List.mem_cons, List.not_mem_nil, or_false] at known
  rcases known with rfl | rfl | rfl | rfl | rfl | rfl
  · exact ⟨'n', "ull".toList, rfl, Or.inl rfl⟩
  · exact ⟨'t', "rue".toList, rfl, Or.inl rfl⟩
  · exact ⟨'f', "alse".toList, rfl, Or.inl rfl⟩
  · exact ⟨'N', "aN".toList, rfl, Or.inl rfl⟩
  · exact ⟨'I', "nfinity".toList, rfl, Or.inl rfl⟩
  · exact ⟨'I', "nfinity".toList, rfl, Or.inr rfl⟩

private theorem not_isDigit {c : Char} (initial : isInitial c = true) : isDigit c = false := by
  simp only [isInitial, List.contains_iff_mem, List.mem_cons, List.not_mem_nil, or_false] at initial
  rcases initial with rfl | rfl | rfl | rfl | rfl <;> rfl

private theorem readFixed_number {numeral : Numeral} (number : NumberText chars numeral) (rest : List Char) :
    readFixed? (chars ++ rest) fixedWords = none := by
  obtain ⟨c, more, digit, spelled⟩ := number_heads number
  apply readFixed_eq_none
  rintro word known ⟨tail, same⟩
  obtain ⟨letter, later, initial, named⟩ := fixed_heads known
  have different : letter ≠ c := by
    rintro rfl
    rw [not_isDigit initial] at digit
    cases digit
  rcases spelled with rfl | rfl <;> rcases named with named | named <;> rw [named] at same
  · exact different (List.cons.inj same).1
  · rw [← (List.cons.inj same).1] at digit
    cases digit
  · rw [(List.cons.inj same).1] at initial
    cases initial
  · exact different (List.cons.inj (List.cons.inj same).2).1

private theorem readScalar_sound {value : Json} (read : readScalar? text = some (value, rest)) :
    ∃ chars, text = chars ++ rest ∧ ScalarText chars value := by
  rcases Option.or_eq_some_iff.mp read with fixed | ⟨_, number⟩
  · obtain ⟨word, known, same⟩ := readFixed_sound fixed
    exact ⟨word, same, .fixed known⟩
  · obtain ⟨chars, numeral, same, spelled, rfl⟩ := readNumber_sound number
    exact ⟨chars, same, .number spelled⟩

private theorem readScalar_complete {value : Json} (scalar : ScalarText chars value) (stops : EndsScalar rest) :
    readScalar? (chars ++ rest) = some (value, rest) := by
  rw [readScalar?]
  cases scalar with
  | fixed known => rw [readFixed_complete fixedWords_separate known, Option.some_or]
  | number number => rw [readFixed_number number, Option.none_or, readNumber_complete number stops]

end Numbers

inductive Word : List Char → Token → Prop where
  | mark {mark token} (marks : punctuation? mark = some token) : Word [mark] token
  | text {quoted name} (quotes : QuotedText quoted name) : Word quoted (.string name)
  | scalar {spelling value} (spelled : ScalarText spelling value) : Word spelling (.scalar value)

/-- What is read is a word and what is behind it, or else the reading ends. -/
theorem readToken_sound (c : Char) (rest : List Char) :
    (∃ chars, c :: rest = chars ++ (readToken c rest).2 ∧ Word chars (readToken c rest).1) ∨
      (readToken c rest).1 = .stray ∨ ∃ error, (readToken c rest).1 = .broken error := by
  fun_cases readToken c rest with
  | case1 token marks => exact Or.inl ⟨[c], rfl, .mark marks⟩
  | case2 unmarked quote chars after read =>
    obtain ⟨inner, same, quotes⟩ := readText_iff.mp read
    refine Or.inl ⟨'"' :: inner ++ ['"'], ?_, .text (.quoted quotes)⟩
    rw [eq_of_beq quote, same, List.append_assoc]
    rfl
  | case3 unmarked quote error read => exact Or.inr (Or.inr ⟨error, rfl⟩)
  | case4 unmarked other value after read =>
    obtain ⟨chars, same, scalar⟩ := readScalar_sound read
    exact Or.inl ⟨chars, same, .scalar scalar⟩
  | case5 unmarked other => exact Or.inr (Or.inl rfl)

theorem word_of_token {token : Token} (read : (readToken c rest).1 = token) (found : token ≠ .stray)
    (whole : ∀ error, token ≠ .broken error) :
    ∃ word, c :: rest = word ++ (readToken c rest).2 ∧ Word word token := by
  rcases readToken_sound c rest with word | stray | ⟨error, broken⟩
  · rwa [read] at word
  · exact absurd (read.symm.trans stray) found
  · exact absurd (read.symm.trans broken) (whole error)

/-- The marks that are words. -/
theorem punctuation_cases {token : Token} (marks : punctuation? c = some token) :
    c = '{' ∧ token = .openObject ∨ c = '}' ∧ token = .closeObject ∨ c = '[' ∧ token = .openList ∨
      c = ']' ∧ token = .closeList ∨ c = ':' ∧ token = .colon ∨ c = ',' ∧ token = .comma := by
  revert marks
  fun_cases punctuation? c <;> rintro ⟨⟩ <;> simp

theorem text_of_token {name : String} (read : (readToken c rest).1 = .string name) :
    ∃ quoted, c :: rest = quoted ++ (readToken c rest).2 ∧ QuotedText quoted name := by
  obtain ⟨word, same, quotes⟩ := word_of_token read nofun nofun
  cases quotes with
  | mark marks => simpa using punctuation_cases marks
  | text quotes => exact ⟨word, same, quotes⟩

theorem scalar_of_token {value : Json} (read : (readToken c rest).1 = .scalar value) :
    ∃ spelling, c :: rest = spelling ++ (readToken c rest).2 ∧ ScalarText spelling value := by
  obtain ⟨word, same, quotes⟩ := word_of_token read nofun nofun
  cases quotes with
  | mark marks => simpa using punctuation_cases marks
  | scalar spelled => exact ⟨word, same, spelled⟩

private theorem mark_unique {first second : Char} {token : Token} (one : punctuation? first = some token)
    (other : punctuation? second = some token) : first = second := by
  revert one other
  fun_cases punctuation? first <;> fun_cases punctuation? second <;> rintro ⟨⟩ ⟨⟩ <;> rfl

theorem mark_of_token {mark : Char} {token : Token} (marks : punctuation? mark = some token)
    (read : (readToken c rest).1 = token) : c = mark := by
  have known := punctuation_cases marks
  obtain ⟨word, same, quotes⟩ := word_of_token read (by rintro rfl; simp at known)
    (by rintro error rfl; simp at known)
  cases quotes with
  | mark own =>
    obtain ⟨rfl, _⟩ := List.cons.inj same
    exact mark_unique own marks
  | text quotes => simp at known
  | scalar spelled => simp at known

theorem readToken_mark {token : Token} (marks : punctuation? c = some token) (rest : List Char) :
    readToken c rest = (token, rest) := by
  rw [readToken, marks]

theorem readToken_text (quotes : Quotes inner chars) (rest : List Char) :
    readToken '"' (inner ++ '"' :: rest) = (.string (String.ofList chars), rest) := by
  have unmarked : punctuation? '"' = none := rfl
  simp only [readToken, unmarked, BEq.rfl, if_true, readText_of_quotes _ rest quotes]

/-- A number or a fixed word starts with a letter, a digit or a minus, and these start no other word. -/
theorem scalar_head {value : Json} (spelled : ScalarText chars value) :
    ∃ c more, chars = c :: more ∧ punctuation? c = none ∧ c ≠ '"' ∧ isSpace c = false := by
  have heads : Heads isInitial chars ∨ Heads isDigit chars := by
    cases spelled with
    | fixed known => exact Or.inl (fixed_heads known)
    | number number => exact Or.inr (number_heads number)
  obtain ⟨c, more, rfl, kind⟩ :
      ∃ c more, chars = c :: more ∧ (isInitial c = true ∨ isDigit c = true ∨ c = '-') := by
    rcases heads with ⟨c, more, kind, rfl | rfl⟩ | ⟨c, more, kind, rfl | rfl⟩
    · exact ⟨c, more, rfl, Or.inl kind⟩
    · exact ⟨'-', _, rfl, Or.inr (Or.inr rfl)⟩
    · exact ⟨c, more, rfl, Or.inr (Or.inl kind)⟩
    · exact ⟨'-', _, rfl, Or.inr (Or.inr rfl)⟩
  refine ⟨c, more, rfl, ?_, ?_, ?_⟩
  · fun_cases punctuation? c with
    | case7 => rfl
    | _ =>
      revert kind
      decide
  · rintro rfl
    revert kind
    decide
  · rw [Bool.eq_false_iff]
    intro space
    simp only [isSpace, Bool.or_eq_true, beq_iff_eq, or_assoc] at space
    rcases space with rfl | rfl | rfl | rfl
    all_goals
      revert kind
      decide

theorem readToken_scalar {value : Json} (spelled : ScalarText (c :: chars) value) (stops : EndsScalar rest) :
    readToken c (chars ++ rest) = (.scalar value, rest) := by
  obtain ⟨_, _, same, unmarked, unquoted, _⟩ := scalar_head spelled
  obtain rfl := (List.cons.inj same).1
  have read := readScalar_complete spelled stops
  rw [List.cons_append] at read
  simp only [readToken, unmarked, beq_iff_eq, unquoted, if_false, read]

end DesignTokens.Proofs.DocumentWords
