import DesignTokens.Text.Digits
import Mathlib.Algebra.GroupWithZero.Nat

/-! Numbers in fields of a fixed width, each with a mark behind it. Such a text can be read back, and as
texts come in the order of their first different characters, they come in the order of their first different
numbers. -/

namespace DesignTokens.Proofs.FixedFields
open Text

/-- The last `width` decimal digits of a number. -/
def decimals : (width : Nat) → Nat → List Char
  | 0, _ => []
  | width + 1, n => decimals width (n / 10) ++ [Nat.digitChar (n % 10)]

variable {width m n : Nat} {rest more : List Char}

private theorem toDigits_behind (n : Nat) (least : 10 ≤ n) :
    Nat.toDigits 10 n = Nat.toDigits 10 (n / 10) ++ [Nat.digitChar (n % 10)] := by
  have last : n % 10 < 10 := Nat.mod_lt n (by decide)
  rw [← Nat.toDigits_of_lt_base last, Nat.toDigits_append_toDigits (by decide) (by omega) last,
    Nat.div_add_mod]

private theorem padded_succ (width n : Nat) :
    padded (width + 2) n = padded (width + 1) (n / 10) ++ [Nat.digitChar (n % 10)] := by
  simp only [padded]
  by_cases small : n < 10
  -- The quotient has the digit 0, which takes the place of one of the zeros in front.
  · rw [Nat.toDigits_of_lt_base small, Nat.div_eq_of_lt small, Nat.mod_eq_of_lt small, Nat.toDigits_zero]
    simp [List.replicate_succ']
  · rw [toDigits_behind n (by omega), List.length_append, List.length_singleton, ← List.append_assoc]
    congr 3
    omega

/-- A number that is not too large fills its field. -/
theorem padded_eq (fits : n < 10 ^ (width + 1)) : padded (width + 1) n = decimals (width + 1) n := by
  induction width generalizing n with
  | zero =>
    have small : n < 10 := by simpa using fits
    simp [padded, decimals, Nat.toDigits_of_lt_base small, Nat.mod_eq_of_lt small]
  | succ width ih =>
    rw [padded_succ, ih (Nat.div_lt_of_lt_mul (by rwa [← Nat.pow_succ']))]
    rfl

/-- A number with as many digits as its field has room for is written without zeros in front. -/
theorem toDigits_eq (least : 10 ^ width ≤ n) (fits : n < 10 ^ (width + 1)) :
    Nat.toDigits 10 n = decimals (width + 1) n := by
  induction width generalizing n with
  | zero =>
    have small : n < 10 := by simpa using fits
    simp [decimals, Nat.toDigits_of_lt_base small, Nat.mod_eq_of_lt small]
  | succ width ih =>
    have quotient : 10 ^ width ≤ n / 10 := (Nat.le_div_iff_mul_le (by decide)).mpr (by rwa [← Nat.pow_succ])
    have long : 10 ≤ n := by
      have positive : 0 < 10 ^ width := Nat.pow_pos (by decide)
      omega
    rw [toDigits_behind n long, ih quotient (Nat.div_lt_of_lt_mul (by rwa [← Nat.pow_succ']))]
    rfl

@[simp] theorem length_decimals (width n : Nat) : (decimals width n).length = width := by
  induction width generalizing n with
  | zero => rfl
  | succ width ih => rw [decimals, List.length_append, ih, List.length_singleton]

private theorem isDigit_digitChar (small : n < 10) : isDigit (Nat.digitChar n) = true := by
  have all : ∀ k < 10, isDigit (Nat.digitChar k) = true := by decide
  exact all n small

private theorem all_decimals (width n : Nat) : (decimals width n).all isDigit = true := by
  induction width generalizing n with
  | zero => rfl
  | succ width ih =>
    rw [decimals, List.all_append, ih]
    simp [isDigit_digitChar (Nat.mod_lt n (by decide : 0 < 10))]

private theorem natOfDigits_concat (digits : List Char) (digit : Char) :
    natOfDigits (digits ++ [digit]) = natOfDigits digits * 10 + (digit.toNat - 48) := by
  rw [natOfDigits, List.foldl_append]
  rfl

theorem natOfDigits_decimals (fits : n < 10 ^ width) : natOfDigits (decimals width n) = n := by
  induction width generalizing n with
  | zero =>
    have zero : n = 0 := by simpa using fits
    rw [zero]
    rfl
  | succ width ih =>
    rw [decimals, natOfDigits_concat, ih (Nat.div_lt_of_lt_mul (by rwa [← Nat.pow_succ'])),
      Nat.toNat_digitChar_sub_48_of_lt_ten (Nat.mod_lt n (by decide)), Nat.div_add_mod']

private theorem decimals_inj (fits : m < 10 ^ width) (fits' : n < 10 ^ width) :
    decimals width m = decimals width n ↔ m = n := by
  refine ⟨fun same => ?_, congrArg (decimals width)⟩
  rw [← natOfDigits_decimals fits, same, natOfDigits_decimals fits']

theorem digitChar_lt_iff (small : m < 10) (small' : n < 10) :
    Nat.digitChar m < Nat.digitChar n ↔ m < n := by
  have all : ∀ j < 10, ∀ k < 10, (Nat.digitChar j < Nat.digitChar k ↔ j < k) := by decide
  exact all m small n small'

/-- Two texts that start with parts of one length are in the order of these parts, or else of what comes
behind them. -/
theorem append_lt_append_iff {one two : List Char} (length : one.length = two.length) :
    one ++ rest < two ++ more ↔ one < two ∨ one = two ∧ rest < more := by
  induction one generalizing two with
  | nil =>
    obtain rfl : two = [] := List.length_eq_zero_iff.mp length.symm
    simp
  | cons c one ih =>
    cases two with
    | nil => cases length
    | cons d two =>
      rw [List.cons_append, List.cons_append, List.cons_lt_cons_iff, List.cons_lt_cons_iff,
        ih (Nat.succ.inj length), List.cons.injEq, and_or_left, or_assoc, and_assoc]

theorem decimals_lt_iff (fits : m < 10 ^ width) (fits' : n < 10 ^ width) :
    decimals width m < decimals width n ↔ m < n := by
  induction width generalizing m n with
  | zero =>
    have zero : m = 0 := by simpa using fits
    have zero' : n = 0 := by simpa using fits'
    simp [zero, zero']
  | succ width ih =>
    have quotient : m / 10 < 10 ^ width := Nat.div_lt_of_lt_mul (by rwa [← Nat.pow_succ'])
    have quotient' : n / 10 < 10 ^ width := Nat.div_lt_of_lt_mul (by rwa [← Nat.pow_succ'])
    rw [decimals, decimals, append_lt_append_iff (by simp), ih quotient quotient',
      decimals_inj quotient quotient', List.cons_lt_cons_iff,
      digitChar_lt_iff (Nat.mod_lt m (by decide)) (Nat.mod_lt n (by decide))]
    simp
    omega

/-- The width of a field and the mark behind it. -/
abbrev Field := Nat × Char

def writeFields : List Field → List Nat → List Char
  | (width, mark) :: fields, value :: values => decimals width value ++ mark :: writeFields fields values
  | _, _ => []

/-- Reads the numbers of a text in which every field has its width of digits, every mark is where it belongs,
and nothing comes behind the last one. -/
def readFields? : List Field → List Char → Option (List Nat)
  | [], text => if text.isEmpty then some [] else none
  | (width, mark) :: fields, text =>
    let digits := text.take width
    let behind := text.drop width
    if digits.length == width && digits.all isDigit && behind.head? == some mark then
      (readFields? fields behind.tail).map (natOfDigits digits :: ·)
    else none

/-- There is a number for each field, and none too large for it. -/
inductive Fits : List Field → List Nat → Prop where
  | nil : Fits [] []
  | cons {width mark fields value values} (small : value < 10 ^ width) (others : Fits fields values) :
      Fits ((width, mark) :: fields) (value :: values)

variable {fields : List Field} {values others : List Nat}

theorem readFields_writeFields (fits : Fits fields values) :
    readFields? fields (writeFields fields values) = some values := by
  induction fits with
  | nil => rfl
  | @cons width mark fields value values small others ih =>
    have digits : (decimals width value ++ mark :: writeFields fields values).take width = decimals width value :=
      List.take_left' (length_decimals width value)
    have behind : (decimals width value ++ mark :: writeFields fields values).drop width =
        mark :: writeFields fields values := List.drop_left' (length_decimals width value)
    rw [writeFields, readFields?]
    simp only [digits, behind, length_decimals, all_decimals, List.head?_cons, List.tail_cons, ih,
      natOfDigits_decimals small]
    simp

/-- Texts with the same fields come in the order of their numbers. -/
theorem writeFields_lt_iff (fits : Fits fields values) (fits' : Fits fields others) :
    writeFields fields values < writeFields fields others ↔ values < others := by
  induction fits generalizing others with
  | nil =>
    cases fits'
    simp [writeFields]
  | @cons width mark fields value values small _ ih =>
    obtain _ | ⟨small', fits'⟩ := fits'
    rw [writeFields, writeFields, append_lt_append_iff (by simp), decimals_lt_iff small small',
      decimals_inj small small', List.cons_lt_cons_iff, List.cons_lt_cons_iff, ih fits']
    simp

end DesignTokens.Proofs.FixedFields
