/-! Binary floating point numbers of 64 bits, kept by what they denote, and the number nearest to a
decimal. All arithmetic is exact. -/

namespace DesignTokens.Number

/-- A finite number is its significand times two to the exponent. The significand has at most
53 bits, and all 53 unless the exponent is the least one, -1074. -/
inductive Binary64 where
  | finite (negative : Bool) (significand : Nat) (exponent : Int)
  | infinite (negative : Bool)
  | nan
  deriving DecidableEq, Repr, Inhabited

/-- The quotient rounded to the nearest whole number, halves to the even one. -/
def roundQuotient (dividend divisor : Nat) : Nat :=
  let quotient := dividend / divisor
  let doubled := 2 * (dividend % divisor)
  if doubled < divisor then quotient
  else if divisor < doubled then quotient + 1
  else if quotient % 2 == 0 then quotient else quotient + 1

def twoTo (power : Nat) : Nat := Nat.pow 2 power

def tenTo (power : Nat) : Nat := Nat.pow 10 power

/-- `numerator / denominator / 2 ^ exponent` as a quotient of natural numbers. -/
def scaleByTwo (numerator denominator : Nat) (exponent : Int) : Nat × Nat :=
  (numerator * twoTo (-exponent).toNat, denominator * twoTo exponent.toNat)

/-- The exponent at which a positive quotient has 53 bits before the point, or the least one. -/
def exponentOf (numerator denominator : Nat) : Int :=
  let guess : Int := (Nat.log2 numerator : Int) - (Nat.log2 denominator : Int) - 52
  let (dividend, divisor) := scaleByTwo numerator denominator guess
  let exact := if dividend < divisor * twoTo 52 then guess - 1 else guess
  max exact (-1074)

namespace Binary64

def zero (negative : Bool) : Binary64 := .finite negative 0 (-1074)

/-- The number nearest to a quotient, of two equally near ones the even one. -/
def ofQuotient (negative : Bool) (numerator denominator : Nat) : Binary64 :=
  if numerator == 0 then zero negative
  else
    let exponent := exponentOf numerator denominator
    let (dividend, divisor) := scaleByTwo numerator denominator exponent
    let significand := roundQuotient dividend divisor
    let (significand, exponent) :=
      if significand == twoTo 53 then (twoTo 52, exponent + 1) else (significand, exponent)
    if 971 < exponent then .infinite negative else .finite negative significand exponent

/-- The number nearest to `digits * 10 ^ exponent`. Decimals of more than 400 places before or after
the point are far outside the range, so they are not computed with. -/
def ofDecimal (negative : Bool) (digits : Nat) (exponent : Int) : Binary64 :=
  let places : Int := (Nat.toDigits 10 digits).length + exponent
  if digits == 0 || places < -400 then zero negative
  else if 400 < places then .infinite negative
  else ofQuotient negative (digits * tenTo exponent.toNat) (tenTo (-exponent).toNat)

/-- The whole number that a float denotes, if it denotes one. -/
def toInt? : Binary64 → Option Int
  | .finite negative significand exponent =>
    let divisor := twoTo (-exponent).toNat
    if significand % divisor == 0 then
      let size : Int := (significand * twoTo exponent.toNat / divisor : Nat)
      some (if negative then -size else size)
    else none
  | _ => none

end Binary64

end DesignTokens.Number
