import DesignTokens.Number.Binary64

/-! The shortest decimal that reads back as a given float, and how it is laid out. -/

namespace DesignTokens.Number

/-- The reals that round to a positive float lie between two bounds around it, here in quarters of
its last place. Below the least significand of an exponent the gap is half as wide. -/
structure Rounding where
  below : Nat
  value : Nat
  above : Nat
  /-- Whether the bounds themselves round to the float. -/
  closed : Bool
  /-- One quarter of the last place is two to this power. -/
  exponent : Int

def Rounding.of (significand : Nat) (exponent : Int) : Rounding where
  below := if significand == twoTo 52 && -1074 < exponent then 4 * significand - 1 else 4 * significand - 2
  value := 4 * significand
  above := 4 * significand + 2
  closed := significand % 2 == 0
  exponent := exponent - 2

/-- Factors that bring a multiple of `10 ^ place` and a count of quarters to one scale. -/
def Rounding.factors (range : Rounding) (place : Int) : Nat × Nat :=
  (tenTo place.toNat * twoTo (-range.exponent).toNat, tenTo (-place).toNat * twoTo range.exponent.toNat)

def Rounding.holds (range : Rounding) (place : Int) (count : Nat) : Bool :=
  let (ten, two) := range.factors place
  let point := count * ten
  if range.closed then range.below * two ≤ point && point ≤ range.above * two
  else range.below * two < point && point < range.above * two

/-- Of the two multiples of `10 ^ place` around the float, the nearest that rounds to it; of two
equally near ones the even one. -/
def Rounding.multiple? (range : Rounding) (place : Int) : Option Nat :=
  let (ten, two) := range.factors place
  let lower := range.value * two / ten
  let upper := lower + 1
  let fromLower := range.value * two - lower * ten
  let toUpper := upper * ten - range.value * two
  match range.holds place lower, range.holds place upper with
  | true, true =>
    if fromLower < toUpper || (fromLower == toUpper && lower % 2 == 0) then some lower else some upper
  | true, false => some lower
  | false, true => some upper
  | false, false => none

/-- The decimal exponent of the first digit of the float. The float is at least `10 ^ -324`, so it
keeps a digit before the point when it is scaled by `10 ^ 400`. -/
def Rounding.leading (range : Rounding) : Int :=
  let whole := range.value * tenTo 400 * twoTo range.exponent.toNat / twoTo (-range.exponent).toNat
  ((Nat.toDigits 10 whole).length : Int) - 401

/-- Tries grids with more and more digits; the seventeenth always has a hit. -/
def Rounding.search (range : Rounding) : (grids : Nat) → (place : Int) → Nat × Int
  | 0, place => (0, place)
  | grids + 1, place =>
    match range.multiple? place with
    | some count => (count, place)
    | none => range.search grids (place - 1)

/-- Moves zeros at the end of a decimal into its exponent; `room` bounds their number. -/
def stripZeros : (room : Nat) → Nat × Int → Nat × Int
  | 0, decimal => decimal
  | room + 1, (digits, place) =>
    if digits % 10 == 0 && digits != 0 then stripZeros room (digits / 10, place + 1)
    else (digits, place)

/-- The shortest decimal `digits * 10 ^ place` that rounds to a positive float. -/
def shortest (significand : Nat) (exponent : Int) : Nat × Int :=
  let range := Rounding.of significand exponent
  stripZeros 18 (range.search 17 range.leading)

/-- An exponent is signed and has at least two digits. -/
def exponentText (exponent : Int) : String :=
  let size := toString exponent.natAbs
  (if exponent < 0 then "e-" else "e+") ++ (if size.length < 2 then "0" ++ size else size)

/-- Digits with the point where their first digit stands for ten to the power `leading`: positional
from `10 ^ -4` up to below `10 ^ 16`, and otherwise one digit before the point and an exponent. -/
def layOut (digits : List Char) (leading : Int) : String :=
  if leading < -4 || 16 ≤ leading then
    match digits with
    | [] => ""
    | [digit] => String.ofList [digit] ++ exponentText leading
    | digit :: rest => String.ofList (digit :: '.' :: rest) ++ exponentText leading
  else if leading < 0 then
    String.ofList ('0' :: '.' :: List.replicate (-leading - 1).toNat '0' ++ digits)
  else
    let whole := leading.toNat + 1
    let before := digits.take whole ++ List.replicate (whole - digits.length) '0'
    let after := if digits.length ≤ whole then ['0'] else digits.drop whole
    String.ofList (before ++ '.' :: after)

/-- The texts of the floats that are not finite. -/
structure SpecialNames where
  infinity : String
  nan : String

def plainNames : SpecialNames := ⟨"inf", "nan"⟩

namespace Binary64

/-- The fewest digits that read back as the float, always with a point or an exponent. -/
def text (names : SpecialNames) : Binary64 → String
  | .nan => names.nan
  | .infinite negative => (if negative then "-" else "") ++ names.infinity
  | .finite negative significand exponent =>
    let size :=
      if significand == 0 then "0.0"
      else
        let (count, place) := shortest significand exponent
        let digits := Nat.toDigits 10 count
        layOut digits (place + digits.length - 1)
    (if negative then "-" else "") ++ size

end Binary64

end DesignTokens.Number
