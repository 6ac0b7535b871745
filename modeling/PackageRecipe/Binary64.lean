/-!
Binary floating-point numbers of 64 bits, as exact values: a sign, a significand
below `2 ^ 53` and a power of two. A decimal numeral is rounded to the nearest such
number, by arithmetic on natural numbers alone; a half goes to the even neighbour.
-/

namespace PackageRecipe

/-- A binary64 number. A finite one stands for `significand * 2 ^ exponent` with
its sign; the two zeros differ in sign alone. -/
inductive Binary64 where
  | nan
  | infinity (negative : Bool)
  | finite (negative : Bool) (significand : Nat) (exponent : Int)
  deriving DecidableEq, Repr

namespace Binary64

def leastExponent : Int := -1074

def greatestExponent : Int := 971

def significandBound : Nat := 0x20000000000000

def zero (negative : Bool) : Binary64 :=
  .finite negative 0 leastExponent

def roundQuotient (numerator denominator : Nat) : Nat :=
  let whole := numerator / denominator
  let twice := 2 * (numerator % denominator)
  if twice < denominator then whole
  else if denominator < twice then whole + 1
  else if whole % 2 = 0 then whole
  else whole + 1

def scaled (numerator denominator : Nat) (exponent : Int) : Nat × Nat :=
  match exponent with
  | .ofNat power => (numerator * Nat.pow 2 power, denominator)
  | .negSucc power => (numerator, denominator * Nat.pow 2 (power + 1))

def ofFraction (negative : Bool) (numerator denominator : Nat) : Binary64 :=
  if numerator = 0 then zero negative
  else
    let estimate : Int := (numerator.log2 : Int) - denominator.log2 - 53
    let (dividend, divisor) := scaled numerator denominator (-estimate)
    let exponent := if significandBound ≤ dividend / divisor then estimate + 1 else estimate
    let exponent := max exponent leastExponent
    let (dividend, divisor) := scaled numerator denominator (-exponent)
    let significand := roundQuotient dividend divisor
    let (significand, exponent) :=
      if significand = significandBound then (significandBound / 2, exponent + 1)
      else (significand, exponent)
    if greatestExponent < exponent then .infinity negative
    else .finite negative significand exponent

/-- Numerals far outside the range are decided by their magnitude, before any power is
computed. -/
def ofDecimal (negative : Bool) (digits : Nat) (exponent : Int) : Binary64 :=
  let magnitude : Int := (Nat.toDigits 10 digits).length + exponent
  if digits = 0 || magnitude < -330 then zero negative
  else if 310 < magnitude then .infinity negative
  else
    match exponent with
    | .ofNat power => ofFraction negative (digits * Nat.pow 10 power) 1
    | .negSucc power => ofFraction negative digits (Nat.pow 10 (power + 1))

example : ofDecimal false 15 (-1) = .finite false (3 * 2 ^ 51) (-52) := by decide +kernel

/-- Equality of values: the two zeros are equal, and here so are all that are not
numbers. -/
def sameValue : Binary64 → Binary64 → Bool
  | .nan, .nan => true
  | .infinity left, .infinity right => left == right
  | .finite leftSign left leftExponent, .finite rightSign right rightExponent =>
      (left == 0 && right == 0) ||
        (leftSign == rightSign && left == right && leftExponent == rightExponent)
  | _, _ => false

def isZero : Binary64 → Bool
  | .finite _ significand _ => significand == 0
  | _ => false

def toNat? : Binary64 → Option Nat
  | .finite negative significand exponent =>
      if negative && significand != 0 then none
      else
        let (dividend, divisor) := scaled significand 1 exponent
        if dividend % divisor = 0 then some (dividend / divisor) else none
  | _ => none

example : (ofDecimal false 30 (-1)).toNat? = some 3 := by decide +kernel

example : (ofDecimal false 35 (-1)).toNat? = none := by decide +kernel

end Binary64

end PackageRecipe
