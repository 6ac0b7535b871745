import PackageRecipe.Binary64

/-!
The decimal text of a binary64 number: the fewest digits that still round to the
number and, of the decimals with so many digits, the nearest one.
-/

namespace PackageRecipe

namespace Binary64

structure Decimal where
  digits : Nat
  exponent : Int
  deriving DecidableEq, Repr

/-! The reals that round to a number form an interval around it. On the grid of
decimals with a given exponent, the interval holds a point exactly if it holds
one of the number's two neighbours on the grid. So the first exponent, from the
coarsest on, with such a neighbour gives the fewest digits. The number and the ends
of its interval are given as multiples of `2 ^ unit`. -/

def within (low high : Nat) (closed : Bool) (unit exponent : Int) (candidate : Nat) : Bool :=
  let decimal := match exponent with
    | .ofNat power => (candidate * Nat.pow 10 power, 1)
    | .negSucc power => (candidate, Nat.pow 10 (power + 1))
  let (dividend, divisor) := scaled decimal.1 decimal.2 (-unit)
  if closed then low * divisor ≤ dividend && dividend ≤ high * divisor
  else low * divisor < dividend && dividend < high * divisor

/-- The nearer neighbour if both round to the number, and the even one if they are
equally near. -/
def neighbour? (value low high : Nat) (closed : Bool) (unit exponent : Int) : Option Nat :=
  let (dividend, divisor) := scaled value 1 unit
  let (dividend, divisor) := match exponent with
    | .ofNat power => (dividend, divisor * Nat.pow 10 power)
    | .negSucc power => (dividend * Nat.pow 10 (power + 1), divisor)
  let below := dividend / divisor
  let nearest := roundQuotient dividend divisor
  let other := if nearest = below then below + 1 else below
  if within low high closed unit exponent nearest then some nearest
  else if within low high closed unit exponent other then some other
  else none

/-- Seventeen digits are always enough, so the search ends within `count` steps. -/
def shortestFrom (value low high : Nat) (closed : Bool) (unit : Int) :
    (count : Nat) → (exponent : Int) → Decimal
  | 0, exponent => ⟨(neighbour? value low high closed unit exponent).getD 0, exponent⟩
  | count + 1, exponent =>
      match neighbour? value low high closed unit exponent with
      | some digits => ⟨digits, exponent⟩
      | none => shortestFrom value low high closed unit count (exponent - 1)

def Decimal.trimZeros : (count : Nat) → Decimal → Decimal
  | 0, decimal => decimal
  | count + 1, decimal =>
      if decimal.digits % 10 = 0 && decimal.digits != 0 then
        trimZeros count ⟨decimal.digits / 10, decimal.exponent + 1⟩
      else decimal

def shortest (significand : Nat) (exponent : Int) : Decimal :=
  let value := 4 * significand
  let high := value + 2
  let low :=
    if 2 * significand = significandBound && exponent != leastExponent then value - 1 else value - 2
  let closed := significand % 2 = 0
  let unit := exponent - 2
  -- the decimal exponent of the leading digit, or one more
  let leading : Int := ((significand.log2 : Int) + exponent) * 30103 / 100000 + 1
  (shortestFrom value low high closed unit 19 leading).trimZeros 20

def positional (digits : List Char) (whole : Int) : List Char :=
  if digits.length ≤ whole then
    digits ++ List.replicate (whole.toNat - digits.length) '0' ++ ['.', '0']
  else if 0 < whole then
    digits.take whole.toNat ++ '.' :: digits.drop whole.toNat
  else
    '0' :: '.' :: List.replicate (-whole).toNat '0' ++ digits

/-- A positive power of ten has the sign `plus`. -/
def scientific (plus : List Char) (digits : List Char) (power : Int) : List Char :=
  let point := if digits.length ≤ 1 then digits else digits.take 1 ++ '.' :: digits.drop 1
  let sign := if power < 0 then ['-'] else plus
  point ++ 'e' :: sign ++ Nat.toDigits 10 power.natAbs

/-- Magnitudes from `0.00001` to below `10 ^ 16` are positional and have a digit on both
sides of the point, others have a power of ten. -/
def finiteText (plus : String) (negative : Bool) (significand : Nat) (exponent : Int) :
    String :=
  let decimal := shortest significand exponent
  let digits := if significand = 0 then ['0'] else Nat.toDigits 10 decimal.digits
  let whole : Int := if significand = 0 then 1 else digits.length + decimal.exponent
  let text :=
    if -5 < whole && whole ≤ 16 then positional digits whole
    else scientific plus.toList digits (whole - 1)
  String.ofList (if negative then '-' :: text else text)

example : finiteText "" false (3 * 2 ^ 51) (-52) = "1.5" := by decide +kernel

end Binary64

end PackageRecipe
