import PackageRecipe.Yaml.Error
import PackageRecipe.Yaml.Value
import PackageRecipe.Text.Numeral

/-!
What an unquoted scalar denotes: a null, a boolean, a number, or else a string.
-/

namespace PackageRecipe.Yaml

namespace Scalar

def isNullWord (text : String) : Bool :=
  text == "null" || text == "Null" || text == "NULL" || text == "~"

def boolean? (text : String) : Option Bool :=
  if text == "true" || text == "True" || text == "TRUE" then some true
  else if text == "false" || text == "False" || text == "FALSE" then some false
  else none

def digits? (base : Nat) (text : List Char) : Option Nat :=
  if text = [] then none
  else
    text.foldl (fun value digit => do
      let digit ← Text.hexadecimalValue? digit
      if digit < base then return (← value) * base + digit else none) (some 0)

def withoutPlus : List Char → List Char
  | '+' :: rest => rest
  | text => text

/-- Digits after leading zeros are no numeral. -/
def isPadded (text : List Char) : Bool :=
  let digits := match text with
    | '+' :: rest | '-' :: rest => rest
    | text => text
  match digits with
  | '0' :: rest => rest != [] && rest.all (·.isDigit)
  | _ => false

def magnitude? : List Char → Option Nat
  | '0' :: 'x' :: rest => digits? 16 rest
  | '0' :: 'o' :: rest => digits? 8 rest
  | '0' :: 'b' :: rest => digits? 2 rest
  | text => digits? 10 text

def integer? (text : List Char) : Option Int :=
  if isPadded text then none
  else
    match text with
    | '-' :: rest => (magnitude? rest).map fun value => -value
    | text => (magnitude? (withoutPlus text)).map fun value => value

def spanDigits (text : List Char) : List Char × List Char :=
  (text.takeWhile (·.isDigit), text.dropWhile (·.isDigit))

def exponent? : List Char → Option Int
  | [] => some 0
  | letter :: rest =>
      if letter = 'e' ∨ letter = 'E' then
        match rest with
        | '-' :: rest => (Text.readDigits? rest).map fun value => -value
        | rest => (Text.readDigits? (withoutPlus rest)).map fun value => value
      else none

/-- A minus sign, a point and an exponent are optional; a digit has to stand on at least
one side of the point. -/
def decimal? (text : List Char) : Option Binary64 := do
  let (negative, body) := match text with
    | '-' :: rest => (true, rest)
    | text => (false, text)
  let (whole, rest) := spanDigits body
  let (fraction, rest) := match rest with
    | '.' :: rest => spanDigits rest
    | rest => ([], rest)
  if whole = [] ∧ fraction = [] then none
  let exponent ← exponent? rest
  return .ofDecimal negative (Text.decimalValue (whole ++ fraction)) (exponent - fraction.length)

/-- A numeral beyond the range of floats denotes none. -/
def float? (text : List Char) : Option Binary64 :=
  let word := String.ofList text
  let unsigned := withoutPlus text
  if unsigned != text && (unsigned.head? = some '+' || unsigned.head? = some '-') then none
  else if [".inf", ".Inf", ".INF"].contains (String.ofList unsigned) then some (.infinity false)
  else if ["-.inf", "-.Inf", "-.INF"].contains word then some (.infinity true)
  else if [".nan", ".NaN", ".NAN"].contains word then some .nan
  else
    match decimal? unsigned with
    | some (.finite negative significand exponent) => some (.finite negative significand exponent)
    | _ => none

/-- Integers from `-2 ^ 63` to below `2 ^ 64` are values; others of up to 128 bits
are refused. -/
def checkedInteger (value : Int) : Option (Except Error Value) :=
  if -0x8000000000000000 ≤ value ∧ value < 0x10000000000000000 then
    some (.ok (.number (.integer value)))
  else if -0x80000000000000000000000000000000 ≤ value ∧
      value < 0x100000000000000000000000000000000 then some (.error .integerOutOfRange)
  else none

def resolve (text : String) : Except Error Value :=
  if text == "" || isNullWord text then .ok .null
  else
    match boolean? text with
    | some value => .ok (.boolean value)
    | none =>
        match (integer? text.toList).bind checkedInteger with
        | some result => result
        | none =>
            if isPadded text.toList then .ok (.string text)
            else
              match float? text.toList with
              | some value => .ok (.number (.float value))
              | none => .ok (.string text)

/-- Whether an unquoted scalar with this text would not be read back as the string
itself, or might be taken for a number with leading zeros. -/
def needsQuotes (text : String) : Bool :=
  isPadded text.toList ||
    match resolve text with
    | .ok (.string _) => false
    | _ => true

end Scalar

end PackageRecipe.Yaml
