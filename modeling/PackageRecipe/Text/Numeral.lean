/-!
Unsigned decimal numerals, as they stand in settings and in recipe fields: ASCII
digits, with or without leading zeros, the most significant digit first.
-/

namespace PackageRecipe.Text

def digitValue (digit : Char) : Nat :=
  digit.toNat - '0'.toNat

def hexadecimalValue? (digit : Char) : Option Nat :=
  if digit.isDigit then some (digitValue digit)
  else if 'a' ≤ digit ∧ digit ≤ 'f' then some (digit.toNat - 'a'.toNat + 10)
  else if 'A' ≤ digit ∧ digit ≤ 'F' then some (digit.toNat - 'A'.toNat + 10)
  else none

def decimalValue (digits : List Char) : Nat :=
  digits.foldl (fun value digit => value * 10 + digitValue digit) 0

def readDigits? (text : List Char) : Option Nat :=
  if text ≠ [] ∧ text.all (·.isDigit) then some (decimalValue text) else none

/-- Reads digits after an optional plus sign, if the number is below `bound`. -/
def readUnsigned? (bound : Nat) (text : List Char) : Option Nat := do
  let digits := match text with
    | '+' :: rest => rest
    | _ => text
  let value ← readDigits? digits
  if value < bound then some value else none

example : readUnsigned? 100 "+033".toList = some 33 := by decide

example : readUnsigned? 100 "100".toList = none := by decide

example : readUnsigned? 100 "+".toList = none := by decide

end PackageRecipe.Text
