import PackageRecipe.Text.Numeral

/-!
Unsigned numerals: which texts are read as numbers, and as which.
-/

namespace PackageRecipe.Text

/-- A text is a run of digits that denotes a number, or one after a plus sign. -/
def Denotes (text : List Char) (value : Nat) : Prop :=
  ∃ digits, (text = digits ∨ text = '+' :: digits) ∧ digits ≠ [] ∧
    (∀ digit ∈ digits, digit.isDigit) ∧ decimalValue digits = value

theorem decimalValue_toDigits (number : Nat) :
    decimalValue (Nat.toDigits 10 number) = number := by
  have steps : decimalValue (Nat.toDigits 10 number) =
      Nat.ofDigitChars 10 (Nat.toDigits 10 number) 0 := by
    simp only [decimalValue, digitValue, Nat.ofDigitChars, Nat.mul_comm 10]
  rw [steps, Nat.ofDigitChars_toDigits (by omega) (by omega)]

theorem readDigits?_eq_some_iff {text : List Char} {value : Nat} :
    readDigits? text = some value ↔
      text ≠ [] ∧ (∀ digit ∈ text, digit.isDigit) ∧ decimalValue text = value := by
  simp [readDigits?, and_assoc]

theorem denotes_plus_iff {rest : List Char} {value : Nat} :
    Denotes ('+' :: rest) value ↔ readDigits? rest = some value := by
  rw [readDigits?_eq_some_iff]
  constructor
  · intro denotes
    rcases denotes with ⟨digits, rfl | equal, _, areDigits, _⟩
    · have plus := areDigits '+' List.mem_cons_self
      simp at plus
    · cases equal
      exact ⟨‹_›, areDigits, ‹_›⟩
  · intro digits
    exact ⟨rest, .inr rfl, digits⟩

theorem denotes_iff_of_ne {text : List Char} {value : Nat} (noPlus : text.head? ≠ some '+') :
    Denotes text value ↔ readDigits? text = some value := by
  rw [readDigits?_eq_some_iff]
  constructor
  · intro denotes
    rcases denotes with ⟨digits, rfl | rfl, rest⟩
    · exact rest
    · exact absurd rfl noPlus
  · intro digits
    exact ⟨text, .inl rfl, digits⟩

theorem readUnsigned?_eq_some_iff {bound value : Nat} {text : List Char} :
    readUnsigned? bound text = some value ↔ Denotes text value ∧ value < bound := by
  have bounded : ∀ digits, ((readDigits? digits).bind fun found =>
      if found < bound then some found else none) = some value ↔
        readDigits? digits = some value ∧ value < bound := by
    intro digits
    rw [Option.bind_eq_some_iff]
    constructor
    · intro found
      rcases found with ⟨found, read, small⟩
      split at small
      · cases small
        exact ⟨read, ‹_›⟩
      · cases small
    · intro parts
      rcases parts with ⟨read, small⟩
      exact ⟨value, read, if_pos small⟩
  unfold readUnsigned?
  split
  · rw [denotes_plus_iff]
    exact bounded _
  next different =>
    have noPlus : text.head? ≠ some '+' := by
      intro plus
      rcases List.head?_eq_some_iff.mp plus with ⟨rest, equal⟩
      exact different rest equal
    rw [denotes_iff_of_ne noPlus]
    exact bounded _

end PackageRecipe.Text
