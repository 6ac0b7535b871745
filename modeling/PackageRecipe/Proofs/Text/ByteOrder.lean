import Mathlib.Data.String.Basic
import Mathlib.Tactic.SplitIfs

/-!
The order of texts. Characters are compared by their code points, and this is the order of
the UTF-8 bytes as well, so a text comes before another exactly if its bytes do.
-/

namespace PackageRecipe.Text

/-- The UTF-8 bytes of a text. -/
def bytes (text : String) : List UInt8 :=
  text.toUTF8.data.toList

example : bytes "é€" = [0xC3, 0xA9, 0xE2, 0x82, 0xAC] := by decide

theorem bytes_eq_flatMap (text : String) :
    bytes text = text.toList.flatMap String.utf8EncodeChar := by
  rw [bytes, String.toUTF8_eq_toByteArray, ← String.ofList_toList (s := text),
    String.toByteArray_ofList, List.utf8Encode, List.data_toByteArray, String.toList_ofList]

/-! ## One character -/

theorem ofNat_cons_lt_iff {first second : Nat} {rest other : List UInt8}
    (firstBound : first < 256) (secondBound : second < 256) :
    UInt8.ofNat first :: rest < UInt8.ofNat second :: other ↔
      first < second ∨ first = second ∧ rest < other := by
  rw [List.cons_lt_cons_iff, UInt8.lt_iff_toNat_lt, ← UInt8.toNat_inj,
    UInt8.toNat_ofNat_of_lt' firstBound, UInt8.toNat_ofNat_of_lt' secondBound]

/-- The bytes of a character hold its code point in base 64. The first digit in which two
numbers differ decides about their order. -/
theorem digits_lt_of_lt {first second : Nat} (less : first < second) :
    first / 262144 < second / 262144 ∨ first / 262144 = second / 262144 ∧
      (first / 4096 % 64 < second / 4096 % 64 ∨ first / 4096 % 64 = second / 4096 % 64 ∧
        (first / 64 % 64 < second / 64 % 64 ∨ first / 64 % 64 = second / 64 % 64 ∧
          first % 64 < second % 64)) := by
  have last : first / 64 < second / 64 ∨
      first / 64 = second / 64 ∧ first % 64 < second % 64 := by omega
  rcases last with less | ⟨same, less⟩
  · omega
  · omega

/-- The bytes of the smaller character are smaller before they end, whatever follows them. -/
theorem utf8EncodeChar_append_lt {first second : Char} (less : first < second)
    (rest other : List UInt8) :
    String.utf8EncodeChar first ++ rest < String.utf8EncodeChar second ++ other := by
  have bound : second.val.toNat < 0x110000 := by
    have valid := second.valid
    simp only [UInt32.isValidChar, Nat.isValidChar] at valid
    omega
  have codes : first.val.toNat < second.val.toNat := less
  have digits := digits_lt_of_lt codes
  simp only [String.utf8EncodeChar]
  -- The marks in the first byte tell apart how many bytes there are.
  split_ifs <;>
    simp (disch := omega) only [List.cons_append, List.nil_append, ofNat_cons_lt_iff,
      Nat.mod_eq_of_lt]
  all_goals omega

/-! ## Texts -/

theorem flatMap_lt_flatMap {left right : List Char} (less : left < right) :
    left.flatMap String.utf8EncodeChar < right.flatMap String.utf8EncodeChar := by
  rw [← List.lex_lt] at less
  induction less with
  | @nil head tail =>
      rw [List.flatMap_nil, List.flatMap_cons]
      cases encoded : String.utf8EncodeChar head with
      | nil => exact absurd encoded (by simp)
      | cons byte others => exact List.nil_lt_cons byte _
  | rel less =>
      rw [List.flatMap_cons, List.flatMap_cons]
      exact utf8EncodeChar_append_lt less _ _
  | cons _ induction =>
      rw [List.flatMap_cons, List.flatMap_cons]
      exact List.append_left_lt induction

theorem bytes_lt_bytes_of_lt {left right : String} (less : left < right) :
    bytes left < bytes right := by
  rw [bytes_eq_flatMap, bytes_eq_flatMap]
  exact flatMap_lt_flatMap (String.lt_iff_toList_lt.mp less)

theorem bytes_le_bytes_iff {left right : String} :
    bytes left ≤ bytes right ↔ left ≤ right := by
  rw [← List.not_lt, ← not_lt]
  apply not_congr
  constructor
  · intro less
    rcases lt_trichotomy right left with before | same | after
    · exact before
    · rw [same] at less
      exact absurd less (List.lt_irrefl _)
    · exact absurd less (List.lt_asymm (bytes_lt_bytes_of_lt after))
  · exact bytes_lt_bytes_of_lt

theorem compare_eq_lt_of_lt {left right : List UInt8} (less : left < right) :
    compare left right = .lt := by
  rw [← List.lex_lt] at less
  induction less with
  | nil => rfl
  | rel less =>
      rw [List.compare_cons_cons, Std.compare_eq_lt.mpr less]
      rfl
  | cons _ induction =>
      rw [List.compare_cons_cons, Std.compare_self]
      exact induction

/-- Texts compare as their bytes do. -/
theorem compare_bytes (left right : String) :
    compare (bytes left) (bytes right) = compare left right := by
  rcases lt_trichotomy left right with before | same | after
  · rw [compare_eq_lt_of_lt (bytes_lt_bytes_of_lt before), compare_lt_iff_lt.mpr before]
  · rw [same, Std.compare_self, Std.compare_self]
  · have swapped := compare_eq_lt_of_lt (bytes_lt_bytes_of_lt after)
    rw [Std.OrientedOrd.eq_swap, swapped, compare_gt_iff_gt.mpr after, Ordering.swap]

theorem isLE_compare_iff {left right : String} :
    (compare left right).isLE ↔ left ≤ right := by
  rw [← compare_le_iff_le, Ordering.isLE_iff_ne_gt]

end PackageRecipe.Text
