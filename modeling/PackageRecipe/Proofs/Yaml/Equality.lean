import PackageRecipe.Recipe

/-!
Decidable equality of values, and so of recipes. Other than as keys, mappings are equal only
if they list their entries in the same order.
-/

namespace PackageRecipe

namespace Yaml.Value

mutual
def equal : Value → Value → Bool
  | .null, .null => true
  | .boolean left, .boolean right => left == right
  | .number left, .number right => left == right
  | .string left, .string right => left == right
  | .sequence left, .sequence right => equalItems left right
  | .mapping left, .mapping right => equalEntries left right
  | .tagged leftTag left, .tagged rightTag right => leftTag == rightTag && left.equal right
  | _, _ => false

def equalItems : List Value → List Value → Bool
  | [], [] => true
  | left :: lefts, right :: rights => left.equal right && equalItems lefts rights
  | _, _ => false

def equalEntries : List (Value × Value) → List (Value × Value) → Bool
  | [], [] => true
  | (leftKey, left) :: lefts, (rightKey, right) :: rights =>
      leftKey.equal rightKey && left.equal right && equalEntries lefts rights
  | _, _ => false
end

mutual
theorem equal_iff (left right : Value) : left.equal right ↔ left = right := by
  cases left with
  | sequence left =>
      cases right with
      | sequence right => simp [equal, equalItems_iff left right]
      | _ => simp [equal]
  | mapping left =>
      cases right with
      | mapping right => simp [equal, equalEntries_iff left right]
      | _ => simp [equal]
  | tagged leftTag left =>
      cases right with
      | tagged rightTag right => simp [equal, equal_iff left right]
      | _ => simp [equal]
  | _ => cases right <;> simp [equal]

theorem equalItems_iff (lefts rights : List Value) : equalItems lefts rights ↔ lefts = rights := by
  cases lefts with
  | nil => cases rights <;> simp [equalItems]
  | cons left lefts =>
      cases rights with
      | nil => simp [equalItems]
      | cons right rights =>
          simp [equalItems, equal_iff left right, equalItems_iff lefts rights]

theorem equalEntries_iff (lefts rights : List (Value × Value)) :
    equalEntries lefts rights ↔ lefts = rights := by
  match lefts, rights with
  | [], [] => simp [equalEntries]
  | [], _ :: _ => simp [equalEntries]
  | _ :: _, [] => simp [equalEntries]
  | (leftKey, left) :: lefts, (rightKey, right) :: rights =>
      simp [equalEntries, equal_iff leftKey rightKey, equal_iff left right,
        equalEntries_iff lefts rights, and_assoc]
end

instance : DecidableEq Value :=
  fun left right => decidable_of_iff _ (equal_iff left right)

end Yaml.Value

deriving instance DecidableEq for Manifest

deriving instance DecidableEq for Recipe

end PackageRecipe
