import PackageRecipe.Condition.Evaluation
import PackageRecipe.Proofs.Outcome

/-!
Equality of the values of conditions. A boolean is equal to the number that it counts as,
inside tuples too: values are equal if and only if they are identical once every boolean
gives way to its number. Nothing that a condition can ask tells equal values apart.
-/

namespace PackageRecipe.Condition

namespace Value

mutual
/-- The value with a number in the place of every boolean. -/
def numbered : Value → Value
  | .boolean value => .integer (if value then 1 else 0)
  | .integer value => .integer value
  | .text value => .text value
  | .tuple items => .tuple (numberedAll items)

def numberedAll : List Value → List Value
  | [] => []
  | head :: tail => head.numbered :: numberedAll tail
end

example : (tuple [.boolean true, .tuple [.boolean false, .text "a"]]).numbered =
    .tuple [.integer 1, .tuple [.integer 0, .text "a"]] := rfl

mutual
theorem same_iff (left right : Value) : left.same right ↔ left.numbered = right.numbered := by
  cases left with
  | tuple lefts =>
      cases right with
      | tuple rights => simp [same, numbered, sameItems_iff lefts rights]
      | _ => simp [same, number?, numbered]
  | _ => cases right <;> simp [same, number?, numbered]

theorem sameItems_iff (lefts rights : List Value) :
    sameItems lefts rights ↔ numberedAll lefts = numberedAll rights := by
  cases lefts with
  | nil => cases rights <;> simp [sameItems, numberedAll]
  | cons left lefts =>
      cases rights with
      | nil => simp [sameItems, numberedAll]
      | cons right rights =>
          simp [sameItems, numberedAll, same_iff left right, sameItems_iff lefts rights]
end

theorem same_refl (value : Value) : value.same value :=
  (same_iff value value).mpr rfl

theorem same_trans {first second third : Value} (same : first.same second)
    (next : second.same third) : first.same third :=
  (same_iff first third).mpr (((same_iff first second).mp same).trans
    ((same_iff second third).mp next))

theorem same_comm (left right : Value) : left.same right = right.same left := by
  rw [Bool.eq_iff_iff, same_iff, same_iff, eq_comm]

mutual
theorem numbered_numbered (value : Value) : value.numbered.numbered = value.numbered := by
  cases value with
  | tuple items => simp [numbered, numberedAll_numberedAll items]
  | _ => simp [numbered]

theorem numberedAll_numberedAll (values : List Value) :
    numberedAll (numberedAll values) = numberedAll values := by
  cases values with
  | nil => rfl
  | cons head tail =>
      simp [numberedAll, numbered_numbered head, numberedAll_numberedAll tail]
end

theorem same_numbered (left right : Value) :
    left.numbered.same right.numbered = left.same right := by
  rw [Bool.eq_iff_iff, same_iff, same_iff, numbered_numbered, numbered_numbered]

theorem isTrue_numbered (value : Value) : value.numbered.isTrue = value.isTrue := by
  cases value with
  | boolean value => cases value <;> rfl
  | integer value => rfl
  | text value => rfl
  | tuple items => cases items <;> rfl

/-! Two numbers are compared as numbers. Where one of the values is no number, neither is
its numbered form, and the kinds decide that there is no order. -/

mutual
theorem toOption_order_numbered (left right : Value) :
    (left.numbered.order right.numbered).toOption = (left.order right).toOption := by
  cases left with
  | tuple lefts =>
      cases right with
      | tuple rights =>
          rw [numbered, numbered, order, order]
          exact toOption_orderItems_numberedAll lefts rights
      | _ => simp [order, number?, numbered, Except.toOption]
  | _ => cases right <;> simp [order, number?, numbered, Except.toOption]

theorem toOption_orderItems_numberedAll (lefts rights : List Value) :
    (orderItems (numberedAll lefts) (numberedAll rights)).toOption =
      (orderItems lefts rights).toOption := by
  cases lefts with
  | nil => cases rights <;> rfl
  | cons left lefts =>
      cases rights with
      | nil => rfl
      | cons right rights =>
          rw [numberedAll, numberedAll, orderItems, orderItems, same_numbered]
          split
          · exact toOption_orderItems_numberedAll lefts rights
          · exact toOption_order_numbered left right
end

theorem numberedAll_eq_map (values : List Value) : numberedAll values = values.map numbered := by
  induction values with
  | nil => rfl
  | cons head tail induction => rw [numberedAll, induction, List.map_cons]

theorem toOption_memberOf_numbered (value container : Value) :
    (value.numbered.memberOf container.numbered).toOption =
      (value.memberOf container).toOption := by
  cases container with
  | tuple items =>
      have alike : value.numbered.same ∘ numbered = value.same := funext (same_numbered value)
      rw [numbered, memberOf, memberOf, numberedAll_eq_map, List.any_map, alike]
  | _ => cases value <;> simp [memberOf, numbered, Except.toOption]

end Value

/-- A relation holds between values as it does between their numbered forms, and has no
answer for the ones if it has none for the others. -/
theorem toOption_holds_numbered (relation : Relation) (left right : Value) :
    (holds relation left.numbered right.numbered).toOption =
      (holds relation left right).toOption := by
  cases relation <;>
    simp only [holds, Value.same_numbered, toOption_map, Value.toOption_order_numbered,
      Value.toOption_memberOf_numbered]

/-- Two steps both have the same answer, or neither has one, since their values are of
unrelated kinds. -/
inductive SameAnswer : Except Error Bool → Except Error Bool → Prop
  | answer (truth : Bool) : SameAnswer (.ok truth) (.ok truth)
  | mismatch (relation : Relation) (left right otherLeft otherRight : Kind) :
      SameAnswer (.error (.mismatch relation left right))
        (.error (.mismatch relation otherLeft otherRight))

theorem sameAnswer_of_toOption_eq {relation : Relation} {left right otherLeft otherRight : Value}
    (alike : (holds relation left right).toOption =
      (holds relation otherLeft otherRight).toOption) :
    SameAnswer (testStep relation left right) (testStep relation otherLeft otherRight) := by
  rw [testStep, testStep]
  cases found : holds relation left right with
  | ok truth =>
      cases otherFound : holds relation otherLeft otherRight with
      | ok other =>
          rw [found, otherFound] at alike
          cases alike
          exact .answer truth
      | error kinds => rw [found, otherFound] at alike; cases alike
  | error kinds =>
      cases otherFound : holds relation otherLeft otherRight with
      | ok other => rw [found, otherFound] at alike; cases alike
      | error otherKinds => exact .mismatch relation _ _ _ _

theorem testStep_equal_iff {left right : Value} :
    testStep .equal left right = .ok true ↔ left.numbered = right.numbered := by
  rw [← Value.same_iff]
  exact ⟨Except.ok.inj, congrArg Except.ok⟩

/-- Equality of values is an equivalence. Equal values are both true or both not, and every
relation has the same answer for them, on either side of it, or has none for both. -/
theorem equality_is_congruence :
    (∀ value, testStep .equal value value = .ok true) ∧
    (∀ left right, testStep .equal left right = testStep .equal right left) ∧
    (∀ first second third, testStep .equal first second = .ok true →
      testStep .equal second third = .ok true → testStep .equal first third = .ok true) ∧
    (∀ left otherLeft right otherRight, testStep .equal left otherLeft = .ok true →
      testStep .equal right otherRight = .ok true →
        left.isTrue = otherLeft.isTrue ∧ ∀ relation,
          SameAnswer (testStep relation left right)
            (testStep relation otherLeft otherRight)) := by
  simp only [testStep_equal_iff]
  refine ⟨fun _ => trivial, ?symmetric, fun _ _ _ => Eq.trans, ?congruent⟩
  case symmetric =>
    intro left right
    exact congrArg Except.ok (left.same_comm right)
  case congruent =>
    intro left otherLeft right otherRight leftEqual rightEqual
    constructor
    · rw [← left.isTrue_numbered, leftEqual, otherLeft.isTrue_numbered]
    · intro relation
      apply sameAnswer_of_toOption_eq
      calc (holds relation left right).toOption
        _ = (holds relation left.numbered right.numbered).toOption :=
          (toOption_holds_numbered relation left right).symm
        _ = (holds relation otherLeft.numbered otherRight.numbered).toOption := by
          rw [leftEqual, rightEqual]
        _ = (holds relation otherLeft otherRight).toOption :=
          toOption_holds_numbered relation otherLeft otherRight

/-- Inside a tuple, `True` is the item that `1` is; neither of them has an order with a text,
though the kinds in the errors differ. -/
theorem equality_is_congruence_nested :
    let truth : Value := .tuple [.boolean true, .text "a"]
    let number : Value := .tuple [.integer 1, .text "a"]
    (testStep .equal truth number = .ok true ∧ testStep .equal number truth = .ok true ∧
      testStep .equal truth truth = .ok true) ∧
    (truth.isTrue = number.isTrue ∧ SameAnswer (testStep .member truth (.tuple [number]))
      (testStep .member number (.tuple [truth]))) ∧
    (testStep .equal (.boolean true) (.integer 1) = .ok true ∧
      SameAnswer (testStep .less (.boolean true) (.text "a"))
        (testStep .less (.integer 1) (.text "a")) ∧
      testStep .less (.boolean true) (.text "a") ≠ testStep .less (.integer 1) (.text "a")) := by
  intro truth number
  rcases equality_is_congruence with ⟨_, _, transitive, congruent⟩
  refine ⟨⟨rfl, rfl, transitive truth number truth rfl rfl⟩, ⟨?_, ?_⟩, rfl, ?_, ?_⟩
  · exact (congruent truth number (.tuple [number]) (.tuple [truth]) rfl rfl).1
  · exact (congruent truth number (.tuple [number]) (.tuple [truth]) rfl rfl).2 .member
  · exact (congruent (.boolean true) (.integer 1) (.text "a") (.text "a") rfl rfl).2 .less
  · rintro ⟨⟩

end PackageRecipe.Condition
