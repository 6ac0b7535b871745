import Mathlib.Logic.ExistsUnique
import PackageRecipe.Proofs.Condition.Equality

/-!
The order of the values of conditions. It is partial: values of unrelated kinds have no
order, and tuples have none if the first items that differ have none. Where two values have
an order it says whether they are equal, it turns round with the two, and it is transitive.
-/

namespace PackageRecipe

namespace Condition

namespace Value

/-! Values in the other order have the order turned round, or their kinds in the other
order. -/

mutual
theorem order_swap (left right : Value) :
    right.order left = ((left.order right).map Ordering.swap).mapError Prod.swap := by
  cases left with
  | tuple lefts =>
      cases right with
      | tuple rights => exact orderItems_swap lefts rights
      | _ => rfl
  | text left =>
      cases right with
      | text right => exact congrArg Except.ok Std.OrientedCmp.eq_swap
      | _ => rfl
  | _ =>
      cases right with
      | tuple rights => rfl
      | text right => rfl
      | _ => exact congrArg Except.ok Std.OrientedCmp.eq_swap

theorem orderItems_swap (lefts rights : List Value) :
    orderItems rights lefts =
      ((orderItems lefts rights).map Ordering.swap).mapError Prod.swap := by
  cases lefts with
  | nil => cases rights <;> rfl
  | cons left lefts =>
      cases rights with
      | nil => rfl
      | cons right rights =>
          rw [orderItems, orderItems, same_comm right left]
          split
          · exact orderItems_swap lefts rights
          · exact order_swap left right
end

mutual
theorem order_eq_ok_eq_iff (left right : Value) :
    left.order right = .ok .eq ↔ left.same right := by
  cases left with
  | tuple lefts =>
      cases right with
      | tuple rights => simp [order, same, orderItems_eq_ok_eq_iff lefts rights]
      | _ => simp [order, same, number?]
  | _ => cases right <;> simp [order, same, number?]

theorem orderItems_eq_ok_eq_iff (lefts rights : List Value) :
    orderItems lefts rights = .ok .eq ↔ sameItems lefts rights := by
  cases lefts with
  | nil => cases rights <;> simp [orderItems, sameItems]
  | cons left lefts =>
      cases rights with
      | nil => simp [orderItems, sameItems]
      | cons right rights =>
          rw [orderItems, sameItems, Bool.and_eq_true]
          split
          case isTrue same => simp [same, orderItems_eq_ok_eq_iff lefts rights]
          case isFalse different => simp [different, order_eq_ok_eq_iff left right]
end

/-- Equal values stand in the same order to every value. -/
theorem order_eq_ok_congr {left otherLeft right otherRight : Value} {ordering : Ordering}
    (leftSame : left.same otherLeft) (rightSame : right.same otherRight) :
    left.order right = .ok ordering ↔ otherLeft.order otherRight = .ok ordering := by
  have alike : (left.order right).toOption = (otherLeft.order otherRight).toOption := by
    rw [← toOption_order_numbered, (same_iff _ _).mp leftSame, (same_iff _ _).mp rightSame,
      toOption_order_numbered]
  rw [eq_ok_iff_toOption_eq_some, alike, ← eq_ok_iff_toOption_eq_some]

theorem not_same_of_order_eq_lt {left right : Value} (less : left.order right = .ok .lt) :
    left.same right = false := by
  rw [Bool.eq_false_iff]
  intro same
  rw [(order_eq_ok_eq_iff left right).mpr same] at less
  cases less

theorem orderItems_cons_of_lt {left right : Value} (less : left.order right = .ok .lt)
    (lefts rights : List Value) :
    orderItems (left :: lefts) (right :: rights) = .ok .lt := by
  rw [orderItems, if_neg (Bool.eq_false_iff.mp (not_same_of_order_eq_lt less)), less]

theorem same_or_order_of_orderItems {left right : Value} {lefts rights : List Value}
    (less : orderItems (left :: lefts) (right :: rights) = .ok .lt) :
    left.same right ∧ orderItems lefts rights = .ok .lt ∨ left.order right = .ok .lt := by
  rw [orderItems] at less
  split at less
  case isTrue same => exact .inl ⟨same, less⟩
  case isFalse => exact .inr less

mutual
theorem order_trans (first second third : Value) (less : first.order second = .ok .lt)
    (next : second.order third = .ok .lt) : first.order third = .ok .lt := by
  cases first with
  | tuple firsts =>
      cases second with
      | tuple seconds =>
          cases third with
          | tuple thirds => exact orderItems_trans firsts seconds thirds less next
          | _ => cases next
      | _ => cases less
  | text first =>
      cases second with
      | text second =>
          cases third with
          | text third =>
              simp only [order, Except.ok.injEq] at less next ⊢
              exact Std.TransCmp.lt_trans less next
          | _ => cases next
      | _ => cases less
  | _ =>
      cases second with
      | tuple | text => cases less
      | _ =>
          cases third with
          | tuple | text => cases next
          | _ =>
              simp only [order, number?, Except.ok.injEq] at less next ⊢
              exact Std.TransCmp.lt_trans less next

-- Where the second tuple first differs from one of the others, the first differs from the
-- third in the same way.
theorem orderItems_trans (firsts seconds thirds : List Value)
    (less : orderItems firsts seconds = .ok .lt)
    (next : orderItems seconds thirds = .ok .lt) :
    orderItems firsts thirds = .ok .lt := by
  cases firsts with
  | nil =>
      cases thirds with
      | nil => cases seconds <;> cases next
      | cons third thirds => rfl
  | cons first firsts =>
      cases seconds with
      | nil => cases less
      | cons second seconds =>
          cases thirds with
          | nil => cases next
          | cons third thirds =>
              rcases same_or_order_of_orderItems less with ⟨firstSame, less⟩ | less
              · rcases same_or_order_of_orderItems next with ⟨secondSame, next⟩ | next
                · rw [orderItems, if_pos (same_trans firstSame secondSame)]
                  exact orderItems_trans firsts seconds thirds less next
                · exact orderItems_cons_of_lt
                    ((order_eq_ok_congr firstSame (same_refl third)).mpr next) firsts thirds
              · rcases same_or_order_of_orderItems next with ⟨secondSame, next⟩ | next
                · exact orderItems_cons_of_lt
                    ((order_eq_ok_congr (same_refl first) secondSame).mp less) firsts thirds
                · have both := order_trans first second third less next
                  exact orderItems_cons_of_lt both firsts thirds
end

end Value

end Condition

namespace Relation

/-- Whether a relation needs an order of the values. -/
def isOrdering : Relation → Bool
  | .less | .atMost | .greater | .atLeast => true
  | .equal | .different | .member | .notMember => false

def isMembership : Relation → Bool
  | .member | .notMember => true
  | .equal | .different | .less | .atMost | .greater | .atLeast => false

/-- Whether a relation holds between values that stand in an order, which says nothing about
membership. -/
def accepts (ordering : Ordering) : Relation → Bool
  | .equal => ordering.isEq
  | .different => ordering.isNe
  | .less => ordering.isLT
  | .atMost => ordering.isLE
  | .greater => ordering.isGT
  | .atLeast => ordering.isGE
  | .member | .notMember => false

end Relation

namespace Condition

section Steps

variable {left right : Value}

theorem testStep_of_ordered {ordering : Ordering} (ordered : left.order right = .ok ordering)
    (relation : Relation) (notMembership : relation.isMembership = false) :
    testStep relation left right = .ok (relation.accepts ordering) := by
  have same : left.same right = ordering.isEq := by
    rw [Bool.eq_iff_iff, ← Value.order_eq_ok_eq_iff, ordered]
    cases ordering <;> simp
  cases relation with
  | member | notMember => cases notMembership
  | equal => exact congrArg Except.ok same
  | different =>
      rw [testStep, holds, same]
      cases ordering <;> rfl
  | _ =>
      rw [testStep, holds, ordered]
      rfl

theorem testStep_of_unordered {kinds : Kind × Kind} (unordered : left.order right = .error kinds)
    (relation : Relation) (orders : relation.isOrdering) :
    testStep relation left right = .error (.mismatch relation kinds.1 kinds.2) := by
  cases relation with
  | equal | different | member | notMember => cases orders
  | _ =>
      rw [testStep, holds, unordered]
      rfl

theorem isMembership_of_isOrdering {relation : Relation} (orders : relation.isOrdering) :
    relation.isMembership = false := by
  cases relation with
  | member | notMember => cases orders
  | _ => rfl

theorem exists_testStep_eq_error_iff {relation : Relation} (orders : relation.isOrdering) :
    (∃ error, testStep relation left right = .error error) ↔
      ∃ kinds, left.order right = .error kinds := by
  cases found : left.order right with
  | ok ordering => simp [testStep_of_ordered found relation (isMembership_of_isOrdering orders)]
  | error kinds => simp [testStep_of_unordered found relation orders]

/-- Values that are not ordered are not equal either. -/
theorem testStep_equal_of_unordered {kinds : Kind × Kind}
    (unordered : left.order right = .error kinds) : testStep .equal left right = .ok false := by
  have different : left.same right = false := by
    rw [Bool.eq_false_iff, ne_eq, ← Value.order_eq_ok_eq_iff, unordered]
    exact nofun
  exact congrArg Except.ok different

theorem testStep_less_iff :
    testStep .less left right = .ok true ↔ left.order right = .ok .lt := by
  cases found : left.order right with
  | ok ordering =>
      rw [testStep_of_ordered found .less rfl]
      cases ordering <;> simp [Relation.accepts]
  | error kinds => simp [testStep_of_unordered found .less rfl]

end Steps

/-- A step, and the step of another relation between the same values in the other order: both
have the same answer, or neither has one, and the kinds in the errors are swapped as well. -/
inductive Mirrored (relation turned : Relation) : Except Error Bool → Except Error Bool → Prop
  | answer (truth : Bool) : Mirrored relation turned (.ok truth) (.ok truth)
  | mismatch (left right : Kind) :
      Mirrored relation turned (.error (.mismatch relation left right))
        (.error (.mismatch turned right left))

theorem mirrored_testStep {relation turned : Relation} (orders : relation.isOrdering)
    (turnedOrders : turned.isOrdering)
    (turns : ∀ ordering : Ordering, turned.accepts ordering.swap = relation.accepts ordering)
    (left right : Value) :
    Mirrored relation turned (testStep relation left right) (testStep turned right left) := by
  have swapped := left.order_swap right
  cases found : left.order right with
  | ok ordering =>
      rw [found] at swapped
      rw [testStep_of_ordered found relation (isMembership_of_isOrdering orders),
        testStep_of_ordered swapped turned (isMembership_of_isOrdering turnedOrders), turns]
      exact .answer _
  | error kinds =>
      rw [found] at swapped
      rw [testStep_of_unordered found relation orders,
        testStep_of_unordered swapped turned turnedOrders]
      exact .mismatch _ _

/-- Of less, equal and greater, the relation that an ordering stands for. -/
def relationOf : Ordering → Relation
  | .lt => .less
  | .eq => .equal
  | .gt => .greater

theorem existsUnique_of_ordered {left right : Value} {ordering : Ordering}
    (ordered : left.order right = .ok ordering) :
    ∃! relation, relation ∈ [Relation.less, .equal, .greater] ∧
      testStep relation left right = .ok true := by
  have answer : ∀ relation ∈ [Relation.less, .equal, .greater],
      testStep relation left right = .ok (relation.accepts ordering) := by
    intro relation member
    have notMembership : ∀ relation ∈ [Relation.less, .equal, .greater],
        relation.isMembership = false := by decide
    exact testStep_of_ordered ordered relation (notMembership relation member)
  have only : ∀ relation ∈ [Relation.less, .equal, .greater],
      relation.accepts ordering = true → relation = relationOf ordering := by
    cases ordering <;> decide
  have member : relationOf ordering ∈ [Relation.less, .equal, .greater] := by
    cases ordering <;> decide
  have accepted : (relationOf ordering).accepts ordering = true := by
    cases ordering <;> rfl
  refine ⟨relationOf ordering, ⟨member, ?_⟩, ?_⟩
  · rw [answer _ member, accepted]
  · rintro relation ⟨member, holds⟩
    rw [answer _ member] at holds
    exact only relation member (Except.ok.inj holds)

theorem testStep_atMost_iff {left right : Value} {ordering : Ordering}
    (ordered : left.order right = .ok ordering) :
    testStep .atMost left right = .ok true ↔
      testStep .less left right = .ok true ∨ testStep .equal left right = .ok true := by
  rw [testStep_of_ordered ordered .atMost rfl, testStep_of_ordered ordered .less rfl,
    testStep_of_ordered ordered .equal rfl]
  cases ordering <;> simp [Relation.accepts]

/-- The order of values is a partial order that fits their equality. It turns round with the
two values, its four relations fail on the same pairs, and values on which they fail are not
equal. On all others exactly one of `<`, `==` and `>` holds, and `<=` holds if one of the
first two does. If `<` holds from a first value to a second and on to a third, it holds from
the first to the third. -/
theorem order_is_coherent (first second third : Value) :
    Mirrored .less .greater (testStep .less first second) (testStep .greater second first) ∧
    Mirrored .atMost .atLeast (testStep .atMost first second)
      (testStep .atLeast second first) ∧
    (∀ relation other : Relation, relation.isOrdering → other.isOrdering →
      ((∃ error, testStep relation first second = .error error) ↔
        ∃ error, testStep other first second = .error error)) ∧
    ((∃ error, testStep .less first second = .error error) →
      testStep .equal first second = .ok false) ∧
    ((∃ truth, testStep .less first second = .ok truth) →
      (∃! relation, relation ∈ [Relation.less, .equal, .greater] ∧
        testStep relation first second = .ok true) ∧
      (testStep .atMost first second = .ok true ↔
        testStep .less first second = .ok true ∨ testStep .equal first second = .ok true)) ∧
    (testStep .less first second = .ok true → testStep .less second third = .ok true →
      testStep .less first third = .ok true) := by
  refine ⟨?less, ?atMost, ?sameFailures, ?notEqual, ?trichotomy, ?transitive⟩
  case less =>
    apply mirrored_testStep rfl rfl
    intro ordering
    cases ordering <;> rfl
  case atMost =>
    apply mirrored_testStep rfl rfl
    intro ordering
    cases ordering <;> rfl
  case sameFailures =>
    intro relation other orders otherOrders
    rw [exists_testStep_eq_error_iff orders, exists_testStep_eq_error_iff otherOrders]
  case notEqual =>
    intro fails
    rcases (exists_testStep_eq_error_iff rfl).mp fails with ⟨kinds, unordered⟩
    exact testStep_equal_of_unordered unordered
  case trichotomy =>
    rintro ⟨truth, answered⟩
    cases found : first.order second with
    | error kinds =>
        rw [testStep_of_unordered found .less rfl] at answered
        cases answered
    | ok ordering => exact ⟨existsUnique_of_ordered found, testStep_atMost_iff found⟩
  case transitive =>
    simp only [testStep_less_iff]
    exact Value.order_trans first second third

/-- Of the first two tuples the second items decide, since `True` equals `1`. The others are
only ordered as long as no text meets a number. -/
theorem order_is_coherent_tuples :
    let first : Value := .tuple [.boolean true, .integer 3]
    let second : Value := .tuple [.integer 1, .integer 4]
    let third : Value := .tuple [.integer 2, .text "a"]
    (testStep .less first second = .ok true ∧ testStep .less second third = .ok true ∧
      testStep .less first third = .ok true) ∧
    (testStep .less first second = .ok true ∧
      ∃! relation, relation ∈ [Relation.less, .equal, .greater] ∧
        testStep relation first second = .ok true) ∧
    (testStep .less (.tuple [third]) (.tuple [.tuple [.integer 2, .integer 0]]) =
        .error (.mismatch .less .text .integer) ∧
      testStep .equal (.tuple [third]) (.tuple [.tuple [.integer 2, .integer 0]]) =
        .ok false ∧
      ∃ error, testStep .atLeast (.tuple [third])
        (.tuple [.tuple [.integer 2, .integer 0]]) = .error error) := by
  intro first second third
  have coherent := order_is_coherent first second third
  have unordered := order_is_coherent (.tuple [third])
    (.tuple [.tuple [.integer 2, .integer 0]]) third
  rcases coherent with ⟨_, _, _, _, trichotomy, transitive⟩
  rcases unordered with ⟨_, _, sameFailures, notEqual, _, _⟩
  refine ⟨⟨rfl, rfl, transitive rfl rfl⟩, ⟨rfl, (trichotomy ⟨true, rfl⟩).1⟩, rfl, ?_, ?_⟩
  · exact notEqual ⟨_, rfl⟩
  · exact (sameFailures .less .atLeast rfl rfl).mp ⟨_, rfl⟩

end Condition

end PackageRecipe
