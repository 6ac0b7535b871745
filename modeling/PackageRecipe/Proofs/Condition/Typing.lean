import PackageRecipe.Proofs.Condition.Failures
import PackageRecipe.Proofs.Condition.Ordering

/-!
Conditions that cannot fail. A check that looks at no fact tells for most conditions
whether they have a number or a text as their value, and so for most comparisons that the
values on both sides will fit. A condition that passes has a value for all facts that it
names.
-/

namespace PackageRecipe

namespace Condition

/-! ## The check -/

/-- The values that have an order among each other. Booleans count as numbers. -/
inductive Domain where
  | number
  | text
  deriving DecidableEq, Repr

mutual
/-- Whether a condition can be seen to have no values but those of a domain. A fact is a
boolean or an integer, and a connective has the value of one of its operands. -/
def isOf (domain : Domain) : Condition → Bool
  | .name _ | .integer _ | .boolean _ | .negation _ | .comparison _ _ => domain = .number
  | .text _ => domain = .text
  | .tuple _ => false
  | .conjunction operands => !operands.isEmpty && allOf domain operands
  | .disjunction operands => !operands.isEmpty && allOf domain operands

def allOf (domain : Domain) : List Condition → Bool
  | [] => true
  | head :: tail => head.isOf domain && allOf domain tail
end

def isTuple : Condition → Bool
  | .tuple _ => true
  | _ => false

/-- Whether a relation can be seen to have an answer for the values of two operands. -/
def fits (left right : Condition) : Relation → Bool
  | .equal | .different => true
  | .less | .atMost | .greater | .atLeast =>
      (left.isOf .number && right.isOf .number) || (left.isOf .text && right.isOf .text)
  | .member | .notMember => right.isTuple || (left.isOf .text && right.isOf .text)

mutual
/-- Whether every relation in a condition fits the operands on its sides. -/
def isChecked : Condition → Bool
  | .name _ | .integer _ | .text _ | .boolean _ => true
  | .tuple items => allChecked items
  | .negation operand => operand.isChecked
  | .conjunction operands => allChecked operands
  | .disjunction operands => allChecked operands
  | .comparison first steps => first.isChecked && stepsChecked first steps

def allChecked : List Condition → Bool
  | [] => true
  | head :: tail => head.isChecked && allChecked tail

def stepsChecked (left : Condition) : List (Relation × Condition) → Bool
  | [] => true
  | (relation, right) :: tail =>
      fits left right relation && right.isChecked && stepsChecked right tail
end

example : (comparison (.integer 20) [(.atMost, .name "py"), (.less, .text "30")]).isChecked =
    false := rfl

def Value.isOf (value : Value) : Domain → Bool
  | .number => value.number?.isSome
  | .text => value.kind = .text

/-! ## The values of a domain -/

section Values

variable {facts : Facts} {domain : Domain}

theorem Value.isOf_boolean (value : Bool) (number : domain = .number) :
    (Value.boolean value).isOf domain := by
  rw [number]
  rfl

-- The value that a connective starts from does not matter once there is an operand.
mutual
theorem isOf_value : (condition : Condition) → ∀ {value : Value}, condition.isOf domain →
    condition.value facts = .ok value → value.isOf domain
  | .name word, result, fits, found => by
      rw [isOf, decide_eq_true_eq] at fits
      rw [value] at found
      cases lookedUp : facts.lookup word with
      | none => rw [lookedUp] at found; cases found
      | some fact =>
          rw [lookedUp] at found
          cases found
          rw [fits]
          cases fact <;> rfl
  | .integer _, _, fits, found | .text _, _, fits, found | .boolean _, _, fits, found => by
      rw [isOf, decide_eq_true_eq] at fits
      rw [value] at found
      cases found
      rw [fits]
      rfl
  | .tuple _, _, fits, _ => by cases fits
  | .negation operand, _, fits, found => by
      rw [isOf, decide_eq_true_eq] at fits
      rw [value] at found
      rcases exists_of_bind_eq_ok found with ⟨inner, _, result⟩
      cases result
      exact Value.isOf_boolean _ fits
  | .comparison first steps, _, fits, found => by
      rw [isOf, decide_eq_true_eq] at fits
      rw [value] at found
      rcases exists_of_bind_eq_ok found with ⟨left, _, chained⟩
      rcases exists_of_bind_eq_ok chained with ⟨truth, _, result⟩
      cases result
      exact Value.isOf_boolean truth fits
  | .conjunction operands, _, fits, found | .disjunction operands, _, fits, found => by
      rw [isOf, Bool.and_eq_true, Bool.not_eq_true', List.isEmpty_eq_false_iff] at fits
      rw [value] at found
      exact isOf_deciding _ operands fits.2 (fun empty => absurd empty fits.1) found

theorem isOf_deciding (decisive : Bool) : (operands : List Condition) →
    ∀ {last value : Value}, allOf domain operands → (operands = [] → last.isOf domain) →
      deciding facts decisive last operands = .ok value → value.isOf domain
  | [], last, value, _, lastFits, found => by
      rw [deciding] at found
      cases found
      exact lastFits rfl
  | head :: tail, last, value, fits, _, found => by
      rw [allOf, Bool.and_eq_true] at fits
      rw [deciding] at found
      rcases exists_of_bind_eq_ok found with ⟨headValue, headFound, rest⟩
      have headFits := isOf_value head fits.1 headFound
      split at rest
      · cases rest
        exact headFits
      · exact isOf_deciding decisive tail fits.2 (fun _ => headFits) rest
end

theorem Value.exists_text_of_isOf {value : Value} (fits : value.isOf .text) :
    ∃ text, value = .text text := by
  cases value with
  | text text => exact ⟨text, rfl⟩
  | _ => cases fits

theorem exists_order_of_isOf {left right : Value} (leftFits : left.isOf domain)
    (rightFits : right.isOf domain) : ∃ ordering, left.order right = .ok ordering := by
  cases domain with
  | number =>
      cases left with
      | text | tuple => cases leftFits
      | _ =>
          cases right with
          | text | tuple => cases rightFits
          | _ => exact ⟨_, rfl⟩
  | text =>
      rcases Value.exists_text_of_isOf leftFits with ⟨leftText, rfl⟩
      rcases Value.exists_text_of_isOf rightFits with ⟨rightText, rfl⟩
      exact ⟨compare leftText rightText, rfl⟩

theorem exists_order_of_fits {left right : Condition} {leftValue rightValue : Value}
    (leftFound : left.value facts = .ok leftValue)
    (rightFound : right.value facts = .ok rightValue)
    (fits : (left.isOf .number && right.isOf .number) || (left.isOf .text && right.isOf .text)) :
    ∃ ordering, leftValue.order rightValue = .ok ordering := by
  rw [Bool.or_eq_true, Bool.and_eq_true, Bool.and_eq_true] at fits
  rcases fits with ⟨leftFits, rightFits⟩ | ⟨leftFits, rightFits⟩
  · exact exists_order_of_isOf (isOf_value left leftFits leftFound)
      (isOf_value right rightFits rightFound)
  · exact exists_order_of_isOf (isOf_value left leftFits leftFound)
      (isOf_value right rightFits rightFound)

theorem exists_memberOf_of_fits {left right : Condition} {leftValue rightValue : Value}
    (leftFound : left.value facts = .ok leftValue)
    (rightFound : right.value facts = .ok rightValue)
    (fits : right.isTuple || (left.isOf .text && right.isOf .text)) :
    ∃ truth, leftValue.memberOf rightValue = .ok truth := by
  rw [Bool.or_eq_true, Bool.and_eq_true] at fits
  rcases fits with isTuple | ⟨leftFits, rightFits⟩
  · cases right with
    | tuple items =>
        rw [value] at rightFound
        rcases exists_of_bind_eq_ok rightFound with ⟨itemValues, _, result⟩
        cases result
        exact ⟨_, Value.memberOf.eq_1 leftValue itemValues⟩
    | _ => cases isTuple
  · rcases Value.exists_text_of_isOf (isOf_value left leftFits leftFound) with ⟨part, rfl⟩
    rcases Value.exists_text_of_isOf (isOf_value right rightFits rightFound) with ⟨whole, rfl⟩
    exact ⟨_, rfl⟩

/-- A relation that fits two operands has an answer for their values. -/
theorem exists_testStep_of_fits {left right : Condition} {relation : Relation}
    {leftValue rightValue : Value} (relationFits : fits left right relation)
    (leftFound : left.value facts = .ok leftValue)
    (rightFound : right.value facts = .ok rightValue) :
    ∃ truth, testStep relation leftValue rightValue = .ok truth := by
  cases relation with
  | equal | different => exact ⟨_, rfl⟩
  | less | atMost | greater | atLeast =>
      rcases exists_order_of_fits leftFound rightFound relationFits with ⟨ordering, ordered⟩
      exact ⟨_, testStep_of_ordered ordered _ rfl⟩
  | member | notMember =>
      rcases exists_memberOf_of_fits leftFound rightFound relationFits with ⟨truth, found⟩
      rw [testStep, holds, found]
      exact ⟨_, rfl⟩

end Values

/-! ## Conditions that pass the check -/

section Checked

variable {facts : Facts}

mutual
theorem exists_value : (condition : Condition) → condition.isChecked →
    Known facts condition.names → ∃ value, condition.value facts = .ok value
  | .name word, _, known => by
      rcases Option.isSome_iff_exists.mp (known word List.mem_cons_self) with ⟨fact, found⟩
      exact ⟨.ofFact fact, by rw [value, found]⟩
  | .integer _, _, _ | .text _, _, _ | .boolean _, _, _ => ⟨_, by rw [value]⟩
  | .tuple items, checked, known => by
      rcases exists_values items checked known with ⟨itemValues, found⟩
      exact ⟨.tuple itemValues, by rw [value, found]; rfl⟩
  | .negation operand, checked, known => by
      rcases exists_value operand checked known with ⟨operandValue, found⟩
      exact ⟨.boolean !operandValue.isTrue, by rw [value, found]; rfl⟩
  | .conjunction operands, checked, known | .disjunction operands, checked, known => by
      rw [value]
      exact exists_deciding _ _ operands checked known
  | .comparison first steps, checked, known => by
      rw [isChecked, Bool.and_eq_true] at checked
      rw [names, Known, List.forall_mem_append] at known
      rcases exists_value first checked.1 known.1 with ⟨left, found⟩
      rcases exists_chain found steps checked.2 known.2 with ⟨truth, chained⟩
      exact ⟨.boolean truth, by rw [value, found, ok_bind, chained]; rfl⟩

theorem exists_values : (conditions : List Condition) → allChecked conditions →
    Known facts (namesOfAll conditions) → ∃ results, values facts conditions = .ok results
  | [], _, _ => ⟨[], by rw [values]⟩
  | head :: tail, checked, known => by
      rw [allChecked, Bool.and_eq_true] at checked
      rw [namesOfAll, Known, List.forall_mem_append] at known
      rcases exists_value head checked.1 known.1 with ⟨headValue, headFound⟩
      rcases exists_values tail checked.2 known.2 with ⟨tailValues, tailFound⟩
      exact ⟨headValue :: tailValues, by rw [values, headFound, ok_bind, tailFound]; rfl⟩

theorem exists_deciding (decisive : Bool) (last : Value) : (operands : List Condition) →
    allChecked operands → Known facts (namesOfAll operands) →
      ∃ value, deciding facts decisive last operands = .ok value
  | [], _, _ => ⟨last, by rw [deciding]⟩
  | head :: tail, checked, known => by
      rw [allChecked, Bool.and_eq_true] at checked
      rw [namesOfAll, Known, List.forall_mem_append] at known
      rcases exists_value head checked.1 known.1 with ⟨headValue, headFound⟩
      rw [deciding, headFound, ok_bind]
      split
      · exact ⟨headValue, rfl⟩
      · exact exists_deciding decisive headValue tail checked.2 known.2

theorem exists_chain {first : Condition} {left : Value}
    (firstFound : first.value facts = .ok left) : (steps : List (Relation × Condition)) →
      stepsChecked first steps → Known facts (namesOfSteps steps) →
        ∃ truth, chain facts left steps = .ok truth
  | [], _, _ => ⟨true, by rw [chain]⟩
  | (relation, operand) :: tail, checked, known => by
      rw [stepsChecked, Bool.and_eq_true, Bool.and_eq_true] at checked
      rw [namesOfSteps, Known, List.forall_mem_append] at known
      rcases exists_value operand checked.1.2 known.1 with ⟨right, found⟩
      rcases exists_testStep_of_fits checked.1.1 firstFound found with ⟨truth, answered⟩
      rw [chain, found, ok_bind, answered, ok_bind]
      cases truth with
      | false => exact ⟨false, rfl⟩
      | true => exact exists_chain found tail checked.2 known.2
end

end Checked

/-- A condition that passes the check has a value for all facts that include its names. The
facts of every target have the same names, so if it has no others it fails for no target. -/
theorem checked_condition_has_value {condition : Condition} (checked : condition.isChecked) :
    (∀ facts : Facts, (∀ word ∈ condition.names, (facts.lookup word).isSome) →
      ∃ value, condition.evaluate facts = .ok value) ∧
    ((∀ word ∈ condition.names, word ∈ Facts.names) → ∀ target : Target,
      ∃ value, condition.evaluate target.facts = .ok value) := by
  have always : ∀ facts : Facts, Known facts condition.names →
      ∃ value, condition.evaluate facts = .ok value := by
    intro facts known
    rw [evaluate_eq_value known]
    exact exists_value condition checked known
  refine ⟨always, ?_⟩
  intro named target
  apply always
  intro word member
  exact (target.isSome_lookup_facts_iff word).mpr (named word member)

/-- Facts and connectives of facts count as numbers in each of the comparisons, a tuple holds
any values, and texts are looked for in a connective of texts. -/
theorem checked_condition_has_value_mixed :
    let condition : Condition := .disjunction [
      .comparison (.integer 20) [(.atMost, .name "py"), (.less, .integer 30)],
      .comparison (.disjunction [.name "win", .name "np"]) [(.atLeast, .negation (.text ""))],
      .comparison (.text "nu") [(.member, .disjunction [.text "", .text "linux"]),
        (.notMember, .tuple [.name "np", .text "a"]), (.equal, .integer 0)]]
    (condition.isChecked ∧
      (∀ word ∈ condition.names, ((Target.facts ⟨"win-64", 27, 19⟩).lookup word).isSome) ∧
      ∃ value, condition.evaluate (Target.facts ⟨"win-64", 27, 19⟩) = .ok value) ∧
    ((∀ word ∈ condition.names, word ∈ Facts.names) ∧
      ∀ target : Target, ∃ value, condition.evaluate target.facts = .ok value) := by
  intro condition
  have checked : condition.isChecked := rfl
  have known : ∀ word ∈ condition.names,
      ((Target.facts ⟨"win-64", 27, 19⟩).lookup word).isSome := by decide
  have named : ∀ word ∈ condition.names, word ∈ Facts.names := by decide
  exact ⟨⟨checked, known, (checked_condition_has_value checked).1 _ known⟩, named,
    (checked_condition_has_value checked).2 named⟩

end Condition

end PackageRecipe
