import PackageRecipe.Condition.Evaluation
import PackageRecipe.Proofs.Outcome

/-!
What a condition depends on. Facts that agree on its names give it the same value or the
same error, whatever else they say.
-/

namespace PackageRecipe

/-- Each of the words has the same fact in both, or none in either. -/
def Facts.AgreeOn (words : List String) (first second : Facts) : Prop :=
  ∀ word ∈ words, first.lookup word = second.lookup word

theorem Facts.agreeOn_append_iff {words others : List String} {first second : Facts} :
    AgreeOn (words ++ others) first second ↔
      AgreeOn words first second ∧ AgreeOn others first second :=
  List.forall_mem_append

namespace Condition

open Facts (AgreeOn agreeOn_append_iff)

variable {first second : Facts}

-- By recursion on the condition, as it is evaluated: each operand has its share of the
-- names, and the value of one operand decides which operand comes next.
mutual
theorem value_congr : (condition : Condition) → AgreeOn condition.names first second →
    condition.value first = condition.value second
  | .name word, agree => by
      rw [value, value, agree word List.mem_cons_self]
  | .integer _, _ | .text _, _ | .boolean _, _ => by
      rw [value, value]
  | .tuple items, agree => by
      rw [value, value, values_congr items agree]
  | .negation operand, agree => by
      rw [value, value, value_congr operand agree]
  | .conjunction operands, agree | .disjunction operands, agree => by
      rw [value, value, deciding_congr _ _ operands agree]
  | .comparison head steps, agree => by
      rw [names, agreeOn_append_iff] at agree
      rw [value, value, value_congr head agree.1]
      apply bind_congr
      intro left
      rw [chain_congr left steps agree.2]

theorem values_congr : (conditions : List Condition) →
    AgreeOn (namesOfAll conditions) first second →
      values first conditions = values second conditions
  | [], _ => by
      rw [values, values]
  | head :: tail, agree => by
      rw [namesOfAll, agreeOn_append_iff] at agree
      rw [values, values, value_congr head agree.1, values_congr tail agree.2]

theorem deciding_congr (decisive : Bool) (last : Value) : (operands : List Condition) →
    AgreeOn (namesOfAll operands) first second →
      deciding first decisive last operands = deciding second decisive last operands
  | [], _ => by
      rw [deciding, deciding]
  | head :: tail, agree => by
      rw [namesOfAll, agreeOn_append_iff] at agree
      rw [deciding, deciding, value_congr head agree.1]
      apply bind_congr
      intro value
      rw [deciding_congr decisive value tail agree.2]

theorem chain_congr (left : Value) : (steps : List (Relation × Condition)) →
    AgreeOn (namesOfSteps steps) first second →
      chain first left steps = chain second left steps
  | [], _ => by
      rw [chain, chain]
  | (relation, operand) :: tail, agree => by
      rw [namesOfSteps, agreeOn_append_iff] at agree
      rw [chain, chain, value_congr operand agree.1]
      apply bind_congr
      intro right
      rw [chain_congr right tail agree.2]
end

/-- The names are looked up in the facts before anything is evaluated, and no more of
them matters than which is the first that is no fact. -/
theorem evaluate_eq_of_value_eq {condition other : Condition}
    (unknown : (condition.names.find? fun word => (first.lookup word).isNone) =
      other.names.find? fun word => (second.lookup word).isNone)
    (same : condition.value first = other.value second) :
    condition.evaluate first = other.evaluate second := by
  rw [evaluate, evaluate, unknown, same]

theorem evaluate_congr {condition : Condition} (agree : AgreeOn condition.names first second) :
    condition.evaluate first = condition.evaluate second := by
  apply evaluate_eq_of_value_eq
  · rw [← List.head?_filter, ← List.head?_filter]
    apply congrArg List.head?
    apply List.filter_congr
    intro word member
    rw [agree word member]
  · exact value_congr condition agree

end Condition

end PackageRecipe
