import PackageRecipe.Condition.Evaluation
import PackageRecipe.Proofs.Condition.Grammar
import PackageRecipe.Proofs.Outcome

/-!
The truth of junctions. Evaluation stops at the first operand that decides, and gives
its value; if all operands have an answer, that value counts as true exactly when the
junction of the answers does, whichever operand it came from.
-/

namespace PackageRecipe.Condition

/-- Evaluation gives the condition a value, which counts as true or not. -/
def Answers (facts : Facts) (condition : Condition) (truth : Bool) : Prop :=
  ∃ value, condition.value facts = .ok value ∧ value.isTrue = truth

theorem Answers.unique {facts : Facts} {condition : Condition} {left right : Bool}
    (leftAnswer : condition.Answers facts left)
    (rightAnswer : condition.Answers facts right) : left = right := by
  rcases leftAnswer with ⟨value, evaluated, rfl⟩
  rcases rightAnswer with ⟨other, otherEvaluated, rfl⟩
  cases evaluated.symm.trans otherEvaluated
  rfl

theorem Answers.negation {facts : Facts} {condition : Condition} {truth : Bool}
    (answer : condition.Answers facts truth) :
    (Condition.negation condition).Answers facts (!truth) := by
  rcases answer with ⟨operand, evaluated, rfl⟩
  refine ⟨.boolean !operand.isTrue, ?_, rfl⟩
  rw [value, evaluated, ok_bind]
  rfl

namespace Connective

/-- The truth of an operand that decides a junction. -/
def decisive : Connective → Bool
  | .disjunction => true
  | .conjunction => false

def test : Connective → Bool → Bool → Bool
  | .disjunction => or
  | .conjunction => and

theorem test_eq_decisive_iff (connective : Connective) (left right : Bool) :
    connective.test left right = connective.decisive ↔
      left = connective.decisive ∨ right = connective.decisive := by
  cases connective <;> cases left <;> simp [test, decisive]

theorem value_join (connective : Connective) (facts : Facts) (operands : List Condition) :
    (connective.join operands).value facts =
      deciding facts connective.decisive (.boolean !connective.decisive) operands := by
  cases connective <;> simp [join, value, decisive]

end Connective

theorem eq_of_eq_iff_eq {left right decisive : Bool}
    (same : left = decisive ↔ right = decisive) : left = right := by
  cases decisive <;> simpa using same

/-- All operands of a junction have an answer, and they decide its truth. -/
structure OperandsAnswer (facts : Facts) (connective : Connective)
    (operands : List Condition) (truth : Bool) : Prop where
  each : ∀ operand ∈ operands, ∃ truth, operand.Answers facts truth
  decided : truth = connective.decisive ↔
    ∃ operand ∈ operands, operand.Answers facts connective.decisive

section Junctions

variable {facts : Facts} {connective : Connective}

theorem deciding_of_answers {decisive : Bool} {operands : List Condition}
    (each : ∀ operand ∈ operands, ∃ truth, operand.Answers facts truth) {last : Value}
    (undecided : last.isTrue ≠ decisive) :
    ∃ value, deciding facts decisive last operands = .ok value ∧
      (value.isTrue = decisive ↔
        ∃ operand ∈ operands, operand.Answers facts decisive) := by
  induction operands generalizing last with
  | nil => exact ⟨last, by rw [deciding], by simpa using undecided⟩
  | cons head tail induction =>
      rcases each head List.mem_cons_self with ⟨_, value, evaluated, _⟩
      have tailEach : ∀ operand ∈ tail, ∃ truth, operand.Answers facts truth :=
        fun operand member => each operand (List.mem_cons_of_mem head member)
      by_cases decides : value.isTrue = decisive
      · refine ⟨value, ?_, ?_⟩
        · rw [deciding, evaluated, ok_bind, if_pos decides]
          rfl
        · exact iff_of_true decides ⟨head, List.mem_cons_self, value, evaluated, decides⟩
      · rcases induction tailEach decides with ⟨result, equal, decided⟩
        refine ⟨result, ?_, ?_⟩
        · rw [deciding, evaluated, ok_bind, if_neg decides]
          exact equal
        · have headNot : ¬head.Answers facts decisive :=
            fun answer => decides (Answers.unique ⟨value, evaluated, rfl⟩ answer)
          simp [decided, headNot]

namespace OperandsAnswer

theorem singleton {condition : Condition} {truth : Bool}
    (answer : condition.Answers facts truth) :
    OperandsAnswer facts connective [condition] truth where
  each := by
    intro operand member
    rw [List.mem_singleton.mp member]
    exact ⟨truth, answer⟩
  decided := by
    constructor
    · rintro rfl
      exact ⟨condition, List.mem_singleton_self condition, answer⟩
    · rintro ⟨operand, member, decides⟩
      rw [List.mem_singleton.mp member] at decides
      exact answer.unique decides

theorem append {left right : List Condition} {leftTruth rightTruth : Bool}
    (leftAnswer : OperandsAnswer facts connective left leftTruth)
    (rightAnswer : OperandsAnswer facts connective right rightTruth) :
    OperandsAnswer facts connective (left ++ right)
      (connective.test leftTruth rightTruth) where
  each := by
    intro operand member
    rcases List.mem_append.mp member with member | member
    · exact leftAnswer.each operand member
    · exact rightAnswer.each operand member
  decided := by
    rw [Connective.test_eq_decisive_iff, leftAnswer.decided, rightAnswer.decided]
    simp only [List.mem_append, or_and_right, exists_or]

/-- A junction of operands has the answer that they decide, and so has a single operand
in its place. -/
theorem join {operands : List Condition} {truth : Bool}
    (answer : OperandsAnswer facts connective operands truth) :
    (Reader.join connective.join operands).Answers facts truth := by
  have joined : (connective.join operands).Answers facts truth := by
    have undecided :
        (Value.boolean !connective.decisive).isTrue ≠ connective.decisive := by
      simp [Value.isTrue]
    rcases deciding_of_answers answer.each undecided with ⟨value, equal, decided⟩
    exact ⟨value, (connective.value_join facts operands).trans equal,
      eq_of_eq_iff_eq (decided.trans answer.decided.symm)⟩
  rcases operands with _ | ⟨first, _ | ⟨second, others⟩⟩
  · exact joined
  · rcases answer.each first List.mem_cons_self with ⟨firstTruth, firstAnswer⟩
    have alone : OperandsAnswer facts connective [first] firstTruth :=
      singleton firstAnswer
    have same : firstTruth = truth :=
      eq_of_eq_iff_eq (alone.decided.trans answer.decided.symm)
    exact same ▸ firstAnswer
  · exact joined

end OperandsAnswer

end Junctions

end PackageRecipe.Condition
