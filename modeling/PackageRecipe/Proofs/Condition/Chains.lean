import PackageRecipe.Proofs.Condition.Relevance

/-!
Comparisons of several steps. A chain has the value or the error of the conjunction of
its links, although the conjunction evaluates the operands between two links twice.
-/

namespace PackageRecipe.Condition

/-- The comparisons of one step each between the operands that stand side by side. -/
def links (first : Condition) : List (Relation × Condition) → List Condition
  | [] => []
  | (relation, operand) :: tail =>
      .comparison first [(relation, operand)] :: links operand tail

example : links (.integer 26) [(.atMost, .name "py"), (.less, .integer 30)] =
    [.comparison (.integer 26) [(.atMost, .name "py")],
      .comparison (.name "py") [(.less, .integer 30)]] := rfl

section Links

variable {facts : Facts}

theorem value_link {first operand : Condition} {left : Value}
    (evaluated : first.value facts = .ok left) (relation : Relation) :
    (comparison first [(relation, operand)]).value facts = do
      let right ← operand.value facts
      return .boolean (← testStep relation left right) := by
  rw [value, evaluated, ok_bind, chain]
  cases operand.value facts with
  | error cause => rfl
  | ok right =>
      rw [ok_bind, ok_bind]
      cases testStep relation left right with
      | error cause => rfl
      | ok truth => cases truth <;> rfl

theorem value_comparison_of_error {first : Condition} {error : Error}
    (fails : first.value facts = .error error) (steps : List (Relation × Condition)) :
    (comparison first steps).value facts = .error error := by
  rw [value, fails, error_bind]

/-- The links decide a conjunction as the steps decide the chain: a link that holds has the
value that the conjunction started with. -/
theorem deciding_links {first : Condition} {left : Value}
    (evaluated : first.value facts = .ok left) (steps : List (Relation × Condition)) :
    deciding facts false (.boolean true) (links first steps) = do
      return .boolean (← chain facts left steps) := by
  induction steps generalizing first left with
  | nil =>
      rw [links, deciding, chain]
      rfl
  | cons step steps induction =>
      rw [links, deciding, value_link evaluated, chain]
      cases found : step.2.value facts with
      | error cause => rfl
      | ok right =>
          rw [ok_bind, ok_bind]
          cases testStep step.1 left right with
          | error cause => rfl
          | ok truth =>
              cases truth with
              | false => rfl
              | true => exact induction found

end Links

theorem find?_names_links (unknown : String → Bool) (first : Condition)
    (step : Relation × Condition) (steps : List (Relation × Condition)) :
    (namesOfAll (links first (step :: steps))).find? unknown =
      (first.names ++ namesOfSteps (step :: steps)).find? unknown := by
  induction steps generalizing first step with
  | nil => simp [links, namesOfAll, namesOfSteps, names]
  | cons next steps induction =>
      have again : ∀ found rest : Option String, found.or (found.or rest) = found.or rest := by
        intro found rest
        rw [← Option.or_assoc, Option.or_self]
      rw [links, namesOfAll, List.find?_append, induction step.2 next]
      simp only [names, namesOfSteps, List.append_nil, List.find?_append, Option.or_assoc,
        again]

/-- A comparison of one or more steps has the same value, or the same error, as the
conjunction of the comparisons between operands that stand side by side. -/
theorem comparison_means_conjunction (facts : Facts) (first : Condition)
    (step : Relation × Condition) (steps : List (Relation × Condition)) :
    (comparison first (step :: steps)).value facts =
        (conjunction (links first (step :: steps))).value facts ∧
      (comparison first (step :: steps)).evaluate facts =
        (conjunction (links first (step :: steps))).evaluate facts := by
  have same : (comparison first (step :: steps)).value facts =
      (conjunction (links first (step :: steps))).value facts := by
    cases evaluated : first.value facts with
    | error cause =>
        have fails : (comparison first [step]).value facts = .error cause :=
          value_comparison_of_error evaluated [step]
        rw [value_comparison_of_error evaluated, value, links, deciding, fails, error_bind]
    | ok left =>
        calc (comparison first (step :: steps)).value facts
          _ = (do return .boolean (← chain facts left (step :: steps))) := by
            rw [value, evaluated, ok_bind]
          _ = deciding facts false (.boolean true) (links first (step :: steps)) :=
            (deciding_links evaluated (step :: steps)).symm
          _ = (conjunction (links first (step :: steps))).value facts := by
            rw [value]
  refine ⟨same, evaluate_eq_of_value_eq ?_ same⟩
  exact (find?_names_links _ first step steps).symm

end PackageRecipe.Condition
