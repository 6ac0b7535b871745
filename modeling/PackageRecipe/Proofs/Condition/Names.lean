import PackageRecipe.Proofs.Condition.Grammar

/-!
The names of a condition are the name tokens that it was read from, in order. No
production drops, repeats or moves a name.
-/

namespace PackageRecipe.Condition

def Token.name? : Token → Option String
  | .name word => some word
  | _ => none

/-- The names of what a derivation means. -/
def Category.names : (category : Category) → category.Meaning → List String
  | .level _, condition => condition.names
  | .operands _, conditions | .items, conditions => namesOfAll conditions
  | .steps, tests => namesOfSteps tests

theorem names_join (connective : Connective) (operands : List Condition) :
    (Reader.join connective.join operands).names = namesOfAll operands := by
  rcases operands with _ | ⟨first, _ | ⟨second, others⟩⟩
  · cases connective <;> rfl
  · simp [Reader.join, namesOfAll]
  · cases connective <;> rfl

theorem names_compared (first : Condition) (steps : List (Relation × Condition)) :
    (Reader.compared first steps).names = first.names ++ namesOfSteps steps := by
  cases steps with
  | nil => simp [Reader.compared, namesOfSteps]
  | cons head tail => rfl

theorem name?_connective (connective : Connective) : connective.token.name? = none := by
  cases connective <;> rfl

theorem filterMap_name?_relationTokens (relation : Relation) :
    (relationTokens relation).filterMap Token.name? = [] := by
  cases relation <;> rfl

/-- The names of a condition are the name tokens of its derivation, in order and with
repeats. -/
theorem Derivation.names_meaning : {category : Category} →
    (derivation : Derivation category) →
      category.names derivation.meaning = derivation.yield.filterMap Token.name?
  | _, .junction connective first others => by
      have firstNames := names_meaning first
      have othersNames := names_meaning others
      rw [Category.names, meaning_junction, names_join, namesOfAll, yield,
        List.filterMap_append, ← firstNames, ← othersNames]
      rfl
  | _, .noOperand _ => rfl
  | _, .nextOperand connective head tail => by
      have headNames := names_meaning head
      have tailNames := names_meaning tail
      rw [yield, List.filterMap_cons_none (name?_connective connective),
        List.filterMap_append, ← headNames, ← tailNames]
      rfl
  | _, .negated inner => names_meaning inner
  | _, .plain inner => names_meaning inner
  | _, .comparison first others => by
      have firstNames := names_meaning first
      have othersNames := names_meaning others
      rw [Category.names, meaning_comparison, names_compared, yield,
        List.filterMap_append, ← firstNames, ← othersNames]
      rfl
  | _, .noStep => rfl
  | _, .nextStep relation head tail => by
      have headNames := names_meaning head
      have tailNames := names_meaning tail
      rw [yield, List.filterMap_append, filterMap_name?_relationTokens,
        List.filterMap_append, ← headNames, ← tailNames]
      rfl
  | _, .name _ => rfl
  | _, .integer _ => rfl
  | _, .text _ => rfl
  | _, .boolean _ => rfl
  | _, .parenthesized inner => by
      have innerNames := names_meaning inner
      rw [yield, List.filterMap_cons_none rfl, List.filterMap_append, ← innerNames]
      exact (List.append_nil _).symm
  | _, .emptyTuple => rfl
  | _, .tuple first others => by
      have firstNames := names_meaning first
      have othersNames := names_meaning others
      rw [yield, List.filterMap_cons_none rfl, List.filterMap_append,
        List.filterMap_append, ← firstNames, ← othersNames]
      simp [Category.names, meaning, names, namesOfAll, Token.name?]
  | _, .lastComma => rfl
  | _, .lastItem item => by
      have itemNames := names_meaning item
      rw [yield, List.filterMap_cons_none rfl, ← itemNames]
      exact List.append_nil _
  | _, .nextItem head tail => by
      have headNames := names_meaning head
      have tailNames := names_meaning tail
      rw [yield, List.filterMap_cons_none rfl, List.filterMap_append, ← headNames,
        ← tailNames]
      rfl

end PackageRecipe.Condition
