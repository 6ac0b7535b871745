import PackageRecipe.Condition.Evaluation
import PackageRecipe.Proofs.Outcome
import PackageRecipe.Proofs.Target

/-!
How evaluation fails. A name that is no fact is found before anything is evaluated, so
once all names are facts, values of unrelated kinds are the only cause left, wherever
evaluation stops.
-/

namespace PackageRecipe.Condition

/-- Whether a cause lies in the values of operands. All others lie in the text of the
condition and in the names of the facts. -/
def Error.isMismatch : Error → Bool
  | .mismatch _ _ _ => true
  | .malformed _ _ | .unknownName _ => false

/-- A result is a value, or a mismatch of values. -/
def IsTyped {α : Type} (result : Except Error α) : Prop :=
  ∀ error, result = .error error → error.isMismatch

namespace IsTyped

theorem ok {α : Type} (value : α) : IsTyped (.ok value) := by
  rintro _ ⟨⟩

theorem bind {α β : Type} {result : Except Error α} {next : α → Except Error β}
    (typed : IsTyped result) (nextTyped : ∀ value, IsTyped (next value)) :
    IsTyped (result >>= next) := by
  cases result with
  | error cause =>
      rintro _ ⟨⟩
      exact typed cause rfl
  | ok value => exact nextTyped value

end IsTyped

theorem isTyped_testStep (relation : Relation) (left right : Value) :
    IsTyped (testStep relation left right) := by
  rw [testStep]
  cases holds relation left right with
  | error kinds =>
      rintro _ ⟨⟩
      rfl
  | ok truth => exact .ok truth

section Known

variable {facts : Facts}

def Known (facts : Facts) (words : List String) : Prop :=
  ∀ word ∈ words, (facts.lookup word).isSome

mutual
theorem isTyped_value : (condition : Condition) → Known facts condition.names →
    IsTyped (condition.value facts)
  | .name word, known => by
      rcases Option.isSome_iff_exists.mp (known word List.mem_cons_self) with ⟨fact, found⟩
      rw [value, found]
      exact .ok _
  | .integer _, _ | .text _, _ | .boolean _, _ => by
      rw [value]
      exact .ok _
  | .tuple items, known => by
      rw [value]
      exact (isTyped_values items known).bind fun _ => .ok _
  | .negation operand, known => by
      rw [value]
      exact (isTyped_value operand known).bind fun _ => .ok _
  | .conjunction operands, known | .disjunction operands, known => by
      rw [value]
      exact isTyped_deciding _ _ operands known
  | .comparison first steps, known => by
      rw [names, Known, List.forall_mem_append] at known
      rw [value]
      exact (isTyped_value first known.1).bind fun left =>
        (isTyped_chain left steps known.2).bind fun _ => .ok _

theorem isTyped_values : (conditions : List Condition) →
    Known facts (namesOfAll conditions) → IsTyped (values facts conditions)
  | [], _ => by
      rw [values]
      exact .ok _
  | head :: tail, known => by
      rw [namesOfAll, Known, List.forall_mem_append] at known
      rw [values]
      exact (isTyped_value head known.1).bind fun _ =>
        (isTyped_values tail known.2).bind fun _ => .ok _

theorem isTyped_deciding (decisive : Bool) (last : Value) :
    (operands : List Condition) → Known facts (namesOfAll operands) →
      IsTyped (deciding facts decisive last operands)
  | [], _ => by
      rw [deciding]
      exact .ok _
  | head :: tail, known => by
      rw [namesOfAll, Known, List.forall_mem_append] at known
      rw [deciding]
      refine (isTyped_value head known.1).bind fun value => ?_
      split
      · exact .ok value
      · exact isTyped_deciding decisive value tail known.2

theorem isTyped_chain (left : Value) : (steps : List (Relation × Condition)) →
    Known facts (namesOfSteps steps) → IsTyped (chain facts left steps)
  | [], _ => by
      rw [chain]
      exact .ok _
  | (relation, operand) :: tail, known => by
      rw [namesOfSteps, Known, List.forall_mem_append] at known
      rw [chain]
      refine (isTyped_value operand known.1).bind fun right => ?_
      refine (isTyped_testStep relation left right).bind fun truth => ?_
      cases truth with
      | false => exact .ok false
      | true => exact isTyped_chain right tail known.2
end

end Known

theorem known_of_find?_eq_none {facts : Facts} {words : List String}
    (allFacts : (words.find? fun word => (facts.lookup word).isNone) = none) :
    Known facts words := by
  intro word member
  have found := List.find?_eq_none.mp allFacts word member
  rwa [Option.isNone_iff_eq_none, ← ne_eq, Option.ne_none_iff_isSome] at found

/-- Evaluation gives a condition its value if all its names are facts. -/
theorem evaluate_eq_value {facts : Facts} {condition : Condition}
    (known : Known facts condition.names) : condition.evaluate facts = condition.value facts := by
  have allFacts : (condition.names.find? fun word => (facts.lookup word).isNone) = none := by
    rw [List.find?_eq_none]
    intro word member
    rw [Option.isNone_iff_eq_none, ← Option.not_isSome_iff_eq_none]
    exact not_not_intro (known word member)
  rw [evaluate, allFacts]

theorem isTyped_evaluate {facts : Facts} {condition : Condition}
    (known : Known facts condition.names) : IsTyped (condition.evaluate facts) := by
  rw [evaluate_eq_value known]
  exact isTyped_value condition known

theorem exists_evaluate_eq_error {facts : Facts} {condition : Condition} {word : String}
    (member : word ∈ condition.names) (unknown : (facts.lookup word).isNone) :
    ∃ error, condition.evaluate facts = .error error := by
  rw [evaluate]
  cases found : condition.names.find? fun word => (facts.lookup word).isNone with
  | some first => exact ⟨_, rfl⟩
  | none => exact absurd unknown (List.find?_eq_none.mp found word member)

/-- The only unknown name that evaluation reports is the first one. -/
theorem evaluate_eq_unknownName_iff {facts : Facts} {condition : Condition} {word : String} :
    condition.evaluate facts = .error (.unknownName word) ↔
      (condition.names.find? fun word => (facts.lookup word).isNone) = some word := by
  rw [evaluate]
  cases found : condition.names.find? fun word => (facts.lookup word).isNone with
  | some first => simp
  | none =>
      simp only [reduceCtorEq, iff_false]
      intro fails
      have mismatch := isTyped_value condition (known_of_find?_eq_none found) _ fails
      cases mismatch

/-- The first name that is no fact is the same whatever the facts are. -/
theorem evaluate_eq_error_of_sameNames {first second : Facts} {condition : Condition}
    {error : Error} (same : first.SameNames second)
    (fails : condition.evaluate first = .error error) (definite : error.isMismatch = false) :
    condition.evaluate second = .error error := by
  rw [evaluate] at fails ⊢
  rw [← funext same]
  cases unknown : condition.names.find? fun word => (first.lookup word).isNone with
  | some word => rwa [unknown] at fails
  | none =>
      rw [unknown] at fails
      have mismatch :=
        isTyped_value condition (known_of_find?_eq_none unknown) error fails
      rw [definite] at mismatch
      cases mismatch

end PackageRecipe.Condition
