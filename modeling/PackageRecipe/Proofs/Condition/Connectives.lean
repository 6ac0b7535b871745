import PackageRecipe.Proofs.Condition.Answers
import PackageRecipe.Proofs.Condition.Failures
import PackageRecipe.Proofs.Condition.Relevance

/-!
Laws of the connectives. Evaluation stops at the operand that decides a junction, and has
the value or the error of that operand. Nested junctions of one connective can be merged,
a negated junction is the dual junction of the negations, and what stands after the
deciding operand is free.
-/

namespace PackageRecipe.Condition

namespace Connective

def dual : Connective → Connective
  | .disjunction => .conjunction
  | .conjunction => .disjunction

theorem decisive_dual (connective : Connective) :
    connective.dual.decisive = !connective.decisive := by
  cases connective <;> rfl

end Connective

theorem namesOfAll_eq_flatMap (conditions : List Condition) :
    namesOfAll conditions = conditions.flatMap names := by
  induction conditions with
  | nil => rfl
  | cons head tail induction => rw [namesOfAll, induction, List.flatMap_cons]

@[simp] theorem Connective.names_join (connective : Connective) (operands : List Condition) :
    (connective.join operands).names = operands.flatMap names := by
  cases connective <;> exact namesOfAll_eq_flatMap operands

section Deciding

variable {facts : Facts} {decisive : Bool} {last : Value}

/-- Operands after others are evaluated only if those are undecided. -/
theorem deciding_append (left right : List Condition) (undecided : last.isTrue ≠ decisive) :
    deciding facts decisive last (left ++ right) =
      deciding facts decisive last left >>= fun value =>
        if value.isTrue = decisive then .ok value else deciding facts decisive value right := by
  induction left generalizing last with
  | nil =>
      rw [deciding, ok_bind, if_neg undecided]
      rfl
  | cons head tail induction =>
      rw [List.cons_append, deciding, deciding]
      cases head.value facts with
      | error cause => rfl
      | ok value =>
          by_cases decides : value.isTrue = decisive
          · simp only [ok_bind, if_pos decides]
            exact (if_pos decides).symm
          · simp only [ok_bind, if_neg decides]
            exact induction decides

/-- The value that stands in for no operand is replaced by that of the first one. -/
theorem deciding_of_ne_nil {operands : List Condition} (notEmpty : operands ≠ [])
    (other : Value) :
    deciding facts decisive last operands = deciding facts decisive other operands := by
  cases operands with
  | nil => exact absurd rfl notEmpty
  | cons head tail => rw [deciding, deciding]

end Deciding

section Junctions

variable {facts : Facts} {connective : Connective}

/-- Before the first operand nothing is decided. -/
theorem isTrue_boolean_ne (truth : Bool) : (Value.boolean !truth).isTrue ≠ truth := by
  simp [Value.isTrue]

theorem deciding_join_cons {last : Value} {inner : List Condition} (notEmpty : inner ≠ [])
    (after : List Condition) (undecided : last.isTrue ≠ connective.decisive) :
    deciding facts connective.decisive last (connective.join inner :: after) =
      deciding facts connective.decisive last (inner ++ after) := by
  rw [deciding, Connective.value_join, deciding_append inner after undecided,
    deciding_of_ne_nil notEmpty last]
  rfl

/-- A junction inside one of the same connective gives way to its operands. -/
theorem value_join_append (before : List Condition) {inner : List Condition}
    (notEmpty : inner ≠ []) (after : List Condition) :
    (connective.join (before ++ connective.join inner :: after)).value facts =
      (connective.join (before ++ (inner ++ after))).value facts := by
  have undecided := isTrue_boolean_ne connective.decisive
  rw [Connective.value_join, Connective.value_join, deciding_append before _ undecided,
    deciding_append before _ undecided]
  apply bind_congr
  intro value
  by_cases decides : value.isTrue = connective.decisive
  · rw [if_pos decides, if_pos decides]
  · rw [if_neg decides, if_neg decides, deciding_join_cons notEmpty after decides]

/-- Negated operands decide the dual way, with the negated value at every step. -/
theorem deciding_map_negation (decisive : Bool) (last : Value)
    (operands : List Condition) :
    deciding facts (!decisive) (.boolean !last.isTrue) (operands.map .negation) =
      deciding facts decisive last operands >>= fun value =>
        .ok (.boolean !value.isTrue) := by
  induction operands generalizing last with
  | nil =>
      rw [List.map_nil, deciding, deciding]
      rfl
  | cons head tail induction =>
      rw [List.map_cons, deciding, deciding, value]
      cases head.value facts with
      | error cause => rfl
      | ok value =>
          have decides_iff : (Value.boolean !value.isTrue).isTrue = !decisive ↔
              value.isTrue = decisive := by
            simp [Value.isTrue]
          by_cases decides : value.isTrue = decisive
          · have dual := decides_iff.mpr decides
            simp only [ok_bind, if_pos decides]
            exact if_pos dual
          · have dual := mt decides_iff.mp decides
            simp only [ok_bind, if_neg decides]
            exact (if_neg dual).trans (induction value)

theorem value_negation_join (operands : List Condition) :
    (negation (connective.join operands)).value facts =
      (connective.dual.join (operands.map .negation)).value facts := by
  have stepwise := @deciding_map_negation facts connective.decisive
    (.boolean !connective.decisive) operands
  rw [value, Connective.value_join, Connective.value_join, Connective.decisive_dual]
  exact stepwise.symm

/-- Evaluation of a junction does not go on after an operand, since that one has an
error or decides. -/
def Settles (facts : Facts) (connective : Connective) (operand : Condition) : Prop :=
  ∀ value, operand.value facts = .ok value → value.isTrue = connective.decisive

theorem Settles.deciding_eq {operand : Condition}
    (settles : Settles facts connective operand) (last : Value) (after : List Condition) :
    deciding facts connective.decisive last (operand :: after) = operand.value facts := by
  rw [deciding]
  cases evaluated : operand.value facts with
  | error cause => rfl
  | ok value => exact if_pos (settles value evaluated)

theorem Settles.value_join_eq {operand : Condition}
    (settles : Settles facts connective operand) (before after others : List Condition) :
    (connective.join (before ++ operand :: after)).value facts =
      (connective.join (before ++ operand :: others)).value facts := by
  have undecided := isTrue_boolean_ne connective.decisive
  rw [Connective.value_join, Connective.value_join, deciding_append before _ undecided,
    deciding_append before _ undecided]
  simp only [settles.deciding_eq]

end Junctions

/-- A junction inside a junction of the same connective gives way to its operands, at any
place among the others. A negated junction is the dual junction of the negated operands.
Where all names are facts, the operands after one that has an error or decides can be any
others. In all of this a condition keeps its value, and if it has none, its error. -/
theorem junction_laws (facts : Facts) (connective : Connective) :
    (∀ before inner after : List Condition, inner ≠ [] →
      (connective.join (before ++ connective.join inner :: after)).evaluate facts =
        (connective.join (before ++ (inner ++ after))).evaluate facts) ∧
    (∀ operands : List Condition,
      (negation (connective.join operands)).evaluate facts =
        (connective.dual.join (operands.map .negation)).evaluate facts) ∧
    (∀ (before : List Condition) (operand : Condition) (after others : List Condition),
      (∀ word ∈ (connective.join (before ++ operand :: after)).names,
        (facts.lookup word).isSome) →
      (∀ other ∈ others, ∀ word ∈ other.names, (facts.lookup word).isSome) →
      ((∃ error, operand.evaluate facts = .error error) ∨
        ∃ value, operand.evaluate facts = .ok value ∧
          value.isTrue = connective.decisive) →
      (connective.join (before ++ operand :: after)).evaluate facts =
        (connective.join (before ++ operand :: others)).evaluate facts) := by
  refine ⟨?merge, ?dualize, ?skip⟩
  case merge =>
    intro before inner after notEmpty
    apply evaluate_eq_of_value_eq
    · simp
    · exact value_join_append before notEmpty after
  case dualize =>
    intro operands
    apply evaluate_eq_of_value_eq
    · simp [names, List.flatMap_map]
    · exact value_negation_join operands
  case skip =>
    intro before operand after others known othersKnown stops
    have operandKnown : ∀ word ∈ operand.names, (facts.lookup word).isSome :=
      fun word member => known word (by simp [member])
    have replacedKnown : ∀ word ∈ (connective.join (before ++ operand :: others)).names,
        (facts.lookup word).isSome := by
      simp only [Connective.names_join, List.flatMap_append, List.flatMap_cons,
        List.forall_mem_append] at known ⊢
      refine ⟨known.1, operandKnown, ?_⟩
      intro word member
      rcases List.mem_flatMap.mp member with ⟨other, otherMember, named⟩
      exact othersKnown other otherMember word named
    have settles : Settles facts connective operand := by
      intro value evaluated
      rw [evaluate_eq_value operandKnown, evaluated] at stops
      rcases stops with ⟨_, ⟨⟩⟩ | ⟨_, ⟨⟩, decides⟩
      exact decides
    rw [evaluate_eq_value known, evaluate_eq_value replacedKnown]
    exact settles.value_join_eq before after others

/-- The operand without an answer is the error of the merged junction, and is never met
after one that decides. -/
theorem junction_laws_mismatch :
    let facts := Target.facts ⟨"linux-64", 27, 19⟩
    let unordered : Condition := .comparison (.text "a") [(.less, .integer 1)]
    ((conjunction [.name "py", .conjunction [.name "linux", unordered],
        .name "np"]).evaluate facts =
      (conjunction [.name "py", .name "linux", unordered, .name "np"]).evaluate facts ∧
      (conjunction [.name "py", .name "linux", unordered, .name "np"]).evaluate facts =
        .error (.mismatch .less .text .integer)) ∧
    (negation (.disjunction [.name "py", unordered])).evaluate facts =
      (conjunction [.negation (.name "py"), .negation unordered]).evaluate facts ∧
    ((conjunction [.name "py", .name "win", .name "np"]).evaluate facts =
      (conjunction [.name "py", .name "win", unordered]).evaluate facts ∧
      (conjunction [.name "py", .name "win", unordered]).evaluate facts =
        .ok (.boolean false)) := by
  intro facts unordered
  have known : ∀ word ∈ (conjunction [.name "py", .name "win", .name "np"]).names,
      (facts.lookup word).isSome := by decide
  have others : ∀ other ∈ [unordered], ∀ word ∈ other.names, (facts.lookup word).isSome := by
    decide
  rcases junction_laws facts .conjunction with ⟨merge, _, skip⟩
  rcases junction_laws facts .disjunction with ⟨_, dualize, _⟩
  refine ⟨⟨?_, rfl⟩, ?_, ?_, rfl⟩
  · exact merge [.name "py"] [.name "linux", unordered] [.name "np"] (by simp)
  · exact dualize [.name "py", unordered]
  · exact skip [.name "py"] (.name "win") [.name "np"] [unordered] known others
      (.inr ⟨.boolean false, rfl, rfl⟩)

end PackageRecipe.Condition
