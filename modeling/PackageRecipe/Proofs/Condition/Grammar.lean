import PackageRecipe.Condition.Parser

/-!
The grammar of conditions, as a type of derivations over tokens. A derivation has
three readings: the tokens that it stands for, how deep it nests parentheses and
negations, and the condition that it means.
-/

namespace PackageRecipe.Condition

inductive Connective where
  | disjunction
  | conjunction
  deriving DecidableEq, Repr

/-- The levels of conditions, from the loosest to the tightest. -/
inductive Level where
  | junction (connective : Connective)
  | negation
  | comparison
  | operand
  deriving DecidableEq, Repr

namespace Level

/-- The next looser level, up to whole conditions. -/
def looser : Level → Level
  | .operand => .comparison
  | .comparison => .negation
  | .negation => .junction .conjunction
  | .junction _ => .junction .disjunction

def tightness : Level → Nat
  | .junction .disjunction => 0
  | .junction .conjunction => 1
  | .negation => 2
  | .comparison => 3
  | .operand => 4

theorem tightness_le_operand (level : Level) : level.tightness ≤ operand.tightness := by
  rcases level with ⟨_ | _⟩ | _ | _ | _ <;> decide

theorem tightness_looser {level own : Level} (fits : level.tightness ≤ own.tightness)
    (different : level ≠ own) :
    level.tightness ≤ own.looser.tightness ∧ own.looser.tightness < own.tightness := by
  rcases level with ⟨_ | _⟩ | _ | _ | _ <;> rcases own with ⟨_ | _⟩ | _ | _ | _ <;>
    simp_all [tightness, looser]

/-- What holds at a level, and with any level at the next looser one, holds at all levels
that are looser. -/
theorem of_tighter {motive : Level → Prop}
    (step : ∀ level, motive level → motive level.looser) {level own : Level}
    (fits : level.tightness ≤ own.tightness) (holds : motive own) : motive level := by
  by_cases same : level = own
  · exact same ▸ holds
  · exact of_tighter step (tightness_looser fits same).1 (step own holds)
termination_by own.tightness
decreasing_by exact (tightness_looser fits same).2

end Level

/-- What a derivation can be of: a condition of a level, or the rest of one after
its first operand. -/
inductive Category where
  | level (level : Level)
  | operands (connective : Connective)
  | steps
  | items
  deriving DecidableEq, Repr

namespace Connective

def token : Connective → Token
  | .disjunction => .disjunction
  | .conjunction => .conjunction

def join : Connective → List Condition → Condition
  | .disjunction => .disjunction
  | .conjunction => .conjunction

/-- The level of what a connective joins. -/
def operand : Connective → Level
  | .disjunction => .junction .conjunction
  | .conjunction => .negation

end Connective

/-- How a relation is written between its operands. -/
def relationTokens : Relation → List Token
  | .member => [.membership]
  | .notMember => [.negation, .membership]
  | relation => [.relation relation]

/-- The derivations of each category, one constructor for each production. What is
repeated in the grammar is a list that ends in an empty production; the items of a
tuple end in a comma, or in a last item without one. -/
inductive Derivation : Category → Type where
  | junction (connective : Connective) (first : Derivation (.level connective.operand))
      (others : Derivation (.operands connective)) :
      Derivation (.level (.junction connective))
  | noOperand (connective : Connective) : Derivation (.operands connective)
  | nextOperand (connective : Connective) (head : Derivation (.level connective.operand))
      (tail : Derivation (.operands connective)) : Derivation (.operands connective)
  | negated (inner : Derivation (.level .negation)) : Derivation (.level .negation)
  | plain (inner : Derivation (.level .comparison)) : Derivation (.level .negation)
  | comparison (first : Derivation (.level .operand)) (others : Derivation .steps) :
      Derivation (.level .comparison)
  | noStep : Derivation .steps
  | nextStep (relation : Relation) (head : Derivation (.level .operand))
      (tail : Derivation .steps) : Derivation .steps
  | name (word : String) : Derivation (.level .operand)
  | integer (value : Nat) : Derivation (.level .operand)
  | text (value : String) : Derivation (.level .operand)
  | boolean (value : Bool) : Derivation (.level .operand)
  | parenthesized (inner : Derivation (.level (.junction .disjunction))) :
      Derivation (.level .operand)
  | emptyTuple : Derivation (.level .operand)
  | tuple (first : Derivation (.level (.junction .disjunction)))
      (others : Derivation .items) : Derivation (.level .operand)
  | lastComma : Derivation .items
  | lastItem (item : Derivation (.level (.junction .disjunction))) : Derivation .items
  | nextItem (head : Derivation (.level (.junction .disjunction)))
      (tail : Derivation .items) : Derivation .items

/-- What the derivations of a category mean: a condition, or what is added to its
first operand. -/
@[reducible] def Category.Meaning : Category → Type
  | .level _ => Condition
  | .operands _ | .items => List Condition
  | .steps => List (Relation × Condition)

namespace Derivation

/-- The tokens that a derivation stands for. -/
def yield {category : Category} : Derivation category → List Token
  | .junction _ first others => first.yield ++ others.yield
  | .noOperand _ => []
  | .nextOperand connective head tail => connective.token :: (head.yield ++ tail.yield)
  | .negated inner => .negation :: inner.yield
  | .plain inner => inner.yield
  | .comparison first others => first.yield ++ others.yield
  | .noStep => []
  | .nextStep relation head tail => relationTokens relation ++ (head.yield ++ tail.yield)
  | .name word => [.name word]
  | .integer value => [.integer value]
  | .text value => [.text value]
  | .boolean value => [.boolean value]
  | .parenthesized inner => .opening :: (inner.yield ++ [.closing])
  | .emptyTuple => [.opening, .closing]
  | .tuple first others => .opening :: (first.yield ++ (others.yield ++ [.closing]))
  | .lastComma => [.comma]
  | .lastItem item => .comma :: item.yield
  | .nextItem head tail => .comma :: (head.yield ++ tail.yield)

/-- How many opening parentheses and negation signs stand inside each other. The
sign in a negated membership is no negation. -/
def nesting {category : Category} : Derivation category → Nat
  | .junction _ first others => max first.nesting others.nesting
  | .nextOperand _ head tail => max head.nesting tail.nesting
  | .negated inner => inner.nesting + 1
  | .plain inner => inner.nesting
  | .comparison first others => max first.nesting others.nesting
  | .nextStep _ head tail => max head.nesting tail.nesting
  | .parenthesized inner => inner.nesting + 1
  | .emptyTuple => 1
  | .tuple first others => max first.nesting others.nesting + 1
  | .lastItem item => item.nesting
  | .nextItem head tail => max head.nesting tail.nesting
  | .noOperand _ | .noStep | .lastComma => 0
  | .name _ | .integer _ | .text _ | .boolean _ => 0

/-- The condition that a derivation means. Parentheses leave no trace but the
grouping, and a junction or a comparison of one operand is that operand. -/
def meaning {category : Category} : Derivation category → category.Meaning
  | .junction connective first others =>
      match others.meaning with
      | [] => first.meaning
      | tail => connective.join (first.meaning :: tail)
  | .noOperand _ => []
  | .nextOperand _ head tail => head.meaning :: tail.meaning
  | .negated inner => .negation inner.meaning
  | .plain inner => inner.meaning
  | .comparison first others =>
      match others.meaning with
      | [] => first.meaning
      | steps => .comparison first.meaning steps
  | .noStep => []
  | .nextStep relation head tail => (relation, head.meaning) :: tail.meaning
  | .name word => .name word
  | .integer value => .integer value
  | .text value => .text value
  | .boolean value => .boolean value
  | .parenthesized inner => inner.meaning
  | .emptyTuple => .tuple []
  | .tuple first others => .tuple (first.meaning :: others.meaning)
  | .lastComma => []
  | .lastItem item => [item.meaning]
  | .nextItem head tail => head.meaning :: tail.meaning

theorem meaning_junction {connective : Connective}
    (first : Derivation (.level connective.operand))
    (others : Derivation (.operands connective)) :
    (junction connective first others).meaning =
      Reader.join connective.join (first.meaning :: others.meaning) := by
  cases others <;> rfl

theorem meaning_comparison (first : Derivation (.level .operand))
    (others : Derivation .steps) :
    (comparison first others).meaning = Reader.compared first.meaning others.meaning := by
  cases others <;> rfl

/-- One list of further operands after another. -/
def append {connective : Connective} : Derivation (.operands connective) →
    Derivation (.operands connective) → Derivation (.operands connective)
  | .noOperand _, more => more
  | .nextOperand _ head tail, more => .nextOperand connective head (tail.append more)

section Append

variable {connective : Connective}

theorem yield_append : (left right : Derivation (.operands connective)) →
    (left.append right).yield = left.yield ++ right.yield
  | .noOperand _, right => by
      rw [append, yield, List.nil_append]
  | .nextOperand _ head tail, right => by
      rw [append, yield, yield_append tail right]
      simp [yield]

theorem nesting_append : (left right : Derivation (.operands connective)) →
    (left.append right).nesting = max left.nesting right.nesting
  | .noOperand _, right => by
      rw [append, nesting, Nat.zero_max]
  | .nextOperand _ head tail, right => by
      rw [append, nesting, nesting_append tail right, nesting, Nat.max_assoc]

theorem meaning_append : (left right : Derivation (.operands connective)) →
    (left.append right).meaning = left.meaning ++ right.meaning
  | .noOperand _, right => by
      rw [append, meaning, List.nil_append]
  | .nextOperand _ head tail, right => by
      rw [append, meaning, meaning_append tail right]
      rfl

end Append

end Derivation

/-! ## First tokens -/

def Token.startsOperand : Token → Bool
  | .name _ | .integer _ | .text _ | .boolean _ | .opening => true
  | _ => false

namespace Derivation

theorem operand_first (derivation : Derivation (.level .operand)) :
    ∃ head tail, derivation.yield = head :: tail ∧ head.startsOperand := by
  cases derivation <;> exact ⟨_, _, rfl, rfl⟩

/-- A condition starts with an operand or a negation sign, so never with a token
that closes, separates or compares. -/
theorem level_first : {level : Level} → (derivation : Derivation (.level level)) →
    ∃ head tail, derivation.yield = head :: tail ∧
      (head = .negation ∨ head.startsOperand)
  | _, .junction _ first others => by
      rcases level_first first with ⟨head, tail, equal, starts⟩
      exact ⟨head, tail ++ others.yield, by rw [yield, equal]; rfl, starts⟩
  | _, .negated inner => ⟨.negation, inner.yield, rfl, .inl rfl⟩
  | _, .plain inner => level_first inner
  | _, .comparison first others => by
      rcases operand_first first with ⟨head, tail, equal, starts⟩
      exact ⟨head, tail ++ others.yield, by rw [yield, equal]; rfl, .inr starts⟩
  | .operand, derivation => by
      rcases operand_first derivation with ⟨head, tail, equal, starts⟩
      exact ⟨head, tail, equal, .inr starts⟩

theorem level_ne_closing {level : Level} (derivation : Derivation (.level level))
    (follow rest : List Token) : derivation.yield ++ follow ≠ .closing :: rest := by
  intro equal
  rcases level_first derivation with ⟨head, tail, yields, starts⟩
  rw [yields, List.cons_append, List.cons.injEq] at equal
  rcases starts with negates | starts
  · exact absurd (negates.symm.trans equal.1) (by decide)
  · rw [equal.1] at starts
    exact absurd starts (by decide)

theorem comparison_ne_negation (derivation : Derivation (.level .comparison))
    (follow rest : List Token) : derivation.yield ++ follow ≠ .negation :: rest := by
  intro equal
  cases derivation with
  | comparison first others =>
      rcases operand_first first with ⟨head, tail, yields, starts⟩
      rw [yield, yields, List.cons_append, List.cons_append, List.cons.injEq] at equal
      rw [equal.1] at starts
      exact absurd starts (by decide)

theorem items_first (derivation : Derivation .items) :
    ∃ tail, derivation.yield = .comma :: tail := by
  cases derivation <;> exact ⟨_, rfl⟩

end Derivation

/-! ## Tokens that end a category

A derivation of a category takes as many tokens as it can. The tokens after it end
the category if their first could not have belonged to the derivation. -/

/-- Whether the first tokens are those of a relation. -/
def startsStep : List Token → Bool
  | .relation _ :: _ | .membership :: _ | .negation :: .membership :: _ => true
  | _ => false

def Category.Ends : Category → List Token → Prop
  | .level .operand, _ => True
  | .level .comparison, follow | .level .negation, follow | .steps, follow =>
      startsStep follow = false
  | .level (.junction .conjunction), follow | .operands .conjunction, follow =>
      startsStep follow = false ∧ follow.head? ≠ some .conjunction
  | .level (.junction .disjunction), follow | .operands .disjunction, follow =>
      startsStep follow = false ∧ follow.head? ≠ some .conjunction ∧
        follow.head? ≠ some .disjunction
  | .items, follow => ∃ rest, follow = .closing :: rest

namespace Category

theorem Ends.operand {connective : Connective} {follow : List Token}
    (ends : (Category.operands connective).Ends follow) :
    (Category.level connective.operand).Ends follow := by
  cases connective with
  | disjunction => exact ⟨ends.1, ends.2.1⟩
  | conjunction => exact ends.1

theorem Ends.head?_ne {connective : Connective} {follow : List Token}
    (ends : (Category.operands connective).Ends follow) :
    follow.head? ≠ some connective.token := by
  cases connective with
  | disjunction => exact ends.2.2
  | conjunction => exact ends.2

/-- A junction and the rest of one end before the same tokens. -/
theorem ends_junction_iff (connective : Connective) (follow : List Token) :
    (Category.level (.junction connective)).Ends follow ↔
      (Category.operands connective).Ends follow := by
  cases connective <;> rfl

theorem ends_connective (connective : Connective) (follow : List Token) :
    (Category.level connective.operand).Ends (connective.token :: follow) := by
  cases connective <;> simp [Connective.operand, Connective.token, Ends, startsStep]

/-- Closing parentheses, commas and the end of the text end conditions of every
level. -/
theorem ends_closing (level : Level) (follow : List Token) :
    (Category.level level).Ends (.closing :: follow) := by
  rcases level with ⟨_ | _⟩ | _ | _ | _ <;> simp [Ends, startsStep]

theorem ends_comma (level : Level) (follow : List Token) :
    (Category.level level).Ends (.comma :: follow) := by
  rcases level with ⟨_ | _⟩ | _ | _ | _ <;> simp [Ends, startsStep]

theorem ends_nil (level : Level) : (Category.level level).Ends [] := by
  rcases level with ⟨_ | _⟩ | _ | _ | _ <;> simp [Ends, startsStep]

end Category

theorem startsStep_relationTokens (relation : Relation) (follow : List Token) :
    startsStep (relationTokens relation ++ follow) = true := by
  cases relation <;> rfl

theorem relationTokens_append_inj {left right : Relation} {follow other : List Token}
    (equal : relationTokens left ++ follow = relationTokens right ++ other) :
    left = right ∧ follow = other := by
  cases left <;> cases right <;> simp_all [relationTokens]

namespace Derivation

theorem operands_ends {connective : Connective}
    (derivation : Derivation (.operands connective)) {follow : List Token}
    (ends : (Category.operands connective).Ends follow) :
    (Category.level connective.operand).Ends (derivation.yield ++ follow) := by
  cases derivation with
  | noOperand => exact ends.operand
  | nextOperand _ head tail => exact Category.ends_connective connective _

theorem items_ends (derivation : Derivation .items) (level : Level)
    (follow : List Token) : (Category.level level).Ends (derivation.yield ++ follow) := by
  rcases derivation.items_first with ⟨tail, equal⟩
  rw [equal]
  exact Category.ends_comma level _

theorem items_ne_closing (derivation : Derivation .items) (follow rest : List Token) :
    derivation.yield ++ follow ≠ .closing :: rest := by
  rcases derivation.items_first with ⟨tail, equal⟩
  simp [equal]

end Derivation

end PackageRecipe.Condition
