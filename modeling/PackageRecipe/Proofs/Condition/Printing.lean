import PackageRecipe.Proofs.Condition.Parsing
import PackageRecipe.Proofs.Condition.Spelling

/-!
Conditions as texts. A condition is printed with the fewest parentheses: they stand only
around an operand that is looser than its place. Every condition that can be read is read
again from its text, and so is every other that is well formed and does not nest too deep.
-/

namespace PackageRecipe.Condition

/-! ## Printing -/

/-- The level that a condition is a production of. -/
def level : Condition → Level
  | .name _ | .integer _ | .text _ | .boolean _ | .tuple _ => .operand
  | .negation _ => .negation
  | .conjunction _ => .junction .conjunction
  | .disjunction _ => .junction .disjunction
  | .comparison _ _ => .comparison

/-- Tokens of a level where another is expected: in parentheses, if it is too loose. -/
def enclosed (expected own : Level) (tokens : List Token) : List Token :=
  if expected.tightness ≤ own.tightness then tokens
  else .opening :: (tokens ++ [.closing])

mutual
/-- The tokens of a condition. Each item of a tuple has a comma after it. -/
def printed : Condition → List Token
  | .name word => [.name word]
  | .integer value => [.integer value.toNat]
  | .text value => [.text value]
  | .boolean value => [.boolean value]
  | .tuple items => .opening :: (printedItems items ++ [.closing])
  | .negation operand => .negation :: enclosed .negation operand.level operand.printed
  | .conjunction operands => (printedOperands .conjunction operands).tail
  | .disjunction operands => (printedOperands .disjunction operands).tail
  | .comparison first steps =>
      enclosed .operand first.level first.printed ++ printedSteps steps

def printedItems : List Condition → List Token
  | [] => []
  | head :: tail => head.printed ++ .comma :: printedItems tail

/-- The operands, each with the connective before it. -/
def printedOperands (connective : Connective) : List Condition → List Token
  | [] => []
  | head :: tail =>
      connective.token :: (enclosed connective.operand head.level head.printed ++
        printedOperands connective tail)

def printedSteps : List (Relation × Condition) → List Token
  | [] => []
  | (relation, operand) :: tail =>
      relationTokens relation ++
        (enclosed .operand operand.level operand.printed ++ printedSteps tail)
end

/-- The text of a condition. -/
def print (condition : Condition) : List Char :=
  spell condition.printed

example : print (.conjunction [.negation (.disjunction [.name "a", .name "b"]),
    .comparison (.name "py") [(.notMember, .tuple [.integer 26])],
    .conjunction [.negation (.negation (.boolean true)), .text "it's"]]) =
    "not (a or b) and py not in (26,) and (not not True and \"it's\")".toList := by
  decide

def deepened (expected own : Level) (nesting : Nat) : Nat :=
  if expected.tightness ≤ own.tightness then nesting else nesting + 1

mutual
/-- How many opening parentheses and negation signs stand inside each other in the text
of a condition. -/
def nesting : Condition → Nat
  | .name _ | .integer _ | .text _ | .boolean _ => 0
  | .tuple items => nestingOfAll (.junction .disjunction) items + 1
  | .negation operand => deepened .negation operand.level operand.nesting + 1
  | .conjunction operands => nestingOfAll .negation operands
  | .disjunction operands => nestingOfAll (.junction .conjunction) operands
  | .comparison first steps =>
      max (deepened .operand first.level first.nesting) (nestingOfSteps steps)

def nestingOfAll (expected : Level) : List Condition → Nat
  | [] => 0
  | head :: tail => max (deepened expected head.level head.nesting) (nestingOfAll expected tail)

def nestingOfSteps : List (Relation × Condition) → Nat
  | [] => 0
  | (_, operand) :: tail =>
      max (deepened .operand operand.level operand.nesting) (nestingOfSteps tail)
end

/-- The conditions that have a text. Names are identifiers and no keywords, integers are
small enough, texts lack one of the quotes, and nothing is joined or compared alone. -/
inductive IsWellFormed : Condition → Prop
  | name {word : String} (identifier : Token.IsIdentifier word)
      (free : word ∉ Token.keywords) : IsWellFormed (.name word)
  | integer {value : Int} (nonnegative : 0 ≤ value) (small : value < Token.integerBound) :
      IsWellFormed (.integer value)
  | text {value : String} (quotable : '\'' ∉ value.toList ∨ '"' ∉ value.toList) :
      IsWellFormed (.text value)
  | boolean (value : Bool) : IsWellFormed (.boolean value)
  | tuple {items : List Condition} (each : ∀ item ∈ items, IsWellFormed item) :
      IsWellFormed (.tuple items)
  | negation {operand : Condition} (inner : IsWellFormed operand) :
      IsWellFormed (.negation operand)
  | conjunction {operands : List Condition} (several : 2 ≤ operands.length)
      (each : ∀ operand ∈ operands, IsWellFormed operand) :
      IsWellFormed (.conjunction operands)
  | disjunction {operands : List Condition} (several : 2 ≤ operands.length)
      (each : ∀ operand ∈ operands, IsWellFormed operand) :
      IsWellFormed (.disjunction operands)
  | comparison {first : Condition} {steps : List (Relation × Condition)}
      (compared : IsWellFormed first) (notEmpty : steps ≠ [])
      (each : ∀ step ∈ steps, IsWellFormed step.2) :
      IsWellFormed (.comparison first steps)

/-! ## Derivations of printed tokens -/

/-- The tokens have a derivation of the level, nested as deep as given, that means the
condition. -/
def Derives (level : Level) (nesting : Nat) (tokens : List Token) (condition : Condition) :
    Prop :=
  ∃ derivation : Derivation (.level level), derivation.yield = tokens ∧
    derivation.nesting = nesting ∧ derivation.meaning = condition

namespace Derives

variable {own : Level} {nesting : Nat} {tokens : List Token} {condition : Condition}

theorem looser (derives : Derives own nesting tokens condition) :
    Derives own.looser nesting tokens condition := by
  rcases derives with ⟨derivation, rfl, rfl, rfl⟩
  cases own with
  | operand =>
      exact ⟨.comparison derivation .noStep, List.append_nil _, Nat.max_zero _, rfl⟩
  | comparison => exact ⟨.plain derivation, rfl, rfl, rfl⟩
  | negation =>
      exact ⟨.junction .conjunction derivation (.noOperand _), List.append_nil _,
        Nat.max_zero _, rfl⟩
  | junction connective =>
      cases connective with
      | conjunction =>
          exact ⟨.junction .disjunction derivation (.noOperand _), List.append_nil _,
            Nat.max_zero _, rfl⟩
      | disjunction => exact ⟨derivation, rfl, rfl, rfl⟩

theorem fit (derives : Derives own nesting tokens condition) (expected : Level)
    (fits : expected.tightness ≤ own.tightness) :
    Derives expected nesting tokens condition :=
  Level.of_tighter (motive := fun level => Derives level nesting tokens condition)
    (fun _ => looser) fits derives

theorem enclose (derives : Derives own nesting tokens condition) (expected : Level) :
    Derives expected (deepened expected own nesting) (enclosed expected own tokens)
      condition := by
  by_cases fits : expected.tightness ≤ own.tightness
  · rw [deepened, if_pos fits, enclosed, if_pos fits]
    exact derives.fit expected fits
  · rw [deepened, if_neg fits, enclosed, if_neg fits]
    rcases derives.fit (.junction .disjunction) (Nat.zero_le _) with
      ⟨derivation, rfl, rfl, rfl⟩
    have parenthesized : Derives .operand (derivation.nesting + 1)
        (.opening :: (derivation.yield ++ [.closing])) derivation.meaning :=
      ⟨.parenthesized derivation, rfl, rfl, rfl⟩
    exact parenthesized.fit expected expected.tightness_le_operand

end Derives

/-- The tokens of a condition derive it, at the level that it is a production of. -/
def IsDerived (condition : Condition) : Prop :=
  Derives condition.level condition.nesting condition.printed condition

theorem enclosed_loosest (own : Level) (tokens : List Token) :
    enclosed (.junction .disjunction) own tokens = tokens :=
  if_pos (Nat.zero_le own.tightness)

theorem exists_items {items : List Condition} (each : ∀ item ∈ items, IsDerived item) :
    ∃ derivation : Derivation .items,
      derivation.yield = .comma :: printedItems items ∧
        derivation.nesting = nestingOfAll (.junction .disjunction) items ∧
          derivation.meaning = items := by
  induction items with
  | nil => exact ⟨.lastComma, rfl, rfl, rfl⟩
  | cons head tail induction =>
      rw [List.forall_mem_cons] at each
      rcases each.1.enclose (.junction .disjunction) with
        ⟨item, itemYield, itemNesting, itemMeaning⟩
      rcases induction each.2 with ⟨others, othersYield, othersNesting, othersMeaning⟩
      refine ⟨.nextItem item others, ?_, ?_, ?_⟩
      · rw [Derivation.yield, itemYield, othersYield, enclosed_loosest, printedItems]
      · rw [Derivation.nesting, itemNesting, othersNesting, nestingOfAll]
      · rw [Derivation.meaning, itemMeaning, othersMeaning]

theorem exists_operands (connective : Connective) {operands : List Condition}
    (each : ∀ operand ∈ operands, IsDerived operand) :
    ∃ derivation : Derivation (.operands connective),
      derivation.yield = printedOperands connective operands ∧
        derivation.nesting = nestingOfAll connective.operand operands ∧
          derivation.meaning = operands := by
  induction operands with
  | nil => exact ⟨.noOperand connective, rfl, rfl, rfl⟩
  | cons head tail induction =>
      rw [List.forall_mem_cons] at each
      rcases each.1.enclose connective.operand with
        ⟨operand, operandYield, operandNesting, operandMeaning⟩
      rcases induction each.2 with ⟨others, othersYield, othersNesting, othersMeaning⟩
      refine ⟨.nextOperand connective operand others, ?_, ?_, ?_⟩
      · rw [Derivation.yield, operandYield, othersYield, printedOperands]
      · rw [Derivation.nesting, operandNesting, othersNesting, nestingOfAll]
      · rw [Derivation.meaning, operandMeaning, othersMeaning]

theorem exists_steps {steps : List (Relation × Condition)}
    (each : ∀ step ∈ steps, IsDerived step.2) :
    ∃ derivation : Derivation .steps,
      derivation.yield = printedSteps steps ∧ derivation.nesting = nestingOfSteps steps ∧
        derivation.meaning = steps := by
  induction steps with
  | nil => exact ⟨.noStep, rfl, rfl, rfl⟩
  | cons head tail induction =>
      rw [List.forall_mem_cons] at each
      rcases each.1.enclose .operand with
        ⟨operand, operandYield, operandNesting, operandMeaning⟩
      rcases induction each.2 with ⟨others, othersYield, othersNesting, othersMeaning⟩
      refine ⟨.nextStep head.1 operand others, ?_, ?_, ?_⟩
      · rw [Derivation.yield, operandYield, othersYield, printedSteps]
      · rw [Derivation.nesting, operandNesting, othersNesting, nestingOfSteps]
      · rw [Derivation.meaning, operandMeaning, othersMeaning]

theorem isDerived_tuple {items : List Condition} (each : ∀ item ∈ items, IsDerived item) :
    IsDerived (.tuple items) := by
  cases items with
  | nil => exact ⟨.emptyTuple, rfl, rfl, rfl⟩
  | cons head tail =>
      rw [List.forall_mem_cons] at each
      rcases each.1.enclose (.junction .disjunction) with
        ⟨first, firstYield, firstNesting, firstMeaning⟩
      rcases exists_items each.2 with ⟨others, othersYield, othersNesting, othersMeaning⟩
      change Derives .operand _ _ _
      refine ⟨.tuple first others, ?_, ?_, ?_⟩
      · rw [Derivation.yield, firstYield, othersYield, enclosed_loosest, printed,
          printedItems, List.append_assoc]
      · rw [Derivation.nesting, firstNesting, othersNesting, nesting, nestingOfAll]
      · rw [Derivation.meaning, firstMeaning, othersMeaning]

theorem isDerived_negation {operand : Condition} (derived : IsDerived operand) :
    IsDerived (.negation operand) := by
  rcases derived.enclose .negation with ⟨inner, innerYield, innerNesting, innerMeaning⟩
  change Derives .negation _ _ _
  refine ⟨.negated inner, ?_, ?_, ?_⟩
  · rw [Derivation.yield, innerYield, printed]
  · rw [Derivation.nesting, innerNesting, nesting]
  · rw [Derivation.meaning, innerMeaning]

theorem isDerived_join (connective : Connective) {operands : List Condition}
    (several : 2 ≤ operands.length) (each : ∀ operand ∈ operands, IsDerived operand) :
    IsDerived (connective.join operands) := by
  rcases operands with _ | ⟨head, tail⟩
  · simp at several
  · rw [List.forall_mem_cons] at each
    rcases each.1.enclose connective.operand with
      ⟨first, firstYield, firstNesting, firstMeaning⟩
    rcases exists_operands connective each.2 with
      ⟨others, othersYield, othersNesting, othersMeaning⟩
    have derives : Derives (.junction connective)
        (nestingOfAll connective.operand (head :: tail))
        (printedOperands connective (head :: tail)).tail
        (connective.join (head :: tail)) := by
      refine ⟨.junction connective first others, ?_, ?_, ?_⟩
      · rw [Derivation.yield, firstYield, othersYield, printedOperands, List.tail_cons]
      · rw [Derivation.nesting, firstNesting, othersNesting, nestingOfAll]
      · rw [Derivation.meaning_junction, firstMeaning, othersMeaning]
        cases tail with
        | nil => simp at several
        | cons second tail => rfl
    cases connective <;> simpa [IsDerived, level, nesting, printed, Connective.join,
      Connective.operand] using derives

theorem isDerived_comparison {first : Condition} {steps : List (Relation × Condition)}
    (derived : IsDerived first) (notEmpty : steps ≠ [])
    (each : ∀ step ∈ steps, IsDerived step.2) : IsDerived (.comparison first steps) := by
  rcases derived.enclose .operand with ⟨operand, operandYield, operandNesting, operandMeaning⟩
  rcases exists_steps each with ⟨others, othersYield, othersNesting, othersMeaning⟩
  change Derives .comparison _ _ _
  refine ⟨.comparison operand others, ?_, ?_, ?_⟩
  · rw [Derivation.yield, operandYield, othersYield, printed]
  · rw [Derivation.nesting, operandNesting, othersNesting, nesting]
  · rw [Derivation.meaning_comparison, operandMeaning, othersMeaning]
    cases steps with
    | nil => exact absurd rfl notEmpty
    | cons head tail => rfl

theorem IsWellFormed.isDerived {condition : Condition} (wellFormed : condition.IsWellFormed) :
    IsDerived condition := by
  induction wellFormed with
  | @name word => exact ⟨.name word, rfl, rfl, rfl⟩
  | @integer value nonnegative =>
      change Derives .operand _ _ _
      refine ⟨.integer value.toNat, rfl, rfl, ?_⟩
      rw [Derivation.meaning, Int.toNat_of_nonneg nonnegative]
  | @text value => exact ⟨.text value, rfl, rfl, rfl⟩
  | boolean value => exact ⟨.boolean value, rfl, rfl, rfl⟩
  | tuple _ each => exact isDerived_tuple each
  | negation _ inner => exact isDerived_negation inner
  | conjunction several _ each => exact isDerived_join .conjunction several each
  | disjunction several _ each => exact isDerived_join .disjunction several each
  | comparison _ notEmpty _ first each => exact isDerived_comparison first notEmpty each

end PackageRecipe.Condition
