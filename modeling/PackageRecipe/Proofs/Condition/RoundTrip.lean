import Mathlib.Order.MinMax
import PackageRecipe.Proofs.Condition.Printing

/-!
Conditions that are read, printed and read again. What is read is well formed, and nested no
deeper when it is printed, so it is read again; a condition that is only well formed is read
again if and only if its text keeps to the limit of nesting.
-/

namespace PackageRecipe.Condition

/-! ## What derivations mean -/

@[simp] theorem isWellFormed_name_iff {word : String} :
    (name word).IsWellFormed ↔ Token.IsIdentifier word ∧ word ∉ Token.keywords := by
  constructor
  · rintro ⟨identifier, free⟩
    exact ⟨identifier, free⟩
  · rintro ⟨identifier, free⟩
    exact .name identifier free

@[simp] theorem isWellFormed_integer_iff {value : Nat} :
    (integer value).IsWellFormed ↔ value < Token.integerBound := by
  constructor
  · intro wellFormed
    cases wellFormed with
    | integer _ small => exact Int.ofNat_lt.mp small
  · intro small
    exact .integer (Int.natCast_nonneg value) (Int.ofNat_lt.mpr small)

@[simp] theorem isWellFormed_text_iff {value : String} :
    (text value).IsWellFormed ↔ '\'' ∉ value.toList ∨ '"' ∉ value.toList := by
  constructor
  · rintro ⟨⟩
    assumption
  · exact .text

@[simp] theorem isWellFormed_tuple_iff {items : List Condition} :
    (tuple items).IsWellFormed ↔ ∀ item ∈ items, item.IsWellFormed := by
  constructor
  · rintro ⟨⟩
    assumption
  · exact .tuple

@[simp] theorem isWellFormed_negation_iff {operand : Condition} :
    (negation operand).IsWellFormed ↔ operand.IsWellFormed := by
  constructor
  · rintro ⟨⟩
    assumption
  · exact .negation

/-- An operand alone stands for itself, so it does not matter how many there are. -/
@[simp] theorem isWellFormed_join_iff (connective : Connective) {first : Condition}
    {others : List Condition} :
    (Reader.join connective.join (first :: others)).IsWellFormed ↔
      first.IsWellFormed ∧ ∀ operand ∈ others, operand.IsWellFormed := by
  rw [← List.forall_mem_cons]
  cases others with
  | nil => exact List.forall_mem_singleton.symm
  | cons second others =>
      have several : 2 ≤ (first :: second :: others).length := Nat.le_add_left 2 others.length
      cases connective <;> constructor
      case disjunction.mp | conjunction.mp =>
        rintro ⟨⟩
        assumption
      case disjunction.mpr => exact .disjunction several
      case conjunction.mpr => exact .conjunction several

@[simp] theorem isWellFormed_compared_iff {first : Condition}
    {steps : List (Relation × Condition)} :
    (Reader.compared first steps).IsWellFormed ↔
      first.IsWellFormed ∧ ∀ step ∈ steps, step.2.IsWellFormed := by
  cases steps with
  | nil => simp [Reader.compared]
  | cons step steps =>
      constructor
      · rintro ⟨⟩
        exact ⟨‹_›, ‹_›⟩
      · rintro ⟨compared, each⟩
        exact .comparison compared (List.cons_ne_nil _ _) each

@[simp] def Category.IsWellFormed : (category : Category) → category.Meaning → Prop
  | .level _, condition => condition.IsWellFormed
  | .operands _, conditions | .items, conditions =>
      ∀ condition ∈ conditions, condition.IsWellFormed
  | .steps, compared => ∀ step ∈ compared, step.2.IsWellFormed

/-- What a derivation means is well formed if and only if its tokens can be written. -/
theorem Derivation.isSpellable_yield_iff : {category : Category} →
    (derivation : Derivation category) →
    ((∀ token ∈ derivation.yield, token.IsSpellable) ↔
      category.IsWellFormed derivation.meaning)
  | _, .junction connective first others => by
      simp [meaning_junction, yield, or_imp, forall_and, isSpellable_yield_iff first,
        isSpellable_yield_iff others]
  | _, .noOperand _ | _, .noStep => by
      simp [yield, meaning]
  | _, .nextOperand connective head tail => by
      simp [meaning, yield, or_imp, forall_and, isSpellable_yield_iff head,
        isSpellable_yield_iff tail]
  | _, .negated inner => by
      simp [yield, meaning, isSpellable_yield_iff inner]
  | _, .plain inner => isSpellable_yield_iff inner
  | _, .comparison first others => by
      simp [meaning_comparison, yield, or_imp, forall_and, isSpellable_yield_iff first,
        isSpellable_yield_iff others]
  | _, .nextStep relation head tail => by
      have related := Token.isSpellable_relationTokens relation
      simp [meaning, yield, or_imp, forall_and, iff_true_intro related,
        isSpellable_yield_iff head, isSpellable_yield_iff tail]
  | _, .name _ | _, .integer _ | _, .text _ => by
      simp [yield, meaning]
  | _, .boolean value => by
      simp [yield, meaning, IsWellFormed.boolean]
  | _, .parenthesized inner => by
      simp [yield, meaning, or_imp, forall_and, isSpellable_yield_iff inner]
  | _, .emptyTuple | _, .lastComma => by
      simp [yield, meaning]
  | _, .tuple first others => by
      simp [yield, meaning, or_imp, forall_and, isSpellable_yield_iff first,
        isSpellable_yield_iff others]
  | _, .lastItem item => by
      simp [yield, meaning, isSpellable_yield_iff item]
  | _, .nextItem head tail => by
      simp [yield, meaning, or_imp, forall_and, isSpellable_yield_iff head,
        isSpellable_yield_iff tail]

/-! ## Nesting that printing keeps -/

section Deepened

variable (own : Level) (nesting : Nat)

theorem deepened_le (expected : Level) : deepened expected own nesting ≤ nesting + 1 := by
  rw [deepened]
  split <;> omega

theorem le_deepened (expected : Level) : nesting ≤ deepened expected own nesting := by
  rw [deepened]
  split <;> omega

theorem deepened_mono {loose tight : Level} (fits : loose.tightness ≤ tight.tightness) :
    deepened loose own nesting ≤ deepened tight own nesting := by
  simp only [deepened]
  split <;> split <;> omega

@[simp] theorem deepened_self : deepened own own nesting = nesting :=
  if_pos (Nat.le_refl _)

@[simp] theorem deepened_loosest : deepened (.junction .disjunction) own nesting = nesting :=
  if_pos (Nat.zero_le _)

end Deepened

theorem Connective.tightness_junction_le (connective : Connective) :
    (Level.junction connective).tightness ≤ connective.operand.tightness := by
  cases connective <;> decide

theorem nesting_join (connective : Connective) (operands : List Condition) :
    (connective.join operands).nesting = nestingOfAll connective.operand operands := by
  cases connective <;> rfl

/-- How deep the text of what a category means is nested, in the place of the category. -/
def Category.nesting : (category : Category) → category.Meaning → Nat
  | .level expected, condition => deepened expected condition.level condition.nesting
  | .operands connective, conditions => nestingOfAll connective.operand conditions
  | .items, conditions => nestingOfAll (.junction .disjunction) conditions
  | .steps, compared => nestingOfSteps compared

theorem nesting_junction_le (connective : Connective) (first : Condition)
    (others : List Condition) :
    (Category.level (.junction connective)).nesting
        (Reader.join connective.join (first :: others)) ≤
      max ((Category.level connective.operand).nesting first)
        ((Category.operands connective).nesting others) := by
  cases others with
  | nil =>
      have fewer := deepened_mono first.level first.nesting connective.tightness_junction_le
      exact Nat.le_trans fewer (Nat.le_max_left _ _)
  | cons second others =>
      have level : (connective.join (first :: second :: others)).level =
          .junction connective := by
        cases connective <;> rfl
      simp only [Reader.join, Category.nesting, level, deepened_self, nesting_join]
      exact Nat.le_refl _

theorem nesting_comparison_le (first : Condition) (steps : List (Relation × Condition)) :
    (Category.level .comparison).nesting (Reader.compared first steps) ≤
      max ((Category.level .operand).nesting first) (Category.steps.nesting steps) := by
  cases steps with
  | nil =>
      have fewer : deepened .comparison first.level first.nesting ≤
          deepened .operand first.level first.nesting :=
        deepened_mono first.level first.nesting (by decide)
      exact Nat.le_trans fewer (Nat.le_max_left _ _)
  | cons step steps =>
      exact Nat.le_refl _

/-- What a derivation means is printed no deeper nested than the derivation: parentheses are
left out, and none are added. -/
theorem Derivation.nesting_meaning_le : {category : Category} →
    (derivation : Derivation category) →
    category.nesting derivation.meaning ≤ derivation.nesting
  | _, .junction connective first others => by
      have head := nesting_meaning_le first
      have tail := nesting_meaning_le others
      rw [meaning_junction]
      exact Nat.le_trans (nesting_junction_le connective _ _) (max_le_max head tail)
  | _, .nextOperand connective head tail =>
      max_le_max (nesting_meaning_le head) (nesting_meaning_le tail)
  | _, .negated inner => Nat.succ_le_succ (nesting_meaning_le inner)
  | _, .plain inner =>
      Nat.le_trans (deepened_mono _ _ (by decide)) (nesting_meaning_le inner)
  | _, .comparison first others => by
      have head := nesting_meaning_le first
      have tail := nesting_meaning_le others
      rw [meaning_comparison]
      exact Nat.le_trans (nesting_comparison_le _ _) (max_le_max head tail)
  | _, .nextStep relation head tail =>
      max_le_max (nesting_meaning_le head) (nesting_meaning_le tail)
  | _, .parenthesized inner => by
      have shallow := nesting_meaning_le inner
      rw [Category.nesting, deepened_loosest] at shallow
      exact Nat.le_trans (deepened_le _ _ _) (Nat.succ_le_succ shallow)
  | _, .tuple first others =>
      Nat.succ_le_succ (max_le_max (nesting_meaning_le first) (nesting_meaning_le others))
  | _, .lastItem item => by
      have shallow := nesting_meaning_le item
      exact Nat.max_le.mpr ⟨shallow, Nat.zero_le _⟩
  | _, .nextItem head tail =>
      max_le_max (nesting_meaning_le head) (nesting_meaning_le tail)
  | _, .noOperand _ | _, .noStep | _, .lastComma | _, .emptyTuple => Nat.le_refl _
  | _, .name _ | _, .integer _ | _, .text _ | _, .boolean _ => Nat.le_refl _

/-! ## Parentheses that printing leaves out -/

/-- How many parentheses the tokens open. -/
def openings (tokens : List Token) : Nat :=
  tokens.count .opening

@[simp] theorem openings_nil : openings [] = 0 :=
  rfl

@[simp] theorem openings_cons (token : Token) (tokens : List Token) :
    openings (token :: tokens) = openings tokens + if token = .opening then 1 else 0 := by
  simp [openings, List.count_cons]

@[simp] theorem openings_append (left right : List Token) :
    openings (left ++ right) = openings left + openings right :=
  List.count_append

@[simp] theorem openings_relationTokens (relation : Relation) :
    openings (relationTokens relation) = 0 := by
  cases relation <;> rfl

@[simp] theorem Connective.token_ne_opening (connective : Connective) :
    connective.token ≠ .opening := by
  cases connective <;> decide

section Enclosed

variable (own : Level) (tokens : List Token)

theorem openings_enclosed_le (expected : Level) :
    openings (enclosed expected own tokens) ≤ openings tokens + 1 := by
  rw [enclosed]
  split <;> simp

theorem openings_enclosed_mono {loose tight : Level} (fits : loose.tightness ≤ tight.tightness) :
    openings (enclosed loose own tokens) ≤ openings (enclosed tight own tokens) := by
  by_cases opened : loose.tightness ≤ own.tightness
  · rw [enclosed, if_pos opened, enclosed]
    split <;> simp
  · have both : ¬ tight.tightness ≤ own.tightness :=
      fun closed => opened (Nat.le_trans fits closed)
    rw [enclosed, if_neg opened, enclosed, if_neg both]

theorem enclosed_self : enclosed own own tokens = tokens :=
  if_pos (Nat.le_refl _)

end Enclosed

/-- The tokens of what a category means, in the place of the category. -/
def Category.printed : (category : Category) → category.Meaning → List Token
  | .level expected, condition => enclosed expected condition.level condition.printed
  | .operands connective, conditions => printedOperands connective conditions
  | .items, conditions => .comma :: printedItems conditions
  | .steps, compared => printedSteps compared

theorem openings_junction_le (connective : Connective) (first : Condition)
    (others : List Condition) :
    openings ((Category.level (.junction connective)).printed
        (Reader.join connective.join (first :: others))) ≤
      openings ((Category.level connective.operand).printed first) +
        openings ((Category.operands connective).printed others) := by
  cases others with
  | nil =>
      exact openings_enclosed_mono first.level first.printed connective.tightness_junction_le
  | cons second others =>
      cases connective <;>
        simp [Reader.join, Connective.join, Category.printed, level, enclosed_self, printed,
          printedOperands, Connective.operand]

theorem openings_comparison_le (first : Condition) (steps : List (Relation × Condition)) :
    openings ((Category.level .comparison).printed (Reader.compared first steps)) ≤
      openings ((Category.level .operand).printed first) +
        openings (Category.steps.printed steps) := by
  cases steps with
  | nil => exact openings_enclosed_mono first.level first.printed (by decide)
  | cons step steps =>
      simp [Reader.compared, Category.printed, level, enclosed_self, printed]

/-- No tokens that mean the same open fewer parentheses than the printed ones. -/
theorem Derivation.openings_meaning_le : {category : Category} →
    (derivation : Derivation category) →
    openings (category.printed derivation.meaning) ≤ openings derivation.yield
  | _, .junction connective first others => by
      have head := openings_meaning_le first
      have tail := openings_meaning_le others
      rw [meaning_junction, yield, openings_append]
      exact Nat.le_trans (openings_junction_le connective _ _) (Nat.add_le_add head tail)
  | _, .nextOperand connective head tail => by
      have first := openings_meaning_le head
      have others := openings_meaning_le tail
      simpa [meaning, yield, Category.printed, printedOperands] using
        Nat.add_le_add first others
  | _, .negated inner => by
      have first := openings_meaning_le inner
      simpa [meaning, yield, Category.printed, level, enclosed_self, printed] using first
  | _, .plain inner =>
      Nat.le_trans (openings_enclosed_mono _ _ (by decide)) (openings_meaning_le inner)
  | _, .comparison first others => by
      have head := openings_meaning_le first
      have tail := openings_meaning_le others
      rw [meaning_comparison, yield, openings_append]
      exact Nat.le_trans (openings_comparison_le _ _) (Nat.add_le_add head tail)
  | _, .nextStep relation head tail => by
      have first := openings_meaning_le head
      have others := openings_meaning_le tail
      simpa [meaning, yield, Category.printed, printedSteps] using Nat.add_le_add first others
  | _, .parenthesized inner => by
      have first := openings_meaning_le inner
      rw [Category.printed, enclosed_loosest] at first
      refine Nat.le_trans (openings_enclosed_le _ _ _) ?_
      simpa [meaning, yield] using first
  | _, .tuple first others => by
      have head := openings_meaning_le first
      have tail := openings_meaning_le others
      rw [Category.printed, enclosed_loosest] at head
      simpa [meaning, yield, Category.printed, level, enclosed_self, printed, printedItems] using
        Nat.add_le_add head tail
  | _, .lastItem item => by
      have first := openings_meaning_le item
      rw [Category.printed, enclosed_loosest] at first
      simpa [meaning, yield, Category.printed, printedItems] using first
  | _, .nextItem head tail => by
      have first := openings_meaning_le head
      have others := openings_meaning_le tail
      rw [Category.printed, enclosed_loosest] at first
      simpa [meaning, yield, Category.printed, printedItems] using Nat.add_le_add first others
  | _, .noOperand _ | _, .noStep | _, .lastComma | _, .emptyTuple => Nat.le_refl _
  | _, .name _ | _, .integer _ | _, .text _ | _, .boolean _ => Nat.le_refl _

/-! ## Reading what was printed -/

theorem isWellFormed_of_parse_eq_ok {text : List Char} {condition : Condition}
    (parsed : parse text = .ok condition) :
    condition.IsWellFormed ∧ condition.nesting ≤ depthLimit := by
  rcases exists_tokens_of_parse_eq_ok parsed with ⟨located, lexed⟩
  rcases exists_derivation_of_parse_eq_ok lexed parsed with ⟨derivation, yields, shallow, rfl⟩
  have spellable := isSpellable_of_tokens lexed
  rw [← yields, derivation.isSpellable_yield_iff] at spellable
  have nesting := derivation.nesting_meaning_le
  rw [Category.nesting, deepened_loosest] at nesting
  exact ⟨spellable, Nat.le_trans nesting shallow⟩

theorem openings_printed_le_of_parse_eq_ok {text : List Char} {condition : Condition}
    {located : List Located} (lexed : tokens text = .ok located)
    (parsed : parse text = .ok condition) :
    openings condition.printed ≤ openings (located.map Located.token) := by
  rcases exists_derivation_of_parse_eq_ok lexed parsed with ⟨derivation, yields, _, rfl⟩
  have fewest := derivation.openings_meaning_le
  rwa [Category.printed, enclosed_loosest, yields] at fewest

namespace IsWellFormed

variable {condition : Condition} (wellFormed : condition.IsWellFormed)
include wellFormed

theorem derives :
    Derives (.junction .disjunction) condition.nesting condition.printed condition :=
  wellFormed.isDerived.fit (.junction .disjunction) (Nat.zero_le _)

theorem exists_tokens_print : ∃ located,
    tokens condition.print = .ok located ∧ located.map Located.token = condition.printed := by
  rcases wellFormed.derives with ⟨derivation, yields, _, means⟩
  have spellable : ∀ token ∈ condition.printed, token.IsSpellable := by
    rw [← yields, derivation.isSpellable_yield_iff, means]
    exact wellFormed
  exact exists_tokens_spell spellable

theorem parse_print_of_nesting_le (shallow : condition.nesting ≤ depthLimit) :
    parse condition.print = .ok condition := by
  rcases wellFormed.derives with ⟨derivation, yields, nesting, means⟩
  rcases wellFormed.exists_tokens_print with ⟨located, lexed, same⟩
  have parsed := parse_eq_ok_of_yield lexed derivation (yields.trans same.symm)
    (nesting ▸ shallow)
  rwa [means] at parsed

end IsWellFormed

/-- What is read is well formed, and is read again from its text, in which no more
parentheses open than in the text that it was read from. Whatever else is well formed is read
again from its text if and only if no parenthesis and no negation of the text stands inside
64 others. -/
theorem parse_print :
    (∀ text condition, parse text = .ok condition →
      condition.IsWellFormed ∧ parse condition.print = .ok condition) ∧
    (∀ text condition, parse text = .ok condition → ∃ located again,
      tokens text = .ok located ∧ tokens condition.print = .ok again ∧
        openings (again.map Located.token) ≤ openings (located.map Located.token)) ∧
    (∀ condition : Condition, condition.IsWellFormed →
      (parse condition.print = .ok condition ↔ condition.nesting ≤ 64)) := by
  refine ⟨?reread, ?fewest, ?limit⟩
  case reread =>
    intro text condition parsed
    rcases isWellFormed_of_parse_eq_ok parsed with ⟨wellFormed, shallow⟩
    exact ⟨wellFormed, wellFormed.parse_print_of_nesting_le shallow⟩
  case fewest =>
    intro text condition parsed
    rcases exists_tokens_of_parse_eq_ok parsed with ⟨located, lexed⟩
    rcases (isWellFormed_of_parse_eq_ok parsed).1.exists_tokens_print with
      ⟨again, relexed, same⟩
    have fewer := openings_printed_le_of_parse_eq_ok lexed parsed
    exact ⟨located, again, lexed, relexed, same ▸ fewer⟩
  case limit =>
    intro condition wellFormed
    constructor
    · intro parsed
      exact (isWellFormed_of_parse_eq_ok parsed).2
    · exact wellFormed.parse_print_of_nesting_le

/-- Parentheses that group nothing are left out, a tuple gets its last comma, and a text with
one of the quotes is put in the other. -/
theorem parse_print_regrouped :
    (∃ condition, parse "((not (a or ((b)))) and py not in (26, 27))".toList = .ok condition ∧
      condition.IsWellFormed ∧ condition.print = "not (a or b) and py not in (26, 27,)".toList ∧
      parse condition.print = .ok condition) ∧
    (∃ condition : Condition, condition.IsWellFormed ∧ condition.nesting ≤ 64 ∧
      condition.print = "not \"it's\" == (not py)".toList ∧
      parse condition.print = .ok condition) := by
  constructor
  · have lexed : tokens "((not (a or ((b)))) and py not in (26, 27))".toList =
        .ok [⟨0, .opening⟩, ⟨1, .opening⟩, ⟨2, .negation⟩, ⟨6, .opening⟩, ⟨7, .name "a"⟩,
          ⟨9, .disjunction⟩, ⟨12, .opening⟩, ⟨13, .opening⟩, ⟨14, .name "b"⟩, ⟨15, .closing⟩,
          ⟨16, .closing⟩, ⟨17, .closing⟩, ⟨18, .closing⟩, ⟨20, .conjunction⟩, ⟨24, .name "py"⟩,
          ⟨27, .negation⟩, ⟨31, .membership⟩, ⟨34, .opening⟩, ⟨35, .integer 26⟩, ⟨37, .comma⟩,
          ⟨39, .integer 27⟩, ⟨41, .closing⟩, ⟨42, .closing⟩] := rfl
    have parsed : parse "((not (a or ((b)))) and py not in (26, 27))".toList =
        .ok (.conjunction [.negation (.disjunction [.name "a", .name "b"]),
          .comparison (.name "py") [(.notMember, .tuple [.integer 26, .integer 27])]]) := by
      rw [parse_of_tokens lexed]
      rfl
    rcases parse_print.1 _ _ parsed with ⟨wellFormed, again⟩
    exact ⟨_, parsed, wellFormed, by decide, again⟩
  · have identifier : (name "py").IsWellFormed :=
      .name ⟨'p', ['y'], rfl, rfl, List.forall_mem_singleton.mpr rfl⟩ (by decide)
    have wellFormed : (negation (comparison (text "it's")
        [(.equal, negation (name "py"))])).IsWellFormed := by
      refine .negation (.comparison (.text (.inr (by decide))) (by simp) ?_)
      rw [List.forall_mem_singleton]
      exact .negation identifier
    have shallow : (negation (comparison (text "it's")
        [(.equal, negation (name "py"))])).nesting ≤ 64 := by
      decide
    exact ⟨_, wellFormed, shallow, by decide, (parse_print.2.2 _ wellFormed).mpr shallow⟩

end PackageRecipe.Condition
