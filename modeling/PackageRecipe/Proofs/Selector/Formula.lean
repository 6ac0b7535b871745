import PackageRecipe.Proofs.Condition.Answers
import PackageRecipe.Proofs.Condition.Failures
import PackageRecipe.Proofs.Condition.Names
import PackageRecipe.Proofs.Condition.Parsing
import PackageRecipe.Proofs.Selector.Lines
import PackageRecipe.Proofs.Target

/-!
Propositional formulas over the facts about a target. However a formula is written as
a condition, with the parentheses that precedence needs and any others, a line with
that condition is kept by the targets for which the formula is true, and dropped by
all others.
-/

namespace PackageRecipe

open Condition

/-- Facts that are numbers count as true if they are not zero. -/
def Fact.holds : Fact → Bool
  | .boolean value => value
  | .integer value => value != 0

/-- A formula, without a way to write it. Its words are names of facts. -/
inductive Formula where
  | fact (word : String) (known : word ∈ Facts.names)
  | constant (value : Bool)
  | negation (operand : Formula)
  | junction (connective : Connective) (left right : Formula)

namespace Formula

def holds (target : Target) : Formula → Bool
  | .fact word _ => (target.facts.lookup word).any Fact.holds
  | .constant value => value
  | .negation operand => !operand.holds target
  | .junction .conjunction left right => left.holds target && right.holds target
  | .junction .disjunction left right => left.holds target || right.holds target

end Formula

/-! ## Written formulas -/

namespace Formula

/-- The ways to write a formula as a condition of a level, with how deep parentheses
and negations are nested in it. What is tighter can stand where something looser can;
the other way around takes parentheses, and they may stand anywhere else too. -/
inductive Written : Formula → Level → (nesting : Nat) → List Token → Prop
  | fact {word : String} (known : word ∈ Facts.names) :
      Written (.fact word known) .operand 0 [.name word]
  | constant (value : Bool) : Written (.constant value) .operand 0 [.boolean value]
  | parenthesized {formula : Formula} {nesting : Nat} {tokens : List Token}
      (inside : Written formula (.junction .disjunction) nesting tokens) :
      Written formula .operand (nesting + 1) (.opening :: (tokens ++ [.closing]))
  | negation {formula : Formula} {nesting : Nat} {tokens : List Token}
      (operand : Written formula .negation nesting tokens) :
      Written (.negation formula) .negation (nesting + 1) (.negation :: tokens)
  | junction {connective : Connective} {left right : Formula}
      {leftNesting rightNesting : Nat} {leftTokens rightTokens : List Token}
      (first : Written left (.junction connective) leftNesting leftTokens)
      (second : Written right (.junction connective) rightNesting rightTokens) :
      Written (.junction connective left right) (.junction connective)
        (max leftNesting rightNesting) (leftTokens ++ connective.token :: rightTokens)
  | looser {formula : Formula} {level : Level} {nesting : Nat} {tokens : List Token}
      (tighter : Written formula level nesting tokens) :
      Written formula level.looser nesting tokens

/-- Two ways to write a formula: with parentheses around every operand that is not a
single word, or only around those that need them. -/
inductive Style where
  | full
  | sparse
  deriving DecidableEq, Repr

def Style.operand (style : Style) (own : Level) : Level :=
  match style with
  | .full => .operand
  | .sparse => own

def enclosed (own level : Level) (written : Nat × List Token) : Nat × List Token :=
  if level.tightness ≤ own.tightness then written
  else (written.1 + 1, .opening :: (written.2 ++ [.closing]))

def write (style : Style) : Formula → (level : Level) → Nat × List Token
  | .fact word _, level => enclosed .operand level (0, [.name word])
  | .constant value, level => enclosed .operand level (0, [.boolean value])
  | .negation operand, level =>
      let (nesting, tokens) := operand.write style (style.operand .negation)
      enclosed .negation level (nesting + 1, .negation :: tokens)
  | .junction connective left right, level =>
      let own := Level.junction connective
      let (leftNesting, leftTokens) := left.write style (style.operand own)
      let (rightNesting, rightTokens) := right.write style (style.operand own)
      enclosed own level
        (max leftNesting rightNesting, leftTokens ++ connective.token :: rightTokens)

namespace Written

theorem fit {formula : Formula} {nesting : Nat} {tokens : List Token} {level own : Level}
    (fits : level.tightness ≤ own.tightness)
    (written : Written formula own nesting tokens) :
    Written formula level nesting tokens :=
  Level.of_tighter (motive := fun level => Written formula level nesting tokens)
    (fun _ => Written.looser) fits written

theorem enclose {formula : Formula} {nesting : Nat} {tokens : List Token} {own : Level}
    (written : Written formula own nesting tokens) (level : Level) :
    Written formula level (enclosed own level (nesting, tokens)).1
      (enclosed own level (nesting, tokens)).2 := by
  by_cases fits : level.tightness ≤ own.tightness
  · simp only [enclosed, if_pos fits]
    exact written.fit fits
  · simp only [enclosed, if_neg fits]
    have inside : Written formula (.junction .disjunction) nesting tokens :=
      written.fit (Nat.zero_le _)
    exact inside.parenthesized.fit level.tightness_le_operand

end Written

theorem written_write (style : Style) (formula : Formula) (level : Level) :
    formula.Written level (formula.write style level).1
      (formula.write style level).2 := by
  induction formula generalizing level with
  | fact word known => exact (Written.fact known).enclose level
  | constant value => exact (Written.constant value).enclose level
  | negation operand induction =>
      have fits : Level.negation.tightness ≤ (style.operand .negation).tightness := by
        cases style <;> decide
      exact ((induction _).fit fits).negation.enclose level
  | junction connective left right leftInduction rightInduction =>
      have fits : (Level.junction connective).tightness ≤
          (style.operand (.junction connective)).tightness := by
        cases style <;> cases connective <;> decide
      exact ((leftInduction _).fit fits |>.junction ((rightInduction _).fit fits)).enclose
        level

end Formula

/-! ## Meaning of written formulas -/

namespace Condition.Derivation

/-- What a derivation means has an answer, if it is a junction through its operands. -/
def PartsAnswer (facts : Facts) (truth : Bool) :
    {level : Level} → Derivation (.level level) → Prop
  | .junction connective, .junction _ first others =>
      OperandsAnswer facts connective (first.meaning :: others.meaning) truth
  | .negation, derivation | .comparison, derivation | .operand, derivation =>
      Condition.Answers facts derivation.meaning truth

theorem PartsAnswer.answers {facts : Facts} {truth : Bool} {level : Level}
    {derivation : Derivation (.level level)}
    (answer : derivation.PartsAnswer facts truth) :
    Condition.Answers facts derivation.meaning truth := by
  cases derivation with
  | junction connective first others =>
      rw [meaning_junction]
      exact OperandsAnswer.join answer
  | _ => exact answer

end Condition.Derivation

namespace Formula

theorem exists_lookup_of_known (target : Target) {word : String}
    (known : word ∈ Facts.names) : ∃ fact, target.facts.lookup word = some fact :=
  Option.isSome_iff_exists.mp ((target.isSome_lookup_facts_iff word).mpr known)

/-- A derivation of tokens, nested as deep as given, whose meaning has the answer. -/
def Derives (facts : Facts) (truth : Bool) (level : Level) (nesting : Nat)
    (tokens : List Token) : Prop :=
  ∃ derivation : Derivation (.level level), derivation.yield = tokens ∧
    derivation.nesting = nesting ∧ derivation.PartsAnswer facts truth

section Derives

variable {facts : Facts} {truth : Bool} {nesting : Nat} {tokens : List Token}

theorem Derives.looser {level : Level}
    (derives : Derives facts truth level nesting tokens) :
    Derives facts truth level.looser nesting tokens := by
  rcases derives with ⟨derivation, rfl, rfl, answer⟩
  cases level with
  | operand =>
      exact ⟨.comparison derivation .noStep, List.append_nil _, Nat.max_zero _, answer⟩
  | comparison => exact ⟨.plain derivation, rfl, rfl, answer⟩
  | negation =>
      exact ⟨.junction .conjunction derivation (.noOperand _), List.append_nil _,
        Nat.max_zero _, .singleton answer⟩
  | junction connective =>
      cases connective with
      | conjunction =>
          exact ⟨.junction .disjunction derivation (.noOperand _), List.append_nil _,
            Nat.max_zero _, .singleton answer.answers⟩
      | disjunction => exact ⟨derivation, rfl, rfl, answer⟩

theorem Derives.junction {connective : Connective} {left right : Bool}
    {leftNesting rightNesting : Nat} {leftTokens rightTokens : List Token}
    (leftDerives : Derives facts left (.junction connective) leftNesting leftTokens)
    (rightDerives : Derives facts right (.junction connective) rightNesting rightTokens) :
    Derives facts (connective.test left right) (.junction connective)
      (max leftNesting rightNesting) (leftTokens ++ connective.token :: rightTokens) := by
  rcases leftDerives with ⟨leftDerivation, rfl, rfl, leftAnswer⟩
  rcases rightDerives with ⟨rightDerivation, rfl, rfl, rightAnswer⟩
  cases leftDerivation with
  | junction _ leftFirst leftOthers =>
      cases rightDerivation with
      | junction _ rightFirst rightOthers =>
          refine ⟨.junction connective leftFirst (leftOthers.append
            (.nextOperand connective rightFirst rightOthers)), ?_, ?_, ?_⟩
          · simp [Derivation.yield, Derivation.yield_append]
          · simp [Derivation.nesting, Derivation.nesting_append, Nat.max_assoc]
          · have answer := OperandsAnswer.append leftAnswer rightAnswer
            rw [List.cons_append] at answer
            change OperandsAnswer facts connective (leftFirst.meaning :: _) _
            rw [Derivation.meaning_append]
            exact answer

end Derives

theorem holds_junction (target : Target) (connective : Connective)
    (left right : Formula) :
    (junction connective left right).holds target =
      connective.test (left.holds target) (right.holds target) := by
  cases connective <;> rfl

theorem Written.derives (target : Target) {formula : Formula} {level : Level}
    {nesting : Nat} {tokens : List Token}
    (written : Written formula level nesting tokens) :
    Derives target.facts (formula.holds target) level nesting tokens := by
  -- Operands are joined without a trace of how they were grouped, so the induction
  -- keeps the answers of the single operands and not only that of the junction.
  induction written with
  | @fact word known =>
      rcases exists_lookup_of_known target known with ⟨fact, found⟩
      refine ⟨.name word, rfl, rfl, .ofFact fact, ?_, ?_⟩
      · simp [Derivation.meaning, value, found]
      · rw [holds, found]
        cases fact <;> rfl
  | constant truth =>
      refine ⟨.boolean truth, rfl, rfl, .boolean truth, ?_, rfl⟩
      rw [Derivation.meaning, value]
  | parenthesized _ induction =>
      rcases induction with ⟨derivation, rfl, rfl, answer⟩
      exact ⟨.parenthesized derivation, rfl, rfl, answer.answers⟩
  | negation _ induction =>
      rcases induction with ⟨derivation, rfl, rfl, answer⟩
      exact ⟨.negated derivation, rfl, rfl, Answers.negation answer⟩
  | junction _ _ leftInduction rightInduction =>
      rw [holds_junction]
      exact leftInduction.junction rightInduction
  | looser _ induction => exact induction.looser

/-! ## Lines with a formula -/

/-- The tokens of formulas: names of facts, truth values, connectives and parentheses. -/
def IsToken : Token → Prop
  | .name word => word ∈ Facts.names
  | .boolean _ | .conjunction | .disjunction | .negation | .opening | .closing => True
  | .integer _ | .text _ | .relation _ | .membership | .comma => False

theorem Written.isToken {formula : Formula} {level : Level} {nesting : Nat}
    {tokens : List Token} (written : Written formula level nesting tokens) :
    ∀ token ∈ tokens, IsToken token := by
  induction written with
  | fact known => simpa [IsToken] using known
  | constant truth => simp [IsToken]
  | parenthesized _ induction =>
      simpa [IsToken, or_imp, forall_and] using induction
  | negation _ induction => simpa [IsToken] using induction
  | @junction connective _ _ _ _ _ _ _ _ leftInduction rightInduction =>
      have connects : IsToken connective.token := by
        cases connective <;> trivial
      intro token member
      rcases List.mem_append.mp member with member | member
      · exact leftInduction token member
      · rcases List.mem_cons.mp member with rfl | member
        · exact connects
        · exact rightInduction token member
  | looser _ induction => exact induction

section Lines

variable {formula : Formula} {nesting : Nat} {text : List Char} {located : List Located}

/-- A formula that is written as a text, at any distance between the tokens, is a
condition with the truth of the formula. -/
theorem isSelected_of_written (target : Target)
    (written : Written formula (.junction .disjunction) nesting (bare located))
    (shallow : nesting ≤ depthLimit) (spelled : Spelled 0 text located) :
    Selector.isSelected target.facts text = .ok (formula.holds target) := by
  rcases written.derives target with ⟨derivation, yields, rfl, answer⟩
  have lexed : tokens text = .ok located := tokensFrom_of_spelled spelled
  have parsed := parse_eq_ok_of_yield lexed derivation yields shallow
  have known : ∀ word ∈ derivation.meaning.names, (target.facts.lookup word).isSome := by
    intro word member
    have names := derivation.names_meaning
    rw [Category.names, yields] at names
    rw [names] at member
    rcases List.mem_filterMap.mp member with ⟨token, tokenMember, found⟩
    have logical := written.isToken token tokenMember
    cases token <;> cases found
    exact Option.isSome_iff_exists.mpr (exists_lookup_of_known target logical)
  rcases answer.answers with ⟨value, evaluated, truth⟩
  rw [Selector.isSelected, parsed, ok_bind, evaluate_eq_value known, evaluated, ok_bind,
    truth]
  rfl

/-- A line with a written formula is never an error: the targets for which the formula
is true keep its content, and all others nothing. -/
theorem select_formula (target : Target) {content : List Char}
    (trimmed : Text.trimEnd content = content) (notEmpty : content ≠ [])
    (contentSingle : '\n' ∉ content)
    (written : Written formula (.junction .disjunction) nesting
      (located.map Located.token))
    (shallow : nesting ≤ 64) (spelled : Spelled 0 text located) (single : '\n' ∉ text) :
    Selector.select target.facts
        (String.ofList (content ++ "  [".toList ++ text ++ "]".toList)) =
      .ok (String.ofList
        (if formula.holds target then content ++ ['\n'] else ['\n'])) := by
  have isToken := written.isToken
  have notText : ∀ token ∈ located.map Located.token, ∀ body, token ≠ .text body := by
    rintro _ member body rfl
    exact isToken _ member
  have notBracket := spelled.not_bracket notText
  have someToken : located ≠ [] := by
    rintro rfl
    rcases written.derives target with ⟨derivation, yields, _⟩
    rcases derivation.level_first with ⟨head, tail, equal, _⟩
    cases equal.symm.trans yields
  let line : Selector.SelectorLine :=
    { content, gap := [' ', ' '], condition := text, trail := []
      contentTrimmed := trimmed
      contentNotEmpty := notEmpty
      gapBlank := List.forall_mem_cons.mpr ⟨rfl, List.forall_mem_singleton.mpr rfl⟩
      trailBlank := by simp
      conditionNotBlank := spelled.exists_not_blank someToken
      conditionOpen := fun member => (notBracket _ member).1 rfl
      conditionClosed := fun member => (notBracket _ member).2 rfl
      single := by simp [contentSingle, single] }
  have answered : Selector.isSelected target.facts line.condition =
      .ok (formula.holds target) := isSelected_of_written target written shallow spelled
  have same :
      content ++ "  [".toList ++ text ++ "]".toList = line.body ++ line.trail := by
    simp [line, Selector.SelectorLine.body]
  rw [same]
  exact Selector.select_selectorLine answered

/-- Both styles: the number zero is false, and every other number is true. -/
theorem select_double_negation :
    Selector.select (Target.facts ⟨"linux-64", 27, 19⟩) "a  [not not py]" = .ok "a\n" ∧
      Selector.select (Target.facts ⟨"linux-64", 0, 19⟩) "a  [not (not py)]" =
        .ok "\n" := by
  let formula : Formula := .negation (.negation (.fact "py" (by decide)))
  have negationWord : Lexeme (Token.ofWord ['n', 'o', 't']) ['n', 'o', 't'] :=
    .word rfl (by simp [Token.isNamePart])
  have nameWord : Lexeme (Token.ofWord ['p', 'y']) ['p', 'y'] :=
    .word rfl (by simp [Token.isNamePart])
  have negation : Lexeme .negation ['n', 'o', 't'] := negationWord
  have name : Lexeme (.name "py") ['p', 'y'] := nameWord
  have content : Text.trimEnd "a".toList = "a".toList := rfl
  have stops : ∀ (token : Token) rest, token.StopsBefore (' ' :: rest) :=
    fun token => stopsBefore_of_isBlank token rfl
  constructor
  · have spelled : Spelled 0 (['n', 'o', 't'] ++ ' ' :: (['n', 'o', 't'] ++ ' ' ::
        (['p', 'y'] ++ []))) [⟨0, .negation⟩, ⟨4, .negation⟩, ⟨8, .name "py"⟩] :=
      .lexeme negation (stops _ _) (.blank rfl (.lexeme negation (stops _ _)
        (.blank rfl (.lexeme name (by simp [Token.StopsBefore]) (.nil _)))))
    have written := formula.written_write .sparse (.junction .disjunction)
    have kept := select_formula ⟨"linux-64", 27, 19⟩ content (by decide) (by decide)
      written (by decide) spelled (by decide)
    have line : String.ofList ("a".toList ++ "  [".toList ++ (['n', 'o', 't'] ++ ' ' ::
        (['n', 'o', 't'] ++ ' ' :: (['p', 'y'] ++ []))) ++ "]".toList) =
          "a  [not not py]" := by decide
    rw [line] at kept
    exact kept
  · have spelled : Spelled 0 (['n', 'o', 't'] ++ ' ' :: (['('] ++ (['n', 'o', 't'] ++
        ' ' :: (['p', 'y'] ++ ([')'] ++ []))))) [⟨0, .negation⟩, ⟨4, .opening⟩,
          ⟨5, .negation⟩, ⟨9, .name "py"⟩, ⟨11, .closing⟩] :=
      .lexeme negation (stops _ _) (.blank rfl (.lexeme .opening trivial
        (.lexeme negation (stops _ _) (.blank rfl (.lexeme name
          (by simp [Token.StopsBefore]; decide) (.lexeme .closing trivial (.nil _)))))))
    have written := formula.written_write .full (.junction .disjunction)
    have dropped := select_formula ⟨"linux-64", 0, 19⟩ content (by decide) (by decide)
      written (by decide) spelled (by decide)
    have line : String.ofList ("a".toList ++ "  [".toList ++ (['n', 'o', 't'] ++ ' ' ::
        (['('] ++ (['n', 'o', 't'] ++ ' ' :: (['p', 'y'] ++ ([')'] ++ []))))) ++
          "]".toList) = "a  [not (not py)]" := by decide
    rw [line] at dropped
    exact dropped

end Lines

end Formula

end PackageRecipe
