/-!
Conditions: the expressions that decide which lines of a recipe a target keeps.
-/

namespace PackageRecipe

inductive Relation where
  | equal
  | different
  | less
  | atMost
  | greater
  | atLeast
  | member
  | notMember
  deriving DecidableEq, Repr

def Relation.symbol : Relation → String
  | .equal => "=="
  | .different => "!="
  | .less => "<"
  | .atMost => "<="
  | .greater => ">"
  | .atLeast => ">="
  | .member => "in"
  | .notMember => "not in"

/-- A condition. A comparison holds if each of its steps holds between the
operand before it and its own. -/
inductive Condition where
  | name (word : String)
  | integer (value : Int)
  | text (value : String)
  | boolean (value : Bool)
  | tuple (items : List Condition)
  | negation (operand : Condition)
  | conjunction (operands : List Condition)
  | disjunction (operands : List Condition)
  | comparison (first : Condition) (steps : List (Relation × Condition))
  deriving Repr

/-! The names of a condition, from left to right and with repeats. -/

mutual
def Condition.names : Condition → List String
  | .name word => [word]
  | .integer _ | .text _ | .boolean _ => []
  | .tuple items => namesOfAll items
  | .negation operand => operand.names
  | .conjunction operands => namesOfAll operands
  | .disjunction operands => namesOfAll operands
  | .comparison first steps => first.names ++ namesOfSteps steps

def Condition.namesOfAll : List Condition → List String
  | [] => []
  | head :: tail => head.names ++ namesOfAll tail

def Condition.namesOfSteps : List (Relation × Condition) → List String
  | [] => []
  | (_, operand) :: tail => operand.names ++ namesOfSteps tail
end

example :
    (Condition.comparison (.integer 26) [(.atMost, .name "py"), (.member,
      .tuple [.name "np", .name "py"])]).names = ["py", "np", "py"] := rfl

namespace Condition

inductive Fault where
  | unterminatedText
  | unsupportedOperator (operator : Char)
  | invalidInteger (digits : String)
  | unexpectedCharacter (character : Char)
  | trailingInput
  | tooDeep
  | endOfCondition
  | expectedOperand
  | expectedClosing
  deriving DecidableEq, Repr

def Fault.message : Fault → String
  | .unterminatedText => "unterminated string literal"
  | .unsupportedOperator operator => s!"unsupported operator '{operator}'"
  | .invalidInteger digits => s!"invalid integer literal '{digits}'"
  | .unexpectedCharacter character => s!"unexpected character '{character}'"
  | .trailingInput => "unexpected trailing input"
  | .tooDeep => "condition nested too deeply"
  | .endOfCondition => "unexpected end of condition"
  | .expectedOperand => "expected identifier, literal, or '('"
  | .expectedClosing => "expected ')'"

inductive Kind where
  | boolean
  | integer
  | text
  | tuple
  deriving DecidableEq, Repr

def Kind.word : Kind → String
  | .boolean => "bool"
  | .integer => "int"
  | .text => "str"
  | .tuple => "tuple"

/-- Why a condition has no answer: its text is malformed at a position, counted in
characters, or it names no fact, or it compares values of unrelated kinds. -/
inductive Error where
  | malformed (position : Nat) (fault : Fault)
  | unknownName (word : String)
  | mismatch (relation : Relation) (left right : Kind)
  deriving DecidableEq, Repr

def Error.message : Error → String
  | .malformed position fault =>
      s!"invalid condition at position {position}: {fault.message}"
  | .unknownName word => s!"name '{word}' is not defined"
  | .mismatch relation left right =>
      s!"'{relation.symbol}' not supported between {left.word} and {right.word}"

end Condition

end PackageRecipe
