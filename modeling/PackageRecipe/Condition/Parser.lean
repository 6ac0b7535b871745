import PackageRecipe.Condition.Token

/-!
Reading a condition from its tokens. From the loosest to the tightest, the levels
are disjunction, conjunction, negation, comparison and operand. Parentheses and
negations may be nested to a fixed depth, which is the measure of the recursion;
within one depth every level is a plain combination of the next.
-/

namespace PackageRecipe.Condition

def depthLimit : Nat := 64

/-- The remaining tokens are those from the one at fault on. -/
structure Failure where
  remaining : List Located
  fault : Fault
  deriving DecidableEq, Repr

abbrev Reader (α : Type) : Type :=
  List Located → Except Failure (α × List Located)

namespace Reader

def fail {α : Type} (fault : Fault) : Reader α :=
  fun tokens => .error ⟨tokens, fault⟩

/-- Each operand takes at least the separator before it, so the number of tokens bounds
the recursion. -/
def others (separator : Token) (operand : Reader Condition) :
    (bound : Nat) → Reader (List Condition)
  | bound + 1, ⟨position, token⟩ :: rest =>
      if token = separator then do
        let (head, rest) ← operand rest
        let (tail, rest) ← others separator operand bound rest
        return (head :: tail, rest)
      else .ok ([], ⟨position, token⟩ :: rest)
  | _, tokens => .ok ([], tokens)

def join (connective : List Condition → Condition) : List Condition → Condition
  | [operand] => operand
  | operands => connective operands

def junction (separator : Token) (connective : List Condition → Condition)
    (operand : Reader Condition) : Reader Condition := fun tokens => do
  let (head, rest) ← operand tokens
  let (tail, rest) ← others separator operand rest.length rest
  return (join connective (head :: tail), rest)

def conjunction (operand : Reader Condition) : Reader Condition :=
  junction .conjunction .conjunction operand

def disjunction (operand : Reader Condition) : Reader Condition :=
  junction .disjunction .disjunction (conjunction operand)

def relation? : List Located → Option (Relation × List Located)
  | ⟨_, .relation relation⟩ :: rest => some (relation, rest)
  | ⟨_, .membership⟩ :: rest => some (.member, rest)
  | ⟨_, .negation⟩ :: ⟨_, .membership⟩ :: rest => some (.notMember, rest)
  | _ => none

def steps (operand : Reader Condition) :
    (bound : Nat) → Reader (List (Relation × Condition))
  | 0, tokens => .ok ([], tokens)
  | bound + 1, tokens =>
      match relation? tokens with
      | some (relation, rest) => do
          let (condition, rest) ← operand rest
          let (tail, rest) ← steps operand bound rest
          return ((relation, condition) :: tail, rest)
      | none => .ok ([], tokens)

def compared (first : Condition) : List (Relation × Condition) → Condition
  | [] => first
  | steps => .comparison first steps

def comparison (operand : Reader Condition) : Reader Condition := fun tokens => do
  let (first, rest) ← operand tokens
  let (steps, rest) ← steps operand rest.length rest
  return (compared first steps, rest)

def closing : Reader Unit
  | ⟨_, .closing⟩ :: rest => .ok ((), rest)
  | tokens => fail .expectedClosing tokens

/-- The items of a tuple after the first. A comma may stand before the closing
parenthesis. -/
def items (item : Reader Condition) : (bound : Nat) → Reader (List Condition)
  | _, ⟨_, .comma⟩ :: ⟨position, .closing⟩ :: rest =>
      .ok ([], ⟨position, .closing⟩ :: rest)
  | bound + 1, ⟨_, .comma⟩ :: rest => do
      let (head, rest) ← item rest
      let (tail, rest) ← items item bound rest
      return (head :: tail, rest)
  | _, tokens => .ok ([], tokens)

def group (inner : Reader Condition) : Reader Condition
  | ⟨_, .closing⟩ :: rest => .ok (.tuple [], rest)
  | tokens => do
      let (first, rest) ← inner tokens
      match rest with
      | ⟨_, .comma⟩ :: _ =>
          let (others, rest) ← items inner rest.length rest
          let (_, rest) ← closing rest
          return (.tuple (first :: others), rest)
      | _ =>
          let (_, rest) ← closing rest
          return (first, rest)

/-- What an opening parenthesis starts is left to `parenthesized`, which gets the
parenthesis too. -/
def operand (parenthesized : Reader Condition) : Reader Condition
  | ⟨_, .name word⟩ :: rest => .ok (.name word, rest)
  | ⟨_, .integer value⟩ :: rest => .ok (.integer value, rest)
  | ⟨_, .text value⟩ :: rest => .ok (.text value, rest)
  | ⟨_, .boolean value⟩ :: rest => .ok (.boolean value, rest)
  | ⟨position, .opening⟩ :: rest => parenthesized (⟨position, .opening⟩ :: rest)
  | [] => fail .endOfCondition []
  | tokens => fail .expectedOperand tokens

def negationOr (negated parenthesized : Reader Condition) : Reader Condition
  | ⟨_, .negation⟩ :: rest => do
      let (condition, rest) ← negated rest
      return (.negation condition, rest)
  | tokens => comparison (operand parenthesized) tokens

def negation : (depth : Nat) → Reader Condition
  | 0 => negationOr (fail .tooDeep) (fail .tooDeep)
  | depth + 1 =>
      negationOr (negation depth) fun tokens =>
        group (disjunction (negation depth)) tokens.tail

def condition (depth : Nat) : Reader Condition :=
  disjunction (negation depth)

end Reader

/-- Where no token is left, the fault is at the end of the text, which has length `stop`. -/
def positionOf (stop : Nat) : List Located → Nat
  | [] => stop
  | head :: _ => head.position

def ofTokens (stop : Nat) (tokens : List Located) : Except Error Condition :=
  match Reader.condition depthLimit tokens with
  | .error ⟨remaining, fault⟩ => .error (.malformed (positionOf stop remaining) fault)
  | .ok (condition, []) => .ok condition
  | .ok (_, remaining) => .error (.malformed (positionOf stop remaining) .trailingInput)

def parse (text : List Char) : Except Error Condition := do
  ofTokens text.length (← tokens text)

end PackageRecipe.Condition
