import PackageRecipe.Condition.Value
import PackageRecipe.Target

/-!
The value of a condition for the facts about a target. A connective has the value
of the operand that decides it, and operands after that one are not evaluated; but
every name of a condition must be a fact, even where no evaluation reaches it.
-/

namespace PackageRecipe.Condition

def Value.ofFact : Fact → Value
  | .boolean value => .boolean value
  | .integer value => .integer value

def testStep (relation : Relation) (left right : Value) : Except Error Bool :=
  (holds relation left right).mapError fun (left, right) => .mismatch relation left right

mutual
def value (facts : Facts) : Condition → Except Error Value
  | .name word =>
      match facts.lookup word with
      | some fact => .ok (.ofFact fact)
      | none => .error (.unknownName word)
  | .integer value => .ok (.integer value)
  | .text value => .ok (.text value)
  | .boolean value => .ok (.boolean value)
  | .tuple items => do return .tuple (← values facts items)
  | .negation operand => do return .boolean !(← value facts operand).isTrue
  | .conjunction operands => deciding facts false (.boolean true) operands
  | .disjunction operands => deciding facts true (.boolean false) operands
  | .comparison first steps => do
      let left ← value facts first
      return .boolean (← chain facts left steps)

def values (facts : Facts) : List Condition → Except Error (List Value)
  | [] => .ok []
  | head :: tail => do
      let value ← value facts head
      return value :: (← values facts tail)

/-- The value of the first operand whose truth is `decisive`, or else of the last
one, which is `last` before the first. -/
def deciding (facts : Facts) (decisive : Bool) (last : Value) :
    List Condition → Except Error Value
  | [] => .ok last
  | head :: tail => do
      let value ← value facts head
      if value.isTrue = decisive then return value
      deciding facts decisive value tail

def chain (facts : Facts) (left : Value) :
    List (Relation × Condition) → Except Error Bool
  | [] => .ok true
  | (relation, operand) :: tail => do
      let right ← value facts operand
      if ← testStep relation left right then chain facts right tail
      else return false
end

/-- The first name that is no fact is an error before all others. -/
def evaluate (facts : Facts) (condition : Condition) : Except Error Value :=
  match condition.names.find? fun word => (facts.lookup word).isNone with
  | some word => .error (.unknownName word)
  | none => condition.value facts

end PackageRecipe.Condition
