import PackageRecipe.Condition
import PackageRecipe.Text.Blank

/-!
The values of conditions, and how the relations compare them. A boolean counts as
the number 0 or 1, so it can equal an integer; other values of different kinds are
different, and have no order.
-/

namespace PackageRecipe.Condition

inductive Value where
  | boolean (value : Bool)
  | integer (value : Int)
  | text (value : String)
  | tuple (items : List Value)
  deriving Repr

namespace Value

/-- Whether a value counts as true: zero and everything empty do not. -/
def isTrue : Value → Bool
  | .boolean value => value
  | .integer value => value != 0
  | .text value => value != ""
  | .tuple items => !items.isEmpty

def kind : Value → Kind
  | .boolean _ => .boolean
  | .integer _ => .integer
  | .text _ => .text
  | .tuple _ => .tuple

def number? : Value → Option Int
  | .boolean value => some (if value then 1 else 0)
  | .integer value => some value
  | .text _ | .tuple _ => none

mutual
def same : Value → Value → Bool
  | .text left, .text right => left == right
  | .tuple left, .tuple right => sameItems left right
  | left, right =>
      match left.number?, right.number? with
      | some left, some right => left == right
      | _, _ => false

def sameItems : List Value → List Value → Bool
  | [], [] => true
  | left :: lefts, right :: rights => left.same right && sameItems lefts rights
  | _, _ => false
end

mutual
/-- The order of two values, or the kinds of the two that have none. Numbers are
ordered by size, texts by their characters, and tuples by the first items that
differ. -/
def order : Value → Value → Except (Kind × Kind) Ordering
  | .text left, .text right => .ok (compare left right)
  | .tuple left, .tuple right => orderItems left right
  | left, right =>
      match left.number?, right.number? with
      | some left, some right => .ok (compare left right)
      | _, _ => .error (left.kind, right.kind)

def orderItems : List Value → List Value → Except (Kind × Kind) Ordering
  | [], [] => .ok .eq
  | [], _ :: _ => .ok .lt
  | _ :: _, [] => .ok .gt
  | left :: lefts, right :: rights =>
      if left.same right then orderItems lefts rights else left.order right
end

/-- Whether a value is an item of a tuple, or a text part of a text. -/
def memberOf : Value → Value → Except (Kind × Kind) Bool
  | value, .tuple items => .ok (items.any value.same)
  | .text part, .text whole => .ok (Text.occursIn part.toList whole.toList)
  | value, other => .error (value.kind, other.kind)

end Value

def holds (relation : Relation) (left right : Value) :
    Except (Kind × Kind) Bool :=
  match relation with
  | .equal => .ok (left.same right)
  | .different => .ok (!left.same right)
  | .less => (left.order right).map (·.isLT)
  | .atMost => (left.order right).map (·.isLE)
  | .greater => (left.order right).map (·.isGT)
  | .atLeast => (left.order right).map (·.isGE)
  | .member => left.memberOf right
  | .notMember => (left.memberOf right).map (!·)

end PackageRecipe.Condition
