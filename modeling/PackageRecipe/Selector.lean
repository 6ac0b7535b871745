import PackageRecipe.Condition.Parser
import PackageRecipe.Condition.Evaluation

/-!
Line selectors. A line that ends with a condition in brackets belongs to the
targets for which the condition is true, and loses the brackets there; on other
targets the line is dropped. The first condition that has no answer is an error of
the whole text, in which lines are counted from one.
-/

namespace PackageRecipe

namespace Selector

/-- The content and the condition of a line that ends with a selector: the last
bracketed group, which closes the line, is not blank and holds no bracket, after
some content that is not blank. -/
def split? (line : List Char) : Option (List Char × List Char) :=
  match line.reverse with
  | ']' :: body =>
      match body.dropWhile (· != '[') with
      | [] => none
      | _ :: before =>
          let condition := (body.takeWhile (· != '[')).reverse
          let content := (before.dropWhile Text.isBlank).reverse
          if ']' ∈ condition ∨ condition.all Text.isBlank ∨ content = [] then none
          else some (content, condition)
  | _ => none

example : split? "deps: [a, b]  [linux]".toList =
    some ("deps: [a, b]".toList, "linux".toList) := by decide

example : split? "x: [a [b] c]".toList = none := by decide

structure Error where
  line : Nat
  condition : String
  cause : Condition.Error
  deriving DecidableEq, Repr

def Error.message (error : Error) : String :=
  s!"selector on line {error.line} [{error.condition}]: {error.cause.message}"

def isSelected (facts : Facts) (condition : List Char) : Except Condition.Error Bool := do
  let condition ← Condition.parse condition
  return (← condition.evaluate facts).isTrue

def keepLine (facts : Facts) (number : Nat) (line : List Char) :
    Except Error (Option (List Char)) :=
  let line := Text.trimEnd line
  match split? line with
  | none => .ok (some line)
  | some (content, condition) =>
      match isSelected facts condition with
      | .error cause => .error ⟨number, String.ofList condition, cause⟩
      | .ok selected => .ok (if selected then some content else none)

def keepLines (facts : Facts) (number : Nat) :
    List (List Char) → Except Error (List (List Char))
  | [] => .ok []
  | line :: rest => do
      let kept ← keepLine facts number line
      let others ← keepLines facts (number + 1) rest
      return kept.toList ++ others

/-- A text without lines is a lone line feed. -/
def joinLines : List (List Char) → List Char
  | [] => ['\n']
  | lines => lines.flatMap (· ++ ['\n'])

def select (facts : Facts) (text : String) : Except Error String := do
  let kept ← keepLines facts 1 (Text.lines text.toList)
  return String.ofList (joinLines kept)

end Selector

end PackageRecipe
