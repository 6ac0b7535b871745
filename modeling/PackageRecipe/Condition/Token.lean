import PackageRecipe.Condition
import PackageRecipe.Text.Blank
import PackageRecipe.Text.Numeral

/-!
The tokens of a condition. Blanks stand between tokens; every token takes as many
characters as it can.
-/

namespace PackageRecipe.Condition

inductive Token where
  | name (word : String)
  | integer (value : Nat)
  | text (value : String)
  | boolean (value : Bool)
  | conjunction
  | disjunction
  | negation
  | membership
  | relation (relation : Relation)
  | opening
  | closing
  | comma
  deriving DecidableEq, Repr

structure Located where
  position : Nat
  token : Token
  deriving DecidableEq, Repr

namespace Token

def integerBound : Nat := 0x8000000000000000

def isNameStart (character : Char) : Bool :=
  character.isAlpha || character == '_'

def isNamePart (character : Char) : Bool :=
  character.isAlphanum || character == '_'

def ofWord (word : List Char) : Token :=
  match word with
  | ['a', 'n', 'd'] => .conjunction
  | ['o', 'r'] => .disjunction
  | ['n', 'o', 't'] => .negation
  | ['i', 'n'] => .membership
  | ['T', 'r', 'u', 'e'] => .boolean true
  | ['F', 'a', 'l', 's', 'e'] => .boolean false
  | word => .name (String.ofList word)

def ofSign? (sign : Char) (beforeEquals : Bool) : Option Relation :=
  match sign, beforeEquals with
  | '=', true => some .equal
  | '!', true => some .different
  | '<', false => some .less
  | '<', true => some .atMost
  | '>', false => some .greater
  | '>', true => some .atLeast
  | _, _ => none

/-- The token that starts with the character `head`, which is not blank, and how
many of the characters after it belong to it. -/
def first (head : Char) (tail : List Char) : Except Fault (Token × Nat) :=
  if head = '(' then .ok (.opening, 0)
  else if head = ')' then .ok (.closing, 0)
  else if head = ',' then .ok (.comma, 0)
  else if head = '\'' ∨ head = '"' then
    let body := tail.takeWhile (· != head)
    if body.length < tail.length then .ok (.text (String.ofList body), body.length + 1)
    else .error .unterminatedText
  else if head = '=' ∨ head = '!' ∨ head = '<' ∨ head = '>' then
    let beforeEquals := tail.head? = some '='
    match ofSign? head beforeEquals with
    | some tested => .ok (.relation tested, if beforeEquals then 1 else 0)
    | none => .error (.unsupportedOperator head)
  else if head.isDigit then
    let others := tail.takeWhile (·.isAlphanum)
    match Text.readUnsigned? integerBound (head :: others) with
    | some value => .ok (.integer value, others.length)
    | none => .error (.invalidInteger (String.ofList (head :: others)))
  else if isNameStart head then
    let others := tail.takeWhile isNamePart
    .ok (ofWord (head :: others), others.length)
  else .error (.unexpectedCharacter head)

end Token

/-- The tokens of a text that stands `position` characters into a condition, when
its first `taken` characters belong to the token before. -/
def tokensFrom (position taken : Nat) : List Char → Except Error (List Located)
  | [] => .ok []
  | head :: tail =>
      match taken with
      | taken + 1 => tokensFrom (position + 1) taken tail
      | 0 =>
          if Text.isBlank head then tokensFrom (position + 1) 0 tail
          else
            match Token.first head tail with
            | .error fault => .error (.malformed position fault)
            | .ok (token, count) => do
                let others ← tokensFrom (position + 1) count tail
                return ⟨position, token⟩ :: others

def tokens (text : List Char) : Except Error (List Located) :=
  tokensFrom 0 0 text

example : tokens "py<=27".toList =
    .ok [⟨0, .name "py"⟩, ⟨2, .relation .atMost⟩, ⟨4, .integer 27⟩] := rfl

end PackageRecipe.Condition
