import PackageRecipe.Json
import PackageRecipe.Text.Numeral

/-!
Reading JSON. A text is one value with blanks around its tokens and nothing else.
Repeated keys are kept, for the caller to judge.
-/

namespace PackageRecipe.Json

abbrev Reader (α : Type) : Type :=
  List Char → Option (α × List Char)

namespace Reader

def skipBlanks (text : List Char) : List Char :=
  text.dropWhile fun character =>
    character == ' ' || character == '\n' || character == '\t' || character == '\r'

def codeUnit : Reader Nat
  | a :: b :: c :: d :: rest => do
      let digits ← [a, b, c, d].mapM Text.hexadecimalValue?
      let value := digits.foldl (fun value digit => value * 16 + digit) 0
      return (value, rest)
  | _ => none

/-- A character outside the first plane is written as two surrogate code units; a
surrogate alone is refused. -/
def codePoint : Reader Char := fun text => do
  let (unit, rest) ← codeUnit text
  if 0xD800 ≤ unit ∧ unit < 0xDC00 then
    match rest with
    | '\\' :: 'u' :: rest => do
        let (low, rest) ← codeUnit rest
        if 0xDC00 ≤ low ∧ low < 0xE000 then
          return (Char.ofNat (0x10000 + (unit - 0xD800) * 0x400 + (low - 0xDC00)), rest)
        else none
    | _ => none
  else if 0xDC00 ≤ unit ∧ unit < 0xE000 then none
  else return (Char.ofNat unit, rest)

def escape : Reader Char
  | '"' :: rest => some ('"', rest)
  | '\\' :: rest => some ('\\', rest)
  | '/' :: rest => some ('/', rest)
  | 'b' :: rest => some ('\x08', rest)
  | 'f' :: rest => some ('\x0c', rest)
  | 'n' :: rest => some ('\n', rest)
  | 'r' :: rest => some ('\r', rest)
  | 't' :: rest => some ('\t', rest)
  | 'u' :: rest => codePoint rest
  | _ => none

/-- The characters up to the closing quote. Each takes at least one character of
the text, so its length bounds the recursion. -/
def textBody : (bound : Nat) → Reader (List Char)
  | 0, _ => none
  | _ + 1, [] => none
  | _ + 1, '"' :: rest => some ([], rest)
  | bound + 1, '\\' :: rest => do
      let (character, rest) ← escape rest
      let (tail, rest) ← textBody bound rest
      return (character :: tail, rest)
  | bound + 1, character :: rest =>
      if character.toNat < 0x20 then none
      else do
        let (tail, rest) ← textBody bound rest
        return (character :: tail, rest)

def stringLiteral : Reader String
  | '"' :: rest => do
      let (characters, rest) ← textBody (rest.length + 1) rest
      return (String.ofList characters, rest)
  | _ => none

def digits : Reader (List Char) := fun text =>
  let found := text.takeWhile (·.isDigit)
  if found = [] then none else some (found, text.dropWhile (·.isDigit))

def wholePart : Reader (List Char)
  | '0' :: rest => if (rest.head?.map (·.isDigit)) = some true then none else some (['0'], rest)
  | text => digits text

def fraction : Reader (List Char)
  | '.' :: rest => do
      let (found, rest) ← digits rest
      return ('.' :: found, rest)
  | text => some ([], text)

def power : Reader (List Char)
  | letter :: rest =>
      if letter = 'e' ∨ letter = 'E' then
        match rest with
        | '+' :: rest => do
            let (found, rest) ← digits rest
            return ('e' :: found, rest)
        | '-' :: rest => do
            let (found, rest) ← digits rest
            return ('e' :: '-' :: found, rest)
        | _ => do
            let (found, rest) ← digits rest
            return ('e' :: found, rest)
      else some ([], letter :: rest)
  | [] => some ([], [])

/-- A number is an integer if it has neither fraction nor power and is not a
negative zero. -/
def number : Reader Json := fun text => do
  let (negative, rest) := match text with
    | '-' :: rest => (true, rest)
    | _ => (false, text)
  let (whole, rest) ← wholePart rest
  let (fraction, rest) ← fraction rest
  let (power, rest) ← power rest
  let value : Int := Text.decimalValue whole
  if fraction = [] ∧ power = [] ∧ ¬(negative ∧ value = 0) then
    return (.integer (if negative then -value else value), rest)
  let numeral := (if negative then ['-'] else []) ++ whole ++ fraction ++ power
  return (.decimal (String.ofList numeral), rest)

def word (expected : String) (json : Json) : Reader Json := fun text =>
  if expected.toList.isPrefixOf text then some (json, text.drop expected.length) else none

/-- Reads a value with blanks before it, or more items or members after a comma. An
opening bracket or a comma comes before each inner value, so the length of the text
bounds the recursion. -/
def value : (bound : Nat) → Reader Json
  | 0, _ => none
  | bound + 1, text =>
      match skipBlanks text with
      | '[' :: rest =>
          match skipBlanks rest with
          | ']' :: rest => some (.array [], rest)
          | rest => do
              let (items, rest) ← items bound rest
              return (.array items, rest)
      | '\x7b' :: rest =>
          match skipBlanks rest with
          | '\x7d' :: rest => some (.object [], rest)
          | rest => do
              let (members, rest) ← members bound rest
              return (.object members, rest)
      | '"' :: rest => do
          let (content, rest) ← stringLiteral ('"' :: rest)
          return (.string content, rest)
      | 't' :: rest => word "true" (.boolean true) ('t' :: rest)
      | 'f' :: rest => word "false" (.boolean false) ('f' :: rest)
      | 'n' :: rest => word "null" .null ('n' :: rest)
      | rest => number rest
where
  items : (bound : Nat) → Reader (List Json)
    | 0, _ => none
    | bound + 1, text => do
        let (head, rest) ← value bound text
        match skipBlanks rest with
        | ',' :: rest =>
            let (tail, rest) ← items bound rest
            return (head :: tail, rest)
        | ']' :: rest => return ([head], rest)
        | _ => none
  members : (bound : Nat) → Reader (List (String × Json))
    | 0, _ => none
    | bound + 1, text => do
        let (key, rest) ← stringLiteral (skipBlanks text)
        match skipBlanks rest with
        | ':' :: rest =>
            let (head, rest) ← value bound rest
            match skipBlanks rest with
            | ',' :: rest =>
                let (tail, rest) ← members bound rest
                return ((key, head) :: tail, rest)
            | '\x7d' :: rest => return ([(key, head)], rest)
            | _ => none
        | _ => none

end Reader

def parse? (text : List Char) : Option Json := do
  let (json, rest) ← Reader.value (text.length + 1) text
  if Reader.skipBlanks rest = [] then some json else none

end PackageRecipe.Json
