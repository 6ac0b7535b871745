import PackageRecipe.Text.Blank
import PackageRecipe.Text.Numeral

/-!
Flat TOML documents: keys with strings and integers, one to a line. Tables, arrays,
dotted keys and values of other types are refused.
-/

namespace PackageRecipe

namespace Toml

inductive Value where
  | string (text : String)
  | integer (value : Int)
  deriving DecidableEq, Repr

abbrev Reader (α : Type) : Type :=
  List Char → Option (α × List Char)

def isSpace (character : Char) : Bool :=
  character == ' ' || character == '\t'

def isText (character : Char) : Bool :=
  character == '\t' || (' ' ≤ character && character != '\x7f')

def isBare (character : Char) : Bool :=
  character.isAlphanum || character == '_' || character == '-'

def skipSpaces (text : List Char) : List Char :=
  text.dropWhile isSpace

def afterBreak? : List Char → Option (List Char)
  | '\n' :: rest | '\r' :: '\n' :: rest => some rest
  | _ => none

def finishLine? (text : List Char) : Option (List Char) :=
  let text := skipSpaces text
  let text := match text with
    | '#' :: rest => rest.dropWhile isText
    | text => text
  match text with
  | [] => some []
  | text => afterBreak? text

/-! Strings. Every step takes a character at least, so the length of the text bounds
the recursion. -/

def codePoint? (count : Nat) : Reader Char := fun text => do
  if text.length < count then none
  let code ← (text.take count).foldlM (fun value digit => do
    return 16 * value + (← Text.hexadecimalValue? digit)) 0
  if code < 0xD800 ∨ (0xDFFF < code ∧ code < 0x110000) then
    return (Char.ofNat code, text.drop count)
  else none

def escape? : Reader Char
  | 'b' :: rest => some ('\x08', rest)
  | 't' :: rest => some ('\t', rest)
  | 'n' :: rest => some ('\n', rest)
  | 'f' :: rest => some ('\x0c', rest)
  | 'r' :: rest => some ('\r', rest)
  | '"' :: rest => some ('"', rest)
  | '\\' :: rest => some ('\\', rest)
  | 'u' :: rest => codePoint? 4 rest
  | 'U' :: rest => codePoint? 8 rest
  | _ => none

/-- Reads a string on one line up to its closing quote. Double quotes allow
escapes. -/
def line? (quote : Char) : (bound : Nat) → Reader (List Char)
  | 0, _ | _, [] => none
  | bound + 1, head :: rest =>
      if head = quote then some ([], rest)
      else do
        let (head, rest) ←
          if head = '\\' ∧ quote = '"' then escape? rest
          else if isText head then some (head, rest)
          else none
        let (tail, rest) ← line? quote bound rest
        return (head :: tail, rest)

/-- Whether a backslash hides the rest of its line, which is blank. -/
def hidesBreak (text : List Char) : Bool :=
  (afterBreak? (skipSpaces text)).isSome

def skipBlankLines : (bound : Nat) → List Char → List Char
  | 0, text => text
  | bound + 1, text =>
      match afterBreak? (skipSpaces text) with
      | some rest => skipBlankLines bound rest
      | none => skipSpaces text

/-- Reads a string on several lines up to its three closing quotes, before which two
more may stand. A line end is a line feed, however it is written. -/
def lines? (quote : Char) : (bound : Nat) → Reader (List Char)
  | 0, _ => none
  | bound + 1, text =>
      let quotes := (text.takeWhile (· == quote)).length
      if 3 ≤ quotes then
        let inside := min (quotes - 3) 2
        some (List.replicate inside quote, text.drop (inside + 3))
      else
        match text with
        | [] => none
        | head :: rest =>
            if head = '\\' ∧ quote = '"' ∧ hidesBreak rest then
              lines? quote bound (skipBlankLines rest.length rest)
            else do
              let (head, rest) ←
                match afterBreak? text with
                | some rest => some ('\n', rest)
                | none =>
                    if head = '\\' ∧ quote = '"' then escape? rest
                    else if isText head then some (head, rest)
                    else none
              let (tail, rest) ← lines? quote bound rest
              return (head :: tail, rest)

/-- Reads a string. A line end just after three opening quotes is not part of it. -/
def string? : Reader String
  | first :: rest => do
      if first ≠ '"' ∧ first ≠ '\'' then none
      let (text, rest) ←
        match rest with
        | second :: third :: inside =>
            if second = first ∧ third = first then
              lines? first (inside.length + 1) ((afterBreak? inside).getD inside)
            else line? first (rest.length + 1) rest
        | _ => line? first (rest.length + 1) rest
      return (String.ofList text, rest)
  | [] => none

def digits? (base : Nat) (text : List Char) : Option Nat := do
  let groups := Text.pieces (· == '_') text
  if groups.any (·.isEmpty) then none
  groups.flatten.foldlM (fun value digit => do
    let digit ← Text.hexadecimalValue? digit
    if digit < base then return base * value + digit else none) 0

/-- A decimal numeral without a sign. It has no leading zeros. -/
def decimal? (text : List Char) : Option Nat :=
  if 1 < text.length ∧ text.head? = some '0' then none else digits? 10 text

/-- The number that an integer literal denotes. Only decimals may have a sign. -/
def integer? (text : List Char) : Option Int := do
  let value : Int ←
    match text with
    | '0' :: 'x' :: rest => (digits? 16 rest).map Int.ofNat
    | '0' :: 'o' :: rest => (digits? 8 rest).map Int.ofNat
    | '0' :: 'b' :: rest => (digits? 2 rest).map Int.ofNat
    | '+' :: rest => (decimal? rest).map Int.ofNat
    | '-' :: rest => (decimal? rest).map fun value => -value
    | text => (decimal? text).map Int.ofNat
  if -0x8000000000000000 ≤ value ∧ value < 0x8000000000000000 then some value else none

def value? : Reader Value := fun text =>
  match text with
  | '"' :: _ | '\'' :: _ => (string? text).map fun (text, rest) => (.string text, rest)
  | _ =>
      let isPart := fun character => isBare character || character == '+'
      (integer? (text.takeWhile isPart)).map fun value =>
        (.integer value, text.dropWhile isPart)

def key? : Reader String := fun text =>
  match text with
  | '"' :: rest => (line? '"' text.length rest).map fun (key, rest) => (String.ofList key, rest)
  | '\'' :: rest => (line? '\'' text.length rest).map fun (key, rest) => (String.ofList key, rest)
  | _ =>
      let word := text.takeWhile isBare
      if word = [] then none else some (String.ofList word, text.drop word.length)

def entry? : Reader (String × Value) := fun text => do
  let (key, rest) ← key? text
  match skipSpaces rest with
  | '=' :: rest => do
      let (value, rest) ← value? (skipSpaces rest)
      return ((key, value), ← finishLine? rest)
  | _ => none

def entries? : (bound : Nat) → List Char → Option (List (String × Value))
  | _, [] => some []
  | 0, _ => none
  | bound + 1, text =>
      match finishLine? text with
      | some rest => entries? bound rest
      | none => do
          let (entry, rest) ← entry? (skipSpaces text)
          return entry :: (← entries? bound rest)

/-- The entries of a document, which may start with a byte order mark. No key may be
repeated. -/
def parse? (text : List Char) : Option (List (String × Value)) := do
  let text := match text with
    | '\ufeff' :: rest => rest
    | text => text
  let entries ← entries? text.length text
  if (entries.map Prod.fst).Nodup then some entries else none

example : parse? "a = 0x1B # b\n'c d' = \"\\u0065\"".toList =
    some [("a", .integer 27), ("c d", .string "e")] := by decide +kernel

end Toml

end PackageRecipe
