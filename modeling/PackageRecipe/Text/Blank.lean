/-!
White space in recipe texts, and the cuts that depend on it: trimmed ends,
words, and lines. Texts are handled as lists of characters here, so that each
cut is a recursion on the text itself.
-/

namespace PackageRecipe.Text

/-- The characters with the Unicode property `White_Space`. -/
def isBlank (character : Char) : Bool :=
  let code := character.toNat
  (0x09 ≤ code && code ≤ 0x0D) || code == 0x20 || code == 0x85 || code == 0xA0 ||
    code == 0x1680 || (0x2000 ≤ code && code ≤ 0x200A) || code == 0x2028 ||
    code == 0x2029 || code == 0x202F || code == 0x205F || code == 0x3000

example : isBlank ' ' ∧ isBlank '\t' ∧ isBlank '\u2003' := by decide

-- The zero-width space is not white space.
example : isBlank '\u200b' = false := rfl

def trimStart (text : List Char) : List Char :=
  text.dropWhile isBlank

def trimEnd (text : List Char) : List Char :=
  (text.reverse.dropWhile isBlank).reverse

def trim (text : List Char) : List Char :=
  trimStart (trimEnd text)

/-- The pieces of a text between its separators, empty ones included. There is
one piece more than there are separators. -/
def pieces (separates : Char → Bool) : List Char → List (List Char)
  | [] => [[]]
  | head :: tail =>
      if separates head then
        [] :: pieces separates tail
      else
        match pieces separates tail with
        | [] => [[head]]
        | first :: others => (head :: first) :: others

@[simp] theorem pieces_nil (separates : Char → Bool) :
    pieces separates [] = [[]] := rfl

theorem pieces_ne_nil (separates : Char → Bool) (text : List Char) :
    pieces separates text ≠ [] := by
  cases text with
  | nil => simp
  | cons head tail =>
      unfold pieces
      split
      · simp
      · split <;> simp

def words (text : List Char) : List (List Char) :=
  (pieces isBlank text).filter (!·.isEmpty)

example : words " a  bc ".toList = [['a'], ['b', 'c']] := by decide

/-- The lines of a text. A line feed ends a line, so none follows the last line
feed; a carriage return stays at the end of its line. -/
def lines (text : List Char) : List (List Char) :=
  let pieces := pieces (· == '\n') text
  if pieces.getLast? = some [] then pieces.dropLast else pieces

example : lines "a\n\nb\n".toList = [['a'], [], ['b']] := by decide

example : lines [] = [] := rfl

def occursIn (part : List Char) : List Char → Bool
  | [] => part.isEmpty
  | head :: tail => part.isPrefixOf (head :: tail) || occursIn part tail

example : occursIn "nu".toList "linux".toList = true := by decide

def splitFirst? (separator : Char) (text : List Char) :
    Option (List Char × List Char) :=
  match text.dropWhile (· != separator) with
  | [] => none
  | _ :: after => some (text.takeWhile (· != separator), after)

example : splitFirst? '-' "a-b-c".toList = some (['a'], ['b', '-', 'c']) := by decide

end PackageRecipe.Text
