import PackageRecipe.Yaml.Scalar

/-!
How a scalar is written: plain, between single or double quotes, or as a literal
block. Each style is the first, in this order, that the text and its surroundings
allow.
-/

namespace PackageRecipe.Yaml

inductive Style where
  | plain
  | singleQuoted
  | doubleQuoted
  | literal
  deriving DecidableEq, Repr

namespace Style

def isLineEnd (character : Char) : Bool :=
  character == '\n' || character == '\r' || character == '\u0085' ||
    character == '\u2028' || character == '\u2029'

/-- Tabs, other control characters and byte order marks need an escape. -/
def isPrintable (character : Char) : Bool :=
  let code := character.toNat
  code == 0x0A || (0x20 ≤ code && code ≤ 0x7E) ||
    (0xA0 ≤ code && code ≤ 0xFFFD && code != 0xFEFF) || 0x10000 ≤ code

def startsBlank : List Char → Bool
  | [] => true
  | head :: _ => head == ' ' || head == '\t' || head == '\x00' || isLineEnd head

def isTaken : List Char → Bool
  | [] => false
  | head :: rest =>
      "#,[]\x7b\x7d&*!|>'\"%@\u0060".toList.contains head ||
        ((head == '?' || head == ':' || head == '-') && startsBlank rest)

/-- Whether a plain scalar would end inside a text: at a colon before a blank, or at
a comment sign after one. -/
def breaksOff : List Char → Bool
  | first :: second :: rest =>
      (second == ':' && startsBlank rest) || (second == '#' && startsBlank [first]) ||
        breaksOff (second :: rest)
  | _ => false

def adjacent (before after : Char → Bool) : List Char → Bool
  | first :: second :: rest =>
      (before first && after second) || adjacent before after (second :: rest)
  | _ => false

def isSpace (character : Char) : Bool :=
  character == ' '

def endsWith (holds : Char → Bool) (text : List Char) : Bool :=
  text.getLast?.any holds

def startsWith (holds : Char → Bool) (text : List Char) : Bool :=
  text.head?.any holds

def startsAsMark (text : List Char) : Bool :=
  "---".toList.isPrefixOf text || "...".toList.isPrefixOf text

/-- Whether a text takes several lines in all styles but the double-quoted. -/
def isMultiline (text : List Char) : Bool :=
  text.any isLineEnd

def needsEscapes (text : List Char) : Bool :=
  text.any (!isPrintable ·) || adjacent isSpace isLineEnd text

def allowsPlain (text : List Char) : Bool :=
  let isEdge := fun character => isSpace character || isLineEnd character
  !(startsWith isEdge text || endsWith isEdge text || needsEscapes text || isMultiline text ||
    startsAsMark text || isTaken text || breaksOff text)

def allowsSingleQuotes (text : List Char) : Bool :=
  !(needsEscapes text || adjacent isLineEnd isSpace text)

def allowsLiteral (text : List Char) : Bool :=
  !(text.isEmpty || endsWith isSpace text || needsEscapes text)

def preferred (text : String) : Style :=
  if text.toList.contains '\n' then .literal
  else if Scalar.needsQuotes text then .singleQuoted
  else .plain

/-- A key on the line of its value cannot take several lines, nor be empty without
quotes. -/
def chosen (isKey : Bool) (wanted : Style) (text : List Char) : Style :=
  if isKey && isMultiline text then .doubleQuoted
  else
    let quotes := if allowsSingleQuotes text then .singleQuoted else .doubleQuoted
    match wanted with
    | .plain => if allowsPlain text && !(isKey && text.isEmpty) then .plain else quotes
    | .singleQuoted => quotes
    | .literal => if allowsLiteral text && !isKey then .literal else .doubleQuoted
    | .doubleQuoted => .doubleQuoted

end Style

end PackageRecipe.Yaml
