import PackageRecipe.Yaml.Error

/-!
Characters of a YAML text with their places, and the classes of characters that
the rules for tokens refer to. The end of a text counts as a blank.
-/

namespace PackageRecipe.Yaml

/-- A character, the number of bytes before it, and the line and column it stands in,
all counted from zero. -/
structure Glyph where
  character : Char
  index : Nat
  line : Nat
  column : Nat
  deriving DecidableEq, Repr

namespace Glyph

def isAllowed (character : Char) : Bool :=
  let code := character.toNat
  code == 0x09 || code == 0x0A || code == 0x0D || (0x20 ≤ code && code ≤ 0x7E) ||
    code == 0x85 || (0xA0 ≤ code && code ≤ 0xFFFD) || 0x10000 ≤ code

/-- The characters that end a line, once line ends are made uniform. -/
def isBreak (character : Char) : Bool :=
  character == '\n' || character == '\u2028' || character == '\u2029'

def isSpace (character : Char) : Bool :=
  character == ' ' || character == '\t'

def isBlank (character : Char) : Bool :=
  isSpace character || isBreak character

def isWordPart (character : Char) : Bool :=
  character.isAlphanum || character == '_' || character == '-'

/-- A carriage return, with or without a line feed after it, and a next-line character
become a line feed. -/
def place (index line column : Nat) : List Char → List Glyph
  | [] => []
  | '\r' :: '\n' :: rest => ⟨'\n', index, line, column⟩ :: place (index + 2) (line + 1) 0 rest
  | '\r' :: rest => ⟨'\n', index, line, column⟩ :: place (index + 1) (line + 1) 0 rest
  | '\u0085' :: rest => ⟨'\n', index, line, column⟩ :: place (index + 2) (line + 1) 0 rest
  | character :: rest =>
      let next := index + character.utf8Size
      ⟨character, index, line, column⟩ ::
        (if isBreak character then place next (line + 1) 0 rest
         else place next line (column + 1) rest)

end Glyph

/-! Looking at a text from some place on. A mark of three characters and a blank at the
start of a line starts or ends a document. -/

abbrev Glyphs : Type :=
  List Glyph

namespace Glyphs

def ofText (text : List Char) : Except Error Glyphs :=
  if text.all Glyph.isAllowed then .ok (Glyph.place 0 0 0 text) else .error .controlCharacter

def peek? (text : Glyphs) (distance : Nat) : Option Char :=
  text[distance]?.map Glyph.character

def startsWith (text : Glyphs) (character : Char) : Bool :=
  peek? text 0 == some character

def blankAt (text : Glyphs) (distance : Nat) : Bool :=
  match peek? text distance with
  | some character => Glyph.isBlank character
  | none => true

def starts (text : Glyphs) (holds : Char → Bool) : Bool :=
  match text with
  | [] => false
  | glyph :: _ => holds glyph.character

/-- The end of the text counts as column zero. -/
def column : Glyphs → Nat
  | [] => 0
  | glyph :: _ => glyph.column

def characters (text : Glyphs) : List Char :=
  text.map Glyph.character

def span (text : Glyphs) (holds : Char → Bool) : List Char × Glyphs :=
  (characters (text.takeWhile fun glyph => holds glyph.character),
    text.dropWhile fun glyph => holds glyph.character)

def skip (text : Glyphs) (holds : Char → Bool) : Glyphs :=
  text.dropWhile fun glyph => holds glyph.character

def skipLine (text : Glyphs) : Glyphs :=
  skip text fun character => !Glyph.isBreak character

def marksDocument (text : Glyphs) (mark : Char) : Bool :=
  column text == 0 && peek? text 0 == some mark && peek? text 1 == some mark &&
    peek? text 2 == some mark && blankAt text 3

def atDocumentMark (text : Glyphs) : Bool :=
  marksDocument text '-' || marksDocument text '.'

/-- Skips blanks and a comment up to the end of the line, which has to follow. -/
def finishLine? (text : Glyphs) : Option Glyphs :=
  let text := skip text Glyph.isSpace
  let text := if startsWith text '#' then skipLine text else text
  match text with
  | [] => some []
  | text => if starts text Glyph.isBreak then some text.tail else none

end Glyphs

end PackageRecipe.Yaml
