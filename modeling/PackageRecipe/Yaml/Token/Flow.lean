import PackageRecipe.Yaml.Glyph
import PackageRecipe.Yaml.Token
import PackageRecipe.Text.Numeral

/-!
Scalars that flow with the text around them: in single or double quotes, or plain.
Blanks between their words are folded where a line ends.
-/

namespace PackageRecipe.Yaml.Token

open Glyphs

/-- Blanks between two words: the spaces before the first line end, that line end,
and those after it. An escaped line end breaks the line without being kept. -/
structure Gap where
  broken : Bool
  spaces : List Char
  lineEnd : Option Char
  breaks : List Char
  deriving DecidableEq, Repr

namespace Gap

def empty : Gap :=
  ⟨false, [], none, []⟩

def escaped : Gap :=
  ⟨true, [], none, []⟩

def text (gap : Gap) : List Char :=
  if !gap.broken then gap.spaces
  else if gap.lineEnd == some '\n' then
    if gap.breaks = [] then [' '] else gap.breaks
  else gap.lineEnd.toList ++ gap.breaks

/-- In the columns before `leftmost`, no tab may stand after a line end. -/
def read (leftmost : Nat) (gap : Gap) : Glyphs → Except Error (Gap × Glyphs)
  | [] => .ok (gap, [])
  | glyph :: rest =>
      let character := glyph.character
      if Glyph.isSpace character then
        if gap.broken && character == '\t' && glyph.column < leftmost then
          .error .tabIndentation
        else if gap.broken then read leftmost gap rest
        else read leftmost { gap with spaces := gap.spaces ++ [character] } rest
      else if Glyph.isBreak character then
        if gap.broken then read leftmost { gap with breaks := gap.breaks ++ [character] } rest
        else read leftmost ⟨true, [], some character, []⟩ rest
      else .ok (gap, glyph :: rest)

end Gap

def escapedPoint? (count : Nat) (text : Glyphs) : Option (Char × Glyphs) := do
  let digits ← (characters (text.take count)).mapM Text.hexadecimalValue?
  if digits.length < count then none
  let code := digits.foldl (fun value digit => value * 16 + digit) 0
  if (0xD800 ≤ code && code ≤ 0xDFFF) || 0x10FFFF < code then none
  return (Char.ofNat code, text.drop count)

def escape? : Glyphs → Option (Char × Glyphs)
  | [] => none
  | glyph :: rest =>
      match glyph.character with
      | '0' => some ('\x00', rest)
      | 'a' => some ('\x07', rest)
      | 'b' => some ('\x08', rest)
      | 't' | '\t' => some ('\t', rest)
      | 'n' => some ('\n', rest)
      | 'v' => some ('\x0b', rest)
      | 'f' => some ('\x0c', rest)
      | 'r' => some ('\r', rest)
      | 'e' => some ('\x1b', rest)
      | ' ' => some (' ', rest)
      | '"' => some ('"', rest)
      | '/' => some ('/', rest)
      | '\\' => some ('\\', rest)
      | 'N' => some ('\u0085', rest)
      | '_' => some ('\u00a0', rest)
      | 'L' => some ('\u2028', rest)
      | 'P' => some ('\u2029', rest)
      | 'x' => escapedPoint? 2 rest
      | 'u' => escapedPoint? 4 rest
      | 'U' => escapedPoint? 8 rest
      | _ => none

/-- A word goes up to a blank or the closing quote; the flag tells whether it ended with
an escaped line end. Each character takes at least one of the text, so its length
bounds the recursion. -/
def quotedWord (single : Bool) :
    (bound : Nat) → Glyphs → Except Error (List Char × Bool × Glyphs)
  | bound + 1, glyph :: rest =>
      let character := glyph.character
      let continueWith (character : Char) (rest : Glyphs) := do
        let (tail, broken, rest) ← quotedWord single bound rest
        return (character :: tail, broken, rest)
      if Glyph.isBlank character then .ok ([], false, glyph :: rest)
      else if single then
        if character != '\'' then continueWith character rest
        else if startsWith rest '\'' then continueWith '\'' rest.tail
        else .ok ([], false, glyph :: rest)
      else if character == '"' then .ok ([], false, glyph :: rest)
      else if character != '\\' then continueWith character rest
      else if starts rest Glyph.isBreak then .ok ([], true, rest.tail)
      else
        match escape? rest with
        | some (character, rest) => continueWith character rest
        | none => .error .malformedQuoted
  | _, text => .ok ([], false, text)

/-- No document may start or end inside a quoted scalar. -/
def quotedBody (single : Bool) : (bound : Nat) → Glyphs → Except Error (List Char × Glyphs)
  | 0, _ => .error .malformedQuoted
  | bound + 1, text =>
      if text.isEmpty || atDocumentMark text then .error .malformedQuoted
      else do
        let (word, broken, rest) ← quotedWord single text.length text
        if startsWith rest (if single then '\'' else '"') then return (word, rest.tail)
        let (gap, rest) ← Gap.read 0 (if broken then .escaped else .empty) rest
        let (tail, rest) ← quotedBody single bound rest
        return (word ++ gap.text ++ tail, rest)

def readQuoted (text : Glyphs) : Except Error (Token × Glyphs) := do
  let (characters, rest) ← quotedBody (startsWith text '\'') text.length text.tail
  return (.scalar false (String.ofList characters), rest)

def isFlowMark (character : Char) : Bool :=
  character == ',' || character == '[' || character == ']' || character == '\x7b' ||
    character == '\x7d'

def plainWord (inFlow : Bool) : Glyphs → Except Error (List Char × Glyphs)
  | [] => .ok ([], [])
  | glyph :: rest =>
      let character := glyph.character
      if Glyph.isBlank character then .ok ([], glyph :: rest)
      else if inFlow && character == ':' &&
          starts rest (fun next => isFlowMark next || next == '?') then .error .malformedPlain
      else if (character == ':' && blankAt rest 0) || (inFlow && isFlowMark character) then
        .ok ([], glyph :: rest)
      else do
        let (tail, rest) ← plainWord inFlow rest
        return (character :: tail, rest)

/-- A comment, the start or end of a document, and in block context a line that is not
indented enough, end the scalar. The flag tells whether a line end follows the last
word. -/
def plainBody (inFlow : Bool) (leftmost : Nat) :
    (bound : Nat) → Gap → Glyphs → Except Error (List Char × Bool × Glyphs)
  | 0, gap, text => .ok ([], gap.broken, text)
  | bound + 1, gap, text =>
      if startsWith text '#' || atDocumentMark text then .ok ([], gap.broken, text)
      else do
        let (word, rest) ← plainWord inFlow text
        if word = [] then return ([], gap.broken, text)
        let (following, after) ← Gap.read leftmost .empty rest
        if !inFlow && column after < leftmost then
          return (gap.text ++ word, following.broken, after)
        let (tail, broken, after) ← plainBody inFlow leftmost bound following after
        return (gap.text ++ word ++ tail, broken, after)

def readPlain (inFlow : Bool) (outer : Int) (text : Glyphs) :
    Except Error (Token × Bool × Glyphs) := do
  let (characters, broken, rest) ←
    plainBody inFlow (outer + 1).toNat (text.length + 1) .empty text
  return (.scalar true (String.ofList characters), broken, rest)

end PackageRecipe.Yaml.Token
