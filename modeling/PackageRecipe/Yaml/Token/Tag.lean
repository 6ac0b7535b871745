import PackageRecipe.Yaml.Glyph
import PackageRecipe.Yaml.Token
import PackageRecipe.Text.Numeral

/-!
The tokens that are neither brackets nor scalars: tags, anchors and directives.
-/

namespace PackageRecipe.Yaml.Token

open Glyphs

/-- The characters of a tag that stand for themselves. Commas and brackets are
among them where no flow collection could be meant. -/
def isTagPart (bracketed : Bool) (character : Char) : Bool :=
  Glyph.isWordPart character || ";/?:@&=+$.%!~*'()".toList.contains character ||
    (bracketed && (character == ',' || character == '[' || character == ']'))

def escapedByte? (text : Glyphs) : Option (Nat × Glyphs) := do
  let first ← text.peek? 1
  let second ← text.peek? 2
  if !startsWith text '%' then none
  let high ← Text.hexadecimalValue? first
  let low ← Text.hexadecimalValue? second
  return (16 * high + low, text.drop 3)

def escapedTail? : (count : Nat) → Glyphs → Option (List UInt8 × Glyphs)
  | 0, text => some ([], text)
  | count + 1, text => do
      let (byte, text) ← escapedByte? text
      if byte / 64 != 2 then none
      let (bytes, text) ← escapedTail? count text
      return (UInt8.ofNat byte :: bytes, text)

/-- The first byte of an escaped character tells how many there are. -/
def escapedCharacter? (text : Glyphs) : Option (List UInt8 × Glyphs) := do
  let (byte, text) ← escapedByte? text
  let count ←
    if byte < 0x80 then some 0
    else if byte / 32 = 6 then some 1
    else if byte / 16 = 14 then some 2
    else if byte / 8 = 30 then some 3
    else none
  let (bytes, text) ← escapedTail? count text
  return (UInt8.ofNat byte :: bytes, text)

/-- Each step takes a character, so the length of the text bounds the recursion. -/
def tagBytes? (bracketed : Bool) : (bound : Nat) → Glyphs → Option (List UInt8 × Glyphs)
  | 0, text => some ([], text)
  | bound + 1, text =>
      if !starts text (isTagPart bracketed) then some ([], text)
      else do
        let (head, rest) ←
          if startsWith text '%' then escapedCharacter? text
          else some ((String.ofList (characters (text.take 1))).toUTF8.toList, text.drop 1)
        let (tail, rest) ← tagBytes? bracketed bound rest
        return (head ++ tail, rest)

def bytesOf (text : List Char) : List UInt8 :=
  (String.ofList text).toUTF8.toList

/-- A zero byte, which only an escape can bring in, ends what counts of a tag. -/
def beforeZero (bytes : List UInt8) : List UInt8 :=
  bytes.takeWhile (· != 0)

/-- With a second exclamation mark it is a named handle, and else the start of a tag under
the plain handle. -/
def handle (text : Glyphs) : List Char × Glyphs :=
  let (word, rest) := span (text.drop 1) Glyph.isWordPart
  if startsWith rest '!' then ('!' :: word ++ ['!'], rest.drop 1) else ('!' :: word, rest)

def verbatimTag (text : Glyphs) : Except Error (WrittenTag × Glyphs) :=
  match tagBytes? true text.length (text.drop 2) with
  | none | some ([], _) => .error .malformedTag
  | some (bytes, rest) =>
      if startsWith rest '>' then .ok (⟨[], beforeZero bytes⟩, rest.drop 1)
      else .error .malformedTag

/-- A lone exclamation mark is a tag of its own. -/
def shorthandTag (text : Glyphs) : Except Error (WrittenTag × Glyphs) :=
  let (start, rest) := handle text
  let named := 1 < start.length && start.getLast? = some '!'
  match tagBytes? false rest.length rest with
  | none => .error .malformedTag
  | some (bytes, rest) =>
      if named then
        if bytes = [] then .error .malformedTag else .ok (⟨start, beforeZero bytes⟩, rest)
      else
        match beforeZero (bytesOf (start.drop 1) ++ bytes) with
        | [] => .ok (⟨[], bytesOf ['!']⟩, rest)
        | bytes => .ok (⟨['!'], bytes⟩, rest)

/-- A blank has to follow a tag, or a comma in a flow collection. -/
def readTag (inFlow : Bool) (text : Glyphs) : Except Error (Token × Glyphs) := do
  let (written, rest) ← if peek? text 1 = some '<' then verbatimTag text else shorthandTag text
  if blankAt rest 0 || (inFlow && startsWith rest ',') then return (.tag written, rest)
  else throw .malformedTag

def readAnchor (make : String → Token) (text : Glyphs) : Except Error (Token × Glyphs) :=
  let (name, rest) := span (text.drop 1) Glyph.isWordPart
  if name != [] && (blankAt rest 0 || starts rest "?:,]\x7d%@\u0060".toList.contains) then
    .ok (make (String.ofList name), rest)
  else .error .malformedAnchor

def versionPart? (text : Glyphs) : Option (Nat × Glyphs) :=
  let (digits, rest) := span text Char.isDigit
  if digits = [] || 9 < digits.length then none
  else some (Text.decimalValue digits, rest)

def versionDirective? (text : Glyphs) : Option (Token × Glyphs) := do
  let (major, rest) ← versionPart? (skip text Glyph.isSpace)
  if !startsWith rest '.' then none
  let (minor, rest) ← versionPart? (rest.drop 1)
  return (.version major minor, rest)

def tagDirective? (text : Glyphs) : Option (Token × Glyphs) := do
  let text := skip text Glyph.isSpace
  if !startsWith text '!' then none
  let (name, rest) := handle text
  if 1 < name.length && name.getLast? != some '!' then none
  if !starts rest Glyph.isSpace then none
  let rest := skip rest Glyph.isSpace
  let (bytes, rest) ← tagBytes? true rest.length rest
  if bytes = [] || !blankAt rest 0 then none
  return (.tagHandle name (beforeZero bytes), rest)

def readDirective (text : Glyphs) : Except Error (Token × Glyphs) :=
  let (name, rest) := span (text.drop 1) Glyph.isWordPart
  let directive :=
    if !blankAt rest 0 then none
    else if name = "YAML".toList then versionDirective? rest
    else if name = "TAG".toList then tagDirective? rest
    else none
  match directive.bind fun (token, rest) => (finishLine? rest).map fun rest => (token, rest) with
  | some result => .ok result
  | none => .error .malformedDirective

end PackageRecipe.Yaml.Token
