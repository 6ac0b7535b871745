import PackageRecipe.Yaml.Token.Block
import PackageRecipe.Yaml.Token.Flow
import PackageRecipe.Yaml.Token.Tag

/-!
Cutting a text into tokens. A mapping key without a mark of its own is recognised
only at the colon after it, so the place of each possible key is remembered, and the
tokens that announce the key are put there later. Possible keys are forgotten at the
end of their line, and after 1024 bytes.
-/

namespace PackageRecipe.Yaml

open Glyphs

/-- Where a key may have started. In block context, a key at the indentation of the
current collection has to turn out to be one. -/
structure PossibleKey where
  required : Bool
  tokenCount : Nat
  index : Nat
  line : Nat
  column : Nat
  deriving DecidableEq, Repr

/-- The tokens so far, the last one first, and what is known about the rest: the
indentation of the open block collections, the innermost first, whether a key may
start here, and the possible key of each open flow collection and of the block
context around them. -/
structure Lexer where
  rest : Glyphs
  tokens : List Token
  indents : List Nat
  keyAllowed : Bool
  key : Option PossibleKey
  outerKeys : List (Option PossibleKey)
  deriving Repr

namespace Lexer

def start (text : Glyphs) : Lexer :=
  ⟨text, [], [], true, none, []⟩

def inFlow (lexer : Lexer) : Bool :=
  !lexer.outerKeys.isEmpty

/-- Outside all block collections, the indentation is one less than none. -/
def indent (lexer : Lexer) : Int :=
  match lexer.indents with
  | [] => -1
  | indent :: _ => indent

/-- A tab may not stand where a key can start, and a line end lets a key start in block
context. -/
def skipBlanks (inFlow : Bool) : (keyAllowed : Bool) → (inComment : Bool) → Glyphs → Bool × Glyphs
  | keyAllowed, _, [] => (keyAllowed, [])
  | keyAllowed, inComment, glyph :: rest =>
      let character := glyph.character
      if Glyph.isBreak character then skipBlanks inFlow (keyAllowed || !inFlow) false rest
      else if inComment || (glyph.column == 0 && character == '\ufeff') || character == ' ' ||
          ((inFlow || !keyAllowed) && character == '\t') then
        skipBlanks inFlow keyAllowed inComment rest
      else if character == '#' then skipBlanks inFlow keyAllowed true rest
      else (keyAllowed, glyph :: rest)

/-! Possible keys. One that has to turn out to be a key cannot be given up. -/

def expire (line index : Nat) : Option PossibleKey → Except Error (Option PossibleKey)
  | none => .ok none
  | some key =>
      if key.line < line || key.index + 1024 < index then
        if key.required then .error .missingColon else .ok none
      else .ok (some key)

def expireKeys (lexer : Lexer) : Except Error Lexer :=
  match lexer.rest with
  | [] => .ok lexer
  | glyph :: _ => do
      let key ← expire glyph.line glyph.index lexer.key
      let outerKeys ← lexer.outerKeys.mapM (expire glyph.line glyph.index)
      return { lexer with key, outerKeys }

def dropKey (lexer : Lexer) : Except Error Lexer :=
  match lexer.key with
  | some key => if key.required then .error .missingColon else .ok { lexer with key := none }
  | none => .ok lexer

def markKey (lexer : Lexer) : Except Error Lexer :=
  match lexer.rest with
  | [] => .ok lexer
  | glyph :: _ =>
      if lexer.keyAllowed then do
        let required := !lexer.inFlow && lexer.indent == glyph.column
        let lexer ← lexer.dropKey
        return { lexer with
          key := some ⟨required, lexer.tokens.length, glyph.index, glyph.line, glyph.column⟩ }
      else .ok lexer

/-! Taking tokens, and opening and closing block collections. One is opened at a column
that is deeper than the current one, and closed at one that is less deep. -/

def push (lexer : Lexer) (token : Token) : Lexer :=
  { lexer with tokens := token :: lexer.tokens }

/-- The token goes after the first `count` tokens, which are the last of the list. -/
def insert (lexer : Lexer) (count : Nat) (token : Token) : Lexer :=
  let later := lexer.tokens.length - count
  { lexer with tokens := lexer.tokens.take later ++ token :: lexer.tokens.drop later }

def openBlock (lexer : Lexer) (column count : Nat) (token : Token) : Lexer :=
  if !lexer.inFlow && lexer.indent < column then
    { lexer.insert count token with indents := column :: lexer.indents }
  else lexer

def closeBlocks (lexer : Lexer) (column : Int) : Lexer :=
  if lexer.inFlow then lexer
  else
    let closed := lexer.indents.takeWhile fun (indent : Nat) => column < indent
    { lexer with
      tokens := closed.map (fun _ => Token.blockEnd) ++ lexer.tokens
      indents := lexer.indents.drop closed.length }

def take (lexer : Lexer) (count : Nat) (token : Token) : Lexer :=
  { lexer.push token with rest := lexer.rest.drop count }

def takeRead (lexer : Lexer) (result : Token × Glyphs) : Lexer :=
  { lexer.push result.1 with rest := result.2 }

def endBlocks (lexer : Lexer) : Except Error Lexer := do
  let lexer ← (lexer.closeBlocks (-1)).dropKey
  return { lexer with keyAllowed := false }

/-! One step for each kind of token. -/

def openFlow (lexer : Lexer) (token : Token) : Except Error Lexer := do
  let lexer ← lexer.markKey
  return { lexer.take 1 token with
    key := none, outerKeys := lexer.key :: lexer.outerKeys, keyAllowed := true }

def closeFlow (lexer : Lexer) (token : Token) : Except Error Lexer := do
  let lexer ← lexer.dropKey
  let lexer := { lexer.take 1 token with keyAllowed := false }
  match lexer.outerKeys with
  | [] => return lexer
  | key :: outerKeys => return { lexer with key, outerKeys }

def comma (lexer : Lexer) : Except Error Lexer := do
  let lexer ← lexer.dropKey
  return { lexer.take 1 .comma with keyAllowed := true }

def openHere (lexer : Lexer) (token : Token) (refusal : Error) : Except Error Lexer :=
  if lexer.inFlow then .ok lexer
  else if lexer.keyAllowed then
    .ok (lexer.openBlock (column lexer.rest) lexer.tokens.length token)
  else .error refusal

def entry (lexer : Lexer) : Except Error Lexer := do
  let lexer ← (← lexer.openHere .blockSequence .misplacedEntry).dropKey
  return { lexer.take 1 .entry with keyAllowed := true }

def markedKey (lexer : Lexer) : Except Error Lexer := do
  let lexer ← (← lexer.openHere .blockMapping .misplacedKey).dropKey
  return { lexer.take 1 .key with keyAllowed := !lexer.inFlow }

def value (lexer : Lexer) : Except Error Lexer :=
  match lexer.key with
  | some key =>
      let lexer := (lexer.insert key.tokenCount .key).openBlock key.column key.tokenCount
        .blockMapping
      .ok { lexer.take 1 .value with key := none, keyAllowed := false }
  | none => do
      let lexer ← lexer.openHere .blockMapping .misplacedValue
      return { lexer.take 1 .value with keyAllowed := !lexer.inFlow }

def readInline (lexer : Lexer) (read : Glyphs → Except Error (Token × Glyphs)) :
    Except Error Lexer := do
  let lexer ← lexer.markKey
  return { lexer.takeRead (← read lexer.rest) with keyAllowed := false }

def block (lexer : Lexer) : Except Error Lexer := do
  let lexer ← lexer.dropKey
  return { lexer.takeRead (← Token.readBlock lexer.indent lexer.rest) with keyAllowed := true }

def plain (lexer : Lexer) : Except Error Lexer := do
  let lexer ← lexer.markKey
  let (token, broken, rest) ← Token.readPlain lexer.inFlow lexer.indent lexer.rest
  return { lexer.takeRead (token, rest) with keyAllowed := broken }

def isIndicator (character : Char) : Bool :=
  "-?:,[]\x7b\x7d#&*!|>'\"%@\u0060".toList.contains character

/-- Some indicators start a plain scalar if no blank follows them. -/
def startsPlain (lexer : Lexer) (character : Char) : Bool :=
  !(Glyph.isBlank character || isIndicator character) ||
    (character == '-' && !starts lexer.rest.tail Glyph.isSpace) ||
    (!lexer.inFlow && (character == '?' || character == ':') && !blankAt lexer.rest 1)

def token (lexer : Lexer) (character : Char) : Except Error Lexer :=
  let atStart := column lexer.rest == 0
  let standsAlone := blankAt lexer.rest 1
  if atStart && character == '%' then do
    return (← lexer.endBlocks).takeRead (← Token.readDirective lexer.rest)
  else if marksDocument lexer.rest '-' then do
    return (← lexer.endBlocks).take 3 .documentStart
  else if marksDocument lexer.rest '.' then do
    return (← lexer.endBlocks).take 3 .documentEnd
  else if character == '[' then lexer.openFlow .flowSequence
  else if character == '\x7b' then lexer.openFlow .flowMapping
  else if character == ']' then lexer.closeFlow .flowSequenceEnd
  else if character == '\x7d' then lexer.closeFlow .flowMappingEnd
  else if character == ',' then lexer.comma
  else if character == '-' && standsAlone then lexer.entry
  else if character == '?' && (lexer.inFlow || standsAlone) then lexer.markedKey
  else if character == ':' && (lexer.inFlow || standsAlone) then lexer.value
  else if character == '*' then lexer.readInline (Token.readAnchor .alias)
  else if character == '&' then lexer.readInline (Token.readAnchor .anchor)
  else if character == '!' then lexer.readInline (Token.readTag lexer.inFlow)
  else if (character == '|' || character == '>') && !lexer.inFlow then lexer.block
  else if character == '\'' || character == '"' then lexer.readInline Token.readQuoted
  else if lexer.startsPlain character then lexer.plain
  else .error .unexpectedCharacter

/-- Each token takes a character at least, so the length of the text bounds the recursion. -/
def run : (bound : Nat) → Lexer → Except Error Lexer
  | 0, lexer => .ok lexer
  | bound + 1, lexer => do
      let (keyAllowed, rest) := skipBlanks lexer.inFlow lexer.keyAllowed false lexer.rest
      let lexer ← { lexer with keyAllowed, rest }.expireKeys
      match rest with
      | [] => lexer.endBlocks
      | glyph :: _ => run bound (← (lexer.closeBlocks glyph.column).token glyph.character)

end Lexer

def tokensOf (text : List Char) : Except Error (List Token) := do
  let glyphs ← Glyphs.ofText text
  let lexer ← Lexer.run (glyphs.length + 1) (Lexer.start glyphs)
  return lexer.tokens.reverse

end PackageRecipe.Yaml
