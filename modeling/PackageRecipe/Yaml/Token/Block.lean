import PackageRecipe.Yaml.Glyph
import PackageRecipe.Yaml.Token
import PackageRecipe.Text.Numeral

/-!
Block scalars: indented lines after a literal or a folding mark. An indicator of the
line ends to keep and one of the indentation may follow the mark, in either order.
-/

namespace PackageRecipe.Yaml.Token

open Glyphs

inductive Chomping where
  | strip
  | clip
  | keep
  deriving DecidableEq, Repr

def chomping? (text : Glyphs) : Option Chomping :=
  match peek? text 0 with
  | some '-' => some .strip
  | some '+' => some .keep
  | _ => none

def increment? (text : Glyphs) : Except Error (Option Nat × Glyphs) :=
  match text with
  | [] => .ok (none, [])
  | glyph :: rest =>
      if glyph.character == '0' then .error .malformedBlock
      else if glyph.character.isDigit then .ok (some (Text.digitValue glyph.character), rest)
      else .ok (none, text)

def blockHeader (text : Glyphs) : Except Error (Chomping × Option Nat × Glyphs) :=
  match chomping? text with
  | some chomping => do
      let (increment, rest) ← increment? text.tail
      return (chomping, increment, rest)
  | none => do
      let (increment, rest) ← increment? text
      match increment, chomping? rest with
      | some increment, some chomping => return (chomping, some increment, rest.tail)
      | _, _ => return (.clip, increment, rest)

/-- Reads empty lines and indentation, up to a fixed column if there is one. Gives
the line ends, and the widest column that was reached. -/
def blockBreaks (fixed : Option Nat) (widest : Nat) :
    Glyphs → Except Error (List Char × Nat × Glyphs)
  | [] => .ok ([], widest, [])
  | glyph :: rest =>
      let inside := match fixed with
        | none => true
        | some indent => glyph.column < indent
      if inside && glyph.character == ' ' then blockBreaks fixed widest rest
      else if inside && glyph.character == '\t' then .error .tabIndentation
      else
        let widest := max widest glyph.column
        if Glyph.isBreak glyph.character then do
          let (breaks, widest, rest) ← blockBreaks fixed widest rest
          return (glyph.character :: breaks, widest, rest)
        else .ok ([], widest, glyph :: rest)

/-- Reads the lines of a block scalar. A folded line end becomes a space, or nothing
if empty lines follow; lines that start with a blank are not folded. The line end
and the empty lines before the next line are arguments. Each line takes a character,
so the length of the text bounds the recursion. -/
def blockLines (literal : Bool) (chomping : Chomping) (indent : Nat) :
    (bound : Nat) → (lineEnd : Option Char) → (breaks : List Char) → (afterBlank : Bool) →
      Glyphs → Except Error (List Char × Glyphs)
  | bound + 1, lineEnd, breaks, afterBlank, glyph :: rest =>
      if glyph.column == indent then do
        let blank := Glyph.isSpace glyph.character
        let joint :=
          if !literal && lineEnd == some '\n' && !afterBlank && !blank then
            if breaks = [] then [' '] else breaks
          else lineEnd.toList ++ breaks
        let (line, rest) := span (glyph :: rest) fun character => !Glyph.isBreak character
        let (following, _, after) ← blockBreaks (some indent) 0 rest.tail
        let (tail, after) ← blockLines literal chomping indent bound (peek? rest 0) following
          blank after
        return (joint ++ line ++ tail, after)
      else .ok (chomped lineEnd breaks, glyph :: rest)
  | _, lineEnd, breaks, _, text => .ok (chomped lineEnd breaks, text)
where
  chomped (lineEnd : Option Char) (breaks : List Char) : List Char :=
    match chomping with
    | .strip => []
    | .clip => lineEnd.toList
    | .keep => lineEnd.toList ++ breaks

def readBlock (outer : Int) (text : Glyphs) : Except Error (Token × Glyphs) := do
  let (chomping, increment, rest) ← blockHeader text.tail
  match finishLine? rest with
  | none => throw .malformedBlock
  | some rest =>
      let fixed := increment.map fun count => (max outer 0).toNat + count
      let (breaks, widest, rest) ← blockBreaks fixed 0 rest
      let indent := fixed.getD (max widest (max (outer + 1).toNat 1))
      let (characters, rest) ←
        blockLines (startsWith text '|') chomping indent (rest.length + 1) none breaks false rest
      return (.scalar false (String.ofList characters), rest)

end PackageRecipe.Yaml.Token
