import PackageRecipe.Text.Visible

/-!
Texts between double quotes, as error messages show them: line breaks, tabs and
quotes are written with a backslash, and a character without a shape of its own
is written by its code point.
-/

namespace PackageRecipe.Text

def hexadecimal (value : Nat) : List Char :=
  Nat.toDigits 16 value

def quotedCharacter (character : Char) : List Char :=
  match character with
  | '\x00' => ['\\', '0']
  | '\t' => ['\\', 't']
  | '\n' => ['\\', 'n']
  | '\r' => ['\\', 'r']
  | '"' => ['\\', '"']
  | '\\' => ['\\', '\\']
  | _ =>
      if isVisible character then [character]
      else ['\\', 'u', '\x7b'] ++ hexadecimal character.toNat ++ ['\x7d']

/-- The text between double quotes. -/
def quoted (text : String) : String :=
  String.ofList ('"' :: text.toList.flatMap quotedCharacter ++ ['"'])

example : quoted "it's \"x\"\n" = "\"it's \\\"x\\\"\\n\"" := by decide

end PackageRecipe.Text
