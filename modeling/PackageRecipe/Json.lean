import PackageRecipe.Text.Quoted

/-!
JSON values and their texts: on one line without spaces, or indented by two spaces
a level. Members keep their order.
-/

namespace PackageRecipe

/-- A JSON value. A number that is not an integer is kept as its numeral. -/
inductive Json where
  | null
  | boolean (value : Bool)
  | integer (value : Int)
  | decimal (numeral : String)
  | string (value : String)
  | array (items : List Json)
  | object (members : List (String × Json))
  deriving Repr

namespace Json

def byteDigits (value : Nat) : List Char :=
  [Nat.digitChar (value / 16 % 16), Nat.digitChar (value % 16)]

/-- Quotes, backslashes and control characters below the space are escaped. -/
def escaped (character : Char) : List Char :=
  match character with
  | '"' => ['\\', '"']
  | '\\' => ['\\', '\\']
  | '\x08' => ['\\', 'b']
  | '\x0c' => ['\\', 'f']
  | '\n' => ['\\', 'n']
  | '\r' => ['\\', 'r']
  | '\t' => ['\\', 't']
  | _ =>
      if character.toNat < 0x20 then '\\' :: 'u' :: '0' :: '0' :: byteDigits character.toNat
      else [character]

def stringText (value : String) : List Char :=
  '"' :: value.toList.flatMap escaped ++ ['"']

def scalarText : Json → List Char
  | .boolean value => (toString value).toList
  | .integer value => (toString value).toList
  | .decimal numeral => numeral.toList
  | .string value => stringText value
  | .null | .array _ | .object _ => "null".toList

mutual
def compactText : Json → List Char
  | .array items => '[' :: compactItems items ++ [']']
  | .object members => '\x7b' :: compactMembers members ++ ['\x7d']
  | scalar => scalar.scalarText

def compactItems : List Json → List Char
  | [] => []
  | [item] => item.compactText
  | item :: rest => item.compactText ++ ',' :: compactItems rest

def compactMembers : List (String × Json) → List Char
  | [] => []
  | [(key, value)] => stringText key ++ ':' :: value.compactText
  | (key, value) :: rest =>
      stringText key ++ ':' :: value.compactText ++ ',' :: compactMembers rest
end

def newLine (level : Nat) : List Char :=
  '\n' :: List.replicate (2 * level) ' '

mutual
def indentedText (level : Nat) : Json → List Char
  | .array [] => ['[', ']']
  | .array items =>
      '[' :: indentedItems (level + 1) items ++ newLine level ++ [']']
  | .object [] => ['\x7b', '\x7d']
  | .object members =>
      '\x7b' :: indentedMembers (level + 1) members ++ newLine level ++ ['\x7d']
  | scalar => scalar.scalarText

def indentedItems (level : Nat) : List Json → List Char
  | [] => []
  | [item] => newLine level ++ item.indentedText level
  | item :: rest =>
      newLine level ++ item.indentedText level ++ ',' :: indentedItems level rest

def indentedMembers (level : Nat) : List (String × Json) → List Char
  | [] => []
  | [(key, value)] =>
      newLine level ++ stringText key ++ ':' :: ' ' :: value.indentedText level
  | (key, value) :: rest =>
      newLine level ++ stringText key ++ ':' :: ' ' :: value.indentedText level ++
        ',' :: indentedMembers level rest
end

def compact (json : Json) : String :=
  String.ofList json.compactText

def indented (json : Json) : String :=
  String.ofList (json.indentedText 0)

example : (object [("a", array [integer 1, null]), ("b", string "\n")]).compact =
    "\x7b\"a\":[1,null],\"b\":\"\\n\"\x7d" := rfl

end Json

end PackageRecipe
