import PackageRecipe.Yaml.Style

/-!
The YAML text of a value. Mappings and sequences are written as blocks, one entry a
line, except that empty ones are a pair of brackets. Lines are never folded, and a document
ends with a line end.
-/

namespace PackageRecipe.Yaml

/-- A text while it is written, the last character first: the column reached, whether
a blank or nothing stands before it, and whether only indentation and entry marks do. -/
structure Page where
  written : List Char
  column : Nat
  afterBlank : Bool
  inMargin : Bool
  deriving Repr

namespace Page

def blank : Page :=
  ⟨[], 0, true, true⟩

def put (page : Page) (character : Char) : Page :=
  { page with written := character :: page.written, column := page.column + 1 }

def putAll (page : Page) (text : List Char) : Page :=
  text.foldl put page

def putBreak (page : Page) (character : Char) : Page :=
  { page with written := character :: page.written, column := 0 }

def space (page : Page) : Page :=
  if page.afterBlank then page else page.put ' '

def afterText (page : Page) : Page :=
  { page with afterBlank := false, inMargin := false }

def mark (page : Page) (text : List Char) : Page :=
  (page.putAll text).afterText

def entryMark (page : Page) (character : Char) : Page :=
  { page.space.put character with afterBlank := false }

/-- Goes to a column on a line of its own, if the page is not there yet. -/
def indent (page : Page) (column : Nat) : Page :=
  let page :=
    if !page.inMargin || column < page.column || (page.column == column && !page.afterBlank) then
      page.putBreak '\n'
    else page
  let page := page.putAll (List.replicate (column - page.column) ' ')
  { page with afterBlank := true, inMargin := true }

end Page

namespace Printer

def hexadecimal (width value : Nat) : List Char :=
  let digits := (Nat.toDigits 16 value).map Char.toUpper
  List.replicate (width - digits.length) '0' ++ digits

def escaped (character : Char) : List Char :=
  let code := character.toNat
  match character with
  | '\x00' => ['\\', '0']
  | '\x07' => ['\\', 'a']
  | '\x08' => ['\\', 'b']
  | '\t' => ['\\', 't']
  | '\n' => ['\\', 'n']
  | '\x0b' => ['\\', 'v']
  | '\x0c' => ['\\', 'f']
  | '\r' => ['\\', 'r']
  | '\x1b' => ['\\', 'e']
  | '"' => ['\\', '"']
  | '\\' => ['\\', '\\']
  | '\u0085' => ['\\', 'N']
  | '\u2028' => ['\\', 'L']
  | '\u2029' => ['\\', 'P']
  | _ =>
      if Style.isPrintable character then [character]
      else if code ≤ 0xFF then '\\' :: 'x' :: hexadecimal 2 code
      else if code ≤ 0xFFFF then '\\' :: 'u' :: hexadecimal 4 code
      else '\\' :: 'U' :: hexadecimal 8 code

def doubleQuoted (page : Page) (text : List Char) : Page :=
  ((page.space.mark ['"']).putAll (text.flatMap escaped)).mark ['"']

/-- A quote is doubled, and so is a line feed that starts a run of line ends. -/
def singleQuotedBody (column : Nat) : (afterBreak : Bool) → Page → List Char → Page
  | afterBreak, page, [] => if afterBreak then page.indent column else page
  | afterBreak, page, character :: rest =>
      if Style.isLineEnd character then
        let page := if !afterBreak && character == '\n' then page.putBreak '\n' else page
        singleQuotedBody column true { page.putBreak character with inMargin := true } rest
      else if character == ' ' then
        singleQuotedBody column afterBreak (page.put ' ') rest
      else
        let page := if afterBreak then page.indent column else page
        let page := if character == '\'' then page.put '\'' else page
        singleQuotedBody column false { page.put character with inMargin := false } rest

def singleQuoted (column : Nat) (page : Page) (text : List Char) : Page :=
  (singleQuotedBody column false (page.space.mark ['\'']) text).mark ['\'']

/-- Whether a text keeps line ends after its last line, or is nothing but one. -/
def keepsBreaks (text : List Char) : Bool :=
  match text.reverse with
  | [character] => Style.isLineEnd character
  | last :: second :: _ => Style.isLineEnd last && Style.isLineEnd second
  | [] => false

/-- The indentation stands in the header if the text starts with a blank, before what
becomes of the line ends after its last line. -/
def literalHeader (text : List Char) : List Char :=
  let startsBlank := Style.startsWith (fun head => head == ' ' || Style.isLineEnd head) text
  let indentation := if startsBlank then ['2'] else []
  let chomping :=
    if !Style.endsWith Style.isLineEnd text then ['-']
    else if keepsBreaks text then ['+']
    else []
  '|' :: indentation ++ chomping

def literalBody (column : Nat) : (afterBreak : Bool) → Page → List Char → Page
  | _, page, [] => page
  | afterBreak, page, character :: rest =>
      if Style.isLineEnd character then
        literalBody column true { page.putBreak character with inMargin := true } rest
      else
        let page := if afterBreak then page.indent column else page
        literalBody column false { page.put character with inMargin := false } rest

def literal (column : Nat) (page : Page) (text : List Char) : Page :=
  let page := (page.space.mark (literalHeader text)).putBreak '\n'
  literalBody column true { page with afterBlank := true, inMargin := true } text

def plain (page : Page) (text : List Char) : Page :=
  ((if text.isEmpty then page else page.space).putAll text).afterText

/-- Where a value is written: the indentation of the collection around it, if there is
one, whether that is a mapping, whether the value is a key on the line of its own
value, and the tag before it. -/
structure Place where
  indent : Option Nat
  inMapping : Bool
  isKey : Bool
  tag : Option String
  deriving Repr

def Place.scalarColumn (place : Place) : Nat :=
  match place.indent with
  | some column => column + 2
  | none => 2

def Place.entryColumn (place : Place) (indentless : Bool) : Nat :=
  match place.indent with
  | some column => if indentless then column else column + 2
  | none => 0

def scalar (place : Place) (wanted : Style) (text : List Char) (page : Page) : Page :=
  match Style.chosen place.isKey wanted text with
  | .plain => plain page text
  | .singleQuoted => singleQuoted place.scalarColumn page text
  | .doubleQuoted => doubleQuoted page text
  | .literal => literal place.scalarColumn page text

def tagBody (name : String) : List Char :=
  match name.toList with
  | '!' :: rest => rest
  | name => name

/-- A tag's own characters are unchanged; of all others the bytes are escaped. -/
def tagCharacter (character : Char) : List Char :=
  if character.isAlphanum || "_-;/?:@&=+$,.~*'()[]".toList.contains character then [character]
  else
    (String.ofList [character]).toUTF8.toList.flatMap fun byte => '%' :: hexadecimal 2 byte.toNat

/-- A tag with nothing after the exclamation mark is written in angle brackets. -/
def putTag (tag : Option String) (page : Page) : Page :=
  match tag with
  | none => page
  | some name =>
      match tagBody name with
      | [] => page.space.mark ("!<".toList ++ tagCharacter '!' ++ ['>'])
      | body => page.space.mark ('!' :: body.flatMap tagCharacter)

def tagSize (tag : Option String) : Nat :=
  match tag with
  | none => 0
  | some name => 1 + (String.ofList (tagBody name)).utf8ByteSize

/-- A key can stand on one line with its value if it is a scalar of one line or an empty
collection, of at most 128 bytes with its tag. -/
def isSimple (tag : Option String) : Value → Bool
  | .string text => !Style.isMultiline text.toList && tagSize tag + text.utf8ByteSize ≤ 128
  | .sequence items => items.isEmpty && tagSize tag ≤ 128
  | .mapping entries => entries.isEmpty && tagSize tag ≤ 128
  | .tagged tag value => isSimple (some tag) value
  | .null => tagSize tag + 4 ≤ 128
  | .boolean value => tagSize tag + (toString value).utf8ByteSize ≤ 128
  | .number value => tagSize tag + value.text.utf8ByteSize ≤ 128

mutual
def value (place : Place) (page : Page) : Value → Page
  | .null => scalar place .plain "null".toList (putTag place.tag page)
  | .boolean value => scalar place .plain (toString value).toList (putTag place.tag page)
  | .number value => scalar place .plain value.text.toList (putTag place.tag page)
  | .string text => scalar place (.preferred text) text.toList (putTag place.tag page)
  | .sequence [] => ((putTag place.tag page).space.mark ['[']).mark [']']
  | .sequence items =>
      let page := putTag place.tag page
      sequenceItems (place.entryColumn (place.inMapping && !page.inMargin)) page items
  | .mapping [] => ((putTag place.tag page).space.mark ['\x7b']).mark ['\x7d']
  | .mapping entries =>
      mappingEntries (place.entryColumn false) (putTag place.tag page) entries
  | .tagged tag inner => value { place with tag := some tag } page inner

def sequenceItems (column : Nat) (page : Page) : List Value → Page
  | [] => page
  | item :: rest =>
      let page := (page.indent column).entryMark '-'
      sequenceItems column (value ⟨some column, false, false, none⟩ page item) rest

/-- A key that is not simple stands on a line of its own after a question mark. -/
def mappingEntries (column : Nat) (page : Page) : List (Value × Value) → Page
  | [] => page
  | (key, content) :: rest =>
      let page := page.indent column
      let page :=
        if isSimple none key then
          (value ⟨some column, true, true, none⟩ page key).mark [':']
        else
          let page := value ⟨some column, true, false, none⟩ (page.entryMark '?') key
          (page.indent column).entryMark ':'
      mappingEntries column (value ⟨some column, true, false, none⟩ page content) rest
end

end Printer

namespace Value

def isAmbiguousKey : Value → Bool
  | .tagged _ _ => true
  | .mapping [_] => true
  | _ => false

mutual
/-- A tag directly under a tag has no written form, nor has a mapping without a tag whose
only key is a tagged value or another mapping of one entry. -/
def isWritable (underTag : Bool) : Value → Bool
  | .null | .boolean _ | .number _ | .string _ => true
  | .sequence items => areWritable items
  | .mapping entries =>
      let ambiguous := match entries with
        | [(key, _)] => !underTag && key.isAmbiguousKey
        | _ => false
      !ambiguous && entriesAreWritable entries
  | .tagged _ value => !underTag && value.isWritable true

def areWritable : List Value → Bool
  | [] => true
  | head :: tail => head.isWritable false && areWritable tail

def entriesAreWritable : List (Value × Value) → Bool
  | [] => true
  | (key, value) :: tail =>
      key.isWritable false && value.isWritable false && entriesAreWritable tail
end

def print (value : Value) : Except Error String :=
  if value.isWritable false then
    let page := (Printer.value ⟨none, false, false, none⟩ .blank value).indent 0
    .ok (String.ofList page.written.reverse)
  else .error .unwritableTag

end Value

end PackageRecipe.Yaml
