import PackageRecipe.Binary64.Shortest
import PackageRecipe.Text.Quoted

/-!
YAML values: scalars, sequences, mappings in document order, and values under a
local tag.
-/

namespace PackageRecipe.Yaml

inductive Number where
  | integer (value : Int)
  | float (value : Binary64)
  deriving DecidableEq, Repr

/-- The keys of a mapping may be any values. A tag is kept without the mark before it. -/
inductive Value where
  | null
  | boolean (value : Bool)
  | number (value : Number)
  | string (value : String)
  | sequence (items : List Value)
  | mapping (entries : List (Value × Value))
  | tagged (tag : String) (value : Value)
  deriving Repr

abbrev Mapping : Type :=
  List (Value × Value)

namespace Number

/-- Integers keep their digits; floats have the fewest digits that read back. -/
def text : Number → String
  | .integer value => toString value
  | .float .nan => ".nan"
  | .float (.infinity false) => ".inf"
  | .float (.infinity true) => "-.inf"
  | .float (.finite negative significand exponent) =>
      Binary64.finiteText "" negative significand exponent

/-- An integer equals no float. -/
def same : Number → Number → Bool
  | .integer left, .integer right => left == right
  | .float left, .float right => left.sameValue right
  | _, _ => false

def isZero : Number → Bool
  | .integer value => value == 0
  | .float value => value.isZero

end Number

namespace Value

def untagged : Value → Value
  | .tagged _ value => value.untagged
  | value => value

def isTagged : Value → Bool
  | .tagged _ _ => true
  | _ => false

theorem isTagged_untagged (value : Value) : value.untagged.isTagged = false := by
  fun_induction untagged value with
  | case1 _ value induction => exact induction
  | case2 value different =>
      cases value with
      | tagged tag value => exact absurd rfl (different tag value)
      | _ => rfl

inductive Kind where
  | null
  | boolean
  | number
  | string
  | sequence
  | mapping
  | tagged
  deriving DecidableEq, Repr

def Kind.word : Kind → String
  | .null => "null"
  | .boolean => "boolean"
  | .number => "number"
  | .string => "string"
  | .sequence => "sequence"
  | .mapping => "mapping"
  | .tagged => "tagged value"

def kind : Value → Kind
  | .null => .null
  | .boolean _ => .boolean
  | .number _ => .number
  | .string _ => .string
  | .sequence _ => .sequence
  | .mapping _ => .mapping
  | .tagged _ _ => .tagged

/-! The views of a value look through its tags. -/

def isNull (value : Value) : Bool :=
  match value.untagged with
  | .null => true
  | _ => false

def string? (value : Value) : Option String :=
  match value.untagged with
  | .string text => some text
  | _ => none

def sequence? (value : Value) : Option (List Value) :=
  match value.untagged with
  | .sequence items => some items
  | _ => none

def mapping? (value : Value) : Option Mapping :=
  match value.untagged with
  | .mapping entries => some entries
  | _ => none

/-- The text of a scalar; a null is empty. Sequences and mappings have none. -/
def scalarText? (value : Value) : Option String :=
  match value.untagged with
  | .null => some ""
  | .boolean value => some (toString value)
  | .number value => some value.text
  | .string value => some value
  | .sequence _ | .mapping _ | .tagged _ _ => none

/-- A null, false, zero and all that is empty do not count as given. -/
def isGiven : Value → Bool
  | .null => false
  | .boolean value => value
  | .number value => !value.isZero
  | .string value => value != ""
  | .sequence items => !items.isEmpty
  | .mapping entries => !entries.isEmpty
  | .tagged _ value => value.isGiven

mutual
/-- Equality of values as keys: mappings may list their entries in any order. -/
def same : Value → Value → Bool
  | .null, .null => true
  | .boolean left, .boolean right => left == right
  | .number left, .number right => left.same right
  | .string left, .string right => left == right
  | .sequence left, .sequence right => sameItems left right
  | .mapping left, .mapping right => left.length == right.length && amongEntries left right
  | .tagged leftTag left, .tagged rightTag right => leftTag == rightTag && left.same right
  | _, _ => false

def sameItems : List Value → List Value → Bool
  | [], [] => true
  | left :: lefts, right :: rights => left.same right && sameItems lefts rights
  | _, _ => false

def amongEntries : List (Value × Value) → List (Value × Value) → Bool
  | [], _ => true
  | (key, value) :: rest, entries =>
      entries.any (fun entry => key.same entry.1 && value.same entry.2) &&
        amongEntries rest entries
end

/-! The full description of a value, for messages about fields of a wrong kind. -/

def tagText (tag : String) : String :=
  "!" ++ tag

def listed (parts : List String) : String :=
  String.intercalate ", " parts

mutual
def description : Value → String
  | .null => "Null"
  | .boolean value => s!"Bool({value})"
  | .number value => s!"Number({value.text})"
  | .string value => s!"String({Text.quoted value})"
  | .sequence items => s!"Sequence [{listed (itemDescriptions items)}]"
  | .mapping entries => "Mapping \x7b" ++ listed (entryDescriptions entries) ++ "\x7d"
  | .tagged tag value =>
      "TaggedValue \x7b tag: " ++ tagText tag ++ ", value: " ++ value.description ++ " \x7d"

def itemDescriptions : List Value → List String
  | [] => []
  | item :: rest => item.description :: itemDescriptions rest

/-- Scalar keys stand without the word for their kind. -/
def entryDescriptions : List (Value × Value) → List String
  | [] => []
  | (key, value) :: rest =>
      let key := match key with
        | .boolean value => toString value
        | .number value => value.text
        | .string value => Text.quoted value
        | key => key.description
      (key ++ ": " ++ value.description) :: entryDescriptions rest
end

example : (Value.mapping [(.string "a", .sequence [.null]), (.boolean true, .tagged "t"
    (.string "z"))]).description =
    "Mapping \x7b\"a\": Sequence [Null], true: TaggedValue \x7b tag: !t, value: " ++
      "String(\"z\") \x7d\x7d" := by decide +kernel

end Value

namespace Mapping

def get? (entries : Mapping) (key : String) : Option Value :=
  match entries with
  | [] => none
  | (.string name, value) :: rest => if name = key then some value else get? rest key
  | _ :: rest => get? rest key

/-- A value takes the place of the former one, or else follows all other entries. -/
def put (entries : Mapping) (key : String) (value : Value) : Mapping :=
  match entries with
  | [] => [(.string key, value)]
  | (.string name, former) :: rest =>
      if name = key then (.string name, value) :: rest
      else (.string name, former) :: put rest key value
  | entry :: rest => entry :: put rest key value

@[simp] theorem get?_put (entries : Mapping) (key : String) (value : Value) :
    (entries.put key value).get? key = some value := by
  fun_induction put entries key value with
  | case1 => simp [get?]
  | case2 => simp [get?]
  | case3 name former rest different induction => simp [get?, different, induction]
  | case4 entry rest different induction =>
      obtain ⟨other, former⟩ := entry
      cases other with
      | string name => exact absurd rfl (different name former)
      | _ => simp [get?, induction]

theorem get?_put_of_ne (entries : Mapping) {key other : String} (value : Value)
    (different : other ≠ key) : (entries.put key value).get? other = entries.get? other := by
  fun_induction put entries key value with
  | case1 => simp [get?, different.symm]
  | case2 => simp [get?, different.symm]
  | case3 name former rest _ induction => simp [get?, induction]
  | case4 entry rest notString induction =>
      obtain ⟨found, former⟩ := entry
      cases found with
      | string name => exact absurd rfl (notString name former)
      | _ => simp [get?, induction]

end Mapping

end PackageRecipe.Yaml
