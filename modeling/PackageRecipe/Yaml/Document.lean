import PackageRecipe.Yaml.Node
import PackageRecipe.Yaml.Scalar
import PackageRecipe.Yaml.Token.Lexer

/-!
The value of a YAML document: its tree with aliases followed, scalars resolved and
tags applied.
-/

namespace PackageRecipe.Yaml

/-! Anchors. A name may be given to several nodes. Of the nodes with an anchor, which are
listed in the order of the text, an alias stands for the last one with its own. -/

/-- An anchor is numbered by how many other names came before it, and an alias has the
number that its name got last. So a new name takes over a number when an earlier name
has been used again. -/
def numberAnchors : (numbers : List (String × Nat)) → List Token → Except Error (List Token)
  | _, [] => .ok []
  | numbers, .anchor name :: rest => do
      let number := numbers.length
      let others := numbers.filter fun (other, _) => other != name
      return .anchor (toString number) :: (← numberAnchors ((name, number) :: others) rest)
  | numbers, .alias name :: rest =>
      match numbers.lookup name with
      | some number => do return .alias (toString number) :: (← numberAnchors numbers rest)
      | none => .error .unknownAnchor
  | numbers, token :: rest => do return token :: (← numberAnchors numbers rest)

namespace Node

def named (properties : Properties) (node : Node) : List (String × Node) :=
  match properties.anchor with
  | some anchor => [(anchor, node)]
  | none => []

mutual
def anchored : Node → List (String × Node)
  | .alias _ => []
  | .scalar properties plain text => named properties (.scalar properties plain text)
  | .sequence properties items =>
      named properties (.sequence properties items) ++ anchoredItems items
  | .mapping properties entries =>
      named properties (.mapping properties entries) ++ anchoredEntries entries

def anchoredItems : List Node → List (String × Node)
  | [] => []
  | head :: tail => head.anchored ++ anchoredItems tail

def anchoredEntries : List (Node × Node) → List (String × Node)
  | [] => []
  | (key, value) :: tail => key.anchored ++ value.anchored ++ anchoredEntries tail
end

mutual
def size : Node → Nat
  | .alias _ | .scalar _ _ _ => 1
  | .sequence _ items => 2 + sizeOfItems items
  | .mapping _ entries => 2 + sizeOfEntries entries

def sizeOfItems : List Node → Nat
  | [] => 0
  | head :: tail => head.size + sizeOfItems tail

def sizeOfEntries : List (Node × Node) → Nat
  | [] => 0
  | (key, value) :: tail => key.size + value.size + sizeOfEntries tail
end

end Node

/-! Tags: the document's own, which are kept with their values, and standard ones, which
ask for scalars of one kind. Other tags make a scalar a string. -/

inductive Standard where
  | boolean
  | integer
  | float
  | null
  deriving DecidableEq, Repr

inductive Tag where
  | own (name : String)
  | standard (standard : Standard)
  | other
  deriving DecidableEq, Repr

namespace Tag

def exclamationMark : UInt8 := 33

/-- A tag of the document's own loses its exclamation mark, or two, but is not left
empty; as ill-formed text it does not count. -/
def ofBytes? (bytes : List UInt8) : Option Tag :=
  match bytes with
  | first :: rest =>
      if first = exclamationMark then
        let shown := match rest with
          | [] => bytes
          | [second] => [second]
          | second :: others => if second = exclamationMark then others else rest
        (String.fromUTF8? ⟨shown.toArray⟩).map .own
      else if bytes = Node.bytes "tag:yaml.org,2002:bool" then some (.standard .boolean)
      else if bytes = Node.bytes "tag:yaml.org,2002:int" then some (.standard .integer)
      else if bytes = Node.bytes "tag:yaml.org,2002:float" then some (.standard .float)
      else if bytes = Node.bytes "tag:yaml.org,2002:null" then some (.standard .null)
      else some .other
  | [] => some .other

example : ofBytes? (Node.bytes "!color") = some (.own "color") := by decide +kernel

end Tag

namespace Scalar

def ofStandard (standard : Standard) (text : String) : Except Error Value :=
  let value : Option (Except Error Value) :=
    match standard with
    | .boolean => (boolean? text).map fun value => .ok (.boolean value)
    | .integer => (integer? text.toList).bind checkedInteger
    | .float => (float? text.toList).map fun value => .ok (.number (.float value))
    | .null => if isNullWord text then some (.ok .null) else none
  value.getD (.error .malformedScalar)

/-- Without a tag, or under one of the document's own, only a plain scalar can be
anything but a string. -/
def ofNode (tag : Option Tag) (plain : Bool) (text : String) : Except Error Value :=
  let untagged := if plain then resolve text else .ok (.string text)
  match tag with
  | none => untagged
  | some (.own name) => untagged.map (.tagged name)
  | some (.standard standard) => ofStandard standard text
  | some .other => .ok (.string text)

end Scalar

namespace Value

def underTag (tag : Option Tag) (value : Value) : Value :=
  match tag with
  | some (.own name) => .tagged name value
  | _ => value

def repeatsKey : List (Value × Value) → Bool
  | [] => false
  | (key, _) :: rest => rest.any (fun entry => key.same entry.1) || repeatsKey rest

end Value

/-- The state counts the aliases that may still be followed. -/
abbrev Following : Type → Type :=
  StateT Nat (Except Error)

namespace Node

def follow (anchored : List (String × Node)) : Node → Following Node
  | .alias anchor => do
      match ← get, anchored.reverse.lookup anchor with
      | _, none => throw .unknownAnchor
      | 0, _ => throw .tooManyAliases
      | left + 1, some node => set left; return node
  | node => return node

/-- The levels of collections within `depth` include those of what aliases stand for. -/
def value (anchored : List (String × Node)) : (depth : Nat) → Node → Following Value
  | 0, node => do
      match ← follow anchored node with
      | .scalar properties plain text =>
          Scalar.ofNode (properties.tag.bind Tag.ofBytes?) plain text
      | _ => throw .tooDeep
  | depth + 1, node => do
      match ← follow anchored node with
      | .scalar properties plain text =>
          Scalar.ofNode (properties.tag.bind Tag.ofBytes?) plain text
      | .sequence properties items => do
          let items ← items.mapM (value anchored depth)
          return Value.underTag (properties.tag.bind Tag.ofBytes?) (.sequence items)
      | .mapping properties entries => do
          let entries ← entries.mapM fun (key, content) => do
            return (← value anchored depth key, ← value anchored depth content)
          if Value.repeatsKey entries then throw .repeatedKey
          return Value.underTag (properties.tag.bind Tag.ofBytes?) (.mapping entries)
      | .alias _ => throw .unknownAnchor

end Node

/-- Aliases may be followed a hundred times as often as the document is large. -/
def parse (text : String) : Except Error Value := do
  let tokens ← numberAnchors [] (← tokensOf text.toList)
  let node ← Node.ofTokens tokens
  let (value, _) ← (node.value node.anchored Node.depthLimit).run (100 * node.size)
  return value

end PackageRecipe.Yaml
