import PackageRecipe.Yaml.Token

/-!
The tree of a YAML document, before its aliases and scalars are resolved, and how it
is read from tokens. Collections may be nested to a fixed depth, which is the measure
of the recursion; at one depth, every kind of collection is a plain loop over its
members.
-/

namespace PackageRecipe.Yaml

structure Properties where
  anchor : Option String
  tag : Option (List UInt8)
  deriving DecidableEq, Repr

inductive Node where
  | alias (anchor : String)
  | scalar (properties : Properties) (plain : Bool) (text : String)
  | sequence (properties : Properties) (items : List Node)
  | mapping (properties : Properties) (entries : List (Node × Node))
  deriving Repr

def Properties.none : Properties :=
  ⟨.none, .none⟩

namespace Node

def depthLimit : Nat := 128

def empty : Node :=
  .scalar Properties.none true ""

abbrev Reader (α : Type) : Type :=
  List Token → Except Error (α × List Token)

/-- One of the given tokens, or the end of the tokens, shows that nothing is written. -/
def orEmpty (ends : List Token) (node : Reader Node) : Reader Node
  | [] => .ok (empty, [])
  | token :: rest =>
      if ends.contains token then .ok (empty, token :: rest) else node (token :: rest)

/-! The members of collections. Every loop takes a token at least with each member, so the
number of tokens bounds the recursion. The loops over blocks take the end of the block
too, and those over brackets the closing bracket. -/

def blockItems (item : Reader Node) : (bound : Nat) → Reader (List Node)
  | bound + 1, .entry :: rest => do
      let (head, rest) ← orEmpty [.entry, .blockEnd] item rest
      let (tail, rest) ← blockItems item bound rest
      return (head :: tail, rest)
  | _, .blockEnd :: rest => .ok ([], rest)
  | _, _ => .error .unexpectedToken

/-- These sequences are no deeper than the mapping around them, so no block ends. -/
def indentlessItems (item : Reader Node) : (bound : Nat) → Reader (List Node)
  | bound + 1, .entry :: rest => do
      let (head, rest) ← orEmpty [.entry, .key, .value, .blockEnd] item rest
      let (tail, rest) ← indentlessItems item bound rest
      return (head :: tail, rest)
  | _, tokens => .ok ([], tokens)

def entryValue (ends : List Token) (node : Reader Node) : Reader Node
  | .value :: rest => orEmpty ends node rest
  | tokens => .ok (empty, tokens)

def blockEntries (node : Reader Node) : (bound : Nat) → Reader (List (Node × Node))
  | bound + 1, .key :: rest => do
      let (key, rest) ← orEmpty [.key, .value, .blockEnd] node rest
      let (value, rest) ← entryValue [.key, .value, .blockEnd] node rest
      let (tail, rest) ← blockEntries node bound rest
      return ((key, value) :: tail, rest)
  | _, .blockEnd :: rest => .ok ([], rest)
  | _, _ => .error .unexpectedToken

/-- The only entry of a mapping without brackets in a flow sequence, after its key mark.
A mark that shows a missing key is taken with it. -/
def pair (node : Reader Node) : Reader (Node × Node) := fun tokens => do
  let (key, rest) ←
    match tokens with
    | .value :: rest | .comma :: rest | .flowSequenceEnd :: rest => .ok (empty, rest)
    | tokens => node tokens
  let (value, rest) ← entryValue [.comma, .flowSequenceEnd] node rest
  return ((key, value), rest)

def flowItem (node : Reader Node) (pair : Reader (Node × Node)) : Reader Node
  | .key :: rest => do
      let (entry, rest) ← pair rest
      return (.mapping Properties.none [entry], rest)
  | tokens => node tokens

def flowEntry (node : Reader Node) : Reader (Node × Node)
  | .key :: rest => do
      let (key, rest) ← orEmpty [.value, .comma, .flowMappingEnd] node rest
      let (value, rest) ← entryValue [.comma, .flowMappingEnd] node rest
      return ((key, value), rest)
  | tokens => do
      let (key, rest) ← node tokens
      return ((key, empty), rest)

/-- A comma may stand before the closing bracket. -/
def flowMembers {α : Type} (stop : Token) (member : Reader α) :
    (bound : Nat) → Reader (List α)
  | 0, _ => .error .unexpectedToken
  | bound + 1, tokens =>
      match tokens with
      | [] => .error .unexpectedToken
      | token :: rest =>
          if token = stop then .ok ([], rest)
          else do
            let (head, rest) ← member (token :: rest)
            match rest with
            | .comma :: rest => do
                let (tail, rest) ← flowMembers stop member bound rest
                return (head :: tail, rest)
            | token :: rest =>
                if token = stop then return ([head], rest) else throw .unexpectedToken
            | [] => throw .unexpectedToken

/-! What stands before a node. Two handles of tags have a meaning without a directive. -/

abbrev Handles : Type :=
  List (List Char × List UInt8)

def bytes (text : String) : List UInt8 :=
  text.toUTF8.toList

def usualHandles : Handles :=
  [(['!'], bytes "!"), (['!', '!'], bytes "tag:yaml.org,2002:")]

def tagBytes (handles : Handles) (tag : WrittenTag) : Except Error (List UInt8) :=
  if tag.handle = [] then .ok tag.rest
  else
    match handles.lookup tag.handle with
    | some meaning => .ok (meaning ++ tag.rest)
    | none => .error .undefinedTagHandle

/-- An anchor and a tag may be given, in either order. -/
def properties (handles : Handles) : Reader Properties
  | .anchor name :: .tag tag :: rest | .tag tag :: .anchor name :: rest => do
      return (⟨some name, some (← tagBytes handles tag)⟩, rest)
  | .anchor name :: rest => .ok (⟨some name, none⟩, rest)
  | .tag tag :: rest => do return (⟨none, some (← tagBytes handles tag)⟩, rest)
  | tokens => .ok (Properties.none, tokens)

/-- Nothing has to be written after properties. -/
def leaf (properties : Properties) : Reader Node
  | .scalar plain text :: rest => .ok (.scalar properties plain text, rest)
  | tokens =>
      if properties = Properties.none then .error .unexpectedToken
      else .ok (.scalar properties true "", tokens)

/-- Where a node stands: inside brackets, in a block, or as a key or value of a block
mapping, where the entries of a sequence need no deeper indentation. -/
inductive Place where
  | flow
  | block
  | entry
  deriving DecidableEq, Repr

inductive Shape where
  | indentless
  | blockSequence
  | blockMapping
  | flowSequence
  | flowMapping
  deriving DecidableEq, Repr

def shape? (place : Place) : Token → Option Shape
  | .entry => if place = .entry then some .indentless else none
  | .blockSequence => if place = .flow then none else some .blockSequence
  | .blockMapping => if place = .flow then none else some .blockMapping
  | .flowSequence => some .flowSequence
  | .flowMapping => some .flowMapping
  | _ => none

/-- A key mark in a flow sequence starts a mapping of one entry, which is left to
`pair`. -/
def collection (node : Place → Reader Node) (pair : Reader (Node × Node))
    (properties : Properties) (shape : Shape) : Reader Node := fun tokens =>
  let inside := tokens.tail
  let sequence := fun ((items, rest) : List Node × List Token) =>
    (Node.sequence properties items, rest)
  let mapping := fun ((entries, rest) : List (Node × Node) × List Token) =>
    (Node.mapping properties entries, rest)
  match shape with
  | .indentless => (indentlessItems (node .block) tokens.length tokens).map sequence
  | .blockSequence => (blockItems (node .block) tokens.length inside).map sequence
  | .blockMapping => (blockEntries (node .entry) tokens.length inside).map mapping
  | .flowSequence =>
      (flowMembers .flowSequenceEnd (flowItem (node .flow) pair) tokens.length inside).map sequence
  | .flowMapping =>
      (flowMembers .flowMappingEnd (flowEntry (node .flow)) tokens.length inside).map mapping

def general (handles : Handles) (collection : Properties → Shape → Reader Node)
    (place : Place) : Reader Node
  | .alias name :: rest => .ok (.alias name, rest)
  | tokens => do
      let (properties, rest) ← properties handles tokens
      match rest.head?.bind (shape? place) with
      | some shape => collection properties shape rest
      | none => leaf properties rest

def node (handles : Handles) : (depth : Nat) → Place → Reader Node
  | 0 => general handles fun _ _ _ => .error .tooDeep
  | 1 => general handles (collection (node handles 0) fun _ => .error .tooDeep)
  | depth + 2 =>
      general handles (collection (node handles (depth + 1)) (pair (node handles depth .flow)))

/-! Documents. A text holds one, and needs no start mark if it has no directives. -/

/-- Of each handle, and of the version, there may be one directive. -/
def directives (version : Bool) (handles : Handles) :
    List Token → Except Error (Handles × List Token)
  | .version major minor :: rest =>
      if version then .error .repeatedDirective
      else if major = 1 ∧ (minor = 1 ∨ minor = 2) then directives true handles rest
      else .error .incompatibleVersion
  | .tagHandle handle meaning :: rest =>
      if (handles.lookup handle).isSome then .error .repeatedDirective
      else directives version (handles ++ [(handle, meaning)]) rest
  | tokens => .ok (handles, tokens)

def isDirective : Token → Bool
  | .version _ _ | .tagHandle _ _ => true
  | _ => false

def marked (handles : Handles) : Reader Node
  | [] => .ok (empty, [])
  | token :: rest =>
      if isDirective token || token == .documentStart || token == .documentEnd then
        .ok (empty, token :: rest)
      else node (handles ++ usualHandles) depthLimit .block (token :: rest)

def document : Reader Node
  | [] => .ok (empty, [])
  | token :: rest =>
      if isDirective token || token == .documentStart then do
        let (handles, rest) ← directives false [] (token :: rest)
        match rest with
        | .documentStart :: rest => marked handles rest
        | _ => throw .unexpectedToken
      else node usualHandles depthLimit .block (token :: rest)

def ofTokens (tokens : List Token) : Except Error Node := do
  let (node, rest) ← document tokens
  if rest.all (· == .documentEnd) then return node else throw .severalDocuments

end Node

end PackageRecipe.Yaml
