import PackageRecipe.Yaml.Error

/-!
The tokens of a YAML text. Indentation is turned into tokens that start and end
block collections.
-/

namespace PackageRecipe.Yaml

/-- A tag as it is written: a handle, which may be empty, and the bytes of the
rest. -/
structure WrittenTag where
  handle : List Char
  rest : List UInt8
  deriving DecidableEq, Repr

inductive Token where
  | version (major minor : Nat)
  | tagHandle (handle : List Char) (meaning : List UInt8)
  | documentStart
  | documentEnd
  | blockSequence
  | blockMapping
  | blockEnd
  | flowSequence
  | flowSequenceEnd
  | flowMapping
  | flowMappingEnd
  | entry
  | comma
  | key
  | value
  | alias (name : String)
  | anchor (name : String)
  | tag (tag : WrittenTag)
  | scalar (plain : Bool) (text : String)
  deriving DecidableEq, Repr

end PackageRecipe.Yaml
