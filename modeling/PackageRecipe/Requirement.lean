import PackageRecipe.Text.Blank

/-!
Requirements on other packages: a name, which a version and a build may follow.
-/

namespace PackageRecipe

/-- A requirement as its words between single spaces, with the first word and the
number of words. -/
structure Requirement where
  text : String
  name : String
  strictness : Nat
  deriving DecidableEq, Repr

namespace Requirement

inductive Error where
  | empty
  | tooManyParts (text : String)
  deriving DecidableEq, Repr

def Error.message : Error → String
  | .empty => "empty dependency spec"
  | .tooManyParts text =>
      s!"dependency spec '{text}' has more than name, version, and build"

def joined (words : List String) : String :=
  String.intercalate " " words

def parse (text : String) : Except Error Requirement :=
  match (Text.words text.toList).map String.ofList with
  | [] => .error .empty
  | [name] => .ok ⟨name, name, 1⟩
  | [name, version] => .ok ⟨joined [name, version], name, 2⟩
  | [name, version, build] => .ok ⟨joined [name, version, build], name, 3⟩
  | _ => .error (.tooManyParts text)

def dotted (version : UInt32) : String :=
  String.ofList ((Nat.toDigits 10 version.toNat).intersperse '.')

example : dotted 110 = "1.1.0" := by decide +kernel

def pinned (name : String) (version : UInt32) : Requirement :=
  ⟨s!"{name} {dotted version}*", name, 2⟩

def parts (requirement : Requirement) : List String :=
  (Text.pieces (· == ' ') requirement.text.toList).map String.ofList

def version? (requirement : Requirement) : Option String :=
  requirement.parts[1]?

def build? (requirement : Requirement) : Option String :=
  requirement.parts[2]?

/-- Requirements are ordered by their texts, then by name and strictness. -/
instance : Ord Requirement where
  compare left right :=
    ((compare left.text right.text).then (compare left.name right.name)).then
      (compare left.strictness right.strictness)

end Requirement

end PackageRecipe
