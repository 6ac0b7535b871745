import PackageRecipe.Text.Blank
import PackageRecipe.Yaml.Document

/-!
Recipe documents: YAML texts whose top level is a mapping.
-/

namespace PackageRecipe

namespace Document

inductive Error where
  | malformed (cause : Yaml.Error)
  | notMapping (found : Yaml.Value.Kind)
  deriving DecidableEq, Repr

def Error.message : Error → String
  | .malformed cause => s!"failed to parse manifest: {cause.message}"
  | .notMapping found => s!"manifest must be a mapping at the top level, found {found.word}"

def isSilent (line : List Char) : Bool :=
  match Text.trim line with
  | [] => true
  | head :: _ => head == '#'

/-- A document of blank lines and comments, or of a null, stands for an empty mapping. -/
def parse (text : String) : Except Error Yaml.Mapping :=
  if (Text.lines text.toList).all isSilent then .ok []
  else
    match Yaml.parse text with
    | .error cause => .error (.malformed cause)
    | .ok .null => .ok []
    | .ok (.mapping entries) => .ok entries
    | .ok other => .error (.notMapping other.kind)

end Document

end PackageRecipe
