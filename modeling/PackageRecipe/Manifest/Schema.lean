import PackageRecipe.Yaml.Value

/-!
The fields that every recipe has once it is normalized, and what their values are
made into: lists of texts, or texts.
-/

namespace PackageRecipe

namespace Manifest

inductive Shape where
  | list
  | text
  deriving DecidableEq, Repr

def Shape.word : Shape → String
  | .list => "List"
  | .text => "Text"

structure Field where
  sectionName : String
  key : String
  shape : Shape
  deriving DecidableEq, Repr

def Field.path (field : Field) : String :=
  field.sectionName ++ "/" ++ field.key

/-- The fields with a shape, in the order in which they are checked. -/
def schema : List Field :=
  [⟨"source", "patches", .list⟩,
    ⟨"build", "entry_points", .list⟩,
    ⟨"build", "features", .list⟩,
    ⟨"build", "track_features", .list⟩,
    ⟨"requirements", "build", .list⟩,
    ⟨"requirements", "run", .list⟩,
    ⟨"requirements", "conflicts", .list⟩,
    ⟨"test", "requires", .list⟩,
    ⟨"test", "files", .list⟩,
    ⟨"test", "commands", .list⟩,
    ⟨"test", "imports", .list⟩,
    ⟨"package", "version", .text⟩,
    ⟨"source", "git_tag", .text⟩,
    ⟨"source", "git_branch", .text⟩,
    ⟨"source", "md5", .text⟩]

inductive Fault where
  | notSection (name : String) (found : Yaml.Value.Kind)
  | notText (field : String) (found : Yaml.Value.Kind)
  | notItem (field : String) (found : Yaml.Value.Kind)
  deriving DecidableEq, Repr

def Fault.message : Fault → String
  | .notSection name found => s!"section '{name}' must be a mapping, found {found.word}"
  | .notText field found =>
      s!"invalid field '{field}': expected a scalar, found {found.word}"
  | .notItem field found =>
      s!"invalid field '{field}': list entries must be scalars, found {found.word}"

namespace Field

def item (field : Field) (value : Yaml.Value) : Except Fault Yaml.Value :=
  match value.scalarText? with
  | some text =>
      if value.isNull then .error (.notItem field.path value.kind) else .ok (.string text)
  | none => .error (.notItem field.path value.kind)

/-- A list of texts. A null is an empty list, and a scalar a list of one item. -/
def items (field : Field) (value : Yaml.Value) : Except Fault (List Yaml.Value) :=
  match value.untagged with
  | .null => .ok []
  | .sequence values => values.mapM field.item
  | other => [other].mapM field.item

def shaped (field : Field) (value : Yaml.Value) : Except Fault Yaml.Value :=
  match field.shape with
  | .list => return .sequence (← field.items value)
  | .text =>
      match value.scalarText? with
      | some text => .ok (.string text)
      | none => .error (.notText field.path value.kind)

end Field

end Manifest

end PackageRecipe
