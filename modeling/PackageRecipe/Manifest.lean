import PackageRecipe.Document.Cache
import PackageRecipe.Manifest.Schema
import PackageRecipe.Selector
import PackageRecipe.Yaml.Printer

/-!
Manifests: recipe documents in which every field of the schema is present and has
its shape. All else in the document stays as it is. A value is found by the name of
its section, a slash, and its key.
-/

namespace PackageRecipe

structure Manifest where
  document : Yaml.Mapping
  deriving Repr

namespace Manifest

/-- An absent or null section has no entries. -/
def contents (document : Yaml.Mapping) (name : String) : Except Fault Yaml.Mapping :=
  match document.get? name with
  | none => .ok []
  | some value =>
      if value.isNull then .ok []
      else
        match value with
        | .mapping entries => .ok entries
        | other => .error (.notSection name other.kind)

/-- A field that was absent follows all others of its section. -/
def fill (document : Yaml.Mapping) (field : Field) : Except Fault Yaml.Mapping := do
  let entries ← contents document field.sectionName
  let value ← field.shaped ((entries.get? field.key).getD .null)
  return document.put field.sectionName (.mapping (entries.put field.key value))

def normalize (document : Yaml.Mapping) : Except Fault Manifest :=
  (schema.foldlM fill document).map Manifest.mk

def sectionOf? (manifest : Manifest) (name : String) : Option Yaml.Mapping :=
  (manifest.document.get? name).bind Yaml.Value.mapping?

def get? (manifest : Manifest) (path : String) : Option Yaml.Value := do
  let (name, key) ← Text.splitFirst? '/' path.toList
  let entries ← manifest.sectionOf? (String.ofList name)
  entries.get? (String.ofList key)

def text (manifest : Manifest) (path : String) : String :=
  ((manifest.get? path).bind Yaml.Value.string?).getD ""

def texts (manifest : Manifest) (path : String) : List String :=
  (((manifest.get? path).bind Yaml.Value.sequence?).getD []).filterMap Yaml.Value.string?

def print (manifest : Manifest) : Except Yaml.Error String :=
  (Yaml.Value.mapping manifest.document).print

inductive Error where
  | unreadable (reason : String)
  | selector (error : Selector.Error)
  | document (error : Document.Error)
  | fault (cause : Fault)
  deriving DecidableEq, Repr

def Error.message : Error → String
  | .unreadable reason => s!"failed to read manifest file: {reason}"
  | .selector error => error.message
  | .document error => error.message
  | .fault cause => cause.message

def read (facts : Facts) (text : String) : Except Error Manifest := do
  let selected ← (Selector.select facts text).mapError .selector
  let document ← (Document.parse selected).mapError .document
  (normalize document).mapError .fault

def readWith {Key : Type} [DecidableEq Key] (cache : Document.Cache Key) (facts : Facts)
    (text : String) : Except Error Manifest × Document.Cache Key :=
  match Selector.select facts text with
  | .error error => (.error (.selector error), cache)
  | .ok selected =>
      let (document, cache) := cache.load selected
      (do (normalize (← document.mapError .document)).mapError .fault, cache)

end Manifest

end PackageRecipe
