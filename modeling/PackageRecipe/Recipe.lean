import PackageRecipe.FileTree
import PackageRecipe.Identifier
import PackageRecipe.Recipe.Error
import PackageRecipe.Text.Lowercase

/-!
Recipes: manifests with a name, seen for one target, and what identifies the build
that a recipe describes there.
-/

namespace PackageRecipe

structure Recipe where
  path : String
  manifest : Manifest
  target : Target
  deriving Repr

inductive DependencyKind where
  | build
  | run
  deriving DecidableEq, Repr

def DependencyKind.field : DependencyKind → String
  | .build => "requirements/build"
  | .run => "requirements/run"

namespace Recipe

def manifestFile : String := "meta.yaml"

def manifestPath (recipe : Recipe) : String :=
  Path.join recipe.path manifestFile

/-- A recipe has to give the name of its package, in lower case. -/
def name (recipe : Recipe) : Except Error String :=
  let value := (recipe.manifest.get? "package/name").map Yaml.Value.untagged
  match (value.filter Yaml.Value.isGiven).bind Yaml.Value.scalarText? with
  | none => .error (.missingName recipe.manifestPath)
  | some name =>
      if Text.lowercase name.toList = name.toList then .ok name
      else .error (.nameNotLowercase name recipe.manifestPath)

def targetOf (subdir : String) (python numpy : UInt32) : Except Error Target :=
  (Configuration.target subdir python numpy).mapError .configuration

def ofText (path : String) (target : Target) (text : String) : Except Error Recipe := do
  let manifest ←
    (Manifest.read target.facts text).mapError (.manifest (Path.join path manifestFile))
  let recipe : Recipe := ⟨path, manifest, target⟩
  let _ ← recipe.name
  return recipe

def load (files : Files) (path : String) (target : Target) : Except Error Recipe :=
  let manifestPath := Path.join path manifestFile
  if files.isDirectory path then
    match files.text manifestPath with
    | .error reason => .error (.manifest manifestPath (.unreadable reason))
    | .ok text => ofText path target text
  else .error (.noDirectory path)

def version (recipe : Recipe) : String :=
  recipe.manifest.text "package/version"

def requiredVersion (recipe : Recipe) : Except Error String :=
  if recipe.version = "" then .error (.missingVersion recipe.manifestPath)
  else .ok recipe.version

def numberBound : Nat := 0x10000000000000000

/-- The number that a value stands for: an integer that is not negative, a float equal
to one, or a numeral. The float just at the bound counts as the greatest number. -/
def number? : Yaml.Value → Option Nat
  | .number (.integer value) => if 0 ≤ value then some value.toNat else none
  | .number (.float value) => do
      let whole ← value.toNat?
      if whole ≤ numberBound then some (min whole (numberBound - 1)) else none
  | .string text => Text.readUnsigned? numberBound (Text.trim text.toList)
  | _ => none

def shownNumber : Yaml.Value → String
  | .number number => number.text
  | .string text => s!"'{text}'"
  | other => other.description

def buildNumber (recipe : Recipe) : Except Error Nat :=
  match (recipe.manifest.get? "build/number").map Yaml.Value.untagged with
  | none | some .null => .ok 0
  | some value =>
      match number? value with
      | some number => .ok number
      | none => .error (.invalidNumber recipe.manifestPath (shownNumber value))

end Recipe

/-! The two runtimes whose versions a requirement may leave to the target. -/

namespace Target

/-- A runtime that is required without a version is required in the target's. -/
def pin (target : Target) (requirement : Requirement) : Requirement :=
  if requirement.strictness = 1 then
    if requirement.name = "python" then .pinned "python" target.python
    else if requirement.name = "numpy" then .pinned "numpy" target.numpy
    else requirement
  else requirement

end Target

namespace Recipe

def dependencies (recipe : Recipe) (kind : DependencyKind) : Except Error (List Requirement) :=
  (recipe.manifest.texts kind.field).mapM fun text => do
    let requirement ←
      (Requirement.parse text).mapError (.requirement recipe.manifestPath)
    return recipe.target.pin requirement

/-- The part of a build id that shows the version of a runtime: a tag and the first
and the third character of the version. It is empty if the runtime is not required. -/
def runtimePart (recipe : Recipe) (requirements : List Requirement) (runtime tag : String) :
    Except Error (List Char) :=
  match requirements.find? (·.name == runtime) with
  | none => .ok []
  | some requirement =>
      match (requirement.version?.getD "").toList with
      | first :: _ :: third :: _ => .ok (tag.toList ++ [first, third])
      | _ => .error (.shortPin recipe.manifestPath requirement.text)

/-- The runtimes that are required at run time stand before a low line and the number of
the build. Without any, the number stands alone. -/
def buildId (recipe : Recipe) : Except Error BuildId := do
  let requirements ← recipe.dependencies .run
  let numpy ← recipe.runtimePart requirements "numpy" "np"
  let python ← recipe.runtimePart requirements "python" "py"
  let number ← recipe.buildNumber
  let runtimes := numpy ++ python
  let separator := if runtimes = [] then [] else ['_']
  return ⟨String.ofList (runtimes ++ separator ++ Nat.toDigits 10 number)⟩

def distributionName (recipe : Recipe) : Except Error DistributionName := do
  let name ← recipe.name
  let version ← recipe.requiredVersion
  let build ← recipe.buildId
  return ⟨name ++ "-" ++ version ++ "-" ++ build.text⟩

end Recipe

end PackageRecipe
