import PackageRecipe.Recipe
import PackageRecipe.Yaml.Exchange

/-!
What a package index holds about the build of a recipe, with more about applications.
The file of an icon is named by the digest of what it holds.
-/

namespace PackageRecipe

structure Application where
  icon : Option String
  entry : Option Yaml.Value
  kind : Option Yaml.Value
  options : Option Yaml.Value
  summary : Option Yaml.Value
  deriving Repr

structure Summary where
  name : String
  version : String
  build : BuildId
  number : Nat
  platform : String
  architecture : String
  depends : List String
  application : Option Application
  deriving Repr

namespace Recipe

/-- A recipe describes an application if it says how the application is entered. -/
def isApplication (recipe : Recipe) : Bool :=
  (recipe.manifest.get? "app/entry").any Yaml.Value.isGiven

def given? (recipe : Recipe) (field : String) : Option Yaml.Value :=
  (recipe.manifest.get? field).filter Yaml.Value.isGiven

def iconPath? (recipe : Recipe) : Except Error (Option String) :=
  match recipe.given? "app/icon" with
  | none => .ok none
  | some value =>
      match value.string? with
      | some path => .ok (some (Path.join recipe.path path))
      | none => .error (.invalidIcon recipe.manifestPath)

def iconName? (recipe : Recipe) (digest : String → Except String String) :
    Except Error (Option String) := do
  match ← recipe.iconPath? with
  | none => return none
  | some path =>
      let digest ← (digest path).mapError (.unreadableIcon path)
      return some (digest ++ ".png")

def application (recipe : Recipe) (digest : String → Except String String) :
    Except Error Application := do
  let icon ← recipe.iconName? digest
  return ⟨icon, recipe.given? "app/entry", recipe.given? "app/type",
    recipe.given? "app/cli_opts", recipe.given? "app/summary"⟩

def application? (recipe : Recipe) (digest : String → Except String String) :
    Except Error (Option Application) :=
  if recipe.isApplication then (recipe.application digest).map some else .ok none

def depends (recipe : Recipe) : Except Error (List String) := do
  let requirements ← recipe.dependencies .run
  return (requirements.map Requirement.text).mergeSort fun left right =>
    (compare left right).isLE

def summary (recipe : Recipe) (digest : String → Except String String) :
    Except Error Summary := do
  let depends ← recipe.depends
  let application ← recipe.application? digest
  let name ← recipe.name
  let version ← recipe.requiredVersion
  let build ← recipe.buildId
  let number ← recipe.buildNumber
  return ⟨name, version, build, number, recipe.target.platform, recipe.target.architecture,
    depends, application⟩

end Recipe

namespace Application

def member (key : String) : Option Yaml.Value → Except Yaml.KeyFault (List (String × Json))
  | none => .ok []
  | some value => return [(key, ← value.toJson)]

def members (application : Application) : Except Yaml.KeyFault (List (String × Json)) := do
  let icon := application.icon.toList.map fun icon => ("icon", Json.string icon)
  return ("type", .string "app") :: icon ++ (← member "app_entry" application.entry) ++
    (← member "app_type" application.kind) ++ (← member "app_cli_opts" application.options) ++
    (← member "summary" application.summary)

def toJson (application : Application) : Except Yaml.KeyFault Json :=
  return .object (← application.members)

end Application

namespace Summary

def toJson (summary : Summary) : Except Yaml.KeyFault Json := do
  let application ←
    match summary.application with
    | none => .ok []
    | some application => application.members
  return .object ([("name", .string summary.name), ("version", .string summary.version),
    ("build", summary.build.toJson), ("build_number", .integer summary.number),
    ("platform", .string summary.platform), ("arch", .string summary.architecture),
    ("depends", .array (summary.depends.map .string))] ++ application)

end Summary

end PackageRecipe
