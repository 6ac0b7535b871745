import PackageRecipe.CommandLine.Arguments
import PackageRecipe.CommandLine.Program
import PackageRecipe.Recipe.Summary

/-!
The commands: what they print, and how they fail.
-/

namespace PackageRecipe

namespace CommandLine

/-! The outputs of the commands: lines with labels padded to one width, or indented
JSON. Of several requirements only the first has the label. -/

def line (text : String) : String :=
  text ++ "\n"

def padded (width : Nat) (text : String) : String :=
  text ++ String.ofList (List.replicate (width - text.length) ' ')

def printJson (value : Except Yaml.KeyFault Json) : Program Unit := do
  let json ← attempt (value.mapError .serialization)
  print (line json.indented)

def labelled (label text : String) : String :=
  line (padded 15 label ++ text)

def dependsLines : List String → List String
  | [] => [labelled "depends:" "(none)"]
  | first :: others => labelled "depends:" first :: others.map (labelled "")

def applicationLines : Option Application → List String
  | none => []
  | some application =>
      labelled "app:" "yes" :: application.icon.toList.map (labelled "icon:")

def summaryLines (summary : Summary) : List String :=
  [labelled "name:" summary.name, labelled "version:" summary.version,
    labelled "build:" summary.build.text, labelled "build_number:" (toString summary.number),
    labelled "platform:" summary.platform, labelled "arch:" summary.architecture] ++
    dependsLines summary.depends ++ applicationLines summary.application

def factsJson (facts : Facts) : Json :=
  .object (facts.map fun (name, fact) =>
    (name, match fact with
      | .boolean value => .boolean value
      | .integer value => .integer value))

def factsLines (facts : Facts) : List String :=
  facts.map fun (name, fact) => line (padded 8 name ++ " = " ++ fact.text)

def loadRecipe (files : Files) (path : String) (target : Target) : Program Recipe :=
  attempt ((Recipe.load files path target).mapError .recipe)

def inspect (files : Files) (path : String) (target : Target) (json : Bool) :
    Program Unit := do
  let recipe ← loadRecipe files path target
  let summary ← attempt ((recipe.summary files.digest).mapError .recipe)
  if json then printJson summary.toJson else printAll (summaryLines summary)

def render (files : Files) (path : String) (target : Target) (normalized : Bool) :
    Program Unit := do
  if normalized then
    let recipe ← loadRecipe files path target
    let text ← attempt (recipe.manifest.print.mapError .unwritable)
    print text
  else
    let manifestPath := Path.join path Recipe.manifestFile
    let text ← attempt ((files.text manifestPath).mapError (.unreadable manifestPath))
    let selected ←
      attempt ((Selector.select target.facts text).mapError (.selector manifestPath))
    print selected

def dist (files : Files) (path : String) (target : Target) (json : Bool) :
    Program Unit := do
  let recipe ← loadRecipe files path target
  let name ← attempt (recipe.distributionName.mapError .recipe)
  if json then
    let build ← attempt (recipe.buildId.mapError .recipe)
    printJson (.ok (.object [("build", build.toJson), ("dist", name.toJson)]))
  else print (line name.text)

def depends (files : Files) (path : String) (target : Target) (kind : DependencyKind)
    (json : Bool) : Program Unit := do
  let recipe ← loadRecipe files path target
  let requirements ← attempt ((recipe.dependencies kind).mapError .recipe)
  if json then
    printJson (.ok (.array (requirements.map fun requirement => .string requirement.text)))
  else printAll (requirements.map fun requirement => line requirement.text)

def printFacts (target : Target) (json : Bool) : Program Unit :=
  if json then printJson (.ok (factsJson target.facts)) else printAll (factsLines target.facts)

def commandWords : String :=
  String.intercalate " " (CommandWord.all.map Prod.fst)

def completionScript : Shell → String
  | .bash => line s!"complete -o default -W '{commandWords}' recipekit"
  | .elvish =>
      line ("set edit:completion:arg-completer[recipekit] = \x7b|@words| put " ++ commandWords ++
        " \x7d")
  | .fish => line s!"complete -c recipekit -a '{commandWords}'"
  | .powershell =>
      line ("Register-ArgumentCompleter -Native -CommandName recipekit -ScriptBlock \x7b '" ++
        commandWords ++ "' -split ' ' \x7d")
  | .zsh => line s!"compctl -k '({commandWords})' recipekit"

/-! Running a request. -/

/-- The options come after a settings file and the environment, and so override both. -/
def configuration (files : Files) (environment : Configuration.Environment) (host : Target)
    (options : Options) : Except Configuration.Error Target := do
  let target ← Configuration.resolve host (options.settingsFile.map files.text) environment
  Configuration.applyAll [.overrides options.overrides] target

def runFor (files : Files) (options : Options) (target : Target) : Command → Program Unit
  | .inspect path => inspect files path target options.json
  | .render path normalized => render files path target normalized
  | .dist path => dist files path target options.json
  | .depends path kind => depends files path target kind options.json
  | .facts => printFacts target options.json
  | .completions shell => print (completionScript shell)

/-- A completion script does not depend on a target, so no settings are read for it. -/
def runCommand (files : Files) (environment : Configuration.Environment) (host : Target)
    (options : Options) (command : Command) : Program Unit :=
  match command with
  | .completions shell => print (completionScript shell)
  | command => do
      let target ←
        attempt ((configuration files environment host options).mapError .configuration)
      runFor files options target command

def versionText : String := "recipekit 0.1.0"

def helpText : String :=
  "Load package recipes and derive their build identity\n\n" ++
    s!"Usage: recipekit [options] <command> [arguments]\n\nCommands: {commandWords}\n" ++
    "Options: --config --subdir --python --numpy --json --verbose --trace --help --version"

def run (files : Files) (environment : Configuration.Environment) (host : Target) :
    Request → Outcome
  | .run options command => outcome (runCommand files environment host options command)
  | .version => ⟨0, line versionText, none⟩
  | .help => ⟨0, line helpText, none⟩

end CommandLine

end PackageRecipe
