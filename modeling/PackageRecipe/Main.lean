import PackageRecipe.CommandLine

/-!
The program: reads the arguments, the environment and the files that a command looks
at, and prints the outcome.
-/

namespace PackageRecipe.CommandLine

def lookAt (path : String) : IO (Except FileFault (List UInt8)) := do
  try
    return .ok (← IO.FS.readBinFile path).toList
  catch error =>
    match error with
    | .inappropriateType .. => return .error .isDirectory
    | .noFileOrDirectory .. => return .error .missing
    | error => return .error (.other (toString error))

def seen (entries : List (String × Except FileFault (List UInt8))) : Files where
  isDirectory path :=
    match entries.lookup path with
    | some (.error .isDirectory) => true
    | _ => false
  read path := (entries.lookup path).getD (.error .missing)

def recipeOf? : Command → Option String
  | .inspect path | .render path _ | .dist path | .depends path _ => some path
  | .facts | .completions _ => none

def iconOf? (files : Files) (environment : Configuration.Environment) (host : Target)
    (options : Options) : Command → Option String
  | .inspect path => do
      let target ← (configuration files environment host options).toOption
      let recipe ← (Recipe.load files path target).toOption
      recipe.iconPath?.toOption.join
  | _ => none

def readEnvironment : IO Configuration.Environment := do
  let names := [Configuration.subdirVariable, Configuration.pythonVariable,
    Configuration.numpyVariable]
  let defined ← names.filterMapM fun name => do
    return (← IO.getEnv name).map fun value => (name, value)
  return fun name => defined.lookup name

/-- The files that a command looks at: the settings file, the recipe and its manifest,
and the icon that these tell of. -/
def readFiles (environment : Configuration.Environment) (host : Target) (options : Options)
    (command : Command) : IO Files := do
  let recipe := (recipeOf? command).toList
  let paths := options.settingsFile.toList ++ recipe ++
    recipe.map fun path => Path.join path Recipe.manifestFile
  let entries ← paths.mapM fun path => do return (path, ← lookAt path)
  match iconOf? (seen entries) environment host options command with
  | none => return seen entries
  | some path => return seen ((path, ← lookAt path) :: entries)

end PackageRecipe.CommandLine

open PackageRecipe CommandLine in
/-- The program takes its machine for one with 64-bit words. -/
def main (arguments : List String) : IO UInt32 := do
  match request arguments with
  | .error error =>
      IO.eprintln s!"error: {error.message}\n\n{helpText}"
      return 2
  | .ok request =>
      let environment ← readEnvironment
      let host := Configuration.host "linux-64"
      let files ←
        match request with
        | .run options command => readFiles environment host options command
        | .version | .help => pure (seen [])
      let outcome := run files environment host request
      IO.print outcome.output
      if let some failure := outcome.failure then
        IO.eprintln s!"error: {failure.message}"
      return outcome.exitCode
