import PackageRecipe.Configuration
import PackageRecipe.Manifest
import PackageRecipe.Requirement

/-!
Why a recipe cannot be loaded, or something cannot be derived from it.
-/

namespace PackageRecipe

namespace Recipe

/-- Each error about a recipe names the path of its manifest, or of the file that it is
about. -/
inductive Error where
  | configuration (cause : Configuration.Error)
  | noDirectory (path : String)
  | manifest (path : String) (cause : Manifest.Error)
  | missingName (path : String)
  | nameNotLowercase (name path : String)
  | missingVersion (path : String)
  | invalidNumber (path : String) (found : String)
  | invalidIcon (path : String)
  | requirement (path : String) (cause : Requirement.Error)
  | shortPin (path : String) (pinned : String)
  | unreadableIcon (path : String) (reason : String)
  deriving DecidableEq, Repr

def Error.message : Error → String
  | .configuration cause => s!"configuration error: {cause.message}"
  | .noDirectory path => s!"recipe directory not found: {path}"
  | .manifest path cause => s!"manifest error in {path}: {cause.message}"
  | .missingName path => s!"package/name missing in: {path}"
  | .nameNotLowercase name path =>
      s!"package/name must be lowercase, got: '{name}' in {path}"
  | .missingVersion path => s!"package/version missing in: {path}"
  | .invalidNumber path found =>
      s!"invalid field 'build/number' in {path}: expected a non-negative integer, found {found}"
  | .invalidIcon path => s!"invalid field 'app/icon' in {path}: expected a relative file path"
  | .requirement path cause => s!"invalid requirement in {path}: {cause.message}"
  | .shortPin path pinned =>
      s!"cannot derive build id from '{pinned}' in {path}: version needs at least 3 characters"
  | .unreadableIcon path reason => s!"failed to hash {path}: {reason}"

end Recipe

end PackageRecipe
