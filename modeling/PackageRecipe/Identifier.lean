import PackageRecipe.Json

/-!
Identifiers of builds: texts that are told apart by the build that they name.
-/

namespace PackageRecipe

/-- The identifier of a build among those of one version, such as `np19py27_3`. -/
structure BuildId where
  text : String
  deriving DecidableEq, Repr

/-- The identifier of one build of one version of a package. -/
structure DistributionName where
  text : String
  deriving DecidableEq, Repr

namespace BuildId

instance : Ord BuildId where
  compare left right := compare left.text right.text

def toJson (identifier : BuildId) : Json :=
  .string identifier.text

def startsWith (identifier : BuildId) (start : String) : Bool :=
  start.toList.isPrefixOf identifier.text.toList

end BuildId

namespace DistributionName

instance : Ord DistributionName where
  compare left right := compare left.text right.text

def toJson (identifier : DistributionName) : Json :=
  .string identifier.text

def startsWith (identifier : DistributionName) (start : String) : Bool :=
  start.toList.isPrefixOf identifier.text.toList

end DistributionName

end PackageRecipe
