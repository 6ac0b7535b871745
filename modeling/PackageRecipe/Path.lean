import PackageRecipe.Text.Blank

/-!
Paths of files: names between slashes, some of which may be empty. A path is kept as
it is given, so that messages can show it, and an absolute path is the same from
every directory.
-/

namespace PackageRecipe

namespace Path

def join (directory path : String) : String :=
  if path.toList.head? = some '/' ∨ directory = "" then path
  else if directory.toList.getLast? = some '/' then directory ++ path
  else directory ++ "/" ++ path

example : join "r" "meta.yaml" = "r/meta.yaml" := by decide +kernel

example : join "r/" "meta.yaml" = "r/meta.yaml" := by decide +kernel

def names (path : String) : List String :=
  (Text.pieces (· == '/') path.toList).map String.ofList

/-- Follows one more name from a place, which is given by the names that lead to it from
the top, the innermost first. Two points lead back up, but not above the top. -/
def step (place : List String) (name : String) : List String :=
  if name = "" ∨ name = "." then place
  else if name = ".." then place.tail
  else name :: place

def resolved (path : String) : List String :=
  ((names path).foldl step []).reverse

example : resolved "r/./sub/../icon.png" = ["r", "icon.png"] := by decide +kernel

end Path

end PackageRecipe
