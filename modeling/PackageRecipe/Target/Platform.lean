import PackageRecipe.Target
import PackageRecipe.Text.Blank

/-!
The parts of a target's subdir before and after its first hyphen: a platform family,
and its word size or architecture. A subdir without a hyphen is a family of its own.
-/

namespace PackageRecipe.Target

def parts? (subdir : String) : Option (List Char × List Char) :=
  Text.splitFirst? '-' subdir.toList

def isWellFormed (subdir : String) : Bool :=
  match parts? subdir with
  | some (platform, suffix) => !platform.isEmpty && !suffix.isEmpty
  | none => false

example : isWellFormed "linux-64" = true := by decide +kernel

def platform (target : Target) : String :=
  match parts? target.subdir with
  | some (platform, _) => String.ofList platform
  | none => target.subdir

/-- Two word sizes have names as architectures; others are given as they are. -/
def architecture (target : Target) : String :=
  match parts? target.subdir with
  | some (_, ['6', '4']) => "x86_64"
  | some (_, ['3', '2']) => "x86"
  | some (_, suffix) => String.ofList suffix
  | none => ""

end PackageRecipe.Target
