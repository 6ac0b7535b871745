/-!
Targets: the platform and the runtime versions that a recipe is read for, and the
facts about them that conditions may name.
-/

namespace PackageRecipe

/-- A platform with its word size or architecture, such as `linux-64`, and the
versions of the two runtimes, such as `27` for 2.7. -/
structure Target where
  subdir : String
  python : UInt32
  numpy : UInt32
  deriving DecidableEq, Repr

inductive Fact where
  | boolean (value : Bool)
  | integer (value : Int)
  deriving DecidableEq, Repr

def Fact.text : Fact → String
  | .boolean value => toString value
  | .integer value => toString value

/-- Named facts, each name once, in the order of the names. -/
abbrev Facts : Type :=
  List (String × Fact)

namespace Target

def isFamily (target : Target) (family : String) : Bool :=
  (family.toList ++ ['-']).isPrefixOf target.subdir.toList

def facts (target : Target) : Facts :=
  let python : Int := target.python.toNat
  [("armv6", .boolean (target.subdir == "linux-armv6l")),
    ("linux", .boolean (target.isFamily "linux")),
    ("linux32", .boolean (target.subdir == "linux-32")),
    ("linux64", .boolean (target.subdir == "linux-64")),
    ("np", .integer target.numpy.toNat),
    ("osx", .boolean (target.isFamily "osx")),
    ("py", .integer python),
    ("py26", .boolean (python == 26)),
    ("py27", .boolean (python == 27)),
    ("py2k", .boolean (decide (20 ≤ python) && decide (python < 30))),
    ("py33", .boolean (python == 33)),
    ("py3k", .boolean (decide (30 ≤ python) && decide (python < 40))),
    ("unix", .boolean (target.isFamily "linux" || target.isFamily "osx")),
    ("win", .boolean (target.isFamily "win")),
    ("win32", .boolean (target.subdir == "win-32")),
    ("win64", .boolean (target.subdir == "win-64"))]

end Target

def Facts.names : List String :=
  ["armv6", "linux", "linux32", "linux64", "np", "osx", "py", "py26", "py27", "py2k",
    "py33", "py3k", "unix", "win", "win32", "win64"]

theorem Target.map_fst_facts (target : Target) :
    target.facts.map Prod.fst = Facts.names := rfl

end PackageRecipe
