import PackageRecipe.Json.Reader
import PackageRecipe.Target.Platform
import PackageRecipe.Text.Numeral
import PackageRecipe.Toml

/-!
Configurations: how a target is put together from the machine's own, a settings
file, the environment and the command line, each of which overrides those before it.
-/

namespace PackageRecipe

namespace Configuration

inductive Error where
  | unreadable (reason : String)
  | malformed
  | invalidVersion (variableName : String) (value : String)
  | invalidSubdir (subdir : String)
  deriving DecidableEq, Repr

/-- What stands for the reason why a settings file is malformed. -/
def malformedReason : String :=
  "expected the keys subdir, python and numpy, each with a value of its type"

def Error.message : Error → String
  | .unreadable reason => s!"failed to read config file: {reason}"
  | .malformed => s!"failed to parse config file: {malformedReason}"
  | .invalidVersion variableName value =>
      s!"{variableName} must be an integer like 27, got '{value}'"
  | .invalidSubdir subdir =>
      s!"invalid platform subdir '{subdir}', expected '<platform>-<bits>' (e.g. linux-64)"

structure Overrides where
  subdir : Option String
  python : Option UInt32
  numpy : Option UInt32
  deriving DecidableEq, Repr

def Overrides.none : Overrides :=
  ⟨.none, .none, .none⟩

def checkSubdir (subdir : String) : Except Error String :=
  if Target.isWellFormed subdir then .ok subdir else .error (.invalidSubdir subdir)

def target (subdir : String) (python numpy : UInt32) : Except Error Target := do
  return ⟨← checkSubdir subdir, python, numpy⟩

def versionBound : Nat := 0x100000000

/-- A version in the environment may have blanks around it. -/
def version (variableName value : String) : Except Error UInt32 :=
  match Text.readUnsigned? versionBound (Text.trim value.toList) with
  | some number => .ok (UInt32.ofNat number)
  | none => .error (.invalidVersion variableName value)

abbrev Environment : Type :=
  String → Option String

def subdirVariable : String := "RECIPEKIT_SUBDIR"

def pythonVariable : String := "RECIPEKIT_PY"

def numpyVariable : String := "RECIPEKIT_NPY"

/-! Settings files: entries with the names of a target's parts, each at most once. -/

def unsigned? (value : Int) : Option UInt32 :=
  if 0 ≤ value ∧ value < versionBound then some (UInt32.ofNat value.toNat) else none

def Overrides.add? (overrides : Overrides) (entry : String × Toml.Value) : Option Overrides :=
  match entry with
  | ("subdir", .string subdir) => some { overrides with subdir := some subdir }
  | ("python", .integer value) =>
      (unsigned? value).map fun version => { overrides with python := some version }
  | ("numpy", .integer value) =>
      (unsigned? value).map fun version => { overrides with numpy := some version }
  | _ => .none

def fileOverrides (text : String) : Except Error Overrides :=
  match (Toml.parse? text.toList).bind (·.foldlM Overrides.add? Overrides.none) with
  | some overrides => .ok overrides
  | none => .error .malformed

/-! Sources of settings: values, a file, which may not be readable, and the environment.
Each assigns values to parts of a target, one after the other, up to the first that is
refused. -/

inductive Assignment where
  | subdir (value : String)
  | python (value : UInt32)
  | numpy (value : UInt32)
  deriving DecidableEq, Repr

def Assignment.apply : Assignment → Target → Target
  | .subdir value, target => { target with subdir := value }
  | .python value, target => { target with python := value }
  | .numpy value, target => { target with numpy := value }

/-- The assignments of a source in their order, with errors in place of those that are
refused. -/
abbrev Layer : Type :=
  List (Except Error Assignment)

def layerOf {α : Type} (assign : α → Except Error Assignment) (value : Option α) : Layer :=
  (value.map assign).toList

def assignSubdir (subdir : String) : Except Error Assignment := do
  return .subdir (← checkSubdir subdir)

def Overrides.layer (overrides : Overrides) : Layer :=
  layerOf assignSubdir overrides.subdir ++
    layerOf (fun value => .ok (.python value)) overrides.python ++
    layerOf (fun value => .ok (.numpy value)) overrides.numpy

def environmentLayer (environment : Environment) : Layer :=
  layerOf assignSubdir (environment subdirVariable) ++
    layerOf (fun value => return .python (← version pythonVariable value))
      (environment pythonVariable) ++
    layerOf (fun value => return .numpy (← version numpyVariable value))
      (environment numpyVariable)

inductive Source where
  | overrides (given : Overrides)
  | file (content : Except String String)
  | environment (values : Environment)

def Source.layer : Source → Layer
  | .overrides given => given.layer
  | .file (.error reason) => [.error (.unreadable reason)]
  | .file (.ok text) =>
      match fileOverrides text with
      | .ok given => given.layer
      | .error error => [.error error]
  | .environment values => environmentLayer values

def assignAll : Layer → Target → Target × Option Error
  | [], target => (target, none)
  | .ok assignment :: rest, target => assignAll rest (assignment.apply target)
  | .error error :: _, target => (target, some error)

/-- What was assigned before an error stays assigned. -/
def Source.apply (source : Source) (target : Target) : Target × Option Error :=
  assignAll source.layer target

/-! Resolution: sources change a target in turn, up to the first that has an error. -/

def applyAll : List Source → Target → Except Error Target
  | [], target => .ok target
  | source :: rest, target =>
      match source.apply target with
      | (target, none) => applyAll rest target
      | (_, some error) => .error error

def host (subdir : String) : Target :=
  ⟨subdir, 27, 17⟩

/-- The environment comes last, and so overrides a settings file. -/
def resolve (host : Target) (file : Option (Except String String)) (environment : Environment) :
    Except Error Target :=
  applyAll (file.toList.map .file ++ [.environment environment]) host

/-! Targets as JSON values. -/

def toJson (target : Target) : Json :=
  .object [("subdir", .string target.subdir), ("python", .integer target.python.toNat),
    ("numpy", .integer target.numpy.toNat)]

def partsToTarget? : Json → Json → Json → Option Target
  | .string subdir, .integer python, .integer numpy => do
      return ⟨subdir, ← unsigned? python, ← unsigned? numpy⟩
  | _, _, _ => none

/-- Takes an object of exactly the three parts, in any order, or an array of them. The
subdir is not checked. -/
def ofJson? : Json → Option Target
  | .array [subdir, python, numpy] => partsToTarget? subdir python numpy
  | .object [first, second, third] => do
      let members := [first, second, third]
      partsToTarget? (← members.lookup "subdir") (← members.lookup "python")
        (← members.lookup "numpy")
  | _ => none

end Configuration

end PackageRecipe
