import PackageRecipe.Recipe
import PackageRecipe.Yaml.Exchange

/-!
Programs that print and may fail, and what they end with. A program is not stopped from
failing after it has printed something.
-/

namespace PackageRecipe

namespace CommandLine

inductive Failure where
  | configuration (error : Configuration.Error)
  | recipe (error : Recipe.Error)
  | unreadable (path : String) (reason : String)
  | selector (path : String) (error : Selector.Error)
  | unwritable (error : Yaml.Error)
  | serialization (fault : Yaml.KeyFault)
  deriving DecidableEq, Repr

def recipeErrorStart : String := "recipe error:"

def recipeMessage (message : String) : String :=
  recipeErrorStart ++ " " ++ message

def Failure.message : Failure → String
  | .configuration error => error.message
  | .recipe error => recipeMessage error.message
  | .unreadable path reason => recipeMessage s!"failed to read {path}: {reason}"
  | .selector path error => recipeMessage s!"{path}: {error.message}"
  | .unwritable error => recipeMessage (Document.Error.malformed error).message
  | .serialization fault => s!"JSON serialization failed: {fault.message}"

/-- The start of the message decides: 2 for errors in recipes, and 1 for all others. -/
def Failure.exitCode (failure : Failure) : UInt32 :=
  if recipeErrorStart.toList.isPrefixOf failure.message.toList then 2 else 1

/-- What is printed before a failure stays printed. -/
abbrev Program : Type → Type :=
  ExceptT Failure (StateM String)

def print (text : String) : Program Unit :=
  modify (· ++ text)

def printAll (texts : List String) : Program Unit :=
  texts.forM print

def attempt {α : Type} (result : Except Failure α) : Program α :=
  MonadExcept.ofExcept result

namespace Program

variable {α β : Type}

/-- What was printed before the program starts is at the front of its output. -/
def runFrom (printed : String) (program : Program α) : Except Failure α × String :=
  (ExceptT.run program).run printed

@[simp] theorem runFrom_print (printed text : String) :
    runFrom printed (print text) = (.ok (), printed ++ text) := rfl

@[simp] theorem runFrom_attempt (printed : String) (result : Except Failure α) :
    runFrom printed (attempt result) = (result, printed) := by
  cases result <;> rfl

theorem runFrom_bind (printed : String) (program : Program α) (next : α → Program β) :
    runFrom printed (program >>= next) =
      match runFrom printed program with
      | (.ok value, printed) => runFrom printed (next value)
      | (.error failure, printed) => (.error failure, printed) := by
  simp only [runFrom, ExceptT.run_bind, StateT.run_bind]
  cases (ExceptT.run program).run printed with
  | mk result printed => cases result <;> rfl

end Program

structure Outcome where
  exitCode : UInt32
  output : String
  failure : Option Failure
  deriving Repr

def outcome (program : Program Unit) : Outcome :=
  match program.runFrom "" with
  | (.ok (), output) => ⟨0, output, none⟩
  | (.error failure, output) => ⟨failure.exitCode, output, some failure⟩

end CommandLine

end PackageRecipe
