import PackageRecipe.Digest
import PackageRecipe.Path

/-!
Files as a program sees them, and trees of files in memory.
-/

namespace PackageRecipe

inductive FileFault where
  | missing
  | isDirectory
  | notText
  | other (reason : String)
  deriving DecidableEq, Repr

def FileFault.message : FileFault → String
  | .missing => "No such file or directory"
  | .isDirectory => "Is a directory"
  | .notText => "stream did not contain valid UTF-8"
  | .other reason => reason

/-- What a program can learn about files: which paths are directories, and what the
files hold. -/
structure Files where
  isDirectory : String → Bool
  read : String → Except FileFault (List UInt8)

namespace Files

def text (files : Files) (path : String) : Except String String :=
  match files.read path with
  | .error fault => .error fault.message
  | .ok bytes =>
      match String.fromUTF8? ⟨bytes.toArray⟩ with
      | some text => .ok text
      | none => .error FileFault.notText.message

def digest (files : Files) (path : String) : Except String String :=
  match files.read path with
  | .error fault => .error fault.message
  | .ok bytes => .ok (Digest.md5 bytes)

end Files

inductive FileTree where
  | file (content : List UInt8)
  | directory (entries : List (String × FileTree))
  deriving Repr

namespace FileTree

def empty : FileTree :=
  .directory []

/-- Directories on the way to the place are made. -/
def insert (added : FileTree) : List String → FileTree → FileTree
  | [], present =>
      match added, present with
      | .directory [], .directory entries => .directory entries
      | added, _ => added
  | name :: rest, present =>
      let entries := match present with
        | .directory entries => entries
        | .file _ => []
      let inner := (entries.lookup name).getD empty
      .directory ((name, insert added rest inner) :: entries.filter (·.1 != name))

def add (tree : FileTree) (path : String) (content : Option (List UInt8)) : FileTree :=
  insert (content.elim empty FileTree.file) (Path.resolved path) tree

/-- The tree that names lead to, one after the other. Only in a directory can there be
a next name, and two points lead to the directory around it. Of the directories around
the outermost one nothing is known but that they are there, so they count as empty. -/
def walk : (around : List FileTree) → (place : FileTree) → List String → Option FileTree
  | _, place, [] => some place
  | _, .file _, _ :: _ => none
  | around, .directory entries, name :: rest =>
      if name = "" ∨ name = "." then walk around (.directory entries) rest
      else if name = ".." then
        match around with
        | [] => walk [] empty rest
        | outer :: others => walk others outer rest
      else
        match entries.lookup name with
        | some inner => walk (.directory entries :: around) inner rest
        | none => none

/-- An absolute path leads from a root of which nothing is known either. -/
def find? (tree : FileTree) (path : String) : Option FileTree :=
  walk [] (if path.toList.head? = some '/' then empty else tree) (Path.names path)

def files (tree : FileTree) : Files where
  isDirectory path :=
    match tree.find? path with
    | some (.directory _) => true
    | _ => false
  read path :=
    match tree.find? path with
    | some (.file content) => .ok content
    | some (.directory _) => .error .isDirectory
    | none => .error .missing

example : ((empty.add "r/up.png" (some [7])).files.read "r/../r/up.png").toOption = some [7] := by
  decide +kernel

end FileTree

end PackageRecipe
