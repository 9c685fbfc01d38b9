import QueryLint.Text.Basic

/-! Files in folders. A path is read step by step from the folder in which the program runs, or from
the root if it begins with a slash; each step needs a folder to stand in. -/
namespace QueryLint.CommandLine
set_option autoImplicit false

inductive FileProblem where
  | missing
  | isFolder
  /-- What should be a folder on the way is a file. -/
  | notFolder
  | nameTooLong
  /-- The path has a character that no path can have. -/
  | badPath
  | refused
deriving DecidableEq, Repr

/-- Files, each under the names that lead to it from the root, and the folder in which relative
paths begin. There are no folders but those that lead to a file or to that folder. -/
structure FileTree where
  here : List String
  files : List (List String × Text)

namespace FileTree

def content? (t : FileTree) (place : List String) : Option Text := t.files.lookup place

def isFolder (t : FileTree) (place : List String) : Bool :=
  place.isPrefixOf t.here || t.files.any fun f => place.isPrefixOf f.1.dropLast

/-! ## Paths -/

/-- The longest name of a file or folder, in bytes. -/
def maxName : Nat := 255

/-- The longest path, in bytes. -/
def maxPath : Nat := 4095

/-- The place that one more name leads to. An empty name and a dot stay, two dots go up, and above
the root there is nothing to go to. -/
def step (place : List String) (name : String) : List String :=
  if name = "" || name = "." then place
  else if name = ".." then place.dropLast
  else place ++ [name]

/-- The place that names lead to. The last of them need not be there. -/
def walk (t : FileTree) (place : List String) : List String → Except FileProblem (List String)
  | [] => .ok place
  | name :: rest =>
    if t.isFolder place then
      if maxName < name.utf8ByteSize then .error .nameTooLong else t.walk (step place name) rest
    else if (t.content? place).isSome then .error .notFolder
    else .error .missing

/-- The names of a path, checked for what no path may be. -/
def namesOf (path : String) : Except FileProblem (List String) :=
  if path.toList.contains '\x00' then .error .badPath
  else if path = "" then .error .missing
  else if maxPath < path.utf8ByteSize then .error .nameTooLong
  else .ok (path.splitOn "/")

/-- The place from which the names of a path lead. -/
def start (here names : List String) : List String := if names.head? = some "" then [] else here

/-! ## Reading and writing -/

def read (t : FileTree) (path : String) : Except FileProblem Text := do
  let names ← namesOf path
  let place ← t.walk (start t.here names) names
  match t.content? place with
  | some text => return text
  | none => throw (if t.isFolder place then .isFolder else .missing)

/-- The place of the file that writing to a path fills. A path that ends in a slash names a folder,
whether or not it is there. -/
def target (t : FileTree) (path : String) : Except FileProblem (List String) := do
  let names ← namesOf path
  let last := names.getLast?.getD ""
  let onTheWay := (names.reverse.dropWhile (· = "")).tail.reverse
  let folder ← t.walk (start t.here names) (onTheWay ++ [""])
  if last = "" then throw .isFolder
  let place ← t.walk folder [last]
  if t.isFolder place then throw .isFolder else return place

def obstacle? (t : FileTree) (path : String) : Option FileProblem :=
  match t.target path with
  | .ok _ => none
  | .error problem => some problem

/-- The files that writing makes in the folder of the program and those below it, by their names
from there. A file that was there before is filled and not made. -/
def created (t : FileTree) (written : List (String × String)) : List (String × String) :=
  written.filterMap fun (path, content) =>
    match t.target path with
    | .ok place =>
      if (t.content? place).isNone && t.here.isPrefixOf place then
        some (Text.joinStrings "/" (place.drop t.here.length), content)
      else none
    | .error _ => none

def ofFiles (here : List String) (files : List (String × Text)) : FileTree :=
  ⟨here, files.map fun (path, text) =>
    let names := path.splitOn "/"
    (names.foldl step (start here names), text)⟩

end FileTree
end QueryLint.CommandLine
