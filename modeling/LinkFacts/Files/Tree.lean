import LinkFacts.Facts.Problem
import LinkFacts.Text.Utf8

/-!
# Trees of files

Directories, the files in them, and how a path is followed.  Empty components and single dots stand
for the directory they occur in, two dots for the one that holds it.
-/

namespace LinkFacts
namespace Files

/-- What a name in a directory stands for. -/
inductive Node where
  | file (bytes : List Nat)
  | directory (entries : List (String × Node))

/-- What reading the file at a path gives. -/
abbrev Reader := String → Except FileFault (List Nat)

/-- A tree of files and the directory in which relative paths start. -/
structure Tree where
  /-- The outermost directory. -/
  root : Node
  /-- The names that lead from the outermost directory to the current one. -/
  current : List String

/-- The components of a path. -/
def components (path : String) : List String :=
  (path.toList.splitOn '/').map String.ofList

/-- A path that starts at the outermost directory. -/
def isAbsolute (path : String) : Bool := path.toList.head? == some '/'

/-- Follows components from a node; the trail holds the directories around it, the nearest first. -/
def follow : Node → List Node → List String → Except FileFault Node
  | node, _, [] => .ok node
  | .file _, _, _ :: _ => .error .notDirectory
  | .directory entries, trail, name :: rest =>
    if name = "" ∨ name = "." then follow (.directory entries) trail rest
    else if name = ".." then
      match trail with
      | [] => follow (.directory entries) [] rest
      | outer :: above => follow outer above rest
    else
      match entries.lookup name with
      | some node => follow node (.directory entries :: trail) rest
      | none => .error .notFound

namespace Tree

/-- The node at a path. -/
def find (tree : Tree) (path : String) : Except FileFault Node :=
  if path.isEmpty then .error .notFound
  else if isAbsolute path then follow tree.root [] (components path)
  else follow tree.root [] (tree.current ++ components path)

/-- The bytes of the file at a path. -/
def read (tree : Tree) : Reader := fun path =>
  match tree.find path with
  | .error fault => .error fault
  | .ok (.file bytes) => .ok bytes
  | .ok (.directory _) => .error .isDirectory

end Tree

/-- Puts an entry in place of an earlier one with its name. -/
def setEntry (name : String) (node : Node) : List (String × Node) → List (String × Node)
  | [] => [(name, node)]
  | entry :: rest =>
    if entry.1 = name then (name, node) :: rest else entry :: setEntry name node rest

/-- Puts a file at the end of a path of names, with the directories that lead there. -/
def Node.place (node : Node) (bytes : List Nat) : List String → Node
  | [] => .file bytes
  | name :: rest =>
    let entries := match node with
      | .directory entries => entries
      | .file _ => []
    let inner := (entries.lookup name).getD (.directory [])
    .directory (setEntry name (inner.place bytes rest) entries)

/-- The text of the file at a path. -/
def readText (reader : Reader) (path : String) : Except FileFault String :=
  match reader path with
  | .error fault => .error fault
  | .ok bytes =>
    match Text.decodeUtf8? bytes with
    | some text => .ok (String.ofList text)
    | none => .error .notText

end Files
end LinkFacts
