/-!
A tree of directories and text files.
-/
namespace EntityGraph

/-- The names that lead from the root to a file or directory. -/
abbrev FilePath := List String

/-- The place that a written path leads to: `..` goes one step back, `.` and empty steps lead nowhere. -/
def FilePath.ofText (text : String) : FilePath :=
  (text.splitOn "/").foldl (fun place step =>
    if step = ".." then place.dropLast else if step = "" ∨ step = "." then place else place ++ [step]) []

/-- Files with their contents, and the directories that were made. -/
structure FileTree where
  files : List (FilePath × String)
  directories : List FilePath

namespace FileTree

def empty : FileTree := ⟨[], []⟩

def isDirectory (tree : FileTree) (place : FilePath) : Bool := place.isEmpty || tree.directories.contains place

def isFile (tree : FileTree) (place : FilePath) : Bool := (List.lookup place tree.files).isSome

def present (tree : FileTree) (path : String) : Bool :=
  let place := FilePath.ofText path
  tree.isDirectory place || tree.isFile place

def read? (tree : FileTree) (path : String) : Option String := List.lookup (FilePath.ofText path) tree.files

/-- Makes a directory and those above it; a file may not be in the way. -/
def makeDirectory? (tree : FileTree) (place : FilePath) : Option FileTree :=
  (List.range place.length).foldlM (fun tree depth =>
    let here := place.take (depth + 1)
    if tree.isFile here then none
    else if tree.isDirectory here then some tree
    else some { tree with directories := tree.directories ++ [here] }) tree

/-- Writes a file, making the directories that lead to it; a directory may not be in its place. -/
def write? (tree : FileTree) (path text : String) : Option FileTree := do
  let place := FilePath.ofText path
  let tree ← tree.makeDirectory? place.dropLast
  if tree.isDirectory place then none
  else some { tree with files := (place, text) :: tree.files.filter (·.1 ≠ place) }

end FileTree

end EntityGraph
