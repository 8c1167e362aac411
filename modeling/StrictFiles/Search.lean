import StrictFiles.Tree.Lookup

/-!
Looking upward for a file: in a directory, then in each one above it.
-/

namespace StrictFiles

namespace FileTree

/-- The directories a search from `start` visits, nearest first. What is no directory itself is not
searched, only what is above it. -/
def searched (tree : FileTree) (start : Path) : List Path :=
  if tree.isDirectory start then start :: start.ancestors
  else start.parent :: start.parent.ancestors

/-- The nearest file that `target` names in a directory at or above `start`. -/
def findUpward? (tree : FileTree) (start : Path) (target : List Name) : Option Path :=
  ((tree.searched start).map fun directory => target.foldl Path.child directory).find? tree.isFile

end FileTree

end StrictFiles
