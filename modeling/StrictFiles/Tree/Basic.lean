import StrictFiles.Path.Basic
import StrictFiles.Tree.Execution

/-!
A file tree as a value: entries at locations. A location is a place, not a way to it: the names from
the root down, none of them a link. The root itself is always a directory.
-/

namespace StrictFiles

abbrev Location := List Name

/-- A file with content. One that can be run says what running it does. -/
structure RegularFile where
  mode : Nat
  bytes : Bytes
  execution : Option Execution
  deriving DecidableEq

inductive Entry
  | directory (mode : Nat)
  | file (file : RegularFile)
  /-- A symbolic link, with the path text it holds. -/
  | link (target : Bytes)
  deriving DecidableEq

structure FileTree where
  entries : List (Location × Entry)
  deriving DecidableEq

namespace FileTree

def empty : FileTree := ⟨[]⟩

/-- What is at a location. -/
def entry? (tree : FileTree) (place : Location) : Option Entry :=
  if place = [] then some (.directory 0o755) else tree.entries.lookup place

def isDirectoryAt (tree : FileTree) (place : Location) : Bool :=
  match tree.entry? place with
  | some (.directory _) => true
  | _ => false

/-- Puts an entry at a location, in the place of the one that was there. -/
def put (tree : FileTree) (place : Location) (entry : Entry) : FileTree :=
  if tree.entries.any fun known => known.1 = place then
    ⟨tree.entries.map fun known => if known.1 = place then (place, entry) else known⟩
  else ⟨tree.entries ++ [(place, entry)]⟩

/-- Takes away the entry at a location. -/
def erase (tree : FileTree) (place : Location) : FileTree :=
  ⟨tree.entries.filter fun known => known.1 ≠ place⟩

/-- Takes away a location with everything below it. -/
def eraseBelow (tree : FileTree) (place : Location) : FileTree :=
  ⟨tree.entries.filter fun known => !place.isPrefixOf known.1⟩

/-- The names in a directory. -/
def namesIn (tree : FileTree) (place : Location) : List Name :=
  tree.entries.filterMap fun known =>
    match known.1.getLast? with
    | some name => if known.1.dropLast = place then some name else none
    | none => none

end FileTree

end StrictFiles
