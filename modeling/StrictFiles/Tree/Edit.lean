import StrictFiles.Tree.Lookup

/-!
Changes to a file tree. Files that are replaced keep their mode; `replaceContent` puts new content
behind a path without a moment at which only half of it is there.
-/

namespace StrictFiles

namespace FileTree

/-- A name of the form `start*end` that no entry of the directory has. A longer run of stars is
taken when the short name is in use: one longer than every name there. -/
def freshName? (tree : FileTree) (directory : Location) (start ending : String) : Option Name :=
  let spell (stars : Nat) : Option Name :=
    Name.ofBytes? (Utf8.ofString start ++ List.replicate stars 42 ++ Utf8.ofString ending)
  let taken := tree.namesIn directory
  match spell 1 with
  | some name =>
    if name ∈ taken then spell (taken.foldl (fun n known => max n known.bytes.length) 0 + 1)
    else some name
  | none => none

/-- A new file in a directory, only for its owner, and where it was put. -/
def createTemporary (tree : FileTree) (directory : Location) (start ending : String)
    (bytes : Bytes) : Except SystemError (FileTree × Location) :=
  if !tree.isDirectoryAt directory then .error .notADirectory
  else match tree.freshName? directory start ending with
    | some name =>
      let place := directory ++ [name]
      .ok (tree.put place (.file ⟨0o600, bytes, none⟩), place)
    | none => .error .notFound

def setMode (tree : FileTree) (place : Location) (mode : Nat) : FileTree :=
  match tree.entry? place with
  | some (.file file) => tree.put place (.file { file with mode })
  | some (.directory _) => if place = [] then tree else tree.put place (.directory mode)
  | _ => tree

/-- Moves a file over another one. A directory is not replaced. -/
def rename (tree : FileTree) (source target : Location) : Except SystemError FileTree :=
  match tree.entry? source, tree.isDirectoryAt target with
  | none, _ => .error .notFound
  | some _, true => .error .isADirectory
  | some entry, false => .ok ((tree.put target entry).erase source)

def modeOf : Entry → Nat
  | .directory mode => mode
  | .file file => file.mode
  | .link _ => 0o777

/-- Replaces the content behind a path in one step: the new content is written beside the file that
the path leads to through all links, gets its mode, and is then moved over it. When that fails the
file beside it is removed again. Answers the tree that is left and why the content was not replaced,
if it was not. -/
def replaceContent (tree : FileTree) (path : Path) (bytes : Bytes) :
    FileTree × Except SystemError Unit :=
  match tree.locate path with
  | .error cause => (tree, .error cause)
  | .ok target =>
    match tree.entry? target with
    | none => (tree, .error .notFound)
    | some entry =>
      match tree.createTemporary target.dropLast ".tmp" "" bytes with
      | .error cause => (tree, .error cause)
      | .ok (staged, temporary) =>
        let ready := staged.setMode temporary (modeOf entry)
        match ready.rename temporary target with
        | .ok replaced => (replaced, .ok ())
        | .error cause => (ready.erase temporary, .error cause)

/-- Where a name in a directory leads when a directory is wanted: one that is there, through links,
or a new one. -/
def enterOrMake (tree : FileTree) (place : Location) (name : Name) :
    Except SystemError (FileTree × Location) := do
  match ← tree.walk false greatestLinkCount place [.name name] with
  | .vacant .. => pure (tree.put (place ++ [name]) (.directory 0o755), place ++ [name])
  | .occupied _ =>
    match ← tree.walk true greatestLinkCount place [.name name] with
    | .vacant .. => throw .notFound
    | .occupied reached =>
      if tree.isDirectoryAt reached then pure (tree, reached) else throw .notADirectory

/-- Makes the directories that steps pass through, as far as they are missing. -/
def makeDirectoriesFrom (tree : FileTree) (place : Location) :
    List Step → FileTree × Except SystemError Unit
  | [] => (tree, .ok ())
  | .here :: rest => tree.makeDirectoriesFrom place rest
  | .up :: rest => tree.makeDirectoriesFrom place.dropLast rest
  | .name name :: rest =>
    match tree.enterOrMake place name with
    | .ok (tree, reached) => tree.makeDirectoriesFrom reached rest
    | .error cause => (tree, .error cause)

/-- Makes a directory with all those above it. What was made before a failure stays. -/
def makeDirectories (tree : FileTree) (text : Bytes) : FileTree × Except SystemError Unit :=
  if 0 ∈ text then (tree, .error .zeroInPath) else tree.makeDirectoriesFrom [] (steps text)

/-- A path text up to its last segment. -/
def parentText (text : Bytes) : Bytes :=
  let pieces := ((splitSlashes text).filter fun piece => piece ≠ [] ∧ piece ≠ [46]).dropLast
  if isRooted text then slash :: Path.joinSlashes pieces else Path.joinSlashes pieces

/-- Writes a file into a directory that is there. A file that is there keeps its mode. -/
def writeFile (tree : FileTree) (text : Bytes) (bytes : Bytes) (execution : Option Execution) :
    Except SystemError FileTree := do
  match ← tree.follow true [] text with
  | .vacant directory name =>
    pure (tree.put (directory ++ [name]) (.file ⟨0o644, bytes, execution⟩))
  | .occupied place =>
    match tree.entry? place with
    | some (.file file) => pure (tree.put place (.file ⟨file.mode, bytes, execution⟩))
    | _ => throw .isADirectory

/-- Makes a symbolic link in a directory that is there. -/
def makeLink (tree : FileTree) (text target : Bytes) : Except SystemError FileTree := do
  match ← tree.follow false [] text with
  | .vacant directory name => pure (tree.put (directory ++ [name]) (.link target))
  | .occupied _ => throw .alreadyExists

/-- Removes a file, a link, or a directory with everything below it; answers where it was. -/
def remove (tree : FileTree) (text : Bytes) : Except SystemError (FileTree × Location) := do
  match ← tree.follow false [] text with
  | .vacant .. => throw .notFound
  | .occupied place => pure (tree.eraseBelow place, place)

/-- Changes the mode of what a path text leads to. -/
def changeMode (tree : FileTree) (text : Bytes) (mode : Nat) : Except SystemError FileTree := do
  pure (tree.setMode (← tree.locateFrom [] text) mode)

end FileTree

end StrictFiles
