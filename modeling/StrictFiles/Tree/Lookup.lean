import StrictFiles.Tree.Basic
import StrictFiles.Tree.SystemError

/-!
From path texts to locations. A text is followed step by step, through links, from a location;
`..` leads to the directory above the one reached, wherever the text came from.
-/

namespace StrictFiles

/-- A step of a path text as the system takes it: `.` asks that a directory has been reached. -/
inductive Step
  | here
  | up
  | name (name : Name)
  deriving DecidableEq

def Step.ofBytes? (piece : Bytes) : Option Step :=
  if piece = [46] then some .here
  else if piece = [46, 46] then some .up
  else (Name.ofBytes? piece).map .name

/-- The steps of a path text. A slash at its end asks for a directory, as `.` does. -/
def steps (text : Bytes) : List Step :=
  (splitSlashes text).filterMap Step.ofBytes? ++
    (if text.getLast? = some slash then [.here] else [])

/-- Where a path text leads. -/
inductive Spot
  | occupied (place : Location)
  /-- The directory is there, an entry of that name is not. -/
  | vacant (directory : Location) (name : Name)
  deriving DecidableEq

/-- How many links one lookup passes through at most. -/
def greatestLinkCount : Nat := 40

/-- How many bytes a name has at most. -/
def greatestNameLength : Nat := 255

/-- How many bytes a path text has at most. -/
def greatestTextLength : Nat := 4095

namespace FileTree

/-- Takes steps from `place`, passing through at most `links` links. A link in the last place is
followed only on request. -/
def walk (tree : FileTree) (followLast : Bool) (links : Nat) (place : Location)
    (todo : List Step) : Except SystemError Spot :=
  match todo with
  | [] => .ok (.occupied place)
  | .here :: rest =>
    if tree.isDirectoryAt place then tree.walk followLast links place rest
    else .error .notADirectory
  | .up :: rest =>
    if tree.isDirectoryAt place then tree.walk followLast links place.dropLast rest
    else .error .notADirectory
  | .name name :: rest =>
    if !tree.isDirectoryAt place then .error .notADirectory
    else if greatestNameLength < name.bytes.length then .error .nameTooLong
    else match tree.entry? (place ++ [name]) with
      | none => if rest.isEmpty then .ok (.vacant place name) else .error .notFound
      | some (.link target) =>
        if rest.isEmpty && !followLast then .ok (.occupied (place ++ [name]))
        else match links with
          | 0 => .error .tooManyLinks
          | links + 1 =>
            tree.walk followLast links (if isRooted target then [] else place)
              (steps target ++ rest)
      | some _ => tree.walk followLast links (place ++ [name]) rest
  termination_by (links, todo.length)

/-- Follows a path text from `start`. -/
def follow (tree : FileTree) (followLast : Bool) (start : Location) (text : Bytes) :
    Except SystemError Spot :=
  if 0 ∈ text then .error .zeroInPath
  else if text = [] then .error .notFound
  else if greatestTextLength < text.length then .error .nameTooLong
  else tree.walk followLast greatestLinkCount (if isRooted text then [] else start) (steps text)

/-- The location a path text leads to, through all links. -/
def locateFrom (tree : FileTree) (start : Location) (text : Bytes) : Except SystemError Location := do
  match ← tree.follow true start text with
  | .occupied place => pure place
  | .vacant .. => throw .notFound

/-- The location a path leads to, through all links. A tree has no working directory: a path that is
not absolute is followed from the root. -/
def locate (tree : FileTree) (path : Path) : Except SystemError Location :=
  tree.locateFrom [] path.toBytes

/-- What a path leads to, through all links. -/
def status (tree : FileTree) (path : Path) : Except SystemError Entry := do
  match tree.entry? (← tree.locate path) with
  | some entry => pure entry
  | none => throw .notFound

def isDirectory (tree : FileTree) (path : Path) : Bool :=
  match tree.status path with
  | .ok (.directory _) => true
  | _ => false

def isFile (tree : FileTree) (path : Path) : Bool :=
  match tree.status path with
  | .ok (.file _) => true
  | _ => false

/-- The content of what has been opened. A directory opens, but does not read. -/
def contentOf : Entry → Except SystemError Bytes
  | .file file => .ok file.bytes
  | .directory _ => .error .isADirectory
  | .link _ => .error .tooManyLinks

/-- The text a file holds. -/
def textOf (entry : Entry) : Except SystemError (List Char) := do
  match Utf8.decode (← contentOf entry) with
  | .ok text => pure text
  | .error _ => throw .notText

/-- The text of the file a path leads to. -/
def readText (tree : FileTree) (path : Path) : Except SystemError (List Char) := do
  textOf (← tree.status path)

end FileTree

end StrictFiles
