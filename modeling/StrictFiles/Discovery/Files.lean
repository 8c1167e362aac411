import StrictFiles.Discovery.Glob
import StrictFiles.Path.Order
import StrictFiles.Config.Load

/-!
Finding source files: the regular files below a directory whose names end in one of the extensions.
Links below the directory are neither followed nor files themselves.
-/

namespace StrictFiles

inductive DiscoverFailure
  | missingRoot
  /-- The line of a pattern, and what is wrong with it. -/
  | pattern (line : List Char) (fault : GlobFault)
  deriving DecidableEq

structure DiscoverError where
  root : Path
  failure : DiscoverFailure
  deriving DecidableEq

namespace DiscoverError

def message (error : DiscoverError) : String :=
  let root := error.root.quoted
  match error.failure with
  | .missingRoot => s!"source path {root} does not exist"
  | .pattern .. => s!"unable to build file patterns for {root}"

/-- What led to the error. -/
def sources (error : DiscoverError) : List String :=
  match error.failure with
  | .missingRoot => []
  | .pattern line fault =>
    let line := String.ofList line
    let fault := fault.message
    [s!"error parsing glob '{line}': {fault}"]

end DiscoverError

namespace Discovery

/-- The pattern line for an extension, which may come with points in front. -/
def patternLine (extension : String) : List Char :=
  Glob.trimmed ("**/*.".toList ++ extension.toList.dropWhile (· = '.'))

/-- The patterns for extensions, or the first fault in one. -/
def globs : List String → Except DiscoverFailure (List Glob)
  | [] => .ok []
  | extension :: rest =>
    match Glob.ofLine (patternLine extension) with
    | .error fault => .error (.pattern (patternLine extension) fault)
    | .ok glob => (globs rest).map (glob :: ·)

/-- Whether every directory on the way down from `root` to `place` is one, and not a link. -/
def isReachable (tree : FileTree) (root place : Location) : Bool :=
  (List.range (place.length - root.length)).all fun i =>
    tree.isDirectoryAt (place.take (root.length + i))

/-- The way from `root` down to a regular file, when `place` holds one. -/
def fileBelow? (tree : FileTree) (root place : Location) : Option (List Name) :=
  match tree.entry? place with
  | some (.file _) =>
    if root.isPrefixOf place && isReachable tree root place then some (place.drop root.length)
    else none
  | _ => none

/-- The ways down from a directory to all regular files below it. -/
def filesBelow (tree : FileTree) (root : Location) : List (List Name) :=
  tree.entries.filterMap fun known => fileBelow? tree root known.1

/-- The path text of a way down. -/
def wayText (way : List Name) : Bytes :=
  (Path.relative 0 way).toBytes

/-- The files below a directory that some pattern selects, in path order. -/
def selected (tree : FileTree) (root : Path) (place : Location) (globs : List Glob) : List Path :=
  let ways := (filesBelow tree place).filter fun way =>
    globs.any fun glob => glob.selectsFile (wayText way)
  Path.sort (distinct (ways.map fun way => way.foldl Path.child root))

end Discovery

/-- The source files below `root` with one of the extensions, in path order. -/
def discover (tree : FileTree) (root : Path) (extensions : List String) :
    Except DiscoverError (List Path) :=
  match tree.locate root with
  | .error _ => .error ⟨root, .missingRoot⟩
  | .ok place =>
    if !tree.isDirectoryAt place then .error ⟨root, .missingRoot⟩
    else match Discovery.globs extensions with
      | .error failure => .error ⟨root, failure⟩
      | .ok globs => .ok (Discovery.selected tree root place globs)

end StrictFiles
